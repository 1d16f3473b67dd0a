import LiveLog.Backend
import LiveLog.Feed

namespace LiveLog

/-!
# The hub

A hub follows a set of processes. Each has a subscription: its feed, and its
link while a connection is open. Every connection that the hub opens has a
generation of its own, and a signal counts only when it comes from the link
that is registered now. What a closed connection still had to say is ignored.

A process that stays in the set keeps its feed, finished or not, and a
connection is opened for it again only on demand. A process that leaves the set
is forgotten.
-/

/-- An open connection, as the hub knows it. -/
structure Link where
  generation : Nat
  endpoint : Endpoint
deriving DecidableEq

/-- A process that is followed. -/
structure Subscription where
  feed : Feed
  link : Option Link
deriving DecidableEq

/-- A signal of one connection. -/
structure Event where
  process : Uuid
  generation : Nat
  signal : Signal
deriving DecidableEq

/-- A change of one feed. -/
structure Update where
  process : Uuid
  change : Change
deriving DecidableEq

/-- A hub: the processes that are followed, in order. -/
structure Hub where
  settings : Settings
  backend : Backend
  subscriptions : List Subscription
  /-- The generation of the connection opened last. -/
  generation : Nat
deriving DecidableEq

namespace Subscription

/-- The process that is followed. -/
def id (s : Subscription) : Uuid := s.feed.process.id

/-- The generation of the registered link. -/
def generation? (s : Subscription) : Option Nat := s.link.map Link.generation

/-- Whether an event comes from the registered link. -/
def accepts (s : Subscription) (e : Event) : Bool :=
  decide (s.id = e.process ∧ s.generation? = some e.generation)

/-- Take a signal of the registered link. A final change closes the link. -/
def take (s : Subscription) (signal : Signal) (now : Int) : Subscription × Option Change :=
  match s.feed.take signal now with
  | none => (s, none)
  | some (feed, change) => (⟨feed, if change.isFinal then none else s.link⟩, some change)

end Subscription

namespace Hub

/-- A hub that follows nothing. -/
def empty (settings : Settings) (backend : Backend) : Hub := ⟨settings, backend, [], 0⟩

/-- The subscription of a process. -/
def find? (h : Hub) (id : Uuid) : Option Subscription := h.subscriptions.find? fun s => s.id = id

/-- The identifiers of the processes that are followed. -/
def ids (h : Hub) : List Uuid := h.subscriptions.map Subscription.id

/-- The links that are registered. -/
def links (h : Hub) : List Link := h.subscriptions.filterMap Subscription.link

/-- Whether a subscription still has its connection. -/
def hasLinks (h : Hub) : Bool := !h.links.isEmpty

/-- Whether some feed is connected. -/
def isConnected (h : Hub) : Bool := h.subscriptions.any fun s => s.feed.isConnected

/-- The error of the first feed that has one. -/
def error? (h : Hub) : Option String := h.subscriptions.findSome? fun s => s.feed.error

/-- What the merged log is made of, one source for each subscription. -/
def sources (h : Hub) : List Source := h.subscriptions.map fun s => s.feed.source

/-- A new subscription, with the next generation if the process is served
anywhere. -/
def subscribe (settings : Settings) (backend : Backend) (generation : Nat) (p : Execution)
    (now : Int) : Subscription × Nat :=
  let feed := Feed.fresh settings p now
  match backend.resolve p with
  | .ok endpoint => (⟨feed, some ⟨generation + 1, endpoint⟩⟩, generation + 1)
  | .error e => (⟨{ feed with error := some (Signal.failure (Backend.refusal e)) }, none⟩,
      generation)

/-- The subscription of a process: the present one, or a new one. -/
def keepOrSubscribe (h : Hub) (generation : Nat) (p : Execution) (now : Int) :
    Subscription × Nat :=
  match h.find? p.id with
  | some s => ({ s with feed := { s.feed with process := p } }, generation)
  | none => subscribe h.settings h.backend generation p now

/-- The subscriptions of some processes, opened in order. -/
def subscribeAll (h : Hub) (now : Int) (generation : Nat) :
    List Execution → List Subscription × Nat
  | [] => ([], generation)
  | p :: ps =>
    let (s, generation') := h.keepOrSubscribe generation p now
    let (rest, generation'') := h.subscribeAll now generation' ps
    (s :: rest, generation'')

/-- The first of the processes with each identifier. -/
def distinct : List Execution → List Execution
  | [] => []
  | p :: ps => p :: (distinct ps).filter fun q => q.id ≠ p.id

/-- Let all subscriptions go. -/
def teardown (h : Hub) : Hub := { h with subscriptions := [] }

/-- Follow exactly these processes, in this order. -/
def sync (h : Hub) (ps : List Execution) (now : Int) : Hub :=
  let (subscriptions, generation) := h.subscribeAll now h.generation (distinct ps)
  { h with subscriptions := subscriptions, generation := generation }

/-- Forget what is known of a process and connect again. Nothing happens if it
is not followed. -/
def resubscribe (h : Hub) (id : Uuid) (now : Int) : Hub :=
  match h.find? id with
  | none => h
  | some s =>
    let (fresh, generation) := subscribe h.settings h.backend h.generation s.feed.process now
    { h with
      subscriptions := h.subscriptions.map fun t => if t.id = id then fresh else t
      generation := generation }

/-- Hand an event to the subscription that accepts it. -/
def deliver (e : Event) (now : Int) : List Subscription → List Subscription × Option Change
  | [] => ([], none)
  | s :: rest =>
    if s.accepts e then
      let (s', change) := s.take e.signal now
      (s' :: rest, change)
    else
      let (rest', change) := deliver e now rest
      (s :: rest', change)

/-- Apply an event. -/
def handle (h : Hub) (e : Event) (now : Int) : Hub × Option Update :=
  let (subscriptions, change) := deliver e now h.subscriptions
  ({ h with subscriptions := subscriptions }, change.map (Update.mk e.process))

/-- Apply events, each at its time, and report the changes. -/
def handleAll (h : Hub) : List (Event × Int) → Hub × List Update
  | [] => (h, [])
  | (e, now) :: rest =>
    let (h', update) := h.handle e now
    let (h'', updates) := h'.handleAll rest
    (h'', update.toList ++ updates)

/-- Apply all queued events now. -/
def drain (h : Hub) (queue : List Event) (now : Int) : Hub × List Update :=
  h.handleAll (queue.map fun e => (e, now))

/-- What waiting for the next change comes to. -/
inductive Awaited
  | update (u : Update)
  /-- Nothing is queued, but a connection is open. -/
  | pending
  /-- Nothing is queued, and nothing more can come. -/
  | over
deriving DecidableEq

/-- Apply queued events up to the first change. -/
def next (h : Hub) (now : Int) : List Event → Hub × List Event × Awaited
  | [] => (h, [], if h.hasLinks then .pending else .over)
  | e :: queue =>
    match h.handle e now with
    | (h', some u) => (h', queue, .update u)
    | (h', none) => h'.next now queue

/-- An event that no subscription accepts changes nothing. -/
theorem deliver_of_not_accepted {e : Event} {now : Int} {ss : List Subscription}
    (h : ∀ s ∈ ss, s.accepts e = false) : deliver e now ss = (ss, none) := by
  induction ss with
  | nil => rfl
  | cons s rest ih =>
    have hs := h s (by simp)
    have hr := ih fun t ht => h t (by simp [ht])
    simp [deliver, hs, hr]

/-- Applying an event opens no connection. -/
theorem generation_handle (h : Hub) (e : Event) (now : Int) :
    (h.handle e now).1.generation = h.generation := rfl

/-- An event leaves the set of processes and its order alone. -/
theorem map_id_deliver (e : Event) (now : Int) (ss : List Subscription) :
    (deliver e now ss).1.map Subscription.id = ss.map Subscription.id := by
  induction ss with
  | nil => rfl
  | cons s rest ih =>
    unfold deliver
    split
    · have hs : (s.take e.signal now).1.id = s.id := by
        unfold Subscription.take Subscription.id
        split
        · rfl
        · rename_i feed change h
          exact congrArg Execution.id (Feed.process_take h)
      simp [hs]
    · simp [ih]

/-- The processes that are followed have distinct identifiers. -/
theorem nodup_ids_distinct (ps : List Execution) : ((distinct ps).map Execution.id).Nodup := by
  induction ps with
  | nil => simp [distinct]
  | cons p ps ih =>
    simp only [distinct, List.map_cons, List.nodup_cons]
    constructor
    · simp only [List.mem_map, List.mem_filter, not_exists, not_and]
      rintro q ⟨_, hq⟩
      simpa using hq
    · exact (List.filter_sublist.map Execution.id).nodup ih

end Hub

end LiveLog
