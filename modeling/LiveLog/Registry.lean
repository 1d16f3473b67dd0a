import LiveLog.Hub
import Mathlib.Data.List.AList

namespace LiveLog

/-!
# The registry

What is kept of the processes, in three collections: the open connections, the states,
and the order in which the processes were listed. They are changed one at a time. A
process that leaves the set is taken out of the connections and then out of the states.
Opening a stream enters the connection and then the state. A synchronization clears the
order and fills it again while it goes through its list. In between the collections do
not fit together.

A hub keeps all three in one list, and so it is in one step where a registry is after
several. Both start empty and take the same actions.
-/

/-- The connections, the states and the order of the processes that are followed. -/
structure Registry where
  settings : Settings
  backend : Backend
  connections : AList fun _ : Uuid => Link
  states : AList fun _ : Uuid => Feed
  order : List Uuid
  /-- The generation of the connection opened last. -/
  generation : Nat

namespace Registry

/-- A registry of no processes. -/
def empty (settings : Settings) (backend : Backend) : Registry := ⟨settings, backend, ∅, ∅, [], 0⟩

/-! ## Changes of one collection -/

/-- Enter a new connection, with the next generation. -/
def connect (r : Registry) (id : Uuid) (endpoint : Endpoint) : Registry :=
  { r with
    connections := r.connections.insert id ⟨r.generation + 1, endpoint⟩
    generation := r.generation + 1 }

/-- Take out a connection. -/
def disconnect (r : Registry) (id : Uuid) : Registry :=
  { r with connections := r.connections.erase id }

/-- Enter a state. -/
def record (r : Registry) (id : Uuid) (f : Feed) : Registry :=
  { r with states := r.states.insert id f }

/-- Take out a state. -/
def discard (r : Registry) (id : Uuid) : Registry := { r with states := r.states.erase id }

/-- Put an identifier at the end of the order. -/
def enlist (r : Registry) (id : Uuid) : Registry := { r with order := r.order ++ [id] }

/-! ## Operations -/

/-- Open a stream: a connection, if the process is served anywhere, and then the state. -/
def openStream (r : Registry) (p : Execution) (now : Int) : Registry :=
  let feed := Feed.fresh r.settings p now
  match r.backend.resolve p with
  | .ok endpoint => (r.connect p.id endpoint).record p.id feed
  | .error e =>
    r.record p.id { feed with error := some (Signal.failure (Backend.refusal e)) }

/-- Close a stream and forget its process. -/
def forget (r : Registry) (id : Uuid) : Registry := (r.disconnect id).discard id

/-- Follow one process of a list, unless its identifier was listed before. -/
def follow (now : Int) (r : Registry) (p : Execution) : Registry :=
  if p.id ∈ r.order then r
  else match (r.enlist p.id).states.lookup p.id with
    | some f => (r.enlist p.id).record p.id { f with process := p }
    | none => (r.enlist p.id).openStream p now

/-- The processes with a state that a list leaves out. -/
def departed (r : Registry) (ps : List Execution) : List Uuid :=
  r.states.keys.filter fun id => id ∉ ps.map Execution.id

/-- Empty the three collections. -/
def teardown (r : Registry) : Registry := { r with connections := ∅, states := ∅, order := [] }

/-- Follow exactly these processes, in this order, or nothing if that is not enabled. -/
def sync (r : Registry) (ps : List Execution) (enabled : Bool) (now : Int) : Registry :=
  if enabled then
    let remaining := (r.departed ps).foldl forget r
    ps.foldl (follow now) { remaining with order := [] }
  else r.teardown

/-- Forget what is known of a process and connect again; tell whether it is followed. -/
def resubscribe (r : Registry) (id : Uuid) (now : Int) : Registry × Bool :=
  match r.states.lookup id with
  | none => (r, false)
  | some f => (((r.discard id).disconnect id).openStream f.process now, true)

/-- Apply an event, if it comes from the connection that is registered now. -/
def handle (r : Registry) (e : Event) (now : Int) : Registry × Option Update :=
  if (r.connections.lookup e.process).any fun link => link.generation = e.generation then
    match r.states.lookup e.process with
    | none => (r, none)
    | some f => match f.take e.signal now with
      | none => (r, none)
      | some (g, change) =>
        let told := r.record e.process g
        (if e.signal.isFinal then told.disconnect e.process else told, some ⟨e.process, change⟩)
  else (r, none)

/-! ## What is shown -/

/-- The states, in the order of the processes. -/
def feeds (r : Registry) : List Feed := r.order.filterMap fun id => r.states.lookup id

/-- Whether a connection is registered. -/
def hasConnections (r : Registry) : Bool := !r.connections.keys.isEmpty

/-- Whether some process is connected. -/
def isConnected (r : Registry) : Bool := r.feeds.any Feed.isConnected

/-- The error of the first process that has one. -/
def error? (r : Registry) : Option String := r.feeds.findSome? Feed.error

/-- What the merged log is made of, one source for each process in the order. -/
def sources (r : Registry) : List Source := r.feeds.map Feed.source

/-- What can happen to a registry. -/
inductive Action
  | sync (ps : List Execution) (enabled : Bool) (now : Int)
  | resubscribe (id : Uuid) (now : Int)
  | teardown
  | handle (e : Event) (now : Int)

/-- The registry after an action. -/
def perform (r : Registry) : Action → Registry
  | .sync ps enabled now => r.sync ps enabled now
  | .resubscribe id now => (r.resubscribe id now).1
  | .teardown => r.teardown
  | .handle e now => (r.handle e now).1

/-- The registry after some actions. -/
def run (r : Registry) (actions : List Action) : Registry := actions.foldl perform r

end Registry

end LiveLog
