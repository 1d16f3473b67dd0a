import LiveLog.Proofs.Effects
import LiveLog.Proofs.Flags
import LiveLog.Registry

namespace LiveLog

/-!
# The registry and its hub

A registry changes its three collections one at a time. `Registry.Represents` says that
they fit together as they do in the one list of a hub: the order is that of the
subscriptions, and what is found under an identifier, a state or a connection, belongs to
the subscription that the hub finds.

Every action of a registry, with all its steps, keeps this for the hub that does the same
at once. The steps between are described by `Registry.Holds`, which forgets the order and
speaks of what is found alone. While a synchronization goes through its list, a process
is found among those that were listed already or else among those that were kept.

What holds of the hub then holds of the collections: each connection and each place in
the order has its state, and the flags of every state agree with the connection that is,
or is not, registered for it.
-/

namespace Registry

section Maps

variable {α : Type} (m : AList fun _ : Uuid => α) (id : Uuid)

theorem lookup_insert (a : α) : (fun i => (m.insert id a).lookup i) =
    Function.update (fun i => m.lookup i) id (some a) := by
  funext i
  by_cases same : i = id
  · rw [same, Function.update_self, AList.lookup_insert]
  · rw [Function.update_of_ne same, AList.lookup_insert_ne same]

theorem lookup_erase : (fun i => (m.erase id).lookup i) =
    Function.update (fun i => m.lookup i) id none := by
  funext i
  by_cases same : i = id
  · rw [same, Function.update_self, AList.lookup_erase]
  · rw [Function.update_of_ne same, AList.lookup_erase_ne same]

end Maps

/-- Whether the states and the connections of a registry are those of the subscriptions that
are found. -/
structure Holds (r : Registry) (found : Uuid → Option Subscription) : Prop where
  states : (fun id => r.states.lookup id) = fun id => (found id).map Subscription.feed
  connections : (fun id => r.connections.lookup id) = fun id => (found id).bind Subscription.link

namespace Holds

variable {r next : Registry} {found : Uuid → Option Subscription} {id : Uuid}

theorem state (holds : r.Holds found) (id : Uuid) :
    r.states.lookup id = (found id).map Subscription.feed := congrFun holds.states id

theorem connection (holds : r.Holds found) (id : Uuid) :
    r.connections.lookup id = (found id).bind Subscription.link := congrFun holds.connections id

/-- A change under one identifier is a change of the subscription that is found there. -/
theorem change (holds : r.Holds found) {s : Option Subscription}
    (states : (fun i => next.states.lookup i) =
      Function.update (fun i => r.states.lookup i) id (s.map Subscription.feed))
    (connections : (fun i => next.connections.lookup i) =
      Function.update (fun i => r.connections.lookup i) id (s.bind Subscription.link)) :
    next.Holds (Function.update found id s) where
  states := by
    rw [states, holds.states]
    funext i
    exact (Function.apply_update (fun _ => Option.map Subscription.feed) found id s i).symm
  connections := by
    rw [connections, holds.connections]
    funext i
    exact (Function.apply_update (fun _ t => Option.bind t Subscription.link) found id s i).symm

theorem forget (holds : r.Holds found) (id : Uuid) :
    (r.forget id).Holds (Function.update found id none) :=
  holds.change (lookup_erase r.states id) (lookup_erase r.connections id)

/-- Opening a stream enters the subscription that a hub would open. -/
theorem openStream (holds : r.Holds found) {p : Execution} (absent : found p.id = none)
    (now : Int) : (r.openStream p now).Holds (Function.update found p.id
      (some (Hub.subscribe r.settings r.backend r.generation p now).1)) := by
  unfold Registry.openStream Hub.subscribe
  cases r.backend.resolve p with
  | ok endpoint =>
      exact holds.change (lookup_insert r.states p.id _) (lookup_insert r.connections p.id _)
  | error e =>
      refine holds.change (lookup_insert r.states p.id _) ?_
      have none : r.connections.lookup p.id = none := by
        rw [holds.connection, absent, Option.bind_none]
      exact (Function.update_eq_self_iff.mpr none.symm).symm

theorem record (holds : r.Holds found) {s t : Subscription} (present : found id = some s)
    (same : t.link = s.link) :
    (r.record id t.feed).Holds (Function.update found id (some t)) := by
  refine holds.change (lookup_insert r.states id _) ?_
  have linked : r.connections.lookup id = t.link := by
    rw [holds.connection, present, Option.bind_some, same]
  exact (Function.update_eq_self_iff.mpr linked.symm).symm

theorem enlist (holds : r.Holds found) (id : Uuid) : (r.enlist id).Holds found :=
  ⟨holds.states, holds.connections⟩

/-- Of several processes that are forgotten, none is found any more. -/
theorem forgetAll (holds : r.Holds found) (ids : List Uuid) :
    (ids.foldl Registry.forget r).Holds fun id => if id ∈ ids then none else found id := by
  induction ids generalizing r found with
  | nil => simpa only [List.foldl_nil, List.not_mem_nil, if_false] using holds
  | cons first rest inductionHypothesis =>
      have all := inductionHypothesis (holds.forget first)
      have same : (fun id => if id ∈ rest then none else Function.update found first none id) =
          fun id => if id ∈ first :: rest then none else found id := by
        funext id
        rcases eq_or_ne id first with rfl | other
        · simp
        · simp [other]
      rw [same] at all
      exact all

end Holds

section Opening

variable (r : Registry) (p : Execution) (now : Int)

theorem openStream_rest : (r.openStream p now).settings = r.settings ∧
    (r.openStream p now).backend = r.backend ∧ (r.openStream p now).order = r.order ∧
    (r.openStream p now).generation =
      (Hub.subscribe r.settings r.backend r.generation p now).2 := by
  unfold openStream Hub.subscribe
  cases r.backend.resolve p <;> exact ⟨rfl, rfl, rfl, rfl⟩

theorem forgetAll_rest (ids : List Uuid) : (ids.foldl forget r).settings = r.settings ∧
    (ids.foldl forget r).backend = r.backend ∧
    (ids.foldl forget r).generation = r.generation := by
  induction ids generalizing r with
  | nil => exact ⟨rfl, rfl, rfl⟩
  | cons id ids inductionHypothesis => exact inductionHypothesis (r.forget id)

end Opening

/-- Whether a registry stands for a hub: it lists the processes of the subscriptions in their
order, and holds the states and the connections of what the hub finds. -/
structure Represents (r : Registry) (h : Hub) : Prop where
  settings : r.settings = h.settings
  backend : r.backend = h.backend
  generation : r.generation = h.generation
  order : r.order = h.ids
  holds : r.Holds h.find?

/-! ## Synchronizing -/

/-- A registry in the middle of a synchronization: it has listed the processes of some
subscriptions, and still has what it kept of the others that are asked for. -/
structure Between (r : Registry) (h : Hub) (asked : List Uuid) (ss : List Subscription) :
    Prop where
  settings : r.settings = h.settings
  backend : r.backend = h.backend
  order : r.order = ss.map Subscription.id
  holds : r.Holds fun id => (Hub.findIn id ss).or (if id ∈ asked then h.find? id else none)

section Synchronizing

variable {r : Registry} {h : Hub} {asked : List Uuid} {ss : List Subscription} {p : Execution}

/-- A subscription that is put behind others is found under its identifier, and nothing else
is found anew. -/
theorem findIn_concat_or {t : Subscription} (new : t.id ∉ ss.map Subscription.id)
    (others : Uuid → Option Subscription) :
    (fun id => (Hub.findIn id (ss ++ [t])).or (others id)) =
      Function.update (fun id => (Hub.findIn id ss).or (others id)) t.id (some t) := by
  funext id
  have last : Hub.findIn id (ss ++ [t]) = (Hub.findIn id ss).or (Hub.findIn id [t]) :=
    List.find?_append
  rw [last, Function.update_apply]
  by_cases same : id = t.id
  · rw [if_pos same, same, Hub.findIn_eq_none_iff.mpr new, Hub.findIn_cons_of_eq rfl]
    rfl
  · rw [if_neg same, Hub.findIn_cons_of_ne (Ne.symm same)]
    cases Hub.findIn id ss <;> rfl

theorem follow_of_listed (now : Int) (listed : p.id ∈ r.order) : r.follow now p = r := if_pos listed

theorem follow_of_some (now : Int) (new : p.id ∉ r.order) {f : Feed}
    (kept : r.states.lookup p.id = some f) :
    r.follow now p = (r.enlist p.id).record p.id { f with process := p } := by
  unfold follow
  rw [if_neg new, show (r.enlist p.id).states = r.states from rfl, kept]

theorem follow_of_none (now : Int) (new : p.id ∉ r.order) (absent : r.states.lookup p.id = none) :
    r.follow now p = (r.enlist p.id).openStream p now := by
  unfold follow
  rw [if_neg new, show (r.enlist p.id).states = r.states from rfl, absent]

/-- Following one more process is what a hub does for it. -/
theorem Between.follow (between : r.Between h asked ss) (wanted : p.id ∈ asked)
    (new : p.id ∉ ss.map Subscription.id) (now : Int) :
    (r.follow now p).Between h asked (ss ++ [(h.keepOrSubscribe r.generation p now).1]) ∧
      (r.follow now p).generation = (h.keepOrSubscribe r.generation p now).2 := by
  have found : (Hub.findIn p.id ss).or (if p.id ∈ asked then h.find? p.id else none) =
      h.find? p.id := by
    rw [Hub.findIn_eq_none_iff.mpr new, if_pos wanted, Option.none_or]
  have unlisted : p.id ∉ r.order := between.order ▸ new
  have order : r.order ++ [p.id] = ss.map Subscription.id ++ [p.id] :=
    congrArg (· ++ [p.id]) between.order
  have state : r.states.lookup p.id = (h.find? p.id).map Subscription.feed :=
    (between.holds.state p.id).trans (congrArg (Option.map Subscription.feed) found)
  have enlisted := between.holds.enlist p.id
  have owner := h.id_keepOrSubscribe r.generation p now
  cases kept : h.find? p.id with
  | some s =>
      rw [kept] at state
      rw [Hub.keepOrSubscribe_of_some kept, follow_of_some now unlisted state]
      refine ⟨⟨between.settings, between.backend, ?_, ?_⟩, rfl⟩
      · rw [List.map_append]
        exact order
      · rw [findIn_concat_or new]
        exact enlisted.record (t := s.described p) (found.trans kept) rfl
  | none =>
      rw [kept] at state
      rw [Hub.keepOrSubscribe_of_none kept, ← between.settings, ← between.backend] at owner ⊢
      rw [follow_of_none now unlisted state]
      rcases (r.enlist p.id).openStream_rest p now with ⟨settings, backend, listed, generation⟩
      refine ⟨⟨settings.trans between.settings, backend.trans between.backend, ?_, ?_⟩, generation⟩
      · rw [listed, List.map_append, List.map_singleton, owner]
        exact order
      · rw [findIn_concat_or (owner.symm ▸ new), owner]
        exact enlisted.openStream (found.trans kept) now

/-- The processes of a list whose identifiers are not among some others, each of them
once. -/
def unlisted (ids : List Uuid) (ps : List Execution) : List Execution :=
  (Hub.distinct ps).filter fun p => p.id ∉ ids

theorem unlisted_cons_of_mem {ids : List Uuid} (listed : p.id ∈ ids) (ps : List Execution) :
    unlisted ids (p :: ps) = unlisted ids ps := by
  unfold unlisted
  rw [Hub.distinct, List.filter_cons_of_neg (by simpa using listed), List.filter_filter]
  apply List.filter_congr
  intro q _member
  rw [Bool.and_eq_left_iff_imp, decide_eq_true_eq, decide_eq_true_eq]
  rintro new same
  exact new (same ▸ listed)

theorem unlisted_cons_of_not_mem {ids : List Uuid} (new : p.id ∉ ids) (ps : List Execution) :
    unlisted ids (p :: ps) = p :: unlisted (ids ++ [p.id]) ps := by
  unfold unlisted
  rw [Hub.distinct, List.filter_cons_of_pos (by simpa using new), List.filter_filter]
  congr 1
  apply List.filter_congr
  intro q _member
  simp

/-- Following a list of processes is what a hub does for those that are not listed yet. -/
theorem Between.followAll (between : r.Between h asked ss) {ps : List Execution}
    (wanted : ∀ p ∈ ps, p.id ∈ asked) (now : Int) :
    (ps.foldl (Registry.follow now) r).Between h asked
        (ss ++ (h.subscribeAll now r.generation (unlisted (ss.map Subscription.id) ps)).1) ∧
      (ps.foldl (Registry.follow now) r).generation =
        (h.subscribeAll now r.generation (unlisted (ss.map Subscription.id) ps)).2 := by
  induction ps generalizing r ss with
  | nil =>
      refine ⟨?_, rfl⟩
      rw [unlisted, Hub.distinct, List.filter_nil, Hub.subscribeAll, List.append_nil]
      exact between
  | cons p ps inductionHypothesis =>
      rcases List.forall_mem_cons.mp wanted with ⟨first, later⟩
      rw [List.foldl_cons]
      by_cases listed : p.id ∈ ss.map Subscription.id
      · rw [unlisted_cons_of_mem listed, follow_of_listed now (between.order ▸ listed)]
        exact inductionHypothesis between later
      · rcases between.follow first listed now with ⟨next, generation⟩
        have all := inductionHypothesis next later
        rw [generation, List.map_append, List.map_singleton, h.id_keepOrSubscribe,
          List.append_assoc] at all
        rw [unlisted_cons_of_not_mem listed, Hub.subscribeAll_cons]
        exact all

end Synchronizing

namespace Represents

variable {r : Registry} {h : Hub}

theorem empty (settings : Settings) (backend : Backend) :
    (Registry.empty settings backend).Represents (Hub.empty settings backend) :=
  ⟨rfl, rfl, rfl, rfl, ⟨funext fun _ => AList.lookup_empty _, funext fun _ => AList.lookup_empty _⟩⟩

theorem teardown (represents : r.Represents h) : r.teardown.Represents h.teardown :=
  ⟨represents.settings, represents.backend, represents.generation, rfl,
    ⟨funext fun _ => AList.lookup_empty _, funext fun _ => AList.lookup_empty _⟩⟩

theorem mem_states_iff (represents : r.Represents h) (id : Uuid) :
    id ∈ r.states ↔ (h.find? id).isSome := by
  rw [← AList.lookup_isSome, represents.holds.state, Option.isSome_map]

/-- A registry that has forgotten who left is about to list the others. -/
theorem between (represents : r.Represents h) (ps : List Execution) :
    Between { (r.departed ps).foldl forget r with order := [] } h (ps.map Execution.id) [] := by
  rcases r.forgetAll_rest (r.departed ps) with ⟨settings, backend, _generation⟩
  refine ⟨settings.trans represents.settings, backend.trans represents.backend, rfl, ?_⟩
  have kept : (fun id => if id ∈ r.departed ps then none else h.find? id) =
      fun id => (Hub.findIn id []).or (if id ∈ ps.map Execution.id then h.find? id else none) := by
    funext id
    have unknown : id ∉ r.states → h.find? id = none := by
      rw [represents.mem_states_iff, Option.not_isSome_iff_eq_none]
      exact fun absent => absent
    have departed : id ∈ r.departed ps ↔ id ∈ r.states ∧ id ∉ ps.map Execution.id := by
      rw [Registry.departed, List.mem_filter, decide_eq_true_eq, AList.mem_keys]
    change _ = if id ∈ ps.map Execution.id then h.find? id else none
    by_cases wanted : id ∈ ps.map Execution.id
    · rw [if_neg (fun gone => (departed.mp gone).2 wanted), if_pos wanted]
    · rw [if_neg wanted, ite_eq_left_iff]
      intro stays
      exact unknown fun known => stays (departed.mpr ⟨known, wanted⟩)
  have holds := represents.holds.forgetAll (r.departed ps)
  rw [kept] at holds
  exact ⟨holds.states, holds.connections⟩

theorem sync (represents : r.Represents h) (ps : List Execution) (now : Int) :
    (r.sync ps true now).Represents (h.sync ps now) := by
  have wanted : ∀ p ∈ ps, p.id ∈ ps.map Execution.id := fun p listed => List.mem_map_of_mem listed
  have everyone : unlisted [] ps = Hub.distinct ps := List.filter_eq_self.mpr fun _p _listed => rfl
  have counter : ((r.departed ps).foldl forget r).generation = h.generation :=
    (r.forgetAll_rest _).2.2.trans represents.generation
  have both := (represents.between ps).followAll wanted now
  rw [List.map_nil, everyone, counter, List.nil_append] at both
  rcases both with ⟨after, generation⟩
  refine ⟨after.settings, after.backend, generation, after.order, ?_⟩
  -- Whoever was asked for is listed by now, so that nothing is found among the others.
  have found : (fun id => ((h.sync ps now).find? id).or
      (if id ∈ ps.map Execution.id then h.find? id else none)) = (h.sync ps now).find? := by
    funext id
    cases listed : (h.sync ps now).find? id with
    | some s => rfl
    | none =>
        have left : id ∉ ps.map Execution.id := by
          intro asked
          rcases List.mem_map.mp asked with ⟨p, member, rfl⟩
          rcases h.find?_sync_of_mem member now with ⟨t, present⟩
          rw [listed] at present
          cases present
        rw [if_neg left, Option.or_none]
  exact found ▸ after.holds

/-- Both collections are rid of the process before its stream is opened. -/
theorem resubscribe_of_some {id : Uuid} {f : Feed} (kept : r.states.lookup id = some f)
    (now : Int) : r.resubscribe id now = ((r.forget id).openStream f.process now, true) := by
  unfold Registry.resubscribe
  rw [kept]
  rfl

/-- A resubscription answers and acts as that of the hub. -/
theorem resubscribe (represents : r.Represents h) (id : Uuid) (now : Int) :
    (r.resubscribe id now).2 = (h.find? id).isSome ∧
      (r.resubscribe id now).1.Represents (h.resubscribe id now) := by
  have state := represents.holds.state id
  cases found : h.find? id with
  | none =>
      rw [found] at state
      rw [Hub.resubscribe_of_none found, Registry.resubscribe, state]
      exact ⟨rfl, represents⟩
  | some s =>
      have owner : s.feed.process.id = id := (Hub.mem_of_findIn found).2
      have absent : Function.update h.find? id none s.feed.process.id = none := by
        rw [owner, Function.update_self]
      have opened := (represents.holds.forget id).openStream absent now
      rcases (r.forget id).openStream_rest s.feed.process now with
        ⟨settings, backend, order, generation⟩
      have kept : (r.forget id).settings = h.settings ∧ (r.forget id).backend = h.backend ∧
          (r.forget id).generation = h.generation :=
        ⟨represents.settings, represents.backend, represents.generation⟩
      rw [kept.1, kept.2.1, kept.2.2, owner, Function.update_idem] at opened
      rw [kept.1, kept.2.1, kept.2.2] at generation
      have same : Function.update h.find? id
          (some (Hub.subscribe h.settings h.backend h.generation s.feed.process now).1) =
          (h.resubscribe id now).find? := by
        funext other
        by_cases here : other = id
        · rw [here, Function.update_self, Hub.find?_resubscribe_self found]
        · rw [Function.update_of_ne here, Hub.find?_resubscribe_of_ne here]
      have ids : (h.resubscribe id now).ids = h.ids := by
        rw [Hub.resubscribe_of_some found]
        exact Hub.map_id_replace ((Hub.id_subscribe _ _ _ _ _).trans owner) _
      rw [found] at state
      rw [same] at opened
      rw [resubscribe_of_some state]
      refine ⟨rfl, ⟨?_, ?_, ?_, ?_, opened⟩⟩
      · rw [settings, kept.1, Hub.resubscribe_of_some found]
      · rw [backend, kept.2.1, Hub.resubscribe_of_some found]
      · rw [generation, Hub.resubscribe_of_some found]
      · rw [order, ids]
        exact represents.order

/-- An event is applied if and only if the hub hears it. -/
theorem live (represents : r.Represents h) (sound : h.Sound) (e : Event) :
    ((r.connections.lookup e.process).any fun link => link.generation = e.generation) =
      h.hears e := by
  rw [Bool.eq_iff_iff, Hub.hears_eq_true_iff sound, represents.holds.connection]
  cases found : h.find? e.process with
  | none => simp
  | some s =>
      have owner := (Hub.mem_of_findIn found).2
      simp [Subscription.accepts_eq_true_iff, owner, Subscription.generation?,
        Option.any_eq_true]

/-- What an event that is heard makes of the subscriptions that are found. -/
theorem find?_handle_of_hears {e : Event} {s : Subscription} (found : h.find? e.process = some s)
    (now : Int) : Function.update h.find? e.process (some (s.receive e now)) =
      (h.handle e now).1.find? := by
  funext id
  rw [Hub.find?_handle]
  by_cases here : id = e.process
  · rw [here, Function.update_self, found, Option.map_some]
  · rw [Function.update_of_ne here]
    cases other : h.find? id with
    | none => rfl
    | some t =>
        have named := (Hub.mem_of_findIn other).2
        rw [Option.map_some, Subscription.receive_of_ne now (named ▸ here)]

/-- The state is changed first. The connection is taken out if the signal is final. -/
theorem handle_of_heard (represents : r.Represents h) (sound : h.Sound) {e : Event}
    (heard : h.hears e = true) {s : Subscription} (found : h.find? e.process = some s)
    {now : Int} {g : Feed} {change : Change}
    (taken : s.feed.take e.signal now = some (g, change)) :
    r.handle e now = (if e.signal.isFinal then (r.record e.process g).disconnect e.process
      else r.record e.process g, some ⟨e.process, change⟩) := by
  rw [Registry.handle, represents.live sound, heard, if_pos rfl, represents.holds.state, found,
    Option.map_some]
  simp only [taken]

theorem handle_of_ignored (represents : r.Represents h) {e : Event} {s : Subscription}
    (found : h.find? e.process = some s) {now : Int} (taken : s.feed.take e.signal now = none) :
    r.handle e now = (r, none) := by
  unfold Registry.handle
  split
  · rw [represents.holds.state, found, Option.map_some]
    simp only [taken]
  · rfl

/-- An event is answered and applied as by the hub. -/
theorem handle (represents : r.Represents h) (sound : h.Sound) (e : Event) (now : Int) :
    (r.handle e now).2 = (h.handle e now).2 ∧
      (r.handle e now).1.Represents (h.handle e now).1 := by
  cases heard : h.hears e with
  | false =>
      have deaf : r.handle e now = (r, none) := by
        rw [Registry.handle, represents.live sound, heard, if_neg Bool.false_ne_true]
      rw [deaf, Hub.handle_of_not_heard heard]
      exact ⟨rfl, represents⟩
  | true =>
      rcases (Hub.hears_eq_true_iff sound).mp heard with ⟨s, found, accepted⟩
      have report : (h.handle e now).2 = (s.take e.signal now).2.map (Update.mk e.process) := by
        rw [Hub.handle_eq sound, found, Option.bind_some, Subscription.report, if_pos accepted]
      cases taken : s.feed.take e.signal now with
      | none =>
          have quiet : (h.handle e now).2 = none := by
            rw [report, Subscription.take, taken]
            rfl
          rw [represents.handle_of_ignored found taken, quiet,
            Hub.handle_of_not_reported sound quiet]
          exact ⟨rfl, represents⟩
      | some result =>
          rcases result with ⟨g, change⟩
          have after : s.receive e now = ⟨g, if e.signal.isFinal then none else s.link⟩ := by
            rw [Subscription.receive, if_pos accepted, Subscription.take, taken,
              ← Feed.isFinal_take taken]
          have holds := find?_handle_of_hears found now
          rw [after] at holds
          rw [represents.handle_of_heard sound heard found taken, report, Subscription.take, taken]
          have ids : (h.handle e now).1.ids = h.ids := Hub.map_id_deliver e now h.subscriptions
          refine ⟨rfl, ?_⟩
          cases final : e.signal.isFinal with
          | true =>
              rw [final, if_pos rfl] at holds
              rw [if_pos rfl]
              refine ⟨represents.settings, represents.backend, represents.generation,
                represents.order.trans ids.symm, holds ▸ ?_⟩
              exact represents.holds.change (lookup_insert r.states e.process g)
                (lookup_erase r.connections e.process)
          | false =>
              rw [final, if_neg Bool.false_ne_true] at holds
              rw [if_neg Bool.false_ne_true]
              exact ⟨represents.settings, represents.backend, represents.generation,
                represents.order.trans ids.symm,
                holds ▸ represents.holds.record (t := ⟨g, s.link⟩) found rfl⟩

end Represents

/-! ## Whole runs -/

/-- What a hub does for an action of its registry. Following no process because that is not
enabled is tearing everything down. -/
def Action.plain : Action → Hub.Action
  | sync ps enabled now => if enabled then .sync ps now else .teardown
  | resubscribe id now => .resubscribe id now
  | teardown => .teardown
  | handle e now => .handle e now

namespace Represents

variable {r : Registry} {h : Hub}

theorem perform (represents : r.Represents h) (sound : h.Sound) (action : Action) :
    (r.perform action).Represents (h.perform action.plain) := by
  cases action with
  | sync ps enabled now =>
      cases enabled with
      | true => exact represents.sync ps now
      | false => exact represents.teardown
  | resubscribe id now => exact (represents.resubscribe id now).2
  | teardown => exact represents.teardown
  | handle e now => exact (represents.handle sound e now).2

theorem run (represents : r.Represents h) (sound : h.Sound) (actions : List Action) :
    (r.run actions).Represents (h.run (actions.map Action.plain)) := by
  induction actions generalizing r h with
  | nil => exact represents
  | cons action rest inductionHypothesis =>
      exact inductionHypothesis (represents.perform sound action)
        (Hub.Remembers.sound_perform sound action.plain)

/-! ## What is shown -/

/-- The states come in the order of the subscriptions. -/
theorem feeds (represents : r.Represents h) (sound : h.Sound) :
    r.feeds = h.subscriptions.map Subscription.feed := by
  unfold Registry.feeds
  rw [represents.order, Hub.ids, List.filterMap_map, ← List.filterMap_eq_map]
  apply List.filterMap_congr
  intro s listed
  rw [Function.comp_apply, represents.holds.state, sound.find?_of_mem listed]
  rfl

theorem isConnected (represents : r.Represents h) (sound : h.Sound) :
    r.isConnected = h.isConnected := by
  rw [Registry.isConnected, represents.feeds sound, List.any_map]
  rfl

theorem error? (represents : r.Represents h) (sound : h.Sound) : r.error? = h.error? := by
  rw [Registry.error?, represents.feeds sound, List.findSome?_map]
  rfl

theorem sources (represents : r.Represents h) (sound : h.Sound) : r.sources = h.sources := by
  rw [Registry.sources, represents.feeds sound, List.map_map]
  rfl

theorem mem_connections_iff (represents : r.Represents h) (id : Uuid) :
    id ∈ r.connections ↔ ∃ s, h.find? id = some s ∧ s.link.isSome := by
  rw [← AList.lookup_isSome, represents.holds.connection]
  cases h.find? id <;> simp

theorem hasConnections (represents : r.Represents h) (sound : h.Sound) :
    r.hasConnections = h.hasLinks := by
  rw [Registry.hasConnections, Hub.hasLinks, Bool.eq_iff_iff, Bool.not_eq_true',
    Bool.not_eq_true', List.isEmpty_eq_false_iff_exists_mem, List.isEmpty_eq_false_iff_exists_mem]
  constructor
  · rintro ⟨id, registered⟩
    rcases (represents.mem_connections_iff id).mp registered with ⟨s, found, linked⟩
    rcases Option.isSome_iff_exists.mp linked with ⟨link, same⟩
    exact ⟨link, List.mem_filterMap.mpr ⟨s, (Hub.mem_of_findIn found).1, same⟩⟩
  · rintro ⟨link, listed⟩
    rcases List.mem_filterMap.mp listed with ⟨s, member, linked⟩
    exact ⟨s.id, (represents.mem_connections_iff s.id).mpr
      ⟨s, sound.find?_of_mem member, Option.isSome_iff_exists.mpr ⟨link, linked⟩⟩⟩

end Represents

/-! ## The invariant -/

/-- How the order, the states and the connections of a registry fit together, and how the
flags of the states fit the connections. -/
structure Consistent (r : Registry) : Prop where
  nodup : r.order.Nodup
  listed : ∀ id, id ∈ r.order ↔ id ∈ r.states
  keyed : ∀ id f, r.states.lookup id = some f → f.process.id = id
  owned : ∀ id, id ∈ r.connections → id ∈ r.states
  distinct : ∀ i j k l, r.connections.lookup i = some k → r.connections.lookup j = some l →
    k.generation = l.generation → i = j
  bounded : ∀ id link, r.connections.lookup id = some link → link.generation ≤ r.generation
  connected : ∀ id f, r.states.lookup id = some f → f.isConnected = true →
    id ∈ r.connections ∧ f.isFinished = false
  finished : ∀ id f, r.states.lookup id = some f → f.isFinished = true → id ∉ r.connections
  closed : ∀ id f, r.states.lookup id = some f → id ∉ r.connections →
    f.isFinished = true ∨ f.error.isSome

namespace Represents

variable {r : Registry} {h : Hub} {id : Uuid}

/-- A state belongs to a subscription, and there is a connection if it has a link. -/
theorem exists_of_state (represents : r.Represents h) {f : Feed}
    (state : r.states.lookup id = some f) :
    ∃ s, h.find? id = some s ∧ s.feed = f ∧ (id ∈ r.connections ↔ s.link.isSome) := by
  rw [represents.holds.state] at state
  rcases Option.map_eq_some_iff.mp state with ⟨s, found, same⟩
  refine ⟨s, found, same, ?_⟩
  rw [represents.mem_connections_iff, found]
  simp

theorem exists_of_connection (represents : r.Represents h) {link : Link}
    (registered : r.connections.lookup id = some link) :
    ∃ s ∈ h.subscriptions, s.id = id ∧ s.link = some link := by
  rw [represents.holds.connection] at registered
  rcases Option.bind_eq_some_iff.mp registered with ⟨s, found, linked⟩
  exact ⟨s, (Hub.mem_of_findIn found).1, (Hub.mem_of_findIn found).2, linked⟩

/-- The collections that represent a hub fit together. -/
theorem consistent (represents : r.Represents h) {past : List Link}
    (remembers : h.Remembers past) (explained : ∀ s ∈ h.subscriptions, s.Explained) :
    r.Consistent where
  nodup := represents.order ▸ remembers.sound.nodup
  listed := by
    intro id
    rw [represents.order, represents.mem_states_iff, Hub.mem_ids_iff]
  keyed := by
    intro id f state
    rcases represents.exists_of_state state with ⟨s, found, rfl, -⟩
    exact (Hub.mem_of_findIn found).2
  owned := by
    intro id registered
    rcases (represents.mem_connections_iff id).mp registered with ⟨s, found, -⟩
    rw [represents.mem_states_iff, found]
    rfl
  distinct := by
    intro i j k l first second same
    rcases represents.exists_of_connection first with ⟨s, sListed, rfl, sLinked⟩
    rcases represents.exists_of_connection second with ⟨t, tListed, rfl, tLinked⟩
    have equal : k = l := remembers.eq_of_generation (remembers.registered s sListed k sLinked)
      (remembers.registered t tListed l tLinked) same
    rw [← remembers.sound.owned s sListed k sLinked, equal]
    exact remembers.sound.owned t tListed l tLinked
  bounded := by
    intro id link registered
    rcases represents.exists_of_connection registered with ⟨s, listed, -, linked⟩
    rw [represents.generation]
    exact remembers.sound.bounded s listed link linked
  connected := by
    intro id f state connected
    rcases represents.exists_of_state state with ⟨s, found, rfl, registered⟩
    have flags := (explained s (Hub.mem_of_findIn found).1).connected connected
    exact ⟨registered.mpr flags.1, flags.2⟩
  finished := by
    intro id f state past
    rcases represents.exists_of_state state with ⟨s, found, rfl, registered⟩
    rw [registered, (explained s (Hub.mem_of_findIn found).1).finished past]
    exact Bool.false_ne_true
  closed := by
    intro id f state gone
    rcases represents.exists_of_state state with ⟨s, found, rfl, registered⟩
    rw [registered, Option.not_isSome_iff_eq_none] at gone
    exact (explained s (Hub.mem_of_findIn found).1).closed gone

end Represents

/-- Whatever was synchronized, resubscribed and torn down, and whatever events were handed
over, the three collections of a registry fit together, and they are those of the hub that
did the same. -/
theorem consistent_run (settings : Settings) (backend : Backend) (actions : List Action) :
    ((empty settings backend).run actions).Consistent ∧
      ((empty settings backend).run actions).Represents
        ((Hub.empty settings backend).run (actions.map Action.plain)) := by
  have represents := (Represents.empty settings backend).run (Hub.Sound.empty settings backend)
    actions
  exact ⟨represents.consistent ((Hub.Remembers.empty settings backend).run _)
    (Hub.explained_run settings backend _), represents⟩

/-- Whatever has happened, a registry shows what the hub shows that did the same, and it
answers the next event and the next resubscription as that hub does. -/
theorem shown_run (settings : Settings) (backend : Backend) (actions : List Action) :
    let r := (empty settings backend).run actions
    let h := (Hub.empty settings backend).run (actions.map Action.plain)
    r.isConnected = h.isConnected ∧ r.error? = h.error? ∧ r.sources = h.sources ∧
      r.hasConnections = h.hasLinks ∧
      (∀ e now, (r.handle e now).2 = (h.handle e now).2) ∧
      ∀ id now, (r.resubscribe id now).2 = (h.find? id).isSome := by
  intro r h
  have represents : r.Represents h :=
    (Represents.empty settings backend).run (Hub.Sound.empty settings backend) actions
  have sound : h.Sound := ((Hub.Remembers.empty settings backend).run _).sound
  exact ⟨represents.isConnected sound, represents.error? sound, represents.sources sound,
    represents.hasConnections sound, fun e now => (represents.handle sound e now).1,
    fun id now => (represents.resubscribe id now).1⟩

end Registry

end LiveLog
