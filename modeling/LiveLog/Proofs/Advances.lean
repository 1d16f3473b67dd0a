import LiveLog.Proofs.Journal

namespace LiveLog

/-!
# What a step means for one process

The steps of a pipeline are sorted by what they mean for a process that they do
not open. A step keeps the connection and is silent, or adds one report of it at
the end of the queue, or takes events off its front. Everything that is proved
about one process over a whole run is proved once for each of these sorts.
-/

namespace Hub

/-- The change that waiting came to, if there was one. -/
def Awaited.updates : Awaited → List Update
  | .update u => [u]
  | .pending | .over => []

/-- Waiting for a change takes some events off the front of the queue, and does
what handing them over one by one does. -/
theorem next_eq (h : Hub) (now : Int) (queue : List Event) :
    ∃ eaten, queue = eaten ++ (h.next now queue).2.1 ∧
      h.handleAll (eaten.map fun e => (e, now)) =
        ((h.next now queue).1, (h.next now queue).2.2.updates) := by
  induction queue generalizing h with
  | nil =>
      refine ⟨[], rfl, ?_⟩
      unfold next
      cases h.hasLinks <;> rfl
  | cons e queue inductionHypothesis =>
      unfold next
      cases handled : h.handle e now with
      | mk after update =>
          cases update with
          | some u =>
              refine ⟨[e], rfl, ?_⟩
              rw [List.map_singleton, handleAll_cons, handled]
              rfl
          | none =>
              rcases inductionHypothesis after with ⟨eaten, parts, same⟩
              refine ⟨e :: eaten, congrArg (List.cons e) parts, ?_⟩
              rw [List.map_cons, handleAll_cons, handled, same]
              rfl

end Hub

namespace Pipeline

/-- What a step that does not open a process means for it, if the process is
followed before and after the step. -/
inductive Advances (id : Uuid) (p : Pipeline) (step : Step) (s t : Subscription) : Prop
  /-- Nothing is reported, and at most the description changes. -/
  | keeps (description : Execution) (same : t = s.described description) (events : List Event)
      (queue : (p.perform step).1.queue = p.queue ++ events)
      (others : ∀ e ∈ events, e.process ≠ id)
      (fed : ∀ generation, (p.perform step).1.transport.fed.lookup id = some generation →
        p.transport.fed.lookup id = some generation)
      (delivered : p.delivered id step = []) (closed : p.closed id step = none)
  /-- The connection reports a frame, or that it is closed. -/
  | reports (same : t = s) (generation : Nat) (signal : Signal)
      (queue : (p.perform step).1.queue = p.queue ++ [⟨id, generation, signal⟩])
      (registered : s.generation? = some generation)
      (open_before : p.transport.fed.lookup id = some generation)
      (taken_down : (p.delivered id step).map Signal.frame ++ (p.closed id step).toList = [signal])
      (plain : signal ≠ .opened)
      (fed : ∀ other, (p.perform step).1.transport.fed.lookup id = some other →
        p.closed id step = none)
  /-- Some events are handed over. -/
  | hears (eaten : List Event) (queue : p.queue = eaten ++ (p.perform step).1.queue)
      (hub : (p.perform step).1.hub = (p.hub.handleAll (eaten.map fun e => (e, p.clock))).1)
      (transport : (p.perform step).1.transport = p.transport)
      (delivered : p.delivered id step = []) (closed : p.closed id step = none)

section Emit

variable {p : Pipeline} {id : Uuid}

theorem open?_eq_some {t : Loopback} {h : Hub} {generation : Nat}
    (opened : t.open? h id = some generation) :
    t.fed.lookup id = some generation ∧
      ∃ s, h.find? id = some s ∧ s.generation? = some generation := by
  simp only [Loopback.open?, Option.bind_eq_bind, Option.bind_eq_some_iff] at opened
  rcases opened with ⟨fed, fedEq, s, found, checked⟩
  split at checked
  · cases checked
    exact ⟨fedEq, s, found, by assumption⟩
  · cases checked

theorem emit_of_open {generation : Nat} (opened : p.transport.open? p.hub id = some generation)
    (signal : Signal) :
    p.emit id signal = ({ p with queue := p.queue ++ [⟨id, generation, signal⟩] }, true) := by
  unfold emit
  rw [opened]

theorem emit_of_not_open (shut : p.transport.open? p.hub id = none) (signal : Signal) :
    p.emit id signal = (p, false) := by
  unfold emit
  rw [shut]

theorem isOpen_of_open {generation : Nat}
    (opened : p.transport.open? p.hub id = some generation) : p.isOpen id = true := by
  unfold isOpen
  rw [opened]
  rfl

theorem isOpen_of_not_open (shut : p.transport.open? p.hub id = none) : p.isOpen id = false := by
  unfold isOpen
  rw [shut]
  rfl

/-- Whatever a producer does adds at most one event, of its own process. -/
theorem emit_queue (p : Pipeline) (id : Uuid) (signal : Signal) :
    ∃ events, p.emit id signal = ({ p with queue := p.queue ++ events }, p.isOpen id) ∧
      ∀ e ∈ events, e.process = id := by
  cases opened : p.transport.open? p.hub id with
  | none =>
      rw [emit_of_not_open opened, isOpen_of_not_open opened]
      refine ⟨[], ?_, fun e listed => absurd listed List.not_mem_nil⟩
      rw [List.append_nil]
  | some generation =>
      rw [emit_of_open opened, isOpen_of_open opened]
      refine ⟨[⟨id, generation, signal⟩], rfl, ?_⟩
      intro e listed
      rw [List.mem_singleton.mp listed]

theorem emit_hub (p : Pipeline) (id : Uuid) (signal : Signal) :
    (p.emit id signal).1.hub = p.hub := by
  rcases p.emit_queue id signal with ⟨events, emitted, _owners⟩
  rw [emitted]

theorem emit_transport (p : Pipeline) (id : Uuid) (signal : Signal) :
    (p.emit id signal).1.transport = p.transport := by
  rcases p.emit_queue id signal with ⟨events, emitted, _owners⟩
  rw [emitted]

end Emit

section Advances

variable {p : Pipeline} {id : Uuid} {t : Subscription}

theorem perform_next (p : Pipeline) : (p.perform .next).1 = p.next.1 := by
  unfold perform
  cases next : p.next with
  | mk q awaited => cases awaited <;> rfl

/-- Events that are handed over add no process. -/
theorem hears_of_handleAll {step : Step} (eaten : List Event)
    (after : (p.perform step).1.hub.find? id = some t)
    (queue : p.queue = eaten ++ (p.perform step).1.queue)
    (hub : (p.perform step).1.hub = (p.hub.handleAll (eaten.map fun e => (e, p.clock))).1)
    (transport : (p.perform step).1.transport = p.transport)
    (delivered : p.delivered id step = []) (closed : p.closed id step = none) :
    ∃ s, p.hub.find? id = some s ∧ Advances id p step s t := by
  cases before : p.hub.find? id with
  | some s => exact ⟨s, rfl, .hears eaten queue hub transport delivered closed⟩
  | none =>
      have absent := Hub.findIn_eq_none_iff.mp before
      have present := Hub.mem_of_findIn after
      change id ∉ p.hub.ids at absent
      rw [← p.hub.ids_handleAll (eaten.map fun e => (e, p.clock)), ← hub] at absent
      exact absurd (List.mem_map.mpr ⟨t, present⟩) absent

/-- A step of another process's producer. -/
theorem keeps_of_emit {step : Step} {other : Uuid} {signal : Signal} (different : other ≠ id)
    (after : (p.perform step).1.hub.find? id = some t)
    (hub : (p.perform step).1.hub = p.hub)
    (queue : (p.perform step).1.queue = (p.emit other signal).1.queue)
    (fed : (p.perform step).1.transport.fed.lookup id = p.transport.fed.lookup id)
    (delivered : p.delivered id step = []) (closed : p.closed id step = none) :
    ∃ s, p.hub.find? id = some s ∧ Advances id p step s t := by
  rcases p.emit_queue other signal with ⟨events, emitted, owners⟩
  rw [emitted] at queue
  refine ⟨t, hub ▸ after, .keeps t.feed.process rfl events queue ?_ ?_ delivered closed⟩
  · intro e listed
    rw [owners e listed]
    exact different
  · intro generation now_fed
    exact fed ▸ now_fed

theorem Orderly.le_of_described (orderly : p.Orderly) {s : Subscription} {h : Hub}
    {description : Execution} (before : p.hub.find? id = some s)
    (after : h.find? id = some (s.described description)) :
    ∀ link, h.link? id = some link → link.generation ≤ p.hub.generation := by
  intro link registered
  rw [Hub.link?, after, Option.bind_some] at registered
  exact orderly.sound.bounded s (Hub.mem_of_findIn before).1 link registered

/-- A hub in which a process has no new link. -/
theorem keeps_of_adopt {step : Step} {s : Subscription} {h : Hub} (orderly : p.Orderly)
    (sound : h.Sound) (performed : (p.perform step).1 = p.adopt h)
    (before : p.hub.find? id = some s) (description : Execution)
    (after : h.find? id = some (s.described description))
    (delivered : p.delivered id step = []) (closed : p.closed id step = none) :
    Advances id p step s (s.described description) := by
  rcases adopt_others sound (orderly.le_of_described before after) with ⟨fed, events, queue, others⟩
  refine .keeps description rfl events (performed ▸ queue) others ?_ delivered closed
  intro generation now_fed
  rw [performed, fed] at now_fed
  exact now_fed

/-- A step of the process's own producer, while its connection is not open. -/
theorem keeps_of_shut {step : Step} (after : (p.perform step).1.hub.find? id = some t)
    (hub : (p.perform step).1.hub = p.hub) (queue : (p.perform step).1.queue = p.queue)
    (fed : ∀ generation, (p.perform step).1.transport.fed.lookup id = some generation →
      p.transport.fed.lookup id = some generation)
    (delivered : p.delivered id step = []) (closed : p.closed id step = none) :
    ∃ s, p.hub.find? id = some s ∧ Advances id p step s t := by
  refine ⟨t, hub ▸ after, .keeps t.feed.process rfl [] ?_ ?_ fed delivered closed⟩
  · rw [queue, List.append_nil]
  · intro e listed
    cases listed

/-- A step of the process's own producer, while its connection is open. -/
theorem reports_of_open {step : Step} {generation : Nat} {signal : Signal}
    (opened : p.transport.open? p.hub id = some generation)
    (after : (p.perform step).1.hub.find? id = some t)
    (hub : (p.perform step).1.hub = p.hub)
    (queue : (p.perform step).1.queue = (p.emit id signal).1.queue)
    (taken_down : (p.delivered id step).map Signal.frame ++ (p.closed id step).toList = [signal])
    (plain : signal ≠ .opened)
    (fed : ∀ other, (p.perform step).1.transport.fed.lookup id = some other →
      p.closed id step = none) :
    ∃ s, p.hub.find? id = some s ∧ Advances id p step s t := by
  rcases open?_eq_some opened with ⟨fedBefore, s, found, registered⟩
  rw [hub] at after
  have same : s = t := Option.some.inj (found.symm.trans after)
  subst same
  rw [emit_of_open opened] at queue
  exact ⟨s, found, .reports rfl generation signal queue registered fedBefore taken_down plain fed⟩

theorem release_lookup (transport : Loopback) (id : Uuid) (generation : Nat) :
    (transport.release id).fed.lookup id ≠ some generation := by
  intro fed
  unfold Loopback.release at fed
  rw [Assoc.lookup_erase_self] at fed
  cases fed

theorem advances_send {other : Uuid} {frame : Frame}
    (after : (p.perform (.send other frame)).1.hub.find? id = some t) :
    ∃ s, p.hub.find? id = some s ∧ Advances id p (.send other frame) s t := by
  have performed : (p.perform (.send other frame)).1 = (p.emit other (.frame frame)).1 := rfl
  have hub : (p.perform (.send other frame)).1.hub = p.hub := p.emit_hub other _
  have transport : (p.perform (.send other frame)).1.transport = p.transport :=
    p.emit_transport other _
  by_cases same : other = id
  · subst same
    cases opened : p.transport.open? p.hub other with
    | none =>
        refine keeps_of_shut after hub ?_ ?_ ?_ rfl
        · rw [performed, emit_of_not_open opened]
        · exact fun generation fed => transport ▸ fed
        · simp only [delivered, send, emit_of_not_open opened, Bool.false_eq_true, and_false,
            if_false]
    | some generation =>
        refine reports_of_open opened after hub rfl ?_ (by intro equal; cases equal) ?_
        · simp only [delivered, send, emit_of_open opened, and_self, if_true, closed,
            List.map_cons, List.map_nil, Option.toList_none, List.append_nil]
        · exact fun other _fed => rfl
  · refine keeps_of_emit same after hub rfl ?_ ?_ rfl
    · rw [transport]
    · simp only [delivered, same, false_and, if_false]

/-- What breaking and ending a connection have in common: one report, and the
producer feeds the connection no longer. -/
theorem advances_of_release {step : Step} {other : Uuid} {signal : Signal}
    (after : (p.perform step).1.hub.find? id = some t)
    (hub : (p.perform step).1.hub = p.hub)
    (queue : (p.perform step).1.queue = (p.emit other signal).1.queue)
    (transport : (p.perform step).1.transport = p.transport.release other)
    (delivered : p.delivered id step = [])
    (closed : p.closed id step = if other = id ∧ p.isOpen id = true then some signal else none)
    (plain : signal ≠ .opened) :
    ∃ s, p.hub.find? id = some s ∧ Advances id p step s t := by
  by_cases same : other = id
  · subst same
    cases opened : p.transport.open? p.hub other with
    | none =>
        rw [isOpen_of_not_open opened] at closed
        rw [emit_of_not_open opened] at queue
        refine keeps_of_shut after hub queue ?_ delivered ?_
        · intro generation fed
          rw [transport] at fed
          exact absurd fed (release_lookup _ _ _)
        · rw [closed, if_neg fun both => Bool.false_ne_true both.2]
    | some generation =>
        rw [isOpen_of_open opened, if_pos ⟨rfl, rfl⟩] at closed
        refine reports_of_open opened after hub queue ?_ plain ?_
        · rw [delivered, closed]
          rfl
        · intro generation fed
          rw [transport] at fed
          exact absurd fed (release_lookup _ _ _)
  · refine keeps_of_emit same after hub queue ?_ delivered ?_
    · rw [transport]
      exact Assoc.lookup_erase_of_ne (fun equal => same equal.symm) _
    · rw [closed, if_neg fun both => same both.1]

/-- Every step that does not open a process does one of three things to it. -/
theorem advances (orderly : p.Orderly) {step : Step} (continues : p.opens id step = false)
    (after : (p.perform step).1.hub.find? id = some t) :
    ∃ s, p.hub.find? id = some s ∧ Advances id p step s t := by
  cases step with
  | setClock now => exact keeps_of_shut after rfl rfl (fun generation fed => fed) rfl rfl
  | refuseNext other message =>
      exact keeps_of_shut after rfl rfl (fun generation fed => fed) rfl rfl
  | teardown => cases after
  | send other frame => exact advances_send after
  | fail other message =>
      refine advances_of_release after (p.emit_hub other _) rfl ?_ rfl rfl ?_
      · exact congrArg (Loopback.release · other) (p.emit_transport other _)
      · intro equal
        cases equal
  | close other =>
      refine advances_of_release after (p.emit_hub other _) rfl ?_ rfl rfl ?_
      · exact congrArg (Loopback.release · other) (p.emit_transport other _)
      · intro equal
        cases equal
  | next =>
      rcases p.hub.next_eq p.clock p.queue with ⟨eaten, parts, same⟩
      refine hears_of_handleAll eaten after ?_ ?_ ?_ rfl rfl
      · rw [perform_next]
        exact parts
      · rw [perform_next]
        exact (congrArg Prod.fst same).symm
      · rw [perform_next]
        rfl
  | drain =>
      exact hears_of_handleAll p.queue after (List.append_nil p.queue).symm rfl rfl rfl rfl
  | sync ps =>
      cases before : p.hub.find? id with
      | none =>
          rcases Hub.find?_sync_listed after with ⟨q, listed, named⟩
          simp only [opens, before, Option.isNone_none, Bool.true_and, List.any_eq_false,
            decide_eq_true_eq] at continues
          exact absurd named (continues q listed)
      | some s =>
          rcases Hub.find?_sync_of_some before after with ⟨q, _owner, same⟩
          subst same
          exact ⟨s, rfl, keeps_of_adopt orderly (orderly.sound.sync ps p.clock) rfl before q after
            rfl rfl⟩
  | resubscribe other =>
      by_cases same : other = id
      · subst same
        simp only [opens, decide_true, Bool.true_and, Option.isSome_eq_false_iff,
          Option.isNone_iff_eq_none] at continues
        change (p.hub.resubscribe other p.clock).find? other = some t at after
        rw [Hub.resubscribe_of_none continues, continues] at after
        cases after
      · change (p.hub.resubscribe other p.clock).find? id = some t at after
        have before := after
        rw [Hub.find?_resubscribe_of_ne fun equal => same equal.symm] at before
        exact ⟨t, before, keeps_of_adopt orderly (orderly.sound.resubscribe other p.clock) rfl
          before t.feed.process after rfl rfl⟩

/-- A step that opens a process goes on with a hub in which the process has a
new subscription, made at a value of the counter that is not behind the present
one. -/
theorem opens_subscribes (orderly : p.Orderly) {step : Step} (opening : p.opens id step = true)
    (after : (p.perform step).1.hub.find? id = some t) :
    ∃ h q generation, (p.perform step).1 = p.adopt h ∧ h.Sound ∧ h.find? id = some t ∧
      p.hub.generation ≤ generation ∧
      t = (Hub.subscribe p.hub.settings p.hub.backend generation q p.clock).1 := by
  cases step with
  | sync ps =>
      simp only [opens, Bool.and_eq_true, Option.isNone_iff_eq_none] at opening
      rcases Hub.find?_sync_of_none opening.1 after with
        ⟨q, generation, _owner, bound, same, _upper⟩
      exact ⟨p.hub.sync ps p.clock, q, generation, rfl, orderly.sound.sync ps p.clock, after,
        bound, same⟩
  | resubscribe other =>
      simp only [opens, Bool.and_eq_true, decide_eq_true_eq, Option.isSome_iff_exists] at opening
      rcases opening with ⟨same, s, before⟩
      subst same
      have found : (p.hub.resubscribe other p.clock).find? other = some t := after
      have fresh := found
      rw [Hub.find?_resubscribe_self before] at fresh
      exact ⟨p.hub.resubscribe other p.clock, s.feed.process, p.hub.generation, rfl,
        orderly.sound.resubscribe other p.clock, found, Nat.le_refl _, (Option.some.inj fresh).symm⟩
  | setClock now => cases opening
  | refuseNext other message => cases opening
  | teardown => cases opening
  | send other frame => cases opening
  | fail other message => cases opening
  | close other => cases opening
  | next => cases opening
  | drain => cases opening

/-- What is queued of a new connection is its greeting, and its producer feeds it
unless it was refused. -/
theorem opens_greets (orderly : p.Orderly) {step : Step} (opening : p.opens id step = true)
    (after : (p.perform step).1.hub.find? id = some t) {link : Link} (linked : t.link = some link) :
    p.hub.generation < link.generation ∧
      (p.perform step).1.transport.fed.lookup id =
        (if (p.transport.refusals.lookup id).isNone then some link.generation
          else p.transport.fed.lookup id) ∧
      Event.reportsOf id (some link.generation) (p.perform step).1.queue =
        [p.transport.greeting id] := by
  rcases opens_subscribes orderly opening after with
    ⟨h, q, generation, performed, sound, found, bound, same⟩
  have registered : h.link? id = some link := by
    rw [Hub.link?, found, Option.bind_some, linked]
  rw [same] at linked
  have number := (Hub.subscribe_link linked).2.1
  have new : p.hub.generation < link.generation := number ▸ Nat.lt_succ_of_le bound
  rcases adopt_one sound registered new with ⟨fed, events, queue, reported⟩
  have nothing : Event.reportsOf id (some link.generation) p.queue = [] := by
    apply Event.reportsOf_eq_nil
    rintro e listed ⟨_owner, equal⟩
    have old := orderly.queued e listed
    have current := Option.some.inj equal
    omega
  refine ⟨new, performed ▸ fed, ?_⟩
  rw [performed, queue, Event.reportsOf_append, nothing, reported, List.nil_append]

end Advances

/-! ## What every step keeps -/

theorem settings_perform (p : Pipeline) (step : Step) :
    (p.perform step).1.hub.settings = p.hub.settings ∧
      (p.perform step).1.hub.backend = p.hub.backend := by
  cases step with
  | setClock now => exact ⟨rfl, rfl⟩
  | refuseNext id message => exact ⟨rfl, rfl⟩
  | teardown => exact ⟨rfl, rfl⟩
  | sync ps => exact ⟨rfl, rfl⟩
  | send id frame =>
      exact ⟨congrArg Hub.settings (p.emit_hub id _), congrArg Hub.backend (p.emit_hub id _)⟩
  | fail id message =>
      exact ⟨congrArg Hub.settings (p.emit_hub id _), congrArg Hub.backend (p.emit_hub id _)⟩
  | close id =>
      exact ⟨congrArg Hub.settings (p.emit_hub id _), congrArg Hub.backend (p.emit_hub id _)⟩
  | drain => exact p.hub.settings_handleAll _
  | next =>
      rcases p.hub.next_eq p.clock p.queue with ⟨eaten, _parts, same⟩
      rw [perform_next]
      change (p.hub.next p.clock p.queue).1.settings = _ ∧ (p.hub.next p.clock p.queue).1.backend = _
      rw [← congrArg Prod.fst same]
      exact p.hub.settings_handleAll _
  | resubscribe id =>
      change (p.hub.resubscribe id p.clock).settings = _ ∧ (p.hub.resubscribe id p.clock).backend = _
      cases found : p.hub.find? id with
      | none => rw [Hub.resubscribe_of_none found]; exact ⟨rfl, rfl⟩
      | some s => rw [Hub.resubscribe_of_some found]; exact ⟨rfl, rfl⟩

namespace Orderly

variable {p : Pipeline}

theorem of_emit (orderly : p.Orderly) (id : Uuid) (signal : Signal) :
    (p.emit id signal).1.Orderly := by
  cases opened : p.transport.open? p.hub id with
  | none =>
      rw [emit_of_not_open opened]
      exact orderly
  | some generation =>
      rcases open?_eq_some opened with ⟨fed, _found⟩
      rw [emit_of_open opened]
      refine ⟨orderly.sound, ?_, orderly.fed⟩
      intro e listed
      rcases List.mem_append.mp listed with old | new
      · exact orderly.queued e old
      · rw [List.mem_singleton.mp new]
        exact orderly.fed id generation fed

theorem of_release (orderly : p.Orderly) (id : Uuid) :
    Orderly { p with transport := p.transport.release id } := by
  refine ⟨orderly.sound, orderly.queued, ?_⟩
  intro other generation fed
  by_cases same : other = id
  · subst same
    exact absurd fed (release_lookup _ _ _)
  · refine orderly.fed other generation ?_
    unfold Loopback.release at fed
    rwa [Assoc.lookup_erase_of_ne same] at fed

theorem of_handleAll (orderly : p.Orderly) {eaten queue : List Event}
    (parts : p.queue = eaten ++ queue) :
    Orderly { p with
      hub := (p.hub.handleAll (eaten.map fun e => (e, p.clock))).1, queue := queue } := by
  refine ⟨orderly.sound.handleAll _, ?_, ?_⟩
  · intro e listed
    rw [Hub.generation_handleAll]
    exact orderly.queued e (parts ▸ List.mem_append_right eaten listed)
  · intro id generation fed
    rw [Hub.generation_handleAll]
    exact orderly.fed id generation fed

theorem perform (orderly : p.Orderly) (step : Step) : (p.perform step).1.Orderly := by
  cases step with
  | setClock now => exact ⟨orderly.sound, orderly.queued, orderly.fed⟩
  | refuseNext id message => exact ⟨orderly.sound, orderly.queued, orderly.fed⟩
  | teardown => exact ⟨Hub.Sound.teardown p.hub, orderly.queued, orderly.fed⟩
  | sync ps => exact orderly.adopt (orderly.sound.sync ps p.clock) (p.hub.le_generation_sync ps _)
  | resubscribe id =>
      exact orderly.adopt (orderly.sound.resubscribe id p.clock)
        (p.hub.le_generation_resubscribe id _)
  | send id frame => exact orderly.of_emit id _
  | fail id message => exact (orderly.of_emit id _).of_release id
  | close id => exact (orderly.of_emit id _).of_release id
  | next =>
      rcases p.hub.next_eq p.clock p.queue with ⟨eaten, parts, same⟩
      have handled := orderly.of_handleAll parts
      rw [same] at handled
      rw [perform_next]
      exact handled
  | drain => exact orderly.of_handleAll (List.append_nil p.queue).symm

theorem run (orderly : p.Orderly) (steps : List Step) : (p.run steps).Orderly := by
  induction steps generalizing p with
  | nil => exact orderly
  | cons step rest inductionHypothesis => exact inductionHypothesis (orderly.perform step)

end Orderly

end Pipeline

end LiveLog
