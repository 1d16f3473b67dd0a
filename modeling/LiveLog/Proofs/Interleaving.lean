import LiveLog.Proofs.Generations
import LiveLog.Proofs.Replay

namespace LiveLog

/-!
# Only the order within one connection matters

Connections report side by side, and the queue of a hub is one interleaving of what
they report. The subscriptions of a hub do not see each other, so handing a queue to
the hub is handing it to each subscription by itself. A subscription in turn passes
by whatever is not a report of its registered link, and no event ever gives it
another link. Hence all that counts of a queue is the sequence of reports of each
registered connection.

Each event carries the time at which it is applied. Two interleavings of the same
sequences of events therefore lead to the same hub, and the changes that are
reported of any process come in the same order.
-/

namespace Update

/-- The changes of a process among some updates, in order. -/
def changesOf (id : Uuid) (updates : List Update) : List Change :=
  (updates.filter fun u => u.process = id).map Update.change

theorem changesOf_append (id : Uuid) (first second : List Update) :
    changesOf id (first ++ second) = changesOf id first ++ changesOf id second := by
  simp only [changesOf, List.filter_append, List.map_append]

end Update

namespace Event

/-- The events of a process within a queue, in order. -/
def ofProcess (id : Uuid) (queue : List (Event × Int)) : List (Event × Int) :=
  queue.filter fun x => x.1.process = id

end Event

namespace Subscription

/-- The change that an event makes, if it is accepted. -/
def report (s : Subscription) (e : Event) (now : Int) : Option Change :=
  if s.accepts e then (s.take e.signal now).2 else none

/-- The subscription after some events, and the changes that they make. -/
def receiveAll (s : Subscription) : List (Event × Int) → Subscription × List Change
  | [] => (s, [])
  | (e, now) :: rest =>
    let (t, changes) := (s.receive e now).receiveAll rest
    (t, (s.report e now).toList ++ changes)

variable {s : Subscription}

theorem receiveAll_cons (s : Subscription) (e : Event) (now : Int) (rest : List (Event × Int)) :
    s.receiveAll ((e, now) :: rest) =
      (((s.receive e now).receiveAll rest).1,
        (s.report e now).toList ++ ((s.receive e now).receiveAll rest).2) := rfl

theorem report_of_refused {e : Event} (now : Int) (refused : s.accepts e = false) :
    s.report e now = none := by
  simp only [report, refused, Bool.false_eq_true, if_false]

theorem refuses_of_ne {e : Event} (other : s.id ≠ e.process) : s.accepts e = false := by
  rw [Bool.eq_false_iff]
  intro accepted
  exact other ((s.accepts_eq_true_iff e).mp accepted).1

theorem accepts_of_receive {e later : Event} {now : Int}
    (accepted : (s.receive e now).accepts later = true) : s.accepts later = true := by
  rcases ((s.receive e now).accepts_eq_true_iff later).mp accepted with ⟨owner, registered⟩
  refine (s.accepts_eq_true_iff later).mpr ⟨(s.id_receive e now).symm.trans owner, ?_⟩
  rcases Option.map_eq_some_iff.mp registered with ⟨link, linked, generation⟩
  exact Option.map_eq_some_iff.mpr ⟨link, link_receive linked, generation⟩

/-- Events that a subscription does not accept can be left out. -/
theorem receiveAll_filter {keep : Event → Bool} (queue : List (Event × Int))
    (kept : ∀ e, s.accepts e = true → keep e = true) :
    s.receiveAll (queue.filter fun x => keep x.1) = s.receiveAll queue := by
  -- An event may take the link away but never gives another one, so that what is kept
  -- for the subscription before it is enough for the subscription after it.
  induction queue generalizing s with
  | nil => rfl
  | cons x rest inductionHypothesis =>
      obtain ⟨e, now⟩ := x
      cases keeps : keep e with
      | true =>
          simp only [List.filter_cons, keeps, if_true]
          rw [receiveAll_cons, receiveAll_cons,
            inductionHypothesis fun later accepted => kept later (accepts_of_receive accepted)]
      | false =>
          have refused : s.accepts e = false := by
            rw [Bool.eq_false_iff]
            intro accepted
            exact absurd (keeps.symm.trans (kept e accepted)) Bool.false_ne_true
          simp only [List.filter_cons, keeps, Bool.false_eq_true, if_false]
          rw [inductionHypothesis kept,
            receiveAll_cons, receive_of_not_accepts now refused, report_of_refused now refused]
          rfl

end Subscription

namespace Hub

/-- Where no identifier is listed twice, handing an event over is handing it to
every subscription, and the change is that of the subscription it names. -/
theorem deliver_eq {ss : List Subscription} (nodup : (ss.map Subscription.id).Nodup) (e : Event)
    (now : Int) :
    deliver e now ss =
      (ss.map fun s => s.receive e now, (findIn e.process ss).bind fun s => s.report e now) := by
  induction ss with
  | nil => rfl
  | cons s rest inductionHypothesis =>
      rw [List.map_cons, List.nodup_cons] at nodup
      rw [deliver]
      cases accepted : s.accepts e with
      | true =>
          have owner := ((s.accepts_eq_true_iff e).mp accepted).1
          have others : (rest.map fun t => t.receive e now) = rest := by
            refine (List.map_congr_left ?_).trans (List.map_id' rest)
            intro t listed
            apply Subscription.receive_of_ne
            intro same
            exact nodup.1 (List.mem_map.mpr ⟨t, listed, same.trans owner.symm⟩)
          rw [if_pos rfl, findIn_cons_of_eq owner, List.map_cons, others, Option.bind_some,
            Subscription.receive, Subscription.report, if_pos accepted, if_pos accepted]
      | false =>
          rw [if_neg Bool.false_ne_true, inductionHypothesis nodup.2, List.map_cons,
            Subscription.receive_of_not_accepts now accepted]
          by_cases owner : s.id = e.process
          · have absent : findIn e.process rest = none := findIn_eq_none_iff.mpr (owner ▸ nodup.1)
            rw [findIn_cons_of_eq owner, absent, Option.bind_some,
              Subscription.report_of_refused now accepted]
            rfl
          · rw [findIn_cons_of_ne owner]

section HandleAll

variable {h : Hub}

theorem changesOf_handle (sound : h.Sound) (e : Event) (now : Int) (id : Uuid) :
    Update.changesOf id (h.handle e now).2.toList =
      ((h.find? id).bind fun s => s.report e now).toList := by
  rw [handle, deliver_eq sound.nodup]
  by_cases same : e.process = id
  · rw [← same]
    change Update.changesOf e.process (Option.map _ ((h.find? e.process).bind _)).toList = _
    cases (h.find? e.process).bind fun s => s.report e now with
    | none => rfl
    | some change => simp [Update.changesOf]
  · have elsewhere : ((h.find? id).bind fun s => s.report e now) = none := by
      rw [Option.bind_eq_none_iff]
      intro s found
      apply Subscription.report_of_refused
      apply Subscription.refuses_of_ne
      rw [(mem_of_findIn found).2]
      exact fun equal => same equal.symm
    rw [elsewhere]
    dsimp only
    cases (findIn e.process h.subscriptions).bind fun s => s.report e now with
    | none => rfl
    | some change => simp [Update.changesOf, same]

/-- Handing a queue over is handing it to every subscription by itself. -/
theorem handleAll_eq (sound : h.Sound) (queue : List (Event × Int)) :
    (h.handleAll queue).1 =
      { h with subscriptions := h.subscriptions.map fun s => (s.receiveAll queue).1 } := by
  induction queue generalizing h with
  | nil =>
      simp only [handleAll, Subscription.receiveAll, List.map_id']
  | cons x rest inductionHypothesis =>
      obtain ⟨e, now⟩ := x
      rw [handleAll_cons, inductionHypothesis (sound.handle e now), handle, deliver_eq sound.nodup]
      simp only [List.map_map]
      rfl

theorem find?_handleAll (h : Hub) (queue : List (Event × Int)) (id : Uuid) :
    (h.handleAll queue).1.find? id = (h.find? id).map fun s => (s.receiveAll queue).1 := by
  induction queue generalizing h with
  | nil => exact Option.map_id'.symm
  | cons x rest inductionHypothesis =>
      obtain ⟨e, now⟩ := x
      rw [handleAll_cons, inductionHypothesis, find?_handle]
      cases h.find? id <;> rfl

/-- The changes of a process are those that its subscription makes by itself. -/
theorem changesOf_handleAll (sound : h.Sound) (queue : List (Event × Int)) (id : Uuid) :
    Update.changesOf id (h.handleAll queue).2 =
      ((h.find? id).map fun s => (s.receiveAll queue).2).getD [] := by
  induction queue generalizing h with
  | nil => cases h.find? id <;> rfl
  | cons x rest inductionHypothesis =>
      obtain ⟨e, now⟩ := x
      rw [handleAll_cons, Update.changesOf_append, changesOf_handle sound,
        inductionHypothesis (sound.handle e now), find?_handle]
      cases h.find? id <;> rfl

/-- Two queues have the same effect if every registered connection reports the
same in both. -/
theorem handleAll_congr (sound : h.Sound) {first second : List (Event × Int)}
    (same : ∀ s ∈ h.subscriptions,
      (first.filter fun x => s.accepts x.1) = second.filter fun x => s.accepts x.1) :
    (h.handleAll first).1 = (h.handleAll second).1 ∧
      ∀ id, Update.changesOf id (h.handleAll first).2 = Update.changesOf id (h.handleAll second).2 := by
  have alike : ∀ s ∈ h.subscriptions, s.receiveAll first = s.receiveAll second := by
    intro s listed
    rw [← s.receiveAll_filter first fun _e accepted => accepted, same s listed,
      s.receiveAll_filter second fun _e accepted => accepted]
  constructor
  · have subscriptions := List.map_congr_left fun s listed => congrArg Prod.fst (alike s listed)
    rw [handleAll_eq sound, handleAll_eq sound, subscriptions]
  · intro id
    rw [changesOf_handleAll sound, changesOf_handleAll sound]
    cases found : h.find? id with
    | none => rfl
    | some s => exact congrArg Prod.snd (alike s (mem_of_findIn found).1)

end HandleAll

/-- Two interleavings of the same sequences of events, one sequence for each
process, lead every reachable hub to the same hub, and the changes that are reported
of a process are the same, in the same order. -/
theorem handleAll_of_interleaving (settings : Settings) (backend : Backend)
    (actions : List Action) (first second : List (Event × Int))
    (same : ∀ id, Event.ofProcess id first = Event.ofProcess id second) :
    let h := (empty settings backend).run actions
    (h.handleAll first).1 = (h.handleAll second).1 ∧
      ∀ id, Update.changesOf id (h.handleAll first).2 =
        Update.changesOf id (h.handleAll second).2 := by
  intro h
  have sound : h.Sound := ((Remembers.empty settings backend).run actions).sound
  apply handleAll_congr sound
  intro s _listed
  -- What a subscription accepts is among the events of its process.
  have within (queue : List (Event × Int)) : (queue.filter fun x => s.accepts x.1) =
      (Event.ofProcess s.id queue).filter fun x => s.accepts x.1 := by
    rw [Event.ofProcess, List.filter_filter]
    apply List.filter_congr
    intro x _member
    cases accepted : s.accepts x.1 with
    | false => rfl
    | true => simp [((s.accepts_eq_true_iff x.1).mp accepted).1]
  rw [within first, within second, same s.id]

/-- A script is finished and an agent is patched, in either order, while a report of
an earlier connection of the script is in the way. -/
theorem script_and_agent_interleaved :
    let backend := Backend.atHost "b"
    let script : Execution := ⟨default, .setupScript, .running, false⟩
    let agent : Execution := ⟨⟨List.replicate 32 1, rfl⟩, .codingAgent, .running, false⟩
    let actions : List Action := [.sync [script, agent] 0, .resubscribe script.id 1]
    let ofScript : List (Event × Int) := [(⟨script.id, 3, .opened⟩, 2), (⟨script.id, 1, .ended⟩, 3),
      (⟨script.id, 3, .frame (.event "stdout" "a")⟩, 4), (⟨script.id, 3, .ended⟩, 5)]
    let ofAgent : List (Event × Int) := [(⟨agent.id, 2, .opened⟩, 2),
      (⟨agent.id, 2, .frame (.event "json_patch" "[]")⟩, 6)]
    let h := (empty Settings.default backend).run actions
    (∀ id, Event.ofProcess id (ofScript ++ ofAgent) = Event.ofProcess id (ofAgent ++ ofScript)) ∧
      (h.handleAll (ofScript ++ ofAgent)).1 = (h.handleAll (ofAgent ++ ofScript)).1 ∧
      (h.handleAll (ofScript ++ ofAgent)).2 ≠ (h.handleAll (ofAgent ++ ofScript)).2 ∧
      (∀ id, Update.changesOf id (h.handleAll (ofScript ++ ofAgent)).2 =
        Update.changesOf id (h.handleAll (ofAgent ++ ofScript)).2) ∧
      Update.changesOf script.id (h.handleAll (ofScript ++ ofAgent)).2 =
        [.connected, .entries, .finished] := by
  intro backend script agent actions ofScript ofAgent h
  have owned : (∀ x ∈ ofScript, x.1.process = script.id) ∧ ∀ x ∈ ofAgent, x.1.process = agent.id := by
    decide +kernel
  have different : script.id ≠ agent.id := by decide
  have same : ∀ id, Event.ofProcess id (ofScript ++ ofAgent) =
      Event.ofProcess id (ofAgent ++ ofScript) := by
    intro id
    simp only [Event.ofProcess, List.filter_append]
    by_cases named : script.id = id
    · have nothing : (ofAgent.filter fun x => decide (x.1.process = id)) = [] := by
        rw [List.filter_eq_nil_iff]
        intro x listed
        rw [owned.2 x listed, decide_eq_true_eq, ← named]
        exact different.symm
      rw [nothing, List.append_nil, List.nil_append]
    · have nothing : (ofScript.filter fun x => decide (x.1.process = id)) = [] := by
        rw [List.filter_eq_nil_iff]
        intro x listed
        rw [owned.1 x listed, decide_eq_true_eq]
        exact named
      rw [nothing, List.append_nil, List.nil_append]
  have alike := handleAll_of_interleaving Settings.default backend actions _ _ same
  have apart : (h.handleAll (ofScript ++ ofAgent)).2 ≠ (h.handleAll (ofAgent ++ ofScript)).2 := by
    decide +kernel
  have reported : Update.changesOf script.id (h.handleAll (ofScript ++ ofAgent)).2 =
      [.connected, .entries, .finished] := by decide +kernel
  exact ⟨same, alike.1, apart, alike.2, reported⟩

end Hub

end LiveLog
