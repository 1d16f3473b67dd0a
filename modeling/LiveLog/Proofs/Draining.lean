import LiveLog.Proofs.Subscriptions

namespace LiveLog

/-!
# Draining a queue one change at a time

Someone who waits for one change after the other learns what a drain of the whole queue
reports. Each wait takes the events up to the next change off the queue and leaves to
the later ones what the drain has still to do. So the waits come to an end, with nothing
queued, and the last of them answers from the links that are left: it waits for more
just in case a connection is open.

An event that changes nothing is not a reason to stop. Whether it is stale, concerns
nobody or brings nothing, it is taken off the queue, and whether there is more to wait
for is asked when the queue is empty.
-/

namespace Hub

/-- What waiting comes to when nothing is queued. -/
def idle (h : Hub) : Awaited := if h.hasLinks then .pending else .over

theorem idle_eq_pending_iff (h : Hub) : h.idle = .pending ↔ h.links ≠ [] := by
  unfold idle hasLinks
  cases h.links with
  | nil => exact iff_of_false Awaited.noConfusion fun linked => linked rfl
  | cons link rest => exact iff_of_true rfl (List.cons_ne_nil link rest)

theorem idle_eq_over_iff (h : Hub) : h.idle = .over ↔ h.links = [] := by
  unfold idle hasLinks
  cases h.links with
  | nil => exact iff_of_true rfl rfl
  | cons link rest => exact iff_of_false Awaited.noConfusion (List.cons_ne_nil link rest)

theorem idle_cases (h : Hub) : h.idle = .pending ∨ h.idle = .over := by
  unfold idle
  cases h.hasLinks with
  | true => exact Or.inl rfl
  | false => exact Or.inr rfl

section Next

variable {h : Hub} {now : Int} {e : Event} {u : Update}

theorem drain_cons (h : Hub) (e : Event) (queue : List Event) (now : Int) :
    h.drain (e :: queue) now =
      (((h.handle e now).1.drain queue now).1,
        (h.handle e now).2.toList ++ ((h.handle e now).1.drain queue now).2) := rfl

theorem next_cons_of_change (reported : (h.handle e now).2 = some u) (queue : List Event) :
    h.next now (e :: queue) = ((h.handle e now).1, queue, .update u) := by
  rw [next, show h.handle e now = ((h.handle e now).1, some u) from Prod.ext rfl reported]

theorem next_cons_of_no_change (quiet : (h.handle e now).2 = none) (queue : List Event) :
    h.next now (e :: queue) = (h.handle e now).1.next now queue := by
  rw [next, show h.handle e now = ((h.handle e now).1, none) from Prod.ext rfl quiet]

/-- Where a drain reports nothing, a wait takes the whole queue and finds no change. -/
theorem next_of_drain_nil {queue : List Event} (quiet : (h.drain queue now).2 = []) :
    h.next now queue = ((h.drain queue now).1, [], (h.drain queue now).1.idle) := by
  induction queue generalizing h with
  | nil => rfl
  | cons e queue inductionHypothesis =>
      rw [drain_cons] at quiet ⊢
      rcases List.append_eq_nil_iff.mp quiet with ⟨first, later⟩
      rw [next_cons_of_no_change (Option.toList_eq_nil_iff.mp first)]
      exact inductionHypothesis later

/-- Where a drain reports something, a wait finds the first change and leaves the
others. -/
theorem next_of_drain_cons {queue : List Event} {us : List Update}
    (reported : (h.drain queue now).2 = u :: us) :
    ∃ after rest, h.next now queue = (after, rest, .update u) ∧ rest.length < queue.length ∧
      after.drain rest now = ((h.drain queue now).1, us) := by
  induction queue generalizing h with
  | nil => cases reported
  | cons e queue inductionHypothesis =>
      rw [drain_cons] at reported ⊢
      cases handled : (h.handle e now).2 with
      | none =>
          rw [handled] at reported
          rcases inductionHypothesis reported with ⟨after, rest, awaited, shorter, drained⟩
          exact ⟨after, rest, (next_cons_of_no_change handled queue).trans awaited,
            Nat.lt_succ_of_lt shorter, drained⟩
      | some v =>
          rw [handled] at reported
          rcases List.cons.inj reported with ⟨rfl, later⟩
          exact ⟨_, queue, next_cons_of_change handled queue, Nat.lt_succ_self _,
            Prod.ext rfl later⟩

/-- A wait that finds a change has taken something off the queue. -/
theorem length_of_next {queue rest : List Event} {after : Hub}
    (awaited : h.next now queue = (after, rest, .update u)) : rest.length < queue.length := by
  cases reported : (h.drain queue now).2 with
  | nil =>
      rw [next_of_drain_nil reported] at awaited
      have answer := congrArg (fun result => result.2.2) awaited
      rcases (h.drain queue now).1.idle_cases with waits | ends
      · exact absurd (waits.symm.trans answer) Awaited.noConfusion
      · exact absurd (ends.symm.trans answer) Awaited.noConfusion
  | cons v us =>
      rcases next_of_drain_cons reported with ⟨_, _, found, shorter, _⟩
      rw [found] at awaited
      cases awaited
      exact shorter

end Next

/-- Wait for one change after the other until there is none: the hub, what is left of
the queue, the changes, and the last answer. -/
def exhaust (h : Hub) (now : Int) (queue : List Event) :
    Hub × List Event × List Update × Awaited :=
  match _awaited : h.next now queue with
  | (after, rest, .update u) =>
    let (final, left, updates, answer) := after.exhaust now rest
    (final, left, u :: updates, answer)
  | (after, rest, .pending) => (after, rest, [], .pending)
  | (after, rest, .over) => (after, rest, [], .over)
termination_by queue.length
decreasing_by exact length_of_next ‹_›

section Exhaust

variable {h after : Hub} {now : Int} {queue rest : List Event}

theorem exhaust_of_update {u : Update} (awaited : h.next now queue = (after, rest, .update u)) :
    h.exhaust now queue = ((after.exhaust now rest).1, (after.exhaust now rest).2.1,
      u :: (after.exhaust now rest).2.2.1, (after.exhaust now rest).2.2.2) := by
  rw [exhaust]
  split <;> simp_all

theorem exhaust_of_idle (awaited : h.next now queue = (after, rest, after.idle)) :
    h.exhaust now queue = (after, rest, [], after.idle) := by
  rw [exhaust]
  rcases after.idle_cases with waits | ends
  · rw [waits] at awaited ⊢
    split <;> simp_all
  · rw [ends] at awaited ⊢
    split <;> simp_all

theorem exhaust_eq (h : Hub) (now : Int) (queue : List Event) :
    h.exhaust now queue =
      ((h.drain queue now).1, [], (h.drain queue now).2, (h.drain queue now).1.idle) := by
  -- A wait that finds a change takes at least one event, so the induction is on how many
  -- are queued.
  induction length : queue.length using Nat.strongRecOn generalizing h queue with
  | ind n inductionHypothesis =>
      cases reported : (h.drain queue now).2 with
      | nil => exact exhaust_of_idle (next_of_drain_nil reported)
      | cons u us =>
          rcases next_of_drain_cons reported with ⟨after, rest, awaited, shorter, drained⟩
          rw [exhaust_of_update awaited, inductionHypothesis _ (length ▸ shorter) after rest rfl,
            drained]

end Exhaust

/-- Waiting until no change comes is draining: the same changes in the same order, the
same hub, and nothing left of the queue. The last wait goes on waiting if a connection is
open, and is told that all is over if none is. Every single wait finds the first change
that the drain reports; if the drain reports nothing, it takes the whole queue and
answers from the links. -/
theorem exhaust_eq_drain (h : Hub) (now : Int) (queue : List Event) :
    let (drained, updates) := h.drain queue now
    h.exhaust now queue = (drained, [], updates, drained.idle) ∧
      (drained.idle = .pending ↔ drained.links ≠ []) ∧ (drained.idle = .over ↔ drained.links = []) ∧
      match updates with
      | [] => h.next now queue = (drained, [], drained.idle)
      | u :: us => ∃ after rest, h.next now queue = (after, rest, .update u) ∧
          after.drain rest now = (drained, us) := by
  refine ⟨h.exhaust_eq now queue, idle_eq_pending_iff _, idle_eq_over_iff _, ?_⟩
  split
  · exact next_of_drain_nil ‹_›
  · rcases next_of_drain_cons ‹_› with ⟨after, rest, awaited, _shorter, drained⟩
    exact ⟨after, rest, awaited, drained⟩

end Hub

end LiveLog
