import LiveLog.Proofs.Advances
import LiveLog.Proofs.Presentations
import LiveLog.Proofs.Flags

namespace LiveLog

/-!
# The hub of a pipeline

Whatever somebody does with a pipeline, its hub only ever does what a hub can do by
itself: a step is a few actions of the hub, and a run of the pipeline is a run of its
hub. So what holds of every hub that was reached by actions holds of the hub of every
pipeline.

That the feeds of a hub are in order is such a property. A new feed is empty, another
description of the process leaves the output alone, and signals keep the order.
-/

namespace Hub

theorem run_append (h : Hub) (first rest : List Action) :
    h.run (first ++ rest) = (h.run first).run rest := List.foldl_append

/-- Events that are handed over one by one are actions. -/
theorem exists_actions_handleAll (h : Hub) (events : List (Event × Int)) :
    ∃ actions, (h.handleAll events).1 = h.run actions := by
  induction events generalizing h with
  | nil => exact ⟨[], rfl⟩
  | cons event rest inductionHypothesis =>
      rcases inductionHypothesis (h.handle event.1 event.2).1 with ⟨actions, same⟩
      exact ⟨.handle event.1 event.2 :: actions, same⟩

/-- What every feed of a hub is that was reached by actions: in order. -/
theorem inOrder_run (settings : Settings) (backend : Backend) (actions : List Action) :
    ∀ s ∈ ((empty settings backend).run actions).subscriptions, s.feed.InOrder := by
  apply forall_run
  · intro settings backend generation p now
    rcases feed_subscribe settings backend generation p now with ⟨error, feed⟩
    rw [feed]
    exact ⟨LineBuffer.InOrder.empty settings, List.Pairwise.nil⟩
  · intro s p inOrder
    exact ⟨inOrder.lines, inOrder.conversation⟩
  · intro s e now inOrder
    rcases s.feed_receive e now with took | stayed
    · rw [took]
      exact inOrder.after e.signal now
    · rw [stayed]
      exact inOrder
  · intro s listed
    cases listed

end Hub

namespace Pipeline

/-- A step is some actions of the hub. -/
theorem exists_actions_perform (p : Pipeline) (step : Step) :
    ∃ actions, (p.perform step).1.hub = p.hub.run actions := by
  cases step with
  | setClock now => exact ⟨[], rfl⟩
  | refuseNext id message => exact ⟨[], rfl⟩
  | sync ps => exact ⟨[.sync ps p.clock], rfl⟩
  | teardown => exact ⟨[.teardown], rfl⟩
  | resubscribe id => exact ⟨[.resubscribe id p.clock], rfl⟩
  | send id frame => exact ⟨[], p.emit_hub id _⟩
  | fail id message => exact ⟨[], p.emit_hub id _⟩
  | close id => exact ⟨[], p.emit_hub id _⟩
  | drain => exact p.hub.exists_actions_handleAll _
  | next =>
      rcases p.hub.next_eq p.clock p.queue with ⟨eaten, _parts, same⟩
      rcases p.hub.exists_actions_handleAll (eaten.map fun e => (e, p.clock)) with ⟨actions, ran⟩
      refine ⟨actions, ?_⟩
      rw [perform_next, ← ran, same]
      rfl

/-- A run of a pipeline is a run of its hub. -/
theorem exists_actions_run (p : Pipeline) (steps : List Step) :
    ∃ actions, (p.run steps).hub = p.hub.run actions := by
  induction steps generalizing p with
  | nil => exact ⟨[], rfl⟩
  | cons step rest inductionHypothesis =>
      rcases p.exists_actions_perform step with ⟨first, performed⟩
      rcases inductionHypothesis (p.perform step).1 with ⟨later, ran⟩
      refine ⟨first ++ later, ?_⟩
      rw [Hub.run_append, ← performed]
      exact ran

/-- What every hub has that was reached by actions, the hub of every pipeline has. -/
theorem hub_of_run {P : Hub → Prop} {settings : Settings} {backend : Backend}
    (reached : ∀ actions, P ((Hub.empty settings backend).run actions)) (grouped : Bool)
    (now : Int) (steps : List Step) : P ((start settings backend grouped now).run steps).hub := by
  rcases (start settings backend grouped now).exists_actions_run steps with ⟨actions, same⟩
  rw [same]
  exact reached actions

end Pipeline

end LiveLog
