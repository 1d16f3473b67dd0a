import LiveLog.Proofs.Subscriptions

namespace LiveLog

/-!
# Replaying the reports of one connection

The feed of a process can be computed without any hub: begin with a fresh feed
and apply the reports of one connection to it, one by one, each at its time. A
report is final when nothing that follows it counts: the stream has ended or
failed, or a frame says that it is finished. `cutAfter` keeps a list up to and
including its first final element, so replaying `cutAfter` is replaying what
counts.

Two facts connect this with a subscription. A subscription that accepts an event
takes one step of the replay, and gives its link up exactly when the report is
final. And the description of the process enters a step only through the way in
which the process publishes: another description with the same reason passes
through the whole replay unchanged.
-/

/-- A list up to and including the first element that is final. -/
def cutAfter {α : Type} (final : α → Bool) : List α → List α
  | [] => []
  | a :: rest => if final a then [a] else a :: cutAfter final rest

section CutAfter

variable {α : Type} {final : α → Bool}

/-- What follows a final element is of no account. -/
theorem cutAfter_append_of_any {xs : List α} (past : xs.any final = true) (ys : List α) :
    cutAfter final (xs ++ ys) = cutAfter final xs := by
  induction xs with
  | nil => cases past
  | cons x xs inductionHypothesis =>
      rw [List.cons_append, cutAfter, cutAfter]
      cases last : final x with
      | true => rfl
      | false =>
          rw [List.any_cons, last, Bool.false_or] at past
          rw [inductionHypothesis past]

theorem cutAfter_append_of_not_any {xs : List α} (going : xs.any final = false) (ys : List α) :
    cutAfter final (xs ++ ys) = xs ++ cutAfter final ys := by
  induction xs with
  | nil => rfl
  | cons x xs inductionHypothesis =>
      rw [List.any_cons, Bool.or_eq_false_iff] at going
      rw [List.cons_append, cutAfter, going.1, inductionHypothesis going.2]
      rfl

theorem cutAfter_of_not_any {xs : List α} (going : xs.any final = false) :
    cutAfter final xs = xs := by
  have cut := cutAfter_append_of_not_any going []
  rwa [List.append_nil, cutAfter, List.append_nil] at cut

theorem cutAfter_singleton (x : α) : cutAfter final [x] = [x] := by
  rw [cutAfter, cutAfter]
  split <;> rfl

/-- Cutting timed elements is cutting the elements and leaving the surplus
times out. -/
theorem cutAfter_zip {τ : Type} (xs : List (α × τ)) :
    cutAfter (fun x => final x.1) xs =
      (cutAfter final (xs.map Prod.fst)).zip (xs.map Prod.snd) := by
  induction xs with
  | nil => rfl
  | cons x xs inductionHypothesis =>
      rw [List.map_cons, List.map_cons, cutAfter, cutAfter]
      cases final x.1 with
      | true => rfl
      | false =>
          simp only [Bool.false_eq_true, if_false, List.zip_cons_cons, inductionHypothesis]

end CutAfter

namespace Frame

theorem concludes_of_decode {f : Frame} {m : Message} (decoded : Message.decode f = .ok (some m)) :
    f.concludes = decide (m = .finished) := by
  unfold concludes
  rw [decoded]
  cases m <;> rfl

theorem concludes_of_decode_none {f : Frame} (decoded : Message.decode f = .ok none) :
    f.concludes = false := by
  unfold concludes
  rw [decoded]

theorem concludes_of_decode_error {f : Frame} {e : FrameError}
    (decoded : Message.decode f = .error e) : f.concludes = false := by
  unfold concludes
  rw [decoded]

end Frame

namespace Feed

/-- The feed after a signal, whether or not the signal changes it. -/
def after (f : Feed) (s : Signal) (now : Int) : Feed :=
  match f.take s now with
  | none => f
  | some (g, _) => g

/-- The feed after some reports, each at its time. -/
def replay (f : Feed) (reports : List (Signal × Int)) : Feed :=
  reports.foldl (fun g report => g.after report.1 report.2) f

@[simp] theorem replay_nil (f : Feed) : f.replay [] = f := rfl

@[simp] theorem replay_cons (f : Feed) (report : Signal × Int) (rest : List (Signal × Int)) :
    f.replay (report :: rest) = (f.after report.1 report.2).replay rest := rfl

theorem replay_append (f : Feed) (first second : List (Signal × Int)) :
    f.replay (first ++ second) = (f.replay first).replay second := List.foldl_append

theorem process_after (f : Feed) (s : Signal) (now : Int) : (f.after s now).process = f.process := by
  unfold after
  cases taken : f.take s now with
  | none => rfl
  | some result =>
      obtain ⟨g, change⟩ := result
      exact process_take taken

theorem process_replay (f : Feed) (reports : List (Signal × Int)) :
    (f.replay reports).process = f.process := by
  induction reports generalizing f with
  | nil => rfl
  | cons report rest inductionHypothesis =>
      rw [replay_cons, inductionHypothesis, process_after]

/-- Only a message that the stream is finished makes a final change. -/
theorem isFinal_takeMessage {f g : Feed} {m : Message} {now : Int} {change : Change}
    (taken : f.takeMessage m now = some (g, change)) :
    change.isFinal = decide (m = .finished) := by
  have lines {units : List LogUnit} (pushed : f.takeLines units now = some (g, change)) :
      change.isFinal = false := by
    unfold takeLines at pushed
    split at pushed
    · cases pushed
    · cases pushed
      rfl
  unfold takeMessage at taken
  split at taken
  · exact lines taken
  · exact lines taken
  · exact lines taken
  · cases taken
  · cases taken
  · unfold takePatch at taken
    simp only [Option.some.injEq] at taken
    split at taken <;> cases taken <;> rfl
  · cases taken
    rfl
  · cases taken
    rfl

/-- A message that is ignored is not that the stream is finished. -/
theorem ne_finished_of_takeMessage_none {f : Feed} {m : Message} {now : Int}
    (ignored : f.takeMessage m now = none) : m ≠ .finished := by
  intro past
  rw [past] at ignored
  unfold takeMessage at ignored
  cases f.kind <;> cases ignored

/-- A signal makes a final change exactly when it is final. -/
theorem isFinal_take {f g : Feed} {s : Signal} {now : Int} {change : Change}
    (taken : f.take s now = some (g, change)) : change.isFinal = s.isFinal := by
  cases s with
  | opened => cases taken; rfl
  | ended => cases taken; rfl
  | failed message => cases taken; rfl
  | frame frame =>
      unfold take at taken
      change change.isFinal = frame.concludes
      cases decoded : Message.decode frame with
      | error e =>
          rw [Frame.concludes_of_decode_error decoded]
          simp only [decoded] at taken
          cases taken
          rfl
      | ok found =>
          cases found with
          | none =>
              simp only [decoded] at taken
              cases taken
          | some m =>
              rw [Frame.concludes_of_decode decoded]
              simp only [decoded] at taken
              exact isFinal_takeMessage taken

/-- A signal that changes nothing is not final. -/
theorem isFinal_of_take_none {f : Feed} {s : Signal} {now : Int} (ignored : f.take s now = none) :
    s.isFinal = false := by
  cases s with
  | opened => rfl
  | ended => cases ignored
  | failed message => cases ignored
  | frame frame =>
      unfold take at ignored
      change frame.concludes = false
      cases decoded : Message.decode frame with
      | error e => exact Frame.concludes_of_decode_error decoded
      | ok found =>
          cases found with
          | none => exact Frame.concludes_of_decode_none decoded
          | some m =>
              rw [Frame.concludes_of_decode decoded]
              simp only [decoded] at ignored
              exact decide_eq_false (ne_finished_of_takeMessage_none ignored)

/-! ## Descriptions of the process -/

theorem takePatch_described (f : Feed) (p : Execution) (patch : Patch) (now : Int) :
    (f.described p).takePatch patch now =
      ((f.takePatch patch now).1.described p, (f.takePatch patch now).2) := by
  unfold takePatch
  by_cases clean : (f.conversation.applyBatch patch now).2.isClean = true
  · simp only [if_pos clean]
    exact if_pos clean
  · simp only [if_neg clean]
    exact if_neg clean

/-- Another description with the same reason enters no step. -/
theorem takeMessage_described {f : Feed} {p : Execution} (same : p.reason = f.process.reason)
    (m : Message) (now : Int) :
    (f.described p).takeMessage m now =
      (f.takeMessage m now).map fun result => (result.1.described p, result.2) := by
  have kind : (f.described p).kind = f.kind := congrArg RunReason.kind same
  have lines (units : List LogUnit) :
      (f.described p).takeLines units now =
        (f.takeLines units now).map fun result => (result.1.described p, result.2) := by
    unfold takeLines
    cases units.isEmpty <;> rfl
  unfold takeMessage
  rw [kind]
  cases m with
  | stdout text => cases f.kind with
    | raw => exact lines _
    | normalized => rfl
  | stderr text => cases f.kind with
    | raw => exact lines _
    | normalized => rfl
  | patch patch => cases f.kind with
    | raw => exact lines _
    | normalized => exact congrArg some (f.takePatch_described p patch now)
  | sessionId text => cases f.kind <;> rfl
  | finished => cases f.kind <;> rfl

theorem after_described {f : Feed} {p : Execution} (same : p.reason = f.process.reason)
    (s : Signal) (now : Int) : (f.described p).after s now = (f.after s now).described p := by
  cases s with
  | opened => rfl
  | ended => rfl
  | failed message => rfl
  | frame frame =>
      unfold after take
      cases decoded : Message.decode frame with
      | error e => simp only [decoded]; rfl
      | ok found =>
          cases found with
          | none => simp only [decoded]
          | some m =>
              simp only [decoded, takeMessage_described same]
              cases f.takeMessage m now <;> rfl

end Feed

namespace Subscription

/-- A subscription that accepts an event takes one step of the replay, and gives
its link up exactly when the report is final. -/
theorem receive_of_accepts {s : Subscription} {e : Event} (now : Int)
    (accepted : s.accepts e = true) :
    s.receive e now =
      ⟨s.feed.after e.signal now, if e.signal.isFinal then none else s.link⟩ := by
  unfold receive take Feed.after
  rw [if_pos accepted]
  cases taken : s.feed.take e.signal now with
  | none =>
      rw [Feed.isFinal_of_take_none taken]
      rfl
  | some result =>
      obtain ⟨g, change⟩ := result
      rw [← Feed.isFinal_take taken]

theorem receive_of_not_accepts {s : Subscription} {e : Event} (now : Int)
    (refused : s.accepts e = false) : s.receive e now = s := by
  unfold receive
  rw [refused]
  rfl

end Subscription

end LiveLog
