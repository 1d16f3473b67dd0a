import LiveLog.Proofs.Delivery
import LiveLog.Proofs.Interleaving
import LiveLog.Proofs.Flags

namespace LiveLog

/-!
# The lifecycle of a stream

What is reported of a process since it was opened follows one course. Either the
connection is refused, and that is all; or it is connected, goes on for a while, and
at most once is finished or lost. Then nothing follows until the process is opened
again.

No single place of a pipeline sees to this. The transport greets a connection before
anything else of it is queued, and greets it once. A final report takes the link
away, so that whatever is queued behind it is passed by. And reports of earlier
connections bear other generations. `Stage` puts these together: it is the place of
one subscription on its course, as seen from what was reported of it and from what
its registered connection still has in the queue.
-/

open Event Update

/-- What may have been reported of a connection at some moment. -/
def Lifecycle (changes : List Change) : Prop :=
  changes = [.disconnected] ∨
    ∃ (middle : List Change) (last : Option Change),
      (∀ change ∈ middle, change.isPlain = true) ∧ (∀ change ∈ last, change.isFinal = true) ∧
        changes <+: .connected :: (middle ++ last.toList)

namespace Lifecycle

variable {middle first rest : List Change} {change : Change}

theorem silent : Lifecycle [] :=
  Or.inr ⟨[], none, nofun, nofun, List.nil_prefix⟩

theorem refused : Lifecycle [.disconnected] := Or.inl rfl

theorem flowing (plain : ∀ change ∈ middle, change.isPlain = true) :
    Lifecycle (.connected :: middle) :=
  Or.inr ⟨middle, none, plain, nofun, [], rfl⟩

theorem closed (plain : ∀ change ∈ middle, change.isPlain = true) (final : change.isFinal = true) :
    Lifecycle (.connected :: middle ++ [change]) := by
  refine Or.inr ⟨middle, some change, plain, ?_, List.prefix_rfl⟩
  intro other same
  rw [← Option.mem_some.mp same]
  exact final

theorem eq_nil_of_final (lifecycle : Lifecycle (first ++ rest)) (listed : change ∈ first)
    (final : change.isFinal = true) : rest = [] := by
  rcases lifecycle with refused | ⟨middle, last, plain, _closing, course⟩
  · rcases List.append_eq_singleton_iff.mp refused with ⟨nothing, _⟩ | ⟨_, nothing⟩
    · rw [nothing] at listed
      cases listed
    · exact nothing
  · have going : change ∉ .connected :: middle := by
      intro early
      rcases List.mem_cons.mp early with same | within
      · rw [same] at final
        cases final
      · rw [Change.isFinal_of_isPlain (plain change within)] at final
        cases final
    have past : ¬ first ++ rest <+: .connected :: middle := by
      intro early
      exact going (early.subset (List.mem_append_left rest listed))
    cases last with
    | none =>
        rw [Option.toList_none, List.append_nil] at course
        exact absurd course past
    | some closing =>
        rw [Option.toList_some, ← List.cons_append, List.prefix_concat_iff] at course
        rcases course with whole | early
        · rcases List.eq_nil_or_concat rest with nothing | ⟨init, last, same⟩
          · exact nothing
          · rw [same, List.concat_eq_append, ← List.append_assoc] at whole
            rcases List.append_inj' whole rfl with ⟨before, _⟩
            exact absurd (before ▸ List.mem_append_left init listed) going
        · exact absurd early past

end Lifecycle

/-! ## The stages of one connection -/

/-- How far a connection has come, by whether it is registered, what of it is still
queued, and what was reported of it. -/
inductive Stage : Bool → List Signal → List Change → Prop
  /-- The greeting is queued, ahead of everything else. -/
  | greets {greeting : Signal} {rest : List Signal}
      (starts : greeting = .opened ∨ ∃ message, greeting = .failed message)
      (once : .opened ∉ rest) : Stage true (greeting :: rest) []
  /-- The connection was accepted, and is not greeted again. -/
  | flows {waiting : List Signal} {middle : List Change}
      (plain : ∀ change ∈ middle, change.isPlain = true)
      (once : .opened ∉ waiting) : Stage true waiting (.connected :: middle)
  /-- No report counts any more. -/
  | settled {waiting : List Signal} {seen : List Change} (lifecycle : Lifecycle seen) :
      Stage false waiting seen

namespace Stage

variable {registered : Bool} {waiting more : List Signal} {seen : List Change}

theorem lifecycle (stage : Stage registered waiting seen) : Lifecycle seen := by
  cases stage with
  | greets starts once => exact .silent
  | flows plain once => exact .flowing plain
  | settled lifecycle => exact lifecycle

theorem append (stage : Stage registered waiting seen) (plain : .opened ∉ more) :
    Stage registered (waiting ++ more) seen := by
  cases stage with
  | greets starts once => exact .greets starts (List.not_mem_append once plain)
  | flows connected once => exact .flows connected (List.not_mem_append once plain)
  | settled lifecycle => exact .settled lifecycle

section Turn

variable {f g : Feed} {signal : Signal} {now : Int} {change : Change}

/-- Neither a greeting nor the end of a connection is ever without effect. -/
theorem ignored (stage : Stage true (signal :: waiting) seen) (taken : f.take signal now = none) :
    Stage true waiting seen := by
  cases stage with
  | greets starts once =>
      rcases starts with same | ⟨message, same⟩
      · rw [same] at taken
        cases taken
      · rw [same] at taken
        cases taken
  | flows plain once => exact .flows plain fun later => once (List.mem_cons_of_mem signal later)

theorem turn (stage : Stage true (signal :: waiting) seen) (turns : f.Turns signal g change) :
    Stage (!change.isFinal) waiting (seen ++ [change]) := by
  cases stage with
  | greets starts once =>
      cases turns with
      | opens => exact .flows (List.forall_mem_nil _) once
      | continues plain connected finished =>
          rcases starts with same | ⟨message, same⟩
          · cases same
          · cases same
      | concludes late sound =>
          rcases starts with same | ⟨message, same⟩
          · exact absurd same late
          · exact absurd same (sound message)
      | fails message => exact .settled .refused
  | flows plain once =>
      cases turns with
      | opens => exact absurd List.mem_cons_self once
      | continues ordinary connected finished =>
          rw [Change.isFinal_of_isPlain ordinary]
          refine .flows ?_ fun later => once (List.mem_cons_of_mem _ later)
          intro other listed
          rcases List.mem_append.mp listed with before | last
          · exact plain other before
          · rw [List.mem_singleton.mp last]
            exact ordinary
      | concludes late sound => exact .settled (.closed plain rfl)
      | fails message => exact .settled (.closed plain rfl)

end Turn

end Stage

namespace Subscription

/-- What the registered connection still has in the queue. -/
def waiting (s : Subscription) (queue : List Event) : List Signal :=
  reportsOf s.id s.generation? queue

/-- The subscription is on its course. -/
def OnCourse (s : Subscription) (queue : List Event) (seen : List Change) : Prop :=
  Stage s.link.isSome (s.waiting queue) seen

section Waiting

variable {s : Subscription} {e : Event}

theorem waiting_cons_of_accepts (accepted : s.accepts e = true) (queue : List Event) :
    s.waiting (e :: queue) = e.signal :: s.waiting queue := by
  rcases (s.accepts_eq_true_iff e).mp accepted with ⟨owner, registered⟩
  exact reportsOf_cons_self owner.symm registered.symm queue

theorem waiting_cons_of_refuses (refused : s.accepts e = false) (queue : List Event) :
    s.waiting (e :: queue) = s.waiting queue := by
  apply reportsOf_cons_other
  rintro ⟨owner, registered⟩
  rw [(s.accepts_eq_true_iff e).mpr ⟨owner.symm, registered.symm⟩] at refused
  cases refused

theorem exists_of_mem_waiting {queue : List Event} {signal : Signal}
    (listed : signal ∈ s.waiting queue) : ∃ e ∈ queue, e.process = s.id ∧ e.signal = signal := by
  rcases List.mem_map.mp listed with ⟨e, kept, same⟩
  rcases List.mem_filter.mp kept with ⟨member, mine⟩
  exact ⟨e, member, (of_decide_eq_true mine).1, same⟩

end Waiting

namespace OnCourse

variable {s t : Subscription} {queue events : List Event} {seen : List Change}

/-- Nothing of the course is in the description of the process. -/
theorem congr (course : s.OnCourse queue seen) (named : t.id = s.id) (link : t.link = s.link) :
    t.OnCourse queue seen := by
  unfold OnCourse waiting generation? at course ⊢
  rw [named, link]
  exact course

theorem append (course : s.OnCourse queue seen)
    (quiet : ∀ e ∈ events, e.process = s.id → e.signal ≠ .opened) :
    s.OnCourse (queue ++ events) seen := by
  have plain : .opened ∉ s.waiting events := by
    intro listed
    rcases exists_of_mem_waiting listed with ⟨e, member, owner, same⟩
    exact quiet e member owner same
  have longer := Stage.append course plain
  rw [waiting, waiting, ← reportsOf_append] at longer
  exact longer

theorem receive {e : Event} (course : s.OnCourse (e :: queue) seen) (now : Int) :
    (s.receive e now).OnCourse queue (seen ++ (s.report e now).toList) := by
  unfold OnCourse at course
  cases accepted : s.accepts e with
  | false =>
      rw [waiting_cons_of_refuses accepted] at course
      rw [receive_of_not_accepts now accepted, report_of_refused now accepted, Option.toList_none,
        List.append_nil]
      exact course
  | true =>
      have registered := isSome_link_of_accepts accepted
      rw [waiting_cons_of_accepts accepted, registered] at course
      rw [Subscription.receive, report, if_pos accepted, if_pos accepted, take]
      cases taken : s.feed.take e.signal now with
      | none =>
          rw [Option.toList_none, List.append_nil, OnCourse, registered]
          exact course.ignored taken
      | some result =>
          obtain ⟨g, change⟩ := result
          have turned := course.turn (Feed.turns_of_take taken)
          change OnCourse ⟨g, if change.isFinal then none else s.link⟩ queue (seen ++ [change])
          -- A final change leaves no link, so that the rest of the queue no longer matters.
          cases final : change.isFinal with
          | true => exact .settled turned.lifecycle
          | false =>
              rw [final, Bool.not_false, ← registered] at turned
              rw [if_neg Bool.false_ne_true]
              have same : Subscription.id ⟨g, s.link⟩ = s.id :=
                congrArg Execution.id (Feed.process_take taken)
              exact OnCourse.congr turned same rfl

theorem receiveAll {eaten : List Event} (course : s.OnCourse (eaten ++ queue) seen) (now : Int) :
    (s.receiveAll (eaten.map fun e => (e, now))).1.OnCourse queue
      (seen ++ (s.receiveAll (eaten.map fun e => (e, now))).2) := by
  induction eaten generalizing s seen with
  | nil =>
      rw [List.map_nil, Subscription.receiveAll, List.append_nil]
      exact course
  | cons e rest inductionHypothesis =>
      have later := inductionHypothesis (course.receive now)
      rw [List.append_assoc] at later
      rw [List.map_cons, receiveAll_cons]
      exact later

end OnCourse

end Subscription

namespace Pipeline

/-! ## What a step reports -/

variable {p : Pipeline} {id : Uuid}

/-- A step reports what comes of handing over the events that it takes off the
queue. -/
theorem updates_perform (p : Pipeline) (step : Step) :
    (p.perform step).2 =
      (p.hub.handleAll ((p.consumed step).map fun e => (e, p.clock))).2 := by
  have adds {events : List Event} (queue : (p.perform step).1.queue = p.queue ++ events)
      (nothing : (p.perform step).2 = []) : (p.perform step).2 =
        (p.hub.handleAll ((p.consumed step).map fun e => (e, p.clock))).2 := by
    rw [consumed_of_append queue, nothing]
    rfl
  cases step with
  | setClock now => exact adds (List.append_nil _).symm rfl
  | refuseNext other message => exact adds (List.append_nil _).symm rfl
  | teardown => exact adds (List.append_nil _).symm rfl
  | sync ps => exact adds rfl rfl
  | resubscribe other => exact adds rfl rfl
  | send other frame =>
      rcases p.emit_queue other (.frame frame) with ⟨events, emitted, _owners⟩
      exact adds (congrArg (fun emitted => emitted.1.queue) emitted) rfl
  | fail other message =>
      rcases p.emit_queue other (.ofError (.stream message)) with ⟨events, emitted, _owners⟩
      exact adds (congrArg (fun emitted => emitted.1.queue) emitted) rfl
  | close other =>
      rcases p.emit_queue other .ended with ⟨events, emitted, _owners⟩
      exact adds (congrArg (fun emitted => emitted.1.queue) emitted) rfl
  | next =>
      rcases p.hub.next_eq p.clock p.queue with ⟨eaten, parts, same⟩
      have queue : p.queue = eaten ++ (p.perform .next).1.queue := by
        rw [perform_next]
        exact parts
      have reported : (p.perform .next).2 = p.next.2.updates := by
        unfold perform
        cases p.next with
        | mk q awaited => cases awaited <;> rfl
      rw [consumed_of_eaten queue, same, reported]
      rfl
  | drain =>
      have queue : p.queue = p.queue ++ (p.perform .drain).1.queue := (List.append_nil _).symm
      rw [consumed_of_eaten queue]
      rfl

theorem changesOf_perform (orderly : p.Orderly) (id : Uuid) (step : Step) :
    changesOf id (p.perform step).2 = ((p.hub.find? id).map fun s =>
      (s.receiveAll ((p.consumed step).map fun e => (e, p.clock))).2).getD [] := by
  rw [updates_perform, Hub.changesOf_handleAll orderly.sound]

/-- The changes of a process that some steps report. -/
def reported (id : Uuid) (p : Pipeline) : List Step → List Change
  | [] => []
  | step :: rest => changesOf id (p.perform step).2 ++ (p.perform step).1.reported id rest

/-- Whether some step opens the process. -/
def reopens (id : Uuid) (p : Pipeline) : List Step → Bool
  | [] => false
  | step :: rest => p.opens id step || (p.perform step).1.reopens id rest

/-- Whether a step makes a process leave the set. -/
def Step.removes (id : Uuid) : Step → Bool
  | .sync ps => ps.all fun q => decide (q.id ≠ id)
  | .teardown => true
  | _ => false

theorem reported_append (p : Pipeline) (first rest : List Step) :
    p.reported id (first ++ rest) = p.reported id first ++ (p.run first).reported id rest := by
  induction first generalizing p with
  | nil => rfl
  | cons step first inductionHypothesis =>
      rw [List.cons_append, reported, reported, inductionHypothesis, List.append_assoc]
      rfl

/-! ## The course of a process -/

/-- What was reported of the process since it was opened, and what is queued of it,
are in accord. -/
structure OnCourse (id : Uuid) (p : Pipeline) (seen : List Change) : Prop where
  lifecycle : Lifecycle seen
  followed : ∀ s, p.hub.find? id = some s → s.OnCourse p.queue seen

namespace OnCourse

variable {step : Step} {seen : List Change}

/-- A process that was just opened has its greeting in the queue, or no connection. -/
theorem begun (orderly : p.Orderly) (opening : p.opens id step = true) :
    (p.perform step).1.OnCourse id [] := by
  refine ⟨.silent, ?_⟩
  intro t after
  have named : t.id = id := (Hub.mem_of_findIn after).2
  unfold Subscription.OnCourse Subscription.waiting Subscription.generation?
  cases linked : t.link with
  | none => exact .settled .silent
  | some link =>
      have greeting := (opens_greets orderly opening after linked).2.2
      rw [← named] at greeting
      rw [Option.map_some, greeting]
      refine .greets ?_ List.not_mem_nil
      unfold Loopback.greeting
      cases p.transport.refusals.lookup t.id with
      | none => exact Or.inl rfl
      | some message => exact Or.inr ⟨_, rfl⟩

theorem perform (orderly : p.Orderly) (course : p.OnCourse id seen)
    (continues : p.opens id step = false) :
    (p.perform step).1.OnCourse id (seen ++ changesOf id (p.perform step).2) := by
  refine ⟨?_, ?_⟩
  · -- The step may make the process leave the set, and then no subscription is left to
    -- carry the stage. What is handed over is a beginning of the queue in any case.
    rw [changesOf_perform orderly]
    cases before : p.hub.find? id with
    | none =>
        rw [Option.map_none, Option.getD_none, List.append_nil]
        exact course.lifecycle
    | some s =>
        have here := course.followed s before
        have parts : p.queue = p.consumed step ++ p.queue.drop _ := (List.take_append_drop _ _).symm
        rw [parts] at here
        exact (here.receiveAll p.clock).lifecycle
  · intro t after
    rcases advances orderly continues after with ⟨s, before, advance⟩
    have here := course.followed s before
    have named : s.id = id := (Hub.mem_of_findIn before).2
    rw [changesOf_perform orderly, before, Option.map_some, Option.getD_some]
    cases advance with
    | keeps description same events queue others fed delivered closed =>
        rw [consumed_of_append queue, List.map_nil, Subscription.receiveAll, List.append_nil, queue]
        have found : t.id = s.id := (Hub.mem_of_findIn after).2.trans named.symm
        refine (here.congr found (by rw [same]; rfl)).append ?_
        intro e listed owner
        exact absurd (owner.trans (found.trans named)) (others e listed)
    | reports same generation signal queue registered open_before taken_down plain fed =>
        subst same
        rw [consumed_of_append queue, List.map_nil, Subscription.receiveAll, List.append_nil, queue]
        refine here.append ?_
        intro e listed _owner
        rw [List.mem_singleton.mp listed]
        exact plain
    | hears eaten queue hub transport delivered closed =>
        rw [hub, Hub.find?_handleAll, before, Option.map_some, Option.some.injEq] at after
        rw [consumed_of_eaten queue, ← after]
        rw [queue] at here
        exact here.receiveAll p.clock

theorem run (orderly : p.Orderly) (course : p.OnCourse id seen) {steps : List Step}
    (quiet : p.reopens id steps = false) :
    (p.run steps).OnCourse id (seen ++ p.reported id steps) := by
  induction steps generalizing p seen with
  | nil =>
      rw [reported, List.append_nil]
      exact course
  | cons step rest inductionHypothesis =>
      rw [reopens, Bool.or_eq_false_iff] at quiet
      rw [reported, ← List.append_assoc]
      exact inductionHypothesis (orderly.perform step) (course.perform orderly quiet.1) quiet.2

end OnCourse

/-- Nothing is reported of a process that is not followed. -/
theorem reported_of_not_followed (orderly : p.Orderly) (missing : p.hub.find? id = none)
    {steps : List Step} (quiet : p.reopens id steps = false) : p.reported id steps = [] := by
  induction steps generalizing p with
  | nil => rfl
  | cons step rest inductionHypothesis =>
      rw [reopens, Bool.or_eq_false_iff] at quiet
      have still : (p.perform step).1.hub.find? id = none := by
        cases after : (p.perform step).1.hub.find? id with
        | none => rfl
        | some t =>
            rcases advances orderly quiet.1 after with ⟨s, before, _advance⟩
            rw [missing] at before
            cases before
      rw [reported, changesOf_perform orderly, missing,
        inductionHypothesis (orderly.perform step) still quiet.2]
      rfl

theorem find?_of_removes {step : Step} (removes : step.removes id = true) :
    (p.perform step).1.hub.find? id = none := by
  cases step with
  | teardown => rfl
  | sync ps =>
      cases after : (p.perform (.sync ps)).1.hub.find? id with
      | none => rfl
      | some t =>
          rcases Hub.find?_sync_listed after with ⟨q, listed, named⟩
          have other := of_decide_eq_true (List.all_eq_true.mp removes q listed)
          exact absurd named other
  | setClock now => cases removes
  | resubscribe other => cases removes
  | refuseNext other message => cases removes
  | send other frame => cases removes
  | fail other message => cases removes
  | close other => cases removes
  | next => cases removes
  | drain => cases removes

/-- A synchronization in which a process stays keeps its subscription, and does not
try to connect to it. -/
theorem sync_stays (orderly : p.Orderly) {s : Subscription} (before : p.hub.find? id = some s)
    {ps : List Execution} {q : Execution} (listed : q ∈ ps) (named : q.id = id) :
    (∃ description, (p.sync ps).hub.find? id = some (s.described description)) ∧
      (p.sync ps).transport.attemptsOf id = p.transport.attemptsOf id := by
  subst named
  rcases p.hub.find?_sync_of_mem listed p.clock with ⟨t, after⟩
  rcases Hub.find?_sync_of_some before after with ⟨description, _owner, same⟩
  rw [same] at after
  refine ⟨⟨description, after⟩, ?_⟩
  apply Loopback.attemptsOf_connectAll_others
  exact opened_others (orderly.sound.sync ps p.clock) (orderly.le_of_described before after)

/-- The lifecycle of a stream, at every moment of every run. What is reported of a
process between being opened and being opened again is a lifecycle, and nothing
follows a final change. Nothing is reported of a process that left the set. And a
synchronization in which a process stays keeps its link and its feed, and makes no
attempt to connect. -/
theorem stream_lifecycle (settings : Settings) (backend : Backend) (grouped : Bool) (now : Int)
    (before : List Step) (id : Uuid) :
    let p := (start settings backend grouped now).run before
    (∀ step after, p.opens id step = true → (p.perform step).1.reopens id after = false →
      Lifecycle ((p.perform step).1.reported id after) ∧
        ∀ first rest, after = first ++ rest →
          (∃ change ∈ (p.perform step).1.reported id first, change.isFinal = true) →
            ((p.perform step).1.run first).reported id rest = []) ∧
      (∀ step after, step.removes id = true → (p.perform step).1.reopens id after = false →
        (p.perform step).1.reported id after = []) ∧
      ∀ s ps, p.hub.find? id = some s → (∃ q ∈ ps, q.id = id) →
        (∃ description, (p.sync ps).hub.find? id = some (s.described description)) ∧
          (p.sync ps).transport.attemptsOf id = p.transport.attemptsOf id := by
  intro p
  have orderly : p.Orderly := (Orderly.start settings backend grouped now).run before
  refine ⟨?_, ?_, ?_⟩
  · intro step after opening quiet
    have course := (OnCourse.begun orderly opening).run (orderly.perform step) quiet
    rw [List.nil_append] at course
    refine ⟨course.lifecycle, ?_⟩
    rintro first rest parts ⟨change, listed, final⟩
    have lifecycle := course.lifecycle
    rw [parts, reported_append] at lifecycle
    exact lifecycle.eq_nil_of_final listed final
  · intro step after removes quiet
    exact reported_of_not_followed (orderly.perform step) (find?_of_removes removes) quiet
  · rintro s ps found ⟨q, listed, named⟩
    exact sync_stays orderly found listed named

/-- A script is resubscribed while reports of its first connection are queued. Its
second connection says that the stream is finished, and then goes on. -/
theorem finished_before_the_end :
    let backend := Backend.atHost "b"
    let script : Execution := ⟨default, .setupScript, .running, false⟩
    let line (text : String) : Frame := .event "stdout" text
    let before : List Step := [.sync [script], .send script.id (line "early")]
    let first : List Step := [.next, .send script.id (line "kept"),
      .send script.id (.event "finished" ""), .send script.id (line "late"), .close script.id,
      .next, .next]
    let rest : List Step := [.sync [script], .drain]
    let p := (start Settings.default backend true 0).run before
    let q := (p.perform (.resubscribe script.id)).1
    q.reported script.id first = [.connected, .entries, .finished] ∧
      Lifecycle (q.reported script.id (first ++ rest)) ∧
      (q.run first).queue.length = 2 ∧ (q.run first).reported script.id rest = [] ∧
      p.queue.length = 2 ∧ (p.perform .teardown).1.reported script.id [.drain] = [] ∧
      (p.sync [script]).transport.attemptsOf script.id = 1 := by
  intro backend script line before first rest p q
  rcases stream_lifecycle Settings.default backend true 0 before script.id with
    ⟨course, removed, stays⟩
  have opening : p.opens script.id (.resubscribe script.id) = true := by decide +kernel
  have quiet : q.reopens script.id (first ++ rest) = false := by decide +kernel
  have reports : q.reported script.id first = [.connected, .entries, .finished] := by
    decide +kernel
  rcases course (.resubscribe script.id) (first ++ rest) opening quiet with ⟨lifecycle, nothing⟩
  have final : ∃ change ∈ q.reported script.id first, change.isFinal = true := by
    rw [reports]
    decide
  have behind : (q.run first).queue.length = 2 := by decide +kernel
  have queued : p.queue.length = 2 := by decide +kernel
  have gone : (p.perform .teardown).1.reported script.id [.drain] = [] :=
    removed .teardown [.drain] rfl (by decide +kernel)
  have followed : (p.hub.find? script.id).isSome = true := by decide +kernel
  have once : p.transport.attemptsOf script.id = 1 := by decide +kernel
  rcases Option.isSome_iff_exists.mp followed with ⟨s, found⟩
  have attempts := (stays s [script] found ⟨script, List.mem_singleton.mpr rfl, rfl⟩).2
  exact ⟨reports, lifecycle, behind, nothing first rest rfl final, queued, gone,
    attempts.trans once⟩

end Pipeline

end LiveLog
