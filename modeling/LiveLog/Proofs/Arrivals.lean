import LiveLog.Proofs.EntryList
import LiveLog.Proofs.Replay
import Mathlib.Data.List.Nodup

namespace LiveLog

/-!
# Lines in the order in which they arrived

A buffer counts the lines that it is given. What it keeps is in the order of these
counts and of the arrival stamps, and a line that has once been kept is either kept
as it is or gone: no later line takes its position. While nothing is let go the
buffer is the list of all lines, and it grows at its end only.

A feed hands the lines that a signal brings to its buffer if it is the feed of a
script, and leaves its buffer alone if it is the feed of an agent. The units of a
conversation are in the order of their indices, because each snapshot is read off
a document from front to back.
-/

namespace LineBuffer

variable {a b c : LineBuffer} {unit : LogUnit} {now : Int}

/-- The line that a unit becomes when it arrives. -/
def arriving (b : LineBuffer) (unit : LogUnit) (now : Int) : Line :=
  ⟨b.next, unit, b.stamp now, unit.size⟩

theorem lines_push_suffix (b : LineBuffer) (unit : LogUnit) (now : Int) :
    (b.push unit now).lines <:+ b.lines ++ [b.arriving unit now] :=
  trim_suffix _ _ _ _ _

theorem lines_push_sublist (b : LineBuffer) (unit : LogUnit) (now : Int) :
    (b.push unit now).lines.Sublist (b.lines ++ [b.arriving unit now]) :=
  (b.lines_push_suffix unit now).sublist

theorem next_push (b : LineBuffer) (unit : LogUnit) (now : Int) :
    (b.push unit now).next = b.next + 1 := rfl

theorem evicted_push (evicted : b.evicted = true) (unit : LogUnit) (now : Int) :
    (b.push unit now).evicted = true := by
  unfold push
  simp only [evicted, Bool.true_or]

/-- A line is let go, or the new line comes behind all others. -/
theorem lines_push (kept : (b.push unit now).evicted = false) :
    (b.push unit now).lines = b.lines ++ [b.arriving unit now] := by
  have fewer : ¬ (b.push unit now).count < b.count + 1 := by
    unfold push at kept ⊢
    exact of_decide_eq_false (Bool.or_eq_false_iff.mp kept).2
  apply (b.lines_push_suffix unit now).eq_of_length_le
  rw [List.length_append, List.length_singleton, ← b.count_eq, ← (b.push unit now).count_eq]
  exact Nat.le_of_not_lt fewer

/-- The kept lines are in the order of their positions and of their stamps, and all
before the next one. -/
structure InOrder (b : LineBuffer) : Prop where
  positions : b.lines.Pairwise fun k l => k.position < l.position
  arrivals : b.lines.Pairwise fun k l => k.arrivedAt ≤ l.arrivedAt
  bounded : ∀ line ∈ b.lines, line.position < b.next

namespace InOrder

theorem empty (s : Settings) : (LineBuffer.empty s).InOrder where
  positions := List.Pairwise.nil
  arrivals := List.Pairwise.nil
  bounded := fun _line listed => absurd listed List.not_mem_nil

theorem arrivedAt_le_stamp (inOrder : b.InOrder) (now : Int) {line : Line}
    (listed : line ∈ b.lines) : line.arrivedAt ≤ b.stamp now := by
  unfold stamp
  rcases List.eq_nil_or_concat b.lines with none | ⟨before, last, split⟩
  · rw [none] at listed
    cases listed
  · rw [List.concat_eq_append] at split
    have arrivals := inOrder.arrivals
    rw [split, List.pairwise_append] at arrivals
    rw [split] at listed
    rw [split, List.getLast?_concat]
    rcases List.mem_append.mp listed with earlier | same
    · exact Int.le_trans (arrivals.2.2 line earlier last List.mem_cons_self) (Int.le_max_right _ _)
    · rw [List.mem_singleton.mp same]
      exact Int.le_max_right _ _

theorem push (inOrder : b.InOrder) (unit : LogUnit) (now : Int) : (b.push unit now).InOrder where
  positions := by
    apply List.Pairwise.sublist (b.lines_push_sublist unit now)
    refine List.pairwise_append.mpr ⟨inOrder.positions, List.pairwise_singleton _ _, ?_⟩
    intro line listed last same
    rw [List.mem_singleton.mp same]
    exact inOrder.bounded line listed
  arrivals := by
    apply List.Pairwise.sublist (b.lines_push_sublist unit now)
    refine List.pairwise_append.mpr ⟨inOrder.arrivals, List.pairwise_singleton _ _, ?_⟩
    intro line listed last same
    rw [List.mem_singleton.mp same]
    exact inOrder.arrivedAt_le_stamp now listed
  bounded := by
    intro line listed
    rw [next_push]
    rcases List.mem_append.mp ((b.lines_push_suffix unit now).subset listed) with old | new
    · exact Nat.lt_succ_of_lt (inOrder.bounded line old)
    · rw [List.mem_singleton.mp new]
      exact Nat.lt_succ_self b.next

/-- A position tells the line that a buffer keeps. -/
theorem eq_of_position (inOrder : b.InOrder) {k l : Line} (first : k ∈ b.lines)
    (second : l ∈ b.lines) (same : k.position = l.position) : k = l := by
  have nodup : (b.lines.map Line.position).Nodup := by
    rw [List.Nodup, List.pairwise_map]
    exact inOrder.positions.imp Nat.ne_of_lt
  exact List.inj_on_of_nodup_map nodup first second same

end InOrder

/-- What has become of a buffer that is given lines. -/
structure Extends (b c : LineBuffer) : Prop where
  known : ∀ line ∈ c.lines, line ∈ b.lines ∨ b.next ≤ line.position
  next_le : b.next ≤ c.next
  evicted : b.evicted = true → c.evicted = true
  whole : c.evicted = false → b.lines <+: c.lines

namespace Extends

theorem refl (b : LineBuffer) : b.Extends b where
  known := fun _line listed => Or.inl listed
  next_le := Nat.le_refl b.next
  evicted := id
  whole := fun _ => List.prefix_refl b.lines

theorem trans (first : a.Extends b) (second : b.Extends c) : a.Extends c where
  known := by
    intro line listed
    rcases second.known line listed with old | new
    · exact first.known line old
    · exact Or.inr (Nat.le_trans first.next_le new)
  next_le := Nat.le_trans first.next_le second.next_le
  evicted := second.evicted ∘ first.evicted
  whole := by
    intro kept
    have before : b.evicted = false := by
      rw [← Bool.not_eq_true]
      intro evicted
      rw [second.evicted evicted] at kept
      cases kept
    exact (first.whole before).trans (second.whole kept)

theorem push (b : LineBuffer) (unit : LogUnit) (now : Int) : b.Extends (b.push unit now) where
  known := by
    intro line listed
    rcases List.mem_append.mp ((b.lines_push_suffix unit now).subset listed) with old | new
    · exact Or.inl old
    · rw [List.mem_singleton.mp new]
      exact Or.inr (Nat.le_refl b.next)
  next_le := Nat.le_succ b.next
  evicted := fun evicted => evicted_push evicted unit now
  whole := by
    intro kept
    rw [lines_push kept]
    exact List.prefix_append _ _

end Extends

/-! ## Several lines -/

/-- Keep some units that arrive at the same time. -/
def pushAll (b : LineBuffer) (units : List LogUnit) (now : Int) : LineBuffer :=
  units.foldl (fun b u => b.push u now) b

theorem InOrder.pushAll (inOrder : b.InOrder) (units : List LogUnit) (now : Int) :
    (b.pushAll units now).InOrder := by
  induction units generalizing b with
  | nil => exact inOrder
  | cons u units inductionHypothesis => exact inductionHypothesis (inOrder.push u now)

theorem Extends.pushAll (b : LineBuffer) (units : List LogUnit) (now : Int) :
    b.Extends (b.pushAll units now) := by
  induction units generalizing b with
  | nil => exact Extends.refl b
  | cons u units inductionHypothesis =>
      exact (Extends.push b u now).trans (inductionHypothesis (b.push u now))

end LineBuffer

/-! ## Signals and feeds -/

/-- The lines that a message brings to a script. -/
def Message.lines : Message → List LogUnit
  | .stdout text => [.stdout text]
  | .stderr text => [.stderr text]
  | .patch operations => Feed.addedLines operations
  | .sessionId _ => []
  | .finished => []

/-- The message that a signal brings. -/
def Signal.message? : Signal → Option Message
  | opened => none
  | frame f => (Message.decode f).toOption.join
  | ended => none
  | failed _ => none

/-- The lines that a signal brings to a script. -/
def Signal.lines (s : Signal) : List LogUnit := (s.message?.map Message.lines).getD []

/-- The units of a published snapshot are in the order of their indices. -/
def Conversation.InOrder (c : Conversation) : Prop :=
  c.snapshot.entries.Pairwise fun d e => d.index < e.index

theorem Conversation.InOrder.applyBatch {c : Conversation} (inOrder : c.InOrder) (patch : Patch)
    (now : Int) : (c.applyBatch patch now).1.InOrder := by
  unfold Conversation.applyBatch Conversation.InOrder
  simp only
  split
  · exact Snapshot.pairwise_unitsFrom 0 _
  · exact inOrder

namespace Feed

/-- The feed after a message, whether or not the message changes it. -/
def hear (f : Feed) (m : Message) (now : Int) : Feed := ((f.takeMessage m now).map Prod.fst).getD f

section Signals

variable {f : Feed} {s : Signal} {now : Int}

theorem after_of_message {m : Message} (brought : s.message? = some m) :
    f.after s now = f.hear m now := by
  cases s with
  | opened => cases brought
  | ended => cases brought
  | failed text => cases brought
  | frame frame =>
      change (Message.decode frame).toOption.join = some m at brought
      unfold after take hear
      cases decoded : Message.decode frame with
      | error e =>
          rw [decoded] at brought
          cases brought
      | ok found =>
          rw [decoded] at brought
          change found = some m at brought
          subst brought
          simp only [decoded]
          cases f.takeMessage m now <;> rfl

/-- A signal without a message stores nothing. -/
theorem after_of_no_message (f : Feed) (now : Int) (silent : s.message? = none) :
    (f.after s now).lines = f.lines ∧ (f.after s now).conversation = f.conversation := by
  cases s with
  | opened => exact ⟨rfl, rfl⟩
  | ended => exact ⟨rfl, rfl⟩
  | failed text => exact ⟨rfl, rfl⟩
  | frame frame =>
      change (Message.decode frame).toOption.join = none at silent
      unfold after take
      cases decoded : Message.decode frame with
      | error e =>
          simp only [decoded, and_self]
      | ok found =>
          rw [decoded] at silent
          change found = none at silent
          subst silent
          simp only [decoded, and_self]

theorem hear_of_raw (script : f.kind = .raw) (m : Message) :
    (f.hear m now).lines = f.lines.pushAll m.lines now ∧
      (f.hear m now).conversation = f.conversation := by
  unfold hear takeMessage
  rw [script]
  cases m with
  | stdout text => exact ⟨rfl, rfl⟩
  | stderr text => exact ⟨rfl, rfl⟩
  | patch operations =>
      unfold Message.lines
      simp only
      unfold takeLines
      cases addedLines operations with
      | nil => exact ⟨rfl, rfl⟩
      | cons u units => exact ⟨rfl, rfl⟩
  | sessionId text => exact ⟨rfl, rfl⟩
  | finished => exact ⟨rfl, rfl⟩

theorem hear_of_normalized (agent : f.kind = .normalized) (m : Message) :
    (f.hear m now).lines = f.lines ∧
      ((f.hear m now).conversation = f.conversation ∨
        ∃ patch, (f.hear m now).conversation = (f.conversation.applyBatch patch now).1) := by
  unfold hear takeMessage
  rw [agent]
  cases m with
  | stdout text => exact ⟨rfl, Or.inl rfl⟩
  | stderr text => exact ⟨rfl, Or.inl rfl⟩
  | patch operations =>
      unfold takePatch
      simp only [Option.map_some, Option.getD_some]
      split
      · exact ⟨rfl, Or.inr ⟨operations, rfl⟩⟩
      · exact ⟨rfl, Or.inr ⟨operations, rfl⟩⟩
  | sessionId text => exact ⟨rfl, Or.inl rfl⟩
  | finished => exact ⟨rfl, Or.inl rfl⟩

/-- The feed of a script keeps the lines that a signal brings. -/
theorem after_of_raw (script : f.kind = .raw) (s : Signal) (now : Int) :
    (f.after s now).lines = f.lines.pushAll s.lines now ∧
      (f.after s now).conversation = f.conversation := by
  unfold Signal.lines
  cases brought : s.message? with
  | none => exact f.after_of_no_message now brought
  | some m =>
      rw [after_of_message brought]
      exact hear_of_raw script m

/-- The feed of an agent keeps no lines, and applies at most one patch. -/
theorem after_of_normalized (agent : f.kind = .normalized) (s : Signal) (now : Int) :
    (f.after s now).lines = f.lines ∧
      ((f.after s now).conversation = f.conversation ∨
        ∃ patch, (f.after s now).conversation = (f.conversation.applyBatch patch now).1) := by
  cases brought : s.message? with
  | none =>
      rcases f.after_of_no_message now brought with ⟨lines, conversation⟩
      exact ⟨lines, Or.inl conversation⟩
  | some m =>
      rw [after_of_message brought]
      exact hear_of_normalized agent m

end Signals

/-- The lines and the conversation of a feed are in order. -/
structure InOrder (f : Feed) : Prop where
  lines : f.lines.InOrder
  conversation : f.conversation.InOrder

namespace InOrder

variable {f : Feed}

theorem after (inOrder : f.InOrder) (s : Signal) (now : Int) : (f.after s now).InOrder := by
  cases kind : f.kind with
  | raw =>
      rcases after_of_raw kind s now with ⟨lines, conversation⟩
      constructor
      · rw [lines]
        exact inOrder.lines.pushAll s.lines now
      · rw [conversation]
        exact inOrder.conversation
  | normalized =>
      rcases after_of_normalized kind s now with ⟨lines, same | ⟨patch, applied⟩⟩
      · constructor
        · rw [lines]
          exact inOrder.lines
        · rw [same]
          exact inOrder.conversation
      · constructor
        · rw [lines]
          exact inOrder.lines
        · rw [applied]
          exact inOrder.conversation.applyBatch patch now

/-- The positions of what a feed shows increase. -/
theorem source (inOrder : f.InOrder) :
    f.source.entries.Pairwise fun d e => d.position < e.position := by
  unfold Feed.source
  cases f.kind with
  | raw => exact List.pairwise_map.mpr inOrder.lines.positions
  | normalized => exact List.pairwise_map.mpr inOrder.conversation

end InOrder

/-- The lines of a feed that takes a signal go on as those of a buffer that is
given lines. -/
theorem extends_after (f : Feed) (s : Signal) (now : Int) :
    f.lines.Extends (f.after s now).lines := by
  cases kind : f.kind with
  | raw =>
      rw [(after_of_raw kind s now).1]
      exact LineBuffer.Extends.pushAll f.lines s.lines now
  | normalized =>
      rw [(after_of_normalized kind s now).1]
      exact LineBuffer.Extends.refl f.lines

theorem kind_after (f : Feed) (s : Signal) (now : Int) : (f.after s now).kind = f.kind :=
  congrArg Execution.kind (f.process_after s now)

end Feed

end LiveLog
