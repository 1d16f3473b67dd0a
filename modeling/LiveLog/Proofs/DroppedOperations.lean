import LiveLog.Conversation
import Mathlib.Data.List.Basic

namespace LiveLog

/-!
# What dropped operations leave behind

An operation that fails is dropped and reported, and the report suggests that it
did nothing: the same batch without the reported operations should lead to the
same document, the same count and the same snapshot. `Conversation.NoTrace` says
so for one batch.

Five of the six kinds of operation keep to it, and so does the second attempt of
a replacement as an addition. A move does not: its value is taken away before a
place for it is known to exist. Such a loss can be read off the report, because a
move that is reported for its target has lost its value and no other reported
operation has. The main result says that this is the only way in which a dropped
operation leaves a trace.
-/

namespace Assoc

variable {κ : Type} {α : Type} [DecidableEq κ]

/-- A present key makes room for one member less. -/
theorem length_swapErase {k : κ} {ps : List (κ × α)} (present : (ps.lookup k).isSome) :
    (swapErase k ps).length + 1 = ps.length := by
  have member : ∃ p ∈ ps, decide (p.1 = k) = true := by
    rcases Option.isSome_iff_exists.mp present with ⟨a, found⟩
    rcases List.lookup_eq_some_iff.mp found with ⟨before, after, split, -⟩
    refine ⟨(k, a), ?_, decide_eq_true rfl⟩
    rw [split]
    exact List.mem_append_right _ List.mem_cons_self
  have placed : (ps.findIdx? fun p => decide (p.1 = k)).isSome := by
    rw [List.findIdx?_isSome]
    exact List.any_eq_true.mpr member
  have filled : ps ≠ [] := by
    intro empty
    rcases member with ⟨p, listed, -⟩
    rw [empty] at listed
    cases listed
  rcases Option.isSome_iff_exists.mp placed with ⟨i, index⟩
  have positive := List.length_pos_iff.mpr filled
  unfold swapErase
  rw [index, List.getLast?_eq_some_getLast filled]
  simp only [List.length_dropLast, List.length_set]
  omega

end Assoc

namespace Json

/-- A container without a child is not the container. -/
theorem removeChild?_ne {token : String} {v w : Json}
    (removed : removeChild? token v = some w) : w ≠ v := by
  intro same
  cases v with
  | obj ms =>
      simp only [removeChild?, Option.ite_none_right_eq_some] at removed
      have shorter := Assoc.length_swapErase removed.1
      have unchanged := Json.obj.inj ((Option.some.inj removed.2).trans same)
      rw [unchanged] at shorter
      omega
  | arr xs =>
      simp only [removeChild?, Option.bind_eq_some_iff, Option.ite_none_right_eq_some] at removed
      rcases removed with ⟨i, -, inside, erased⟩
      have shorter := List.length_eraseIdx_of_lt inside
      have unchanged := Json.arr.inj ((Option.some.inj erased).trans same)
      rw [unchanged] at shorter
      omega
  | null => cases removed
  | bool b => cases removed
  | num n => cases removed
  | str s => cases removed

/-- A change at the end of a way is a change of the document. -/
theorem modify?_ne {f : Json → Option Json} (changes : ∀ {x y}, f x = some y → y ≠ x)
    {ts : List String} {v w : Json} (modified : modify? f ts v = some w) : w ≠ v := by
  induction ts generalizing v w with
  | nil => exact changes modified
  | cons t ts inductionHypothesis =>
      intro same
      cases v with
      | obj ms =>
          simp only [modify?, Option.bind_eq_bind, Option.bind_eq_some_iff] at modified
          rcases modified with ⟨x, found, y, changed, rebuilt⟩
          have stored := Json.obj.inj ((Option.some.inj rebuilt).trans same)
          have read := Assoc.lookup_set_self t y ms
          rw [stored, found] at read
          exact inductionHypothesis changed (Option.some.inj read).symm
      | arr xs =>
          simp only [modify?, Option.bind_eq_bind, Option.bind_eq_some_iff] at modified
          rcases modified with ⟨i, -, x, found, y, changed, rebuilt⟩
          have stored := Json.arr.inj ((Option.some.inj rebuilt).trans same)
          have read : (xs.set i y)[i]? = some y :=
            List.getElem?_set_self (List.getElem?_eq_some_iff.mp found).1
          rw [stored, found] at read
          exact inductionHypothesis changed (Option.some.inj read).symm
      | null => cases modified
      | bool b => cases modified
      | num n => cases modified
      | str s => cases modified

/-- What is taken away is missed. -/
theorem remove?_ne {doc without : Json} {path : Pointer}
    (removed : doc.remove? path = some without) : without ≠ doc := by
  unfold remove? at removed
  split at removed
  · cases removed
  · exact modify?_ne removeChild?_ne removed

end Json

namespace Operation

/-- A move either stops before it takes its value, or it is stopped at its target
with the value taken away. -/
theorem move_stopped {source path : Pointer} {doc : Json} {o : Obstacle}
    (stopped : ((move source path).apply doc).2 = some o) :
    (o ≠ .noPath ∧ ((move source path).apply doc).1 = doc) ∨
      (o = .noPath ∧ doc.remove? source = some ((move source path).apply doc).1) := by
  simp only [apply] at stopped ⊢
  by_cases into : leadsInto source path
  · rw [if_pos into] at stopped ⊢
    cases stopped
    exact Or.inl ⟨Obstacle.noConfusion, rfl⟩
  · rw [if_neg into] at stopped ⊢
    split at stopped
    · rename_i value without resolved removed
      cases added : without.add? path value with
      | some doc' =>
          rw [added] at stopped
          cases stopped
      | none =>
          rw [added] at stopped
          cases stopped
          exact Or.inr ⟨rfl, removed⟩
    · cases stopped
      exact Or.inl ⟨Obstacle.noConfusion, rfl⟩

end Operation

namespace Dropped

/-- Whether the report is that of a move which found its source but no place for
the value. -/
def losesValue (d : Dropped) : Bool :=
  match d.operation, d.obstacle with
  | .move _ _, .noPath => true
  | _, _ => false

end Dropped

namespace Patch

/-- The operations that are not reported, in order; the first of all has the
given index. -/
def retainedFrom (start : Nat) (dropped : List Dropped) (patch : Patch) : Patch :=
  (patch.zipIdx start).filterMap fun (op, index) =>
    if dropped.any (fun d => d.index = index) then none else some op

/-- The batch without the operations that are reported. -/
def without (dropped : List Dropped) (patch : Patch) : Patch := retainedFrom 0 dropped patch

end Patch

namespace Conversation

/-- A report names the operation that it is about, and its index. -/
theorem report_of_dropped {index : Nat} {op : Operation} {doc : Json} {d : Dropped}
    (dropped : (applyOperation index op doc).2 = some d) : d.index = index ∧ d.operation = op := by
  unfold applyOperation at dropped
  split at dropped
  · cases dropped
  · split at dropped
    · split at dropped
      · cases dropped
      · rw [← Option.some.inj dropped]
        exact ⟨rfl, rfl⟩
    · rw [← Option.some.inj dropped]
      exact ⟨rfl, rfl⟩

/-- A dropped operation changes the document exactly when it is a move that lost
its value. -/
theorem applyOperation_fst_eq_iff {index : Nat} {op : Operation} {doc : Json} {d : Dropped}
    (dropped : (applyOperation index op doc).2 = some d) :
    (applyOperation index op doc).1 = doc ↔ d.losesValue = false := by
  have reported := (report_of_dropped dropped).2
  by_cases isMove : ∃ source path, op = .move source path
  · rcases isMove with ⟨source, path, rfl⟩
    rcases result : (Operation.move source path).apply doc with ⟨doc', _ | o⟩
    · simp only [applyOperation, result] at dropped
      cases dropped
    · simp only [applyOperation, result] at dropped ⊢
      cases dropped
      have stopped := Operation.move_stopped (congrArg Prod.snd result)
      rw [result] at stopped
      rcases stopped with ⟨early, kept⟩ | ⟨rfl, removed⟩
      · have whole : Dropped.losesValue ⟨index, .move source path, o, none⟩ = false := by
          cases o with
          | noPath => exact absurd rfl early
          | noSource => rfl
          | mismatch => rfl
          | intoItself => rfl
        exact ⟨fun _ => whole, fun _ => kept⟩
      · exact ⟨fun kept => absurd kept (Json.remove?_ne removed), fun whole => by cases whole⟩
  · have kept := applyOperation_fst_of_dropped
      (fun source path same => isMove ⟨source, path, same⟩) dropped
    have whole : d.losesValue = false := by
      unfold Dropped.losesValue
      rw [reported]
      split
      · exact absurd ⟨_, _, rfl⟩ isMove
      · rfl
    exact ⟨fun _ => whole, fun _ => kept⟩

/-- Whether an operation succeeds, and what it makes of the document, does not
depend on its index. -/
theorem applyOperation_of_succeeds {index : Nat} {op : Operation} {doc : Json} (other : Nat)
    (succeeds : (applyOperation index op doc).2 = none) :
    applyOperation other op doc = ((applyOperation index op doc).1, none) := by
  rcases result : op.apply doc with ⟨doc', _ | o⟩
  · simp only [applyOperation, result]
  · cases op with
    | replace path value =>
        rcases again : (Operation.add path value).apply doc' with ⟨doc'', _ | o'⟩
        · simp only [applyOperation, result, again]
        · simp only [applyOperation, result, again] at succeeds
          cases succeeds
    | _ =>
        simp only [applyOperation, result] at succeeds
        cases succeeds

theorem applyFrom_cons_of_succeeds {start : Nat} {op : Operation} {doc : Json}
    (succeeds : (applyOperation start op doc).2 = none) (ops : Patch) :
    applyFrom start doc (op :: ops) =
      ((applyFrom (start + 1) (applyOperation start op doc).1 ops).1,
        (applyFrom (start + 1) (applyOperation start op doc).1 ops).2.addApplied) := by
  rw [applyFrom, applyOperation_of_succeeds start succeeds]

theorem applyFrom_cons_of_dropped {start : Nat} {op : Operation} {doc : Json} {d : Dropped}
    (dropped : (applyOperation start op doc).2 = some d) (ops : Patch) :
    applyFrom start doc (op :: ops) =
      ((applyFrom (start + 1) (applyOperation start op doc).1 ops).1,
        (applyFrom (start + 1) (applyOperation start op doc).1 ops).2.addDropped d) := by
  rw [applyFrom, show applyOperation start op doc = ((applyOperation start op doc).1, some d) from
    Prod.ext rfl dropped]

/-- The reports of a batch carry indices of the batch. -/
theorem start_le_of_mem_dropped {start : Nat} {doc : Json} {patch : Patch} {d : Dropped}
    (reported : d ∈ (applyFrom start doc patch).2.dropped) : start ≤ d.index := by
  induction patch generalizing start doc with
  | nil => cases reported
  | cons op ops inductionHypothesis =>
      cases result : (applyOperation start op doc).2 with
      | none =>
          rw [applyFrom_cons_of_succeeds result] at reported
          exact Nat.le_of_succ_le (inductionHypothesis reported)
      | some first =>
          rw [applyFrom_cons_of_dropped result] at reported
          rcases List.mem_cons.mp reported with rfl | later
          · exact Nat.le_of_eq (report_of_dropped result).1.symm
          · exact Nat.le_of_succ_le (inductionHypothesis later)

/-- A beginning of a batch reports nothing that the batch does not report. -/
theorem mem_dropped_of_mem_take {start : Nat} {doc : Json} {patch : Patch} {d : Dropped} {k : Nat}
    (reported : d ∈ (applyFrom start doc (patch.take k)).2.dropped) :
    d ∈ (applyFrom start doc patch).2.dropped := by
  induction patch generalizing start doc k with
  | nil =>
      rw [List.take_nil] at reported
      exact reported
  | cons op ops inductionHypothesis =>
      cases k with
      | zero => cases reported
      | succ k =>
          rw [List.take_succ_cons] at reported
          cases result : (applyOperation start op doc).2 with
          | none =>
              rw [applyFrom_cons_of_succeeds result] at reported ⊢
              exact inductionHypothesis reported
          | some first =>
              rw [applyFrom_cons_of_dropped result] at reported ⊢
              rcases List.mem_cons.mp reported with rfl | later
              · exact List.mem_cons_self
              · exact List.mem_cons_of_mem _ (inductionHypothesis later)

end Conversation

namespace Patch

theorem retainedFrom_cons_of_not_mem {start : Nat} {dropped : List Dropped}
    (unreported : ∀ d ∈ dropped, d.index ≠ start) (op : Operation) (ops : Patch) :
    retainedFrom start dropped (op :: ops) = op :: retainedFrom (start + 1) dropped ops := by
  have absent : (dropped.any fun d => d.index = start) = false := by
    rw [List.any_eq_false]
    intro d listed
    rw [decide_eq_true_eq]
    exact unreported d listed
  simp only [retainedFrom, List.zipIdx_cons, List.filterMap_cons, absent, Bool.false_eq_true,
    if_false]

/-- The report of the first operation removes that operation and no later one. -/
theorem retainedFrom_cons_of_mem {start : Nat} {d : Dropped} (index : d.index = start)
    (dropped : List Dropped) (op : Operation) (ops : Patch) :
    retainedFrom start (d :: dropped) (op :: ops) = retainedFrom (start + 1) dropped ops := by
  have present : ((d :: dropped).any fun d => d.index = start) = true := by
    rw [List.any_cons, decide_eq_true index, Bool.true_or]
  simp only [retainedFrom, List.zipIdx_cons, List.filterMap_cons, present, if_true]
  apply List.filterMap_congr
  rintro ⟨later, place⟩ listed
  have after : start + 1 ≤ place := (List.mem_zipIdx listed).1
  have other : decide (d.index = place) = false := decide_eq_false (by omega)
  simp only [List.any_cons, other, Bool.false_or]

end Patch

namespace Conversation

/-- The report of the first operation is no report of a later one. -/
theorem ne_start_of_mem_dropped {start : Nat} {doc : Json} {patch : Patch} {d : Dropped}
    (reported : d ∈ (applyFrom (start + 1) doc patch).2.dropped) : d.index ≠ start := by
  have later := start_le_of_mem_dropped reported
  omega

/-- The batch once more from another index on, without the operations that it
reported. -/
def replayFrom (start other : Nat) (doc : Json) (patch : Patch) : Json × BatchOutcome :=
  applyFrom other doc (Patch.retainedFrom start (applyFrom start doc patch).2.dropped patch)

theorem replayFrom_cons_of_succeeds {start : Nat} {op : Operation} {doc : Json}
    (succeeds : (applyOperation start op doc).2 = none) (other : Nat) (ops : Patch) :
    replayFrom start other doc (op :: ops) =
      ((replayFrom (start + 1) (other + 1) (applyOperation start op doc).1 ops).1,
        (replayFrom (start + 1) (other + 1) (applyOperation start op doc).1 ops).2.addApplied) := by
  have again := applyOperation_of_succeeds other succeeds
  unfold replayFrom
  rw [applyFrom_cons_of_succeeds succeeds]
  dsimp only [BatchOutcome.addApplied]
  rw [Patch.retainedFrom_cons_of_not_mem fun d => ne_start_of_mem_dropped,
    applyFrom_cons_of_succeeds (congrArg Prod.snd again), again]
  rfl

/-- The first operation is left out. What is reported of the others depends on
what it has made of the document. -/
theorem replayFrom_cons_of_dropped {start : Nat} {op : Operation} {doc : Json} {d : Dropped}
    (dropped : (applyOperation start op doc).2 = some d) (other : Nat) (ops : Patch) :
    replayFrom start other doc (op :: ops) =
      applyFrom other doc (Patch.retainedFrom (start + 1)
        (applyFrom (start + 1) (applyOperation start op doc).1 ops).2.dropped ops) := by
  unfold replayFrom
  rw [applyFrom_cons_of_dropped dropped]
  dsimp only [BatchOutcome.addDropped]
  rw [Patch.retainedFrom_cons_of_mem (report_of_dropped dropped).1]

/-- Where no move has lost its value, the operations that are not reported do by
themselves what the whole batch did. -/
theorem replayFrom_of_whole {start : Nat} {doc : Json} {patch : Patch}
    (whole : ∀ d ∈ (applyFrom start doc patch).2.dropped, d.losesValue = false) (other : Nat) :
    replayFrom start other doc patch =
      ((applyFrom start doc patch).1, ⟨(applyFrom start doc patch).2.applied, []⟩) := by
  induction patch generalizing start doc other with
  | nil => rfl
  | cons op ops inductionHypothesis =>
      cases result : (applyOperation start op doc).2 with
      | none =>
          rw [applyFrom_cons_of_succeeds result] at whole ⊢
          rw [replayFrom_cons_of_succeeds result, inductionHypothesis whole (other + 1)]
          rfl
      | some first =>
          rw [applyFrom_cons_of_dropped result] at whole ⊢
          have kept := (applyOperation_fst_eq_iff result).mpr (whole first List.mem_cons_self)
          have rest := inductionHypothesis (fun d listed => whole d (List.mem_cons_of_mem _ listed))
            other
          rw [replayFrom_cons_of_dropped result]
          rw [kept] at rest ⊢
          exact rest

/-- Whether the reported operations of a batch leave no trace: without them the
batch is clean, counts as many operations and leads to the same state. -/
def NoTrace (c : Conversation) (patch : Patch) (now : Int) : Prop :=
  let reported := (c.applyBatch patch now).2
  let again := c.applyBatch (patch.without reported.dropped) now
  again.2 = ⟨reported.applied, []⟩ ∧ again.1 = (c.applyBatch patch now).1

instance (c : Conversation) (patch : Patch) (now : Int) : Decidable (c.NoTrace patch now) :=
  inferInstanceAs (Decidable (_ ∧ _))

theorem noTrace_of_whole {c : Conversation} {patch : Patch} {now : Int}
    (whole : ∀ d ∈ (c.applyBatch patch now).2.dropped, d.losesValue = false) :
    c.NoTrace patch now := by
  have replayed := replayFrom_of_whole whole 0
  unfold replayFrom at replayed
  unfold NoTrace Patch.without
  dsimp only [applyBatch] at replayed ⊢
  rw [replayed]
  exact ⟨rfl, rfl⟩

/-- Where every beginning of a batch leads to the same document without its
reports, no move of the batch has lost its value. -/
theorem whole_of_replays {start : Nat} {doc : Json} {patch : Patch} (other : Nat)
    (replays : ∀ k, (replayFrom start other doc (patch.take k)).1 =
      (applyFrom start doc (patch.take k)).1) :
    ∀ d ∈ (applyFrom start doc patch).2.dropped, d.losesValue = false := by
  induction patch generalizing start other doc with
  | nil =>
      intro d impossible
      cases impossible
  | cons op ops inductionHypothesis =>
      cases result : (applyOperation start op doc).2 with
      | none =>
          rw [applyFrom_cons_of_succeeds result]
          apply inductionHypothesis (other + 1)
          intro k
          have longer := replays (k + 1)
          rw [List.take_succ_cons, replayFrom_cons_of_succeeds result,
            applyFrom_cons_of_succeeds result] at longer
          exact longer
      | some first =>
          have step (k : Nat) := replays (k + 1)
          simp only [List.take_succ_cons, replayFrom_cons_of_dropped result,
            applyFrom_cons_of_dropped result] at step
          have kept : (applyOperation start op doc).1 = doc := (step 0).symm
          rw [applyFrom_cons_of_dropped result]
          rw [kept] at step ⊢
          intro d listed
          rcases List.mem_cons.mp listed with rfl | later
          · exact (applyOperation_fst_eq_iff result).mp kept
          · exact inductionHypothesis other step d later

/-- A batch and all its beginnings can do without the operations that they
report, exactly when no move that is reported has lost its value. -/
theorem noTrace_take_iff (c : Conversation) (patch : Patch) (now : Int) :
    (∀ k, c.NoTrace (patch.take k) now) ↔
      ∀ d ∈ (c.applyBatch patch now).2.dropped, d.losesValue = false := by
  constructor
  · intro traceless
    apply whole_of_replays 0
    intro k
    exact congrArg Conversation.document (traceless k).2
  · intro whole k
    apply noTrace_of_whole
    intro d reported
    exact whole d (mem_dropped_of_mem_take reported)

/-- A move to a place that does not exist is reported as dropped, counts for
nothing and still takes the only entry away; the snapshot goes on showing it. -/
theorem move_leaves_trace :
    let before := (Conversation.empty.applyBatch (Patch.addUnit 0 (.stdout "a")) 1).1
    let batch : Patch := [.move (Patch.entryPath 0) ⟨["missing", "x"]⟩]
    let (after, outcome) := before.applyBatch batch 2
    outcome.applied = 0 ∧ outcome.dropped.map Dropped.index = [0] ∧
      before.document.member? "entries" = some (.arr [(LogUnit.stdout "a").toJson]) ∧
      after.document.member? "entries" = some (.arr []) ∧
      after.snapshot.entries = [⟨0, .stdout "a"⟩] ∧ ¬ before.NoTrace batch 2 := by
  decide +kernel

end Conversation

end LiveLog
