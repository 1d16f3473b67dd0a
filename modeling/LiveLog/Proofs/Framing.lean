import LiveLog.Proofs.DroppedOperations
import Mathlib.Algebra.Ring.Nat

namespace LiveLog

/-!
# How operations are cut into batches

The same operations may come as one batch or as many, and empty batches may come
in between. What is handed from one operation to the next is the document alone,
and the index of an operation enters nothing but its report. So however the
operations are cut, they lead to the same document, as many of them are applied,
and the same ones are reported, for the same reasons. Only the indices differ, and
only by the position at which a batch begins.

Neither the time of a batch nor the snapshot takes part in this. In particular a
snapshot that is published between two batches is not read by the second one.
-/

namespace Dropped

/-- The same report when so many more operations come first. -/
def behind (k : Nat) (d : Dropped) : Dropped := { d with index := k + d.index }

end Dropped

namespace BatchOutcome

/-- The same outcome when so many more operations come first. -/
def behind (k : Nat) (b : BatchOutcome) : BatchOutcome :=
  ⟨b.applied, b.dropped.map (Dropped.behind k)⟩

/-- The outcome of a batch and of a second one that goes on from it. -/
def append (first second : BatchOutcome) : BatchOutcome :=
  ⟨first.applied + second.applied, first.dropped ++ second.dropped⟩

theorem append_addApplied (first second : BatchOutcome) :
    (first.append second).addApplied = first.addApplied.append second := by
  simp only [append, addApplied, Nat.add_right_comm]

theorem append_addDropped (d : Dropped) (first second : BatchOutcome) :
    (first.append second).addDropped d = (first.addDropped d).append second := rfl

/-- The reports of consecutive batches, each counted from the first operation of
all. The first batch begins at the given position. -/
def reports (position : Nat) : List Patch → List BatchOutcome → List Dropped
  | patch :: patches, outcome :: outcomes =>
    (outcome.behind position).dropped ++ reports (position + patch.length) patches outcomes
  | _, _ => []

end BatchOutcome

namespace Conversation

/-! ## The index of an operation -/

/-- The index of an operation enters nothing but its report. -/
theorem applyOperation_behind (k index : Nat) (op : Operation) (doc : Json) :
    applyOperation (k + index) op doc =
      ((applyOperation index op doc).1, (applyOperation index op doc).2.map (Dropped.behind k)) := by
  rcases result : op.apply doc with ⟨doc', _ | o⟩
  · simp only [applyOperation, result, Option.map_none]
  · cases op with
    | replace path value =>
        rcases again : (Operation.add path value).apply doc' with ⟨doc'', _ | o'⟩
        · simp only [applyOperation, result, again, Option.map_none]
        · simp only [applyOperation, result, again, Option.map_some, Dropped.behind]
    | _ => simp only [applyOperation, result, Option.map_some, Dropped.behind]

/-- A batch does the same from any index on. -/
theorem applyFrom_behind (k start : Nat) (doc : Json) (patch : Patch) :
    applyFrom (k + start) doc patch =
      ((applyFrom start doc patch).1, (applyFrom start doc patch).2.behind k) := by
  induction patch generalizing start doc with
  | nil => rfl
  | cons op ops inductionHypothesis =>
      have first := applyOperation_behind k start op doc
      cases result : (applyOperation start op doc).2 with
      | none =>
          rw [result, Option.map_none] at first
          rw [applyFrom_cons_of_succeeds result, applyFrom_cons_of_succeeds (congrArg Prod.snd first),
            first, Nat.add_assoc, inductionHypothesis]
          rfl
      | some d =>
          rw [result, Option.map_some] at first
          rw [applyFrom_cons_of_dropped result, applyFrom_cons_of_dropped (congrArg Prod.snd first),
            first, Nat.add_assoc, inductionHypothesis]
          rfl

/-! ## Batches one after another -/

/-- The second part of a batch goes on from the document that the first one leaves,
and from the index after it. -/
theorem applyFrom_append (start : Nat) (doc : Json) (first second : Patch) :
    applyFrom start doc (first ++ second) =
      ((applyFrom (start + first.length) (applyFrom start doc first).1 second).1,
        (applyFrom start doc first).2.append
          (applyFrom (start + first.length) (applyFrom start doc first).1 second).2) := by
  induction first generalizing start doc with
  | nil => simp [applyFrom, BatchOutcome.append]
  | cons op ops inductionHypothesis =>
      have place : start + (op :: ops).length = start + 1 + ops.length := by
        rw [List.length_cons]
        omega
      rw [List.cons_append, place]
      cases result : (applyOperation start op doc).2 with
      | none =>
          rw [applyFrom_cons_of_succeeds result, applyFrom_cons_of_succeeds result,
            inductionHypothesis, BatchOutcome.append_addApplied]
      | some d =>
          rw [applyFrom_cons_of_dropped result, applyFrom_cons_of_dropped result,
            inductionHypothesis, BatchOutcome.append_addDropped]

/-- Apply batches in order, each at its time, and tell what became of each. -/
def applyBatches (c : Conversation) : List (Patch × Int) → Conversation × List BatchOutcome
  | [] => (c, [])
  | (patch, now) :: rest =>
    let (c', outcome) := c.applyBatch patch now
    let (c'', outcomes) := c'.applyBatches rest
    (c'', outcome :: outcomes)

theorem applyBatches_cons (c : Conversation) (patch : Patch) (now : Int)
    (rest : List (Patch × Int)) :
    c.applyBatches ((patch, now) :: rest) =
      (((c.applyBatch patch now).1.applyBatches rest).1,
        (c.applyBatch patch now).2 :: ((c.applyBatch patch now).1.applyBatches rest).2) := rfl

/-- What batches come to from a position on is what their operations come to as
one batch. -/
theorem applyFrom_flatten (c : Conversation) (position : Nat) (batches : List (Patch × Int)) :
    applyFrom position c.document (batches.map Prod.fst).flatten =
      ((c.applyBatches batches).1.document,
        ⟨((c.applyBatches batches).2.map BatchOutcome.applied).sum,
          BatchOutcome.reports position (batches.map Prod.fst) (c.applyBatches batches).2⟩) := by
  induction batches generalizing c position with
  | nil => rfl
  | cons batch rest inductionHypothesis =>
      obtain ⟨patch, now⟩ := batch
      have alone : applyFrom position c.document patch =
          ((c.applyBatch patch now).1.document, (c.applyBatch patch now).2.behind position) :=
        applyFrom_behind position 0 c.document patch
      rw [List.map_cons, List.flatten_cons, applyFrom_append, alone, inductionHypothesis,
        applyBatches_cons]
      rfl

/-! ## Every operation is counted -/

/-- Reports come in the order of the operations, and each names the operation at its
index. -/
theorem dropped_places (start : Nat) (doc : Json) (patch : Patch) :
    ((applyFrom start doc patch).2.dropped.Pairwise fun d e => d.index < e.index) ∧
      ∀ d ∈ (applyFrom start doc patch).2.dropped,
        patch[d.index - start]? = some d.operation := by
  induction patch generalizing start doc with
  | nil => exact ⟨List.Pairwise.nil, nofun⟩
  | cons op ops inductionHypothesis =>
      rcases inductionHypothesis (start + 1) (applyOperation start op doc).1 with ⟨ordered, placed⟩
      have later : ∀ d ∈ (applyFrom (start + 1) (applyOperation start op doc).1 ops).2.dropped,
          start < d.index ∧ (op :: ops)[d.index - start]? = some d.operation := by
        intro d reported
        have after := start_le_of_mem_dropped reported
        have place : d.index - start = d.index - (start + 1) + 1 := by omega
        rw [place, List.getElem?_cons_succ]
        exact ⟨after, placed d reported⟩
      cases result : (applyOperation start op doc).2 with
      | none =>
          rw [applyFrom_cons_of_succeeds result]
          exact ⟨ordered, fun d reported => (later d reported).2⟩
      | some first =>
          rcases report_of_dropped result with ⟨index, operation⟩
          rw [applyFrom_cons_of_dropped result]
          constructor
          · apply List.pairwise_cons.mpr ⟨_, ordered⟩
            intro d reported
            rw [index]
            exact (later d reported).1
          · intro d reported
            rcases List.mem_cons.mp reported with rfl | listed
            · rw [index, operation, Nat.sub_self]
              rfl
            · exact (later d listed).2

/-- However operations are cut into batches, and whenever the batches come, they
lead to the document that they lead to as one batch, as many of them are applied,
and the same ones are reported for the same reasons, at the same places. Each
operation is either applied or reported, and reported once. -/
theorem applyBatches_flatten (c : Conversation) (batches : List (Patch × Int)) (now : Int) :
    let operations := (batches.map Prod.fst).flatten
    let cut := c.applyBatches batches
    let whole := c.applyBatch operations now
    cut.1.document = whole.1.document ∧
      (cut.2.map BatchOutcome.applied).sum = whole.2.applied ∧
      BatchOutcome.reports 0 (batches.map Prod.fst) cut.2 = whole.2.dropped ∧
      whole.2.applied + whole.2.dropped.length = operations.length ∧
      (whole.2.dropped.Pairwise fun d e => d.index < e.index) ∧
      ∀ d ∈ whole.2.dropped, operations[d.index]? = some d.operation := by
  intro operations cut whole
  have joined : applyFrom 0 c.document operations =
      (cut.1.document, ⟨(cut.2.map BatchOutcome.applied).sum,
        BatchOutcome.reports 0 (batches.map Prod.fst) cut.2⟩) := applyFrom_flatten c 0 batches
  rcases dropped_places 0 c.document operations with ⟨ordered, placed⟩
  refine ⟨?_, ?_, ?_, applied_add_length_dropped 0 c.document operations, ordered, placed⟩
  · exact (congrArg Prod.fst joined).symm
  · exact (congrArg (fun result => result.2.applied) joined).symm
  · exact (congrArg (fun result => result.2.dropped) joined).symm

end Conversation

end LiveLog
