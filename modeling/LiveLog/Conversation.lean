import LiveLog.Message
import LiveLog.Uuid

namespace LiveLog

/-!
# Conversation documents

A coding agent's output arrives as patches of one JSON document. A
`Conversation` keeps the document and the last published `Snapshot` of it. A
batch of operations is applied one operation at a time: an operation that
fails is dropped and reported, the others still count. A replacement of what
is not there yet is tried again as an addition.

The snapshot is published anew whenever some operation of a batch succeeded.
It lists the elements of `entries` that are log units, each with its index in
the document, and those of the four text fields that hold text.
-/

/-- A log unit with its index in the document. -/
structure ConversationEntry where
  index : Nat
  unit : LogUnit
deriving DecidableEq

/-- What is shown of a document. -/
structure Snapshot where
  entries : List ConversationEntry
  sessionId : Option String
  executorType : Option String
  prompt : Option String
  summary : Option String
  /-- When the batch arrived that the snapshot shows. -/
  updatedAt : Option Int
deriving DecidableEq

/-- An operation that was dropped, and what stood in its way. -/
structure Dropped where
  index : Nat
  operation : Operation
  obstacle : Obstacle
  /-- What stood in the way of the same change as an addition. -/
  fallback : Option Obstacle
deriving DecidableEq

/-- What became of a batch. -/
structure BatchOutcome where
  applied : Nat
  dropped : List Dropped
deriving DecidableEq

/-- The document of one process, with its last published snapshot. -/
structure Conversation where
  owner : Option Uuid
  document : Json
  snapshot : Snapshot
deriving DecidableEq

namespace Snapshot

/-- Nothing has been published. -/
def empty : Snapshot := ⟨[], none, none, none, none, none⟩

/-- The units among some elements, the first of which has the given index. -/
def unitsFrom (start : Nat) : List Json → List ConversationEntry
  | [] => []
  | v :: vs =>
    match LogUnit.reader.ofJson v with
    | some unit => ⟨start, unit⟩ :: unitsFrom (start + 1) vs
    | none => unitsFrom (start + 1) vs

/-- The text of a top-level field. -/
def textField (document : Json) (field : String) : Option String :=
  (document.member? field).bind Json.text?

/-- What a document shows at a time. -/
def ofDocument (document : Json) (now : Int) : Snapshot where
  entries := unitsFrom 0 (((document.member? "entries").bind Json.items?).getD [])
  sessionId := textField document "session_id"
  executorType := textField document "executor_type"
  prompt := textField document "prompt"
  summary := textField document "summary"
  updatedAt := some now

/-- The units come in the order of their indices, all from `start` on. -/
theorem start_le_of_mem_unitsFrom {start : Nat} {vs : List Json} {e : ConversationEntry}
    (h : e ∈ unitsFrom start vs) : start ≤ e.index := by
  induction vs generalizing start with
  | nil => simp [unitsFrom] at h
  | cons v vs ih =>
    unfold unitsFrom at h
    split at h
    · rcases List.mem_cons.mp h with rfl | h
      · exact Nat.le_refl _
      · exact Nat.le_of_succ_le (ih h)
    · exact Nat.le_of_succ_le (ih h)

end Snapshot

namespace Dropped

/-- The wording of one obstacle at a path. -/
def wording (path : Pointer) (o : Obstacle) : String :=
  "operation '/0' failed at path '" ++ path.text ++ "': " ++ o.message

/-- Why the operation was dropped. -/
def reason (d : Dropped) : String :=
  match d.fallback with
  | none => wording d.operation.path d.obstacle
  | some o => wording d.operation.path d.obstacle ++ "; add fallback failed: " ++
      wording d.operation.path o

/-- The report of a dropped operation. -/
def message (d : Dropped) : String :=
  "failed to apply " ++ d.operation.name ++ " operation #" ++ Count.text d.index ++ " at '" ++
    d.operation.path.text ++ "': " ++ d.reason

end Dropped

namespace BatchOutcome

/-- Whether every operation was applied. -/
def isClean (b : BatchOutcome) : Bool := b.dropped.isEmpty

/-- Count one more applied operation. -/
def addApplied (b : BatchOutcome) : BatchOutcome := { b with applied := b.applied + 1 }

/-- Put a dropped operation before the others. -/
def addDropped (d : Dropped) (b : BatchOutcome) : BatchOutcome :=
  { b with dropped := d :: b.dropped }

end BatchOutcome

namespace Conversation

/-- The document before any patch. -/
def blank : Json :=
  .obj [("entries", .arr []), ("session_id", .null), ("executor_type", .null), ("prompt", .null),
    ("summary", .null)]

/-- A conversation that belongs to nobody yet. -/
def empty : Conversation := ⟨none, blank, Snapshot.empty⟩

/-- The conversation of a process. -/
def forProcess (id : Uuid) : Conversation := ⟨some id, blank, Snapshot.empty⟩

/-- Begin again with the same owner. -/
def reset (c : Conversation) : Conversation := ⟨c.owner, blank, Snapshot.empty⟩

/-- Hand the conversation to a process. What belonged to another is dropped. -/
def bind (id : Uuid) (c : Conversation) : Conversation :=
  if c.owner = some id then c else ⟨some id, blank, Snapshot.empty⟩

/-- Apply one operation, at its index in the batch. -/
def applyOperation (index : Nat) (op : Operation) (doc : Json) : Json × Option Dropped :=
  match op.apply doc with
  | (doc', none) => (doc', none)
  | (doc', some o) =>
    match op with
    | .replace path value =>
      match (Operation.add path value).apply doc' with
      | (doc'', none) => (doc'', none)
      | (doc'', some o') => (doc'', some ⟨index, op, o, some o'⟩)
    | _ => (doc', some ⟨index, op, o, none⟩)

/-- Apply operations in order, the first of which has the given index. -/
def applyFrom (index : Nat) (doc : Json) : Patch → Json × BatchOutcome
  | [] => (doc, ⟨0, []⟩)
  | op :: ops =>
    match applyOperation index op doc with
    | (doc', none) =>
      let (final, outcome) := applyFrom (index + 1) doc' ops
      (final, outcome.addApplied)
    | (doc', some d) =>
      let (final, outcome) := applyFrom (index + 1) doc' ops
      (final, outcome.addDropped d)

/-- Apply a batch that arrived at a time. -/
def applyBatch (c : Conversation) (patch : Patch) (now : Int) : Conversation × BatchOutcome :=
  let (doc, outcome) := applyFrom 0 c.document patch
  (⟨c.owner, doc, if 0 < outcome.applied then Snapshot.ofDocument doc now else c.snapshot⟩, outcome)

/-- A failed operation that is not a move leaves the document alone. -/
theorem applyOperation_fst_of_dropped {index : Nat} {op : Operation} {doc : Json} {d : Dropped}
    (hop : ∀ source path, op ≠ .move source path)
    (h : (applyOperation index op doc).2 = some d) : (applyOperation index op doc).1 = doc := by
  unfold applyOperation at h ⊢
  rcases hr : op.apply doc with ⟨doc', _ | o⟩
  · simp [hr] at h
  · have hdoc : doc' = doc := by
      have := @Operation.apply_fst_of_obstacle op doc o hop (by rw [hr])
      rwa [hr] at this
    subst hdoc
    simp only [hr] at h ⊢
    cases op with
    | replace path value =>
      simp only at h ⊢
      rcases ha : (Operation.add path value).apply doc' with ⟨doc'', _ | o'⟩
      · simp [ha] at h
      · have := @Operation.apply_fst_of_obstacle (.add path value) doc' o'
          (by intro _ _ h; cases h) (by rw [ha])
        simpa [ha] using this
    | _ => rfl

/-- Every operation is counted once. -/
theorem applied_add_length_dropped (index : Nat) (doc : Json) (patch : Patch) :
    (applyFrom index doc patch).2.applied + (applyFrom index doc patch).2.dropped.length =
      patch.length := by
  induction patch generalizing index doc with
  | nil => rfl
  | cons op ops ih =>
    unfold applyFrom
    split
    · have := ih (index + 1) (by assumption)
      simp only [BatchOutcome.addApplied, List.length_cons]
      omega
    · have := ih (index + 1) (by assumption)
      simp only [BatchOutcome.addDropped, List.length_cons]
      omega

end Conversation

end LiveLog
