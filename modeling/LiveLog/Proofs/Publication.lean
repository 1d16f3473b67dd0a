import LiveLog.Proofs.DroppedOperations
import LiveLog.Proofs.EntryList

namespace LiveLog

/-!
# Published snapshots are current

A conversation publishes a snapshot when a batch has applied some operation, and
at no other time. Whoever reads the snapshot wants to know that it still describes
the document. `Snapshot.Describes` says what that means without mentioning how a
snapshot is built: the entries are the elements of an array that decode, each with
its index, and a text field is shown if and only if it holds a string. A patch may
turn the document, or any part of it, into any other shape.

What has to be shown is that a batch which applies nothing also changes nothing.
This holds operation by operation, except for a move, which can lose its value and
still be reported. So the main result is about runs without moves. It also gives
the time of the snapshot, in terms of the calls alone: the last call that either
began the conversation again or applied an operation decides.
-/

namespace Json

theorem text?_eq_some {v : Json} {text : String} : v.text? = some text ↔ v = .str text := by
  cases v <;> simp [text?]

theorem items?_eq_some {v : Json} {xs : List Json} : v.items? = some xs ↔ v = .arr xs := by
  cases v <;> simp [items?]

end Json

namespace Operation

/-- Whether an operation is a move. -/
def isMove : Operation → Bool
  | move _ _ => true
  | _ => false

theorem ne_move_of_not_isMove {op : Operation} (stays : op.isMove = false) :
    ∀ source path, op ≠ .move source path := by
  rintro source path rfl
  cases stays

end Operation

namespace Snapshot

/-- A snapshot describes a document, the time apart. -/
structure Describes (s : Snapshot) (document : Json) : Prop where
  entries : ∀ entry, entry ∈ s.entries ↔
    ∃ xs v, document.member? "entries" = some (.arr xs) ∧ xs[entry.index]? = some v ∧
      LogUnit.reader.ofJson v = some entry.unit
  ordered : s.entries.Pairwise fun a b => a.index < b.index
  sessionId : ∀ text, s.sessionId = some text ↔ document.member? "session_id" = some (.str text)
  executorType : ∀ text,
    s.executorType = some text ↔ document.member? "executor_type" = some (.str text)
  prompt : ∀ text, s.prompt = some text ↔ document.member? "prompt" = some (.str text)
  summary : ∀ text, s.summary = some text ↔ document.member? "summary" = some (.str text)

theorem textField_eq_some {document : Json} {field text : String} :
    textField document field = some text ↔ document.member? field = some (.str text) := by
  simp only [textField, Option.bind_eq_some_iff, Json.text?_eq_some, exists_eq_right]

/-- The snapshot of a document describes it, whatever its shape. -/
theorem describes_ofDocument (document : Json) (now : Int) :
    (ofDocument document now).Describes document where
  entries := by
    intro entry
    change entry ∈ unitsFrom 0 (((document.member? "entries").bind Json.items?).getD []) ↔ _
    cases listed : (document.member? "entries").bind Json.items? with
    | none =>
        simp only [Option.getD_none, unitsFrom, List.not_mem_nil, false_iff]
        rintro ⟨xs, v, found, -, -⟩
        rw [found] at listed
        cases listed
    | some xs =>
        rcases Option.bind_eq_some_iff.mp listed with ⟨value, found, array⟩
        rw [Json.items?_eq_some] at array
        rw [Option.getD_some, mem_unitsFrom_zero, found, array]
        constructor
        · rintro ⟨v, place, reads⟩
          exact ⟨xs, v, rfl, place, reads⟩
        · rintro ⟨ys, v, same, place, reads⟩
          cases same
          exact ⟨v, place, reads⟩
  ordered := pairwise_unitsFrom 0 _
  sessionId := fun _text => textField_eq_some
  executorType := fun _text => textField_eq_some
  prompt := fun _text => textField_eq_some
  summary := fun _text => textField_eq_some

/-- Before anything is published, nothing is shown of a document that holds
nothing. -/
theorem describes_blank : Snapshot.empty.Describes Conversation.blank := by
  have shown := describes_ofDocument Conversation.blank 0
  exact ⟨shown.entries, shown.ordered, shown.sessionId, shown.executorType, shown.prompt,
    shown.summary⟩

end Snapshot

namespace Conversation

/-- What can be done with a conversation. -/
inductive Action
  | apply (patch : Patch) (now : Int)
  | bind (id : Uuid)
  | reset

/-- The conversation after an action. -/
def perform (c : Conversation) : Action → Conversation
  | .apply patch now => (c.applyBatch patch now).1
  | .bind id => c.bind id
  | .reset => c.reset

/-- The conversation after some actions. -/
def run (c : Conversation) (actions : List Action) : Conversation := actions.foldl perform c

namespace Action

/-- Whether an action moves no value within the document. -/
def isPlain : Action → Bool
  | apply patch _ => patch.all fun op => !op.isMove
  | bind _ => true
  | reset => true

end Action

/-- What makes a snapshot out of date: the conversation is begun again, or a batch
applies an operation. -/
inductive Mark
  | restart
  | batch (now : Int)

/-- The mark that an action leaves. Binding to the present owner leaves none, nor
does a batch of which nothing was applied. -/
def mark (c : Conversation) : Action → Option Mark
  | .apply patch now => if 0 < (c.applyBatch patch now).2.applied then some (.batch now) else none
  | .bind id => if c.owner = some id then none else some .restart
  | .reset => some .restart

/-- The marks that some actions leave, in order. -/
def marks (c : Conversation) : List Action → List Mark
  | [] => []
  | action :: rest => (c.mark action).toList ++ (c.perform action).marks rest

/-- When the last batch came that applied an operation, unless the conversation
was begun again after it. -/
def lastBatch (marks : List Mark) : Option Int :=
  match marks.getLast? with
  | some (.batch now) => some now
  | _ => none

theorem lastBatch_append (past : List Mark) (m : Mark) :
    lastBatch (past ++ [m]) = lastBatch [m] := by
  simp only [lastBatch, List.getLast?_concat, List.getLast?_singleton]

/-! ## A batch that applies nothing -/

/-- Where no operation was applied and none is a move, the document is as it was. -/
theorem applyFrom_fst_of_applied_eq_zero {start : Nat} {doc : Json} {patch : Patch}
    (stays : ∀ op ∈ patch, op.isMove = false)
    (nothing : (applyFrom start doc patch).2.applied = 0) :
    (applyFrom start doc patch).1 = doc := by
  induction patch generalizing start with
  | nil => rfl
  | cons op ops inductionHypothesis =>
      cases result : (applyOperation start op doc).2 with
      | none =>
          rw [applyFrom_cons_of_succeeds result] at nothing
          cases nothing
      | some d =>
          have kept : (applyOperation start op doc).1 = doc :=
            applyOperation_fst_of_dropped
              (Operation.ne_move_of_not_isMove (stays op List.mem_cons_self)) result
          rw [applyFrom_cons_of_dropped result, kept] at nothing ⊢
          exact inductionHypothesis (fun later listed => stays later (List.mem_cons_of_mem op listed))
            nothing

/-! ## The invariant -/

/-- The snapshot describes the document, and its time is that of the last of some
marks. -/
structure Current (c : Conversation) (past : List Mark) : Prop where
  describes : c.snapshot.Describes c.document
  updatedAt : c.snapshot.updatedAt = lastBatch past

namespace Current

variable {c : Conversation} {past : List Mark}

theorem fresh (owner : Option Uuid) : (Conversation.fresh owner).Current [] :=
  ⟨Snapshot.describes_blank, rfl⟩

/-- A conversation that is begun again shows nothing, at no time. -/
theorem restarted (owner : Option Uuid) (past : List Mark) :
    (Conversation.fresh owner).Current (past ++ [.restart]) := by
  refine ⟨Snapshot.describes_blank, ?_⟩
  rw [lastBatch_append]
  rfl

theorem apply (current : c.Current past) {patch : Patch}
    (stays : ∀ op ∈ patch, op.isMove = false) (now : Int) :
    (c.applyBatch patch now).1.Current (past ++ (c.mark (.apply patch now)).toList) := by
  by_cases applied : 0 < (c.applyBatch patch now).2.applied
  · have snapshot : (c.applyBatch patch now).1.snapshot =
        Snapshot.ofDocument (c.applyBatch patch now).1.document now := if_pos applied
    rw [mark, if_pos applied]
    constructor
    · rw [snapshot]
      exact Snapshot.describes_ofDocument _ now
    · rw [snapshot, Option.toList_some, lastBatch_append]
      rfl
  · have document : (c.applyBatch patch now).1.document = c.document :=
      applyFrom_fst_of_applied_eq_zero stays (Nat.eq_zero_of_not_pos applied)
    have snapshot : (c.applyBatch patch now).1.snapshot = c.snapshot := if_neg applied
    rw [mark, if_neg applied, Option.toList_none, List.append_nil]
    constructor
    · rw [snapshot, document]
      exact current.describes
    · rw [snapshot]
      exact current.updatedAt

theorem perform (current : c.Current past) {action : Action} (plain : action.isPlain = true) :
    (c.perform action).Current (past ++ (c.mark action).toList) := by
  cases action with
  | apply patch now =>
      apply current.apply
      intro op listed
      have stays := List.all_eq_true.mp plain op listed
      simpa only [Bool.not_eq_true'] using stays
  | reset => exact restarted c.owner past
  | bind id =>
      by_cases same : c.owner = some id
      · simp only [Conversation.perform, Conversation.bind, mark, if_pos same, Option.toList_none,
          List.append_nil]
        exact current
      · simp only [Conversation.perform, Conversation.bind, mark, if_neg same, Option.toList_some]
        exact restarted (some id) past

theorem run (current : c.Current past) {actions : List Action}
    (plain : ∀ action ∈ actions, action.isPlain = true) :
    (c.run actions).Current (past ++ c.marks actions) := by
  induction actions generalizing c past with
  | nil =>
      rw [marks, List.append_nil]
      exact current
  | cons action rest inductionHypothesis =>
      rw [marks, ← List.append_assoc]
      exact inductionHypothesis (current.perform (plain action List.mem_cons_self))
        fun later listed => plain later (List.mem_cons_of_mem action listed)

end Current

/-- After any batches without moves, and whatever was bound and reset in between,
the snapshot describes the document. Its time is that of the last batch since the
conversation was last begun again that applied an operation. -/
theorem snapshot_is_current (owner : Option Uuid) (actions : List Action)
    (plain : ∀ action ∈ actions, action.isPlain = true) :
    ((fresh owner).run actions).snapshot.Describes ((fresh owner).run actions).document ∧
      ((fresh owner).run actions).snapshot.updatedAt = lastBatch ((fresh owner).marks actions) := by
  have current := (Current.fresh owner).run plain
  rw [List.nil_append] at current
  exact ⟨current.describes, current.updatedAt⟩

/-- The whole document is replaced by a text, which empties the snapshot. What
cannot be applied to a text afterwards, be it reported, does not count. -/
theorem document_turned_to_text :
    let whole : Pointer := ⟨[]⟩
    let entry : Pointer := Patch.entryPath 0
    let actions : List Action := [.bind default,
      .apply [.add entry (LogUnit.stdout "a").toJson, .replace ⟨["session_id"]⟩ (.str "s")] 1,
      .apply [.copy entry whole, .replace whole (.str "gone"), .remove ⟨["prompt"]⟩] 2,
      .bind default, .apply [.add entry .null, .remove whole, .test whole .null] 3]
    let c := (fresh none).run actions
    (∀ action ∈ actions, action.isPlain = true) ∧ c.document = .str "gone" ∧
      c.snapshot.Describes c.document ∧ c.snapshot.updatedAt = lastBatch ((fresh none).marks actions) ∧
      c.snapshot.updatedAt = some 2 := by
  intro whole entry actions c
  have plain : ∀ action ∈ actions, action.isPlain = true := by decide +kernel
  have document : c.document = .str "gone" := by decide +kernel
  have time : c.snapshot.updatedAt = some 2 := by decide +kernel
  have current := snapshot_is_current none actions plain
  exact ⟨plain, document, current.1, current.2, time⟩

end Conversation

end LiveLog
