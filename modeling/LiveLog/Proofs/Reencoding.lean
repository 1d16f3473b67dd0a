import LiveLog.Execution
import LiveLog.Message
import LiveLog.Proofs.StableReaders
import LiveLog.Proofs.WrittenScalars

namespace LiveLog

/-!
# One pass to the written form

A value may come in many forms: with fields left out or null, with fields that nobody
asks for, as an array of its fields, behind a tag that nobody knows, with a moment in
any offset, with a pointer that begins with a number sign. Reading and writing it once
brings it to the form in which it is written, and that form is read as the same value.

For the types of this library this is the law of their combinators. What remains to be
seen of a record or a union is that its fields and tags have distinct names, that it is
written under these names, and that its defaults are read again.
-/

namespace Reader

variable {α : Type} {r : Reader α} {write : α → Json}

/-- One pass: a value is read, and what was read is written. -/
def pass (r : Reader α) (write : α → Json) (v : Json) : Option Json := (r.ofJson v).map write

/-- The written form of what was read is read as the same value, so that one pass leads
to a form that no further pass changes. -/
structure Settles (r : Reader α) (write : α → Json) : Prop where
  restored : ∀ v x, r.ofJson v = some x → r.ofJson (write x) = some x
  settled : ∀ v w, r.pass write v = some w → r.pass write w = some w

theorem Stable.settles (stable : r.Stable write) : r.Settles write where
  restored := fun v x read => stable.again false v x read false
  settled := by
    intro v w written
    rcases Option.map_eq_some_iff.mp written with ⟨x, read, rfl⟩
    exact Option.map_eq_some_iff.mpr ⟨x, stable.again false v x read false, rfl⟩

end Reader

open Fields (writes_required writes_optional writes_defaulted)
open Reader (stable_string stable_bool stable_int stable_json)

/-! ## Scalars and names -/

theorem Instant.stable : Instant.reader.Stable toJson :=
  Reader.stable_parsed fun _s _t => ofRelaxedText?_text

theorem Uuid.stable : Uuid.reader.Stable toJson :=
  Reader.stable_parsed fun _s u _read => ofText?_text u

theorem ResultFormat.stable : ResultFormat.reader.Stable fun f => .str f.name :=
  Reader.stable_enumeration (by decide) (by decide)

theorem RunReason.stable : RunReason.reader.Stable fun r => .str r.name :=
  Reader.stable_enumeration (by decide) (by decide)

theorem Status.stable : Status.reader.Stable fun s => .str s.name :=
  Reader.stable_enumeration (by decide) (by decide)

theorem Pointer.stable : Operation.pointerReader.Stable fun p => .str p.text :=
  Reader.stable_parsed fun _s p _read => ofText?_text p

/-! ## The parts of an entry -/

theorem FileChange.stable : FileChange.reader.Stable toJson := by
  apply Tagged.stable (by decide)
  · simp only [form, List.Forall]
    refine ⟨?write, ?delete, ?rename, ?edit⟩
    case write =>
      exact .fields ((writes_required "content" stable_string).map write)
        (fun _c => rfl) (by decide)
    case delete => exact .unit rfl
    case rename =>
      exact .fields ((writes_required "new_path" stable_string).map rename)
        (fun _c => rfl) (by decide)
    case edit =>
      exact .fields (((writes_required "unified_diff" stable_string).map edit).seq
        (writes_defaulted "has_line_numbers" stable_bool fun _later => rfl))
        (fun _c => rfl) (by decide)
  · rintro _ ⟨⟩

theorem ExitStatus.stable : ExitStatus.reader.Stable toJson := by
  apply Tagged.stable (by decide)
  · simp only [form, List.Forall]
    refine ⟨?exitCode, ?success⟩
    case exitCode =>
      exact .fields ((writes_required "code" (stable_int _ _)).map exitCode)
        (fun _c => rfl) (by decide)
    case success =>
      exact .fields ((writes_required "success" stable_bool).map success)
        (fun _c => rfl) (by decide)
  · rintro _ ⟨⟩

theorem CommandResult.stable : CommandResult.reader.Stable toJson :=
  (((writes_optional "exit_status" ExitStatus.stable).map CommandResult.mk).seq
    (writes_optional "output" stable_string)).stable (fun _c => rfl) (by decide)

theorem ToolResult.stable : ToolResult.reader.Stable toJson :=
  (((writes_required "type" ResultFormat.stable).map ToolResult.mk).seq
    (writes_required "value" stable_json)).stable (fun _c => rfl) (by decide)

theorem TodoItem.stable : TodoItem.reader.Stable toJson :=
  ((((writes_required "content" stable_string).map TodoItem.mk).seq
    (writes_required "status" stable_string)).seq
    (writes_defaulted "priority" stable_string.option fun _later => rfl)).stable
      (fun _c => rfl) (by decide)

theorem Action.stable : Action.reader.Stable toJson := by
  apply Tagged.stable (by decide)
  · simp only [form, List.Forall]
    refine ⟨?fileRead, ?fileEdit, ?commandRun, ?search, ?webFetch, ?tool, ?taskCreate,
      ?planPresentation, ?todoManagement, ?other, ?unknown⟩
    case fileRead =>
      exact .fields ((writes_required "path" stable_string).map fileRead)
        (fun _c => rfl) (by decide)
    case fileEdit =>
      exact .fields (((writes_required "path" stable_string).map fileEdit).seq
        (writes_defaulted "changes" FileChange.stable.list fun _later => rfl))
        (fun _c => rfl) (by decide)
    case commandRun =>
      exact .fields (((writes_required "command" stable_string).map commandRun).seq
        (writes_defaulted "result" CommandResult.stable.option fun _later => rfl))
        (fun _c => rfl) (by decide)
    case search =>
      exact .fields ((writes_required "query" stable_string).map search)
        (fun _c => rfl) (by decide)
    case webFetch =>
      exact .fields ((writes_required "url" stable_string).map webFetch)
        (fun _c => rfl) (by decide)
    case tool =>
      exact .fields ((((writes_required "tool_name" stable_string).map tool).seq
        (writes_defaulted "arguments" stable_json.option fun _later => rfl)).seq
        (writes_defaulted "result" ToolResult.stable.option fun _later => rfl))
        (fun _c => rfl) (by decide)
    case taskCreate =>
      exact .fields ((writes_required "description" stable_string).map taskCreate)
        (fun _c => rfl) (by decide)
    case planPresentation =>
      exact .fields ((writes_required "plan" stable_string).map planPresentation)
        (fun _c => rfl) (by decide)
    case todoManagement =>
      exact .fields (((writes_defaulted "todos" TodoItem.stable.list fun _later => rfl).map
        todoManagement).seq (writes_required "operation" stable_string))
        (fun _c => rfl) (by decide)
    case other =>
      exact .fields ((writes_required "description" stable_string).map other)
        (fun _c => rfl) (by decide)
    case unknown => exact .unit rfl
  · rintro _ ⟨⟩
    exact ⟨"unknown", by simp [form]⟩

theorem ToolStatus.stable : ToolStatus.reader.Stable toJson := by
  apply Tagged.stable (by decide)
  · simp only [form, List.Forall]
    refine ⟨.unit rfl, .unit rfl, .unit rfl, ?denied, ?pendingApproval, .unit rfl, .unit rfl⟩
    case denied =>
      exact .fields ((writes_optional "reason" stable_string).map denied)
        (fun _c => rfl) (by decide)
    case pendingApproval =>
      exact .fields ((((writes_required "approval_id" stable_string).map pendingApproval).seq
        (writes_required "requested_at" Instant.stable)).seq
        (writes_required "timeout_at" Instant.stable))
        (fun _c => rfl) (by decide)
  · rintro _ ⟨⟩
    exact ⟨"unknown", by simp [form]⟩

theorem ErrorCause.stable : ErrorCause.reader.Stable toJson := by
  apply Tagged.stable (by decide)
  · simp only [form, List.Forall]
    exact ⟨.unit rfl, .unit rfl⟩
  · rintro _ ⟨⟩
    exact ⟨"other", by simp [form]⟩

theorem EntryKind.stable : EntryKind.reader.Stable toJson := by
  apply Tagged.stable (by decide)
  · simp only [form, List.Forall]
    refine ⟨.unit rfl, ?userFeedback, .unit rfl, ?toolUse, .unit rfl, ?errorMessage, .unit rfl,
      .unit rfl, .unit rfl⟩
    case userFeedback =>
      exact .fields ((writes_required "denied_tool" stable_string).map userFeedback)
        (fun _c => rfl) (by decide)
    case toolUse =>
      exact .fields ((((writes_required "tool_name" stable_string).map toolUse).seq
        (writes_required "action_type" Action.stable)).seq
        (writes_defaulted "status" ToolStatus.stable fun _later => rfl))
        (fun _c => rfl) (by decide)
    case errorMessage =>
      exact .fields ((writes_required "error_type" ErrorCause.stable).map errorMessage)
        (fun _c => rfl) (by decide)
  · rintro _ ⟨⟩
    exact ⟨"unknown", by simp [form]⟩

theorem Entry.stable : Entry.reader.Stable toJson :=
  (((((writes_optional "timestamp" stable_string).map Entry.mk).seq
    (writes_required "entry_type" EntryKind.stable)).seq
    (writes_required "content" stable_string)).seq
    (writes_optional "metadata" stable_json)).stable (fun _c => rfl) (by decide)

theorem LogUnit.stable : LogUnit.reader.Stable toJson := by
  apply Content.stable (by decide) (by decide)
  simp only [form, List.Forall]
  exact ⟨Entry.stable.within fun _e => rfl, stable_string.within fun _text => rfl,
    stable_string.within fun _text => rfl⟩

/-! ## Messages, events and processes -/

theorem Operation.stable : Operation.reader.Stable toJson := by
  have value (make : Pointer → Json → Operation) {name : String}
      (form : ∀ p v, toJson (make p v) =
        .obj [("op", .str name), ("path", .str p.text), ("value", v)]) :
      (Variant.fields (valueFields make)).Writes ("op", .str name) toJson :=
    .fields (((writes_required "path" Pointer.stable).map make).seq
      (writes_required "value" stable_json)) (fun c => form c.1 c.2)
      (show ["op", "path", "value"].Nodup by decide)
  have source (make : Pointer → Pointer → Operation) {name : String}
      (form : ∀ p q, toJson (make p q) =
        .obj [("op", .str name), ("from", .str p.text), ("path", .str q.text)]) :
      (Variant.fields (sourceFields make)).Writes ("op", .str name) toJson :=
    .fields (((writes_required "from" Pointer.stable).map make).seq
      (writes_required "path" Pointer.stable)) (fun c => form c.1 c.2)
      (show ["op", "from", "path"].Nodup by decide)
  apply Tagged.stable (by decide)
  · simp only [form, List.Forall]
    refine ⟨value add fun _p _v => rfl, ?remove, value replace fun _p _v => rfl,
      source move fun _p _q => rfl, source copy fun _p _q => rfl, value test fun _p _v => rfl⟩
    case remove =>
      exact .fields ((writes_required "path" Pointer.stable).map remove)
        (fun _c => rfl) (by decide)
  · rintro _ ⟨⟩

theorem Patch.stable : Patch.reader.Stable toJson := Operation.stable.list

theorem Message.stable : Message.reader.Stable toJson := by
  apply Reader.stable_named (by decide)
  simp only [variants, List.Forall]
  exact ⟨stable_string.within fun _text => rfl, stable_string.within fun _text => rfl,
    Patch.stable.within fun _patch => rfl, stable_string.within fun _text => rfl, rfl⟩

theorem StreamEvent.stable : StreamEvent.reader.Stable toJson := by
  have entry (make : Int → Json → StreamEvent) {name : String}
      (form : ∀ i v, toJson (make i v) =
        .obj [("type", .str name), ("entry_index", .ofInt i), ("entry", v)]) :
      (Variant.fields (entryFields make)).Writes ("type", .str name) toJson :=
    .fields (((writes_required "entry_index" (stable_int _ _)).map make).seq
      (writes_required "entry" stable_json)) (fun c => form c.1 c.2)
      (show ["type", "entry_index", "entry"].Nodup by decide)
  apply Tagged.stable (by decide)
  · simp only [form, List.Forall]
    exact ⟨entry append fun _i _v => rfl, entry replace fun _i _v => rfl, .unit rfl⟩
  · rintro _ ⟨⟩

theorem Execution.stable : Execution.reader.Stable toJson :=
  (((((writes_required "id" Uuid.stable).map Execution.mk).seq
    (writes_required "run_reason" RunReason.stable)).seq
    (writes_required "status" Status.stable)).seq
    (writes_defaulted "dropped" stable_bool fun _later => rfl)).stable
      (fun _c => rfl) (by decide)

/-! ## One pass is enough -/

/-- Whatever the form of an entry, of a part of one, of a unit, a message, a stream event
or a process: once read and written, it reads as the same value and stays as it is. -/
theorem one_pass_settles :
    Entry.reader.Settles Entry.toJson ∧ EntryKind.reader.Settles EntryKind.toJson ∧
      Action.reader.Settles Action.toJson ∧ FileChange.reader.Settles FileChange.toJson ∧
      CommandResult.reader.Settles CommandResult.toJson ∧
      ExitStatus.reader.Settles ExitStatus.toJson ∧ ToolResult.reader.Settles ToolResult.toJson ∧
      TodoItem.reader.Settles TodoItem.toJson ∧ ToolStatus.reader.Settles ToolStatus.toJson ∧
      ErrorCause.reader.Settles ErrorCause.toJson ∧ LogUnit.reader.Settles LogUnit.toJson ∧
      Message.reader.Settles Message.toJson ∧ StreamEvent.reader.Settles StreamEvent.toJson ∧
      Execution.reader.Settles Execution.toJson :=
  ⟨Entry.stable.settles, EntryKind.stable.settles, Action.stable.settles,
    FileChange.stable.settles, CommandResult.stable.settles, ExitStatus.stable.settles,
    ToolResult.stable.settles, TodoItem.stable.settles, ToolStatus.stable.settles,
    ErrorCause.stable.settles, LogUnit.stable.settles, Message.stable.settles,
    StreamEvent.stable.settles, Execution.stable.settles⟩

/-- An entry that comes as an array, with a tool of an unknown action whose status is
told by its position; its moments have an offset, and one is a leap second. -/
def arrayEntry : Json :=
  .arr [.null, .arr [.str "tool_use", .str "Bash",
      .obj [("action", .str "dance"), ("steps", .ofNat 3)],
      .arr [.ofNat 4, .str "a1", .str "2016-12-31 23:59:60.250 +0000",
        .str "2017-01-01T02:00:00+02:00"]],
    .str "ls", .null]

/-- The written form of the entry. -/
def objectEntry : Json :=
  .obj [("timestamp", .null),
    ("entry_type", .obj [("type", .str "tool_use"), ("tool_name", .str "Bash"),
      ("action_type", .obj [("action", .str "unknown")]),
      ("status", .obj [("status", .str "pending_approval"), ("approval_id", .str "a1"),
        ("requested_at", .str "2016-12-31T23:59:60.250Z"),
        ("timeout_at", .str "2017-01-01T00:00:00Z")])]),
    ("content", .str "ls"), ("metadata", .null)]

/-- A patch whose operations come as an array and with a member too many, at pointers
that begin with a number sign. -/
def loosePatch : Json :=
  .obj [("JsonPatch", .arr [.arr [.str "add", .str "#/entries/0", .null],
    .obj [("from", .str "/a~1b"), ("extra", .null), ("path", .str "#/x"), ("op", .str "move")]])]

/-- The written form of the patch. -/
def writtenPatch : Json :=
  .obj [("JsonPatch", .arr [
    .obj [("op", .str "add"), ("path", .str "/entries/0"), ("value", .null)],
    .obj [("op", .str "move"), ("from", .str "/a~1b"), ("path", .str "/x")]])]

theorem loose_forms_settle :
    Entry.reader.pass Entry.toJson arrayEntry = some objectEntry ∧
      Entry.reader.pass Entry.toJson objectEntry = some objectEntry ∧
      Message.reader.pass Message.toJson loosePatch = some writtenPatch ∧
      Message.reader.pass Message.toJson writtenPatch = some writtenPatch := by
  rcases one_pass_settles with ⟨entry, -, -, -, -, -, -, -, -, -, -, message, -, -⟩
  have read : Entry.reader.pass Entry.toJson arrayEntry = some objectEntry := by decide +kernel
  have decoded : Message.reader.pass Message.toJson loosePatch = some writtenPatch := by
    decide +kernel
  exact ⟨read, entry.settled arrayEntry objectEntry read, decoded,
    message.settled loosePatch writtenPatch decoded⟩

end LiveLog
