import LiveLog.Proofs.UnknownKinds
import LiveLog.Proofs.WrittenScalars

namespace LiveLog

/-!
# Entries as they are written

Any entry is read from its written form, as long as its exit code has 32 bits and its
moments lie in the years that there are. Nothing is asked of the rest of it, which is
made of texts, truth values, JSON values and lists of such.

What is read need not be the entry that was written: metadata and arguments that are
null are written like those that are absent, and a leap second counts as one in the last
second of a minute only. That it is read at all is what is shown here, by one law for
each combinator of readers.
-/

namespace Reader

variable {α : Type} {r : Reader α}

/-- A value is read, held back or not. -/
def Takes (r : Reader α) (v : Json) : Prop := ∀ held, ∃ x, r.read held v = some x

theorem takes_string (s : String) : string.Takes (.str s) := fun _held => ⟨s, rfl⟩

theorem takes_json (v : Json) : json.Takes v := fun _held => ⟨v, rfl⟩

theorem takes_int {least most n : Int} (bounded : least ≤ n ∧ n ≤ most) :
    (int least most).Takes (.ofInt n) := fun _held => ⟨n, if_pos bounded⟩

theorem takes_parsed {parse : String → Option α} {s : String} {x : α} (read : parse s = some x) :
    (parsed parse).Takes (.str s) := fun _held => ⟨x, read⟩

theorem takes_option {write : α → Json} (o : Option α) (takes : ∀ a ∈ o, r.Takes (write a)) :
    r.option.Takes (Json.ofOption write o) := by
  intro held
  unfold Reader.option
  dsimp only
  split
  · exact ⟨none, rfl⟩
  · rename_i filled
    cases o with
    | none => exact absurd rfl filled
    | some a =>
        rcases takes a rfl held with ⟨x, read⟩
        exact ⟨some x, Option.map_eq_some_iff.mpr ⟨x, read, rfl⟩⟩

theorem takes_list {write : α → Json} (as : List α) (takes : ∀ a ∈ as, r.Takes (write a)) :
    r.list.Takes (Json.ofList write as) := by
  intro held
  change ∃ xs, (as.map write).mapM (r.read held) = some xs
  induction as with
  | nil => exact ⟨[], rfl⟩
  | cons a rest inductionHypothesis =>
      rcases takes a List.mem_cons_self held with ⟨x, first⟩
      rcases inductionHypothesis fun b listed => takes b (List.mem_cons_of_mem a listed) with
        ⟨xs, others⟩
      refine ⟨x :: xs, ?_⟩
      rw [List.map_cons, List.mapM_cons, first, others]
      rfl

end Reader

namespace Fields

variable {α β : Type} {ms ns : List (String × Json)}

/-- Members are read by fields of the same names, whatever other members there are. -/
structure Takes (fs : Fields α) (ms : List (String × Json)) : Prop where
  names : Assoc.keys ms = fs.forms.map FieldForm.name
  reads : ∀ held (get : String → Option Json), (∀ m ∈ ms, get m.1 = some m.2) →
    ∃ x, fs.read held get = some x

section Single

variable {r : Reader α} {v : Json} (name : String)

theorem takes_required (takes : r.Takes v) : (required name r).Takes [(name, v)] where
  names := rfl
  reads := by
    intro held get shows
    rcases takes held with ⟨x, read⟩
    exact ⟨x, Option.bind_eq_some_iff.mpr ⟨v, shows (name, v) List.mem_cons_self, read⟩⟩

theorem takes_optional (takes : r.option.Takes v) : (optional name r).Takes [(name, v)] where
  names := rfl
  reads := by
    intro held get shows
    rcases takes held with ⟨x, read⟩
    refine ⟨x, ?_⟩
    simp only [optional, shows (name, v) List.mem_cons_self]
    exact read

theorem takes_defaulted (default : α) (takes : r.Takes v) :
    (defaulted name default r).Takes [(name, v)] where
  names := rfl
  reads := by
    intro held get shows
    rcases takes held with ⟨x, read⟩
    refine ⟨x, ?_⟩
    simp only [defaulted, shows (name, v) List.mem_cons_self]
    exact read

end Single

theorem Takes.map {fs : Fields α} (takes : fs.Takes ms) (f : α → β) : (f <$> fs).Takes ms where
  names := takes.names
  reads := by
    intro held get shows
    rcases takes.reads held get shows with ⟨x, read⟩
    exact ⟨f x, map_eq_some.mpr ⟨x, read, rfl⟩⟩

theorem Takes.seq {fs : Fields (α → β)} {xs : Fields α} (first : fs.Takes ms)
    (second : xs.Takes ns) : (fs <*> xs).Takes (ms ++ ns) where
  names := by
    change (ms ++ ns).map Prod.fst = (fs.forms ++ xs.forms).map FieldForm.name
    rw [List.map_append, List.map_append]
    exact congrArg₂ (· ++ ·) first.names second.names
  reads := by
    intro held get shows
    rcases first.reads held get fun m listed => shows m (List.mem_append_left ns listed) with
      ⟨f, built⟩
    rcases second.reads held get fun m listed => shows m (List.mem_append_right ms listed) with
      ⟨x, found⟩
    exact ⟨f x, seq_eq_some.mpr ⟨f, x, built, found, rfl⟩⟩

/-- The members are found in their object, behind others under other names. -/
theorem Takes.value {fs : Fields α} (takes : fs.Takes ms) (before : List (String × Json))
    (nodup : (Assoc.keys before ++ fs.forms.map FieldForm.name).Nodup) (held : Bool) :
    ∃ x, fs.value held (.obj (before ++ ms)) = some x := by
  apply takes.reads held
  intro m listed
  apply Assoc.lookup_of_mem _ (List.mem_append_right before listed)
  rw [← takes.names] at nodup
  rw [Assoc.keys, List.map_append]
  exact nodup

theorem Takes.reader {fs : Fields α} (takes : fs.Takes ms)
    (nodup : (fs.forms.map FieldForm.name).Nodup) : fs.reader.Takes (.obj ms) :=
  fun held => takes.value [] nodup held

end Fields

/-- An object is read by the alternative with fields that its tag names. -/
theorem Tagged.takes {α : Type} {t : Tagged α} {name : String} {fs : Fields α}
    {ms : List (String × Json)} (takes : fs.Takes ms)
    (selected : t.named name = some (.fields fs))
    (nodup : (t.tag :: fs.forms.map FieldForm.name).Nodup) :
    t.reader.Takes (.obj ((t.tag, .str name) :: ms)) := by
  intro held
  rcases takes.value [(t.tag, .str name)] nodup true with ⟨x, read⟩
  refine ⟨x, value_obj_eq_some.mpr ⟨.str name, .fields fs, ?_, selected, read⟩⟩
  rw [List.lookup_cons, beq_self_eq_true]

open Fields (takes_required takes_optional takes_defaulted)
open Reader (takes_string takes_int takes_json takes_option takes_list)

/-! ## Bounds -/

/-- A moment in one of the years that there are. -/
def Instant.Fits (t : Instant) : Prop := leastYear ≤ t.date.year ∧ t.date.year ≤ mostYear

/-- An exit code of 32 bits. -/
def ExitStatus.Fits : ExitStatus → Prop
  | exitCode code => -2147483648 ≤ code ∧ code ≤ 2147483647
  | success _ => True

/-- An action whose command, if it ran one, ended with an exit code of 32 bits. -/
def Action.Fits : Action → Prop
  | commandRun _ result => ∀ r ∈ result, ∀ status ∈ r.exitStatus, status.Fits
  | _ => True

/-- A status whose moments lie in the years that there are. -/
def ToolStatus.Fits : ToolStatus → Prop
  | pendingApproval _ requestedAt timeoutAt => requestedAt.Fits ∧ timeoutAt.Fits
  | _ => True

/-- A kind whose numbers are all in bounds. -/
def EntryKind.Fits : EntryKind → Prop
  | toolUse _ action status => action.Fits ∧ status.Fits
  | _ => True

/-! ## The parts of an entry -/

theorem Instant.takes {t : Instant} (fits : t.Fits) : reader.Takes t.toJson :=
  Reader.takes_parsed (ofRelaxedText?_text_eq fits)

theorem FileChange.takes (c : FileChange) : reader.Takes c.toJson := by
  cases c with
  | write content => exact fun _held => ⟨.write content, rfl⟩
  | delete => exact fun _held => ⟨.delete, rfl⟩
  | rename newPath => exact fun _held => ⟨.rename newPath, rfl⟩
  | edit diff numbered => exact fun _held => ⟨.edit diff numbered, rfl⟩

theorem ExitStatus.takes {s : ExitStatus} (fits : s.Fits) : reader.Takes s.toJson := by
  cases s with
  | exitCode code =>
      exact Tagged.takes ((takes_required "code" (takes_int fits)).map exitCode) rfl (by decide)
  | success succeeded => exact fun _held => ⟨.success succeeded, rfl⟩

theorem CommandResult.takes {result : CommandResult} (fits : ∀ s ∈ result.exitStatus, s.Fits) :
    reader.Takes result.toJson := by
  have status := takes_optional "exit_status"
    (takes_option result.exitStatus fun s present => ExitStatus.takes (fits s present))
  have output := takes_optional "output"
    (takes_option result.output fun s _present => takes_string s)
  exact ((status.map CommandResult.mk).seq output).reader (by decide)

theorem ToolResult.takes (result : ToolResult) : reader.Takes result.toJson := by
  have format : ResultFormat.reader.Takes (.str result.format.name) := by
    intro held
    cases result.format with
    | markdown => exact ⟨.markdown, rfl⟩
    | json => exact ⟨.json, rfl⟩
  exact (((takes_required "type" format).map ToolResult.mk).seq
    (takes_required "value" (takes_json result.value))).reader (by decide)

theorem TodoItem.takes (item : TodoItem) : reader.Takes item.toJson := by
  have priority := takes_defaulted "priority" none
    (takes_option item.priority fun s _present => takes_string s)
  exact ((((takes_required "content" (takes_string item.content)).map TodoItem.mk).seq
    (takes_required "status" (takes_string item.status))).seq priority).reader (by decide)

theorem Action.takes {action : Action} (fits : action.Fits) : reader.Takes action.toJson := by
  cases action with
  | fileRead path => exact fun _held => ⟨.fileRead path, rfl⟩
  | fileEdit path changes =>
      have edits := takes_defaulted "changes" []
        (takes_list changes fun c _listed => FileChange.takes c)
      exact Tagged.takes (((takes_required "path" (takes_string path)).map fileEdit).seq edits) rfl
        (by decide)
  | commandRun command result =>
      have ended := takes_defaulted "result" none
        (takes_option result fun r present => CommandResult.takes (fits r present))
      exact Tagged.takes (((takes_required "command" (takes_string command)).map commandRun).seq
        ended) rfl (by decide)
  | search query => exact fun _held => ⟨.search query, rfl⟩
  | webFetch url => exact fun _held => ⟨.webFetch url, rfl⟩
  | tool name arguments result =>
      have given := takes_defaulted "arguments" none
        (takes_option arguments fun v _present => takes_json v)
      have answer := takes_defaulted "result" none
        (takes_option result fun r _present => ToolResult.takes r)
      exact Tagged.takes ((((takes_required "tool_name" (takes_string name)).map tool).seq
        given).seq answer) rfl (by decide)
  | taskCreate description => exact fun _held => ⟨.taskCreate description, rfl⟩
  | planPresentation plan => exact fun _held => ⟨.planPresentation plan, rfl⟩
  | todoManagement todos operation =>
      have items := takes_defaulted "todos" []
        (takes_list todos fun t _listed => TodoItem.takes t)
      exact Tagged.takes ((items.map todoManagement).seq
        (takes_required "operation" (takes_string operation))) rfl (by decide)
  | other description => exact fun _held => ⟨.other description, rfl⟩
  | unknown => exact fun _held => ⟨.unknown, rfl⟩

theorem ToolStatus.takes {status : ToolStatus} (fits : status.Fits) :
    reader.Takes status.toJson := by
  cases status with
  | created => exact fun _held => ⟨.created, rfl⟩
  | success => exact fun _held => ⟨.success, rfl⟩
  | failed => exact fun _held => ⟨.failed, rfl⟩
  | denied reason =>
      have given := takes_optional "reason"
        (takes_option reason fun s _present => takes_string s)
      exact Tagged.takes (given.map denied) rfl (by decide)
  | pendingApproval approval requestedAt timeoutAt =>
      exact Tagged.takes ((((takes_required "approval_id" (takes_string approval)).map
        pendingApproval).seq (takes_required "requested_at" (Instant.takes fits.1))).seq
        (takes_required "timeout_at" (Instant.takes fits.2))) rfl (by decide)
  | timedOut => exact fun _held => ⟨.timedOut, rfl⟩
  | unknown => exact fun _held => ⟨.unknown, rfl⟩

theorem ErrorCause.takes (cause : ErrorCause) : reader.Takes cause.toJson := by
  cases cause with
  | setupRequired => exact fun _held => ⟨.setupRequired, rfl⟩
  | other => exact fun _held => ⟨.other, rfl⟩

theorem EntryKind.takes {kind : EntryKind} (fits : kind.Fits) : reader.Takes kind.toJson := by
  cases kind with
  | userMessage => exact fun _held => ⟨.userMessage, rfl⟩
  | userFeedback deniedTool => exact fun _held => ⟨.userFeedback deniedTool, rfl⟩
  | assistantMessage => exact fun _held => ⟨.assistantMessage, rfl⟩
  | toolUse name action status =>
      exact Tagged.takes ((((takes_required "tool_name" (takes_string name)).map toolUse).seq
        (takes_required "action_type" (Action.takes fits.1))).seq
        (takes_defaulted "status" .created (ToolStatus.takes fits.2))) rfl (by decide)
  | systemMessage => exact fun _held => ⟨.systemMessage, rfl⟩
  | errorMessage cause =>
      exact Tagged.takes ((takes_required "error_type" (ErrorCause.takes cause)).map errorMessage)
        rfl (by decide)
  | thinking => exact fun _held => ⟨.thinking, rfl⟩
  | loading => exact fun _held => ⟨.loading, rfl⟩
  | unknown => exact fun _held => ⟨.unknown, rfl⟩

/-- An entry whose numbers are in bounds is read from its written form. -/
theorem Entry.takes {e : Entry} (fits : e.kind.Fits) : reader.Takes e.toJson := by
  have timestamp := takes_optional "timestamp"
    (takes_option e.timestamp fun s _present => takes_string s)
  have metadata := takes_optional "metadata"
    (takes_option e.metadata fun v _present => takes_json v)
  exact ((((timestamp.map Entry.mk).seq (takes_required "entry_type" (EntryKind.takes fits))).seq
    (takes_required "content" (takes_string e.content))).seq metadata).reader (by decide)

end LiveLog
