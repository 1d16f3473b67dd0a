import LiveLog.Json.Reader
import LiveLog.Text.Blank
import LiveLog.Uuid

namespace LiveLog

/-!
# Execution processes

What is followed: a process with its identifier, the reason why it runs, and
its status. The reason decides how the process publishes its output. A coding
agent publishes a conversation of normalized entries; every script publishes
raw lines.
-/

/-- How a process publishes its output. -/
inductive StreamKind
  | normalized
  | raw
deriving DecidableEq, Repr

/-- Why a process runs. -/
inductive RunReason
  | setupScript
  | cleanupScript
  | codingAgent
  | devServer
deriving DecidableEq, Repr

/-- How far a process has come. -/
inductive Status
  | running
  | completed
  | failed
  | killed
deriving DecidableEq, Repr

/-- What kind of output a log entry shows. -/
inductive Channel
  | stdout
  | stderr
  | normalized
  | raw
deriving DecidableEq, Repr

/-- A process whose output can be followed. -/
structure Execution where
  id : Uuid
  reason : RunReason
  status : Status
  /-- Left out of the conversation history, though still listed. -/
  dropped : Bool
deriving DecidableEq

namespace StreamKind

/-- The kind of a stream, as it is written. -/
def name : StreamKind → String
  | normalized => "normalized"
  | raw => "raw"

/-- Read the kind of a stream. -/
def reader : Reader StreamKind :=
  .enumeration [("normalized", normalized), ("raw", raw)]

/-- The last part of the address at which the output is published. -/
def endpoint : StreamKind → String
  | normalized => "normalized-logs"
  | raw => "raw-logs"

end StreamKind

namespace RunReason

/-- Every reason with its written name. -/
def names : List (String × RunReason) :=
  [("setupscript", setupScript), ("cleanupscript", cleanupScript),
    ("codingagent", codingAgent), ("devserver", devServer)]

/-- The reason of a run: one lower-case word. -/
def name : RunReason → String
  | setupScript => "setupscript"
  | cleanupScript => "cleanupscript"
  | codingAgent => "codingagent"
  | devServer => "devserver"

/-- What people are shown of a reason. -/
def displayName : RunReason → String
  | setupScript => "Setup Script"
  | cleanupScript => "Cleanup Script"
  | codingAgent => "Coding Agent"
  | devServer => "Dev Server"

/-- The reason of a written name. -/
def ofName? (s : String) : Option RunReason := names.lookup s

/-- Why a text is no reason. -/
def refusal (s : String) : String := "Unknown run reason: " ++ s

/-- Read the reason of a run. -/
def reader : Reader RunReason := .enumeration names

/-- Agents publish a conversation, scripts publish lines. -/
def kind : RunReason → StreamKind
  | codingAgent => .normalized
  | _ => .raw

theorem ofName?_name (r : RunReason) : ofName? r.name = some r := by
  cases r <;> decide

theorem ofName?_eq_some {s : String} {r : RunReason} : ofName? s = some r ↔ s = r.name := by
  constructor
  · intro h
    simp only [ofName?, names, List.lookup_cons, List.lookup_nil] at h
    split at h
    · rename_i e; simp only [beq_iff_eq] at e; subst e; cases h; rfl
    split at h
    · rename_i e; simp only [beq_iff_eq] at e; subst e; cases h; rfl
    split at h
    · rename_i e; simp only [beq_iff_eq] at e; subst e; cases h; rfl
    split at h
    · rename_i e; simp only [beq_iff_eq] at e; subst e; cases h; rfl
    · cases h
  · rintro rfl; exact ofName?_name r

end RunReason

namespace Status

/-- The status of a process, as it is written. -/
def name : Status → String
  | running => "running"
  | completed => "completed"
  | failed => "failed"
  | killed => "killed"

/-- Read the status of a process. -/
def reader : Reader Status :=
  .enumeration [("running", running), ("completed", completed), ("failed", failed),
    ("killed", killed)]

end Status

namespace Channel

/-- Every channel with its written name. -/
def names : List (String × Channel) :=
  [("stdout", stdout), ("stderr", stderr), ("normalized", normalized), ("raw", raw)]

/-- The channel of an entry, in its line and in its JSON. -/
def name : Channel → String
  | stdout => "stdout"
  | stderr => "stderr"
  | normalized => "normalized"
  | raw => "raw"

/-- The channel of a written name. -/
def ofName? (s : String) : Option Channel := names.lookup s

/-- Why a text is no channel. -/
def refusal (s : String) : String := "Unknown log entry channel: " ++ s

/-- Read the channel of an entry. -/
def reader : Reader Channel := .enumeration names

theorem ofName?_name (c : Channel) : ofName? c.name = some c := by
  cases c <;> decide

end Channel

namespace Uuid

/-- An identifier is written as a string. -/
def toJson (u : Uuid) : Json := .str u.text

/-- Read an identifier in any of its forms. -/
def reader : Reader Uuid := .parsed ofText?

end Uuid

namespace Execution

/-- How a process publishes its output follows from the reason of its run. -/
def kind (p : Execution) : StreamKind := p.reason.kind

/-- A process is shown to people by the reason of its run. -/
def displayName (p : Execution) : String := p.reason.displayName

/-- A process is written with all its fields. -/
def toJson (p : Execution) : Json :=
  .obj [("id", p.id.toJson), ("run_reason", .str p.reason.name), ("status", .str p.status.name),
    ("dropped", .bool p.dropped)]

/-- Read a process; it counts as not dropped when nothing is said. -/
def reader : Reader Execution :=
  (Execution.mk <$> Fields.required "id" Uuid.reader
    <*> Fields.required "run_reason" RunReason.reader
    <*> Fields.required "status" Status.reader
    <*> Fields.defaulted "dropped" false Reader.bool).reader

/-- Why an argument names no process. -/
inductive ArgumentError
  /-- There is no colon. -/
  | noColon (text : String)
  /-- What stands before the first colon is no identifier. -/
  | badId
  /-- What stands after the first colon is no reason. -/
  | badReason (text : String)
deriving DecidableEq

/-- The wording of an argument error. -/
def ArgumentError.message : ArgumentError → String
  | noColon text => "expected <uuid>:<run_reason>, got '" ++ text ++ "'"
  | badId => "invalid process id"
  | badReason text => RunReason.refusal text

/-- The process that an argument `<uuid>:<run_reason>` names. It counts as
running. Blanks around either part do not matter. -/
def ofArgument (s : String) : Except ArgumentError Execution :=
  let cs := s.toList
  match cs.dropWhile (· ≠ ':') with
  | [] => .error (.noColon s)
  | _ :: after =>
    match Uuid.ofChars? (Text.trim (cs.takeWhile (· ≠ ':'))) with
    | none => .error .badId
    | some id =>
      let word := String.ofList (Text.trim after)
      match RunReason.ofName? word with
      | none => .error (.badReason word)
      | some reason => .ok ⟨id, reason, .running, false⟩

end Execution

end LiveLog
