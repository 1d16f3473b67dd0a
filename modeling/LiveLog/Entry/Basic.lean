import LiveLog.Json.Basic
import LiveLog.Time.Instant

namespace LiveLog

/-!
# Normalized entries

What a coding agent reports: messages, thoughts, errors and the use of tools.
A tool use carries what the tool does (`Action`) and how far it has come
(`ToolStatus`). Kinds that a reader does not know are kept as `unknown`, so
that an entry of a newer kind is still an entry.
-/

/-- What became of a file. -/
inductive FileChange
  | write (content : String)
  | delete
  | rename (newPath : String)
  | edit (unifiedDiff : String) (hasLineNumbers : Bool)
deriving DecidableEq

/-- How a command ended. -/
inductive ExitStatus
  | exitCode (code : Int)
  | success (succeeded : Bool)
deriving DecidableEq

/-- What a command left behind. -/
structure CommandResult where
  exitStatus : Option ExitStatus
  output : Option String
deriving DecidableEq

/-- How a tool's result is meant to be shown. -/
inductive ResultFormat
  | markdown
  | json
deriving DecidableEq

/-- What a tool answered. -/
structure ToolResult where
  format : ResultFormat
  value : Json
deriving DecidableEq

/-- One item of a to-do list. -/
structure TodoItem where
  content : String
  status : String
  priority : Option String
deriving DecidableEq

/-- What a tool does. -/
inductive Action
  | fileRead (path : String)
  | fileEdit (path : String) (changes : List FileChange)
  | commandRun (command : String) (result : Option CommandResult)
  | search (query : String)
  | webFetch (url : String)
  | tool (name : String) (arguments : Option Json) (result : Option ToolResult)
  | taskCreate (description : String)
  | planPresentation (plan : String)
  | todoManagement (todos : List TodoItem) (operation : String)
  | other (description : String)
  | unknown
deriving DecidableEq

/-- How far the use of a tool has come. -/
inductive ToolStatus
  | created
  | success
  | failed
  | denied (reason : Option String)
  | pendingApproval (approval : String) (requestedAt timeoutAt : Instant)
  | timedOut
  | unknown
deriving DecidableEq

/-- Why an agent reports an error. -/
inductive ErrorCause
  | setupRequired
  | other
deriving DecidableEq

/-- What an entry is. -/
inductive EntryKind
  | userMessage
  | userFeedback (deniedTool : String)
  | assistantMessage
  | toolUse (toolName : String) (action : Action) (status : ToolStatus)
  | systemMessage
  | errorMessage (cause : ErrorCause)
  | thinking
  | loading
  | unknown
deriving DecidableEq

/-- One item that a coding agent reports. -/
structure Entry where
  timestamp : Option String
  kind : EntryKind
  content : String
  metadata : Option Json
deriving DecidableEq

/-- What a process delivers: an entry, or a line of its output. -/
inductive LogUnit
  | entry (e : Entry)
  | stdout (text : String)
  | stderr (text : String)
deriving DecidableEq

namespace Action

/-- The written name of an action. -/
def name : Action → String
  | fileRead .. => "file_read"
  | fileEdit .. => "file_edit"
  | commandRun .. => "command_run"
  | search .. => "search"
  | webFetch .. => "web_fetch"
  | tool .. => "tool"
  | taskCreate .. => "task_create"
  | planPresentation .. => "plan_presentation"
  | todoManagement .. => "todo_management"
  | other .. => "other"
  | unknown => "unknown"

end Action

namespace ToolStatus

/-- Whether the tool waits for someone's consent. -/
def isPending : ToolStatus → Bool
  | pendingApproval .. => true
  | _ => false

end ToolStatus

namespace Entry

/-- The milliseconds of the entry's own timestamp, if it has a valid one. -/
def millis? (e : Entry) : Option Int :=
  (e.timestamp.bind Instant.ofStrictText?).map Instant.millis

/-- What the entry's tool does. -/
def action? (e : Entry) : Option Action :=
  match e.kind with
  | .toolUse _ action _ => some action
  | _ => none

/-- How far the entry's tool has come. -/
def status? (e : Entry) : Option ToolStatus :=
  match e.kind with
  | .toolUse _ _ status => some status
  | _ => none

/-- Whether nobody would miss a tool's arguments: there are none, or they are
null or an empty object, array or string. -/
def isBlankArgument : Option Json → Bool
  | none => true
  | some .null => true
  | some (.obj []) => true
  | some (.arr []) => true
  | some (.str s) => s.isEmpty
  | some _ => false

/-- Whether a row shows the entry's details before anyone asks: a plan, a file
that waits for consent to be written, a tool with arguments or a result. -/
def isExpandedByDefault (e : Entry) : Bool :=
  match e.kind with
  | .toolUse _ (.fileEdit _ changes) status =>
    status.isPending && changes.any fun
      | .write _ => true
      | _ => false
  | .toolUse _ (.planPresentation _) _ => true
  | .toolUse _ (.tool _ arguments result) _ => !isBlankArgument arguments || result.isSome
  | _ => false

end Entry

end LiveLog
