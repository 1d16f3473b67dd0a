import LiveLog.Entry.Basic
import LiveLog.Json.Reader

namespace LiveLog

/-!
# Entries in JSON

How entries and their parts are written and read. The kinds of an entry, of an
action and of a tool status are tagged unions whose tag may be unknown; such a
value reads as `unknown` whatever its other members are. What is written lists
the tag first and the fields in order, with null for what is absent.
-/

namespace Instant

/-- A moment is written as a string. -/
def toJson (t : Instant) : Json := .str t.text

/-- Read a moment in the relaxed grammar. -/
def reader : Reader Instant := .parsed ofRelaxedText?

end Instant

namespace FileChange

/-- A change is written with its tag first. -/
def toJson : FileChange → Json
  | write content => .obj [("action", .str "write"), ("content", .str content)]
  | delete => .obj [("action", .str "delete")]
  | rename newPath => .obj [("action", .str "rename"), ("new_path", .str newPath)]
  | edit unifiedDiff hasLineNumbers =>
    .obj [("action", .str "edit"), ("unified_diff", .str unifiedDiff),
      ("has_line_numbers", .bool hasLineNumbers)]

/-- The kinds of change. -/
def form : Tagged FileChange where
  tag := "action"
  variants := [("write", .fields (write <$> Fields.required "content" .string)),
    ("delete", .unit delete),
    ("rename", .fields (rename <$> Fields.required "new_path" .string)),
    ("edit", .fields (edit <$> Fields.required "unified_diff" .string
      <*> Fields.defaulted "has_line_numbers" false .bool))]
  fallback := none

/-- Read a change. -/
def reader : Reader FileChange := form.reader

end FileChange

namespace ExitStatus

/-- An exit status is written with its tag first. -/
def toJson : ExitStatus → Json
  | exitCode code => .obj [("type", .str "exit_code"), ("code", .ofInt code)]
  | success succeeded => .obj [("type", .str "success"), ("success", .bool succeeded)]

/-- The kinds of exit status. An exit code has 32 bits. -/
def form : Tagged ExitStatus where
  tag := "type"
  variants := [("exit_code", .fields (exitCode <$>
      Fields.required "code" (.int (-2147483648) 2147483647))),
    ("success", .fields (success <$> Fields.required "success" .bool))]
  fallback := none

/-- Read an exit status. -/
def reader : Reader ExitStatus := form.reader

end ExitStatus

namespace CommandResult

/-- A command's result is written with both fields. -/
def toJson (r : CommandResult) : Json :=
  .obj [("exit_status", .ofOption ExitStatus.toJson r.exitStatus),
    ("output", .ofOption Json.str r.output)]

/-- Read a command's result. -/
def reader : Reader CommandResult :=
  (CommandResult.mk <$> Fields.optional "exit_status" ExitStatus.reader
    <*> Fields.optional "output" .string).reader

end CommandResult

namespace ResultFormat

/-- The format as the type of a tool's result. -/
def name : ResultFormat → String
  | markdown => "markdown"
  | json => "json"

/-- Read the type of a tool's result. -/
def reader : Reader ResultFormat := .enumeration [("markdown", markdown), ("json", json)]

end ResultFormat

namespace ToolResult

/-- A tool's result is written with its format first. -/
def toJson (r : ToolResult) : Json := .obj [("type", .str r.format.name), ("value", r.value)]

/-- Read a tool's result. -/
def reader : Reader ToolResult :=
  (ToolResult.mk <$> Fields.required "type" ResultFormat.reader
    <*> Fields.required "value" .json).reader

end ToolResult

namespace TodoItem

/-- An item is written with all its fields. -/
def toJson (t : TodoItem) : Json :=
  .obj [("content", .str t.content), ("status", .str t.status),
    ("priority", .ofOption Json.str t.priority)]

/-- Read an item. -/
def reader : Reader TodoItem :=
  (TodoItem.mk <$> Fields.required "content" .string <*> Fields.required "status" .string
    <*> Fields.defaulted "priority" none Reader.string.option).reader

end TodoItem

namespace Action

/-- An action is written with its tag first. -/
def toJson : Action → Json
  | fileRead path => .obj [("action", .str "file_read"), ("path", .str path)]
  | fileEdit path changes =>
    .obj [("action", .str "file_edit"), ("path", .str path),
      ("changes", .ofList FileChange.toJson changes)]
  | commandRun command result =>
    .obj [("action", .str "command_run"), ("command", .str command),
      ("result", .ofOption CommandResult.toJson result)]
  | search query => .obj [("action", .str "search"), ("query", .str query)]
  | webFetch url => .obj [("action", .str "web_fetch"), ("url", .str url)]
  | tool name arguments result =>
    .obj [("action", .str "tool"), ("tool_name", .str name),
      ("arguments", .ofOption id arguments), ("result", .ofOption ToolResult.toJson result)]
  | taskCreate description =>
    .obj [("action", .str "task_create"), ("description", .str description)]
  | planPresentation plan => .obj [("action", .str "plan_presentation"), ("plan", .str plan)]
  | todoManagement todos operation =>
    .obj [("action", .str "todo_management"), ("todos", .ofList TodoItem.toJson todos),
      ("operation", .str operation)]
  | other description => .obj [("action", .str "other"), ("description", .str description)]
  | unknown => .obj [("action", .str "unknown")]

/-- The kinds of action. -/
def form : Tagged Action where
  tag := "action"
  variants := [("file_read", .fields (fileRead <$> Fields.required "path" .string)),
    ("file_edit", .fields (fileEdit <$> Fields.required "path" .string
      <*> Fields.defaulted "changes" [] FileChange.reader.list)),
    ("command_run", .fields (commandRun <$> Fields.required "command" .string
      <*> Fields.defaulted "result" none CommandResult.reader.option)),
    ("search", .fields (search <$> Fields.required "query" .string)),
    ("web_fetch", .fields (webFetch <$> Fields.required "url" .string)),
    ("tool", .fields (tool <$> Fields.required "tool_name" .string
      <*> Fields.defaulted "arguments" none Reader.json.option
      <*> Fields.defaulted "result" none ToolResult.reader.option)),
    ("task_create", .fields (taskCreate <$> Fields.required "description" .string)),
    ("plan_presentation", .fields (planPresentation <$> Fields.required "plan" .string)),
    ("todo_management", .fields (todoManagement
      <$> Fields.defaulted "todos" [] TodoItem.reader.list
      <*> Fields.required "operation" .string)),
    ("other", .fields (other <$> Fields.required "description" .string)),
    ("unknown", .unit unknown)]
  fallback := some unknown

/-- Read an action. -/
def reader : Reader Action := form.reader

end Action

namespace ToolStatus

/-- A tool status is written with its tag first. -/
def toJson : ToolStatus → Json
  | created => .obj [("status", .str "created")]
  | success => .obj [("status", .str "success")]
  | failed => .obj [("status", .str "failed")]
  | denied reason => .obj [("status", .str "denied"), ("reason", .ofOption Json.str reason)]
  | pendingApproval approval requestedAt timeoutAt =>
    .obj [("status", .str "pending_approval"), ("approval_id", .str approval),
      ("requested_at", requestedAt.toJson), ("timeout_at", timeoutAt.toJson)]
  | timedOut => .obj [("status", .str "timed_out")]
  | unknown => .obj [("status", .str "unknown")]

/-- The kinds of tool status. -/
def form : Tagged ToolStatus where
  tag := "status"
  variants := [("created", .unit created), ("success", .unit success), ("failed", .unit failed),
    ("denied", .fields (denied <$> Fields.optional "reason" .string)),
    ("pending_approval", .fields (pendingApproval <$> Fields.required "approval_id" .string
      <*> Fields.required "requested_at" Instant.reader
      <*> Fields.required "timeout_at" Instant.reader)),
    ("timed_out", .unit timedOut), ("unknown", .unit unknown)]
  fallback := some unknown

/-- Read a tool status. -/
def reader : Reader ToolStatus := form.reader

end ToolStatus

namespace ErrorCause

/-- A cause is written as its tag alone. -/
def toJson : ErrorCause → Json
  | setupRequired => .obj [("type", .str "setup_required")]
  | other => .obj [("type", .str "other")]

/-- The kinds of cause. -/
def form : Tagged ErrorCause where
  tag := "type"
  variants := [("setup_required", .unit setupRequired), ("other", .unit other)]
  fallback := some other

/-- Read a cause. -/
def reader : Reader ErrorCause := form.reader

end ErrorCause

namespace EntryKind

/-- A kind is written with its tag first. -/
def toJson : EntryKind → Json
  | userMessage => .obj [("type", .str "user_message")]
  | userFeedback deniedTool =>
    .obj [("type", .str "user_feedback"), ("denied_tool", .str deniedTool)]
  | assistantMessage => .obj [("type", .str "assistant_message")]
  | toolUse toolName action status =>
    .obj [("type", .str "tool_use"), ("tool_name", .str toolName),
      ("action_type", action.toJson), ("status", status.toJson)]
  | systemMessage => .obj [("type", .str "system_message")]
  | errorMessage cause => .obj [("type", .str "error_message"), ("error_type", cause.toJson)]
  | thinking => .obj [("type", .str "thinking")]
  | loading => .obj [("type", .str "loading")]
  | unknown => .obj [("type", .str "unknown")]

/-- The kinds of entry. -/
def form : Tagged EntryKind where
  tag := "type"
  variants := [("user_message", .unit userMessage),
    ("user_feedback", .fields (userFeedback <$> Fields.required "denied_tool" .string)),
    ("assistant_message", .unit assistantMessage),
    ("tool_use", .fields (toolUse <$> Fields.required "tool_name" .string
      <*> Fields.required "action_type" Action.reader
      <*> Fields.defaulted "status" .created ToolStatus.reader)),
    ("system_message", .unit systemMessage),
    ("error_message", .fields (errorMessage <$> Fields.required "error_type" ErrorCause.reader)),
    ("thinking", .unit thinking), ("loading", .unit loading), ("unknown", .unit unknown)]
  fallback := some unknown

/-- Read a kind. -/
def reader : Reader EntryKind := form.reader

end EntryKind

namespace Entry

/-- A normalized entry is written with its four fields. -/
def toJson (e : Entry) : Json :=
  .obj [("timestamp", .ofOption Json.str e.timestamp), ("entry_type", e.kind.toJson),
    ("content", .str e.content), ("metadata", .ofOption id e.metadata)]

/-- Read an entry. -/
def reader : Reader Entry :=
  (Entry.mk <$> Fields.optional "timestamp" .string
    <*> Fields.required "entry_type" EntryKind.reader
    <*> Fields.required "content" .string
    <*> Fields.optional "metadata" .json).reader

end Entry

namespace LogUnit

/-- A unit is written as its tag and its content. -/
def toJson : LogUnit → Json
  | entry e => .obj [("type", .str "NORMALIZED_ENTRY"), ("content", e.toJson)]
  | stdout text => .obj [("type", .str "STDOUT"), ("content", .str text)]
  | stderr text => .obj [("type", .str "STDERR"), ("content", .str text)]

/-- The kinds of unit. -/
def form : Content LogUnit where
  tag := "type"
  content := "content"
  variants := [("NORMALIZED_ENTRY", Entry.reader.map entry), ("STDOUT", Reader.string.map stdout),
    ("STDERR", Reader.string.map stderr)]

/-- Read a unit. -/
def reader : Reader LogUnit := form.reader

end LogUnit

end LiveLog
