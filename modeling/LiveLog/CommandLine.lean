import LiveLog.Follower
import LiveLog.LogFilter
import LiveLog.Reply

namespace LiveLog

/-!
# The command line

The command follows the processes named by its arguments and prints their
merged log. An option that takes a value takes it after an equals sign or as
the next argument; options other than the processes may be given once. The
address of the backend may also come from the environment.

A run is a function of the arguments, the environment, the time, and what each
request comes to. The connections report one after another, in the order in
which they were opened.
-/

/-- What the arguments say. -/
structure Options where
  base : Option String
  processes : List Execution
  /-- Whether every entry has a row of its own. -/
  plain : Bool
  json : Bool
deriving DecidableEq

/-- Why arguments make no sense. -/
inductive UsageError
  | unexpected (argument : String)
  | missingValue (option : String)
  | needlessValue (option : String)
  | repeated (option : String)
  | badProcess (value : String) (e : Execution.ArgumentError)
  | noProcess
deriving DecidableEq

/-- The wording of a usage error. -/
def UsageError.message : UsageError → String
  | unexpected a => "unexpected argument '" ++ a ++ "' found"
  | missingValue o => "a value is required for '" ++ o ++ "' but none was supplied"
  | needlessValue o => "unexpected value for '" ++ o ++ "' found; no more were expected"
  | repeated o => "the argument '" ++ o ++ "' cannot be used multiple times"
  | badProcess v e => "invalid value '" ++ v ++ "' for '--process <PROCESSES>': " ++ e.message
  | noProcess => "the following required arguments were not provided:\n  --process <PROCESSES>"

/-- What the arguments ask for. -/
inductive Request
  | help
  | follow (o : Options)
deriving DecidableEq

/-- An option that takes a value. -/
inductive ValueOption
  | base
  | process
deriving DecidableEq

namespace ValueOption

/-- How the option is given. -/
def name : ValueOption → String
  | base => "--base-url"
  | process => "--process"

end ValueOption

namespace Options

/-- Nothing has been said. -/
def blank : Options := ⟨none, [], false, false⟩

/-- Give an option its value. -/
def give (o : Options) (option : ValueOption) (value : String) : Except UsageError Options :=
  match option with
  | .base =>
    if o.base.isSome then .error (.repeated option.name) else .ok { o with base := some value }
  | .process =>
    match Execution.ofArgument value with
    | .ok p => .ok { o with processes := o.processes ++ [p] }
    | .error e => .error (.badProcess value e)

/-- Whether an argument cannot be the value of an option before it. -/
def isOption (arg : String) : Bool :=
  match arg.toList with
  | '-' :: _ :: _ => true
  | _ => false

/-- The name of an option and the value after its equals sign. -/
def split (arg : String) : String × Option String :=
  let cs := arg.toList
  match cs.dropWhile (· ≠ '=') with
  | [] => (arg, none)
  | _ :: value => (String.ofList (cs.takeWhile (· ≠ '=')), some (String.ofList value))

/-- Read arguments. `wanting` is the option whose value comes next. -/
def read (o : Options) (wanting : Option ValueOption) : List String → Except UsageError Request
  | [] =>
    match wanting with
    | some option => .error (.missingValue option.name)
    | none => if o.processes.isEmpty then .error .noProcess else .ok (.follow o)
  | arg :: rest =>
    match wanting with
    | some option =>
      if isOption arg then .error (.missingValue option.name)
      else match o.give option arg with
        | .ok o' => o'.read none rest
        | .error e => .error e
    | none =>
      match split arg with
      | ("--base-url", none) => o.read (some .base) rest
      | ("--process", none) => o.read (some .process) rest
      | ("--base-url", some value) =>
        match o.give .base value with
        | .ok o' => o'.read none rest
        | .error e => .error e
      | ("--process", some value) =>
        match o.give .process value with
        | .ok o' => o'.read none rest
        | .error e => .error e
      | ("--no-aggregate", none) =>
        if o.plain then .error (.repeated arg) else { o with plain := true }.read none rest
      | ("--json", none) =>
        if o.json then .error (.repeated arg) else { o with json := true }.read none rest
      | ("--help", none) => .ok .help
      | ("--no-aggregate", some _) | ("--json", some _) | ("--help", some _) =>
        .error (.needlessValue arg)
      | ("--", none) =>
        match rest with
        | [] => o.read none rest
        | a :: _ => .error (.unexpected a)
      | _ => if arg.toList.take 2 = ['-', 'h'] then .ok .help else .error (.unexpected arg)

/-- Read all arguments. -/
def ofArguments (args : List String) : Except UsageError Request := blank.read none args

end Options

/-- What a run of the command comes to. -/
structure Outcome where
  exitCode : Nat
  /-- What is wrong with the arguments. -/
  usage : Option UsageError
  /-- The lines that are printed. -/
  lines : List String
  /-- What went wrong. -/
  error : Option String
  /-- The paths that were asked for, if a server was reached. -/
  paths : List String
deriving DecidableEq

namespace CommandLine

/-- The address of the backend when nothing is said. -/
def defaultBase : String := "http://127.0.0.1:3000"

/-- The variables of the environment that matter. -/
def variableNames : List String :=
  ["VK_BACKEND_URL", "RUST_LOG", "VK_UNIFIED_LOG_MAX_ENTRIES", "VK_LOG_HISTORY_MAX_ENTRIES",
    "VK_LOG_HISTORY_MAX_BYTES"]

/-- Words in lines of at most some width. `line` is the present line. -/
def wrap (width : Nat) (line : String) : List String → List String
  | [] => [line]
  | word :: words =>
    if line.isEmpty then wrap width word words
    else if line.length + 1 + word.length ≤ width then wrap width (line ++ " " ++ word) words
    else line :: wrap width word words

/-- An option and its description, which stands in a column of its own. -/
def describe (option : String) (words : List String) : List String :=
  let indent (s : String) : String := String.ofList (List.replicate (29 - s.length) ' ')
  match wrap 71 "" words with
  | [] => [option]
  | first :: others => (option ++ indent option ++ first) :: others.map fun l => indent "" ++ l

/-- The description of the command. -/
def help (environment : String → Option String) : List String :=
  ["Tail the merged logs of running execution processes", "",
    "Usage: vk-logs [OPTIONS] --process <PROCESSES>", "", "Options:"] ++
  describe "      --base-url <BASE_URL>" ["Backend", "base", "URL", "[env:",
    "VK_BACKEND_URL=" ++ (environment "VK_BACKEND_URL").getD "" ++ "]", "[default:",
    defaultBase ++ "]"] ++
  describe "      --process <PROCESSES>" ["Process", "to", "follow,", "as",
    "\x60<uuid>:<run_reason>\x60.", "Repeatable"] ++
  describe "      --no-aggregate" ["Print", "every", "entry", "on", "its", "own", "line", "instead",
    "of", "grouping", "reads", "and", "searches"] ++
  describe "      --json" ["Emit", "rows", "as", "JSON", "lines"] ++
  describe "  -h, --help" ["Print", "help"]

/-- What the connections of a hub report, one after another. -/
def events (h : Hub) (network : Url → Reply) (now : Int) : List (Event × Int) :=
  h.links.flatMap fun l =>
    ((network l.endpoint.url).course l.endpoint.url).signals.map fun s =>
      (⟨l.endpoint.process, l.generation, s⟩, now)

/-- The paths that are asked for, in the order of text. -/
def paths (h : Hub) (network : Url → Reply) : List String :=
  ((h.links.filter fun l => l.endpoint.url.isAskable && (network l.endpoint.url).isAnswered).map
    fun l => l.endpoint.url.requestPath).mergeSort fun a b => decide (a ≤ b)

/-- What a run comes to that has printed some lines, and had an error or none. The
paths are those that were asked for. -/
def conclude (followed : List String × Option String) (asked : List String) : Outcome :=
  match followed.2 with
  | none => ⟨0, none, followed.1, none, asked⟩
  | some e => ⟨1, none, followed.1, some ("log stream ended with an error: " ++ e), asked⟩

/-- Follow processes on a backend to the end. -/
def follow (o : Options) (settings : Settings) (backend : Backend) (network : Url → Reply)
    (now : Int) : Outcome :=
  let f := Follower.start settings backend (!o.plain) o.json o.processes now
  conclude (f.follow (events f.hub network now)) (paths f.hub network)

/-- Run the command. -/
def run (args : List String) (environment : String → Option String) (network : Url → Reply)
    (now : Int) : Outcome :=
  match Options.ofArguments args with
  | .error e => ⟨2, some e, [], none, []⟩
  | .ok .help => ⟨0, none, help environment, none, []⟩
  | .ok (.follow o) =>
    match LogFilter.judgeLevel ((environment "RUST_LOG").getD "info") with
    | .refused => ⟨1, none, [], some "Failed to create tracing filter", []⟩
    | .torn => ⟨101, none, [], none, []⟩
    | .accepted =>
      let base := (o.base <|> environment "VK_BACKEND_URL").getD defaultBase
      match Backend.ofText base with
      | .error _ => ⟨1, none, [], some ("Invalid backend url " ++ base), []⟩
      | .ok backend => follow o (Settings.ofEnvironment environment) backend network now

end CommandLine

end LiveLog
