import LiveLog.Entry.Codec
import LiveLog.Json.Patch
import LiveLog.Json.Printer

namespace LiveLog

/-!
# Messages of a log stream

A stream delivers frames: server-sent events, or text frames. A frame carries a
message, or nothing that concerns the log. Text frames come in two generations:
a message as the one member of an object, or a stream event that names the
index of the entry it appends or replaces. Events of the second generation
become patches of the conversation document.
-/

/-- What a log stream says. -/
inductive Message
  | stdout (text : String)
  | stderr (text : String)
  | patch (patch : Patch)
  | sessionId (text : String)
  | finished
deriving DecidableEq

/-- An event of the second generation. -/
inductive StreamEvent
  | append (index : Int) (entry : Json)
  | replace (index : Int) (entry : Json)
  | finished
deriving DecidableEq

/-- One frame, as a transport delivers it. -/
inductive Frame
  | event (name data : String)
  | text (text : String)
deriving DecidableEq

/-- Why a frame carries no message although it should. -/
inductive FrameError
  /-- The data of a patch event is no patch. -/
  | patch (fault : Fault)
  /-- A text frame is no message. -/
  | json (fault : Fault)
  /-- A stream event names no index. -/
  | invalidIndex (index : Int)
deriving DecidableEq

namespace Patch

/-- The pointer of the entry at an index. -/
def entryPath (index : Nat) : Pointer := ⟨["entries", Count.text index]⟩

/-- The pointer of a top-level field. -/
def fieldPath (field : String) : Pointer := ⟨[field]⟩

/-- Insert a value before an index of the entries. -/
def addValue (index : Nat) (value : Json) : Patch := [.add (entryPath index) value]

/-- Overwrite the entry at an index. -/
def replaceValue (index : Nat) (value : Json) : Patch := [.replace (entryPath index) value]

/-- Insert a unit before an index of the entries. -/
def addUnit (index : Nat) (unit : LogUnit) : Patch := addValue index unit.toJson

/-- Overwrite the entry at an index with a unit. -/
def replaceUnit (index : Nat) (unit : LogUnit) : Patch := replaceValue index unit.toJson

/-- Take the entry at an index away. -/
def removeEntry (index : Nat) : Patch := [.remove (entryPath index)]

/-- Set a top-level field. -/
def replaceField (field : String) (value : Json) : Patch := [.replace (fieldPath field) value]

/-- The index that a pointer to one entry names. -/
def entryIndex? (p : Pointer) : Option Nat :=
  match p.tokens with
  | [entries, index] => if entries = "entries" then Count.ofText? index else none
  | _ => none

/-- The index and the normalized entry that one operation carries. -/
def normalizedEntry? (op : Operation) : Option (Nat × Entry) := do
  let index ← entryIndex? op.path
  let value ← op.value?
  let tag ← (← value.member? "type").text?
  if tag = "NORMALIZED_ENTRY" then
    let entry ← Entry.reader.ofJson (← value.member? "content")
    return (index, entry)
  else none

/-- The last normalized entry that a patch carries, with its index. -/
def lastEntry? (patch : Patch) : Option (Nat × Entry) := patch.reverse.findSome? normalizedEntry?

end Patch

namespace StreamEvent

/-- An event is written with its tag first. -/
def toJson : StreamEvent → Json
  | append index entry =>
    .obj [("type", .str "append"), ("entry_index", .ofInt index), ("entry", entry)]
  | replace index entry =>
    .obj [("type", .str "replace"), ("entry_index", .ofInt index), ("entry", entry)]
  | finished => .obj [("type", .str "finished")]

/-- An index and an entry. The index has 64 bits and may be negative. -/
def entryFields (make : Int → Json → StreamEvent) : Fields StreamEvent :=
  make <$> Fields.required "entry_index" (.int (-9223372036854775808) 9223372036854775807)
    <*> Fields.required "entry" .json

/-- The kinds of event. -/
def form : Tagged StreamEvent where
  tag := "type"
  variants := [("append", .fields (entryFields append)), ("replace", .fields (entryFields replace)),
    ("finished", .unit finished)]
  fallback := none

/-- Read an event. -/
def reader : Reader StreamEvent := form.reader

/-- The message that an event stands for. A negative index names no entry. -/
def toMessage : StreamEvent → Except FrameError Message
  | append index entry =>
    if 0 ≤ index then .ok (.patch (Patch.addValue index.toNat entry))
    else .error (.invalidIndex index)
  | replace index entry =>
    if 0 ≤ index then .ok (.patch (Patch.replaceValue index.toNat entry))
    else .error (.invalidIndex index)
  | finished => .ok .finished

end StreamEvent

/-- The wording of an index error. -/
def FrameError.indexMessage (index : Int) : String :=
  "invalid entry index " ++ String.ofList (Json.integerChars index)

namespace Message

/-- The name of the server-sent event that carries a message. -/
def name : Message → String
  | stdout _ => "stdout"
  | stderr _ => "stderr"
  | patch _ => "json_patch"
  | sessionId _ => "session_id"
  | finished => "finished"

/-- The data of the server-sent event that carries a message. -/
def data : Message → String
  | stdout text | stderr text | sessionId text => text
  | patch p => p.toJson.compact
  | finished => ""

/-- A message is written as the one member of an object. -/
def toJson : Message → Json
  | stdout text => .obj [("Stdout", .str text)]
  | stderr text => .obj [("Stderr", .str text)]
  | patch p => .obj [("JsonPatch", p.toJson)]
  | sessionId text => .obj [("SessionId", .str text)]
  | finished => .str "Finished"

/-- The kinds of message. -/
def variants : List (String × Named Message) :=
  [("Stdout", .value (Reader.string.map stdout)), ("Stderr", .value (Reader.string.map stderr)),
    ("JsonPatch", .value (Patch.reader.map patch)),
    ("SessionId", .value (Reader.string.map sessionId)), ("Finished", .unit finished)]

/-- Read a message. -/
def reader : Reader Message := .named variants

/-- The message of a server-sent event. Events of other names do not concern
the log. -/
def ofEvent (name data : String) : Except FrameError (Option Message) :=
  if name = "stdout" ∨ name = "message" ∨ name = "" then .ok (some (.stdout data))
  else if name = "stderr" then .ok (some (.stderr data))
  else if name = "json_patch" then
    match Patch.reader.ofText data with
    | .ok p => .ok (some (.patch p))
    | .error fault => .error (.patch fault)
  else if name = "session_id" then .ok (some (.sessionId data))
  else if name = "finished" then .ok (some .finished)
  else .ok none

/-- The message of a JSON value: the end of a stream, a stream event, or a
message by itself. A value with one member of another name does not concern
the log. -/
def ofJson (v : Json) : Except FrameError (Option Message) :=
  if v.member? "finished" = some (.bool true) then .ok (some .finished)
  else if (v.member? "type").isSome then
    match StreamEvent.reader.ofJson v with
    | some event => event.toMessage.map some
    | none => .error (.json .shape)
  else
    let foreign := match v with
      | .obj [(k, _)] => (variants.lookup k).isNone
      | _ => false
    if foreign then .ok none
    else match reader.ofJson v with
      | some m => .ok (some m)
      | none => .error (.json .shape)

/-- The message of a text frame. -/
def ofText (text : String) : Except FrameError (Option Message) :=
  match Json.ofText text with
  | .ok v => ofJson v
  | .error flaw => .error (.json (.text flaw))

/-- The message of a frame, if it concerns the log. -/
def decode : Frame → Except FrameError (Option Message)
  | .event name data => ofEvent name data
  | .text text => ofText text

end Message

end LiveLog
