import LiveLog.Message
import LiveLog.Text.Utf8

namespace LiveLog

/-!
# Server-sent events

A stream of events is text. Its lines end in a line feed, a carriage return or
both; each line is a field, a comment, or empty, and an empty line completes an
event. An event holds the lines of its data and perhaps a name. Without a line
of data it is dropped, and so is one that the end of the stream cuts off.

Messages are written in this form. A line break within the data begins a new
line of data, so no text can complete an event or begin another.
-/

namespace EventStream

/-- The complete lines of a text, without their ends. `line` holds what has
been read of the first one, in reverse. A carriage return at the very end is
not known to be a whole line end yet. -/
def lines (line : List Char) : List Char → List (List Char)
  | [] => []
  | '\r' :: [] => []
  | '\r' :: '\n' :: rest => line.reverse :: lines [] rest
  | c :: rest =>
    if c = '\n' ∨ c = '\r' then line.reverse :: lines [] rest else lines (c :: line) rest

/-- An event of which some lines have been read. -/
structure Draft where
  name : List Char
  /-- The lines of data. -/
  data : List (List Char)
deriving DecidableEq

/-- An event of which no line has been read. -/
def Draft.blank : Draft := ⟨[], []⟩

/-- The event that an empty line completes. -/
def Draft.frame? (d : Draft) : Option Frame :=
  if d.data.isEmpty then none
  else some (.event (if d.name.isEmpty then "message" else String.ofList d.name)
    (String.ofList (['\n'].intercalate d.data)))

/-- The name of a field. -/
def fieldName (line : List Char) : List Char := line.takeWhile (· ≠ ':')

/-- The value of a field. One space after the colon does not belong to it. -/
def fieldValue (line : List Char) : List Char :=
  match line.dropWhile (· ≠ ':') with
  | ':' :: ' ' :: value => value
  | ':' :: value => value
  | _ => []

/-- Read one line that is not empty. Only the fields `event` and `data` matter. -/
def Draft.read (d : Draft) (line : List Char) : Draft :=
  if fieldName line = ['e', 'v', 'e', 'n', 't'] then { d with name := fieldValue line }
  else if fieldName line = ['d', 'a', 't', 'a'] then { d with data := d.data ++ [fieldValue line] }
  else d

/-- The events that some lines complete. -/
def events (d : Draft) : List (List Char) → List Frame
  | [] => []
  | [] :: rest => d.frame?.toList ++ events Draft.blank rest
  | line :: rest => events (d.read line) rest

/-- Text without the mark of its byte order. -/
def withoutMark : List Char → List Char
  | '\uFEFF' :: cs => cs
  | cs => cs

/-- The events of a stream. -/
def parse (text : List Char) : List Frame := events Draft.blank (lines [] (withoutMark text))

/-- Data with each line break followed by the beginning of a new line of data. -/
def dataLines (cs : List Char) : List Char :=
  cs.flatMap fun c => if c = '\n' ∨ c = '\r' then c :: "data: ".toList else [c]

/-- A message as an event. Empty data has no line. -/
def write (m : Message) : List Char :=
  "event: ".toList ++ m.name.toList ++
    (if m.data.isEmpty then ['\n'] else "\ndata: ".toList ++ dataLines m.data.toList ++ ['\n']) ++
    ['\n']

/-- Messages as a stream of events. -/
def body (ms : List Message) : String := String.ofList (ms.flatMap write)

/-- What a stream of events brings: the events before its end, and what went
wrong there. -/
structure Delivery where
  frames : List Frame
  failure : Option String
deriving DecidableEq

/-- The events of a body, which may break off. -/
def ofBytes (bytes : List UInt8) (brokenOff : Bool) : Delivery :=
  let (text, rest) := Utf8.decode bytes
  ⟨parse text,
    if brokenOff then some "Transport error: error decoding response body"
    else rest.message?.map ("UTF8 error: " ++ ·)⟩

/-- A line holds no line end. -/
theorem not_mem_of_mem_lines {line l cs : List Char} (hl : '\n' ∉ line ∧ '\r' ∉ line)
    (h : l ∈ lines line cs) : '\n' ∉ l ∧ '\r' ∉ l := by
  fun_induction lines line cs with
  | case1 => simp at h
  | case2 => simp at h
  | case3 line rest ih =>
    rcases List.mem_cons.mp h with rfl | h
    · simpa using hl
    · exact ih (by simp) h
  | case4 line c rest _ _ hc ih =>
    rcases List.mem_cons.mp h with rfl | h
    · simpa using hl
    · exact ih (by simp) h
  | case5 line c rest _ _ hc ih =>
    refine ih ?_ h
    simp only [not_or] at hc
    simp only [List.mem_cons, not_or]
    exact ⟨⟨Ne.symm hc.1, hl.1⟩, ⟨Ne.symm hc.2, hl.2⟩⟩

/-- Both kinds of line end, and one that is not known to be complete. -/
example : lines [] "a\r\nb\rc\n\r".toList = [['a'], ['b'], ['c']] := by decide +kernel

/-- A comment is skipped, one space is dropped, the last name counts, and an
event without data is no event. -/
example : parse ":x\nevent: a\nevent:b\ndata:  c\ndata\n\nevent: d\n\ndata: e\n".toList =
    [.event "b" " c\n"] := by decide +kernel

/-- Line breaks stay within the data. -/
example : parse (body [.stdout "a\r\nevent: b", .finished, .stderr "c"]).toList =
    [.event "stdout" "a\n\nevent: b", .event "stderr" "c"] := by decide +kernel

end EventStream

end LiveLog
