import LiveLog.EventStream
import LiveLog.Proofs.ClearText
import LiveLog.Proofs.MessageCodec
import Mathlib.Data.Bool.AllAny

namespace LiveLog

/-!
# Messages in a stream of events

Whoever reads a stream of events cuts its text wherever a line ends, also within the data
of a message. What keeps the text of a message in its own event is that a new line of
data begins after each line feed and each carriage return that is written. So every line
of an event but the last begins with the name of its field, and the last one is empty
because the event is over.

The lines of the data are joined by line feeds again. A carriage return therefore comes
back as a line feed, and the two ends of a line that Windows writes as two; everything
else stays as it was. The JSON text of a patch has neither.
-/

namespace EventStream

/-! ## Cutting a text into lines -/

/-- A line feed for a carriage return. -/
def lineFeed (c : Char) : Char := if c = '\r' then '\n' else c

/-- A text with line feeds for its carriage returns. -/
def lineFeeds (s : String) : String := String.ofList (s.toList.map lineFeed)

theorem lineFeed_of_break {c : Char} (ends : c = '\n' ∨ c = '\r') : lineFeed c = '\n' := by
  rcases ends with rfl | rfl <;> rfl

theorem lineFeed_of_plain {c : Char} (plain : ¬(c = '\n' ∨ c = '\r')) : lineFeed c = c :=
  if_neg fun back => plain (Or.inr back)

section Lines

variable {line rest : List Char} {c : Char}

theorem lines_lineFeed : lines line ('\n' :: rest) = line.reverse :: lines [] rest := by
  rw [lines]
  · exact if_pos (Or.inl rfl)
  · exact fun back _ => nomatch back
  · exact fun _ back _ => nomatch back

/-- A line ends at a carriage return too, if something other than a line feed follows. -/
theorem lines_break {next : Char} (ends : c = '\n' ∨ c = '\r') (apart : next ≠ '\n') :
    lines line (c :: next :: rest) = line.reverse :: lines [] (next :: rest) := by
  rw [lines]
  · exact if_pos ends
  · exact fun _ tail => nomatch tail
  · exact fun _ _ tail => apart (List.cons.inj tail).1

theorem lines_plain (plain : ¬(c = '\n' ∨ c = '\r')) :
    lines line (c :: rest) = lines (c :: line) rest := by
  rw [lines]
  · exact if_neg plain
  · exact fun back => absurd (Or.inr back) plain
  · exact fun _ back => absurd (Or.inr back) plain

/-- Characters within a line are gathered, the last one first. -/
theorem lines_append {piece : List Char} (plain : ∀ c ∈ piece, ¬(c = '\n' ∨ c = '\r')) :
    lines line (piece ++ rest) = lines (piece.reverse ++ line) rest := by
  induction piece generalizing line with
  | nil => rfl
  | cons c piece inductionHypothesis =>
      rcases List.forall_mem_cons.mp plain with ⟨first, others⟩
      rw [List.cons_append, lines_plain first, inductionHypothesis others, List.reverse_cons,
        List.append_assoc, List.singleton_append]

end Lines

/-! ## Reading the lines of an event -/

theorem read_event (d : Draft) (name : List Char) :
    d.read ("event: ".toList ++ name) = { d with name := name } := rfl

theorem dataStart_plain : ∀ c ∈ "data: ".toList, ¬(c = '\n' ∨ c = '\r') :=
  List.all_iff_forall_prop.mp rfl

theorem read_data (d : Draft) (value : List Char) :
    d.read ("data: ".toList ++ value) = { d with data := d.data ++ [value] } := rfl

theorem modifyHead_nil_append (pieces : List (List Char)) :
    pieces.modifyHead ([] ++ ·) = pieces :=
  congrFun List.modifyHead_id pieces

theorem dataLines_break {c : Char} (ends : c = '\n' ∨ c = '\r') (cs : List Char) :
    dataLines (c :: cs) = c :: ("data: ".toList ++ dataLines cs) := by
  rw [dataLines, List.flatMap_cons, if_pos ends]
  rfl

theorem dataLines_plain {c : Char} (plain : ¬(c = '\n' ∨ c = '\r')) (cs : List Char) :
    dataLines (c :: cs) = c :: dataLines cs := by
  rw [dataLines, List.flatMap_cons, if_neg plain]
  rfl

/-- The data of a message is read back line by line, whatever part `value` of its first
line has been read before. -/
theorem events_dataLines (d : Draft) (rest : List Char) {line value : List Char}
    (begun : line.reverse = "data: ".toList ++ value) (cs : List Char) :
    events d (lines line (dataLines cs ++ '\n' :: rest)) =
      events { d with data :=
        d.data ++ ((cs.map lineFeed).splitOn '\n').modifyHead (value ++ ·) } (lines [] rest) := by
  induction cs generalizing d line value with
  | nil =>
      change events d (lines line ('\n' :: rest)) = _
      rw [lines_lineFeed, begun]
      change events (d.read ("data: ".toList ++ value)) _ = _
      rw [read_data, List.map_nil, List.splitOn_nil, List.modifyHead_cons, List.append_nil]
  | cons c cs inductionHypothesis =>
      rw [List.map_cons, List.splitOn_cons_eq_if_modifyHead]
      by_cases ends : c = '\n' ∨ c = '\r'
      · -- The line of data is complete, and the next one begins with nothing of it read.
        have cut : lines line (c :: ("data: ".toList ++ dataLines cs ++ '\n' :: rest)) =
            line.reverse :: lines [] ("data: ".toList ++ dataLines cs ++ '\n' :: rest) :=
          lines_break ends (by decide)
        have fresh : ("data: ".toList.reverse ++ []).reverse = "data: ".toList ++ [] := rfl
        rw [dataLines_break ends, List.cons_append, cut, begun, List.append_assoc,
          lines_append dataStart_plain]
        change events (d.read ("data: ".toList ++ value)) _ = _
        rw [read_data, inductionHypothesis _ fresh, modifyHead_nil_append, lineFeed_of_break ends,
          if_pos (beq_self_eq_true '\n'), List.modifyHead_cons, List.append_nil,
          List.append_assoc, List.singleton_append]
      · have longer : (c :: line).reverse = "data: ".toList ++ (value ++ [c]) := by
          rw [List.reverse_cons, begun, List.append_assoc]
        have other : ¬ (lineFeed c == '\n') = true := by
          rw [lineFeed_of_plain ends, beq_iff_eq]
          exact fun same => ends (Or.inl same)
        rw [dataLines_plain ends, List.cons_append, lines_plain ends, inductionHypothesis d longer,
          if_neg other, lineFeed_of_plain ends, List.modifyHead_modifyHead]
        simp only [Function.comp_def, List.append_assoc, List.singleton_append]

theorem events_lineFeed (d : Draft) (rest : List Char) :
    events d (lines [] ('\n' :: rest)) = d.frame?.toList ++ events Draft.blank (lines [] rest) := by
  rw [lines_lineFeed]
  rfl

/-- A message has a name, and it is on one line. -/
theorem name_plain (m : Message) :
    m.name.toList ≠ [] ∧ ∀ c ∈ m.name.toList, ¬(c = '\n' ∨ c = '\r') := by
  have listed : m.name ∈ ["stdout", "stderr", "json_patch", "session_id", "finished"] := by
    cases m <;> simp [Message.name]
  have every : ∀ name ∈ ["stdout", "stderr", "json_patch", "session_id", "finished"],
      name.toList ≠ [] ∧ (name.toList.all fun c => decide ¬(c = '\n' ∨ c = '\r')) = true := by
    decide
  rcases every m.name listed with ⟨named, plain⟩
  exact ⟨named, List.all_iff_forall_prop.mp plain⟩

theorem events_name (m : Message) (rest : List Char) :
    events Draft.blank (lines [] ("event: ".toList ++ m.name.toList ++ '\n' :: rest)) =
      events ⟨m.name.toList, []⟩ (lines [] rest) := by
  have plain : ∀ c ∈ "event: ".toList ++ m.name.toList, ¬(c = '\n' ∨ c = '\r') :=
    List.forall_mem_append.mpr ⟨List.all_iff_forall_prop.mp rfl, (name_plain m).2⟩
  rw [lines_append plain, List.append_nil, lines_lineFeed, List.reverse_reverse]
  change events (Draft.blank.read ("event: ".toList ++ m.name.toList)) _ = _
  rw [read_event]
  rfl

/-- The event of a message, after all lines of its data. -/
theorem frame?_of_lines (m : Message) :
    (Draft.mk m.name.toList ((m.data.toList.map lineFeed).splitOn '\n')).frame? =
      some (.event m.name (lineFeeds m.data)) := by
  have named : m.name.toList.isEmpty = false := List.isEmpty_eq_false_iff.mpr (name_plain m).1
  have begun : ((m.data.toList.map lineFeed).splitOn '\n').isEmpty = false :=
    List.isEmpty_eq_false_iff.mpr (List.splitOn_ne_nil _ _)
  unfold Draft.frame?
  simp only [begun, named, List.intercalate_splitOn, String.ofList_toList, lineFeeds,
    Bool.false_eq_true, if_false]

/-- A message brings one event, or none if it has no data, and whatever is written after it
is read as if it came first. -/
theorem events_write (m : Message) (rest : List Char) :
    events Draft.blank (lines [] (write m ++ rest)) =
      (if m.data ≠ "" then [.event m.name (lineFeeds m.data)] else []) ++
        events Draft.blank (lines [] rest) := by
  by_cases empty : m.data = ""
  · have written : write m ++ rest =
        "event: ".toList ++ m.name.toList ++ '\n' :: '\n' :: rest := by
      unfold write
      rw [if_pos (String.isEmpty_iff.mpr empty), List.append_assoc, List.append_assoc]
      rfl
    rw [written, events_name, events_lineFeed, if_neg (not_not_intro empty)]
    rfl
  · have written : write m ++ rest = "event: ".toList ++ m.name.toList ++
        '\n' :: ("data: ".toList ++ (dataLines m.data.toList ++ '\n' :: '\n' :: rest)) := by
      unfold write
      rw [if_neg (by rwa [String.isEmpty_iff]), List.append_assoc, List.append_assoc,
        List.append_assoc, List.append_assoc]
      rfl
    have fresh : ("data: ".toList.reverse ++ []).reverse = "data: ".toList ++ [] := rfl
    rw [written, events_name, lines_append dataStart_plain, events_dataLines _ _ fresh,
      events_lineFeed, modifyHead_nil_append, List.nil_append, frame?_of_lines, if_pos empty]
    rfl

/-- A body has one event for each message with data, in their order. -/
theorem parse_body (ms : List Message) :
    parse (body ms).toList =
      (ms.filter (·.data ≠ "")).map fun m => .event m.name (lineFeeds m.data) := by
  have unmarked : withoutMark (ms.flatMap write) = ms.flatMap write := by
    cases ms <;> rfl
  have read : ∀ ms : List Message, events Draft.blank (lines [] (ms.flatMap write)) =
      (ms.filter (·.data ≠ "")).map fun m => .event m.name (lineFeeds m.data) := by
    intro ms
    induction ms with
    | nil => rfl
    | cons m ms inductionHypothesis =>
        rw [List.flatMap_cons, events_write, inductionHypothesis, List.filter_cons]
        by_cases empty : m.data = "" <;> simp [empty]
  rw [parse, body, String.toList_ofList, unmarked, read]

end EventStream

namespace Message

open EventStream (lineFeed lineFeeds)

/-! ## The messages that arrive -/

/-- A message with line feeds for the carriage returns of its text. -/
def withLineFeeds : Message → Message
  | stdout text => stdout (lineFeeds text)
  | stderr text => stderr (lineFeeds text)
  | sessionId text => sessionId (lineFeeds text)
  | patch operations => patch operations
  | finished => finished

@[simp] theorem name_withLineFeeds (m : Message) : m.withLineFeeds.name = m.name := by
  cases m <;> rfl

@[simp] theorem dataNesting_withLineFeeds (m : Message) :
    m.withLineFeeds.dataNesting = m.dataNesting := by
  cases m <;> rfl

theorem IsLossless.withLineFeeds {m : Message} (lossless : m.IsLossless) :
    m.withLineFeeds.IsLossless := by
  cases m with
  | patch operations => exact lossless
  | stdout text | stderr text | sessionId text => exact fun _ same => nomatch same
  | finished => exact lossless

/-- The data of a patch has no line ends, so nothing in it is replaced. -/
theorem data_withLineFeeds {m : Message} (lossless : m.IsLossless) :
    m.withLineFeeds.data = lineFeeds m.data := by
  cases m with
  | patch operations =>
      change (Patch.toJson operations).compact = lineFeeds (Patch.toJson operations).compact
      have plain : ∀ c ∈ (Patch.toJson operations).chars, lineFeed c = c := by
        intro c written
        apply EventStream.lineFeed_of_plain
        have clear := Json.isClear_chars (Patch.toJson operations) c written
        rintro (rfl | rfl) <;> exact absurd clear (by decide)
      rw [Json.compact, lineFeeds, String.toList_ofList, List.map_congr_left plain, List.map_id']
  | stdout text | stderr text | sessionId text => rfl
  | finished => rfl

/-- Only the end of the stream and messages without text have no data. -/
theorem data_eq_empty {m : Message} :
    m.data = "" ↔ m = finished ∨ m = stdout "" ∨ m = stderr "" ∨ m = sessionId "" := by
  cases m with
  | patch operations =>
      have nonempty : (Patch.toJson operations).chars ≠ [] := by
        cases operations <;> exact fun same => nomatch same
      simp [data, Json.compact, String.ofList_eq_empty_iff, nonempty]
  | stdout text | stderr text | sessionId text => simp [data]
  | finished => simp [data]

/-- No text forges or splits an event. A body of events brings the messages with data, in
their order and no others, each with line feeds for the carriage returns of its data. Only
the end of the stream and messages without text are left out. -/
theorem decode_body {ms : List Message} (lossless : ∀ m ∈ ms, m.IsLossless)
    (fits : ∀ m ∈ ms, m.dataNesting ≤ Draft.deepest) :
    (EventStream.parse (EventStream.body ms).toList).map decode =
        (ms.filter (·.data ≠ "")).map (fun m => .ok (some m.withLineFeeds)) ∧
      ∀ m ∈ ms, m.withLineFeeds.name = m.name ∧ m.withLineFeeds.data = lineFeeds m.data ∧
        (m.data = "" ↔ m = finished ∨ m = stdout "" ∨ m = stderr "" ∨ m = sessionId "") := by
  constructor
  · rw [EventStream.parse_body, List.map_map]
    apply List.map_congr_left
    intro m kept
    have listed : m ∈ ms := List.mem_of_mem_filter kept
    have read := decode_event (lossless m listed).withLineFeeds
      (m.dataNesting_withLineFeeds.trans_le (fits m listed))
    rwa [name_withLineFeeds, data_withLineFeeds (lossless m listed)] at read
  · intro m listed
    exact ⟨m.name_withLineFeeds, data_withLineFeeds (lossless m listed), data_eq_empty⟩

/-- Text that looks like events, between messages that bring none, and a patch with line
ends in a value. -/
theorem decode_body_of_forged_events :
    let forged := "\r\n\n data: a\revent: finished\n\ndata:\r"
    let operations : Patch := [.add ⟨["entries", "0"]⟩ (.str "\r\n\nevent: finished\n\n")]
    let ms : List Message :=
      [.stderr "", .stdout forged, .finished, .patch operations, .sessionId " \r"]
    (∀ m ∈ ms, m.IsLossless) ∧ (∀ m ∈ ms, m.dataNesting ≤ Draft.deepest) ∧
      (EventStream.parse (EventStream.body ms).toList).map decode =
        [.ok (some (.stdout "\n\n\n data: a\nevent: finished\n\ndata:\n")),
          .ok (some (.patch operations)), .ok (some (.sessionId " \n"))] := by
  intro forged operations ms
  have patch : (Message.patch operations).IsLossless := by
    intro given same op carried
    rw [← Message.patch.inj same] at carried
    rcases List.mem_singleton.mp carried with rfl
    exact ⟨fun _ value => Option.some.inj value ▸ trivial,
      fun _ value => Option.some.inj value ▸ trivial⟩
  have lossless : ∀ m ∈ ms, m.IsLossless := by
    intro m listed
    simp only [ms, List.mem_cons, List.not_mem_nil, or_false] at listed
    rcases listed with rfl | rfl | rfl | rfl | rfl
    iterate 3 exact fun _ same => nomatch same
    · exact patch
    · exact fun _ same => nomatch same
  have fits : ∀ m ∈ ms, m.dataNesting ≤ Draft.deepest := by decide
  have kept : ms.filter (·.data ≠ "") =
      [.stdout forged, .patch operations, .sessionId " \r"] := by decide +kernel
  have first : lineFeeds forged = "\n\n\n data: a\nevent: finished\n\ndata:\n" := by
    decide +kernel
  have last : lineFeeds " \r" = " \n" := by decide +kernel
  refine ⟨lossless, fits, (decode_body lossless fits).1.trans ?_⟩
  simp only [kept, List.map_cons, List.map_nil, withLineFeeds, first, last]

end Message

end LiveLog
