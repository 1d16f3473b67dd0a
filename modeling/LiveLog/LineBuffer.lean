import LiveLog.Entry.Codec
import LiveLog.Json.Printer
import LiveLog.Settings

namespace LiveLog

/-!
# Bounded buffers of output lines

The lines of one process are kept up to a number of lines and a number of
bytes, and the oldest go first. The newest line stays, however large it is.
Lines keep the position at which they arrived when older ones are gone, and
their arrival stamps never go backwards.
-/

/-- A line of output as it arrived. -/
structure Line where
  position : Nat
  unit : LogUnit
  /-- When the line arrived, in milliseconds. -/
  arrivedAt : Int
  /-- About how many bytes the line takes. -/
  size : Nat
deriving DecidableEq

namespace Line

/-- About how many bytes some lines take. -/
def total : List Line → Nat
  | [] => 0
  | line :: rest => line.size + total rest

theorem total_append (xs ys : List Line) : total (xs ++ ys) = total xs + total ys := by
  induction xs with
  | nil => simp [total]
  | cons x xs ih =>
    simp only [List.cons_append, total, ih]
    omega

end Line

namespace LogUnit

/-- About how many bytes a unit takes in memory. -/
def size : LogUnit → Nat
  | .stdout text | .stderr text => text.utf8ByteSize + 8
  | .entry e => e.toJson.compact.utf8ByteSize + 8

end LogUnit

/-- The kept lines of one process, oldest first. -/
structure LineBuffer where
  maxEntries : Nat
  maxBytes : Nat
  lines : List Line
  /-- How many lines are kept. -/
  count : Nat
  /-- About how many bytes the kept lines take. -/
  bytes : Nat
  /-- The position of the next line. -/
  next : Nat
  /-- Whether a line has been let go. -/
  evicted : Bool
  count_eq : count = lines.length
  bytes_eq : bytes = Line.total lines
deriving DecidableEq

namespace LineBuffer

/-- No lines, within the limits of some settings. -/
def empty (s : Settings) : LineBuffer :=
  ⟨s.rawEntries, s.rawBytes, [], 0, 0, 0, false, rfl, rfl⟩

/-- The lines that stay within the limits: the oldest go, but never the last. -/
def trim (maxEntries maxBytes : Nat) : List Line → (count bytes : Nat) → List Line × Nat × Nat
  | line :: next :: rest, count, bytes =>
    if maxEntries < count ∨ maxBytes < bytes then
      trim maxEntries maxBytes (next :: rest) (count - 1) (bytes - line.size)
    else (line :: next :: rest, count, bytes)
  | lines, count, bytes => (lines, count, bytes)

theorem trim_count_bytes (maxEntries maxBytes : Nat) (lines : List Line) (count bytes : Nat)
    (hc : count = lines.length) (hb : bytes = Line.total lines) :
    let out := trim maxEntries maxBytes lines count bytes
    out.2.1 = out.1.length ∧ out.2.2 = Line.total out.1 := by
  induction lines generalizing count bytes with
  | nil => exact ⟨hc, hb⟩
  | cons line rest ih =>
    cases rest with
    | nil => exact ⟨hc, hb⟩
    | cons next rest =>
      unfold trim
      split
      · apply ih
        · simp only [hc, List.length_cons]; omega
        · simp only [hb, Line.total]; omega
      · exact ⟨hc, hb⟩

/-- What is kept is a run of lines up to the last one. -/
theorem trim_suffix (maxEntries maxBytes : Nat) (lines : List Line) (count bytes : Nat) :
    (trim maxEntries maxBytes lines count bytes).1 <:+ lines := by
  induction lines generalizing count bytes with
  | nil => exact List.suffix_refl _
  | cons line rest ih =>
    cases rest with
    | nil => exact List.suffix_refl _
    | cons next rest =>
      unfold trim
      split
      · exact (ih _ _).trans (List.suffix_cons _ _)
      · exact List.suffix_refl _

/-- The stamp of a line that arrives now. -/
def stamp (b : LineBuffer) (now : Int) : Int :=
  match b.lines.getLast? with
  | none => now
  | some line => max now line.arrivedAt

/-- Keep one more unit, which arrives now. -/
def push (b : LineBuffer) (unit : LogUnit) (now : Int) : LineBuffer :=
  let line : Line := ⟨b.next, unit, b.stamp now, unit.size⟩
  let all := b.lines ++ [line]
  let out := trim b.maxEntries b.maxBytes all (b.count + 1) (b.bytes + line.size)
  have h := trim_count_bytes b.maxEntries b.maxBytes all (b.count + 1) (b.bytes + line.size)
    (by simp [all, b.count_eq]) (by simp [all, Line.total_append, Line.total, b.bytes_eq])
  { maxEntries := b.maxEntries
    maxBytes := b.maxBytes
    lines := out.1
    count := out.2.1
    bytes := out.2.2
    next := b.next + 1
    evicted := b.evicted || decide (out.2.1 < b.count + 1)
    count_eq := h.1
    bytes_eq := h.2 }

/-- The positions of the kept lines. -/
def positions (b : LineBuffer) : List Nat := b.lines.map Line.position

end LineBuffer

end LiveLog
