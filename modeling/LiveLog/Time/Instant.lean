import LiveLog.Decimal.Count
import LiveLog.Text.Blank
import LiveLog.Time.Calendar

namespace LiveLog

/-!
# Moments in universal time

An `Instant` is a date, a minute of the day, a second and its nanoseconds, in
universal time. A leap second is the fifty-ninth second with a thousand
million nanoseconds or more; no other second is that long.

Instants are read in two grammars. The strict one is the profile of the
internet standard: fixed widths and a numeric or zulu offset. The relaxed one
allows blanks, signed and longer years, missing leading zeros, offsets without
a colon, and the name UTC. Either way the offset is taken away at once, so an
instant does not remember it. The written form is unique.
-/

/-- A moment in universal time. -/
structure Instant where
  date : Date
  minute : Nat
  second : Nat
  nanos : Nat
  minute_lt : minute < 1440
  second_lt : second < 60
  nanos_lt : nanos < 2000000000
deriving DecidableEq

namespace Instant

/-- The first year that a moment may lie in. -/
def leastYear : Int := -262143

/-- The last year that a moment may lie in. -/
def mostYear : Int := 262142

/-- The milliseconds since the first moment of 1970, rounded down. -/
def millis (t : Instant) : Int :=
  (t.date.number * 1440 + t.minute) * 60000 + t.second * 1000 + t.nanos / 1000000

/-- The moment at which a clock shows a local time at an offset in minutes. -/
def ofLocal? (date : Date) (minute second nanos : Nat) (offset : Int) : Option Instant :=
  let shifted : Int := minute - offset
  let (day, rest) :=
    if shifted < 0 then (date.previous, shifted + 1440)
    else if 1440 ≤ shifted then (date.next, shifted - 1440)
    else (date, shifted)
  if h : rest.toNat < 1440 ∧ second < 60 ∧ nanos < 2000000000 then
    if leastYear ≤ day.year ∧ day.year ≤ mostYear then
      some ⟨day, rest.toNat, second, nanos, h.1, h.2.1, h.2.2⟩
    else none
  else none

/-- The fields of a written moment, before they are checked against the
calendar. The offset is in minutes. -/
structure Fields where
  year : Int
  month : Nat
  day : Nat
  hour : Nat
  minute : Nat
  second : Nat
  nanos : Nat
  offset : Int

/-- The moment of fields that are all in range. A sixtieth second is the leap
second. -/
def ofFields? (f : Fields) : Option Instant :=
  if f.hour < 24 ∧ f.minute < 60 ∧ f.second ≤ 60 ∧ f.offset.natAbs ≤ 1439 ∧
      leastYear ≤ f.year ∧ f.year ≤ mostYear then
    (Date.of? f.year f.month f.day).bind fun date =>
      ofLocal? date (f.hour * 60 + f.minute) (min f.second 59)
        (f.nanos + if f.second = 60 then 1000000000 else 0) f.offset
  else none

/-- At least `least` and at most `most` digits at the front. -/
def digits? (least most : Nat) (cs : List Char) : Option (List Char × List Char) :=
  let run := (cs.take most).takeWhile Char.isDigit
  if least ≤ run.length then some (run, cs.drop run.length) else none

/-- A number of between `least` and `most` digits at the front. -/
def number? (least most : Nat) (cs : List Char) : Option (Nat × List Char) :=
  (digits? least most cs).map fun p => (Count.value p.1, p.2)

/-- One given character at the front. -/
def mark? (c : Char) : List Char → Option (List Char)
  | [] => none
  | d :: cs => if d = c then some cs else none

/-- What separates date and time. -/
def separator? : List Char → Option (List Char)
  | [] => none
  | c :: cs => if c = 'T' ∨ c = 't' ∨ c = ' ' then some cs else none

/-- The fraction of a second at the front, in nanoseconds; digits beyond the
ninth are dropped. Without a point there is none. -/
def fraction? : List Char → Option (Nat × List Char)
  | '.' :: cs => (digits? 1 9 cs).map fun p =>
      (Count.value p.1 * Nat.pow 10 (9 - p.1.length), p.2.dropWhile Char.isDigit)
  | cs => some (0, cs)

/-- The offset at the front, in minutes; `between` reads what stands between
hours and minutes. -/
def offset? (between : List Char → Option (List Char)) : List Char → Option (Int × List Char)
  | [] => none
  | sign :: cs =>
    if sign = 'Z' ∨ sign = 'z' then some (0, cs)
    else do
      let negative ← if sign = '+' then some false
        else if sign = '-' ∨ sign.toNat = 0x2212 then some true
        else none
      let (hours, cs) ← number? 2 2 cs
      let cs ← between cs
      let (minutes, cs) ← number? 2 2 cs
      if minutes < 60 then
        let total : Int := hours * 60 + minutes
        some (if negative then -total else total, cs)
      else none

/-- The moment that characters of the strict grammar stand for. -/
def ofStrict? (cs : List Char) : Option Instant := do
  let (year, cs) ← number? 4 4 cs
  let (month, cs) ← number? 2 2 (← mark? '-' cs)
  let (day, cs) ← number? 2 2 (← mark? '-' cs)
  let (hour, cs) ← number? 2 2 (← separator? cs)
  let (minute, cs) ← number? 2 2 (← mark? ':' cs)
  let (second, cs) ← number? 2 2 (← mark? ':' cs)
  let (nanos, cs) ← fraction? cs
  let (offset, cs) ← offset? (mark? ':') cs
  if cs.isEmpty then ofFields? ⟨year, month, day, hour, minute, second, nanos, offset⟩ else none

/-- The moment of a text in the strict grammar. -/
def ofStrictText? (s : String) : Option Instant := ofStrict? s.toList

/-- A number after blanks. -/
def looseNumber? (cs : List Char) : Option (Nat × List Char) := number? 1 2 (Text.trimStart cs)

/-- A given character after blanks. -/
def looseMark? (c : Char) (cs : List Char) : Option (List Char) := mark? c (Text.trimStart cs)

/-- A year after blanks: up to four digits, or a sign and any number of them. -/
def looseYear? (cs : List Char) : Option (Int × List Char) :=
  match Text.trimStart cs with
  | '-' :: r => (number? 1 r.length r).map fun p => (-(p.1 : Int), p.2)
  | '+' :: r => (number? 1 r.length r).map fun p => ((p.1 : Int), p.2)
  | r => (number? 1 4 r).map fun p => ((p.1 : Int), p.2)

/-- An offset in the relaxed grammar. -/
def looseOffset? (cs : List Char) : Option (Int × List Char) :=
  if (cs.take 3).map Char.toUpper = ['U', 'T', 'C'] then some (0, cs.drop 3)
  else offset? (fun r => some (r.dropWhile fun c => c = ':' || Text.isBlank c)) cs

/-- The moment that characters of the relaxed grammar stand for. -/
def ofRelaxed? (cs : List Char) : Option Instant := do
  let (year, cs) ← looseYear? cs
  let (month, cs) ← looseNumber? (← looseMark? '-' cs)
  let (day, cs) ← looseNumber? (← looseMark? '-' cs)
  let (hour, cs) ← looseNumber? (← separator? cs)
  let (minute, cs) ← looseNumber? (← looseMark? ':' cs)
  let (second, cs) ← looseNumber? (← looseMark? ':' cs)
  let (nanos, cs) ← fraction? cs
  let (offset, cs) ← looseOffset? (Text.trimStart cs)
  if (Text.trimStart cs).isEmpty then
    ofFields? ⟨year, month, day, hour, minute, second, nanos, offset⟩
  else none

/-- The moment of a text in the relaxed grammar. -/
def ofRelaxedText? (s : String) : Option Instant := ofRelaxed? s.toList

/-- A number with zeros in front, to a width. -/
def padded (width n : Nat) : List Char :=
  let ds := Nat.toDigits 10 n
  List.replicate (width - ds.length) '0' ++ ds

/-- A year of four digits; any other carries its sign. -/
def yearChars (year : Int) : List Char :=
  if 0 ≤ year ∧ year ≤ 9999 then padded 4 year.toNat
  else (if year < 0 then '-' else '+') :: padded 4 year.natAbs

/-- The fraction of a second in none, three, six or nine digits. -/
def fractionChars (nanos : Nat) : List Char :=
  if nanos = 0 then []
  else if nanos % 1000000 = 0 then '.' :: padded 3 (nanos / 1000000)
  else if nanos % 1000 = 0 then '.' :: padded 6 (nanos / 1000)
  else '.' :: padded 9 nanos

/-- The characters of a moment. -/
def chars (t : Instant) : List Char :=
  let leap := 1000000000 ≤ t.nanos
  let second := if leap then t.second + 1 else t.second
  let nanos := if leap then t.nanos - 1000000000 else t.nanos
  yearChars t.date.year ++ '-' :: padded 2 t.date.month ++ '-' :: padded 2 t.date.day ++
    'T' :: padded 2 (t.minute / 60) ++ ':' :: padded 2 (t.minute % 60) ++
    ':' :: padded 2 second ++ fractionChars nanos ++ ['Z']

/-- The written form of a moment. -/
def text (t : Instant) : String := String.ofList t.chars

/-- A leap second before an offset, and a moment before the first of 1970. -/
example : (ofStrictText? "2017-01-01T01:29:60.5+01:30").map text = some "2016-12-31T23:59:60.500Z" ∧
    (ofStrictText? "1969-12-31T23:59:59.9995Z").map millis = some (-1) ∧
    (ofRelaxedText? " 2025 -1- 2 3:4:5 utc ").map text = some "2025-01-02T03:04:05Z" := by
  decide +kernel

end Instant

end LiveLog
