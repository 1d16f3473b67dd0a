import LiveLog.Text.Hex
import LiveLog.Text.Pieces

namespace LiveLog

/-!
# Tables of characters

Properties of characters are given as tables, which are written as rows of
words. Code points are in hexadecimal. A set is a list of ranges: `41-5A` is
the capitals of ASCII, and `61` a single letter. A map takes characters to
texts by rules. `41-5A=61` takes the first of a range to a character and the
others as far from it as they are from the first. `100-12E/2=101` does so with
every second character. `AA=61,20.308` takes consecutive characters to texts
that are given by their code points.
-/

/-- The characters from one code point to another, which belong to it. -/
structure CodeRange where
  first : Nat
  last : Nat
deriving DecidableEq, Repr

namespace CodeRange

/-- The range that a word names. -/
def ofWord (cs : List Char) : CodeRange :=
  ⟨Hex.number (cs.takeWhile (· ≠ '-')),
    Hex.number (if cs.contains '-' then cs.dropWhile (· ≠ '-') else cs)⟩

/-- Whether a range holds a code point. -/
def holds (r : CodeRange) (n : Nat) : Bool := r.first ≤ n && n ≤ r.last

end CodeRange

/-- The words of some rows. -/
def tableWords (rows : List String) : List (List Char) :=
  rows.flatMap fun row => Text.pieces ' ' row.toList

/-- A set of characters. -/
structure CodeSet where
  ranges : List CodeRange

namespace CodeSet

/-- The set that a table names. -/
def ofRows (rows : List String) : CodeSet := ⟨(tableWords rows).map CodeRange.ofWord⟩

/-- Whether a character belongs to a set. -/
def contains (s : CodeSet) (c : Char) : Bool := s.ranges.any fun r => r.holds c.toNat

instance : Append CodeSet := ⟨fun s t => ⟨s.ranges ++ t.ranges⟩⟩

/-- Two sets together hold what one of them holds. -/
theorem contains_append (s t : CodeSet) (c : Char) :
    (s ++ t).contains c = (s.contains c || t.contains c) := List.any_append

end CodeSet

/-- A rule of a map. -/
inductive CodeRule
  /-- Every `step`-th character of a range goes to another at a fixed distance. -/
  | shift (range : CodeRange) (step target : Nat)
  /-- Consecutive characters go to one text each. -/
  | each (first : Nat) (images : List (List Char))

namespace CodeRule

/-- The characters that a word names, with stops between. -/
def image (cs : List Char) : List Char :=
  (Text.pieces '.' cs).map fun piece => Char.ofNat (Hex.number piece)

/-- The rule that a word names. -/
def ofWord (cs : List Char) : CodeRule :=
  let source := cs.takeWhile (· ≠ '=')
  let target := cs.drop (source.length + 1)
  if source.contains '-' then
    match Text.pieces '/' source with
    | [range, step] => .shift (.ofWord range) (Hex.number step) (Hex.number target)
    | _ => .shift (.ofWord source) 1 (Hex.number target)
  else .each (Hex.number source) ((Text.pieces ',' target).map image)

/-- What a rule takes a character to. -/
def image? (c : Char) : CodeRule → Option (List Char)
  | shift range step target =>
    if range.holds c.toNat ∧ (c.toNat - range.first) % step = 0 then
      some [Char.ofNat (target + (c.toNat - range.first))]
    else none
  | each first images => if first ≤ c.toNat then images[c.toNat - first]? else none

/-- The character that a rule takes to a text. Only rules that list their texts
are looked at. -/
def source? (text : List Char) : CodeRule → Option Char
  | shift _ _ _ => none
  | each first images => (images.findIdx? (· == text)).map fun i => Char.ofNat (first + i)

end CodeRule

/-- A map from characters to texts. -/
structure CodeMap where
  rules : List CodeRule

namespace CodeMap

/-- The map that a table names. -/
def ofRows (rows : List String) : CodeMap := ⟨(tableWords rows).map CodeRule.ofWord⟩

/-- What a map takes a character to. The first rule that has the character
counts. -/
def image? (m : CodeMap) (c : Char) : Option (List Char) :=
  m.rules.findSome? (CodeRule.image? c)

/-- The character that a map takes to a text. -/
def source? (m : CodeMap) (text : List Char) : Option Char :=
  m.rules.findSome? (CodeRule.source? text)

end CodeMap

/-- Ranges, steps and lists. -/
example : (CodeSet.ofRows ["41-5A 61", "C0"]).contains 'Z' = true ∧
    (CodeSet.ofRows ["41-5A 61", "C0"]).contains 'b' = false ∧
    (CodeMap.ofRows ["41-5A=61 100-12E/2=101"]).image? 'C' = some ['c'] ∧
    (CodeMap.ofRows ["41-5A=61 100-12E/2=101"]).image? 'ā' = none ∧
    (CodeMap.ofRows ["AA=61,20.308"]).image? '«' = some [' ', '\u0308'] ∧
    (CodeMap.ofRows ["E0=61.300,61.301"]).source? ['a', '\u0301'] = some 'á' := by
  decide +kernel

end LiveLog
