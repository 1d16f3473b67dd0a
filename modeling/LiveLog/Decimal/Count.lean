namespace LiveLog

/-!
# Counts written in decimal

Sizes and positions are counts below `2^64`. A count is written without
leading zeros. Two grammars read one: the general grammar allows leading zeros
and one plus sign, the grammar of positions in an array allows neither.
-/

namespace Count

/-- Counts stay below this bound. -/
def limit : Nat := Nat.pow 2 64

/-- The value of a decimal digit. -/
def digitValue (c : Char) : Nat := c.toNat - '0'.toNat

/-- The value of a run of digits, which may be longer than that of a count. -/
def value (digits : List Char) : Nat := digits.foldl (fun acc c => acc * 10 + digitValue c) 0

/-- A count of one digit or more. -/
def ofDigits? (cs : List Char) : Option Nat :=
  if ¬ cs.isEmpty ∧ cs.all Char.isDigit ∧ value cs < limit then some (value cs) else none

/-- The count that characters of the general grammar stand for. -/
def ofChars? : List Char → Option Nat
  | '+' :: cs => ofDigits? cs
  | cs => ofDigits? cs

/-- The count that a string of the general grammar stands for. -/
def ofText? (s : String) : Option Nat := ofChars? s.toList

/-- A position in an array. -/
def position? (s : String) : Option Nat :=
  match s.toList with
  | '0' :: _ :: _ => none
  | cs => ofDigits? cs

/-- The written form of a count. -/
def text (n : Nat) : String := String.ofList (Nat.toDigits 10 n)

/-- The two grammars, and the bound. -/
example : ofText? "+007" = some 7 ∧ position? "07" = none ∧ position? "+7" = none ∧
    position? "0" = some 0 ∧ ofText? "18446744073709551616" = none ∧ ofText? "" = none := by
  decide +kernel

end Count

end LiveLog
