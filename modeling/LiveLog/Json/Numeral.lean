import LiveLog.Decimal.Count
import LiveLog.Json.Basic

namespace LiveLog

/-!
# Literals and numerals in JSON text

A word is a run of letters, digits, points and signs. This module says which
value a word begins with, and what is wrong with a word that begins with none.
A word may go on after its value; the rest then stands where a comma or an end
was due, which is for the reader of the whole text to refuse.

Words that stop too early are told apart by whether the text ends there
(`Flaw.cutShort`) or goes on with something else (`Flaw.malformed`).
-/

/-- Why a text cannot be read on. -/
inductive Flaw
  /-- The text breaks a rule of the grammar. -/
  | malformed
  /-- The text ends too early. -/
  | cutShort
deriving DecidableEq, Repr

namespace Numeral

/-- Append digits to a number while it stays below `2^64`. The result is the
number reached and the count of digits that are left over. -/
def fit (acc : Nat) : List Char → Nat × Nat
  | [] => (acc, 0)
  | c :: cs =>
    if acc * 10 + Count.digitValue c < Nat.pow 2 64 then fit (acc * 10 + Count.digitValue c) cs
    else (acc, cs.length + 1)

/-- A numeral that is whole: its sign, its digits, and what follows them. -/
structure Parts where
  negative : Bool
  whole : List Char
  fraction : Option (List Char)
  exponent : Option Int
  rest : List Char
deriving DecidableEq

/-- What a word that stops after some of a numeral lacks. -/
def short (atEnd : Bool) : Flaw := if atEnd then .cutShort else .malformed

/-- An exponent: a sign, which may be missing, and at least one digit. -/
def exponentPart (atEnd : Bool) (cs : List Char) : Except Flaw (Int × List Char) :=
  let (negative, body) :=
    match cs with
    | '-' :: r => (true, r)
    | '+' :: r => (false, r)
    | r => (false, r)
  let digits := body.takeWhile Char.isDigit
  let rest := body.dropWhile Char.isDigit
  match body, digits with
  | [], _ => .error (short atEnd)
  | _, [] => .error .malformed
  | _, _ => .ok (if negative then -(Count.value digits : Int) else Count.value digits, rest)

/-- The parts of a numeral after its whole digits. -/
def finish (atEnd negative : Bool) (whole cs : List Char) : Except Flaw Parts := do
  let (fraction, afterFraction) ←
    match cs with
    | '.' :: r =>
      let digits := r.takeWhile Char.isDigit
      match r, digits with
      | [], _ => .error (short atEnd)
      | _, [] => .error .malformed
      | _, _ => .ok (some digits, r.dropWhile Char.isDigit)
    | _ => .ok (none, cs)
  match afterFraction with
  | c :: r =>
    if c = 'e' ∨ c = 'E' then
      let (e, rest) ← exponentPart atEnd r
      .ok ⟨negative, whole, fraction, some e, rest⟩
    else .ok ⟨negative, whole, fraction, none, afterFraction⟩
  | [] => .ok ⟨negative, whole, fraction, none, []⟩

/-- Split a word into the parts of the numeral that it begins with. A zero is
not followed by another whole digit. -/
def split (atEnd : Bool) (word : List Char) : Except Flaw Parts :=
  let (negative, body) :=
    match word with
    | '-' :: r => (true, r)
    | r => (false, r)
  match body with
  | [] => .error (short atEnd)
  | '0' :: r =>
    if (r.takeWhile Char.isDigit).isEmpty then finish atEnd negative ['0'] r
    else .error .malformed
  | c :: r =>
    if c.isDigit then
      finish atEnd negative (c :: r.takeWhile Char.isDigit) (r.dropWhile Char.isDigit)
    else .error .malformed

/-- The float of a numeral. Digits that do not fit into 64 bits only scale. -/
def Parts.float? (p : Parts) : Option Binary64 :=
  let (first, dropped) := fit 0 p.whole
  let digits := p.fraction.getD []
  let (significand, unread) := fit first digits
  let exponent : Int := (dropped : Int) - ((digits.length : Int) - unread) + p.exponent.getD 0
  Binary64.ofDecimal? p.negative significand exponent

/-- The number of a numeral, if it is in range. An integer is exact within 64
bits; a negative zero is a float. -/
def Parts.number? (p : Parts) : Option Number :=
  let n := Count.value p.whole
  if p.fraction.isNone ∧ p.exponent.isNone ∧ ¬ p.negative ∧ n < Nat.pow 2 64 then some (.int n)
  else if p.fraction.isNone ∧ p.exponent.isNone ∧ p.negative ∧ 0 < n ∧ n ≤ Nat.pow 2 63 then
    some (.int (-n))
  else p.float?.map .float

/-- What is left of a word after a literal, or what is wrong. -/
def literal (atEnd : Bool) : List Char → List Char → Except Flaw (List Char)
  | [], rest => .ok rest
  | _ :: _, [] => .error (short atEnd)
  | e :: es, c :: cs => if e = c then literal atEnd es cs else .error .malformed

end Numeral

/-- Integers stay exact up to 64 bits; the digit after a leading zero is refused. -/
example : ((Numeral.split true ['-', '1', '2']).toOption.bind (·.number?)) = some (.int (-12)) ∧
    (Numeral.split true ['0', '1']).toOption = none := by decide +kernel

end LiveLog
