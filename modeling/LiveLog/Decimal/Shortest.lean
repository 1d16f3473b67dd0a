import LiveLog.Decimal.Binary64

namespace LiveLog

/-!
# The fewest digits that read back

A binary64 number is written with the fewest decimal digits that still single
it out. The numbers that round to a given one form an interval whose ends are
the midpoints to its neighbours; the ends belong to it when the significand is
even. For each count of digits, only the two decimals next to the number have
to be tried, in exact arithmetic; the first count with a hit wins, and of two
hits the nearer one.

Where positional notation ends is a decision of the format and is kept in one
record, `FloatStyle`.
-/

/-- A positive decimal `digits · 10^exponent`. -/
structure Decimal where
  digits : Nat
  exponent : Int
deriving DecidableEq, Repr

/-- How many decimal digits a natural number has; none for zero. -/
def digitCount (n : Nat) : Nat := if n = 0 then 0 else (Nat.toDigits 10 n).length

namespace Decimal

/-- Whether `d · 10^e` lies below `a` in units of `2^-1074 / b`, or meets it:
the comparison of `d · 10^e · 2^1074 · b` with `a`. -/
def compareUnits (d : Nat) (e : Int) (b a : Nat) : Ordering :=
  if 0 ≤ e then compare (d * Nat.pow 10 e.toNat * Nat.pow 2 1074 * b) a
  else compare (d * Nat.pow 2 1074 * b) (a * Nat.pow 10 (-e).toNat)

/-- Whether a decimal rounds to the number of a rank. -/
def roundsTo (rank : Nat) (d : Nat) (e : Int) : Bool :=
  let low := Rank.units rank + Rank.units (rank - 1)
  let high := Rank.units rank + Rank.units (rank + 1)
  let least := compareUnits d e 2 low
  let most := compareUnits d e 2 high
  if rank % 2 = 0 then least.isGE && most.isLE else least.isGT && most.isLT

/-- The power of ten of the leading digit of a positive number of units. -/
def leadingPower (units : Nat) : Int :=
  let whole := units / Nat.pow 2 1074
  if 0 < whole then (digitCount whole : Int) - 1
  else -(digitCount ((Nat.pow 2 1074 + units - 1) / units - 1) : Int)

/-- The decimals of one grid `10^e` next to a number of units: the one not
above it and the one not below it. -/
def neighbours (units : Nat) (e : Int) : Nat × Nat :=
  let (num, den) :=
    if 0 ≤ e then (units, Nat.pow 10 e.toNat * Nat.pow 2 1074)
    else (units * Nat.pow 10 (-e).toNat, Nat.pow 2 1074)
  (num / den, (num + den - 1) / den)

/-- The decimal of one grid that rounds to the number, the nearer of two. -/
def onGrid? (rank : Nat) (e : Int) : Option Nat :=
  let units := Rank.units rank
  let (below, above) := neighbours units e
  match roundsTo rank below e, roundsTo rank above e with
  | false, false => none
  | true, false => some below
  | false, true => some above
  | true, true =>
    match compareUnits (below + above) e 1 (2 * units) with
    | .lt => some above
    | .gt => some below
    | .eq => some (if below % 2 = 0 then below else above)

/-- The first grid that has a decimal for the number, from the coarsest one on. -/
def search (rank : Nat) (e : Int) : Nat → Decimal
  | 0 => ⟨0, 0⟩
  | places + 1 =>
    match onGrid? rank e with
    | some d => ⟨d, e⟩
    | none => search rank (e - 1) places

/-- The same decimal without zeros at the end of its digits. -/
def trim (d : Nat) (e : Int) : Nat → Decimal
  | 0 => ⟨d, e⟩
  | places + 1 => if d % 10 = 0 ∧ d ≠ 0 then trim (d / 10) (e + 1) places else ⟨d, e⟩

/-- The shortest decimal of a positive rank. Seventeen digits always suffice. -/
def shortest (rank : Nat) : Decimal :=
  let found := search rank (leadingPower (Rank.units rank)) 18
  trim found.digits found.exponent 18

/-- A third, and the least positive number. -/
example : shortest (Rank.ofRatio (Nat.pow 2 1074) 3) = ⟨3333333333333333, -16⟩ ∧
    shortest 1 = ⟨5, -324⟩ := by decide +kernel

end Decimal

/-- Where a float's text changes from positional notation to an exponent, and
how the exponent is marked. -/
structure FloatStyle where
  /-- Positional when the leading digit's power of ten is at least this. -/
  leastPower : Int
  /-- Positional when the leading digit's power of ten is at most this. -/
  mostPower : Int
  /-- What stands before an exponent that is not negative. -/
  exponentMark : String
  /-- What stands before a negative exponent's digits. -/
  negativeMark : String

namespace FloatStyle

/-- The text of a positive decimal. Positional text always shows a point. -/
def decimalText (style : FloatStyle) (d : Decimal) : String :=
  let digits := Nat.toDigits 10 d.digits
  let power := d.exponent + digits.length - 1
  if style.leastPower ≤ power ∧ power ≤ style.mostPower then
    if 0 ≤ d.exponent then
      String.ofList (digits ++ List.replicate d.exponent.toNat '0') ++ ".0"
    else if 0 ≤ power then
      let whole := (power + 1).toNat
      String.ofList (digits.take whole) ++ "." ++ String.ofList (digits.drop whole)
    else
      "0." ++ String.ofList (List.replicate (-power - 1).toNat '0' ++ digits)
  else
    let tail := digits.drop 1
    let body := String.ofList (digits.take 1) ++
      (if tail.isEmpty then "" else "." ++ String.ofList tail)
    if 0 ≤ power then body ++ style.exponentMark ++ toString power.toNat
    else body ++ style.negativeMark ++ toString (-power).toNat

/-- The text of a finite number, zero included. -/
def text (style : FloatStyle) (x : Binary64) : String :=
  (if x.negative then "-" else "") ++
    (if x.rank = 0 then "0.0" else style.decimalText (Decimal.shortest x.rank))

end FloatStyle

end LiveLog
