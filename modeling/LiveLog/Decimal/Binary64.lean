namespace LiveLog

/-!
# Finite binary64 numbers

The numbers that a JSON document may hold beside the integers. A number is
its sign together with its *rank*, its place among the finite non-negative
binary64 numbers in increasing order. The rank is the number's 63-bit pattern,
so equality of numbers is equality of plain data and every operation is exact
arithmetic on natural numbers: magnitudes are counted in *units* of `2^-1074`,
the least positive number, and a result is the rank nearest to an exact ratio.

Infinities and not-a-number are not represented. An operation whose result
would be infinite gives none.
-/

/-- The nearest natural number to `num / den`; a half goes to the even side. -/
def roundHalfEven (num den : Nat) : Nat :=
  let q := num / den
  let r := num % den
  if 2 * r < den then q
  else if den < 2 * r then q + 1
  else if q % 2 = 0 then q else q + 1

/-- A half above an even number is dropped. -/
example : roundHalfEven 5 2 = 2 ∧ roundHalfEven 7 2 = 4 ∧ roundHalfEven 8 3 = 3 := by decide

theorem le_roundHalfEven (num den : Nat) : num / den ≤ roundHalfEven num den := by
  unfold roundHalfEven
  dsimp only
  split
  · omega
  · split
    · omega
    · split <;> omega

theorem roundHalfEven_le (num den : Nat) : roundHalfEven num den ≤ num / den + 1 := by
  unfold roundHalfEven
  dsimp only
  split
  · omega
  · split
    · omega
    · split <;> omega

namespace Rank

/-- The ranks from here on stand for no finite number. -/
def limit : Nat := 2047 * Nat.pow 2 52

/-- The power of two, in units, of a rank's last place. -/
def scale (r : Nat) : Nat := r / Nat.pow 2 52 - 1

/-- The integer significand of a rank. -/
def significand (r : Nat) : Nat := r - scale r * Nat.pow 2 52

/-- The magnitude of a rank, in units. -/
def units (r : Nat) : Nat := significand r * Nat.pow 2 (scale r)

/-- The rank nearest to `num / den` units. It may reach `limit`. -/
def ofRatio (num den : Nat) : Nat :=
  let places := (num / den).log2 + 1 - 53
  places * Nat.pow 2 52 + roundHalfEven num (den * Nat.pow 2 places)

/-- The rank nearest to a natural number. -/
def ofNat (n : Nat) : Nat := ofRatio (n * Nat.pow 2 1074) 1

/-- The rank nearest to a product of two magnitudes. -/
def mul (a b : Nat) : Nat := ofRatio (units a * units b) (Nat.pow 2 1074)

/-- The rank nearest to a quotient of two magnitudes. -/
def div (a b : Nat) : Nat := ofRatio (units a * Nat.pow 2 1074) (units b)

/-- The rank nearest to a power of ten. -/
def tenPow (k : Nat) : Nat := ofNat (Nat.pow 10 k)

@[simp] theorem scale_of_lt {r : Nat} (h : r < Nat.pow 2 52) : scale r = 0 := by
  unfold scale
  rw [Nat.div_eq_of_lt h]

@[simp] theorem units_zero : units 0 = 0 := by simp [units, significand]

/-- Every place of a rank is counted: the rank splits into places and significand. -/
theorem scale_mul_add_significand (r : Nat) : scale r * Nat.pow 2 52 + significand r = r := by
  unfold significand scale
  have := Nat.div_mul_le_self r (Nat.pow 2 52)
  have : (r / Nat.pow 2 52 - 1) * Nat.pow 2 52 ≤ r / Nat.pow 2 52 * Nat.pow 2 52 :=
    Nat.mul_le_mul_right _ (Nat.sub_le _ _)
  omega

/-- The rank of one half, and of one. -/
example : ofRatio (Nat.pow 2 1073) 1 = 1022 * Nat.pow 2 52 ∧ ofNat 1 = 1023 * Nat.pow 2 52 := by
  decide +kernel

end Rank

/-- A finite binary64 number. Both zeros are present. -/
structure Binary64 where
  negative : Bool
  rank : Nat
  rank_lt : rank < Rank.limit
deriving DecidableEq

namespace Binary64

/-- The number of a rank, if it is finite. -/
def ofRank? (negative : Bool) (rank : Nat) : Option Binary64 :=
  if h : rank < Rank.limit then some ⟨negative, rank, h⟩ else none

/-- Numerical equality: the two zeros are equal. -/
def same (x y : Binary64) : Bool :=
  x.rank == y.rank && (x.negative == y.negative || x.rank == 0)

/-- The magnitude of `significand / 10^k`. It is reached by rounded division
by powers of ten of at most `10^308`, and stops early at zero. -/
def shrink (rank k : Nat) : Nat :=
  if k ≤ 308 then Rank.div rank (Rank.tenPow k)
  else if rank = 0 then 0
  else shrink (Rank.div rank (Rank.tenPow 308)) (k - 308)
termination_by k

/-- The magnitude of `significand * 10^k`, by one rounded multiplication. A
power beyond `10^308` leaves only zero in range. -/
def grow (rank k : Nat) : Nat :=
  if rank = 0 then 0
  else if k ≤ 308 then Rank.mul rank (Rank.tenPow k)
  else Rank.limit

/-- The number that a written `significand · 10^exponent` stands for, if it is
in range. The significand is rounded first and scaled afterwards. -/
def ofDecimal? (negative : Bool) (significand : Nat) (exponent : Int) : Option Binary64 :=
  let start := Rank.ofNat significand
  ofRank? negative <|
    if 0 ≤ exponent then grow start exponent.toNat else shrink start (-exponent).toNat

theorem same_self (x : Binary64) : x.same x = true := by simp [same]

theorem same_comm (x y : Binary64) : x.same y = y.same x := by
  unfold same
  rw [Bool.eq_iff_iff]
  simp only [Bool.and_eq_true, Bool.or_eq_true, beq_iff_eq]
  constructor
  · rintro ⟨h, h' | h'⟩
    · exact ⟨h.symm, .inl h'.symm⟩
    · exact ⟨h.symm, .inr (by omega)⟩
  · rintro ⟨h, h' | h'⟩
    · exact ⟨h.symm, .inl h'.symm⟩
    · exact ⟨h.symm, .inr (by omega)⟩

/-- Three tenths come out as the nearest number; `1e400` is out of range. -/
example : (ofDecimal? false 3 (-1)).map (·.rank) = some 4599075939470750515 ∧
    ofDecimal? false 1 400 = none := by decide +kernel

end Binary64

end LiveLog
