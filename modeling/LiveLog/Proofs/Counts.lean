import LiveLog.Decimal.Count
import Mathlib.Data.List.Basic
import Mathlib.Data.List.Induction
import Mathlib.Data.Nat.Digits.Defs

namespace LiveLog

/-!
# Counts and their digits

A count reads back from the digits with which it is written, in either grammar, and so
its text tells it apart from the others. The same fold over digits reads the integers of
JSON and the fields of a moment, where zeros may stand in front and the digits may be more
than a count has.
-/

namespace Count

/-- No number but zero is written with a zero in front. -/
theorem head_toDigits_ne_zero {n : Nat} (positive : 0 < n) :
    (Nat.toDigits 10 n).head? ≠ some '0' := by
  induction n using Nat.base_induction 10 (by decide) with
  | single n small =>
      rw [Nat.toDigits_of_lt_base small, List.head?_cons]
      intro zero
      have digit := Nat.toNat_digitChar_sub_48_of_lt_ten small
      rw [Option.some.inj zero] at digit
      exact Nat.ne_of_gt positive digit.symm
  | digit n last single before inductionHypothesis =>
      rw [← Nat.toDigits_append_toDigits (by decide) before single,
        List.head?_append_of_ne_nil _ Nat.toDigits_ne_nil]
      exact inductionHypothesis before

theorem value_toDigits (n : Nat) : value (Nat.toDigits 10 n) = n := by
  have folded : value (Nat.toDigits 10 n) = Nat.ofDigitChars 10 (Nat.toDigits 10 n) 0 := by
    rw [Nat.ofDigitChars_eq_foldl, value]
    congr 1
    funext total c
    rw [Nat.mul_comm, digitValue]
  rw [folded, Nat.ofDigitChars_ten_toDigits]

/-- Zeros in front do not count. -/
theorem value_zeros (count : Nat) (digits : List Char) :
    value (List.replicate count '0' ++ digits) = value digits := by
  induction count with
  | zero => rfl
  | succ count inductionHypothesis => exact inductionHypothesis

theorem value_lt {ds : List Char} (digits : ∀ c ∈ ds, c.isDigit = true) :
    value ds < 10 ^ ds.length := by
  induction ds using List.reverseRecOn with
  | nil => decide
  | append_singleton ds c inductionHypothesis =>
      have before := inductionHypothesis fun d listed => digits d (List.mem_append_left [c] listed)
      have last : c.toNat ≤ 57 := by
        have digit := digits c (List.mem_append_right ds List.mem_cons_self)
        simpa [Char.isDigit, UInt32.le_iff_toNat_le] using (Bool.and_eq_true_iff.mp digit).2
      have value : value (ds ++ [c]) = value ds * 10 + (c.toNat - 48) := List.foldl_concat ..
      rw [value, List.length_append, List.length_singleton, Nat.pow_succ]
      omega

/-- A count is known from its text. -/
theorem text_inj {m n : Nat} : text m = text n ↔ m = n := by
  constructor
  · intro same
    have digits := String.ofList_injective same
    rw [← value_toDigits m, digits, value_toDigits]
  · exact congrArg text

theorem ofDigits?_toDigits {n : Nat} (small : n < limit) :
    ofDigits? (Nat.toDigits 10 n) = some n := by
  have digits : (Nat.toDigits 10 n).all Char.isDigit = true := by
    rw [List.all_eq_true]
    intro c listed
    exact Nat.isDigit_of_mem_toDigits (by decide) (by decide) listed
  have filled : ¬ (Nat.toDigits 10 n).isEmpty = true := by
    rw [List.isEmpty_iff]
    exact Nat.toDigits_ne_nil
  rw [ofDigits?, value_toDigits, if_pos ⟨filled, digits, small⟩]

/-- A position reads back from its text. -/
theorem position?_text {n : Nat} (small : n < limit) : position? (text n) = some n := by
  unfold position? text
  rw [String.toList_ofList]
  split
  · rename_i c cs digits
    have zero : n = 0 := by
      apply Nat.eq_zero_of_not_pos
      intro positive
      apply head_toDigits_ne_zero positive
      rw [digits, List.head?_cons]
    rw [zero] at digits
    cases digits
  · exact ofDigits?_toDigits small

/-- The text of a position is not the dash. -/
theorem text_ne_dash (n : Nat) : text n ≠ "-" := by
  intro dash
  have digits : Nat.toDigits 10 n = ['-'] := by
    have listed := congrArg String.toList dash
    rwa [text, String.toList_ofList] at listed
  have digit : Char.isDigit '-' = true := by
    apply Nat.isDigit_of_mem_toDigits (b := 10) (n := n) (by decide) (by decide)
    rw [digits]
    exact List.mem_singleton_self _
  cases digit

end Count

end LiveLog
