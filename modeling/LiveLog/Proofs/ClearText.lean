import LiveLog.Json.Printer
import Mathlib.Tactic.SplitIfs

namespace LiveLog

/-!
# Text without control characters

A control character of a string is escaped, and no other part of the text of a value has
one. So the text of a value has no line end either: a line holds it whole, whatever the
value is.
-/

/-- A text without control characters. -/
def Text.IsClear (cs : List Char) : Prop := ∀ c ∈ cs, 0x20 ≤ c.toNat

namespace Text

variable {c : Char} {cs ds : List Char}

@[simp] theorem isClear_nil : IsClear [] := fun _c listed => absurd listed List.not_mem_nil

@[simp] theorem isClear_cons : IsClear (c :: cs) ↔ 0x20 ≤ c.toNat ∧ IsClear cs :=
  List.forall_mem_cons

@[simp] theorem isClear_append : IsClear (cs ++ ds) ↔ IsClear cs ∧ IsClear ds :=
  List.forall_mem_append

theorem isClear_of_isDigit (digits : ∀ c ∈ cs, c.isDigit = true) : IsClear cs := by
  intro c listed
  have range : 48 ≤ c.toNat ∧ c.toNat ≤ 57 := by
    simpa [Char.isDigit, UInt32.le_iff_toNat_le] using digits c listed
  omega

theorem IsClear.sublist (clear : IsClear ds) (part : cs.Sublist ds) : IsClear cs :=
  fun c listed => clear c (part.subset listed)

theorem IsClear.not_mem (clear : IsClear cs) (control : c.toNat < 0x20) : c ∉ cs :=
  fun listed => absurd (clear c listed) (by omega)

@[simp] theorem isClear_toDigits (n : Nat) : IsClear (Nat.toDigits 10 n) :=
  isClear_of_isDigit fun _c listed => Nat.isDigit_of_mem_toDigits (by decide) (by decide) listed

@[simp] theorem isClear_replicate_zero (n : Nat) : IsClear (List.replicate n '0') :=
  isClear_of_isDigit fun _c listed => List.eq_of_mem_replicate listed ▸ rfl

end Text

theorem FloatStyle.isClear_decimalText (d : Decimal) :
    Text.IsClear (Json.floatStyle.decimalText d).toList := by
  have digits := Text.isClear_toDigits d.digits
  have first (n : Nat) : Text.IsClear ((Nat.toDigits 10 d.digits).take n) :=
    digits.sublist (List.take_sublist _ _)
  have last (n : Nat) : Text.IsClear ((Nat.toDigits 10 d.digits).drop n) :=
    digits.sublist (List.drop_sublist _ _)
  have exponent (n : Nat) : Text.IsClear (toString n).toList := by
    change Text.IsClear (String.ofList (Nat.toDigits 10 n)).toList
    rw [String.toList_ofList]
    exact Text.isClear_toDigits n
  have significand : Text.IsClear (String.ofList ((Nat.toDigits 10 d.digits).take 1) ++
      if ((Nat.toDigits 10 d.digits).drop 1).isEmpty then ""
      else "." ++ String.ofList ((Nat.toDigits 10 d.digits).drop 1)).toList := by
    rw [String.toList_append, Text.isClear_append, String.toList_ofList]
    refine ⟨first 1, ?_⟩
    split
    · simp
    · simpa using last 1
  simp only [FloatStyle.decimalText, Json.floatStyle]
  split
  · split
    · simp [digits]
    · split
      · simp [first, last]
      · simp [digits]
  · split
    · rw [String.toList_append, String.toList_append, Text.isClear_append, Text.isClear_append]
      exact ⟨⟨significand, by simp⟩, exponent _⟩
    · rw [String.toList_append, String.toList_append, Text.isClear_append, Text.isClear_append]
      exact ⟨⟨significand, by simp⟩, exponent _⟩

theorem FloatStyle.isClear_text (x : Binary64) : Text.IsClear (Json.floatStyle.text x).toList := by
  unfold FloatStyle.text
  rw [String.toList_append, Text.isClear_append]
  constructor
  · split <;> simp
  · split
    · simp
    · exact isClear_decimalText _

namespace Json

theorem isClear_escapeChar (c : Char) : Text.IsClear (escapeChar c) := by
  have digit (n : Nat) : 0x20 ≤ (hexDigit n).toNat := by
    have all : ∀ d < 16, 0x20 ≤ (Nat.digitChar d).toNat := by decide
    exact all (n % 16) (Nat.mod_lt n (by decide))
  simp only [escapeChar]
  split_ifs <;> simp [digit]
  omega

theorem isClear_quoted (s : String) : Text.IsClear (quoted s) := by
  have inner : Text.IsClear (s.toList.flatMap escapeChar) := by
    intro c listed
    rcases List.mem_flatMap.mp listed with ⟨d, _inside, written⟩
    exact isClear_escapeChar d c written
  simp [quoted, inner]

theorem isClear_numberChars (n : Number) : Text.IsClear (numberChars n) := by
  cases n with
  | int n =>
      rw [numberChars, integerChars]
      split <;> simp
  | float x => exact FloatStyle.isClear_text x

mutual

/-- The compact text of a value has no control characters. -/
theorem isClear_chars (v : Json) : Text.IsClear v.chars := by
  cases v with
  | null => simp [chars]
  | bool b => cases b <;> simp [chars]
  | num n => exact isClear_numberChars n
  | str s => exact isClear_quoted s
  | arr xs =>
      cases xs with
      | nil => simp [chars]
      | cons x xs => simp [chars, isClear_chars x, isClear_itemChars xs]
  | obj ms =>
      cases ms with
      | nil => simp [chars]
      | cons m ms => simp [chars, isClear_quoted, isClear_chars m.2, isClear_memberChars ms]

theorem isClear_itemChars (xs : List Json) : Text.IsClear (itemChars xs) := by
  cases xs with
  | nil => simp [itemChars]
  | cons x xs => simp [itemChars, isClear_chars x, isClear_itemChars xs]

theorem isClear_memberChars (ms : List (String × Json)) : Text.IsClear (memberChars ms) := by
  cases ms with
  | nil => simp [memberChars]
  | cons m ms => simp [memberChars, isClear_quoted, isClear_chars m.2, isClear_memberChars ms]

end

end Json

end LiveLog
