namespace LiveLog

/-!
# Blank characters

The characters with the Unicode property `White_Space`, and the trimming of a
text at its ends. The table is the whole property, so that text in any script
is trimmed alike.
-/

namespace Text

/-- The ranges of the characters that count as blank. -/
def blankRanges : List (Nat × Nat) :=
  [(0x09, 0x0D), (0x20, 0x20), (0x85, 0x85), (0xA0, 0xA0), (0x1680, 0x1680), (0x2000, 0x200A),
    (0x2028, 0x2029), (0x202F, 0x202F), (0x205F, 0x205F), (0x3000, 0x3000)]

/-- Whether a character is blank. -/
def isBlank (c : Char) : Bool := blankRanges.any fun r => r.1 ≤ c.toNat && c.toNat ≤ r.2

/-- Text without the blanks before it. -/
def trimStart (cs : List Char) : List Char := cs.dropWhile isBlank

/-- Text without the blanks around it. -/
def trim (cs : List Char) : List Char := (trimStart (trimStart cs).reverse).reverse

/-- Twenty-five characters are blank. -/
example : (blankRanges.map fun r => r.2 + 1 - r.1).sum = 25 := by decide

/-- Each blank of the ASCII range is in the table. -/
theorem isBlank_of_isWhitespace {c : Char} (h : c.isWhitespace = true) : isBlank c = true := by
  simp only [Char.isWhitespace, Bool.or_eq_true, decide_eq_true_eq] at h
  rcases h with ((h | h) | h) | h <;> subst h <;> decide

theorem trimStart_of_not_blank {c : Char} (h : isBlank c = false) (cs : List Char) :
    trimStart (c :: cs) = c :: cs := by simp [trimStart, h]

end Text

end LiveLog
