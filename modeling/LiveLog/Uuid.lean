namespace LiveLog

/-!
# Identifiers

A `Uuid` is thirty-two hexadecimal digits. It is written in lower case, in
groups of eight, four, four, four and twelve. It is read in that form, without
the hyphens, in braces, or after `urn:uuid:`, and in either case.
-/

/-- Thirty-two hexadecimal digits. -/
structure Uuid where
  digits : List (Fin 16)
  length_digits : digits.length = 32
deriving DecidableEq

namespace Uuid

/-- A digit in lower case. -/
def digitChar (d : Fin 16) : Char := Nat.digitChar d.val

/-- The digit that a character of either case stands for. -/
def digit? (c : Char) : Option (Fin 16) :=
  if '0' ≤ c ∧ c ≤ '9' then some (Fin.ofNat 16 (c.toNat - 48))
  else if 'a' ≤ c ∧ c ≤ 'f' then some (Fin.ofNat 16 (c.toNat - 87))
  else if 'A' ≤ c ∧ c ≤ 'F' then some (Fin.ofNat 16 (c.toNat - 55))
  else none

theorem digit?_digitChar (d : Fin 16) : digit? (digitChar d) = some d := by
  revert d; decide

/-- The identifier that thirty-two digits stand for. -/
def ofDigits? (ds : List (Fin 16)) : Option Uuid :=
  if h : ds.length = 32 then some ⟨ds, h⟩ else none

/-- The form without hyphens. -/
def ofSimple? (cs : List Char) : Option Uuid := (cs.mapM digit?).bind ofDigits?

/-- The form with hyphens after the eighth, twelfth, sixteenth and twentieth
digit. -/
def ofHyphenated? (cs : List Char) : Option Uuid :=
  if cs.length = 36 ∧ cs[8]? = some '-' ∧ cs[13]? = some '-' ∧ cs[18]? = some '-' ∧
      cs[23]? = some '-' then
    ofSimple? (cs.take 8 ++ (cs.drop 9).take 4 ++ (cs.drop 14).take 4 ++ (cs.drop 19).take 4 ++
      cs.drop 24)
  else none

/-- The identifier that characters stand for, in any of the accepted forms. -/
def ofChars? (cs : List Char) : Option Uuid :=
  match cs.length with
  | 32 => ofSimple? cs
  | 36 => ofHyphenated? cs
  | 38 => if cs.head? = some '{' ∧ cs.getLast? = some '}' then
      ofHyphenated? (cs.drop 1).dropLast else none
  | 45 => if cs.take 9 = ['u', 'r', 'n', ':', 'u', 'u', 'i', 'd', ':'] then
      ofHyphenated? (cs.drop 9) else none
  | _ => none

/-- The identifier that a string stands for. -/
def ofText? (s : String) : Option Uuid := ofChars? s.toList

/-- The characters of the hyphenated form in lower case. -/
def chars (u : Uuid) : List Char :=
  let cs := u.digits.map digitChar
  cs.take 8 ++ '-' :: (cs.drop 8).take 4 ++ '-' :: (cs.drop 12).take 4 ++
    '-' :: (cs.drop 16).take 4 ++ '-' :: cs.drop 20

/-- An identifier, written in the hyphenated form. -/
def text (u : Uuid) : String := String.ofList u.chars

instance : Inhabited Uuid := ⟨⟨List.replicate 32 0, by decide⟩⟩

/-- Every accepted form stands for the same identifier. -/
example : (ofText? "urn:uuid:6F1C1F0E-7F53-4A53-9C7B-5B0F3F9A9D11").map text =
    some "6f1c1f0e-7f53-4a53-9c7b-5b0f3f9a9d11" := by decide +kernel

end Uuid

end LiveLog
