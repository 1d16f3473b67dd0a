namespace LiveLog

/-!
# Reading UTF-8

Bytes are read as characters up to the first byte that cannot be. What stands
there is either the beginning of a character that the end cut off, or bytes
that no character begins with; of the latter, the ones that belong together are
counted. Overlong forms, surrogates and values above the last character are
not read.
-/

namespace Utf8

/-- What follows the characters that could be read. -/
inductive Rest
  | nothing
  /-- The bytes end within a character. -/
  | incomplete
  /-- So many bytes begin no character. -/
  | invalid (length : Nat)
deriving DecidableEq, Repr

/-- A character of which some bytes have been read. -/
structure Begun where
  /-- How many bytes are missing. -/
  owed : Nat
  /-- The value of the bytes so far. -/
  value : Nat
  /-- The least and the greatest next byte. -/
  low : Nat
  high : Nat
  /-- How many bytes have been read. -/
  seen : Nat
deriving DecidableEq, Repr

/-- What the first byte of a longer character begins. -/
def begun? (b : Nat) : Option Begun :=
  if 0xC2 ≤ b ∧ b ≤ 0xDF then some ⟨1, b - 0xC0, 0x80, 0xBF, 1⟩
  else if b = 0xE0 then some ⟨2, 0, 0xA0, 0xBF, 1⟩
  else if b = 0xED then some ⟨2, 0xD, 0x80, 0x9F, 1⟩
  else if 0xE1 ≤ b ∧ b ≤ 0xEF then some ⟨2, b - 0xE0, 0x80, 0xBF, 1⟩
  else if b = 0xF0 then some ⟨3, 0, 0x90, 0xBF, 1⟩
  else if 0xF1 ≤ b ∧ b ≤ 0xF3 then some ⟨3, b - 0xF0, 0x80, 0xBF, 1⟩
  else if b = 0xF4 then some ⟨3, 4, 0x80, 0x8F, 1⟩
  else none

/-- Put a character before what was read. -/
def cons (c : Char) (p : List Char × Rest) : List Char × Rest := (c :: p.1, p.2)

/-- Read on, perhaps within a character. -/
def decodeFrom : Option Begun → List UInt8 → List Char × Rest
  | none, [] => ([], .nothing)
  | some _, [] => ([], .incomplete)
  | none, b :: bs =>
    if b.toNat < 0x80 then cons (Char.ofNat b.toNat) (decodeFrom none bs)
    else match begun? b.toNat with
      | some p => decodeFrom (some p) bs
      | none => ([], .invalid 1)
  | some p, b :: bs =>
    if p.low ≤ b.toNat ∧ b.toNat ≤ p.high then
      let value := p.value * 64 + (b.toNat - 0x80)
      if p.owed = 1 then cons (Char.ofNat value) (decodeFrom none bs)
      else decodeFrom (some ⟨p.owed - 1, value, 0x80, 0xBF, p.seen + 1⟩) bs
    else ([], .invalid p.seen)

/-- The characters of some bytes, up to the first byte that cannot be read. -/
def decode (bytes : List UInt8) : List Char × Rest := decodeFrom none bytes

/-- The bytes of some characters. -/
def encode (cs : List Char) : List UInt8 := cs.flatMap String.utf8EncodeChar

/-- The wording of what cannot be read, if there is any. -/
def Rest.message? : Rest → Option String
  | nothing => none
  | incomplete => some "incomplete utf-8 byte sequence from index 0"
  | invalid n => some ("invalid utf-8 sequence of " ++ String.ofList (Nat.toDigits 10 n) ++
      " bytes from index 0")

/-- The bytes of ASCII are its characters. -/
theorem decode_ascii (b : UInt8) (bs : List UInt8) (h : b.toNat < 0x80) :
    decode (b :: bs) = cons (Char.ofNat b.toNat) (decode bs) := by
  simp [decode, decodeFrom, h]

/-- An overlong form, a surrogate, a cut character and a whole one. -/
example : decode [0x61, 0xC0, 0x80] = (['a'], .invalid 1) ∧
    decode [0xED, 0xA0, 0x80] = ([], .invalid 1) ∧ decode [0xE2, 0x82] = ([], .incomplete) ∧
    decode [0xF0, 0x9F, 0x98, 0x41] = ([], .invalid 3) ∧
    decode (encode ['é', '😀']) = (['é', '😀'], .nothing) := by decide +kernel

end Utf8

end LiveLog
