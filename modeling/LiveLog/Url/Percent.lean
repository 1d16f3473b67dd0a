import LiveLog.Text.Hex

namespace LiveLog

/-!
# Percent-encoding

A character that may not stand in some part of an address is written as the
bytes of its UTF-8 form, each as a percent sign and two digits. The parts of an
address differ in the printable ASCII characters that they allow; control
characters and everything beyond ASCII are always encoded. A percent sign
itself stands as it is, so nothing is encoded twice.
-/

namespace Percent

/-- The printable characters that a fragment may not hold. -/
def fragment : List Char := [' ', '"', '<', '>', '\x60']

/-- The printable characters that a path may not hold. -/
def path : List Char := fragment ++ ['#', '?', '\x7b', '\x7d']

/-- The printable characters that a user's name or password may not hold. -/
def userInfo : List Char := path ++ ['/', ':', ';', '=', '@', '[', '\\', ']', '^', '|']

/-- The printable characters that a query may not hold. -/
def query : List Char := [' ', '"', '#', '<', '>']

/-- The printable characters that a query may not hold under the schemes that
the web treats specially. -/
def specialQuery : List Char := query ++ ['\'']

/-- Whether a character is written as it is. -/
def isPlain (set : List Char) (c : Char) : Bool :=
  decide (0x20 ≤ c.toNat ∧ c.toNat ≤ 0x7E) && !set.contains c

/-- A byte as a percent sign and two digits. -/
def byte (b : UInt8) : List Char := ['%', Hex.capital (b.toNat / 16), Hex.capital b.toNat]

/-- One character. -/
def encodeChar (set : List Char) (c : Char) : List Char :=
  if isPlain set c then [c] else (String.utf8EncodeChar c).flatMap byte

/-- Text without the characters that a part may not hold. -/
def encode (set : List Char) (cs : List Char) : List Char := cs.flatMap (encodeChar set)

/-- The bytes that a text stands for. A percent sign without two digits after
it stands for itself. -/
def decode : List Char → List UInt8
  | [] => []
  | [c] => String.utf8EncodeChar c
  | [c, d] => String.utf8EncodeChar c ++ String.utf8EncodeChar d
  | c :: h :: l :: rest =>
    match c == '%', Hex.value? h, Hex.value? l with
    | true, some a, some b => UInt8.ofNat (a * 16 + b) :: decode rest
    | _, _, _ => String.utf8EncodeChar c ++ decode (h :: l :: rest)

/-- Plain text is not changed. -/
theorem encode_eq_self {set cs : List Char} (h : ∀ c ∈ cs, isPlain set c = true) :
    encode set cs = cs := by
  induction cs with
  | nil => rfl
  | cons c cs ih =>
    simp only [encode, List.flatMap_cons, encodeChar, h c (by simp), if_true]
    exact congrArg (c :: ·) (ih fun x hx => h x (by simp [hx]))

/-- A space and a letter beyond ASCII are encoded, a percent sign is not. -/
example : encode path "a é%2F".toList = "a%20%C3%A9%2F".toList ∧
    decode "%41%4".toList = [0x41, 0x25, 0x34] := by decide +kernel

end Percent

end LiveLog
