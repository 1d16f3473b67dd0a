import LiveLog.Json.Basic
import LiveLog.Decimal.Shortest

namespace LiveLog

/-!
# Compact JSON text

Values are written without blanks. A string escapes the quote, the backslash
and the control characters, and leaves every other character as it is; a
control character without a short escape is written with four lower-case
hexadecimal digits. Floats follow `Json.floatStyle`.
-/

namespace Json

/-- Floats are positional from `1e-5` up to below `1e16`; a positive exponent
carries its sign. -/
def floatStyle : FloatStyle := ⟨-5, 15, "e+", "e-"⟩

/-- A lower-case hexadecimal digit. -/
def hexDigit (n : Nat) : Char := (Nat.digitChar (n % 16))

/-- How one character of a string is written. -/
def escapeChar (c : Char) : List Char :=
  if c = '"' then ['\\', '"']
  else if c = '\\' then ['\\', '\\']
  else if c = '\n' then ['\\', 'n']
  else if c = '\r' then ['\\', 'r']
  else if c = '\t' then ['\\', 't']
  else if c.toNat = 8 then ['\\', 'b']
  else if c.toNat = 12 then ['\\', 'f']
  else if c.toNat < 32 then ['\\', 'u', '0', '0', hexDigit (c.toNat / 16), hexDigit c.toNat]
  else [c]

/-- A string between quotes. -/
def quoted (s : String) : List Char := '"' :: s.toList.flatMap escapeChar ++ ['"']

/-- The digits of an integer, after its sign. -/
def integerChars (n : Int) : List Char :=
  if n < 0 then '-' :: Nat.toDigits 10 n.natAbs else Nat.toDigits 10 n.natAbs

/-- The text of a number. -/
def numberChars : Number → List Char
  | .int n => integerChars n
  | .float x => (floatStyle.text x).toList

mutual

/-- The characters of a value. -/
def chars : Json → List Char
  | .null => ['n', 'u', 'l', 'l']
  | .bool true => ['t', 'r', 'u', 'e']
  | .bool false => ['f', 'a', 'l', 's', 'e']
  | .num n => numberChars n
  | .str s => quoted s
  | .arr [] => ['[', ']']
  | .arr (x :: xs) => '[' :: chars x ++ itemChars xs
  | .obj [] => ['{', '}']
  | .obj ((k, x) :: ms) => '{' :: quoted k ++ ':' :: chars x ++ memberChars ms

/-- The rest of an array, after an item. -/
def itemChars : List Json → List Char
  | [] => [']']
  | x :: xs => ',' :: chars x ++ itemChars xs

/-- The rest of an object, after a member. -/
def memberChars : List (String × Json) → List Char
  | [] => ['}']
  | (k, x) :: ms => ',' :: quoted k ++ ':' :: chars x ++ memberChars ms

end

/-- The compact text of a value. -/
def compact (v : Json) : String := String.ofList v.chars

/-- One object with every kind of value. -/
example : (Json.obj [("a\n", .arr [.null, .bool true]), ("é", ofInt (-5))]).chars =
    ['{', '"', 'a', '\\', 'n', '"', ':', '[', 'n', 'u', 'l', 'l', ',', 't', 'r', 'u', 'e', ']',
      ',', '"', 'é', '"', ':', '-', '5', '}'] := by decide +kernel

end Json

end LiveLog
