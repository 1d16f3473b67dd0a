namespace LiveLog

/-!
# Names beyond ASCII

A label of a host's name that holds characters beyond ASCII is written with
ASCII alone: its ASCII characters, a hyphen, and digits that say which other
characters stand where. The others are added in the order of their code points.
Each addition is one number, the distance from the addition before it in the
order of all possible additions. Numbers are written with thresholds that adapt
to the numbers before. Reading a written form makes the same additions.
-/

namespace Punycode

/-- The digit of a value below thirty-six. -/
def digit (n : Nat) : Char :=
  if n < 26 then Char.ofNat (0x61 + n) else Char.ofNat (0x30 + n - 26)

/-- The threshold of the digit at a position. -/
def threshold (bias position : Nat) : Nat :=
  if position ≤ bias then 1 else if bias + 26 ≤ position then 26 else position - bias

theorem threshold_pos (bias position : Nat) : 1 ≤ threshold bias position := by
  unfold threshold; split
  · omega
  · split <;> omega

/-- The digits of a number, the first at the given position. -/
def digits (bias position n : Nat) : List Char :=
  let t := threshold bias position
  if n < t then [digit n]
  else digit (t + (n - t) % (36 - t)) :: digits bias (position + 36) ((n - t) / (36 - t))
termination_by n
decreasing_by
  have := threshold_pos bias position
  exact Nat.lt_of_le_of_lt (Nat.div_le_self _ _) (by omega)

/-- How often a number is divided by thirty-five to come down to 455, and what
is left. -/
def shrink (n : Nat) : Nat × Nat :=
  if 455 < n then
    let (times, rest) := shrink (n / 35)
    (times + 1, rest)
  else (0, n)
termination_by n
decreasing_by exact Nat.div_lt_self (by omega) (by omega)

/-- The bias after an addition, when so many characters are placed. -/
def adapt (delta placed : Nat) (first : Bool) : Nat :=
  let d := if first then delta / 700 else delta / 2
  let (times, rest) := shrink (d + d / placed)
  36 * times + 36 * rest / (rest + 38)

/-- Where the writing of a label stands. -/
structure Progress where
  /-- What has been written, backwards. -/
  written : List Char
  delta : Nat
  bias : Nat
  placed : Nat
  first : Bool

/-- Pass one character of the label while those with a code point are added. -/
def Progress.pass (point : Nat) (p : Progress) (c : Char) : Progress :=
  if c.toNat < point then { p with delta := p.delta + 1 }
  else if c.toNat = point then
    { written := (digits p.bias 36 p.delta).reverse ++ p.written
      delta := 0
      bias := adapt p.delta (p.placed + 1) p.first
      placed := p.placed + 1
      first := false }
  else p

/-- Add the characters with each of some ascending code points. -/
def addAll (label : List Char) : List Nat → (past : Nat) → Progress → Progress
  | [], _, p => p
  | point :: points, past, p =>
    let p := { p with delta := p.delta + (point - past) * (p.placed + 1) }
    let p := label.foldl (Progress.pass point) p
    addAll label points (point + 1) { p with delta := p.delta + 1 }

/-- Insert a number into an ascending list without repetition. -/
def insert (n : Nat) : List Nat → List Nat
  | [] => [n]
  | m :: ms => if n < m then n :: m :: ms else if n = m then m :: ms else m :: insert n ms

/-- Whether a character belongs to ASCII. -/
def isAscii (c : Char) : Bool := decide (c.toNat < 0x80)

/-- The characters of ASCII of a label, and then the code of the others. -/
def encode (label : List Char) : List Char :=
  let basic := label.filter isAscii
  let points := (label.filter fun c => !isAscii c).foldl (fun ps c => insert c.toNat ps) []
  let start : Progress :=
    ⟨(if basic.isEmpty then [] else basic ++ ['-']).reverse, 0, 72, basic.length, true⟩
  (addAll label points 0x80 start).written.reverse

/-- The value of a digit. -/
def value? (c : Char) : Option Nat :=
  if 'a' ≤ c ∧ c ≤ 'z' then some (c.toNat - 0x61)
  else if c.isDigit then some (c.toNat - 0x30 + 26)
  else none

theorem value?_digit (n : Fin 36) : value? (digit n.val) = some n.val := by
  revert n; decide

/-- Where the reading of a written form stands. The first fields tell what has
been added to the label, and the last three what has been read of a number. -/
structure Reading where
  label : List Char
  /-- The code point of the last addition. -/
  point : Nat
  /-- The place after the last addition. -/
  place : Nat
  bias : Nat
  first : Bool
  position : Nat
  weight : Nat
  sum : Nat

namespace Reading

/-- Nothing has been added to a label. -/
def start (label : List Char) : Reading := ⟨label, 0x80, 0, 72, true, 36, 1, 0⟩

/-- Add the character that a whole number stands for. -/
def insert? (r : Reading) (n : Nat) : Option Reading :=
  let size := r.label.length + 1
  let point := r.point + n / size
  let place := n % size + 1
  if point.isValidChar then
    some ⟨r.label.insertIdx (n % size) (Char.ofNat point), point, place,
      adapt (n - r.place) size r.first, false, 36, 1, place⟩
  else none

/-- Read one digit. Numbers are less than `2^32`. -/
def step? (r : Reading) (c : Char) : Option Reading := do
  let d ← value? c
  let t := threshold r.bias r.position
  let sum := r.sum + d * r.weight
  if Nat.pow 2 32 ≤ sum then none
  else if d < t then r.insert? sum
  else if Nat.pow 2 32 ≤ r.weight * (36 - t) then none
  else some { r with position := r.position + 36, weight := r.weight * (36 - t), sum := sum }

/-- Read digits, the last of which ends a number. -/
def run? (r : Reading) : List Char → Option (List Char)
  | [] => if r.position = 36 then some r.label else none
  | c :: cs => (r.step? c).bind fun r => r.run? cs

end Reading

/-- The label that a written form stands for. -/
def decode (cs : List Char) : Option (List Char) :=
  let digits := (cs.reverse.takeWhile (· ≠ '-')).reverse
  let basic := cs.take (cs.length - digits.length - 1)
  if cs.head? = some '-' ∧ basic.isEmpty then none
  else (Reading.start basic).run? digits

/-- The written form of two German words and a Chinese one. -/
example : encode "bücher".toList = "bcher-kva".toList ∧
    encode "münchen".toList = "mnchen-3ya".toList ∧
    encode "中文".toList = "fiq228c".toList ∧
    decode "bcher-kva".toList = some "bücher".toList ∧
    decode "fiq228c".toList = some "中文".toList ∧ decode "9".toList = none := by decide +kernel

end Punycode

end LiveLog
