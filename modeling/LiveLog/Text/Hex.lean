namespace LiveLog

/-!
# Hexadecimal digits

The value of a digit of either case, the value of several, and the digit of a
value in capitals.
-/

namespace Hex

/-- The value of a hexadecimal digit. -/
def value? (c : Char) : Option Nat :=
  if '0' ≤ c ∧ c ≤ '9' then some (c.toNat - 48)
  else if 'a' ≤ c ∧ c ≤ 'f' then some (c.toNat - 87)
  else if 'A' ≤ c ∧ c ≤ 'F' then some (c.toNat - 55)
  else none

/-- The number that a run of digits stands for. Other characters do not count. -/
def number (cs : List Char) : Nat := (cs.filterMap value?).foldl (fun n d => n * 16 + d) 0

/-- The digit of a value below sixteen, in capitals. -/
def capital (n : Nat) : Char := (Nat.digitChar (n % 16)).toUpper

theorem value?_capital (n : Fin 16) : value? (capital n.val) = some n.val := by
  revert n; decide

end Hex

end LiveLog
