import LiveLog.Assoc
import LiveLog.Decimal.Binary64

namespace LiveLog

/-!
# JSON values

A JSON value is plain data. Objects keep the order of their members, because
that order is visible wherever a value is written; that no key repeats is the
predicate `Json.Distinct`, which every value that was read from text satisfies.

Two notions of equality are kept apart. Equality of data, decided by the
`DecidableEq` instance, sees the order of members. `Json.same` is equality of
what is meant: it ignores that order and identifies the two zeros, but it never
identifies an integer with a float.
-/

/-- An integer, or a float. An integer beyond 64 bits is kept as a float. -/
inductive Number
  | int (n : Int)
  | float (x : Binary64)
deriving DecidableEq

/-- A JSON value; the members of an object are in order. -/
inductive Json
  | null
  | bool (b : Bool)
  | num (n : Number)
  | str (s : String)
  | arr (items : List Json)
  | obj (members : List (String × Json))
deriving Inhabited

namespace Json

/-- A value of natural number kind. -/
def ofNat (n : Nat) : Json := .num (.int n)

/-- A value of integer kind. -/
def ofInt (n : Int) : Json := .num (.int n)

/-- An optional value is written as null when it is absent. -/
def ofOption {α : Type} (write : α → Json) : Option α → Json
  | none => .null
  | some a => write a

/-- A list is written as an array. -/
def ofList {α : Type} (write : α → Json) (xs : List α) : Json := .arr (xs.map write)

mutual

/-- Whether two values are the same data. -/
def beq : Json → Json → Bool
  | .null, .null => true
  | .bool a, .bool b => a == b
  | .num a, .num b => decide (a = b)
  | .str a, .str b => a == b
  | .arr xs, .arr ys => beqItems xs ys
  | .obj ms, .obj ns => beqMembers ms ns
  | _, _ => false

/-- Whether two lists of values are the same data. -/
def beqItems : List Json → List Json → Bool
  | [], [] => true
  | x :: xs, y :: ys => beq x y && beqItems xs ys
  | _, _ => false

/-- Whether two lists of members are the same data. -/
def beqMembers : List (String × Json) → List (String × Json) → Bool
  | [], [] => true
  | (k, x) :: ms, (j, y) :: ns => (k == j && beq x y) && beqMembers ms ns
  | _, _ => false

end

mutual

theorem beq_iff (a b : Json) : beq a b = true ↔ a = b := by
  cases a <;> cases b <;> simp [beq, beqItems_iff, beqMembers_iff]

theorem beqItems_iff (xs ys : List Json) : beqItems xs ys = true ↔ xs = ys := by
  cases xs <;> cases ys <;> simp [beqItems, beq_iff, beqItems_iff]

theorem beqMembers_iff (ms ns : List (String × Json)) : beqMembers ms ns = true ↔ ms = ns := by
  cases ms <;> cases ns <;> simp [beqMembers, beq_iff, beqMembers_iff, Prod.ext_iff]

end

instance : DecidableEq Json := fun a b => decidable_of_iff (beq a b = true) (beq_iff a b)

/-- Numerical equality within one kind of number. -/
def sameNumber : Number → Number → Bool
  | .int a, .int b => a == b
  | .float x, .float y => x.same y
  | _, _ => false

mutual

/-- Equality of what two values mean: the order of members does not count. -/
def same : Json → Json → Bool
  | .null, .null => true
  | .bool a, .bool b => a == b
  | .num a, .num b => sameNumber a b
  | .str a, .str b => a == b
  | .arr xs, .arr ys => sameItems xs ys
  | .obj ms, .obj ns => ms.length == ns.length && within ms ns
  | _, _ => false

/-- Equality of meaning, item by item. -/
def sameItems : List Json → List Json → Bool
  | [], [] => true
  | x :: xs, y :: ys => same x y && sameItems xs ys
  | _, _ => false

/-- Whether every member is found with an equal value among the others. -/
def within : List (String × Json) → List (String × Json) → Bool
  | [], _ => true
  | (k, x) :: ms, ns =>
    (match ns.lookup k with
      | some y => same x y
      | none => false) && within ms ns

end

mutual

/-- No object in the value repeats a key. -/
def Distinct : Json → Prop
  | .arr xs => DistinctItems xs
  | .obj ms => (Assoc.keys ms).Nodup ∧ DistinctMembers ms
  | _ => True

/-- No object in any of the values repeats a key. -/
def DistinctItems : List Json → Prop
  | [] => True
  | x :: xs => Distinct x ∧ DistinctItems xs

/-- No object in any of the members' values repeats a key. -/
def DistinctMembers : List (String × Json) → Prop
  | [] => True
  | (_, x) :: ms => Distinct x ∧ DistinctMembers ms

end

/-- The text of a string value. -/
def text? : Json → Option String
  | .str s => some s
  | _ => none

/-- The items of an array value. -/
def items? : Json → Option (List Json)
  | .arr xs => some xs
  | _ => none

/-- The member of an object value. -/
def member? (k : String) : Json → Option Json
  | .obj ms => ms.lookup k
  | _ => none

@[simp] theorem text?_str (s : String) : (Json.str s).text? = some s := rfl

@[simp] theorem items?_arr (xs : List Json) : (Json.arr xs).items? = some xs := rfl

@[simp] theorem member?_obj (k : String) (ms : List (String × Json)) :
    (Json.obj ms).member? k = ms.lookup k := rfl

/-- Meaning ignores the order of members and tells integers from floats. -/
example : same (.obj [("a", ofNat 1), ("b", .null)]) (.obj [("b", .null), ("a", ofNat 1)]) = true ∧
    same (ofNat 1) (.num (.float ⟨false, 1023 * Nat.pow 2 52, by decide⟩)) = false := by decide

end Json

end LiveLog
