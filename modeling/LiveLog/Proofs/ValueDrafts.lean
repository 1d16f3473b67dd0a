import LiveLog.Json.Draft

namespace LiveLog

/-!
# Drafts of values

A text that is no more and no less than a value has a draft with a node for every node
of the value. A reader that goes through such a draft finds no flaw in it, and it finds
the value: an object of the value repeats no key, so nothing is overwritten, and nothing
is missing that would have to be filled in.

A value can be given back exactly if its numbers are integers of 64 bits, and only as
long as it is nested no deeper than readers allow.
-/

namespace Assoc

variable {κ : Type} {α : Type} [DecidableEq κ]

theorem set_of_not_mem {k : κ} (a : α) {ps : List (κ × α)} (new : k ∉ keys ps) :
    set k a ps = ps ++ [(k, a)] := by
  induction ps with
  | nil => rfl
  | cons p ps inductionHypothesis =>
      rw [keys_cons, List.mem_cons, not_or] at new
      rw [set, if_neg (fun same => new.1 same.symm), inductionHypothesis new.2, List.cons_append]

end Assoc

namespace Json

/-! ## The values in question -/

mutual

/-- How many containers enclose one another in a value. -/
def nesting : Json → Nat
  | .arr xs => nestingItems xs + 1
  | .obj ms => nestingMembers ms + 1
  | _ => 0

/-- The deepest nesting among some items. -/
def nestingItems : List Json → Nat
  | [] => 0
  | x :: xs => max (nesting x) (nestingItems xs)

/-- The deepest nesting among the values of some members. -/
def nestingMembers : List (String × Json) → Nat
  | [] => 0
  | (_, x) :: ms => max (nesting x) (nestingMembers ms)

end

/-- Whether a number is an integer that fits in 64 bits, with or without a sign. -/
def isWordInteger : Number → Bool
  | .int n => decide (-(9223372036854775808) ≤ n ∧ n < 18446744073709551616)
  | .float _ => false

mutual

/-- Whether all numbers in a value are integers of 64 bits. -/
def Integral : Json → Prop
  | .num n => isWordInteger n = true
  | .arr xs => IntegralItems xs
  | .obj ms => IntegralMembers ms
  | _ => True

/-- Whether all numbers in some items are integers of 64 bits. -/
def IntegralItems : List Json → Prop
  | [] => True
  | x :: xs => Integral x ∧ IntegralItems xs

/-- Whether all numbers in some members are integers of 64 bits. -/
def IntegralMembers : List (String × Json) → Prop
  | [] => True
  | (_, x) :: ms => Integral x ∧ IntegralMembers ms

end

/-! ## Drafts of values -/

mutual

/-- The draft of the text of a value. -/
def draft : Json → Draft
  | .null => .null
  | .bool b => .bool b
  | .num n => .num n
  | .str s => .str s
  | .arr xs => .arr (draftItems xs) none
  | .obj ms => .obj (draftMembers ms) none

/-- The drafts of some items. -/
def draftItems : List Json → List Draft
  | [] => []
  | x :: xs => draft x :: draftItems xs

/-- The drafts of some members. -/
def draftMembers : List (String × Json) → List (Draft.Key × Draft)
  | [] => []
  | (k, x) :: ms => (.name k, draft x) :: draftMembers ms

end

mutual

/-- A draft of a value has the value, if no object repeats a key. -/
theorem toJson_draft (v : Json) (distinct : v.Distinct) : v.draft.toJson = .ok v := by
  cases v with
  | null => rfl
  | bool b => rfl
  | num n => rfl
  | str s => rfl
  | arr xs =>
      rw [draft, Draft.toJson, toItems_draftItems xs distinct]
      rfl
  | obj ms =>
      rw [draft, Draft.toJson, toMembers_draftMembers ms [] distinct.1 distinct.2]
      rfl

theorem toItems_draftItems (xs : List Json) (distinct : DistinctItems xs) :
    Draft.toItems (draftItems xs) = .ok xs := by
  cases xs with
  | nil => rfl
  | cons x xs =>
      rw [draftItems, Draft.toItems, toJson_draft x distinct.1, toItems_draftItems xs distinct.2]
      rfl

theorem toMembers_draftMembers (ms done : List (String × Json))
    (keys : (Assoc.keys (done ++ ms)).Nodup) (distinct : DistinctMembers ms) :
    Draft.toMembers done (draftMembers ms) = .ok (done ++ ms) := by
  cases ms with
  | nil => rw [draftMembers, Draft.toMembers, List.append_nil]
  | cons m ms =>
      rcases m with ⟨k, x⟩
      have new : k ∉ Assoc.keys done := by
        intro listed
        rw [Assoc.keys, List.map_append, List.nodup_append] at keys
        exact keys.2.2 k listed k List.mem_cons_self rfl
      have moved : done ++ (k, x) :: ms = (done ++ [(k, x)]) ++ ms := by
        rw [List.append_assoc, List.singleton_append]
      rw [draftMembers, Draft.toMembers, toJson_draft x distinct.1]
      change Draft.toMembers (Assoc.set k x done) (draftMembers ms) = _
      rw [moved] at keys ⊢
      rw [Assoc.set_of_not_mem x new]
      exact toMembers_draftMembers ms _ keys distinct.2

end

end Json

namespace Draft

mutual

/-- Where a draft has a value, nothing is filled in. -/
theorem fill_of_toJson {d : Draft} {v : Json} (read : d.toJson = .ok v) : d.fill = v := by
  cases d with
  | null => cases read; rfl
  | bool b => cases read; rfl
  | num n => cases read; rfl
  | str s => cases read; rfl
  | arr items stop =>
      rw [toJson] at read
      cases values : toItems items with
      | error f => rw [values] at read; cases read
      | ok xs =>
          rw [values] at read
          cases stop with
          | some f => cases read
          | none =>
              cases read
              rw [fill, fillItems_of_toItems values]
  | obj members stop =>
      rw [toJson] at read
      cases values : toMembers [] members with
      | error f => rw [values] at read; cases read
      | ok ms =>
          rw [values] at read
          cases stop with
          | some f => cases read
          | none =>
              cases read
              rw [fill, fillMembers_of_toMembers values]
  | unfit inner => cases read
  | broken f => cases read
  | flaw f => cases read

theorem fillItems_of_toItems {items : List Draft} {xs : List Json}
    (read : toItems items = .ok xs) : fillItems items = xs := by
  cases items with
  | nil => cases read; rfl
  | cons d items =>
      rw [toItems] at read
      cases first : d.toJson with
      | error f => rw [first] at read; cases read
      | ok x =>
          rw [first] at read
          cases rest : toItems items with
          | error f => rw [rest] at read; cases read
          | ok ys =>
              rw [rest] at read
              cases read
              rw [fillItems, fill_of_toJson first, fillItems_of_toItems rest]

theorem fillMembers_of_toMembers {done ms : List (String × Json)}
    {members : List (Draft.Key × Draft)} (read : toMembers done members = .ok ms) :
    fillMembers done members = ms := by
  cases members with
  | nil => cases read; rfl
  | cons m members =>
      rcases m with ⟨key, d⟩
      cases key with
      | unfit => cases read
      | unnamed => cases read
      | missing =>
          rw [toMembers] at read
          cases value : d.toJson with
          | error f => rw [value] at read; cases read
          | ok x =>
              rw [value] at read
              change fillMembers done members = ms
              exact fillMembers_of_toMembers read
      | name k =>
          rw [toMembers] at read
          cases value : d.toJson with
          | error f => rw [value] at read; cases read
          | ok x =>
              rw [value] at read
              rw [fillMembers, fill_of_toJson value]
              exact fillMembers_of_toMembers read

end

theorem take_of_toJson {d : Draft} {v : Json} (read : d.toJson = .ok v) : d.take = none := by
  unfold take
  rw [read]

end Draft

end LiveLog
