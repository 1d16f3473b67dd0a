namespace LiveLog

/-!
# Ordered association lists

Keyed data whose order can be observed: the members of an object, the states
of the rows a reader has opened. Reading is `List.lookup`. Writing keeps the
place of a key that is present and puts a new key last. Two ways of removing a
key are needed: plain erasure, and the removal that moves the last member into
the gap.
-/

namespace Assoc

variable {κ : Type} {α : Type} [DecidableEq κ]

/-- Give a key a value. A present key keeps its place, a new key goes last. -/
def set (k : κ) (a : α) : List (κ × α) → List (κ × α)
  | [] => [(k, a)]
  | p :: ps => if p.1 = k then (k, a) :: ps else p :: set k a ps

/-- Remove a key and leave the order of the others. -/
def erase (k : κ) (ps : List (κ × α)) : List (κ × α) := ps.filter (fun p => decide (p.1 ≠ k))

/-- Remove a key; the last member takes its place. -/
def swapErase (k : κ) (ps : List (κ × α)) : List (κ × α) :=
  match ps.findIdx? (fun p => decide (p.1 = k)), ps.getLast? with
  | some i, some last => (ps.set i last).dropLast
  | _, _ => ps

/-- The keys in order. -/
def keys (ps : List (κ × α)) : List κ := ps.map Prod.fst

omit [DecidableEq κ] in
@[simp] theorem keys_nil : keys ([] : List (κ × α)) = [] := rfl

omit [DecidableEq κ] in
@[simp] theorem keys_cons (p : κ × α) (ps : List (κ × α)) : keys (p :: ps) = p.1 :: keys ps := rfl

theorem lookup_set_self (k : κ) (a : α) (ps : List (κ × α)) :
    (set k a ps).lookup k = some a := by
  induction ps with
  | nil => simp [set]
  | cons p ps ih =>
    obtain ⟨j, b⟩ := p
    by_cases h : j = k
    · simp [set, h]
    · have h' : (k == j) = false := by simp [Ne.symm h]
      simp only [set, h, if_false, List.lookup_cons, h', ih]

theorem lookup_set_of_ne {k j : κ} (h : j ≠ k) (a : α) (ps : List (κ × α)) :
    (set k a ps).lookup j = ps.lookup j := by
  have hj : (j == k) = false := by simp [h]
  induction ps with
  | nil => simp [set, List.lookup_cons, hj]
  | cons p ps ih =>
    obtain ⟨i, b⟩ := p
    by_cases hp : i = k
    · simp [set, hp, List.lookup_cons, hj]
    · simp only [set, hp, if_false, List.lookup_cons, ih]

/-- A present key keeps its place, and a new key goes last. -/
theorem keys_set (k : κ) (a : α) (ps : List (κ × α)) :
    keys (set k a ps) = if k ∈ keys ps then keys ps else keys ps ++ [k] := by
  induction ps with
  | nil => simp [set]
  | cons p ps ih =>
    by_cases hp : p.1 = k
    · simp [set, hp]
    · have hp' : ¬ k = p.1 := fun h => hp h.symm
      by_cases hm : k ∈ keys ps
      · simp [set, hp, ih, hm]
      · simp [set, hp, ih, hm, hp']

/-- Setting keeps the keys distinct. -/
theorem nodup_keys_set {k : κ} {a : α} {ps : List (κ × α)} (h : (keys ps).Nodup) :
    (keys (set k a ps)).Nodup := by
  rw [keys_set]
  split
  · exact h
  · rename_i hk
    rw [List.nodup_append]
    refine ⟨h, by simp, ?_⟩
    intro x hx y hy
    simp only [List.mem_singleton] at hy
    subst hy
    rintro rfl
    exact hk hx

/-- The last member fills the gap. -/
example : swapErase "a" [("a", 1), ("b", 2), ("c", 3)] = [("c", 3), ("b", 2)] ∧
    swapErase "c" [("a", 1), ("b", 2), ("c", 3)] = [("a", 1), ("b", 2)] := by decide

end Assoc

end LiveLog
