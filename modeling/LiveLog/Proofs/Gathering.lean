import LiveLog.Rows
import LiveLog.Proofs.Printing
import Mathlib.Data.List.SplitBy

namespace LiveLog

/-!
# The rows of a view

Gathering cuts a list into runs and makes one row of each. That a run gives only
one row is a property of runs: the second entry of a run continues the first, so
both are of a kind that is gathered. It follows that rows lose and move nothing,
that a group has two entries at least, and that an entry of no gathered kind has a
row of its own.

When a list grows at its end, only its last run can change. So all rows but the
last stay as they are; the last one stays, grows into a larger group, or becomes
the first entry of a group.
-/

namespace Row

/-- A group has at least two entries. -/
def IsWhole {α : Type} : Row α → Prop
  | entry _ => True
  | group g => 2 ≤ g.entries.length

end Row

namespace Rows

variable {α : Type} [Showable α]

/-- A list in which each entry continues the one before it. -/
abbrev IsRun (run : List α) : Prop := run.IsChain fun a b => continues a b = true

theorem continues_eq_true_iff {a b : α} :
    continues a b = true ↔
      (kind? b).isSome = true ∧ kind? a = kind? b ∧ Showable.owner? a = Showable.owner? b := by
  unfold continues
  rw [Bool.and_eq_true, Bool.and_eq_true, decide_eq_true_eq, decide_eq_true_eq, and_assoc]

/-- Every entry of a run of two or more is of a gathered kind. -/
theorem isSome_kind?_of_run {a b : α} {rest : List α} (run : IsRun (a :: b :: rest)) {e : α}
    (listed : e ∈ a :: b :: rest) : (kind? e).isSome = true := by
  induction rest generalizing a b with
  | nil =>
      have joined := continues_eq_true_iff.mp (List.isChain_cons_cons.mp run).1
      rcases List.mem_cons.mp listed with first | later
      · rw [first, joined.2.1]
        exact joined.1
      · rw [List.mem_singleton.mp later]
        exact joined.1
  | cons c rest inductionHypothesis =>
      rcases List.isChain_cons_cons.mp run with ⟨continued, remaining⟩
      rcases List.mem_cons.mp listed with first | later
      · have joined := continues_eq_true_iff.mp continued
        rw [first, joined.2.1]
        exact joined.1
      · exact inductionHypothesis remaining later

/-- A run gives one row, which shows the run. -/
theorem ofRun_of_run {run : List α} (filled : run ≠ []) (isRun : IsRun run) :
    ∃ row, ofRun run = [row] ∧ row.entries = run ∧ row.IsWhole := by
  cases run with
  | nil => exact absurd rfl filled
  | cons a rest =>
      cases rest with
      | nil => exact ⟨.entry a, rfl, rfl, trivial⟩
      | cons b rest =>
          have gathered := isSome_kind?_of_run isRun List.mem_cons_self
          rcases Option.isSome_iff_exists.mp gathered with ⟨k, kind⟩
          refine ⟨.group ⟨k, a :: b :: rest, "agg-" ++ Showable.key a, Showable.owner? a⟩, ?_, rfl, ?_⟩
          · unfold ofRun
            simp only [kind]
          · change 2 ≤ rest.length + 1 + 1
            omega

theorem flatten_gather (xs : List α) : flatten (gather xs) = xs := by
  have runs (parts : List (List α)) : flatten (parts.flatMap ofRun) = parts.flatten := by
    induction parts with
    | nil => rfl
    | cons run parts inductionHypothesis =>
        rw [List.flatMap_cons, flatten_append, flatten_ofRun, inductionHypothesis]
        rfl
  unfold gather
  rw [runs, List.flatten_splitBy]

/-- The rows of a view show its entries in order. -/
theorem flatten_view (grouped : Bool) (xs : List α) : flatten (view grouped xs) = xs := by
  cases grouped with
  | true => exact flatten_gather xs
  | false =>
      unfold view plain flatten
      rw [if_neg Bool.false_ne_true, List.flatMap_map]
      exact List.flatMap_singleton' xs

/-- Every gathered row shows a run. -/
theorem exists_run_of_mem_gather {xs : List α} {row : Row α} (listed : row ∈ gather xs) :
    IsRun row.entries ∧ row.IsWhole ∧ ofRun row.entries = [row] := by
  rcases List.mem_flatMap.mp listed with ⟨run, part, made⟩
  have isRun := List.isChain_of_mem_splitBy part
  rcases ofRun_of_run (List.ne_nil_of_mem_splitBy part) isRun with ⟨only, rows, displayed, whole⟩
  rw [rows, List.mem_singleton] at made
  rw [made, displayed]
  exact ⟨isRun, whole, rows⟩

theorem isWhole_of_mem_view {grouped : Bool} {xs : List α} {row : Row α}
    (listed : row ∈ view grouped xs) : row.IsWhole := by
  cases grouped with
  | true => exact (exists_run_of_mem_gather listed).2.1
  | false =>
      rcases List.mem_map.mp listed with ⟨e, _member, made⟩
      rw [← made]
      trivial

/-- An entry of no gathered kind has a row of its own. -/
theorem eq_entry_of_mem_view {grouped : Bool} {xs : List α} {row : Row α} {e : α}
    (listed : row ∈ view grouped xs) (shown : e ∈ row.entries) (loose : kind? e = none) :
    row = .entry e := by
  cases grouped with
  | true =>
      rcases exists_run_of_mem_gather listed with ⟨isRun, _whole, made⟩
      cases entries : row.entries with
      | nil =>
          rw [entries] at shown
          cases shown
      | cons a rest =>
          rw [entries] at isRun shown made
          cases rest with
          | nil =>
              rw [List.mem_singleton.mp shown]
              exact (List.singleton_inj.mp made).symm
          | cons b rest =>
              have gathered := isSome_kind?_of_run isRun shown
              rw [loose] at gathered
              cases gathered
  | false =>
      rcases List.mem_map.mp listed with ⟨f, _member, made⟩
      rw [← made] at shown ⊢
      rw [List.mem_singleton.mp shown]

/-! ## Growth -/

theorem view_ne_nil (grouped : Bool) {xs : List α} (filled : xs ≠ []) : view grouped xs ≠ [] := by
  intro empty
  have nothing := flatten_view grouped xs
  rw [empty] at nothing
  exact filled nothing.symm

section Runs

variable {xs : List α} {before : List (List α)} {last : List α}

theorem ne_nil_of_splitBy (runs : xs.splitBy continues = before ++ [last]) : last ≠ [] := by
  apply List.ne_nil_of_mem_splitBy (r := continues) (l := xs)
  rw [runs]
  exact List.mem_append_right before List.mem_cons_self

/-- The runs before the last one are the runs of what they show. -/
theorem splitBy_flatten_before (runs : xs.splitBy continues = before ++ [last]) :
    before.flatten.splitBy continues = before := by
  rcases List.splitBy_eq_iff.mp runs with ⟨_whole, nonempty, chains, breaks⟩
  apply List.splitBy_flatten
  · intro empty
    exact nonempty (List.mem_append_left [last] empty)
  · intro run listed
    exact chains run (List.mem_append_left [last] listed)
  · exact (List.isChain_append.mp breaks).1

/-- The last run does not continue the runs before it. -/
theorem apart_of_splitBy (runs : xs.splitBy continues = before ++ [last]) {x y : α}
    (ending : x ∈ before.flatten.getLast?) (beginning : y ∈ last.head?) :
    continues x y = false := by
  rcases List.splitBy_eq_iff.mp runs with ⟨_whole, nonempty, _chains, breaks⟩
  rcases List.eq_nil_or_concat' before with none | ⟨front, run, ends⟩
  · rw [none] at ending
    cases ending
  have filled : run ≠ [] := by
    intro empty
    apply nonempty
    rw [ends, empty]
    simp
  have lastRun : run ∈ before.getLast? := by
    rw [ends]
    simp
  rcases (List.isChain_append.mp breaks).2.2 run lastRun last rfl with ⟨_, lastFilled, apart⟩
  have last_eq : run.getLast filled = x := by
    rw [ends, List.flatten_append, List.flatten_singleton,
      List.getLast?_append_of_ne_nil _ filled, List.getLast?_eq_some_getLast filled] at ending
    exact Option.some.inj ending
  have head_eq : last.head lastFilled = y := by
    rw [List.head?_eq_some_head lastFilled] at beginning
    exact Option.some.inj beginning
  rw [last_eq, head_eq] at apart
  exact apart

/-- The runs of a longer list: all but the last run stay, and the last one is cut
anew with what follows it. -/
theorem splitBy_append_eq (runs : xs.splitBy continues = before ++ [last]) (ys : List α) :
    (xs ++ ys).splitBy continues = before ++ (last ++ ys).splitBy continues := by
  have whole : xs = before.flatten ++ last := by
    rw [(List.splitBy_eq_iff.mp runs).1, List.flatten_append, List.flatten_singleton]
  have apart : ∀ x ∈ before.flatten.getLast?, ∀ y ∈ (last ++ ys).head?,
      continues x y = false := by
    intro x ending y beginning
    rw [List.head?_append_of_ne_nil _ (ne_nil_of_splitBy runs)] at beginning
    exact apart_of_splitBy runs ending beginning
  calc
    (xs ++ ys).splitBy continues = (before.flatten ++ (last ++ ys)).splitBy continues := by
      rw [whole, List.append_assoc]
    _ = before.flatten.splitBy continues ++ (last ++ ys).splitBy continues :=
      List.splitBy_append apart
    _ = before ++ (last ++ ys).splitBy continues := by rw [splitBy_flatten_before runs]

end Runs

theorem dropLast_gather_prefix {xs : List α} (filled : xs ≠ []) (ys : List α) :
    (gather xs).dropLast <+: (gather (xs ++ ys)).dropLast := by
  rcases List.eq_nil_or_concat' (xs.splitBy continues) with none | ⟨before, last, runs⟩
  · exact absurd none (List.splitBy_ne_nil.mpr filled)
  have lastFilled := ne_nil_of_splitBy runs
  have isRun : IsRun last := by
    apply List.isChain_of_mem_splitBy (l := xs)
    rw [runs]
    exact List.mem_append_right before List.mem_cons_self
  rcases ofRun_of_run lastFilled isRun with ⟨row, only, _shows, _whole⟩
  have present : gather xs = before.flatMap ofRun ++ [row] := by
    unfold gather
    rw [runs, List.flatMap_append, List.flatMap_singleton, only]
  have later : gather (xs ++ ys) = before.flatMap ofRun ++ gather (last ++ ys) := by
    unfold gather
    rw [splitBy_append_eq runs, List.flatMap_append]
  have remaining : gather (last ++ ys) ≠ [] := by
    apply view_ne_nil true
    intro empty
    exact lastFilled (List.append_eq_nil_iff.mp empty).1
  rw [present, later, List.dropLast_concat, List.dropLast_append_of_ne_nil remaining]
  exact List.prefix_append _ _

/-- While a list grows, all rows but the last stay. -/
theorem dropLast_view_prefix (grouped : Bool) {xs ys : List α} (grown : xs <+: ys) :
    (view grouped xs).dropLast <+: (view grouped ys).dropLast := by
  rcases grown with ⟨more, rfl⟩
  by_cases filled : xs = []
  · rw [filled]
    have nothing : (view grouped ([] : List α)).dropLast = [] := by cases grouped <;> rfl
    rw [nothing]
    exact List.nil_prefix
  · cases grouped with
    | true => exact dropLast_gather_prefix filled more
    | false =>
        change (xs.map Row.entry).dropLast <+: ((xs ++ more).map Row.entry).dropLast
        rw [← List.map_dropLast, ← List.map_dropLast]
        apply List.IsPrefix.map
        by_cases last : more = []
        · have whole : (xs ++ more).dropLast = xs.dropLast := by rw [last, List.append_nil]
          exact whole ▸ List.prefix_refl _
        · rw [List.dropLast_append_of_ne_nil last]
          exact (List.dropLast_prefix xs).trans (List.prefix_append xs _)

end Rows

end LiveLog
