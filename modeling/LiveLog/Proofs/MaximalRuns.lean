import LiveLog.Proofs.Gathering
import Mathlib.Data.List.Chain

namespace LiveLog

/-!
# The rows of a view as maximal runs

What the rows of a view are can be said without the runs that gathering cuts. The
rows show the list. Every group is uniform: its entries are two at least, and all of
them have the kind and the process that the group names. And wherever two rows meet,
be they groups or single entries, the entries on both sides do not belong together.

The last condition is what makes these rows the only ones. It forbids to divide a
group, to leave an entry out of the group beside it, and to have two groups side by
side that should be one. With uniform groups it says that the entries of the rows are
the runs of the list, and a uniform row is determined by the entries that it shows.
-/

namespace Rows

variable {α : Type} [Showable α]

/-- Whether two entries may stand in one group. -/
def Mergeable (a b : α) : Prop :=
  ∃ kind, kind? a = some kind ∧ kind? b = some kind ∧ Showable.owner? a = Showable.owner? b

theorem mergeable_iff_continues {a b : α} : Mergeable a b ↔ continues a b = true := by
  rw [continues_eq_true_iff]
  constructor
  · rintro ⟨kind, first, second, owner⟩
    simp [first, second, owner]
  · rintro ⟨gathered, same, owner⟩
    rcases Option.isSome_iff_exists.mp gathered with ⟨kind, second⟩
    exact ⟨kind, same.trans second, second, owner⟩

/-- Two rows that meet where no group could go on. -/
def Apart (r s : Row α) : Prop :=
  ∀ a ∈ r.entries.getLast?, ∀ b ∈ s.entries.head?, ¬ Mergeable a b

end Rows

namespace Group

variable {α : Type} [Showable α]

/-- A group of two entries at least, all of its kind and of its process, with the
key of the first of them. -/
structure IsUniform (g : Group α) : Prop where
  filled : 2 ≤ g.entries.length
  kind : ∀ e ∈ g.entries, Rows.kind? e = some g.kind
  owner : ∀ e ∈ g.entries, Showable.owner? e = g.owner?
  key : ∀ e ∈ g.entries.head?, g.key = "agg-" ++ Showable.key e

namespace IsUniform

variable {g : Group α}

theorem mergeable (uniform : g.IsUniform) {a b : α} (first : a ∈ g.entries)
    (second : b ∈ g.entries) : Rows.Mergeable a b :=
  ⟨g.kind, uniform.kind a first, uniform.kind b second,
    (uniform.owner a first).trans (uniform.owner b second).symm⟩

theorem isRun (uniform : g.IsUniform) : Rows.IsRun g.entries := by
  apply List.Pairwise.isChain
  apply List.pairwise_of_forall_mem_list
  intro a first b second
  exact Rows.mergeable_iff_continues.mp (uniform.mergeable first second)

/-- A uniform group is the row that gathering makes of its entries. -/
theorem ofRun_entries (uniform : g.IsUniform) : Rows.ofRun g.entries = [.group g] := by
  rcases g with ⟨kind, entries, key, owner⟩
  match entries, uniform with
  | a :: b :: rest, uniform =>
      have first := uniform.kind a List.mem_cons_self
      have named := uniform.key a rfl
      have owned := uniform.owner a List.mem_cons_self
      dsimp only at first named owned
      simp only [Rows.ofRun, first, named, owned]

end IsUniform

end Group

namespace Rows

variable {α : Type} [Showable α]

/-- Rows that show a list as maximal runs. -/
structure Decompose (rows : List (Row α)) (xs : List α) : Prop where
  flatten : flatten rows = xs
  uniform : ∀ g, .group g ∈ rows → g.IsUniform
  maximal : rows.IsChain Apart

/-! ## Rows that decompose a list are gathered -/

namespace Decompose

variable {rows : List (Row α)} {xs : List α}

theorem ne_nil_and_isRun (decompose : Decompose rows xs) {row : Row α} (listed : row ∈ rows) :
    row.entries ≠ [] ∧ IsRun row.entries ∧ ofRun row.entries = [row] := by
  cases row with
  | entry e => exact ⟨List.cons_ne_nil e [], List.IsChain.singleton e, rfl⟩
  | group g =>
      have uniform := decompose.uniform g listed
      refine ⟨?_, uniform.isRun, uniform.ofRun_entries⟩
      intro empty
      have filled := uniform.filled
      rw [show g.entries = [] from empty] at filled
      exact absurd filled (Nat.not_succ_le_zero 1)

/-- The entries of the rows are the runs of the list. -/
theorem splitBy_eq (decompose : Decompose rows xs) :
    xs.splitBy continues = rows.map Row.entries := by
  apply List.splitBy_eq_iff.mpr
  refine ⟨?_, ?_, ?_, ?_⟩
  · rw [← decompose.flatten, Rows.flatten, List.flatMap_def]
  · intro empty
    rcases List.mem_map.mp empty with ⟨row, listed, nothing⟩
    exact (decompose.ne_nil_and_isRun listed).1 nothing
  · intro run part
    rcases List.mem_map.mp part with ⟨row, listed, rfl⟩
    exact (decompose.ne_nil_and_isRun listed).2.1
  · apply (List.isChain_map Row.entries).mpr
    apply decompose.maximal.imp_of_mem_imp
    intro r s before after apart
    have first := (decompose.ne_nil_and_isRun before).1
    have second := (decompose.ne_nil_and_isRun after).1
    refine ⟨first, second, ?_⟩
    have separate := apart _ (List.getLast?_eq_some_getLast first) _ (List.head?_eq_some_head second)
    rw [mergeable_iff_continues, Bool.not_eq_true] at separate
    exact separate

theorem eq_gather (decompose : Decompose rows xs) : rows = gather xs := by
  have single : ∀ row ∈ rows, ofRun row.entries = [row] :=
    fun row listed => (decompose.ne_nil_and_isRun listed).2.2
  calc
    rows = rows.flatMap fun row => [row] := (List.flatMap_singleton' rows).symm
    _ = rows.flatMap fun row => ofRun row.entries := by
      rw [List.flatMap_def, List.flatMap_def, List.map_congr_left single]
    _ = (rows.map Row.entries).flatMap ofRun := by rw [List.flatMap_map]
    _ = gather xs := by rw [gather, decompose.splitBy_eq]

end Decompose

/-! ## Gathered rows decompose the list -/

/-- All of a run is of the kind and of the process of its first entry. -/
theorem uniform_of_run {a : α} {rest : List α} (run : IsRun (a :: rest)) :
    ∀ e ∈ rest, kind? e = kind? a ∧ Showable.owner? e = Showable.owner? a := by
  induction rest generalizing a with
  | nil => exact nofun
  | cons b rest inductionHypothesis =>
      rcases List.isChain_cons_cons.mp run with ⟨continued, remaining⟩
      rcases continues_eq_true_iff.mp continued with ⟨_gathered, kind, owner⟩
      intro e listed
      rcases List.mem_cons.mp listed with rfl | later
      · exact ⟨kind.symm, owner.symm⟩
      · rcases inductionHypothesis remaining e later with ⟨sameKind, sameOwner⟩
        exact ⟨sameKind.trans kind.symm, sameOwner.trans owner.symm⟩

/-- A group that is made of a run is uniform. -/
theorem isUniform_of_ofRun {run : List α} (isRun : IsRun run) {g : Group α}
    (made : ofRun run = [.group g]) : g.IsUniform := by
  match run, isRun, made with
  | a :: b :: rest, isRun, made =>
      rcases Option.isSome_iff_exists.mp (isSome_kind?_of_run isRun List.mem_cons_self) with
        ⟨k, first⟩
      have same := uniform_of_run isRun
      simp only [ofRun, first] at made
      cases made
      refine ⟨by simp, ?_, ?_, ?_⟩
      · refine List.forall_mem_cons.mpr ⟨first, ?_⟩
        intro e listed
        exact (same e listed).1.trans first
      · refine List.forall_mem_cons.mpr ⟨rfl, ?_⟩
        intro e listed
        exact (same e listed).2
      · rintro e ⟨⟩
        rfl

/-- Each run of a list becomes one row. -/
theorem map_entries_gather (xs : List α) :
    (gather xs).map Row.entries = xs.splitBy continues := by
  have rows (parts : List (List α)) (runs : ∀ run ∈ parts, run ≠ [] ∧ IsRun run) :
      (parts.flatMap ofRun).map Row.entries = parts := by
    induction parts with
    | nil => rfl
    | cons run parts inductionHypothesis =>
        rcases List.forall_mem_cons.mp runs with ⟨⟨filled, isRun⟩, others⟩
        rcases ofRun_of_run filled isRun with ⟨row, made, shown, _whole⟩
        rw [List.flatMap_cons, made, List.map_append, inductionHypothesis others,
          List.map_singleton, shown]
        rfl
  apply rows
  intro run part
  exact ⟨List.ne_nil_of_mem_splitBy part, List.isChain_of_mem_splitBy part⟩

theorem decompose_gather (xs : List α) : Decompose (gather xs) xs where
  flatten := flatten_gather xs
  uniform := by
    intro g listed
    rcases exists_run_of_mem_gather listed with ⟨run, _whole, made⟩
    exact isUniform_of_ofRun run made
  maximal := by
    have breaks := List.isChain_getLast_head_splitBy continues xs
    rw [← map_entries_gather, List.isChain_map] at breaks
    apply breaks.imp
    rintro r s ⟨first, second, separate⟩ a ending b beginning
    rw [List.getLast?_eq_some_getLast first, Option.mem_some] at ending
    rw [List.head?_eq_some_head second, Option.mem_some] at beginning
    rw [← ending, ← beginning, mergeable_iff_continues, separate]
    exact Bool.false_ne_true

/-- The rows of a view with groups are the only ones that show the list, have
uniform groups, and do not meet where they could be one. -/
theorem decompose_iff_eq_gather (rows : List (Row α)) (xs : List α) :
    Decompose rows xs ↔ rows = gather xs := by
  constructor
  · exact Decompose.eq_gather
  · rintro rfl
    exact decompose_gather xs

end Rows

end LiveLog
