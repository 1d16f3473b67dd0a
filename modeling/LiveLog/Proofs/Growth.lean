import LiveLog.Proofs.Gathering
import Mathlib.Data.List.Infix

namespace LiveLog

/-!
# Printing a log that only grows

A log that grows at its end is shown again and again, and once more when it is
complete. What is printed in total is what would be printed of the complete log at
once: each row of it, in order, and no row in parts.

The invariant is that some rows at the beginning of the log have been printed and
that the memory knows their entries and no others. One showing extends these rows
to all that are settled, because rows that are settled once stay: the last row, the
only one that growth changes, is held back.
-/

namespace Printer

section Rows

variable {shown : List (String × String)} {rows : List (Row MergedEntry)}

/-- A row that shows all its entries is the whole row. -/
theorem narrowed_entries {row : Row MergedEntry} (whole : row.IsWhole) :
    narrowed row row.entries = some row := by
  cases row with
  | entry e => rfl
  | group g =>
      rcases g with ⟨kind, entries, key, owner⟩
      match entries, whole with
      | e :: f :: rest, _ => rfl

/-- Rows none of whose entries are remembered are printed as they are. -/
theorem news_of_unknown (distinct : ((Rows.flatten rows).map MergedEntry.id).Nodup)
    (whole : ∀ row ∈ rows, row.IsWhole)
    (unknown : ∀ e ∈ Rows.flatten rows, shown.lookup e.id = none) :
    (news shown rows).1 = rows := by
  induction rows generalizing shown with
  | nil => rfl
  | cons row rows inductionHypothesis =>
      rw [Rows.flatten_cons, List.map_append, List.nodup_append] at distinct
      rcases distinct with ⟨inRow, inRest, apart⟩
      have all : (changed shown row.entries).1 = row.entries := by
        rw [changed_fst inRow, List.filter_eq_self]
        intro e listed
        unfold isKnown
        rw [unknown e (List.mem_append_left _ listed)]
        rfl
      have remaining : ∀ e ∈ Rows.flatten rows,
          (changed shown row.entries).2.lookup e.id = none := by
        intro e listed
        rw [lookup_changed_of_not_mem]
        · exact unknown e (List.mem_append_right _ listed)
        · intro twice
          exact apart _ twice _ (List.mem_map_of_mem listed) rfl
      have rest := inductionHypothesis inRest
        (fun r listed => whole r (List.mem_cons_of_mem row listed)) remaining
      rw [news_cons, rest, all, narrowed_entries (whole row List.mem_cons_self)]
      rfl

end Rows

/-- Some rows have been printed, and the memory knows their entries and no
others. -/
structure HasPrinted (p : Printer) (rows : List (Row MergedEntry)) : Prop where
  remembered : ∀ e ∈ Rows.flatten rows, p.shown.lookup e.id = some e.line
  nothingElse : ∀ id, id ∉ (Rows.flatten rows).map MergedEntry.id → p.shown.lookup id = none

namespace HasPrinted

variable {p : Printer} {rows : List (Row MergedEntry)} {s : Showing}

theorem fresh (json : Bool) : (Printer.fresh json).HasPrinted [] where
  remembered := by
    intro e listed
    cases listed
  nothingElse := by
    intro id _absent
    rfl

/-- Where the printed rows stand at the beginning of the settled ones, a showing
prints the other settled rows. -/
theorem printed (has : p.HasPrinted rows) (distinct : s.ids.Nodup)
    (whole : ∀ row ∈ s.rows, row.IsWhole) (grown : rows <+: settledRows s.done s.rows) :
    rows ++ p.printed s = settledRows s.done s.rows := by
  rcases grown with ⟨more, split⟩
  have present {e : MergedEntry} (listed : e ∈ Rows.flatten (rows ++ more)) : e ∈ s.entries := by
    rw [split] at listed
    exact s.settled_prefix.subset listed
  have memory {e : MergedEntry} (listed : e ∈ Rows.flatten (rows ++ more)) :
      (retained s.rows p.shown).lookup e.id = p.shown.lookup e.id := by
    rw [lookup_retained]
    exact if_pos (Showing.mem_ids (present listed))
  have settled := Showing.nodup_settled distinct
  unfold Showing.settled at settled
  rw [← split, Rows.flatten_append, List.map_append, List.nodup_append] at settled
  have old : news (retained s.rows p.shown) rows = ([], retained s.rows p.shown) := by
    apply news_of_known
    intro e listed
    apply decide_eq_true
    rw [memory (by rw [Rows.flatten_append]; exact List.mem_append_left _ listed)]
    exact has.remembered e listed
  have new : (news (retained s.rows p.shown) more).1 = more := by
    apply news_of_unknown settled.2.1
    · intro row listed
      apply whole
      apply s.settledRows_prefix.subset
      rw [← split]
      exact List.mem_append_right rows listed
    · intro e listed
      rw [memory (by rw [Rows.flatten_append]; exact List.mem_append_right _ listed)]
      apply has.nothingElse
      intro twice
      exact settled.2.2 _ twice _ (List.mem_map_of_mem listed) rfl
  change rows ++ (news (retained s.rows p.shown) (settledRows s.done s.rows)).1 = _
  rw [← split, news_append, old, List.nil_append, new]

theorem next (has : p.HasPrinted rows) (distinct : s.ids.Nodup)
    (grown : rows <+: settledRows s.done s.rows) :
    (p.next s).HasPrinted (settledRows s.done s.rows) where
  remembered := by
    intro e listed
    exact lookup_next_of_settled distinct listed
  nothingElse := by
    intro id unsettled
    by_cases present : id ∈ s.ids
    · rw [lookup_next_of_held present unsettled]
      apply has.nothingElse
      intro before
      rcases grown with ⟨more, split⟩
      apply unsettled
      rw [← split, Rows.flatten_append, List.map_append]
      exact List.mem_append_left _ before
    · exact lookup_next_of_absent present

end HasPrinted

/-! ## Growing logs -/

/-- The showings of a log that grows: its rows as it grows, and its rows when it
is complete. -/
def growth (grouped : Bool) (stages : List (List MergedEntry)) (complete : List MergedEntry) :
    List Showing :=
  stages.map (fun xs => ⟨Rows.view grouped xs, false⟩) ++ [⟨Rows.view grouped complete, true⟩]

theorem prefix_of_growing {stages : List (List MergedEntry)} {complete : List MergedEntry}
    (growing : (stages ++ [complete]).IsChain (· <+: ·)) {xs : List MergedEntry}
    (stage : xs ∈ stages) : xs <+: complete := by
  have ordered := List.isChain_iff_pairwise.mp growing
  rw [List.pairwise_append] at ordered
  exact ordered.2.2 xs stage complete List.mem_cons_self

/-- From any stage on, what is still to be printed is printed. -/
theorem HasPrinted.printedAll_growth {p : Printer} {rows : List (Row MergedEntry)}
    (has : p.HasPrinted rows) (grouped : Bool) {complete : List MergedEntry}
    (distinct : (complete.map MergedEntry.id).Nodup) (stages : List (List MergedEntry))
    (growing : (stages ++ [complete]).IsChain (· <+: ·))
    (begun : ∀ xs ∈ (stages ++ [complete]).head?, rows <+: (Rows.view grouped xs).dropLast) :
    rows ++ (p.printedAll (growth grouped stages complete)).flatten =
      Rows.view grouped complete := by
  have nodup {xs : List MergedEntry} (part : xs <+: complete) (done : Bool) :
      (Showing.mk (Rows.view grouped xs) done).ids.Nodup := by
    unfold Showing.ids Showing.entries
    rw [Rows.flatten_view]
    exact distinct.sublist (part.sublist.map MergedEntry.id)
  induction stages generalizing p rows with
  | nil =>
      have grown := (begun complete rfl).trans (List.dropLast_prefix _)
      have all := has.printed (nodup (List.prefix_refl complete) true)
        (fun _ => Rows.isWhole_of_mem_view) grown
      change rows ++ (p.printed _ ++ []) = _
      rw [List.append_nil]
      exact all
  | cons xs stages inductionHypothesis =>
      have part := prefix_of_growing growing List.mem_cons_self
      have grown := begun xs rfl
      have first := has.printed (s := ⟨Rows.view grouped xs, false⟩) (nodup part false)
        (fun _ => Rows.isWhole_of_mem_view) grown
      have later := has.next (s := ⟨Rows.view grouped xs, false⟩) (nodup part false) grown
      have rest := inductionHypothesis later growing.tail (by
        intro ys following
        cases stages with
        | nil =>
            cases following
            exact Rows.dropLast_view_prefix grouped part
        | cons zs stages =>
            cases following
            exact Rows.dropLast_view_prefix grouped (List.isChain_cons_cons.mp growing).1)
      change rows ++ (p.printed _ ++ (printedAll _ (growth grouped stages complete)).flatten) = _
      rw [← List.append_assoc, first]
      exact rest

/-- A log that grows is printed as if it were printed at once. Of the stages of a
log, each of which begins the next, with the complete log at the end, the rows that
are printed in total are the rows of the complete log, each whole and once, and
these show every entry once and in order. The last stage may be the complete log
itself. -/
theorem settleAll_growth (grouped json : Bool) (stages : List (List MergedEntry))
    (complete : List MergedEntry) (growing : (stages ++ [complete]).IsChain (· <+: ·))
    (distinct : (complete.map MergedEntry.id).Nodup) :
    ((fresh json).printedAll (growth grouped stages complete)).flatten =
        Rows.view grouped complete ∧
      ((fresh json).settleAll (growth grouped stages complete)).flatten =
        (Rows.view grouped complete).map (render json) ∧
      Rows.flatten (Rows.view grouped complete) = complete := by
  have rows := (HasPrinted.fresh json).printedAll_growth grouped distinct stages
    growing fun _ _ => List.nil_prefix
  rw [List.nil_append] at rows
  refine ⟨rows, ?_, Rows.flatten_view grouped complete⟩
  rw [flatten_settleAll, rows]
  rfl

/-- An agent reads a file, then another, and speaks. The row of the first file is
held back until it is known that the second one belongs to it. -/
theorem reads_printed_together :
    let first := MergedEntry.ofAgent 0 (.toolUse "Read" (.fileRead "a.rs") .success) "a.rs"
    let second := MergedEntry.ofAgent 1 (.toolUse "Read" (.fileRead "b.rs") .success) "b.rs"
    let reply := MergedEntry.ofAgent 2 .assistantMessage "Done."
    ((fresh false).settleAll
        (growth true [[first], [first, second]] [first, second, reply])).flatten =
      ["00:00:01.000 [Coding Agent] 2 file reads: read a.rs, read b.rs",
        "00:00:01.002 [Coding Agent] normalized: Done."] := by
  intro first second reply
  have growing : ([[first], [first, second]] ++ [[first, second, reply]]).IsChain (· <+: ·) := by
    refine List.isChain_cons_cons.mpr ⟨?_, List.isChain_cons_cons.mpr ⟨?_, .singleton _⟩⟩
    · exact ⟨[second], rfl⟩
    · exact ⟨[reply], rfl⟩
  have distinct : ([first, second, reply].map MergedEntry.id).Nodup := by decide +kernel
  have once := settleAll_growth true false _ _ growing distinct
  rw [once.2.1]
  decide +kernel

end Printer

end LiveLog
