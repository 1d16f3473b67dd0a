import LiveLog.Proofs.Printing

namespace LiveLog

/-!
# The latest row of an entry

Someone who reads what a printer prints, and keeps for each entry the latest row
that shows it, knows the printed line of every entry of the complete log. Whether
more than the line is known depends on the history. A replacement that leaves the
line alone is not printed, and the reader goes on with the entry that was replaced.

The invariant ties the printer's memory to what has been printed: the remembered
line of an identifier is the line of the one entry that bears it in the latest row
that mentions it.
-/

/-- Among entries that tell their identifiers apart, one entry bears its identifier. -/
theorem MergedEntry.filter_id_of_mem {es : List MergedEntry}
    (distinct : (es.map MergedEntry.id).Nodup) {e : MergedEntry} (listed : e ∈ es) :
    (es.filter fun f => f.id = e.id) = [e] := by
  have others : ∀ f ∈ es, decide (f.id = e.id) = (f == e) := by
    intro f shown
    by_cases same : f.id = e.id
    · rw [List.inj_on_of_nodup_map distinct shown listed same]
      simp
    · have other : f ≠ e := fun equal => same (congrArg MergedEntry.id equal)
      rw [decide_eq_false same, beq_false_of_ne other]
  rw [List.filter_congr others, List.filter_beq,
    List.count_eq_one_of_mem (List.Nodup.of_map MergedEntry.id distinct) listed]
  rfl

namespace Row

/-- The entries of a row that bear an identifier. -/
def entriesOf (row : Row MergedEntry) (id : String) : List MergedEntry :=
  row.entries.filter fun e => e.id = id

/-- Whether a row shows an entry that bears an identifier. -/
def mentions (id : String) (row : Row MergedEntry) : Bool := !(row.entriesOf id).isEmpty

theorem mentions_eq_true_iff {id : String} {row : Row MergedEntry} :
    row.mentions id = true ↔ ∃ e ∈ row.entries, e.id = id := by
  unfold mentions entriesOf
  rw [Bool.not_eq_true', List.isEmpty_eq_false_iff_exists_mem]
  simp only [List.mem_filter, decide_eq_true_eq]

end Row

namespace Rows

/-- The last of some rows that shows an entry with an identifier. -/
def latest? (history : List (Row MergedEntry)) (id : String) : Option (Row MergedEntry) :=
  (history.filter (Row.mentions id)).getLast?

variable {history rows : List (Row MergedEntry)} {id : String}

theorem filter_mentions_eq_nil (absent : id ∉ (flatten rows).map MergedEntry.id) :
    rows.filter (Row.mentions id) = [] := by
  rw [List.filter_eq_nil_iff]
  intro row listed mentioned
  rcases Row.mentions_eq_true_iff.mp mentioned with ⟨e, shown, rfl⟩
  exact absent (List.mem_map_of_mem (mem_flatten.mpr ⟨row, listed, shown⟩))

/-- Rows that do not show an identifier leave its latest row as it is. -/
theorem latest?_append_of_absent (history : List (Row MergedEntry))
    (absent : id ∉ (flatten rows).map MergedEntry.id) :
    latest? (history ++ rows) id = latest? history id := by
  unfold latest?
  rw [List.filter_append, filter_mentions_eq_nil absent, List.append_nil]

/-- Rows that show no identifier twice show an entry in one row only. -/
theorem exists_row_of_mem (distinct : ((flatten rows).map MergedEntry.id).Nodup) {e : MergedEntry}
    (listed : e ∈ flatten rows) :
    ∃ row, rows.filter (Row.mentions e.id) = [row] ∧ row.entriesOf e.id = [e] := by
  induction rows with
  | nil => cases listed
  | cons row rows inductionHypothesis =>
      rw [flatten_cons, List.map_append, List.nodup_append] at distinct
      rcases distinct with ⟨inRow, inRest, apart⟩
      rw [flatten_cons, List.mem_append] at listed
      rcases listed with here | later
      · have alone : row.entriesOf e.id = [e] := MergedEntry.filter_id_of_mem inRow here
        have elsewhere : e.id ∉ (flatten rows).map MergedEntry.id := by
          intro twice
          exact apart _ (List.mem_map_of_mem here) _ twice rfl
        have mentioned := Row.mentions_eq_true_iff.mpr ⟨e, here, rfl⟩
        refine ⟨row, ?_, alone⟩
        rw [List.filter_cons_of_pos mentioned, filter_mentions_eq_nil elsewhere]
      · have silent : ¬ row.mentions e.id = true := by
          intro mentioned
          rcases Row.mentions_eq_true_iff.mp mentioned with ⟨f, shown, same⟩
          exact apart _ (List.mem_map_of_mem shown) _ (List.mem_map_of_mem later) same
        rw [List.filter_cons_of_neg silent]
        exact inductionHypothesis inRest later

theorem latest?_append_of_mem (history : List (Row MergedEntry))
    (distinct : ((flatten rows).map MergedEntry.id).Nodup) {e : MergedEntry}
    (listed : e ∈ flatten rows) :
    ∃ row, latest? (history ++ rows) e.id = some row ∧ row.entriesOf e.id = [e] := by
  rcases exists_row_of_mem distinct listed with ⟨row, only, shown⟩
  refine ⟨row, ?_, shown⟩
  unfold latest?
  rw [List.filter_append, only, List.getLast?_concat]

end Rows

namespace Printer

/-- What is remembered is the line of the latest row. -/
structure Recalls (p : Printer) (history : List (Row MergedEntry)) : Prop where
  latest : ∀ id line, p.shown.lookup id = some line →
    ∃ row x, Rows.latest? history id = some row ∧ row.entriesOf id = [x] ∧ x.line = line

namespace Recalls

variable {p : Printer} {history : List (Row MergedEntry)}

theorem fresh (json : Bool) : (Printer.fresh json).Recalls [] where
  latest := by
    intro id line remembered
    cases remembered

theorem next (recalls : p.Recalls history) {s : Showing} (distinct : s.ids.Nodup) :
    (p.next s).Recalls (history ++ p.printed s) where
  latest := by
    intro id line remembered
    by_cases printed : id ∈ (Rows.flatten (p.printed s)).map MergedEntry.id
    · rcases List.mem_map.mp printed with ⟨e, listed, rfl⟩
      rcases Rows.latest?_append_of_mem history (p.nodup_printed distinct) listed with
        ⟨row, last, only⟩
      have settled := ((mem_flatten_printed distinct).mp listed).1
      rw [lookup_next_of_settled distinct settled] at remembered
      exact ⟨row, e, last, only, Option.some.inj remembered⟩
    · have present : id ∈ s.ids := by
        by_contra absent
        rw [lookup_next_of_absent absent] at remembered
        cases remembered
      rw [lookup_next_of_not_printed distinct present printed] at remembered
      rw [Rows.latest?_append_of_absent history printed]
      exact recalls.latest id line remembered

theorem after (recalls : p.Recalls history) (showings : List Showing)
    (distinct : ∀ s ∈ showings, s.ids.Nodup) :
    (p.after showings).Recalls (history ++ (p.printedAll showings).flatten) := by
  induction showings generalizing p history with
  | nil =>
      change p.Recalls (history ++ [])
      rw [List.append_nil]
      exact recalls
  | cons s rest inductionHypothesis =>
      have first := recalls.next (distinct s List.mem_cons_self)
      have all := inductionHypothesis first fun t listed =>
        distinct t (List.mem_cons_of_mem s listed)
      rw [List.append_assoc] at all
      exact all

end Recalls

/-- The latest JSON row of every entry of a complete log has one entry with its
identifier, and this entry has the same line. It is the same entry where the line
tells apart what was shown under the identifier. -/
theorem latest_row_line (earlier : List Showing) (rows : List (Row MergedEntry))
    (distinct : ∀ s ∈ earlier ++ [⟨rows, true⟩], s.ids.Nodup) {e : MergedEntry}
    (listed : e ∈ Rows.flatten rows) :
    ((fresh true).settleAll (earlier ++ [⟨rows, true⟩])).flatten =
        ((fresh true).printedAll (earlier ++ [⟨rows, true⟩])).flatten.map
          (fun row => (row.toJson MergedEntry.members).compact) ∧
      ∃ row x,
        Rows.latest? ((fresh true).printedAll (earlier ++ [⟨rows, true⟩])).flatten e.id =
            some row ∧
          row.entriesOf e.id = [x] ∧ x.line = e.line ∧
          ((∀ s ∈ earlier, ∀ y ∈ s.entries, y.id = e.id → y.line = e.line → y = e) → x = e) := by
  have final : (Showing.mk rows true).ids.Nodup :=
    distinct _ (List.mem_append_right earlier List.mem_cons_self)
  have remembered : ((fresh true).after (earlier ++ [⟨rows, true⟩])).shown.lookup e.id =
      some e.line := by
    rw [after_append]
    apply lookup_next_of_settled final
    rw [Showing.settled_of_done rfl]
    exact listed
  have recalls := (Recalls.fresh true).after _ distinct
  rw [List.nil_append] at recalls
  rcases recalls.latest e.id e.line remembered with ⟨row, x, last, only, same⟩
  refine ⟨flatten_settleAll _ _, row, x, last, only, same, ?_⟩
  intro told
  have shown : x ∈ row.entries ∧ x.id = e.id := by
    have member : x ∈ row.entriesOf e.id := by
      rw [only]
      exact List.mem_cons_self
    unfold Row.entriesOf at member
    rw [List.mem_filter, decide_eq_true_eq] at member
    exact member
  have printed : row ∈ ((fresh true).printedAll (earlier ++ [⟨rows, true⟩])).flatten :=
    (List.mem_filter.mp (List.mem_of_getLast? last)).1
  rcases exists_showing_of_mem printed with ⟨q, s, member, now⟩
  have entry : x ∈ s.entries :=
    mem_entries_of_printed (distinct s member) (Rows.mem_flatten.mpr ⟨row, now, shown.1⟩)
  rcases List.mem_append.mp member with before | last
  · exact told s before x entry shown.2 same
  · rw [List.mem_singleton] at last
    subst last
    exact Showing.eq_of_id final entry listed shown.2

/-- A message that grows is printed as far as it has come. -/
theorem message_printed_again :
    let begun := MergedEntry.ofAgent 0 .assistantMessage "Do"
    let complete := MergedEntry.ofAgent 0 .assistantMessage "Done."
    let further := MergedEntry.ofAgent 1 .thinking "Hm."
    ∃ row, Rows.latest? ((fresh true).printedAll
        [⟨[.entry begun, .entry further], false⟩, ⟨[.entry complete], true⟩]).flatten
          complete.id = some row ∧ row.entriesOf complete.id = [complete] := by
  intro begun complete further
  have current := latest_row_line [⟨[.entry begun, .entry further], false⟩] [.entry complete]
    (by decide +kernel) List.mem_cons_self
  rcases current.2 with ⟨row, x, last, only, _same, told⟩
  have equal : x = complete := told (by decide +kernel)
  exact ⟨row, last, equal ▸ only⟩

/-- A command that has succeeded has the line of a command that was asked for. The
reader of the JSON rows never learns of the success. -/
theorem success_not_printed :
    let asked := MergedEntry.ofAgent 0 (.toolUse "Bash" (.commandRun "ls" none) .created) "ls"
    let succeeded := MergedEntry.ofAgent 0 (.toolUse "Bash" (.commandRun "ls" none) .success) "ls"
    let reply := MergedEntry.ofAgent 1 .assistantMessage "Done."
    let showings : List Showing :=
      [⟨[.entry asked, .entry reply], false⟩, ⟨[.entry succeeded, .entry reply], true⟩]
    (∀ s ∈ showings, s.ids.Nodup) ∧
      (fresh true).printedAll showings = [[.entry asked], [.entry reply]] ∧
      Rows.latest? ((fresh true).printedAll showings).flatten succeeded.id = some (.entry asked) ∧
      asked.payload ≠ succeeded.payload := by
  decide +kernel

end Printer

end LiveLog
