import LiveLog.Proofs.Gathering

namespace LiveLog

/-!
# Printing the part of a log that grows

Of a log that changes in any way some entries may form a part that only grows: in
every view this part is a beginning of what it will be in the end. New entries of
the part can appear anywhere among the others, and others can come between, move or
vanish.

The printer prints such a part once and in order. Whatever is held back, the settled
entries of the part are a beginning of it; what has been printed is the longest of
these beginnings so far, and the memory knows it and nothing beyond. A view whose
settled beginning is shorter, because an entry of the part has become the last one
again, prints nothing of the part and takes nothing from the memory.
-/

namespace Printer

/-- Some entries of a part of the log have been printed: the memory knows these, and
nothing of the other entries of the complete part. -/
structure Progress (p : Printer) (complete printed : List MergedEntry) : Prop where
  remembered : ∀ e ∈ printed, p.shown.lookup e.id = some e.line
  untouched : ∀ e ∈ complete, e ∉ printed → p.shown.lookup e.id = none

/-- A view in which a part of the log stands as far as it has grown. -/
structure ShowsPart (s : Showing) (own : MergedEntry → Bool) (complete : List MergedEntry) :
    Prop where
  distinct : s.ids.Nodup
  part : s.entries.filter own <+: complete
  told : ∀ d ∈ s.entries, ∀ e ∈ complete, d.id = e.id → own d = true

namespace ShowsPart

variable {s : Showing} {own : MergedEntry → Bool} {complete : List MergedEntry}

/-- An identifier of the part that is in view is that of the entry itself. -/
theorem mem_of_id (view : ShowsPart s own complete) (once : (complete.map MergedEntry.id).Nodup)
    {e : MergedEntry} (member : e ∈ complete) (present : e.id ∈ s.ids) : e ∈ s.entries := by
  rcases List.mem_map.mp present with ⟨d, listed, same⟩
  have owned := List.mem_filter.mpr ⟨listed, view.told d listed e member same⟩
  rw [← List.inj_on_of_nodup_map once (view.part.subset owned) member same]
  exact listed

/-- The line of an entry of the part that is held back stays remembered as it was. -/
theorem lookup_next_of_held (view : ShowsPart s own complete) (p : Printer) {e : MergedEntry}
    (listed : e ∈ s.entries) (held : e ∉ s.settled) :
    (p.next s).shown.lookup e.id = p.shown.lookup e.id := by
  apply Printer.lookup_next_of_held (Showing.mem_ids listed)
  intro settled
  rcases List.mem_map.mp settled with ⟨d, member, same⟩
  rw [Showing.eq_of_id view.distinct (s.settled_prefix.subset member) listed same] at member
  exact held member

end ShowsPart

namespace Progress

variable {p : Printer} {s : Showing} {own : MergedEntry → Bool}
  {complete printed : List MergedEntry}

theorem fresh (json : Bool) (complete : List MergedEntry) :
    (Printer.fresh json).Progress complete [] where
  remembered := by
    intro e listed
    cases listed
  untouched := by
    intro e _member _unprinted
    rfl

/-- A view prints nothing of a part whose settled entries are printed already, and
otherwise prints the rest of them. -/
theorem printed_next (progress : p.Progress complete printed) (view : ShowsPart s own complete)
    (once : (complete.map MergedEntry.id).Nodup) (begun : printed <+: s.entries.filter own) :
    (s.settled.filter own <+: printed ∧ (Rows.flatten (p.printed s)).filter own = []) ∨
      printed ++ (Rows.flatten (p.printed s)).filter own = s.settled.filter own := by
  have news : (Rows.flatten (p.printed s)).filter own =
      (s.settled.filter own).filter fun e => !isKnown p.shown e := by
    rw [flatten_printed p view.distinct, List.filter_filter, List.filter_filter]
    simp only [Bool.and_comm]
  have known {e : MergedEntry} (listed : e ∈ printed) : isKnown p.shown e = true :=
    decide_eq_true (progress.remembered e listed)
  have old {es : List MergedEntry} (listed : ∀ e ∈ es, e ∈ printed) :
      (es.filter fun e => !isKnown p.shown e) = [] := by
    rw [List.filter_eq_nil_iff]
    intro e member
    rw [known (listed e member)]
    exact Bool.false_ne_true
  rcases List.prefix_or_prefix_of_prefix (s.settled_prefix.filter own) begun with short | long
  · left
    rw [news]
    exact ⟨short, old fun e listed => short.subset listed⟩
  · right
    -- The settled entries beyond the printed ones are new, since no identifier is twice.
    rcases long with ⟨more, split⟩
    have fresh : (more.filter fun e => !isKnown p.shown e) = more := by
      rw [List.filter_eq_self]
      intro e listed
      have inPart : printed ++ more <+: complete := by
        rw [split]
        exact (s.settled_prefix.filter own).trans view.part
      have apart := once.sublist (inPart.sublist.map MergedEntry.id)
      rw [List.map_append, List.nodup_append] at apart
      have unprinted : e ∉ printed := by
        intro before
        exact apart.2.2 _ (List.mem_map_of_mem before) _ (List.mem_map_of_mem listed) rfl
      have nothing := progress.untouched e
        (inPart.subset (List.mem_append_right printed listed)) unprinted
      unfold isKnown
      rw [nothing]
      rfl
    rw [news, ← split, List.filter_append, old fun e listed => listed, fresh, List.nil_append]

theorem next (progress : p.Progress complete printed) (view : ShowsPart s own complete)
    (once : (complete.map MergedEntry.id).Nodup) (begun : printed <+: s.entries.filter own) :
    (p.next s).Progress complete (printed ++ (Rows.flatten (p.printed s)).filter own) := by
  -- Settled entries of the part count as printed now, whichever beginning is longer.
  have settled {e : MergedEntry} (listed : e ∈ s.settled.filter own) :
      e ∈ printed ++ (Rows.flatten (p.printed s)).filter own := by
    rcases progress.printed_next view once begun with ⟨short, _none⟩ | all
    · exact List.mem_append_left _ (short.subset listed)
    · rw [all]
      exact listed
  constructor
  · intro e listed
    by_cases now : e ∈ s.settled
    · exact lookup_next_of_settled view.distinct now
    · rcases List.mem_append.mp listed with before | new
      · have inView := List.mem_of_mem_filter (begun.subset before)
        rw [view.lookup_next_of_held p inView now]
        exact progress.remembered e before
      · have shown := (mem_flatten_printed view.distinct).mp (List.mem_of_mem_filter new)
        exact absurd shown.1 now
  · intro e member unprinted
    by_cases present : e.id ∈ s.ids
    · have inView := view.mem_of_id once member present
      have owned : own e = true := view.told e inView e member rfl
      have held : e ∉ s.settled := by
        intro now
        exact unprinted (settled (List.mem_filter.mpr ⟨now, owned⟩))
      rw [view.lookup_next_of_held p inView held]
      apply progress.untouched e member
      intro before
      exact unprinted (List.mem_append_left _ before)
    · exact lookup_next_of_absent present

/-- What has been printed of a part is still a beginning of it. -/
theorem begun_next (progress : p.Progress complete printed) (view : ShowsPart s own complete)
    (once : (complete.map MergedEntry.id).Nodup) (begun : printed <+: s.entries.filter own) :
    printed ++ (Rows.flatten (p.printed s)).filter own <+: s.entries.filter own := by
  rcases progress.printed_next view once begun with ⟨_short, none⟩ | all
  · rw [none, List.append_nil]
    exact begun
  · rw [all]
    exact s.settled_prefix.filter own

/-- The complete view prints what is still to be printed of the part. -/
theorem printed_complete (progress : p.Progress complete printed)
    (view : ShowsPart s own complete) (once : (complete.map MergedEntry.id).Nodup)
    (begun : printed <+: s.entries.filter own) (done : s.done = true) :
    printed ++ (Rows.flatten (p.printed s)).filter own = s.entries.filter own := by
  have all : s.settled.filter own = s.entries.filter own := by
    rw [Showing.settled_of_done done]
  rcases progress.printed_next view once begun with ⟨short, none⟩ | rest
  · rw [none, List.append_nil]
    rw [all] at short
    exact begun.eq_of_length_le short.length_le
  · rw [rest, all]

end Progress

/-- From any view on, what is still to be printed of a part is printed. -/
theorem Progress.printedAll {p : Printer} {own : MergedEntry → Bool} {final : Showing}
    (done : final.done = true) (once : ((final.entries.filter own).map MergedEntry.id).Nodup)
    {printed : List MergedEntry} (progress : p.Progress (final.entries.filter own) printed)
    (earlier : List Showing)
    (view : ∀ s ∈ earlier ++ [final], ShowsPart s own (final.entries.filter own))
    (growing : ((earlier ++ [final]).map fun s => s.entries.filter own).IsChain (· <+: ·))
    (begun : ∀ s ∈ (earlier ++ [final]).head?, printed <+: s.entries.filter own) :
    printed ++ (Rows.flatten (p.printedAll (earlier ++ [final])).flatten).filter own =
      final.entries.filter own := by
  induction earlier generalizing p printed with
  | nil =>
      have last := progress.printed_complete (view final List.mem_cons_self) once
        (begun final rfl) done
      change printed ++ (Rows.flatten (p.printed final ++ [])).filter own = _
      rw [List.append_nil]
      exact last
  | cons s earlier inductionHypothesis =>
      have here := view s List.mem_cons_self
      have before := begun s rfl
      have later := inductionHypothesis (progress.next here once before)
        (fun t listed => view t (List.mem_cons_of_mem s listed)) growing.tail (by
          intro t following
          have grown := progress.begun_next here once before
          cases earlier with
          | nil =>
              cases following
              exact grown.trans (List.isChain_cons_cons.mp growing).1
          | cons u earlier =>
              cases following
              exact grown.trans (List.isChain_cons_cons.mp growing).1)
      change printed ++ (Rows.flatten (p.printed s ++
        ((p.next s).printedAll (earlier ++ [final])).flatten)).filter own = _
      rw [Rows.flatten_append, List.filter_append, ← List.append_assoc]
      exact later

/-! ## Rows of one entry -/

/-- What is printed of a row is a selection of its entries, and a row of one entry
is printed as it is. -/
theorem exists_row_of_printed {p : Printer} {s : Showing} {row : Row MergedEntry}
    (listed : row ∈ p.printed s) :
    ∃ r ∈ s.rows, row.entries.Sublist r.entries ∧ ∀ e, r = .entry e → row = .entry e := by
  have selection (shown : List (String × String)) (rows : List (Row MergedEntry))
      (new : row ∈ (news shown rows).1) :
      ∃ r ∈ rows, ∃ es : List MergedEntry, es.Sublist r.entries ∧ narrowed r es = some row := by
    induction rows generalizing shown with
    | nil => cases new
    | cons r rows inductionHypothesis =>
        rw [news_cons] at new
        rcases List.mem_append.mp new with here | later
        · exact ⟨r, List.mem_cons_self, _, changed_sublist shown r.entries,
            Option.mem_toList.mp here⟩
        · rcases inductionHypothesis _ later with ⟨q, member, made⟩
          exact ⟨q, List.mem_cons_of_mem r member, made⟩
  rcases selection _ _ listed with ⟨r, settled, es, part, made⟩
  refine ⟨r, s.settledRows_prefix.subset settled, ?_, ?_⟩
  · have entries := flatten_narrowed part
    rw [made] at entries
    change row.entries ++ [] = es at entries
    rw [List.append_nil] at entries
    rw [entries]
    exact part
  · intro e single
    subst single
    rcases List.sublist_singleton.mp part with none | whole
    · rw [none, narrowed_nil] at made
      cases made
    · rw [whole] at made
      exact (Option.some.inj made).symm

/-- Of rows in which the entries of a part have rows of their own, those that show
entries of the part are these rows. -/
theorem filter_rows {own : MergedEntry → Bool} {rows : List (Row MergedEntry)}
    (alone : ∀ row ∈ rows, ∀ e ∈ row.entries, own e = true → row = .entry e) :
    (rows.filter fun row => row.entries.any own) =
      ((Rows.flatten rows).filter own).map Row.entry := by
  induction rows with
  | nil => rfl
  | cons row rows inductionHypothesis =>
      have rest := inductionHypothesis fun r listed => alone r (List.mem_cons_of_mem row listed)
      rw [Rows.flatten_cons, List.filter_append, List.map_append, ← rest]
      by_cases shown : row.entries.any own = true
      · rcases List.any_eq_true.mp shown with ⟨e, listed, owned⟩
        have single := alone row List.mem_cons_self e listed owned
        rw [List.filter_cons, if_pos shown, single]
        change _ = (([e].filter own).map Row.entry) ++ _
        rw [List.filter_cons_of_pos owned]
        rfl
      · rw [List.filter_cons, if_neg shown]
        have none : row.entries.filter own = [] := by
          rw [List.filter_eq_nil_iff]
          intro e listed owned
          exact shown (List.any_eq_true.mpr ⟨e, listed, owned⟩)
        rw [none]
        rfl

end Printer

end LiveLog
