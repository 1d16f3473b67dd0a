import LiveLog.Proofs.LatestRows
import Mathlib.Data.List.DropRight
import Mathlib.Data.List.Perm.Subperm

namespace LiveLog

/-!
# What a printer remembers

A printer keeps one line for each entry, and throws lines away. What it keeps is exactly
what it needs: for every identifier the line in which an entry was last printed under it
since the identifier was last absent, and nothing if none was. So a showing prints an
entry just in case it is in a settled row and is not known in this form from the
showings before, which `IsDue` reads off what was shown and printed.

Every step of the printer keeps the identifiers of its memory apart and drops those that
are not shown, so that the memory is never larger than what was shown last.
-/

namespace Printer

/-- The entries that some calls have printed under an identifier, in order. -/
def emissions (id : String) (calls : List (Showing × List (Row MergedEntry))) : List MergedEntry :=
  calls.flatMap fun call => (Rows.flatten call.2).filter fun e => e.id = id

/-- The calls since an identifier was last absent. -/
def sinceAbsent (id : String) (calls : List (Showing × List (Row MergedEntry))) :
    List (Showing × List (Row MergedEntry)) :=
  calls.rtakeWhile fun call => decide (id ∈ call.1.ids)

/-- Whether an entry is to be printed after some calls: nothing was printed under its
identifier since this was last absent, or what was last printed has another line. -/
def IsDue (calls : List (Showing × List (Row MergedEntry))) (e : MergedEntry) : Prop :=
  emissions e.id (sinceAbsent e.id calls) = [] ∨
    ∃ d ∈ (emissions e.id calls).getLast?, d.line ≠ e.line

instance (calls : List (Showing × List (Row MergedEntry))) (e : MergedEntry) :
    Decidable (IsDue calls e) :=
  inferInstanceAs (Decidable (_ ∨ _))

/-- The memory of a printer is what some calls have printed of every entry since it was
last absent. -/
def Recollects (p : Printer) (calls : List (Showing × List (Row MergedEntry))) : Prop :=
  ∀ id, p.shown.lookup id =
    (emissions id (sinceAbsent id calls)).getLast?.map MergedEntry.line

section Calls

variable {calls : List (Showing × List (Row MergedEntry))} {s : Showing}
  {rows : List (Row MergedEntry)} {id : String}

theorem emissions_append (id : String) (first second : List (Showing × List (Row MergedEntry))) :
    emissions id (first ++ second) = emissions id first ++ emissions id second :=
  List.flatMap_append

theorem emissions_singleton (id : String) (s : Showing) (rows : List (Row MergedEntry)) :
    emissions id [(s, rows)] = (Rows.flatten rows).filter fun e => e.id = id :=
  List.flatMap_singleton ..

theorem sinceAbsent_of_absent (absent : id ∉ s.ids) :
    sinceAbsent id (calls ++ [(s, rows)]) = [] :=
  List.rtakeWhile_concat_neg _ _ _ (by simpa using absent)

theorem sinceAbsent_of_present (present : id ∈ s.ids) :
    sinceAbsent id (calls ++ [(s, rows)]) = sinceAbsent id calls ++ [(s, rows)] :=
  List.rtakeWhile_concat_pos _ _ _ (by simpa using present)

/-- What was printed last is what was printed last since the identifier was absent, if
anything was. -/
theorem getLast?_emissions {d : MergedEntry}
    (last : (emissions id (sinceAbsent id calls)).getLast? = some d) :
    (emissions id calls).getLast? = some d := by
  have suffix : sinceAbsent id calls <:+ calls := List.rtakeWhile_suffix _ calls
  rcases suffix with ⟨earlier, split⟩
  rw [← split, emissions_append, List.getLast?_append, last, Option.some_or]

end Calls

namespace Recollects

variable {p : Printer} {calls : List (Showing × List (Row MergedEntry))}

theorem fresh (json : Bool) : (Printer.fresh json).Recollects [] := fun _id => rfl

theorem next (recollects : p.Recollects calls) {s : Showing} (distinct : s.ids.Nodup) :
    (p.next s).Recollects (calls ++ [(s, p.printed s)]) := by
  intro id
  by_cases present : id ∈ s.ids
  · rw [sinceAbsent_of_present present, emissions_append, emissions_singleton]
    by_cases printed : id ∈ (Rows.flatten (p.printed s)).map MergedEntry.id
    · rcases List.mem_map.mp printed with ⟨e, listed, rfl⟩
      have settled := ((mem_flatten_printed distinct).mp listed).1
      rw [MergedEntry.filter_id_of_mem (p.nodup_printed distinct) listed, List.getLast?_concat,
        lookup_next_of_settled distinct settled]
      rfl
    · have nothing : ((Rows.flatten (p.printed s)).filter fun e => e.id = id) = [] := by
        rw [List.filter_eq_nil_iff]
        intro e listed same
        exact printed (List.mem_map.mpr ⟨e, listed, of_decide_eq_true same⟩)
      rw [nothing, List.append_nil, lookup_next_of_not_printed distinct present printed]
      exact recollects id
  · rw [sinceAbsent_of_absent present, lookup_next_of_absent present]
    rfl

theorem after (recollects : p.Recollects calls) (showings : List Showing)
    (distinct : ∀ s ∈ showings, s.ids.Nodup) :
    (p.after showings).Recollects (calls ++ p.calls showings) := by
  induction showings generalizing p calls with
  | nil =>
      change p.Recollects (calls ++ [])
      rw [List.append_nil]
      exact recollects
  | cons s rest inductionHypothesis =>
      have first := recollects.next (distinct s List.mem_cons_self)
      have all := inductionHypothesis first fun t listed =>
        distinct t (List.mem_cons_of_mem s listed)
      rw [List.append_assoc] at all
      exact all

/-- What is due is what is not remembered in its present form. -/
theorem isDue_iff (recollects : p.Recollects calls) (e : MergedEntry) :
    IsDue calls e ↔ isKnown p.shown e = false := by
  unfold IsDue isKnown
  rw [decide_eq_false_iff_not, recollects e.id]
  cases last : (emissions e.id (sinceAbsent e.id calls)).getLast? with
  | none =>
      refine iff_of_true (Or.inl (List.getLast?_eq_none_iff.mp last)) ?_
      intro equal
      cases equal
  | some d =>
      rw [getLast?_emissions last, Option.map_some]
      constructor
      · rintro (nothing | ⟨x, same, other⟩)
        · rw [nothing] at last
          cases last
        · cases same
          exact fun equal => other (Option.some.inj equal)
      · intro other
        exact Or.inr ⟨d, rfl, fun equal => other (congrArg some equal)⟩

end Recollects

/-! ## The size of the memory -/

section Size

variable {shown : List (String × String)}

theorem nodup_keys_changed (distinct : (Assoc.keys shown).Nodup) (es : List MergedEntry) :
    (Assoc.keys (changed shown es).2).Nodup := by
  induction es generalizing shown with
  | nil => exact distinct
  | cons e rest inductionHypothesis =>
      cases known : isKnown shown e with
      | true =>
          rw [changed_cons_of_known known]
          exact inductionHypothesis distinct
      | false =>
          rw [changed_cons_of_new known]
          exact inductionHypothesis (Assoc.nodup_keys_set distinct)

theorem nodup_keys_next {p : Printer} (distinct : (Assoc.keys p.shown).Nodup) (s : Showing) :
    (Assoc.keys (p.next s).shown).Nodup := by
  have memory : (p.next s).shown = (changed (retained s.rows p.shown) s.settled).2 :=
    (flatten_news (retained s.rows p.shown) _).2
  rw [memory]
  exact nodup_keys_changed (distinct.sublist (List.filter_sublist.map Prod.fst)) s.settled

theorem nodup_keys_after {p : Printer} (distinct : (Assoc.keys p.shown).Nodup)
    (showings : List Showing) : (Assoc.keys (p.after showings).shown).Nodup := by
  induction showings generalizing p with
  | nil => exact distinct
  | cons s rest inductionHypothesis => exact inductionHypothesis (nodup_keys_next distinct s)

/-- Only what is shown is remembered. -/
theorem keys_next_subset (p : Printer) (s : Showing) : Assoc.keys (p.next s).shown ⊆ s.ids := by
  intro id remembered
  by_contra absent
  have forgotten := lookup_next_of_absent (p := p) absent
  rw [List.lookup_eq_none_iff] at forgotten
  rcases List.mem_map.mp remembered with ⟨entry, listed, rfl⟩
  exact absurd rfl (bne_iff_ne.mp (forgotten entry listed))

theorem length_next_le {p : Printer} (distinct : (Assoc.keys p.shown).Nodup) (s : Showing) :
    (p.next s).shown.length ≤ s.entries.length := by
  have fewer := (List.subperm_of_subset (nodup_keys_next distinct s) (p.keys_next_subset s)).length_le
  unfold Assoc.keys Showing.ids at fewer
  rw [List.length_map, List.length_map] at fewer
  exact fewer

end Size

/-- What is shown again is not printed again. -/
theorem printed_next_self (p : Printer) {s : Showing} (distinct : s.ids.Nodup) :
    (p.next s).printed s = [] := by
  have known : ∀ e ∈ s.settled, isKnown (retained s.rows (p.next s).shown) e = true := by
    intro e settled
    have present : e.id ∈ (Rows.flatten s.rows).map MergedEntry.id :=
      Showing.mem_ids (s.settled_prefix.subset settled)
    unfold isKnown
    rw [lookup_retained, if_pos present, lookup_next_of_settled distinct settled]
    exact decide_eq_true rfl
  exact congrArg Prod.fst (news_of_known known)

/-- After any showings, in each of which no identifier is shown twice, the next showing
prints, in order, the entries of the settled rows that are due, each in one line. Shown
again it prints nothing, and the printer remembers no more than it was shown. -/
theorem emitted_iff_due (json : Bool) (before : List Showing) (s : Showing)
    (distinct : ∀ t ∈ before ++ [s], t.ids.Nodup) :
    let p := (fresh json).after before
    let calls := (fresh json).calls before
    let next := (p.settle s.rows s.done).1
    (p.settle s.rows s.done).2 = (p.printed s).map (render json) ∧
      (Rows.flatten (p.printed s) = s.settled.filter fun e => IsDue calls e) ∧
      (∀ e ∈ Rows.flatten (p.printed s), ∃ row,
        (p.printed s).filter (Row.mentions e.id) = [row] ∧ row.entriesOf e.id = [e]) ∧
      (next.settle s.rows s.done).2 = [] ∧ next.shown.length ≤ s.entries.length := by
  intro p calls next
  have now : s.ids.Nodup := distinct s (List.mem_append_right before List.mem_cons_self)
  have recollects : p.Recollects calls :=
    (Recollects.fresh json).after before fun t listed =>
      distinct t (List.mem_append_left [s] listed)
  have apart : (Assoc.keys p.shown).Nodup :=
    nodup_keys_after (p := fresh json) List.nodup_nil before
  have mode : p.json = json := json_after (fresh json) before
  refine ⟨?_, ?_, fun e listed => Rows.exists_row_of_mem (p.nodup_printed now) listed, ?_,
    length_next_le apart s⟩
  · rw [← mode]
    rfl
  · rw [flatten_printed p now]
    apply List.filter_congr
    intro e _settled
    rw [Bool.eq_iff_iff, Bool.not_eq_true', decide_eq_true_eq, recollects.isDue_iff]
  · change ((p.next s).printed s).map (render (p.next s).json) = []
    rw [printed_next_self p now]
    rfl

/-- A file read was printed and left the view. It is back in a group with another one,
and both are printed. The reply stayed in view and is not. -/
theorem read_printed_after_absence :
    let first := MergedEntry.ofAgent 0 (.toolUse "Read" (.fileRead "a.rs") .created) "a"
    let second := MergedEntry.ofAgent 1 (.toolUse "Read" (.fileRead "b.rs") .created) "b"
    let reply := MergedEntry.ofAgent 2 .assistantMessage "Done."
    let before : List Showing :=
      [⟨[.entry first, .entry reply], false⟩, ⟨[.entry reply], true⟩]
    let s : Showing :=
      ⟨[.group ⟨.fileRead, [first, second], "agg-" ++ first.id, some default⟩, .entry reply], true⟩
    (∀ t ∈ before ++ [s], t.ids.Nodup) ∧
      (fresh false).printedAll before = [[.entry first], [.entry reply]] ∧
      Rows.flatten (((fresh false).after before).printed s) = [first, second] ∧
      (fresh false).settleAll before =
        [["00:00:01.000 [Coding Agent] normalized: read a.rs"],
          ["00:00:01.002 [Coding Agent] normalized: Done."]] ∧
      (((fresh false).after before).settle s.rows s.done).2 =
        ["00:00:01.000 [Coding Agent] 2 file reads: read a.rs, read b.rs"] ∧
      ((((fresh false).after before).settle s.rows s.done).1.settle s.rows s.done).2 = [] ∧
      (((fresh false).after before).settle s.rows s.done).1.shown.length ≤ s.entries.length := by
  intro first second reply before s
  have distinct : ∀ t ∈ before ++ [s], t.ids.Nodup := by decide +kernel
  have exactly := emitted_iff_due false before s distinct
  have due : (s.settled.filter fun e => IsDue ((fresh false).calls before) e) = [first, second] := by
    decide +kernel
  exact ⟨distinct, by decide +kernel, exactly.2.1.trans due, by decide +kernel, by decide +kernel,
    exactly.2.2.2⟩

end Printer

end LiveLog
