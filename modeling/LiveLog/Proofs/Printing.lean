import LiveLog.Rows.Printer
import Mathlib.Data.List.Nodup

namespace LiveLog

/-!
# What a printer prints and what it remembers

A printer goes through the settled rows of a view row by row, and through a row
entry by entry. Where no identifier is listed twice the order does not matter to
what is new: the entries that are printed are those of the settled rows whose
remembered line is not the present one, in order, and no row loses an entry to
another.

Afterwards the memory answers for every identifier in one of three ways. An entry
of a settled row is remembered with its present line, printed now or not. An entry
of the row that is held back keeps the line it had. What is not among the rows is
forgotten.

A run of a printer is a list of showings. What it prints is kept apart for each
showing, so that statements about the history of a run can say when something was
printed.
-/

namespace Assoc

theorem lookup_filter_keys {κ α : Type} [DecidableEq κ] (keep : κ → Bool) (k : κ)
    (ps : List (κ × α)) :
    (ps.filter fun p => keep p.1).lookup k = if keep k then ps.lookup k else none := by
  induction ps with
  | nil => cases keep k <;> rfl
  | cons p ps inductionHypothesis =>
      rcases p with ⟨j, a⟩
      by_cases same : k = j
      · subst same
        cases kept : keep k with
        | true => simp only [List.filter_cons, kept, if_true, List.lookup_cons_self]
        | false =>
            simp only [List.filter_cons, kept, Bool.false_eq_true, if_false]
            rw [inductionHypothesis, kept, if_neg Bool.false_ne_true]
      · have other : (k == j) = false := beq_eq_false_iff_ne.mpr same
        rw [List.lookup_cons, other, List.filter_cons]
        cases keep j with
        | true =>
            rw [if_pos rfl, List.lookup_cons, other]
            exact inductionHypothesis
        | false => exact inductionHypothesis

end Assoc

namespace Rows

@[simp] theorem flatten_nil {α : Type} : flatten ([] : List (Row α)) = [] := rfl

@[simp] theorem flatten_cons {α : Type} (row : Row α) (rows : List (Row α)) :
    flatten (row :: rows) = row.entries ++ flatten rows := rfl

theorem flatten_append {α : Type} (first second : List (Row α)) :
    flatten (first ++ second) = flatten first ++ flatten second := List.flatMap_append

theorem mem_flatten {α : Type} {rows : List (Row α)} {e : α} :
    e ∈ flatten rows ↔ ∃ row ∈ rows, e ∈ row.entries := List.mem_flatMap

end Rows

namespace Printer

/-- Whether the remembered line of an entry is its present one. -/
def isKnown (shown : List (String × String)) (e : MergedEntry) : Bool :=
  decide (shown.lookup e.id = some e.line)

section Entries

variable {shown : List (String × String)} {e : MergedEntry} {es : List MergedEntry}

theorem changed_cons_of_known (known : isKnown shown e = true) (es : List MergedEntry) :
    changed shown (e :: es) = changed shown es := by
  rw [changed, if_pos (of_decide_eq_true known)]

theorem changed_cons_of_new (new : isKnown shown e = false) (es : List MergedEntry) :
    changed shown (e :: es) =
      (e :: (changed (Assoc.set e.id e.line shown) es).1,
        (changed (Assoc.set e.id e.line shown) es).2) := by
  rw [changed, if_neg (of_decide_eq_false new)]

theorem changed_of_known (known : ∀ e ∈ es, isKnown shown e = true) :
    changed shown es = ([], shown) := by
  induction es with
  | nil => rfl
  | cons e es inductionHypothesis =>
      rw [changed_cons_of_known (known e List.mem_cons_self)]
      exact inductionHypothesis fun f listed => known f (List.mem_cons_of_mem e listed)

theorem changed_append (shown : List (String × String)) (first second : List MergedEntry) :
    changed shown (first ++ second) =
      ((changed shown first).1 ++ (changed (changed shown first).2 second).1,
        (changed (changed shown first).2 second).2) := by
  induction first generalizing shown with
  | nil => rfl
  | cons e rest inductionHypothesis =>
      rw [List.cons_append]
      cases known : isKnown shown e with
      | true =>
          rw [changed_cons_of_known known, changed_cons_of_known known]
          exact inductionHypothesis shown
      | false =>
          rw [changed_cons_of_new known, changed_cons_of_new known, inductionHypothesis]
          rfl

/-- Going through entries leaves what is remembered of others. -/
theorem lookup_changed_of_not_mem {id : String} (absent : id ∉ es.map MergedEntry.id) :
    (changed shown es).2.lookup id = shown.lookup id := by
  induction es generalizing shown with
  | nil => rfl
  | cons e rest inductionHypothesis =>
      rw [List.map_cons, List.mem_cons, not_or] at absent
      cases known : isKnown shown e with
      | true =>
          rw [changed_cons_of_known known]
          exact inductionHypothesis absent.2
      | false =>
          rw [changed_cons_of_new known]
          rw [inductionHypothesis absent.2]
          exact Assoc.lookup_set_of_ne absent.1 e.line shown

/-- An entry is judged by the memory before the walk: no entry before it bears
its identifier. -/
theorem changed_fst (distinct : (es.map MergedEntry.id).Nodup) :
    (changed shown es).1 = es.filter fun e => !isKnown shown e := by
  induction es generalizing shown with
  | nil => rfl
  | cons e rest inductionHypothesis =>
      rw [List.map_cons, List.nodup_cons] at distinct
      cases known : isKnown shown e with
      | true =>
          rw [changed_cons_of_known known, List.filter_cons_of_neg (by simp [known])]
          exact inductionHypothesis distinct.2
      | false =>
          have others : (rest.filter fun f => !isKnown (Assoc.set e.id e.line shown) f) =
              rest.filter fun f => !isKnown shown f := by
            apply List.filter_congr
            intro f listed
            have other : f.id ≠ e.id := by
              intro same
              exact distinct.1 (same ▸ List.mem_map_of_mem listed)
            unfold isKnown
            rw [Assoc.lookup_set_of_ne other]
          rw [changed_cons_of_new known, List.filter_cons_of_pos (by simp [known])]
          rw [inductionHypothesis distinct.2, others]

/-- After the walk every entry is remembered with its present line. -/
theorem lookup_changed_of_mem (distinct : (es.map MergedEntry.id).Nodup) (listed : e ∈ es) :
    (changed shown es).2.lookup e.id = some e.line := by
  induction es generalizing shown with
  | nil => cases listed
  | cons f rest inductionHypothesis =>
      rw [List.map_cons, List.nodup_cons] at distinct
      rcases List.mem_cons.mp listed with first | later
      · subst first
        cases known : isKnown shown e with
        | true =>
            rw [changed_cons_of_known known, lookup_changed_of_not_mem distinct.1]
            exact of_decide_eq_true known
        | false =>
            rw [changed_cons_of_new known]
            rw [lookup_changed_of_not_mem distinct.1]
            exact Assoc.lookup_set_self e.id e.line shown
      · cases known : isKnown shown f with
        | true =>
            rw [changed_cons_of_known known]
            exact inductionHypothesis distinct.2 later
        | false =>
            rw [changed_cons_of_new known]
            exact inductionHypothesis distinct.2 later

end Entries

/-! ## Rows -/

/-- A row that is narrowed to some of its entries shows just these. -/
theorem flatten_narrowed {row : Row MergedEntry} {es : List MergedEntry}
    (part : es.Sublist row.entries) : Rows.flatten (narrowed row es).toList = es := by
  cases es with
  | nil =>
      rw [narrowed_nil]
      rfl
  | cons e rest =>
      cases rest with
      | nil => cases row <;> rfl
      | cons f rest =>
          cases row with
          | group g => exact List.append_nil _
          | entry x =>
              have short : (e :: f :: rest).length ≤ 1 := part.length_le
              simp only [List.length_cons] at short
              omega

section Rows

variable (shown : List (String × String))

theorem news_cons (row : Row MergedEntry) (rows : List (Row MergedEntry)) :
    news shown (row :: rows) =
      ((narrowed row (changed shown row.entries).1).toList ++
          (news (changed shown row.entries).2 rows).1,
        (news (changed shown row.entries).2 rows).2) := rfl

/-- Nothing is printed of rows that are known. -/
theorem news_of_known {shown : List (String × String)} {rows : List (Row MergedEntry)}
    (known : ∀ e ∈ Rows.flatten rows, isKnown shown e = true) :
    news shown rows = ([], shown) := by
  induction rows with
  | nil => rfl
  | cons row rows inductionHypothesis =>
      have front := changed_of_known fun e (listed : e ∈ row.entries) =>
        known e (List.mem_append_left _ listed)
      have back := inductionHypothesis fun e listed => known e (List.mem_append_right _ listed)
      rw [news_cons, front, back, narrowed_nil]
      rfl

/-- Going through rows is going through their entries. -/
theorem flatten_news (rows : List (Row MergedEntry)) :
    Rows.flatten (news shown rows).1 = (changed shown (Rows.flatten rows)).1 ∧
      (news shown rows).2 = (changed shown (Rows.flatten rows)).2 := by
  induction rows generalizing shown with
  | nil => exact ⟨rfl, rfl⟩
  | cons row rows inductionHypothesis =>
      rcases inductionHypothesis (changed shown row.entries).2 with ⟨printed, memory⟩
      rw [news_cons, Rows.flatten_cons, changed_append, Rows.flatten_append,
        flatten_narrowed (changed_sublist shown row.entries), printed]
      exact ⟨rfl, memory⟩

theorem news_append (first second : List (Row MergedEntry)) :
    news shown (first ++ second) =
      ((news shown first).1 ++ (news (news shown first).2 second).1,
        (news (news shown first).2 second).2) := by
  induction first generalizing shown with
  | nil => rfl
  | cons row rest inductionHypothesis =>
      rw [List.cons_append, news_cons, news_cons, inductionHypothesis, List.append_assoc]

theorem lookup_retained (rows : List (Row MergedEntry)) (id : String) :
    (retained rows shown).lookup id =
      if id ∈ (Rows.flatten rows).map MergedEntry.id then shown.lookup id else none := by
  have filtered := Assoc.lookup_filter_keys
    (fun k => ((Rows.flatten rows).map MergedEntry.id).contains k) id shown
  simp only [List.contains_iff_mem] at filtered
  exact filtered

end Rows

end Printer

/-! ## Showings -/

/-- What a printer is shown at once: the rows of a view, and whether the log is
complete. -/
structure Showing where
  rows : List (Row MergedEntry)
  done : Bool

namespace Showing

/-- The entries that are shown. -/
def entries (s : Showing) : List MergedEntry := Rows.flatten s.rows

/-- The identifiers that are shown. -/
def ids (s : Showing) : List String := s.entries.map MergedEntry.id

/-- The entries of the rows that are not held back. -/
def settled (s : Showing) : List MergedEntry := Rows.flatten (Printer.settledRows s.done s.rows)

theorem settledRows_prefix (s : Showing) : Printer.settledRows s.done s.rows <+: s.rows := by
  unfold Printer.settledRows
  cases s.done with
  | true => exact List.prefix_refl _
  | false => exact List.dropLast_prefix _

theorem settled_prefix (s : Showing) : s.settled <+: s.entries := by
  rcases s.settledRows_prefix with ⟨held, split⟩
  refine ⟨Rows.flatten held, ?_⟩
  unfold settled entries
  rw [← Rows.flatten_append, split]

theorem settled_of_done {s : Showing} (done : s.done = true) : s.settled = s.entries := by
  unfold settled entries Printer.settledRows
  rw [done, if_pos rfl]

theorem mem_ids {s : Showing} {e : MergedEntry} (listed : e ∈ s.entries) : e.id ∈ s.ids :=
  List.mem_map_of_mem listed

theorem nodup_settled {s : Showing} (distinct : s.ids.Nodup) :
    (s.settled.map MergedEntry.id).Nodup :=
  distinct.sublist (s.settled_prefix.sublist.map MergedEntry.id)

/-- Where no identifier is shown twice, it tells the entry. -/
theorem eq_of_id {s : Showing} (distinct : s.ids.Nodup) {d e : MergedEntry} (first : d ∈ s.entries)
    (second : e ∈ s.entries) (same : d.id = e.id) : d = e :=
  List.inj_on_of_nodup_map distinct first second same

end Showing

namespace Printer

/-- The rows that a showing prints. -/
def printed (p : Printer) (s : Showing) : List (Row MergedEntry) := (p.emit s.rows s.done).2

/-- The printer after a showing. -/
def next (p : Printer) (s : Showing) : Printer := (p.emit s.rows s.done).1

section Showing

variable {p : Printer} {s : Showing}

theorem json_next (p : Printer) (s : Showing) : (p.next s).json = p.json := rfl

/-- The printed entries are the settled ones that are not known in this form. -/
theorem flatten_printed (p : Printer) (distinct : s.ids.Nodup) :
    Rows.flatten (p.printed s) = s.settled.filter fun e => !isKnown p.shown e := by
  have walked : Rows.flatten (p.printed s) = (changed (retained s.rows p.shown) s.settled).1 :=
    (flatten_news (retained s.rows p.shown) (settledRows s.done s.rows)).1
  rw [walked, changed_fst (Showing.nodup_settled distinct)]
  apply List.filter_congr
  intro e listed
  have present : e.id ∈ (Rows.flatten s.rows).map MergedEntry.id :=
    Showing.mem_ids (s.settled_prefix.subset listed)
  unfold isKnown
  rw [lookup_retained, if_pos present]

theorem mem_flatten_printed (distinct : s.ids.Nodup) {e : MergedEntry} :
    e ∈ Rows.flatten (p.printed s) ↔ e ∈ s.settled ∧ p.shown.lookup e.id ≠ some e.line := by
  rw [flatten_printed p distinct, List.mem_filter]
  unfold isKnown
  rw [Bool.not_eq_true', decide_eq_false_iff_not]

theorem nodup_printed (p : Printer) (distinct : s.ids.Nodup) :
    ((Rows.flatten (p.printed s)).map MergedEntry.id).Nodup := by
  rw [flatten_printed p distinct]
  exact (Showing.nodup_settled distinct).sublist (List.filter_sublist.map MergedEntry.id)

theorem mem_entries_of_printed (distinct : s.ids.Nodup) {e : MergedEntry}
    (listed : e ∈ Rows.flatten (p.printed s)) : e ∈ s.entries :=
  s.settled_prefix.subset ((mem_flatten_printed distinct).mp listed).1

theorem lookup_next (p : Printer) (s : Showing) (id : String) :
    (p.next s).shown.lookup id =
      (changed (retained s.rows p.shown) s.settled).2.lookup id := by
  unfold next emit
  exact congrArg (List.lookup id) (flatten_news (retained s.rows p.shown) _).2

theorem lookup_next_of_settled (distinct : s.ids.Nodup) {e : MergedEntry}
    (settled : e ∈ s.settled) : (p.next s).shown.lookup e.id = some e.line := by
  rw [lookup_next]
  exact lookup_changed_of_mem (Showing.nodup_settled distinct) settled

theorem lookup_next_of_held {id : String} (present : id ∈ s.ids)
    (held : id ∉ s.settled.map MergedEntry.id) :
    (p.next s).shown.lookup id = p.shown.lookup id := by
  rw [lookup_next, lookup_changed_of_not_mem held, lookup_retained]
  exact if_pos present

theorem lookup_next_of_absent {id : String} (absent : id ∉ s.ids) :
    (p.next s).shown.lookup id = none := by
  have held : id ∉ s.settled.map MergedEntry.id := by
    intro settled
    exact absent ((s.settled_prefix.sublist.map MergedEntry.id).subset settled)
  rw [lookup_next, lookup_changed_of_not_mem held, lookup_retained]
  exact if_neg absent

/-- What is remembered of an entry that is present and not printed stays. -/
theorem lookup_next_of_not_printed (distinct : s.ids.Nodup) {id : String} (present : id ∈ s.ids)
    (quiet : id ∉ (Rows.flatten (p.printed s)).map MergedEntry.id) :
    (p.next s).shown.lookup id = p.shown.lookup id := by
  by_cases settled : id ∈ s.settled.map MergedEntry.id
  · rcases List.mem_map.mp settled with ⟨e, listed, rfl⟩
    rw [lookup_next_of_settled distinct listed]
    by_cases known : p.shown.lookup e.id = some e.line
    · exact known.symm
    · have news := (mem_flatten_printed distinct).mpr ⟨listed, known⟩
      exact absurd (List.mem_map_of_mem news) quiet
  · exact lookup_next_of_held present settled

end Showing

/-! ## Runs -/

/-- The rows that each of several showings prints. -/
def printedAll (p : Printer) : List Showing → List (List (Row MergedEntry))
  | [] => []
  | s :: rest => p.printed s :: (p.next s).printedAll rest

/-- The printer after several showings. -/
def after (p : Printer) (showings : List Showing) : Printer := showings.foldl next p

/-- The lines that each of several showings prints. -/
def settleAll (p : Printer) : List Showing → List (List String)
  | [] => []
  | s :: rest =>
    let (p', lines) := p.settle s.rows s.done
    lines :: p'.settleAll rest

theorem settleAll_eq (p : Printer) (showings : List Showing) :
    p.settleAll showings = (p.printedAll showings).map fun rows => rows.map (render p.json) := by
  induction showings generalizing p with
  | nil => rfl
  | cons s rest inductionHypothesis =>
      change ((p.printed s).map (render p.json)) :: (p.next s).settleAll rest = _
      rw [inductionHypothesis, json_next]
      rfl

/-- All lines of a run, as the printed forms of all rows. -/
theorem flatten_settleAll (p : Printer) (showings : List Showing) :
    (p.settleAll showings).flatten = (p.printedAll showings).flatten.map (render p.json) := by
  rw [settleAll_eq, List.map_flatten]

theorem after_append (p : Printer) (first second : List Showing) :
    p.after (first ++ second) = (p.after first).after second := List.foldl_append

theorem json_after (p : Printer) (showings : List Showing) :
    (p.after showings).json = p.json := by
  induction showings generalizing p with
  | nil => rfl
  | cons s rest inductionHypothesis => exact inductionHypothesis (p.next s)

theorem length_printedAll (p : Printer) (showings : List Showing) :
    (p.printedAll showings).length = showings.length := by
  induction showings generalizing p with
  | nil => rfl
  | cons s rest inductionHypothesis =>
      change ((p.next s).printedAll rest).length + 1 = rest.length + 1
      rw [inductionHypothesis]

/-- The showings of a run, each with the rows that it prints. -/
def calls (p : Printer) (showings : List Showing) : List (Showing × List (Row MergedEntry)) :=
  showings.zip (p.printedAll showings)

theorem calls_cons (p : Printer) (s : Showing) (rest : List Showing) :
    p.calls (s :: rest) = (s, p.printed s) :: (p.next s).calls rest := rfl

theorem map_snd_calls (p : Printer) (showings : List Showing) :
    (p.calls showings).map Prod.snd = p.printedAll showings :=
  List.map_snd_zip (Nat.le_of_eq (p.length_printedAll showings))

/-- What a run prints is printed by some showing. -/
theorem exists_showing_of_mem {p : Printer} {showings : List Showing} {row : Row MergedEntry}
    (listed : row ∈ (p.printedAll showings).flatten) :
    ∃ q : Printer, ∃ s ∈ showings, row ∈ q.printed s := by
  induction showings generalizing p with
  | nil => cases listed
  | cons s rest inductionHypothesis =>
      rcases List.mem_append.mp listed with now | later
      · exact ⟨p, s, List.mem_cons_self, now⟩
      · rcases inductionHypothesis later with ⟨q, t, member, printed⟩
        exact ⟨q, t, List.mem_cons_of_mem s member, printed⟩

end Printer

/-- What an agent does, as an entry of the merged log. -/
def MergedEntry.ofAgent (position : Nat) (kind : EntryKind) (content : String) : MergedEntry where
  id := MergedEntry.idOf default position
  time := 1000 + position
  processId := default
  processName := RunReason.codingAgent.displayName
  channel := .normalized
  payload := .entry ⟨none, kind, content, none⟩

end LiveLog
