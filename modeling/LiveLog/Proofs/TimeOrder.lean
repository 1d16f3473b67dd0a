import LiveLog.Timeline
import Mathlib.Data.List.Sort

namespace LiveLog

/-!
# The merged log as the end of one list

The units of some sources, each at the place where it stands among the sources and
among the units of its source, determine one list: every unit once, in the order of
time, and units of equal time in the order of their places. What is composed is an
end of this list.

Composing sorts by time alone and never looks at a place. That the places still decide
between equal times is the stability of the sort: whatever part of a list is in order
already is found again, as it was, in the sorted list.
-/

namespace Timeline

section Sorting

variable {α : Type} (time : α → Int)

theorem older_trans (a b c : α) (first : decide (time a ≤ time b) = true)
    (second : decide (time b ≤ time c) = true) : decide (time a ≤ time c) = true := by
  rw [decide_eq_true_eq] at first second ⊢
  exact Int.le_trans first second

theorem older_total (a b : α) : (decide (time a ≤ time b) || decide (time b ≤ time a)) = true := by
  rw [Bool.or_eq_true, decide_eq_true_eq, decide_eq_true_eq]
  exact Int.le_total (time a) (time b)

theorem pairwise_mergeSort (xs : List α) :
    (xs.mergeSort fun a b => decide (time a ≤ time b)).Pairwise fun a b => time a ≤ time b := by
  apply (List.pairwise_mergeSort (older_trans time) (older_total time) xs).imp
  intro a b before
  exact of_decide_eq_true before

variable {time}

/-- A part of a list that is in the order of time stands unchanged in the sorted list. -/
theorem filter_mergeSort {part : α → Bool} {xs : List α}
    (inOrder : (xs.filter part).Pairwise fun a b => time a ≤ time b) :
    (xs.mergeSort fun a b => decide (time a ≤ time b)).filter part = xs.filter part := by
  have decided : (xs.filter part).Pairwise fun a b => decide (time a ≤ time b) = true := by
    apply inOrder.imp
    intro a b before
    exact decide_eq_true before
  have kept := (List.sublist_mergeSort (older_trans time) (older_total time) decided
    List.filter_sublist).filter part
  rw [List.filter_filter, show (fun a => part a && part a) = part by simp only [Bool.and_self]]
    at kept
  have length := ((List.mergeSort_perm xs fun a b => decide (time a ≤ time b)).filter
    part).length_eq
  exact (kept.eq_of_length length.symm).symm

/-- What the sort moves is of different times: two elements of equal time stand in the
sorted list as they stood before. -/
theorem sublist_of_mergeSort {a b : α} {xs : List α}
    (sorted : [a, b].Sublist (xs.mergeSort fun a b => decide (time a ≤ time b)))
    (same : time a = time b) : [a, b].Sublist xs := by
  have equal : (xs.filter fun c => decide (time c = time a)).Pairwise fun c d =>
      time c ≤ time d := by
    apply List.pairwise_of_forall_mem_list
    intro c first d second
    rw [of_decide_eq_true (List.mem_filter.mp first).2,
      of_decide_eq_true (List.mem_filter.mp second).2]
  have both := sorted.filter fun c => decide (time c = time a)
  rw [filter_mergeSort equal, List.filter_cons_of_pos (by simp), List.filter_cons_of_pos
    (by simp [same]), List.filter_nil] at both
  exact both.trans List.filter_sublist

end Sorting

/-! ## Places -/

/-- An entry of the merged log, with the place from which it comes. -/
@[ext] structure Placed where
  /-- Where its source stands among the sources. -/
  source : Nat
  /-- Where its unit stands among the units of the source. -/
  offset : Nat
  entry : MergedEntry
deriving DecidableEq

end Timeline

/-- How a unit is shown: normalized entries as themselves, on a channel of their own, and
output as its text. What a script writes to its output has a channel of its own, too. -/
inductive LogUnit.ShownAs : StreamKind → LogUnit → Channel → Payload → Prop
  | entry (kind : StreamKind) (e : Entry) : ShownAs kind (.entry e) .normalized (.entry e)
  | stderr (kind : StreamKind) (s : String) : ShownAs kind (.stderr s) .stderr (.text s)
  | script (s : String) : ShownAs .raw (.stdout s) .raw (.text s)
  | stdout (s : String) : ShownAs .normalized (.stdout s) .stdout (.text s)

theorem LogUnit.shownAs_iff {kind : StreamKind} {unit : LogUnit} {channel : Channel}
    {payload : Payload} : unit.ShownAs kind channel payload ↔
      channel = Channel.ofUnit kind unit ∧ payload = Payload.ofUnit unit := by
  constructor
  · rintro (_ | _ | _ | _) <;> exact ⟨rfl, rfl⟩
  · rintro ⟨rfl, rfl⟩
    cases unit with
    | entry e => exact .entry kind e
    | stderr s => exact .stderr kind s
    | stdout s => cases kind with
      | raw => exact .script s
      | normalized => exact .stdout s

/-- The name by which people know a process: that of the reason for which it runs. -/
inductive RunReason.IsCalled : RunReason → String → Prop
  | setupScript : IsCalled .setupScript "Setup Script"
  | cleanupScript : IsCalled .cleanupScript "Cleanup Script"
  | codingAgent : IsCalled .codingAgent "Coding Agent"
  | devServer : IsCalled .devServer "Dev Server"

theorem RunReason.isCalled_iff {r : RunReason} {name : String} :
    r.IsCalled name ↔ name = r.displayName := by
  constructor
  · rintro (_ | _ | _ | _) <;> rfl
  · rintro rfl
    cases r <;> constructor

/-- What an entry says of the unit at an offset of a source. -/
structure Source.Shows (s : Source) (offset : Nat) (unit : SourceEntry) (e : MergedEntry) :
    Prop where
  id : e.id = s.process.id.text ++ ":" ++ Count.text unit.position
  processId : e.processId = s.process.id
  processName : s.process.reason.IsCalled e.processName
  shown : unit.unit.ShownAs s.process.kind e.channel e.payload
  /-- A unit without a timestamp is placed before the batch, in the order of the units. -/
  time : e.time = unit.millis?.getD (s.batchTime - ((s.entries.length : Int) - (offset : Int)))

theorem Source.shows_iff {s : Source} {offset : Nat} {unit : SourceEntry} {e : MergedEntry} :
    s.Shows offset unit e ↔ e = s.entryAt s.entries.length offset unit := by
  constructor
  · rintro ⟨id, processId, processName, shown, time⟩
    have name := RunReason.isCalled_iff.mp processName
    rcases LogUnit.shownAs_iff.mp shown with ⟨channel, payload⟩
    rcases e with ⟨_, _, _, _, _, _⟩
    subst id processId name channel payload time
    rfl
  · rintro rfl
    exact ⟨rfl, rfl, RunReason.isCalled_iff.mpr rfl, LogUnit.shownAs_iff.mpr ⟨rfl, rfl⟩, rfl⟩

namespace Timeline

namespace Placed

/-- The unit at a place of some sources, with its source. -/
def At (sources : List Source) (source offset : Nat) (s : Source) (unit : SourceEntry) : Prop :=
  sources[source]? = some s ∧ s.entries[offset]? = some unit

/-- Whether an entry comes from an earlier place than another. -/
def Above (a b : Placed) : Prop :=
  a.source < b.source ∨ a.source = b.source ∧ a.offset < b.offset

/-- Whether an entry stands before another one: it is older, or as old and from an
earlier place. -/
def Before (a b : Placed) : Prop :=
  a.entry.time < b.entry.time ∨ a.entry.time = b.entry.time ∧ a.Above b

instance : Std.Irrefl Before where
  irrefl a := by
    unfold Before Above
    omega

instance : Std.Antisymm Before where
  antisymm a b first second := by
    unfold Before Above at first second
    omega

/-- Whether the unit at the place of an entry has no timestamp. -/
def IsUntimed (sources : List Source) (p : Placed) : Prop :=
  ∃ s unit, At sources p.source p.offset s unit ∧ unit.millis? = none

end Placed

/-- The list of all units: each of them once, in the order of time, and in the order of
their places where times are equal. -/
structure IsTimeline (sources : List Source) (log : List Placed) : Prop where
  complete : ∀ source offset s unit, Placed.At sources source offset s unit →
    ∃ p ∈ log, p.source = source ∧ p.offset = offset
  once : (log.map fun p => (p.source, p.offset)).Nodup
  shows : ∀ p ∈ log, ∃ s unit, Placed.At sources p.source p.offset s unit ∧
    s.Shows p.offset unit p.entry
  ordered : log.Pairwise Placed.Before

section Places

variable {sources : List Source}

theorem IsTimeline.mem_iff {log : List Placed} (timeline : IsTimeline sources log) {p : Placed} :
    p ∈ log ↔ ∃ s unit, Placed.At sources p.source p.offset s unit ∧
      s.Shows p.offset unit p.entry := by
  refine ⟨timeline.shows p, ?_⟩
  rintro ⟨s, unit, ⟨found, listed⟩, shown⟩
  rcases timeline.complete p.source p.offset s unit ⟨found, listed⟩ with ⟨q, member, source, offset⟩
  rcases timeline.shows q member with ⟨t, other, ⟨same, standing⟩, showing⟩
  -- The place tells source and unit, and these tell the entry.
  rw [source, found, Option.some.injEq] at same
  subst same
  rw [offset, listed, Option.some.injEq] at standing
  subst standing
  rw [Source.shows_iff] at shown showing
  rw [offset] at showing
  have equal : q = p := Placed.ext source offset (showing.trans shown.symm)
  exact equal ▸ member

/-- There is at most one such list. -/
theorem IsTimeline.unique {log other : List Placed} (first : IsTimeline sources log)
    (second : IsTimeline sources other) : log = other :=
  first.ordered.eq_of_mem_iff second.ordered fun _ => first.mem_iff.trans second.mem_iff.symm

/-- All entries with their places, source by source. -/
def placed (sources : List Source) : List Placed :=
  sources.zipIdx.flatMap fun (s, i) => s.entries.zipIdx.map fun (unit, j) =>
    ⟨i, j, s.entryAt s.entries.length j unit⟩

theorem mem_placed {p : Placed} :
    p ∈ placed sources ↔ ∃ s unit, Placed.At sources p.source p.offset s unit ∧
      s.Shows p.offset unit p.entry := by
  unfold placed
  simp only [List.mem_flatMap, List.mem_map, Prod.exists, List.mem_zipIdx_iff_getElem?,
    Source.shows_iff]
  constructor
  · rintro ⟨s, i, found, unit, j, listed, rfl⟩
    exact ⟨s, unit, ⟨found, listed⟩, rfl⟩
  · rintro ⟨s, unit, ⟨found, listed⟩, shown⟩
    exact ⟨s, p.source, found, unit, p.offset, listed, Placed.ext rfl rfl shown.symm⟩

theorem map_entry_placed (sources : List Source) :
    (placed sources).map Placed.entry = sources.flatMap Source.merged := by
  have own (s : Source) (i : Nat) : (s.entries.zipIdx.map fun (unit, j) =>
      (⟨i, j, s.entryAt s.entries.length j unit⟩ : Placed)).map Placed.entry = s.merged := by
    rw [List.map_map, Source.merged, List.mapIdx_eq_zipIdx_map]
    rfl
  unfold placed
  rw [List.map_flatMap]
  simp only [own]
  rw [← List.flatMap_map (f := Prod.fst) (g := Source.merged), List.zipIdx_map_fst]

theorem pairwise_zipIdx {α : Type} (xs : List α) : xs.zipIdx.Pairwise fun x y => x.2 < y.2 := by
  rw [← List.pairwise_map (f := Prod.snd) (R := (· < ·)), List.zipIdx_map_snd]
  exact List.pairwise_lt_range'

theorem pairwise_placed (sources : List Source) : (placed sources).Pairwise Placed.Above := by
  unfold placed
  rw [List.pairwise_flatMap]
  constructor
  · intro source _listed
    rw [List.pairwise_map]
    apply (pairwise_zipIdx _).imp
    intro first second earlier
    exact Or.inr ⟨rfl, earlier⟩
  · apply (pairwise_zipIdx sources).imp
    intro first second earlier a above b below
    rcases List.mem_map.mp above with ⟨_, _, rfl⟩
    rcases List.mem_map.mp below with ⟨_, _, rfl⟩
    exact Or.inl earlier

/-- All entries with their places, sorted by time. -/
def timeline (sources : List Source) : List Placed :=
  (placed sources).mergeSort fun a b => decide (a.entry.time ≤ b.entry.time)

theorem isTimeline_timeline (sources : List Source) : IsTimeline sources (timeline sources) where
  complete := by
    intro source offset s unit standing
    refine ⟨⟨source, offset, s.entryAt s.entries.length offset unit⟩, ?_, rfl, rfl⟩
    rw [timeline, List.mem_mergeSort, mem_placed]
    exact ⟨s, unit, standing, Source.shows_iff.mpr rfl⟩
  once := by
    have places : ((placed sources).map fun p => (p.source, p.offset)).Nodup := by
      rw [List.Nodup, List.pairwise_map]
      apply (pairwise_placed sources).imp
      intro a b above same
      rw [Prod.mk.injEq] at same
      unfold Placed.Above at above
      omega
    exact ((List.mergeSort_perm _ _).map _).nodup_iff.mpr places
  shows := by
    intro p listed
    exact mem_placed.mp (List.mem_mergeSort.mp listed)
  ordered := by
    rw [List.pairwise_iff_forall_sublist]
    intro a b sorted
    have older := List.pairwise_iff_forall_sublist.mp
      (pairwise_mergeSort (fun p : Placed => p.entry.time) (placed sources)) sorted
    rcases Int.lt_or_eq_of_le older with less | same
    · exact Or.inl less
    · have above := List.pairwise_iff_forall_sublist.mp (pairwise_placed sources)
        (sublist_of_mergeSort sorted same)
      exact Or.inr ⟨same, above⟩

theorem map_entry_timeline (sources : List Source) :
    (timeline sources).map Placed.entry = ordered sources := by
  unfold ordered timeline
  rw [← map_entry_placed]
  apply List.map_mergeSort
  intro a _first b _second
  rfl

theorem length_timeline (sources : List Source) :
    (timeline sources).length = (sources.flatMap Source.entries).length := by
  rw [← List.length_map (f := Placed.entry), map_entry_timeline, (ordered_perm sources).length_eq,
    List.length_flatMap, List.length_flatMap]
  unfold Source.merged
  simp only [List.length_mapIdx]

/-- Units of one source without timestamps are in the order of their list. -/
theorem IsTimeline.untimed {log : List Placed} (timeline : IsTimeline sources log) :
    log.Pairwise fun a b => a.source = b.source → Placed.IsUntimed sources a →
      Placed.IsUntimed sources b → a.offset < b.offset := by
  apply timeline.ordered.imp_of_mem
  rintro a b first second before same ⟨s, d, ⟨found, listed⟩, none⟩ ⟨_, e, ⟨again, standing⟩, bare⟩
  rw [← same, found, Option.some.injEq] at again
  subst again
  rcases timeline.shows a first with ⟨t, unit, ⟨owner, own⟩, shown⟩
  rcases timeline.shows b second with ⟨u, other, ⟨holder, held⟩, showing⟩
  rw [found, Option.some.injEq] at owner
  rw [← same, found, Option.some.injEq] at holder
  subst owner holder
  rw [listed, Option.some.injEq] at own
  rw [standing, Option.some.injEq] at held
  subst own held
  have early := shown.time
  have late := showing.time
  rw [none, Option.getD_none] at early
  rw [bare, Option.getD_none] at late
  unfold Placed.Before Placed.Above at before
  omega

end Places

/-- The merged log is the newest part of one list. The list holds every unit of every
source once, in the order of time and then of sources and of units, and no other list
does. What is composed is its end, as long as the capacity allows and never empty if
there is a unit; so nothing newer than a kept entry is dropped, and the kept units of
one source that have no timestamp stay in their order. -/
theorem compose_is_newest_part (cap : Nat) (sources : List Source) :
    ∃ dropped kept : List Placed,
      (∀ log, IsTimeline sources log ↔ log = dropped ++ kept) ∧
      kept.length = min (sources.flatMap Source.entries).length (max cap 1) ∧
      compose cap sources = kept.map Placed.entry ∧
      (∀ d ∈ dropped, ∀ k ∈ kept, d.entry.time ≤ k.entry.time) ∧
      kept.Pairwise fun a b => a.source = b.source → Placed.IsUntimed sources a →
        Placed.IsUntimed sources b → a.offset < b.offset := by
  have whole := isTimeline_timeline sources
  have parts := List.take_append_drop ((timeline sources).length - capacity cap) (timeline sources)
  refine ⟨(timeline sources).take ((timeline sources).length - capacity cap),
    newest (capacity cap) (timeline sources), ?_, ?_, ?_, ?_, ?_⟩
  · intro log
    rw [newest, parts]
    constructor
    · exact fun other => other.unique whole
    · rintro rfl
      exact whole
  · rw [length_newest, length_timeline]
    rfl
  · rw [compose, newest, newest, ← map_entry_timeline, List.length_map, List.map_drop]
  · intro d early k late
    have before := whole.ordered
    rw [← parts, List.pairwise_append] at before
    rcases before.2.2 d early k late with less | ⟨same, _above⟩
    · exact Int.le_of_lt less
    · exact Int.le_of_eq same
  · exact whole.untimed.sublist (newest_suffix _ _).sublist

end Timeline

end LiveLog
