import LiveLog.Proofs.Arrivals
import LiveLog.Proofs.TimeOrder
import LiveLog.Proofs.WrittenScalars
import LiveLog.View
import Mathlib.Data.List.Nodup

namespace LiveLog

/-!
# Where the entries of the merged log come from

An entry of the merged log stands for one unit of one process, and its identifier
names both: the text of a process's identifier always has the same length, and a
position reads back from its digits. So the merged log has no identifier twice as
long as the processes are distinct and the units of each are in the order of their
positions.

The order of time is stable. The output of a process whose times do not go back
stands in the merged log in its own order, whatever stands between, as long as the
log is within its capacity.
-/

namespace MergedEntry

/-- An identifier names the process and the position. -/
theorem idOf_inj {p q : Uuid} {i j : Nat} : idOf p i = idOf q j ↔ p = q ∧ i = j := by
  constructor
  · intro same
    have chars := congrArg String.toList same
    simp only [idOf, Uuid.text, String.toList_append, String.toList_ofList] at chars
    rw [List.append_assoc, List.append_assoc] at chars
    have parts := List.append_inj chars (by rw [Uuid.length_chars, Uuid.length_chars])
    have positions := String.toList_injective (List.append_cancel_left parts.2)
    exact ⟨Uuid.chars_injective parts.1, Count.text_inj.mp positions⟩
  · rintro ⟨rfl, rfl⟩
    rfl

end MergedEntry

namespace Source

variable {s : Source}

theorem mem_merged {e : MergedEntry} :
    e ∈ s.merged ↔ ∃ offset, ∃ unit, s.entries[offset]? = some unit ∧
      s.entryAt s.entries.length offset unit = e := by
  unfold merged
  rw [List.mem_mapIdx]
  constructor
  · rintro ⟨offset, within, rfl⟩
    exact ⟨offset, s.entries[offset], List.getElem?_eq_getElem within, rfl⟩
  · rintro ⟨offset, unit, found, rfl⟩
    rcases List.getElem?_eq_some_iff.mp found with ⟨within, rfl⟩
    exact ⟨offset, within, rfl⟩

theorem processId_of_mem {e : MergedEntry} (listed : e ∈ s.merged) :
    e.processId = s.process.id := by
  rcases mem_merged.mp listed with ⟨offset, unit, _found, rfl⟩
  rfl

theorem id_of_mem {e : MergedEntry} (listed : e ∈ s.merged) :
    ∃ position, e.id = MergedEntry.idOf e.processId position := by
  rcases mem_merged.mp listed with ⟨offset, unit, _found, rfl⟩
  exact ⟨unit.position, rfl⟩

theorem map_id_merged (s : Source) :
    s.merged.map MergedEntry.id =
      s.entries.map fun unit => MergedEntry.idOf s.process.id unit.position := by
  unfold merged
  apply List.ext_getElem
  · rw [List.length_map, List.length_map, List.length_mapIdx]
  · intro i within _within
    rw [List.getElem_map, List.getElem_map, List.getElem_mapIdx]
    rfl

theorem nodup_merged (increasing : s.entries.Pairwise fun d e => d.position < e.position) :
    (s.merged.map MergedEntry.id).Nodup := by
  rw [map_id_merged, List.Nodup, List.pairwise_map]
  apply increasing.imp
  intro d e before same
  exact Nat.ne_of_lt before (MergedEntry.idOf_inj.mp same).2

end Source

namespace Timeline

variable {sources : List Source}

theorem mem_ordered {e : MergedEntry} : e ∈ ordered sources ↔ ∃ s ∈ sources, e ∈ s.merged := by
  rw [(ordered_perm sources).mem_iff, List.mem_flatMap]

/-- Sources of distinct processes, each in the order of its positions, have no
identifier twice. -/
theorem nodup_ordered (distinct : (sources.map fun s => s.process.id).Nodup)
    (increasing : ∀ s ∈ sources, s.entries.Pairwise fun d e => d.position < e.position) :
    ((ordered sources).map MergedEntry.id).Nodup := by
  rw [((ordered_perm sources).map MergedEntry.id).nodup_iff, List.map_flatMap, List.nodup_flatMap]
  constructor
  · intro s listed
    exact Source.nodup_merged (increasing s listed)
  · rw [List.Nodup, List.pairwise_map] at distinct
    apply distinct.imp
    intro s t different id first second
    rcases List.mem_map.mp first with ⟨d, shown, rfl⟩
    rcases List.mem_map.mp second with ⟨e, listed, same⟩
    rcases Source.id_of_mem shown with ⟨i, named⟩
    rcases Source.id_of_mem listed with ⟨j, other⟩
    rw [named, other, MergedEntry.idOf_inj] at same
    rw [Source.processId_of_mem shown, Source.processId_of_mem listed] at same
    exact different same.1.symm

/-- The output of one of several distinct processes, among all entries. -/
theorem filter_flatMap_merged {s : Source} (distinct : (sources.map fun s => s.process.id).Nodup)
    (listed : s ∈ sources) :
    (sources.flatMap Source.merged).filter (fun e => e.processId = s.process.id) = s.merged := by
  have own : s.merged.filter (fun e => e.processId = s.process.id) = s.merged := by
    rw [List.filter_eq_self]
    intro e shown
    exact decide_eq_true (Source.processId_of_mem shown)
  induction sources with
  | nil => cases listed
  | cons t rest inductionHypothesis =>
      rw [List.map_cons, List.nodup_cons] at distinct
      rw [List.flatMap_cons, List.filter_append]
      rcases List.mem_cons.mp listed with first | later
      · subst first
        have others : (rest.flatMap Source.merged).filter
            (fun e => e.processId = s.process.id) = [] := by
          rw [List.filter_eq_nil_iff]
          intro e shown same
          rcases List.mem_flatMap.mp shown with ⟨u, member, entry⟩
          rw [decide_eq_true_eq, Source.processId_of_mem entry] at same
          exact distinct.1 (same ▸ List.mem_map_of_mem member)
        rw [own, others, List.append_nil]
      · have other : t.merged.filter (fun e => e.processId = s.process.id) = [] := by
          rw [List.filter_eq_nil_iff]
          intro e shown same
          rw [decide_eq_true_eq, Source.processId_of_mem shown] at same
          exact distinct.1 (same ▸ List.mem_map_of_mem later)
        rw [other, List.nil_append]
        exact inductionHypothesis distinct.2 later

/-- A process whose times do not go back keeps its own order in the order of time. -/
theorem filter_ordered {s : Source} (distinct : (sources.map fun s => s.process.id).Nodup)
    (listed : s ∈ sources) (timed : s.merged.Pairwise fun d e => d.time ≤ e.time) :
    (ordered sources).filter (fun e => e.processId = s.process.id) = s.merged := by
  have own := filter_flatMap_merged distinct listed
  have inOrder : ((sources.flatMap Source.merged).filter
      fun e => e.processId = s.process.id).Pairwise fun d e => d.time ≤ e.time := by
    rw [own]
    exact timed
  rw [ordered, filter_mergeSort inOrder, own]

/-- A log within its capacity is shown as a whole. -/
theorem compose_of_le {cap : Nat}
    (roomy : (sources.flatMap Source.merged).length ≤ capacity cap) :
    compose cap sources = ordered sources := by
  unfold compose newest
  rw [(ordered_perm sources).length_eq, Nat.sub_eq_zero_of_le roomy, List.drop_zero]

/-- Sources that follow each other in time need no sorting. -/
theorem ordered_of_sorted
    (sorted : (sources.flatMap Source.merged).Pairwise fun d e => d.time ≤ e.time) :
    ordered sources = sources.flatMap Source.merged := by
  apply List.mergeSort_of_pairwise
  apply sorted.imp
  intro d e before
  exact decide_eq_true before

/-- A log within its capacity whose sources follow each other in time needs no
sorting. -/
theorem compose_of_sorted {cap : Nat}
    (sorted : (sources.flatMap Source.merged).Pairwise fun d e => d.time ≤ e.time)
    (roomy : (sources.flatMap Source.merged).length ≤ capacity cap) :
    compose cap sources = sources.flatMap Source.merged := by
  rw [compose_of_le roomy, ordered_of_sorted sorted]

end Timeline

/-- What a line of a script becomes in the merged log. -/
def Line.entry (p : Execution) (line : Line) : MergedEntry where
  id := MergedEntry.idOf p.id line.position
  time := line.arrivedAt
  processId := p.id
  processName := p.displayName
  channel := match line.unit with
    | .entry _ => .normalized
    | .stdout _ => .raw
    | .stderr _ => .stderr
  payload := match line.unit with
    | .entry e => .entry e
    | .stdout s | .stderr s => .text s

/-- A line stands in the merged log with its own stamp, wherever it stands in its source. -/
theorem Line.entryAt_eq {p : Execution} (script : p.kind = .raw) (line : Line)
    (entries : List SourceEntry) (batchTime : Int) (total offset : Nat) :
    (Source.mk p entries batchTime).entryAt total offset
      ⟨line.position, line.unit, some line.arrivedAt⟩ = line.entry p := by
  unfold Source.entryAt Line.entry
  cases line.unit with
  | entry e => rfl
  | stderr s => rfl
  | stdout s => simp only [script, Channel.ofUnit, Payload.ofUnit, Option.getD_some]

namespace Feed

theorem process_source (f : Feed) : f.source.process = f.process := by
  unfold source
  cases f.kind with
  | raw => rfl
  | normalized => rfl

theorem merged_of_raw {f : Feed} (script : f.kind = .raw) :
    f.source.merged = f.lines.lines.map (Line.entry f.process) := by
  have kind : f.process.kind = .raw := script
  unfold source Source.merged
  rw [script]
  apply List.ext_getElem
  · rw [List.length_mapIdx, List.length_map, List.length_map]
  · intro i within _within
    rw [List.getElem_mapIdx, List.getElem_map, List.getElem_map]
    exact Line.entryAt_eq kind _ _ _ _ _

end Feed

namespace Hub

/-- Whether the merged log is within its capacity. -/
def IsRoomy (h : Hub) : Prop :=
  (h.sources.flatMap Source.merged).length ≤ Timeline.capacity h.settings.mergedEntries

instance (h : Hub) : Decidable h.IsRoomy :=
  inferInstanceAs (Decidable (_ ≤ Timeline.capacity h.settings.mergedEntries))

theorem mem_merged {h : Hub} {e : MergedEntry} (listed : e ∈ h.merged) :
    ∃ s ∈ h.subscriptions, e ∈ s.feed.source.merged := by
  have ordered := (Timeline.newest_suffix _ _).subset listed
  rcases Timeline.mem_ordered.mp ordered with ⟨source, member, shown⟩
  rcases List.mem_map.mp member with ⟨s, subscribed, rfl⟩
  exact ⟨s, subscribed, shown⟩

theorem map_process_sources (h : Hub) : (h.sources.map fun s => s.process.id) = h.ids := by
  unfold sources ids
  rw [List.map_map]
  apply List.map_congr_left
  intro s _listed
  exact congrArg Execution.id s.feed.process_source

/-- In the order of time a script stands with its lines in their own order. -/
theorem filter_ordered_of_raw {h : Hub} {s : Subscription} (distinct : h.ids.Nodup)
    (listed : s ∈ h.subscriptions) (script : s.feed.kind = .raw)
    (inOrder : s.feed.lines.InOrder) :
    (Timeline.ordered h.sources).filter (fun e => e.processId = s.id) =
      s.feed.lines.lines.map (Line.entry s.feed.process) := by
  have apart : (h.sources.map fun s => s.process.id).Nodup := by
    rw [map_process_sources]
    exact distinct
  have timed : s.feed.source.merged.Pairwise fun d e => d.time ≤ e.time := by
    rw [Feed.merged_of_raw script, List.pairwise_map]
    exact inOrder.arrivals
  have own := Timeline.filter_ordered apart (List.mem_map_of_mem listed) timed
  rwa [Feed.process_source, Feed.merged_of_raw script] at own

/-- The merged log has no identifier twice. -/
theorem nodup_merged {h : Hub} (distinct : h.ids.Nodup)
    (inOrder : ∀ s ∈ h.subscriptions, s.feed.InOrder) : (h.merged.map MergedEntry.id).Nodup := by
  have all : ((Timeline.ordered h.sources).map MergedEntry.id).Nodup := by
    apply Timeline.nodup_ordered
    · rw [map_process_sources]
      exact distinct
    · intro source listed
      rcases List.mem_map.mp listed with ⟨s, subscribed, rfl⟩
      exact (inOrder s subscribed).source
  exact all.sublist ((Timeline.newest_suffix _ _).sublist.map MergedEntry.id)

end Hub

end LiveLog
