import LiveLog.Proofs.HubRuns

namespace LiveLog

/-!
# The keys of rows

A row is told from the other rows of its view by its key. The key of a group is made
from the key of its first entry, and every entry stands in one row, so two groups
never begin with the same entry. What is left to exclude is that a group is taken for
an entry: the mark in front of a group's key must begin no key of an entry.

It begins none, because an entry of a conversation has a mark of its own, and an entry
of the merged log begins with hexadecimal digits. Within one view the keys of entries
differ because positions do, and in the merged log because the processes do, too.
-/

namespace Rows

variable {α : Type} [Showable α]

/-- Whether a key looks like the key of a group. -/
def IsMarked (key : String) : Prop := ∃ rest, key = "agg-" ++ rest

/-- No two rows have the same key, no two entries have the same key, and no group has
the key of an entry, whether the entry is in a group or not. -/
structure Keyed (rows : List (Row α)) : Prop where
  distinct : (rows.map Row.key).Nodup
  entries : ((flatten rows).map Showable.key).Nodup
  groups : ∀ g, Row.group g ∈ rows → ∀ e ∈ flatten rows, g.key ≠ Showable.key e

/-- A group in a view has the key of one of its entries, behind the mark. -/
theorem key_of_group_mem_view {grouped : Bool} {xs : List α} {g : Group α}
    (listed : .group g ∈ view grouped xs) : ∃ e ∈ g.entries, g.key = "agg-" ++ Showable.key e := by
  cases grouped with
  | false =>
      rcases List.mem_map.mp listed with ⟨e, _member, made⟩
      cases made
  | true =>
      rcases exists_run_of_mem_gather listed with ⟨_isRun, _whole, made⟩
      change ofRun g.entries = [.group g] at made
      cases entries : g.entries with
      | nil =>
          rw [entries] at made
          cases made
      | cons a rest =>
          rw [entries] at made
          cases rest with
          | nil => cases made
          | cons b rest =>
              refine ⟨a, List.mem_cons_self, ?_⟩
              cases kind : kind? a with
              | none =>
                  simp only [ofRun, kind] at made
                  cases made
              | some k =>
                  simp only [ofRun, kind, List.cons.injEq, Row.group.injEq] at made
                  rw [← made.1]

/-- The key of a row leads back to one of its entries. -/
theorem key_of_mem_view {grouped : Bool} {xs : List α} {row : Row α}
    (listed : row ∈ view grouped xs) :
    ∃ e ∈ row.entries, row.key = Showable.key e ∨ row.key = "agg-" ++ Showable.key e := by
  cases row with
  | entry e => exact ⟨e, List.mem_cons_self, Or.inl rfl⟩
  | group g =>
      rcases key_of_group_mem_view listed with ⟨e, member, marked⟩
      exact ⟨e, member, Or.inr marked⟩

/-- A view of entries whose keys differ, and do not look like the keys of groups, is
keyed. -/
theorem keyed_view (grouped : Bool) {xs : List α} (distinct : (xs.map Showable.key).Nodup)
    (plain : ∀ e ∈ xs, ¬ IsMarked (Showable.key e)) : Keyed (view grouped xs) := by
  have shown := flatten_view grouped xs
  have plainly {row : Row α} (listed : row ∈ view grouped xs) {e : α} (member : e ∈ row.entries) :
      ¬ IsMarked (Showable.key e) := by
    apply plain e
    rw [← shown]
    exact List.mem_flatMap.mpr ⟨row, listed, member⟩
  refine ⟨?_, ?_, ?_⟩
  · -- Different rows show entries of different keys.
    have apart := distinct
    rw [← shown, flatten, List.map_flatMap, List.nodup_flatMap] at apart
    rw [List.Nodup, List.pairwise_map]
    refine apart.2.imp_of_mem ?_
    intro first second firstListed secondListed disjoint same
    rcases key_of_mem_view firstListed with ⟨d, dMember, dKey⟩
    rcases key_of_mem_view secondListed with ⟨e, eMember, eKey⟩
    have different : Showable.key d ≠ Showable.key e := by
      intro equal
      apply disjoint (List.mem_map_of_mem dMember)
      rw [equal]
      exact List.mem_map_of_mem eMember
    rcases dKey with dKey | dKey <;> rcases eKey with eKey | eKey <;> rw [dKey, eKey] at same
    · exact different same
    · exact plainly firstListed dMember ⟨_, same⟩
    · exact plainly secondListed eMember ⟨_, same.symm⟩
    · exact different ((String.append_right_inj _).mp same)
  · rw [shown]
    exact distinct
  · intro g listed e member same
    rw [shown] at member
    rcases key_of_group_mem_view listed with ⟨d, _inside, marked⟩
    exact plain e member ⟨_, same ▸ marked⟩

end Rows

namespace MergedEntry

/-- The identifier of a unit begins with digits, so it does not look like the key of a
group. -/
theorem not_isMarked_idOf (process : Uuid) (position : Nat) :
    ¬ Rows.IsMarked (idOf process position) := by
  rintro ⟨rest, same⟩
  have chars := congrArg (List.take 8 ∘ String.toList) same
  simp only [Function.comp_apply, idOf, Uuid.text, String.toList_append, String.toList_ofList,
    List.append_assoc] at chars
  have digits : (process.chars ++ (":".toList ++ (Count.text position).toList)).take 8 =
      (process.digits.map Uuid.digitChar).take 8 := by
    unfold Uuid.chars
    simp only [List.append_assoc]
    rw [List.take_append_of_le_length, List.take_take, Nat.min_self]
    rw [List.length_take, List.length_map, process.length_digits]
    decide
  rw [digits] at chars
  have letter : 'g' ∈ ("agg-".toList ++ rest.toList).take 8 :=
    List.mem_cons_of_mem _ List.mem_cons_self
  rw [← chars] at letter
  rcases List.mem_map.mp (List.mem_of_mem_take letter) with ⟨d, _digit, equal⟩
  have never : ∀ d : Fin 16, Uuid.digitChar d ≠ 'g' := by decide
  exact never d equal

end MergedEntry

namespace ConversationEntry

theorem key_inj {d e : ConversationEntry} :
    Showable.key d = Showable.key e ↔ d.index = e.index :=
  (String.append_right_inj _).trans Count.text_inj

theorem not_isMarked_key (e : ConversationEntry) : ¬ Rows.IsMarked (Showable.key e) := by
  rintro ⟨rest, same⟩
  have chars := congrArg String.toList same
  change ("entry-" ++ Count.text e.index).toList = _ at chars
  rw [String.toList_append, String.toList_append] at chars
  cases (List.cons.inj chars).1

end ConversationEntry

namespace Feed

/-- The indices of the units that a feed shows increase. -/
theorem InOrder.units {f : Feed} (inOrder : f.InOrder) :
    f.units.Pairwise fun d e => d.index < e.index := by
  unfold Feed.units
  cases f.kind with
  | raw => exact List.pairwise_map.mpr inOrder.lines.positions
  | normalized => exact inOrder.conversation

end Feed

namespace Hub

variable {h : Hub}

theorem keyed_view (distinct : h.ids.Nodup) (inOrder : ∀ s ∈ h.subscriptions, s.feed.InOrder)
    (grouped : Bool) : Rows.Keyed (h.view grouped).rows := by
  apply Rows.keyed_view grouped (nodup_merged distinct inOrder)
  intro e listed
  rcases mem_merged listed with ⟨s, _member, shown⟩
  rcases Source.id_of_mem shown with ⟨position, named⟩
  change ¬ Rows.IsMarked e.id
  rw [named]
  exact MergedEntry.not_isMarked_idOf e.processId position

theorem keyed_viewOf (inOrder : ∀ s ∈ h.subscriptions, s.feed.InOrder) {grouped : Bool} {id : Uuid}
    {view : View ConversationEntry} (followed : h.viewOf? grouped id = some view) :
    Rows.Keyed view.rows := by
  rcases Option.map_eq_some_iff.mp followed with ⟨s, found, rfl⟩
  apply Rows.keyed_view grouped
  · rw [List.Nodup, List.pairwise_map]
    apply (inOrder s (mem_of_findIn found).1).units.imp
    intro d e before same
    exact Nat.ne_of_lt before (ConversationEntry.key_inj.mp same)
  · intro e _listed
    exact e.not_isMarked_key

end Hub

namespace Pipeline

/-- In whatever state a pipeline is, and whether or not rows are gathered into groups,
no two rows of the merged view have the same key, nor have two rows of the view of one
process; and no group has the key of an entry of its view. -/
theorem row_keys_distinct (settings : Settings) (backend : Backend) (grouped : Bool) (now : Int)
    (steps : List Step) :
    let p := (start settings backend grouped now).run steps
    Rows.Keyed p.view.rows ∧ ∀ id view, p.viewOf? id = some view → Rows.Keyed view.rows := by
  intro p
  have distinct : p.hub.ids.Nodup :=
    hub_of_run (P := fun h => h.ids.Nodup)
      (fun actions => ((Hub.Remembers.empty settings backend).run actions).sound.nodup)
      grouped now steps
  have inOrder : ∀ s ∈ p.hub.subscriptions, s.feed.InOrder :=
    hub_of_run (P := fun h => ∀ s ∈ h.subscriptions, s.feed.InOrder)
      (Hub.inOrder_run settings backend) grouped now steps
  exact ⟨p.hub.keyed_view distinct inOrder p.grouped,
    fun _id _view followed => Hub.keyed_viewOf inOrder followed⟩

/-- An agent is listed twice. It searches three times and reports something unknown in
between, and the first search is removed; a script has let a line go. -/
theorem row_keys_after_removal :
    let settings : Settings := { Settings.default with rawEntries := 1 }
    let backend := Backend.atHost "b"
    let agent : Execution := ⟨default, .codingAgent, .running, false⟩
    let script : Execution := ⟨⟨List.replicate 32 1, by decide⟩, .setupScript, .running, false⟩
    let report (text : String) : Step := .send agent.id (.event "json_patch" text)
    let line (text : String) : Step := .send script.id (.event "stdout" text)
    let search :=
      "[\"NORMALIZED_ENTRY\",[null,[\"tool_use\",\"\",[\"search\",\"\"],[\"created\"]],\"\",null]]"
    let steps : List Step := [.sync [agent, script, agent],
      report ("[\x7b\"op\":\"add\",\"path\":\"/entries/0\",\"value\":" ++ search ++ "\x7d]"),
      report "[\x7b\"op\":\"copy\",\"from\":\"/entries/0\",\"path\":\"/entries/1\"\x7d]",
      report "[\x7b\"op\":\"copy\",\"from\":\"/entries/0\",\"path\":\"/entries/2\"\x7d]",
      report "[\x7b\"op\":\"add\",\"path\":\"/entries/2\",\"value\":0\x7d]",
      report "[\x7b\"op\":\"remove\",\"path\":\"/entries/0\"\x7d]", line "1", line "2", .drain]
    let p := (start settings backend true 0).run steps
    let keys (id : Uuid) := (p.viewOf? id).map fun view =>
      (view.rows.map Row.key, (Rows.flatten view.rows).map Showable.key)
    keys agent.id = some (["agg-entry-0"], ["entry-0", "entry-2"]) ∧
      keys script.id = some (["entry-1"], ["entry-1"]) ∧
      Rows.Keyed p.view.rows ∧ ∃ view, p.viewOf? agent.id = some view ∧ Rows.Keyed view.rows := by
  intro settings backend agent script report line search steps p keys
  have shown : keys agent.id = some (["agg-entry-0"], ["entry-0", "entry-2"]) ∧
      keys script.id = some (["entry-1"], ["entry-1"]) := by decide +kernel
  rcases row_keys_distinct settings backend true 0 steps with ⟨merged, single⟩
  rcases Option.map_eq_some_iff.mp shown.1 with ⟨view, followed, _keys⟩
  exact ⟨shown.1, shown.2, merged, view, followed, single agent.id view followed⟩

end Pipeline

end LiveLog
