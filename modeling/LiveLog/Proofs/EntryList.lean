import LiveLog.Conversation
import LiveLog.Proofs.PatchCodec
import Mathlib.Data.List.InsertIdx

namespace LiveLog

/-!
# The entries of a conversation as a plain list

The document of a conversation holds its entries in an array. Seen from outside,
the patches that the builders make and the append and replace events of the second
generation are three changes of a plain list, each at a position: a value is
inserted, a value is overwritten, a value is taken away. `EntryList.step` is that
machine. It refuses what is out of range; right at the end, where there is nothing
to take away, inserting and overwriting both append.

The main result says that a conversation which begins blank and is edited in any
way holds the machine's list, answers each edit as the machine does, and shows the
units of that list. The invariant is `Conversation.Lists`; a single edit keeps it
because each of the three patches has one effect on the array, with the second
attempt of a replacement appending at the end.
-/

namespace EntryList

/-- A change of a list at one position. -/
inductive Change
  | insert (value : Json)
  | overwrite (value : Json)
  | delete

/-- The patch that asks for a change of the entries. -/
def Change.patch (position : Nat) : Change → Patch
  | insert value => Patch.addValue position value
  | overwrite value => Patch.replaceValue position value
  | delete => Patch.removeEntry position

/-- The list after a change at a position, unless the position is out of range. -/
def change? (xs : List Json) (position : Nat) : Change → Option (List Json)
  | .insert value => if position ≤ xs.length then some (xs.insertIdx position value) else none
  | .overwrite value =>
    if position < xs.length then some (xs.set position value)
    else if position = xs.length then some (xs ++ [value])
    else none
  | .delete => if position < xs.length then some (xs.eraseIdx position) else none

/-- What becomes of a request: how many operations were applied and how many were
reported, or why there was none. -/
abbrev Answer := Except FrameError (Nat × Nat)

/-- One step of the list: what was out of range is reported and changes nothing. -/
def step (xs : List Json) (index : Int) (change : Change) : List Json × Answer :=
  if index < 0 then (xs, .error (.invalidIndex index))
  else match change? xs index.toNat change with
    | some ys => (ys, .ok (1, 0))
    | none => (xs, .ok (0, 1))

end EntryList

/-- An edit of the entries: a patch from one of the builders, whose position has
the size of a machine word, or a frame with an event. -/
inductive Edit
  | addUnit (position : Fin Count.limit) (unit : LogUnit)
  | addValue (position : Fin Count.limit) (value : Json)
  | replaceUnit (position : Fin Count.limit) (unit : LogUnit)
  | replaceValue (position : Fin Count.limit) (value : Json)
  | remove (position : Fin Count.limit)
  | append (frame : EventFrame .append)
  | replace (frame : EventFrame .replace)

namespace Edit

/-- A patch as a builder hands it out: written as JSON and read again. -/
def build (patch : Patch) : Except FrameError Patch :=
  match Patch.reader.ofJson patch.toJson with
  | some built => .ok built
  | none => .error (.json .shape)

/-- The patch that a frame carries. Another message is no patch. -/
def decoded (text : String) : Except FrameError Patch :=
  match Message.decode (.text text) with
  | .ok (some (.patch patch)) => .ok patch
  | .ok _ => .ok []
  | .error e => .error e

/-- The patch of an edit. -/
def patch : Edit → Except FrameError Patch
  | addUnit position unit => build (Patch.addUnit position unit)
  | addValue position value => build (Patch.addValue position value)
  | replaceUnit position unit => build (Patch.replaceUnit position unit)
  | replaceValue position value => build (Patch.replaceValue position value)
  | remove position => build (Patch.removeEntry position)
  | append frame => decoded frame.text
  | replace frame => decoded frame.text

/-- The index that an edit names. -/
def index : Edit → Int
  | addUnit position _ | addValue position _ | replaceUnit position _ | replaceValue position _
  | remove position => (position : Nat)
  | append frame => frame.index
  | replace frame => frame.index

/-- The change that an edit asks for. -/
def change : Edit → EntryList.Change
  | addUnit _ unit => .insert unit.toJson
  | addValue _ value => .insert value
  | replaceUnit _ unit => .overwrite unit.toJson
  | replaceValue _ value => .overwrite value
  | remove _ => .delete
  | append frame => .insert frame.entry
  | replace frame => .overwrite frame.entry

end Edit

namespace EntryList

/-- What the edits make of a list, and the answers to them. -/
def run (xs : List Json) : List Edit → List Json × List Answer
  | [] => (xs, [])
  | edit :: edits =>
    let (ys, answer) := step xs edit.index edit.change
    let (final, answers) := run ys edits
    (final, answer :: answers)

end EntryList

namespace Conversation

/-- Apply the patch of an edit at a time. -/
def edit (c : Conversation) (e : Edit) (now : Int) : Conversation × EntryList.Answer :=
  match e.patch with
  | .ok patch =>
    let (after, outcome) := c.applyBatch patch now
    (after, .ok (outcome.applied, outcome.dropped.length))
  | .error e => (c, .error e)

/-- Apply edits in order, each at its time. -/
def edited (c : Conversation) : List (Edit × Int) → Conversation × List EntryList.Answer
  | [] => (c, [])
  | (e, now) :: edits =>
    let (after, answer) := c.edit e now
    let (final, answers) := after.edited edits
    (final, answer :: answers)

/-- A conversation to which nothing has been applied. -/
def fresh (owner : Option Uuid) : Conversation := ⟨owner, blank, Snapshot.empty⟩

/-- The entries of a conversation are a list, and its snapshot shows the units of
that list. -/
structure Lists (c : Conversation) (xs : List Json) : Prop where
  entries : c.document.member? "entries" = some (.arr xs)
  shown : c.snapshot.entries = Snapshot.unitsFrom 0 xs

end Conversation

namespace Edit

theorem build_eq (patch : Patch) : build patch = .ok patch := by
  rw [build, Patch.ofJson_toJson]

/-- A frame carries the patch of its event, or an index that names no entry. -/
theorem decoded_frame {make : Int → Json → StreamEvent} {patch : Nat → Json → Patch}
    (meaning : ∀ i x, (make i x).toMessage =
      if 0 ≤ i then .ok (.patch (patch i.toNat x)) else .error (.invalidIndex i))
    (frame : EventFrame make) :
    decoded frame.text =
      if frame.index < 0 then .error (.invalidIndex frame.index)
      else .ok (patch frame.index.toNat frame.entry) := by
  rw [decoded, frame.decode_text, meaning]
  by_cases negative : frame.index < 0
  · rw [if_neg (Int.not_le.mpr negative), if_pos negative]
    rfl
  · rw [if_pos (Int.not_lt.mp negative), if_neg negative]
    rfl

/-- Every edit comes down to one of the three patches. -/
theorem patch_eq (e : Edit) :
    e.patch =
      if e.index < 0 then .error (.invalidIndex e.index)
      else .ok (e.change.patch e.index.toNat) := by
  have word (position : Fin Count.limit) : ¬ ((position : Nat) : Int) < 0 := by omega
  cases e with
  | addUnit position unit => rw [patch, build_eq, index, if_neg (word position)]; rfl
  | addValue position value => rw [patch, build_eq, index, if_neg (word position)]; rfl
  | replaceUnit position unit => rw [patch, build_eq, index, if_neg (word position)]; rfl
  | replaceValue position value => rw [patch, build_eq, index, if_neg (word position)]; rfl
  | remove position => rw [patch, build_eq, index, if_neg (word position)]; rfl
  | append frame => exact decoded_frame (fun _ _ => rfl) frame
  | replace frame => exact decoded_frame (fun _ _ => rfl) frame

/-- The position of an edit has the size of a machine word. -/
theorem position_lt (e : Edit) : e.index.toNat < Count.limit := by
  cases e with
  | addUnit position unit => exact position.isLt
  | addValue position value => exact position.isLt
  | replaceUnit position unit => exact position.isLt
  | replaceValue position value => exact position.isLt
  | remove position => exact position.isLt
  | append frame => exact StreamEvent.toNat_lt_limit (frame.index_lt fun _ _ => rfl)
  | replace frame => exact StreamEvent.toNat_lt_limit (frame.index_lt fun _ _ => rfl)

end Edit

namespace Json

/-- A value with one member set. -/
def setMember (doc : Json) (k : String) (v : Json) : Json :=
  match doc with
  | .obj ms => .obj (Assoc.set k v ms)
  | w => w

theorem member?_setMember {doc : Json} {k : String} (present : (doc.member? k).isSome)
    (w : Json) : (doc.setMember k w).member? k = some w := by
  cases doc with
  | obj ms => exact Assoc.lookup_set_self k w ms
  | null => cases present
  | bool b => cases present
  | num n => cases present
  | str s => cases present
  | arr xs => cases present

/-- A change below a member is a change of that member. -/
theorem modify?_member {f : Json → Option Json} {doc v : Json} {k : String}
    (found : doc.member? k = some v) (ts : List String) :
    modify? f (k :: ts) doc = (modify? f ts v).map fun w => doc.setMember k w := by
  cases doc with
  | obj ms =>
      change (ms.lookup k).bind (fun x => (modify? f ts x).bind _) = _
      change ms.lookup k = some v at found
      rw [found, Option.bind_some]
      cases modify? f ts v <;> rfl
  | null => cases found
  | bool b => cases found
  | num n => cases found
  | str s => cases found
  | arr xs => cases found

section Entries

variable {xs : List Json} {position : Nat}

theorem insertIdx_eq_take_drop (within : position ≤ xs.length) (v : Json) :
    xs.take position ++ v :: xs.drop position = xs.insertIdx position v := by
  induction position generalizing xs with
  | zero => rfl
  | succ position inductionHypothesis =>
      cases xs with
      | nil => cases within
      | cons x xs =>
          rw [List.take_succ_cons, List.drop_succ_cons, List.insertIdx_succ_cons, List.cons_append,
            inductionHypothesis (Nat.le_of_succ_le_succ within)]

theorem addChild?_arr (small : position < Count.limit) (v : Json) :
    addChild? (Count.text position) v (.arr xs) =
      if position ≤ xs.length then some (.arr (xs.insertIdx position v)) else none := by
  unfold addChild?
  dsimp only
  rw [if_neg (Count.text_ne_dash position), Count.position?_text small, Option.bind_some]
  by_cases within : position ≤ xs.length
  · rw [if_pos within, if_pos within, insertIdx_eq_take_drop within]
  · rw [if_neg within, if_neg within]

theorem removeChild?_arr (small : position < Count.limit) :
    removeChild? (Count.text position) (.arr xs) =
      if position < xs.length then some (.arr (xs.eraseIdx position)) else none := by
  unfold removeChild?
  dsimp only
  rw [Count.position?_text small, Option.bind_some]

theorem overwrite_arr (small : position < Count.limit) (v : Json) :
    modify? (fun _ => some v) [Count.text position] (.arr xs) =
      if position < xs.length then some (.arr (xs.set position v)) else none := by
  change (Count.position? (Count.text position)).bind (fun i => xs[i]?.bind _) = _
  rw [Count.position?_text small, Option.bind_some]
  by_cases inside : position < xs.length
  · rw [List.getElem?_eq_getElem inside, if_pos inside]
    rfl
  · rw [List.getElem?_eq_none (Nat.not_lt.mp inside), if_neg inside]
    rfl

end Entries

end Json

namespace Snapshot

/-- The units among some elements, each found at its place. -/
theorem mem_unitsFrom {start : Nat} {xs : List Json} {entry : ConversationEntry} :
    entry ∈ unitsFrom start xs ↔
      ∃ place v, entry.index = start + place ∧ xs[place]? = some v ∧
        LogUnit.reader.ofJson v = some entry.unit := by
  induction xs generalizing start with
  | nil =>
      constructor
      · intro impossible
        cases impossible
      · rintro ⟨place, v, -, impossible, -⟩
        cases impossible
  | cons x xs inductionHypothesis =>
      constructor
      · intro shown
        unfold unitsFrom at shown
        cases unit : LogUnit.reader.ofJson x with
        | some u =>
            rw [unit] at shown
            rcases List.mem_cons.mp shown with rfl | later
            · exact ⟨0, x, rfl, rfl, unit⟩
            · rcases inductionHypothesis.mp later with ⟨place, v, index, found, reads⟩
              exact ⟨place + 1, v, by omega, found, reads⟩
        | none =>
            rw [unit] at shown
            rcases inductionHypothesis.mp shown with ⟨place, v, index, found, reads⟩
            exact ⟨place + 1, v, by omega, found, reads⟩
      · rintro ⟨place, v, index, found, reads⟩
        unfold unitsFrom
        cases place with
        | zero =>
            cases found
            rw [reads]
            refine List.mem_cons.mpr (Or.inl ?_)
            rcases entry with ⟨i, u⟩
            rw [show i = start from index]
        | succ place =>
            have later : entry ∈ unitsFrom (start + 1) xs :=
              inductionHypothesis.mpr ⟨place, v, by omega, found, reads⟩
            cases LogUnit.reader.ofJson x with
            | some u => exact List.mem_cons_of_mem _ later
            | none => exact later

theorem mem_unitsFrom_zero {xs : List Json} {entry : ConversationEntry} :
    entry ∈ unitsFrom 0 xs ↔
      ∃ v, xs[entry.index]? = some v ∧ LogUnit.reader.ofJson v = some entry.unit := by
  rw [mem_unitsFrom]
  constructor
  · rintro ⟨place, v, index, found, reads⟩
    rw [Nat.zero_add] at index
    rw [index]
    exact ⟨v, found, reads⟩
  · rintro ⟨v, found, reads⟩
    exact ⟨entry.index, v, (Nat.zero_add _).symm, found, reads⟩

theorem pairwise_unitsFrom (start : Nat) (xs : List Json) :
    (unitsFrom start xs).Pairwise fun a b => a.index < b.index := by
  induction xs generalizing start with
  | nil => exact List.Pairwise.nil
  | cons x xs inductionHypothesis =>
      unfold unitsFrom
      cases LogUnit.reader.ofJson x with
      | some u =>
          refine List.pairwise_cons.mpr ⟨?_, inductionHypothesis (start + 1)⟩
          intro later shown
          exact start_le_of_mem_unitsFrom shown
      | none => exact inductionHypothesis (start + 1)

end Snapshot

namespace Conversation

section Entries

variable {doc : Json} {xs ys : List Json} {position : Nat}

theorem add?_entry (held : doc.member? "entries" = some (.arr xs))
    (small : position < Count.limit) (v : Json) :
    doc.add? (Patch.entryPath position) v =
      if position ≤ xs.length then
        some (doc.setMember "entries" (.arr (xs.insertIdx position v)))
      else none := by
  change Json.modify? (Json.addChild? (Count.text position) v) ["entries"] doc = _
  rw [Json.modify?_member held, Json.modify?, Json.addChild?_arr small]
  split <;> rfl

theorem remove?_entry (held : doc.member? "entries" = some (.arr xs))
    (small : position < Count.limit) :
    doc.remove? (Patch.entryPath position) =
      if position < xs.length then some (doc.setMember "entries" (.arr (xs.eraseIdx position)))
      else none := by
  change Json.modify? (Json.removeChild? (Count.text position)) ["entries"] doc = _
  rw [Json.modify?_member held, Json.modify?, Json.removeChild?_arr small]
  split <;> rfl

theorem replace?_entry (held : doc.member? "entries" = some (.arr xs))
    (small : position < Count.limit) (v : Json) :
    doc.replace? (Patch.entryPath position) v =
      if position < xs.length then some (doc.setMember "entries" (.arr (xs.set position v)))
      else none := by
  change Json.modify? _ ["entries", Count.text position] doc = _
  rw [Json.modify?_member held, Json.overwrite_arr small]
  split <;> rfl

theorem applyFrom_of_applied {op : Operation} {after : Json}
    (applied : applyOperation 0 op doc = (after, none)) :
    applyFrom 0 doc [op] = (after, ⟨1, []⟩) := by
  rw [applyFrom, applied]
  rfl

theorem applyFrom_of_reported {op : Operation} {after : Json} {d : Dropped}
    (reported : applyOperation 0 op doc = (after, some d)) :
    applyFrom 0 doc [op] = (after, ⟨0, [d]⟩) := by
  rw [applyFrom, reported]
  rfl

/-- A replacement comes down to the overwriting of a value, or else to an addition
at the same path. -/
theorem applyOperation_replace {path : Pointer} {v : Json}
    (missing : doc.replace? path v = none) :
    applyOperation 0 (.replace path v) doc =
      match doc.add? path v with
      | some after => (after, none)
      | none => (doc, some ⟨0, .replace path v, .noPath, some .noPath⟩) := by
  simp only [applyOperation, Operation.apply, missing, Operation.settle]
  cases doc.add? path v <;> rfl

/-- A change in range is made. -/
theorem applyFrom_of_change? {change : EntryList.Change}
    (held : doc.member? "entries" = some (.arr xs)) (small : position < Count.limit)
    (allowed : EntryList.change? xs position change = some ys) :
    applyFrom 0 doc (change.patch position) =
      (doc.setMember "entries" (.arr ys), ⟨1, []⟩) := by
  cases change with
  | insert v =>
      rw [EntryList.change?, Option.ite_none_right_eq_some] at allowed
      rcases allowed with ⟨within, same⟩
      apply applyFrom_of_applied
      simp only [applyOperation, Operation.apply, add?_entry held small, if_pos within,
        Operation.settle, Option.some.inj same]
  | overwrite v =>
      rw [EntryList.change?] at allowed
      apply applyFrom_of_applied
      by_cases inside : position < xs.length
      · rw [if_pos inside] at allowed
        simp only [applyOperation, Operation.apply, replace?_entry held small, if_pos inside,
          Operation.settle, Option.some.inj allowed]
      · rw [if_neg inside, Option.ite_none_right_eq_some] at allowed
        rcases allowed with ⟨rfl, same⟩
        have missing := replace?_entry held small v
        rw [if_neg inside] at missing
        rw [applyOperation_replace missing, add?_entry held small, if_pos (Nat.le_refl _),
          List.insertIdx_length_self, Option.some.inj same]
  | delete =>
      rw [EntryList.change?, Option.ite_none_right_eq_some] at allowed
      rcases allowed with ⟨inside, same⟩
      apply applyFrom_of_applied
      simp only [applyOperation, Operation.apply, remove?_entry held small, if_pos inside,
        Operation.settle, Option.some.inj same]

/-- A change out of range is reported once, and nothing else happens. -/
theorem applyFrom_of_change?_none {change : EntryList.Change}
    (held : doc.member? "entries" = some (.arr xs)) (small : position < Count.limit)
    (refused : EntryList.change? xs position change = none) :
    ∃ d, applyFrom 0 doc (change.patch position) = (doc, ⟨0, [d]⟩) := by
  cases change with
  | insert v =>
      have outside : ¬ position ≤ xs.length := by
        intro within
        rw [EntryList.change?, if_pos within] at refused
        cases refused
      refine ⟨⟨0, .add (Patch.entryPath position) v, .noPath, none⟩, applyFrom_of_reported ?_⟩
      simp only [applyOperation, Operation.apply, add?_entry held small, if_neg outside,
        Operation.settle]
  | overwrite v =>
      have outside : ¬ position ≤ xs.length := by
        intro within
        rw [EntryList.change?] at refused
        split at refused
        · cases refused
        · rename_i beyond
          rw [if_pos (Nat.le_antisymm within (Nat.not_lt.mp beyond))] at refused
          cases refused
      have missing := replace?_entry held small v
      rw [if_neg fun inside => outside (Nat.le_of_lt inside)] at missing
      refine ⟨⟨0, .replace (Patch.entryPath position) v, .noPath, some .noPath⟩, applyFrom_of_reported ?_⟩
      rw [applyOperation_replace missing, add?_entry held small, if_neg outside]
  | delete =>
      have outside : ¬ position < xs.length := by
        intro inside
        rw [EntryList.change?, if_pos inside] at refused
        cases refused
      refine ⟨⟨0, .remove (Patch.entryPath position), .noPath, none⟩, applyFrom_of_reported ?_⟩
      simp only [applyOperation, Operation.apply, remove?_entry held small, if_neg outside,
        Operation.settle]

end Entries

namespace Lists

variable {c : Conversation} {xs : List Json}

theorem fresh (owner : Option Uuid) : Lists (.fresh owner) [] := ⟨rfl, rfl⟩

/-- One edit does to the conversation what it does to the list. -/
theorem edit (lists : c.Lists xs) (e : Edit) (now : Int) :
    (c.edit e now).1.Lists (EntryList.step xs e.index e.change).1 ∧
      (c.edit e now).2 = (EntryList.step xs e.index e.change).2 := by
  unfold Conversation.edit EntryList.step
  rw [e.patch_eq]
  by_cases negative : e.index < 0
  · rw [if_pos negative, if_pos negative]
    exact ⟨lists, rfl⟩
  · rw [if_neg negative, if_neg negative]
    have small := e.position_lt
    cases changed : EntryList.change? xs e.index.toNat e.change with
    | some ys =>
        have effect := applyFrom_of_change? lists.entries small changed
        have present : (c.document.member? "entries").isSome := by
          rw [lists.entries]
          rfl
        have entries := Json.member?_setMember present (.arr ys)
        simp only [applyBatch, effect]
        refine ⟨⟨entries, ?_⟩, rfl⟩
        rw [if_pos Nat.zero_lt_one, Snapshot.ofDocument, entries]
        rfl
    | none =>
        rcases applyFrom_of_change?_none lists.entries small changed with ⟨d, effect⟩
        simp only [applyBatch, effect]
        exact ⟨⟨lists.entries, lists.shown⟩, rfl⟩

/-- A run of edits does to the conversation what it does to the list. -/
theorem edited (lists : c.Lists xs) (edits : List (Edit × Int)) :
    (c.edited edits).1.Lists (EntryList.run xs (edits.map Prod.fst)).1 ∧
      (c.edited edits).2 = (EntryList.run xs (edits.map Prod.fst)).2 := by
  induction edits generalizing c xs with
  | nil => exact ⟨lists, rfl⟩
  | cons first edits inductionHypothesis =>
      rcases first with ⟨e, now⟩
      have single := lists.edit e now
      have rest := inductionHypothesis single.1
      exact ⟨rest.1, congrArg₂ List.cons single.2 rest.2⟩

end Lists

/-- A fresh conversation that is edited in any way refines a plain list: its
document holds the list of the machine as `entries`, every edit is answered as
the machine answers it, and the snapshot consists of the elements of that list that
are units, in order and with their indices. -/
theorem edited_refines_list (owner : Option Uuid) (edits : List (Edit × Int)) :
    let (c, answers) := (fresh owner).edited edits
    let (xs, expected) := EntryList.run [] (edits.map Prod.fst)
    c.document.member? "entries" = some (.arr xs) ∧ answers = expected ∧
      (∀ entry, entry ∈ c.snapshot.entries ↔
        ∃ v, xs[entry.index]? = some v ∧ LogUnit.reader.ofJson v = some entry.unit) ∧
      c.snapshot.entries.Pairwise fun a b => a.index < b.index := by
  have refined := (Lists.fresh owner).edited edits
  refine ⟨refined.1.entries, refined.2, ?_, ?_⟩
  · intro entry
    rw [refined.1.shown]
    exact Snapshot.mem_unitsFrom_zero
  · rw [refined.1.shown]
    exact Snapshot.pairwise_unitsFrom 0 _

end Conversation

end LiveLog
