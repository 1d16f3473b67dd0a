import LiveLog.Proofs.Upserts
import LiveLog.Proofs.UnknownKinds
import LiveLog.Proofs.WrittenEntries

namespace LiveLog

/-!
# The entry that a patch carries

There are two ways to learn which entry a patch writes: look for it in the patch, or
apply the patch and look at the snapshot. The first takes what follows `entries` for a
count in the general grammar, with its leading zeros and its plus sign, and the second
takes it for a position in an array, for a dash, or for the name of a member. Where the
entries are a list, a token that both of them accept is a position, and as a count it is
that position. So where both ways lead to an entry, it is the same entry at the same
index, whether the patch has inserted an item, overwritten one, or put one behind the
last.
-/

namespace Count

/-- A position in an array is the same count in the general grammar. -/
theorem ofText?_of_position? {s : String} {i : Nat} (position : position? s = some i) :
    ofText? s = some i := by
  unfold position? at position
  unfold ofText? ofChars?
  split at position
  · cases position
  · split
    case h_1 cs plus =>
      rw [plus, ofDigits?, Option.ite_none_right_eq_some] at position
      exact absurd position.1.2.1 Bool.false_ne_true
    case h_2 => exact position

/-- A position is read back by the general grammar. -/
theorem ofText?_text {n : Nat} (small : n < limit) : ofText? (text n) = some n :=
  ofText?_of_position? (position?_text small)

end Count

/-! ## What is shown at an index -/

namespace Snapshot

/-- The units that a snapshot shows at an index. -/
def unitsAt (s : Snapshot) (index : Nat) : List LogUnit :=
  (s.entries.filter fun entry => entry.index = index).map ConversationEntry.unit

theorem unitsAt_unitsFrom (start place : Nat) (xs : List Json) :
    ((unitsFrom start xs).filter fun entry => entry.index = start + place).map
        ConversationEntry.unit = (xs[place]?.bind LogUnit.reader.ofJson).toList := by
  induction xs generalizing start place with
  | nil => rfl
  | cons x xs inductionHypothesis =>
      have next := inductionHypothesis (start + 1)
      unfold unitsFrom
      cases place with
      | zero =>
          have later :
              (unitsFrom (start + 1) xs).filter (fun entry => entry.index = start) = [] := by
            rw [List.filter_eq_nil_iff]
            intro entry shown
            have behind := start_le_of_mem_unitsFrom shown
            rw [decide_eq_true_eq]
            omega
          cases read : LogUnit.reader.ofJson x with
          | some unit => simp [later, read]
          | none => simp [later, read]
      | succ place =>
          have same : start + 1 + place = start + (place + 1) := by omega
          rw [← same, List.getElem?_cons_succ, ← next place]
          cases LogUnit.reader.ofJson x with
          | some unit => rw [List.filter_cons_of_neg (by simp; omega)]
          | none => rfl

/-- At an index a snapshot shows the unit that is read from the element there, and
nothing else. -/
theorem unitsAt_ofDocument {document : Json} {xs : List Json}
    (listed : document.member? "entries" = some (.arr xs)) (now : Int) (index : Nat) :
    (ofDocument document now).unitsAt index =
      (xs[index]?.bind LogUnit.reader.ofJson).toList := by
  have units := unitsAt_unitsFrom 0 index xs
  rw [Nat.zero_add] at units
  rw [← units, unitsAt, ofDocument, listed]
  rfl

end Snapshot

/-! ## What is written into a list -/

namespace Json

/-- The entries of a document are a list, and a token names an item of it. -/
def HasItem (doc : Json) (token : String) (v : Json) : Prop :=
  ∃ xs i, doc.member? "entries" = some (.arr xs) ∧ Count.position? token = some i ∧
    xs[i]? = some v

section Items

variable {doc doc' v : Json} {xs ys : List Json} {p : Pointer} {token : String}

theorem hasItem_setMember (listed : doc.member? "entries" = some (.arr xs))
    (found : (Json.arr ys).child? token = some v) :
    (doc.setMember "entries" (.arr ys)).HasItem token v := by
  rcases Option.bind_eq_some_iff.mp found with ⟨i, position, item⟩
  have present : (doc.member? "entries").isSome = true := by rw [listed]; rfl
  exact ⟨ys, i, member?_setMember present _, position, item⟩

/-- An item that is inserted into the entries is there, unless a dash has put it last. -/
theorem hasItem_of_add? (listed : doc.member? "entries" = some (.arr xs))
    (way : p.tokens = ["entries", token]) (named : token ≠ "-")
    (added : doc.add? p v = some doc') : doc'.HasItem token v := by
  rw [add?, way] at added
  change modify? (addChild? token v) ["entries"] doc = some doc' at added
  rw [modify?_member listed, modify?] at added
  rcases Option.map_eq_some_iff.mp added with ⟨w, inserted, rfl⟩
  have found := child?_of_addChild? named inserted
  rw [addChild?, if_neg named] at inserted
  rcases Option.bind_eq_some_iff.mp inserted with ⟨i, position, inRange⟩
  rcases Option.ite_none_right_eq_some.mp inRange with ⟨within, same⟩
  cases same
  exact hasItem_setMember listed found

/-- An item of the entries that is overwritten is there. -/
theorem hasItem_of_replace? (listed : doc.member? "entries" = some (.arr xs))
    (way : p.tokens = ["entries", token]) (replaced : doc.replace? p v = some doc') :
    doc'.HasItem token v := by
  rw [replace?, way, modify?_member listed, modify?_cons] at replaced
  rcases Option.map_eq_some_iff.mp replaced with ⟨w, overwritten, rfl⟩
  rcases Option.bind_eq_some_iff.mp overwritten with ⟨x, old, changed⟩
  rcases Option.map_eq_some_iff.mp changed with ⟨y, new, rfl⟩
  cases new
  have found := (differsAt_setChild old v).child?
  rcases Option.bind_eq_some_iff.mp old with ⟨i, position, -⟩
  simp only [setChild, position] at found ⊢
  exact hasItem_setMember listed found

end Items

end Json

/-! ## What is found in an operation -/

namespace Patch

/-- An operation carries an entry when its path names an index of the entries and its
value is a unit with the entry. -/
structure Carries (op : Operation) (index : Nat) (e : Entry) (token : String) (v : Json) :
    Prop where
  way : op.path.tokens = ["entries", token]
  count : Count.ofText? token = some index
  value : op.value? = some v
  unit : LogUnit.reader.ofJson v = some (.entry e)

theorem Carries.not_dash {op : Operation} {index : Nat} {e : Entry} {token : String} {v : Json}
    (carries : Carries op index e token v) : token ≠ "-" := by
  rintro rfl
  cases carries.count

theorem exists_of_entryIndex? {p : Pointer} {index : Nat} (named : entryIndex? p = some index) :
    ∃ token, p.tokens = ["entries", token] ∧ Count.ofText? token = some index := by
  unfold entryIndex? at named
  split at named
  case h_1 entries token way =>
    rcases Option.ite_none_right_eq_some.mp named with ⟨rfl, count⟩
    exact ⟨token, way, count⟩
  case h_2 => cases named

theorem exists_of_normalizedEntry? {op : Operation} {index : Nat} {e : Entry}
    (found : normalizedEntry? op = some (index, e)) : ∃ token v, Carries op index e token v := by
  rcases Option.bind_eq_some_iff.mp found with ⟨i, named, valued⟩
  rcases Option.bind_eq_some_iff.mp valued with ⟨v, value, typed⟩
  rcases Option.bind_eq_some_iff.mp typed with ⟨t, tagged, worded⟩
  rcases Option.bind_eq_some_iff.mp worded with ⟨tag, text, checked⟩
  rcases Option.ite_none_right_eq_some.mp checked with ⟨rfl, filled⟩
  rcases Option.bind_eq_some_iff.mp filled with ⟨w, content, decoded⟩
  rcases Option.bind_eq_some_iff.mp decoded with ⟨e', read, same⟩
  cases same
  cases Json.text?_eq_some.mp text
  rcases exists_of_entryIndex? named with ⟨token, way, count⟩
  cases v with
  | obj us => exact ⟨token, .obj us, way, count, value, LogUnit.read_entry tagged content read⟩
  | null => cases content
  | bool b => cases content
  | num n => cases content
  | str s => cases content
  | arr xs => cases content

theorem lastEntry?_singleton (op : Operation) : lastEntry? [op] = normalizedEntry? op := by
  unfold lastEntry?
  rw [List.reverse_singleton, List.findSome?_singleton]

/-- In a unit that is written at the path of an index, the entry is found that the
written entry is read as. -/
theorem lastEntry?_unit {op : Operation} {index : Nat} (small : index < Count.limit)
    {e : Entry} (way : op.path = entryPath index)
    (value : op.value? = some (LogUnit.entry e).toJson) :
    lastEntry? [op] = (Entry.reader.ofJson e.toJson).map fun e' => (index, e') := by
  have named : entryIndex? op.path = some index := by
    rw [way]
    exact Count.ofText?_text small
  rw [lastEntry?_singleton]
  unfold normalizedEntry?
  rw [named, value]
  change (Entry.reader.ofJson e.toJson).bind _ = _
  rw [Option.map_eq_bind]
  rfl

end Patch

namespace Conversation

section Single

variable {c : Conversation} {p : Pointer} {v : Json} {op : Operation} {now : Int}

theorem exists_of_clean_add (clean : (c.applyBatch [.add p v] now).2.isClean = true) :
    ∃ doc', c.document.add? p v = some doc' ∧
      (c.applyBatch [.add p v] now).1 = c.holding doc' now := by
  have outcome := applyBatch_add c p v now
  cases added : c.document.add? p v with
  | some doc' =>
      rw [added] at outcome
      exact ⟨doc', rfl, congrArg Prod.fst outcome⟩
  | none =>
      rw [added] at outcome
      rw [outcome] at clean
      cases clean

/-- A success has either added the value or overwritten another one by it. -/
theorem exists_of_clean (sets : op = .add p v ∨ op = .replace p v)
    (clean : (c.applyBatch [op] now).2.isClean = true) :
    ∃ doc', (c.document.add? p v = some doc' ∨ c.document.replace? p v = some doc') ∧
      (c.applyBatch [op] now).1 = c.holding doc' now := by
  rcases sets with rfl | rfl
  · rcases exists_of_clean_add clean with ⟨doc', added, outcome⟩
    exact ⟨doc', Or.inl added, outcome⟩
  · cases replaced : c.document.replace? p v with
    | some doc' =>
        have outcome := applyBatch_replace_of_present replaced now
        exact ⟨doc', Or.inr rfl, congrArg Prod.fst outcome⟩
    | none =>
        have missing := Json.replace?_eq_none.mp replaced
        have attempts := upserts c p v now
        rcases attempts.succeeds.mp clean with found | added
        · rw [missing] at found
          cases found
        · rcases exists_of_clean_add added with ⟨doc', added, outcome⟩
          exact ⟨doc', Or.inl added, (attempts.added missing).trans outcome⟩

/-- The entry that is found in an operation is shown at its index after a success. -/
theorem unitsAt_of_lastEntry? {xs : List Json}
    (listed : c.document.member? "entries" = some (.arr xs))
    (sets : op = .add p v ∨ op = .replace p v) {index : Nat} {e : Entry}
    (found : Patch.lastEntry? [op] = some (index, e))
    (clean : (c.applyBatch [op] now).2.isClean = true) :
    (c.applyBatch [op] now).1.snapshot.unitsAt index = [.entry e] := by
  rw [Patch.lastEntry?_singleton] at found
  rcases Patch.exists_of_normalizedEntry? found with ⟨token, w, carries⟩
  have path : op.path = p := by rcases sets with rfl | rfl <;> rfl
  have value : op.value? = some v := by rcases sets with rfl | rfl <;> rfl
  cases value.symm.trans carries.value
  have way := carries.way
  rw [path] at way
  rcases exists_of_clean sets clean with ⟨doc', written, outcome⟩
  have item : doc'.HasItem token v := by
    rcases written with added | replaced
    · exact Json.hasItem_of_add? listed way carries.not_dash added
    · exact Json.hasItem_of_replace? listed way replaced
  rcases item with ⟨ys, i, listed', position, there⟩
  -- The two readings of the token meet here.
  cases carries.count.symm.trans (Count.ofText?_of_position? position)
  rw [outcome, holding, Snapshot.unitsAt_ofDocument listed', there, Option.bind_some, carries.unit]
  rfl

end Single

/-- The two ways to the entry of a patch agree. What is found in one addition or one
replacement is what a conversation whose entries are a list shows, alone at that index,
after it has applied the operation without a report. And in a patch from a builder the
index is found that it was built for, with the entry that the written entry is read as;
there is such an entry whenever the numbers of the written one are in bounds. -/
theorem extraction_agrees :
    (∀ (c : Conversation) (xs : List Json), c.document.member? "entries" = some (.arr xs) →
      ∀ (p : Pointer) (v : Json) (op : Operation), (op = .add p v ∨ op = .replace p v) →
        ∀ (index : Nat) (e : Entry) (now : Int), Patch.lastEntry? [op] = some (index, e) →
          (c.applyBatch [op] now).2.isClean = true →
          (c.applyBatch [op] now).1.snapshot.unitsAt index = [.entry e]) ∧
    ∀ (index : Fin Count.limit) (e : Entry) (edit : Edit),
      (edit = .addUnit index (.entry e) ∨ edit = .replaceUnit index (.entry e)) →
        ∃ patch, edit.patch = .ok patch ∧
          Patch.lastEntry? patch = (Entry.reader.ofJson e.toJson).map (fun e' => (↑index, e')) ∧
          (e.kind.Fits → (Entry.reader.ofJson e.toJson).isSome = true) := by
  constructor
  · intro c xs listed p v op sets index e now found clean
    exact unitsAt_of_lastEntry? listed sets found clean
  · intro index e edit builds
    have reads : e.kind.Fits → (Entry.reader.ofJson e.toJson).isSome = true := by
      intro fits
      rcases Entry.takes fits false with ⟨e', read⟩
      exact Option.isSome_iff_exists.mpr ⟨e', read⟩
    rcases builds with rfl | rfl
    · have added := Edit.build_eq (Patch.addUnit index (.entry e))
      exact ⟨Patch.addUnit index (.entry e), added, Patch.lastEntry?_unit index.isLt rfl rfl, reads⟩
    · have replaced := Edit.build_eq (Patch.replaceUnit index (.entry e))
      exact ⟨Patch.replaceUnit index (.entry e), replaced,
        Patch.lastEntry?_unit index.isLt rfl rfl, reads⟩

/-- A replacement behind the last item, of a unit with its content first, and an entry
whose metadata are null, which reads as one without metadata. -/
theorem entry_behind_last_is_found :
    let e : Entry := ⟨none, .toolUse "bash" (.commandRun "ls" (some ⟨some (.exitCode (-1)), none⟩))
      .success, "ls", some .null⟩
    let e' : Entry := { e with metadata := none }
    let v := Json.obj [("content", e.toJson), ("type", .str "NORMALIZED_ENTRY")]
    let c : Conversation := ⟨none, .obj [("entries", .arr [.null])], Snapshot.empty⟩
    let op := Operation.replace ⟨["entries", "1"]⟩ v
    c.document.member? "entries" = some (.arr [.null]) ∧
      Patch.lastEntry? [op] = some (1, e') ∧ (c.applyBatch [op] 5).2.isClean = true ∧
      (c.applyBatch [op] 5).1.snapshot.unitsAt 1 = [.entry e'] ∧
      e.kind.Fits ∧ Entry.reader.ofJson e.toJson = some e' ∧
      ∃ patch, (Edit.addUnit ⟨7, by decide⟩ (.entry e)).patch = .ok patch ∧
        Patch.lastEntry? patch = some (7, e') := by
  intro e e' v c op
  have listed : c.document.member? "entries" = some (.arr [.null]) := rfl
  have found : Patch.lastEntry? [op] = some (1, e') := by decide +kernel
  have clean : (c.applyBatch [op] 5).2.isClean = true := by decide +kernel
  have read : Entry.reader.ofJson e.toJson = some e' := by decide +kernel
  have fits : e.kind.Fits := by
    refine ⟨?_, trivial⟩
    rintro result ⟨⟩ status ⟨⟩
    exact ⟨by decide, by decide⟩
  rcases extraction_agrees with ⟨shown, built⟩
  rcases built ⟨7, by decide⟩ e _ (Or.inl rfl) with ⟨patch, made, extracted, -⟩
  rw [read] at extracted
  exact ⟨listed, found, clean, shown c _ listed _ v op (Or.inr rfl) 1 e' 5 found clean, fits, read,
    patch, made, extracted⟩

end Conversation

end LiveLog
