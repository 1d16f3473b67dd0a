import LiveLog.Proofs.Upserts
import LiveLog.Proofs.ValueDrafts

namespace LiveLog

/-!
# Patches of one field

A top-level field is set by a replacement whose path is a slash and the escaped name of
the field. The name is escaped in two passes over its text: every tilde becomes `~0`,
and then every slash becomes `~1`. The order matters, since the second pass brings in
tildes of its own. Whoever reads the path undoes both at once, so any string is the name
of a field: the empty one, one with a number sign in front, one that looks escaped
already.

The document decides whether the replacement overwrites a member or adds one. Either
way `Json.SetsMember` holds: a member that is there keeps its place, a new one goes last,
and the other members stay as they are.
-/

namespace Pointer

/-- A text with a text in place of every occurrence of a character. -/
def substitute (c : Char) (text : List Char) (cs : List Char) : List Char :=
  cs.flatMap fun d => if d = c then text else [d]

/-- The path of a top-level field, from its name in two passes. -/
def fieldText (field : String) : String :=
  String.ofList
    ('/' :: substitute '/' ['~', '1'] (substitute '~' ['~', '0'] field.toList))

/-- One pass over a token does what the two passes do. -/
theorem escape_eq_substitute (cs : List Char) :
    escape cs = substitute '/' ['~', '1'] (substitute '~' ['~', '0'] cs) := by
  induction cs with
  | nil => rfl
  | cons c cs inductionHypothesis =>
      unfold substitute at inductionHypothesis ⊢
      rw [List.flatMap_cons, List.flatMap_append, ← inductionHypothesis, escape]
      by_cases tilde : c = '~'
      · rw [if_pos tilde, if_pos tilde]
        rfl
      · rw [if_neg tilde, if_neg tilde, List.flatMap_singleton]
        by_cases slash : c = '/'
        · rw [if_pos slash, if_pos slash]
          rfl
        · rw [if_neg slash, if_neg slash]
          rfl

theorem text_fieldPath (field : String) : (Patch.fieldPath field).text = fieldText field := by
  change String.ofList ([field].flatMap fun t => '/' :: escape t.toList) = _
  rw [List.flatMap_singleton, escape_eq_substitute]
  rfl

/-- In the other order a slash would not come back. -/
example : scan [] (substitute '~' ['~', '0'] (substitute '/' ['~', '1'] ['/'])) = some ["~1"] ∧
    ofText? (fieldText "~1/~01") = some ⟨["~1/~01"]⟩ := by decide +kernel

end Pointer

namespace Json

/-- The members of an object with one of them set: where there is a member with the key,
its value alone is another one, and else there is one more member behind all others. -/
inductive SetsMember (k : String) (v : Json) :
    List (String × Json) → List (String × Json) → Prop
  | present (before after : List (String × Json)) (x : Json) (first : k ∉ Assoc.keys before) :
      SetsMember k v (before ++ (k, x) :: after) (before ++ (k, v) :: after)
  | absent {ms : List (String × Json)} (new : k ∉ Assoc.keys ms) :
      SetsMember k v ms (ms ++ [(k, v)])

/-- What setting a key does to the members, whether the key is there or not. -/
theorem setsMember_set (k : String) (v : Json) (ms : List (String × Json)) :
    SetsMember k v ms (Assoc.set k v ms) := by
  cases found : ms.lookup k with
  | some x =>
      rcases Assoc.split_of_lookup found with ⟨before, after, rfl, first⟩
      rw [Assoc.set_append_cons first]
      exact SetsMember.present before after x first
  | none =>
      have new : k ∉ Assoc.keys ms := by
        intro present
        rcases List.mem_map.mp present with ⟨m, listed, same⟩
        have other := List.lookup_eq_none_iff.mp found m listed
        exact bne_iff_ne.mp other same.symm
      rw [Assoc.set_of_not_mem v new]
      exact SetsMember.absent new

end Json

namespace Conversation

/-- A replacement of a field of an object sets the member, whether it overwrites the
field or adds it. -/
theorem applyBatch_replaceField {c : Conversation} {ms : List (String × Json)}
    (object : c.document = .obj ms) (field : String) (v : Json) (now : Int) :
    c.applyBatch (Patch.replaceField field v) now =
      (c.holding (.obj (Assoc.set field v ms)) now, ⟨1, []⟩) := by
  have overwriting : c.document.replace? (Patch.fieldPath field) v =
      (ms.lookup field).map fun _ => .obj (Assoc.set field v ms) := by
    change Json.modify? _ [field] c.document = _
    rw [object, Json.modify?_cons]
    exact Option.map_eq_bind.symm
  cases found : ms.lookup field with
  | some x =>
      rw [found, Option.map_some] at overwriting
      exact applyBatch_replace_of_present overwriting now
  | none =>
      rw [found, Option.map_none] at overwriting
      have addition : c.document.add? (Patch.fieldPath field) v =
          some (.obj (Assoc.set field v ms)) := by
        rw [object]
        rfl
      have outcome := applyBatch_replace_of_missing overwriting now
      rw [addition] at outcome
      exact outcome

/-- Whatever the name of a field and the value for it, there is a patch that sets the
field: the replacement at the path with the escaped name is read as one, it is the one
that is handed out, and in a conversation whose document is an object it is applied
without a report and leaves the same object with that one member set. -/
theorem field_patch_sets_member {c : Conversation} {ms : List (String × Json)}
    (object : c.document = .obj ms) (field : String) (v : Json) (now : Int) :
    ∃ patch ms',
      Patch.reader.ofJson (.arr [.obj [("op", .str "replace"),
        ("path", .str (Pointer.fieldText field)), ("value", v)]]) = some patch ∧
      Edit.build (Patch.replaceField field v) = .ok patch ∧
      (c.applyBatch patch now).2.isClean = true ∧
      (c.applyBatch patch now).1.document = .obj ms' ∧ Json.SetsMember field v ms ms' := by
  have outcome := applyBatch_replaceField object field v now
  have read := Patch.ofJson_toJson (Patch.replaceField field v)
  refine ⟨Patch.replaceField field v, Assoc.set field v ms, ?_, Edit.build_eq _, ?_, ?_,
    Json.setsMember_set field v ms⟩
  · rw [← Pointer.text_fieldPath]
    exact read
  · rw [outcome]
    rfl
  · rw [outcome]
    rfl

/-- A field whose name looks escaped is set where there is one, and the field whose name
its path seems to spell stays. -/
theorem escaped_look_alike_set :
    let ms : List (String × Json) :=
      [("/", .null), ("~1", .bool false), ("#/~01", .null), ("", .arr [])]
    let c : Conversation := ⟨none, .obj ms, Snapshot.empty⟩
    c.document = .obj ms ∧ Pointer.fieldText "~1" = "/~01" ∧
      ∃ patch ms',
        Patch.reader.ofJson (.arr [.obj [("op", .str "replace"), ("path", .str "/~01"),
          ("value", .bool true)]]) = some patch ∧
        Edit.build (Patch.replaceField "~1" (.bool true)) = .ok patch ∧
        (c.applyBatch patch 7).2.isClean = true ∧
        (c.applyBatch patch 7).1.document = .obj ms' ∧
        Json.SetsMember "~1" (.bool true) ms ms' := by
  intro ms c
  have path : Pointer.fieldText "~1" = "/~01" := by decide +kernel
  have object : c.document = .obj ms := rfl
  have sets := field_patch_sets_member object "~1" (.bool true) 7
  rw [path] at sets
  exact ⟨object, path, sets⟩

end Conversation

end LiveLog
