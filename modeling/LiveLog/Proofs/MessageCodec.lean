import LiveLog.Proofs.WrittenValues
import Mathlib.Data.List.Nodup

namespace LiveLog

/-!
# Messages in both kinds of frame

A message reaches the log as a text frame, which is one JSON value and has to be told
apart from the stream events, or as a server-sent event, whose name says what its data
is. Either way it comes back as it was, whatever its text and the values of its patch
say, because only the outermost object of a text frame decides what kind of frame it is,
and that object has the name of the message's kind as its one key.

Data of a patch is read from left to right by a reader that wants operations. It finds
no fault with what an operation is written as.
-/

namespace Json

theorem integralItems_iff {xs : List Json} : IntegralItems xs ↔ ∀ x ∈ xs, x.Integral := by
  induction xs with
  | nil => exact ⟨fun _ x listed => absurd listed List.not_mem_nil, fun _ => trivial⟩
  | cons x xs inductionHypothesis =>
      rw [IntegralItems, inductionHypothesis, List.forall_mem_cons]

theorem distinctItems_iff {xs : List Json} : DistinctItems xs ↔ ∀ x ∈ xs, x.Distinct := by
  induction xs with
  | nil => exact ⟨fun _ x listed => absurd listed List.not_mem_nil, fun _ => trivial⟩
  | cons x xs inductionHypothesis =>
      rw [DistinctItems, inductionHypothesis, List.forall_mem_cons]

theorem draftItems_eq_map (xs : List Json) : draftItems xs = xs.map draft := by
  induction xs with
  | nil => rfl
  | cons x xs inductionHypothesis => rw [draftItems, inductionHypothesis, List.map_cons]

end Json

/-! ## Drafts in which a reader finds no fault -/

namespace Tagged

variable {α : Type} {t : Tagged α} {held : Bool}

/-- Members after the tag that can be taken are left to the variant. -/
theorem memberFault_draftMembers {tag : Draft} (others : List (Draft.Key × Draft))
    {ms : List (String × Json)} (untagged : t.tag ∉ Assoc.keys ms)
    (taken : ∀ m ∈ ms, m.2.draft.take = none) :
    t.memberFault held none (some tag) others (Json.draftMembers ms) =
      t.restFault held tag (.obj (others.reverse ++ Json.draftMembers ms) none) := by
  induction ms generalizing others with
  | nil => rw [Json.draftMembers, memberFault, List.append_nil]
  | cons m ms inductionHypothesis =>
      rcases m with ⟨k, x⟩
      rw [Assoc.keys_cons, List.mem_cons, not_or] at untagged
      rcases List.forall_mem_cons.mp taken with ⟨first, rest⟩
      rw [Json.draftMembers, memberFault, if_neg (Ne.symm untagged.1), first, Option.map_none,
        Option.none_or, inductionHypothesis _ untagged.2 rest, List.reverse_cons, List.append_assoc]
      rfl

/-- An object that begins with its tag has no fault if the variant of the tag finds none
in what follows. -/
theorem fault_draft {name : String} {variant : Variant α} {ms : List (String × Json)}
    (named : t.named name = some variant) (untagged : t.tag ∉ Assoc.keys ms)
    (taken : ∀ m ∈ ms, m.2.draft.take = none)
    (fine : variant.fault (.obj (Json.draftMembers ms) none) = none) :
    t.reader.fault held (Json.obj ((t.tag, .str name) :: ms)).draft = none := by
  have tagged : t.tagFault held (.str name) = none := by
    unfold tagFault Draft.scalarFault selectDraft
    simp only [named, Option.isSome_some, if_true]
  change t.memberFault held none none [] ((.name t.tag, .str name) :: Json.draftMembers ms) = none
  rw [memberFault, if_pos rfl, tagged, Option.none_or,
    if_neg (by rw [Option.isSome_none]; exact Bool.false_ne_true),
    memberFault_draftMembers [] untagged taken]
  unfold restFault selectDraft
  simp only [named, List.reverse_nil, List.nil_append, fine, Option.map_none]

end Tagged

namespace Fields

variable {forms : List FieldForm} {held : Bool}

/-- Members that are each of a field of its own have no fault if the fields find none and
no required one is left over. -/
theorem memberFault_draftMembers {ms : List (String × Json)} {seen : List String}
    (each : ∀ m ∈ ms, ∃ form, forms.find? (·.name = m.1) = some form ∧
      form.fault held m.2.draft = none)
    (once : (seen ++ Assoc.keys ms).Nodup)
    (complete : ∀ form ∈ forms, form.presence = .required → form.name ∈ seen ++ Assoc.keys ms) :
    memberFault forms held none seen (Json.draftMembers ms) = none := by
  induction ms generalizing seen with
  | nil =>
      rw [Assoc.keys_nil, List.append_nil] at complete
      rw [Json.draftMembers, memberFault]
      simp only [ite_eq_right_iff, reduceCtorEq, imp_false, List.any_eq_true, decide_eq_true_eq,
        not_exists, not_and, not_not]
      exact complete
  | cons m ms inductionHypothesis =>
      rcases m with ⟨k, x⟩
      rcases List.forall_mem_cons.mp each with ⟨⟨form, found, fine⟩, rest⟩
      rw [Assoc.keys_cons] at once complete
      have new : k ∉ seen := by
        intro old
        exact (List.nodup_append.mp once).2.2 k old k List.mem_cons_self rfl
      rw [Json.draftMembers, memberFault]
      simp only [found, if_neg new, fine, Option.none_or]
      apply inductionHypothesis rest
      · rw [List.cons_append, ← List.nodup_middle]
        exact once
      · intro form listed required
        have named := complete form listed required
        rw [List.cons_append, List.mem_cons]
        rw [List.mem_append, List.mem_cons] at named
        rw [List.mem_append]
        tauto

/-- An object with a member for each of two required fields. -/
theorem draftFault_pair {α β γ : Type} (make : β → γ → α) {r : Reader β} {s : Reader γ}
    (first second : String) {x y : Json} (apart : first ≠ second)
    (fine : r.fault held x.draft = none) (sound : s.fault held y.draft = none) :
    (make <$> required first r <*> required second s).draftFault held
      (.obj (Json.draftMembers [(first, x), (second, y)]) none) = none := by
  have found : [FieldForm.mk first .required r.fault, ⟨second, .required, s.fault⟩].find?
      (·.name = second) = some ⟨second, .required, s.fault⟩ := by
    rw [List.find?_cons_of_neg (by rwa [decide_eq_true_eq])]
    exact List.find?_cons_of_pos (decide_eq_true rfl)
  apply memberFault_draftMembers
  · intro m listed
    rcases List.mem_cons.mp listed with rfl | listed
    · exact ⟨⟨first, .required, r.fault⟩, List.find?_cons_of_pos (decide_eq_true rfl), fine⟩
    · rcases List.mem_singleton.mp listed with rfl
      exact ⟨⟨second, .required, s.fault⟩, found, sound⟩
  · exact List.nodup_cons.mpr ⟨List.mem_singleton.not.mpr apart, List.nodup_singleton second⟩
  · intro form listed _required
    exact List.mem_map_of_mem (f := FieldForm.name) listed

end Fields

namespace Operation

/-! ## Operations and patches -/

/-- Whether the value that an operation carries can be given back exactly: its numbers
are integers of 64 bits, and its lists of members are those of objects, which have each
key once. -/
structure IsLossless (op : Operation) : Prop where
  integral : ∀ v, op.value? = some v → v.Integral
  distinct : ∀ v, op.value? = some v → v.Distinct

theorem IsLossless.integral_toJson {op : Operation} (lossless : op.IsLossless) :
    op.toJson.Integral := by
  have value := lossless.integral
  cases op <;> simp_all [toJson, Json.Integral, Json.IntegralMembers, value?]

theorem IsLossless.distinct_toJson {op : Operation} (lossless : op.IsLossless) :
    op.toJson.Distinct := by
  have value := lossless.distinct
  cases op <;> simp_all [toJson, Json.Distinct, Json.DistinctMembers, value?]

section Faults

variable {held : Bool}

theorem pointerReader_fault (held : Bool) (p : Pointer) :
    pointerReader.fault held (Json.str p.text).draft = none := by
  unfold pointerReader Reader.parsed Draft.scalarFault Json.draft
  simp only [Pointer.ofText?_text, Option.isSome_some, if_true]

theorem jsonReader_fault {value : Json} (taken : value.draft.take = none) :
    Reader.json.fault held value.draft = none := by
  change value.draft.take.map Fault.text = none
  rw [taken, Option.map_none]

theorem valueFields_fault (make : Pointer → Json → Operation) (path : Pointer) {value : Json}
    (taken : value.draft.take = none) : (valueFields make).draftFault held
      (.obj (Json.draftMembers [("path", .str path.text), ("value", value)]) none) = none :=
  Fields.draftFault_pair make "path" "value" (by decide) (pointerReader_fault held path)
    (jsonReader_fault taken)

theorem sourceFields_fault (make : Pointer → Pointer → Operation) (source path : Pointer) :
    (sourceFields make).draftFault held
      (.obj (Json.draftMembers [("from", .str source.text), ("path", .str path.text)]) none) =
        none :=
  Fields.draftFault_pair make "from" "path" (by decide) (pointerReader_fault held source)
    (pointerReader_fault held path)

theorem removeFields_fault (path : Pointer) :
    (remove <$> Fields.required "path" pointerReader).draftFault held
      (.obj (Json.draftMembers [("path", .str path.text)]) none) = none := by
  apply Fields.memberFault_draftMembers
  · intro m listed
    rcases List.mem_singleton.mp listed with rfl
    exact ⟨_, rfl, pointerReader_fault held path⟩
  · exact List.nodup_singleton "path"
  · intro form listed _required
    exact List.mem_map_of_mem (f := FieldForm.name) listed

/-- A draft of an operation has no fault, if the value of the operation can be taken. -/
theorem fault_draft {op : Operation} (readable : ∀ v, op.value? = some v → v.draft.take = none) :
    reader.fault held op.toJson.draft = none := by
  have withValue (path : Pointer) {value : Json} (carried : op.value? = some value) :
      ∀ m ∈ [("path", Json.str path.text), ("value", value)], m.2.draft.take = none :=
    List.forall_mem_cons.mpr ⟨rfl, List.forall_mem_singleton.mpr (readable value carried)⟩
  have withSource (source path : Pointer) :
      ∀ m ∈ [("from", Json.str source.text), ("path", Json.str path.text)],
        m.2.draft.take = none :=
    List.forall_mem_cons.mpr ⟨rfl, List.forall_mem_singleton.mpr rfl⟩
  cases op with
  | add path value =>
      exact Tagged.fault_draft (t := form) rfl (show "op" ∉ ["path", "value"] by decide)
        (withValue path rfl) (valueFields_fault add path (readable value rfl))
  | remove path =>
      exact Tagged.fault_draft (t := form) rfl (show "op" ∉ ["path"] by decide)
        (List.forall_mem_singleton.mpr rfl) (removeFields_fault path)
  | replace path value =>
      exact Tagged.fault_draft (t := form) rfl (show "op" ∉ ["path", "value"] by decide)
        (withValue path rfl) (valueFields_fault replace path (readable value rfl))
  | move source path =>
      exact Tagged.fault_draft (t := form) rfl (show "op" ∉ ["from", "path"] by decide)
        (withSource source path) (sourceFields_fault move source path)
  | copy source path =>
      exact Tagged.fault_draft (t := form) rfl (show "op" ∉ ["from", "path"] by decide)
        (withSource source path) (sourceFields_fault copy source path)
  | test path value =>
      exact Tagged.fault_draft (t := form) rfl (show "op" ∉ ["path", "value"] by decide)
        (withValue path rfl) (valueFields_fault test path (readable value rfl))

end Faults

end Operation

namespace Patch

/-- Whether all values in a patch can be given back exactly. -/
def IsLossless (patch : Patch) : Prop := ∀ op ∈ patch, op.IsLossless

theorem IsLossless.integral_toJson {patch : Patch} (lossless : IsLossless patch) :
    (toJson patch).Integral := by
  change Json.IntegralItems (patch.map Operation.toJson)
  rw [Json.integralItems_iff, List.forall_mem_map]
  exact fun op listed => (lossless op listed).integral_toJson

theorem IsLossless.distinct_toJson {patch : Patch} (lossless : IsLossless patch) :
    (toJson patch).Distinct := by
  change Json.DistinctItems (patch.map Operation.toJson)
  rw [Json.distinctItems_iff, List.forall_mem_map]
  exact fun op listed => (lossless op listed).distinct_toJson

/-- A patch comes back from its compact text. -/
theorem ofText_compact {patch : Patch} (lossless : IsLossless patch)
    (fits : (toJson patch).nesting ≤ Draft.deepest) :
    reader.ofText (toJson patch).compact = .ok patch := by
  have faultless : reader.fault false (toJson patch).draft = none := by
    have items : (patch.map Operation.toJson).map Json.draft =
        Json.draftItems (patch.map Operation.toJson) := (Json.draftItems_eq_map _).symm
    change ((Json.draftItems (patch.map Operation.toJson)).findSome?
      (Operation.reader.fault false)).or none = none
    rw [← items, List.map_map, Option.or_none, List.findSome?_eq_none_iff]
    intro d listed
    rcases List.mem_map.mp listed with ⟨op, member, rfl⟩
    apply Operation.fault_draft
    intro v carried
    exact Draft.take_of_toJson (Json.toJson_draft v ((lossless op member).distinct v carried))
  have filled := Draft.fill_of_toJson (Json.toJson_draft _ lossless.distinct_toJson)
  have value : reader.read false (toJson patch) = some patch := ofJson_toJson patch
  unfold Reader.ofText
  rw [JsonText.read_compact lossless.integral_toJson fits]
  simp only [faultless, filled, value, Bool.false_eq_true, if_false]

end Patch

namespace Message

/-- Whether all values in a message can be given back exactly. Only patches have any. -/
def IsLossless (m : Message) : Prop := ∀ operations, m = .patch operations → Patch.IsLossless operations

/-- How deep the data of a message is nested, where it is JSON. -/
def dataNesting : Message → Nat
  | patch operations => (Patch.toJson operations).nesting
  | _ => 0

theorem IsLossless.integral_toJson {m : Message} (lossless : m.IsLossless) : m.toJson.Integral := by
  cases m with
  | patch operations => exact ⟨(lossless operations rfl).integral_toJson, trivial⟩
  | finished => trivial
  | stdout text | stderr text | sessionId text => exact ⟨trivial, trivial⟩

theorem IsLossless.distinct_toJson {m : Message} (lossless : m.IsLossless) : m.toJson.Distinct := by
  cases m with
  | patch operations =>
      exact ⟨List.nodup_singleton _, (lossless operations rfl).distinct_toJson, trivial⟩
  | finished => trivial
  | stdout text | stderr text | sessionId text =>
      exact ⟨List.nodup_singleton _, trivial, trivial⟩

/-- The JSON of a message has none of the marks of a stream event. -/
theorem unmarked_toJson (m : Message) : m.toJson.member? "finished" = none ∧
    m.toJson.member? "type" = none ∧ StreamEvent.reader.ofJson m.toJson = none := by
  cases m <;> exact ⟨rfl, rfl, rfl⟩

/-- A message reads back from its JSON. -/
theorem ofJson_toJson (m : Message) : ofJson m.toJson = .ok (some m) := by
  have value : reader.ofJson m.toJson = some m := by
    cases m with
    | patch operations =>
        change (Patch.reader.ofJson (Patch.toJson operations)).map patch = _
        rw [Patch.ofJson_toJson, Option.map_some]
    | stdout text | stderr text | sessionId text => rfl
    | finished => rfl
  rcases m.unmarked_toJson with ⟨going, untyped, -⟩
  have typed : ¬ (m.toJson.member? "type").isSome = true := by
    rw [untyped]
    exact Bool.false_ne_true
  unfold ofJson
  rw [going, if_neg (by exact fun same => nomatch same), if_neg typed, value]
  cases m <;> rfl

/-- A message comes back from the name and the data of an event. -/
theorem decode_event {m : Message} (lossless : m.IsLossless)
    (fits : m.dataNesting ≤ Draft.deepest) : decode (.event m.name m.data) = .ok (some m) := by
  cases m with
  | patch operations =>
      have parsed := Patch.ofText_compact (lossless operations rfl) fits
      change ofEvent "json_patch" (Patch.toJson operations).compact = _
      simp [ofEvent, parsed]
  | stdout text | stderr text | sessionId text => rfl
  | finished => rfl

theorem dataNesting_le (m : Message) : m.dataNesting ≤ m.toJson.nesting := by
  cases m with
  | patch operations =>
      exact (Nat.le_max_left _ 0).trans (Nat.le_succ _)
  | stdout text | stderr text | sessionId text => exact Nat.zero_le _
  | finished => exact Nat.zero_le _

/-- Both kinds of frame give a message back. A text frame with the compact JSON of a
message, and a server-sent event with its name and its data, each decode to the message
itself, as long as the JSON in them is not nested too deeply; the data is nested no more
deeply than the text frame. The JSON of the text frame is no stream event. -/
theorem decode_framed {m : Message} (lossless : m.IsLossless) :
    (m.toJson.nesting ≤ Draft.deepest →
      decode (.text m.toJson.compact) = .ok (some m) ∧
        Json.ofText m.toJson.compact = .ok m.toJson ∧
        StreamEvent.reader.ofJson m.toJson = none) ∧
      (m.dataNesting ≤ Draft.deepest → decode (.event m.name m.data) = .ok (some m)) ∧
      m.dataNesting ≤ m.toJson.nesting := by
  refine ⟨?_, decode_event lossless, m.dataNesting_le⟩
  intro fits
  have parsed := Json.ofText_compact lossless.integral_toJson lossless.distinct_toJson fits
  refine ⟨?_, parsed, m.unmarked_toJson.2.2⟩
  change ofText m.toJson.compact = _
  rw [ofText, parsed]
  exact m.ofJson_toJson

/-- A patch whose values look like frames of every other kind, in text with quotes, a
backslash, control characters and signs from beyond the first plane. -/
theorem decode_look_alikes :
    let v : Json := .obj [("finished", .bool true), ("type", .str "append"),
      ("Stdout", .arr [.str "a \"b\" \\ \n\r\t\u0001\u007f 😀", .ofInt (-7), .null, .obj []])]
    let m : Message := .patch [.add ⟨["entries", "0"]⟩ v, .move ⟨["a/b", "~"]⟩ ⟨[""]⟩]
    m.IsLossless ∧ m.toJson.nesting ≤ Draft.deepest ∧ m.dataNesting ≤ Draft.deepest ∧
      decode (.text m.toJson.compact) = .ok (some m) ∧
      decode (.event "json_patch" m.data) = .ok (some m) := by
  intro v m
  have integral : v.Integral := by
    simp [v, Json.Integral, Json.IntegralMembers, Json.IntegralItems, Json.ofInt, Json.isWordInteger]
  have distinct : v.Distinct := by
    simp [v, Json.Distinct, Json.DistinctMembers, Json.DistinctItems, Json.ofInt]
  have lossless : m.IsLossless := by
    intro operations same op listed
    rw [← Message.patch.inj same] at listed
    rcases List.mem_cons.mp listed with rfl | listed
    · exact ⟨fun _ carried => Option.some.inj carried ▸ integral,
        fun _ carried => Option.some.inj carried ▸ distinct⟩
    · rcases List.mem_singleton.mp listed with rfl
      exact ⟨fun _ carried => absurd carried (by simp [Operation.value?]),
        fun _ carried => absurd carried (by simp [Operation.value?])⟩
  have fits : m.toJson.nesting ≤ Draft.deepest := by decide
  have dataFits : m.dataNesting ≤ Draft.deepest := by decide
  rcases decode_framed lossless with ⟨text, event, _inner⟩
  exact ⟨lossless, fits, dataFits, (text fits).1, event dataFits⟩

end Message

end LiveLog
