import LiveLog.Proofs.Publication

namespace LiveLog

/-!
# Kinds that a reader does not know

An entry of a newer kind is still an entry. Where one part of an entry is exchanged for
an object whose tag is not known, be it the kind, or the action or the status of a tool,
or the cause of an error, the entry reads as before except that this part is unknown.
Nothing is asked of the other members of the object: an alternative without fields
ignores them.

Three facts carry this. A field looks at one member of a record, so that the other
fields read what they have read. Which alternative a union takes depends on its tag
alone. And a value that is held back because its tag comes later reads as it would have
read in its place, so that the order of the members of a unit does not matter.
-/

/-! ## Fields that look at one member -/

namespace Fields

variable {α : Type}

/-- What is read depends on the member of one name. -/
def LooksAt (fs : Fields α) (name : String) : Prop :=
  ∀ held get get', get name = get' name → fs.read held get = fs.read held get'

theorem looksAt_required (name : String) (r : Reader α) : (required name r).LooksAt name := by
  intro held get get' same
  simp only [required, same]

theorem looksAt_optional (name : String) (r : Reader α) : (optional name r).LooksAt name := by
  intro held get get' same
  simp only [optional, same]

theorem looksAt_defaulted (name : String) (default : α) (r : Reader α) :
    (defaulted name default r).LooksAt name := by
  intro held get get' same
  simp only [defaulted, same]

/-- A member of another name may be set. -/
theorem LooksAt.set {fs : Fields α} {name k : String} (looks : fs.LooksAt name) (other : name ≠ k)
    (u : Json) (ms : List (String × Json)) (held : Bool) :
    (fs.read held fun n => (Assoc.set k u ms).lookup n) = fs.read held fun n => ms.lookup n :=
  looks held _ _ (Assoc.lookup_set_of_ne other u ms)

end Fields

/-! ## Tags that are not known -/

namespace Tagged

variable {α : Type} {t : Tagged α}

/-- An object whose tag is a string that names no alternative, or none but the one that
unknown tags stand for. Its other members may be anything. -/
def Foreign (t : Tagged α) (x : α) (u : Json) : Prop :=
  ∃ us name, u = .obj us ∧ us.lookup t.tag = some (.str name) ∧
    ∀ variant, (name, variant) ∈ t.variants → variant = .unit x

theorem read_foreign {x : α} (fallback : t.fallback = some x) {u : Json} (foreign : t.Foreign x u)
    (held : Bool) : t.reader.read held u = some x := by
  rcases foreign with ⟨us, name, rfl, tagged, unknown⟩
  have selected : t.select held (.str name) = some (.unit x) := by
    change (t.variants.lookup name).or (t.fallback.map .unit) = _
    cases known : t.variants.lookup name with
    | some variant => rw [Option.some_or, unknown variant (Assoc.mem_of_lookup known)]
    | none => rw [Option.none_or, fallback, Option.map_some]
  refine Option.bind_eq_some_iff.mpr ⟨.str name, tagged, ?_⟩
  exact Option.bind_eq_some_iff.mpr ⟨.unit x, selected, rfl⟩

/-- An object is read by the alternative that its tag selects. -/
theorem value_obj_eq_some {held : Bool} {ms : List (String × Json)} {x : α} :
    t.reader.read held (.obj ms) = some x ↔
      ∃ tag variant, ms.lookup t.tag = some tag ∧ t.select held tag = some variant ∧
        variant.read (.obj ms) = some x := by
  constructor
  · intro read
    rcases Option.bind_eq_some_iff.mp read with ⟨tag, tagged, rest⟩
    rcases Option.bind_eq_some_iff.mp rest with ⟨variant, selected, found⟩
    exact ⟨tag, variant, tagged, selected, found⟩
  · rintro ⟨tag, variant, tagged, selected, found⟩
    refine Option.bind_eq_some_iff.mpr ⟨tag, tagged, ?_⟩
    exact Option.bind_eq_some_iff.mpr ⟨variant, selected, found⟩

/-- What a tag selects in its place, it selects where it is held back. -/
theorem select_held {tag : Json} {variant : Variant α}
    (selected : t.select false tag = some variant) (held : Bool) :
    t.select held tag = some variant := by
  unfold select at selected ⊢
  split at selected
  · exact selected
  · rw [Option.ite_none_right_eq_some] at selected
    exact absurd selected.1.1 Bool.false_ne_true
  · cases selected

/-- What a union reads in its place, it reads where it is held back. -/
theorem read_held {v : Json} {x : α} (read : t.reader.read false v = some x) (held : Bool) :
    t.reader.read held v = some x := by
  cases v with
  | obj ms =>
      rcases value_obj_eq_some.mp read with ⟨tag, variant, tagged, selected, found⟩
      exact value_obj_eq_some.mpr ⟨tag, variant, tagged, select_held selected held, found⟩
  | arr xs =>
      cases xs with
      | nil => cases read
      | cons tag rest =>
          rcases Option.bind_eq_some_iff.mp read with ⟨variant, selected, found⟩
          exact Option.bind_eq_some_iff.mpr ⟨variant, select_held selected held, found⟩
  | null => cases read
  | bool b => cases read
  | num n => cases read
  | str s => cases read

end Tagged

/-! ## The parts of a kind -/

namespace EntryKind

/-- The members of a tool use. -/
def toolFields : Fields EntryKind :=
  toolUse <$> Fields.required "tool_name" .string <*> Fields.required "action_type" Action.reader
    <*> Fields.defaulted "status" .created ToolStatus.reader

/-- The members of an error. -/
def errorFields : Fields EntryKind :=
  errorMessage <$> Fields.required "error_type" ErrorCause.reader

/-- Whether a kind has no part that is a union. -/
def isPlain : EntryKind → Bool
  | toolUse .. | errorMessage .. => false
  | _ => true

/-- Of the alternatives two have parts that are unions. -/
theorem select_cases {held : Bool} {tag : Json} {variant : Variant EntryKind}
    (selected : form.select held tag = some variant) :
    variant = .fields toolFields ∨ variant = .fields errorFields ∨
      ∀ v kind, variant.read v = some kind → kind.isPlain = true := by
  have plain {x : EntryKind} (isPlain : x.isPlain = true) (same : variant = .unit x) :
      ∀ v kind, variant.read v = some kind → kind.isPlain = true := by
    rintro v kind read
    rw [same] at read
    rw [Variant.eq_of_unit read, isPlain]
  rcases Tagged.select_eq_some selected with ⟨name, listed⟩ | ⟨x, unknown, same⟩
  · simp only [form, List.mem_cons, List.not_mem_nil, or_false, Prod.mk.injEq] at listed
    rcases listed with ⟨-, same⟩ | ⟨-, same⟩ | ⟨-, same⟩ | ⟨-, same⟩ | ⟨-, same⟩ | ⟨-, same⟩ |
      ⟨-, same⟩ | ⟨-, same⟩ | ⟨-, same⟩
    case inr.inl =>
      refine Or.inr (Or.inr ?_)
      intro v kind read
      rw [same] at read
      rcases Option.bind_eq_some_iff.mp read with ⟨ms, -, found⟩
      rcases Fields.map_eq_some.mp found with ⟨deniedTool, -, rfl⟩
      rfl
    case inr.inr.inr.inl => exact Or.inl same
    case inr.inr.inr.inr.inr.inl => exact Or.inr (Or.inl same)
    all_goals exact Or.inr (Or.inr (plain rfl same))
  · cases unknown
    exact Or.inr (Or.inr (plain rfl same))

section Parts

variable {held : Bool} {ks : List (String × Json)} {toolName : String} {action : Action}
  {status : ToolStatus} {cause : ErrorCause} {u : Json}

theorem toolFields_eq_some {get : String → Option Json} :
    toolFields.read held get = some (.toolUse toolName action status) ↔
      (Fields.required "tool_name" .string).read held get = some toolName ∧
        (Fields.required "action_type" Action.reader).read held get = some action ∧
        (Fields.defaulted "status" .created ToolStatus.reader).read held get = some status := by
  constructor
  · intro read
    rcases Fields.seq_eq_some.mp read with ⟨_, status', two, last, whole⟩
    rcases Fields.seq_eq_some.mp two with ⟨_, action', one, middle, rfl⟩
    rcases Fields.map_eq_some.mp one with ⟨toolName', first, rfl⟩
    cases whole
    exact ⟨first, middle, last⟩
  · rintro ⟨first, middle, last⟩
    have one := Fields.map_eq_some (f := toolUse).mpr ⟨toolName, first, rfl⟩
    have two := Fields.seq_eq_some.mpr ⟨_, action, one, middle, rfl⟩
    exact Fields.seq_eq_some.mpr ⟨_, status, two, last, rfl⟩

/-- A tool use is read from the members of a tool use. -/
theorem exists_of_toolUse
    (read : reader.read held (.obj ks) = some (.toolUse toolName action status)) :
    ∃ tag, ks.lookup "type" = some tag ∧ form.select held tag = some (.fields toolFields) ∧
      (toolFields.read true fun n => ks.lookup n) = some (.toolUse toolName action status) := by
  rcases Tagged.value_obj_eq_some.mp read with ⟨tag, variant, tagged, selected, found⟩
  rcases select_cases selected with rfl | rfl | plain
  · exact ⟨tag, tagged, selected, found⟩
  · rcases Fields.map_eq_some.mp found with ⟨cause, -, impossible⟩
    cases impossible
  · cases plain _ _ found

/-- An error is read from the member of an error. -/
theorem exists_of_errorMessage (read : reader.read held (.obj ks) = some (.errorMessage cause)) :
    ∃ tag, ks.lookup "type" = some tag ∧ form.select held tag = some (.fields errorFields) := by
  rcases Tagged.value_obj_eq_some.mp read with ⟨tag, variant, tagged, selected, found⟩
  rcases select_cases selected with rfl | rfl | plain
  · rcases Fields.seq_eq_some.mp found with ⟨_, status, two, -, whole⟩
    rcases Fields.seq_eq_some.mp two with ⟨_, action, one, -, rfl⟩
    rcases Fields.map_eq_some.mp one with ⟨toolName, -, rfl⟩
    cases whole
  · exact ⟨tag, tagged, selected⟩
  · cases plain _ _ found

/-- A member beside the tag is set, and the alternative is the one that it was. -/
theorem read_set {k : String} (other : "type" ≠ k) {tag : Json} {fs : Fields EntryKind}
    (tagged : ks.lookup "type" = some tag) (selected : form.select held tag = some (.fields fs))
    {kind : EntryKind} (found : (fs.read true fun n => (Assoc.set k u ks).lookup n) = some kind) :
    reader.read held (.obj (Assoc.set k u ks)) = some kind :=
  Tagged.value_obj_eq_some.mpr
    ⟨tag, .fields fs, (Assoc.lookup_set_of_ne other u ks).trans tagged, selected, found⟩

theorem read_set_action
    (read : reader.read held (.obj ks) = some (.toolUse toolName action status)) {new : Action}
    (part : Action.reader.read true u = some new) :
    reader.read held (.obj (Assoc.set "action_type" u ks)) =
      some (.toolUse toolName new status) := by
  rcases exists_of_toolUse read with ⟨tag, tagged, selected, found⟩
  rcases toolFields_eq_some.mp found with ⟨first, middle, last⟩
  refine read_set (by decide) tagged selected (toolFields_eq_some.mpr ⟨?_, ?_, ?_⟩)
  · rw [(Fields.looksAt_required "tool_name" _).set (by decide), first]
  · exact Option.bind_eq_some_iff.mpr ⟨u, Assoc.lookup_set_self _ _ _, part⟩
  · rw [(Fields.looksAt_defaulted "status" _ _).set (by decide), last]

theorem read_set_status
    (read : reader.read held (.obj ks) = some (.toolUse toolName action status)) {new : ToolStatus}
    (part : ToolStatus.reader.read true u = some new) :
    reader.read held (.obj (Assoc.set "status" u ks)) = some (.toolUse toolName action new) := by
  rcases exists_of_toolUse read with ⟨tag, tagged, selected, found⟩
  rcases toolFields_eq_some.mp found with ⟨first, middle, last⟩
  refine read_set (by decide) tagged selected (toolFields_eq_some.mpr ⟨?_, ?_, ?_⟩)
  · rw [(Fields.looksAt_required "tool_name" _).set (by decide), first]
  · rw [(Fields.looksAt_required "action_type" _).set (by decide), middle]
  · unfold Fields.defaulted
    dsimp only
    rw [Assoc.lookup_set_self]
    exact part

theorem read_set_cause (read : reader.read held (.obj ks) = some (.errorMessage cause))
    {new : ErrorCause} (part : ErrorCause.reader.read true u = some new) :
    reader.read held (.obj (Assoc.set "error_type" u ks)) = some (.errorMessage new) := by
  rcases exists_of_errorMessage read with ⟨tag, tagged, selected⟩
  refine read_set (by decide) tagged selected (Fields.map_eq_some.mpr ⟨new, ?_, rfl⟩)
  exact Option.bind_eq_some_iff.mpr ⟨u, Assoc.lookup_set_self _ _ _, part⟩

end Parts

end EntryKind

/-! ## The parts of an entry -/

namespace Entry

/-- What the fields of an entry read. -/
structure Reads (held : Bool) (get : String → Option Json) (e : Entry) : Prop where
  timestamp : (Fields.optional "timestamp" Reader.string).read held get = some e.timestamp
  kind : (Fields.required "entry_type" EntryKind.reader).read held get = some e.kind
  content : (Fields.required "content" .string).read held get = some e.content
  metadata : (Fields.optional "metadata" .json).read held get = some e.metadata

/-- The members of an entry. -/
def fields : Fields Entry :=
  Entry.mk <$> Fields.optional "timestamp" .string <*> Fields.required "entry_type" EntryKind.reader
    <*> Fields.required "content" .string <*> Fields.optional "metadata" .json

variable {held : Bool} {get : String → Option Json} {e : Entry}

theorem fields_eq_some : fields.read held get = some e ↔ Reads held get e := by
  constructor
  · intro read
    rcases Fields.seq_eq_some.mp read with ⟨_, metadata, three, fourth, rfl⟩
    rcases Fields.seq_eq_some.mp three with ⟨_, content, two, third, rfl⟩
    rcases Fields.seq_eq_some.mp two with ⟨_, kind, one, second, rfl⟩
    rcases Fields.map_eq_some.mp one with ⟨timestamp, first, rfl⟩
    exact ⟨first, second, third, fourth⟩
  · intro reads
    have one := Fields.map_eq_some (f := Entry.mk).mpr ⟨e.timestamp, reads.timestamp, rfl⟩
    have two := Fields.seq_eq_some.mpr ⟨_, e.kind, one, reads.kind, rfl⟩
    have three := Fields.seq_eq_some.mpr ⟨_, e.content, two, reads.content, rfl⟩
    exact Fields.seq_eq_some.mpr ⟨_, e.metadata, three, reads.metadata, rfl⟩

/-- What an entry reads in its place, it reads where it is held back. -/
theorem read_held {v : Json} (read : reader.ofJson v = some e) (held : Bool) :
    reader.read held v = some e := by
  rcases Option.bind_eq_some_iff.mp read with ⟨ms, present, found⟩
  have reads := fields_eq_some.mp found
  refine Option.bind_eq_some_iff.mpr ⟨ms, present, fields_eq_some.mpr ?_⟩
  rcases Option.bind_eq_some_iff.mp reads.kind with ⟨u, given, kind⟩
  exact ⟨reads.timestamp, Option.bind_eq_some_iff.mpr ⟨u, given, Tagged.read_held kind held⟩,
    reads.content, reads.metadata⟩

/-- An entry with its kind exchanged. -/
theorem read_set_kind {ms : List (String × Json)} (read : reader.read held (.obj ms) = some e)
    {u : Json} {new : EntryKind} (part : EntryKind.reader.read held u = some new) :
    reader.read held (.obj (Assoc.set "entry_type" u ms)) = some { e with kind := new } := by
  have reads := fields_eq_some.mp (show (fields.read held fun n => ms.lookup n) = some e from read)
  apply fields_eq_some.mpr
  constructor
  case timestamp => rw [(Fields.looksAt_optional "timestamp" _).set (by decide), reads.timestamp]
  case kind => exact Option.bind_eq_some_iff.mpr ⟨u, Assoc.lookup_set_self _ _ _, part⟩
  case content => rw [(Fields.looksAt_required "content" _).set (by decide), reads.content]
  case metadata => rw [(Fields.looksAt_optional "metadata" _).set (by decide), reads.metadata]

theorem read_kind {ms ks : List (String × Json)} (read : reader.read held (.obj ms) = some e)
    (written : ms.lookup "entry_type" = some (.obj ks)) :
    EntryKind.reader.read held (.obj ks) = some e.kind := by
  have reads := fields_eq_some.mp (show (fields.read held fun n => ms.lookup n) = some e from read)
  rcases Option.bind_eq_some_iff.mp reads.kind with ⟨u, given, kind⟩
  cases written.symm.trans given
  exact kind

/-- The members of an entry with one part exchanged for an object of a foreign kind, and
the entry with this part unknown. -/
inductive Renewed (ms : List (String × Json)) (e : Entry) : List (String × Json) → Entry → Prop
  | kind {u : Json} (foreign : EntryKind.form.Foreign .unknown u) :
      Renewed ms e (Assoc.set "entry_type" u ms) { e with kind := .unknown }
  | action {ks : List (String × Json)} {u : Json} {toolName : String} {action : Action}
      {status : ToolStatus} (written : ms.lookup "entry_type" = some (.obj ks))
      (tool : e.kind = .toolUse toolName action status)
      (foreign : Action.form.Foreign .unknown u) :
      Renewed ms e (Assoc.set "entry_type" (.obj (Assoc.set "action_type" u ks)) ms)
        { e with kind := .toolUse toolName .unknown status }
  | status {ks : List (String × Json)} {u : Json} {toolName : String} {action : Action}
      {status : ToolStatus} (written : ms.lookup "entry_type" = some (.obj ks))
      (tool : e.kind = .toolUse toolName action status)
      (foreign : ToolStatus.form.Foreign .unknown u) :
      Renewed ms e (Assoc.set "entry_type" (.obj (Assoc.set "status" u ks)) ms)
        { e with kind := .toolUse toolName action .unknown }
  | cause {ks : List (String × Json)} {u : Json} {cause : ErrorCause}
      (written : ms.lookup "entry_type" = some (.obj ks)) (error : e.kind = .errorMessage cause)
      (foreign : ErrorCause.form.Foreign .other u) :
      Renewed ms e (Assoc.set "entry_type" (.obj (Assoc.set "error_type" u ks)) ms)
        { e with kind := .errorMessage .other }

/-- The entry with the unknown part is what is read of the exchanged members. -/
theorem Renewed.read {ms ns : List (String × Json)} {f : Entry}
    (read : reader.read held (.obj ms) = some e) (renewed : Renewed ms e ns f) :
    reader.read held (.obj ns) = some f := by
  cases renewed with
  | kind foreign => exact read_set_kind read (Tagged.read_foreign rfl foreign held)
  | action written tool foreign =>
      have kind := read_kind read written
      rw [tool] at kind
      exact read_set_kind read
        (EntryKind.read_set_action kind (Tagged.read_foreign rfl foreign true))
  | status written tool foreign =>
      have kind := read_kind read written
      rw [tool] at kind
      exact read_set_kind read
        (EntryKind.read_set_status kind (Tagged.read_foreign rfl foreign true))
  | cause written error foreign =>
      have kind := read_kind read written
      rw [error] at kind
      exact read_set_kind read
        (EntryKind.read_set_cause kind (Tagged.read_foreign rfl foreign true))

end Entry

/-- A unit reads the entry in its content, in whatever order it has its members. -/
theorem LogUnit.read_entry {us : List (String × Json)} {v : Json} {e : Entry}
    (tagged : us.lookup "type" = some (.str "NORMALIZED_ENTRY"))
    (content : us.lookup "content" = some v) (read : Entry.reader.ofJson v = some e) :
    reader.ofJson (.obj us) = some (.entry e) := by
  refine Option.bind_eq_some_iff.mpr ⟨_, tagged, ?_⟩
  refine Option.bind_eq_some_iff.mpr ⟨Entry.reader.map entry, rfl, ?_⟩
  refine Option.bind_eq_some_iff.mpr ⟨v, content, ?_⟩
  exact Option.map_eq_some_iff.mpr ⟨e, Entry.read_held read _, rfl⟩

namespace Conversation

/-- Wherever a conversation has an element among its entries, it shows a unit at that
index. -/
def Exhibits (c : Conversation) (v : Json) (unit : LogUnit) : Prop :=
  ∀ xs i, c.document.member? "entries" = some (.arr xs) → xs[i]? = some v →
    ⟨i, unit⟩ ∈ c.snapshot.entries

theorem exhibits_of_describes {c : Conversation} (describes : c.snapshot.Describes c.document)
    {v : Json} {unit : LogUnit} (read : LogUnit.reader.ofJson v = some unit) :
    c.Exhibits v unit := by
  intro xs i held place
  exact (describes.entries ⟨i, unit⟩).mpr ⟨xs, v, held, place, read⟩

/-- An entry of which one part is of a kind that is not known reads as the entry with
this part unknown. As an element of a conversation it is shown as that entry, by every
snapshot when it is published, and throughout a run in which no value is moved. -/
theorem unknown_kinds_keep_entries {ms ns : List (String × Json)} {e f : Entry}
    (read : Entry.reader.ofJson (.obj ms) = some e) (renewed : Entry.Renewed ms e ns f) :
    Entry.reader.ofJson (.obj ns) = some f ∧
      ∀ us, us.lookup "type" = some (.str "NORMALIZED_ENTRY") →
        us.lookup "content" = some (.obj ns) →
        (∀ (c : Conversation) (patch : Patch) (now : Int),
          0 < (c.applyBatch patch now).2.applied →
            (c.applyBatch patch now).1.Exhibits (.obj us) (.entry f)) ∧
        ∀ owner (actions : List Action), (∀ action ∈ actions, action.isPlain = true) →
          ((fresh owner).run actions).Exhibits (.obj us) (.entry f) := by
  have reads := renewed.read read
  refine ⟨reads, ?_⟩
  intro us tagged content
  have unit := LogUnit.read_entry tagged content reads
  constructor
  · intro c patch now applied
    have snapshot : (c.applyBatch patch now).1.snapshot =
        Snapshot.ofDocument (c.applyBatch patch now).1.document now := if_pos applied
    apply exhibits_of_describes _ unit
    rw [snapshot]
    exact Snapshot.describes_ofDocument _ now
  · intro owner actions plain
    exact exhibits_of_describes ((Current.fresh owner).run plain).describes unit

/-- A search that has become a teleportation, in a unit whose content comes first. -/
theorem teleportation_is_shown :
    let tool (action : Json) : List (String × Json) := [("type", .str "tool_use"),
      ("tool_name", .str "mystery"), ("action_type", action),
      ("status", .obj [("status", .str "success")])]
    let ms : List (String × Json) := [("content", .str "mars"),
      ("entry_type", .obj (tool (.obj [("action", .str "search"), ("query", .str "mars")])))]
    let u := Json.obj [("target", .arr [.str "mars"]), ("query", .null),
      ("action", .str "teleport")]
    let ns : List (String × Json) := [("content", .str "mars"), ("entry_type", .obj (tool u))]
    let e : Entry := ⟨none, .toolUse "mystery" (.search "mars") .success, "mars", none⟩
    let f : Entry := ⟨none, .toolUse "mystery" .unknown .success, "mars", none⟩
    let element := Json.obj [("content", .obj ns), ("type", .str "NORMALIZED_ENTRY")]
    let c := ((fresh none).applyBatch (Patch.addValue 0 element) 5).1
    Entry.reader.ofJson (.obj ms) = some e ∧ Entry.Renewed ms e ns f ∧
      Entry.reader.ofJson (.obj ns) = some f ∧ ⟨0, .entry f⟩ ∈ c.snapshot.entries := by
  intro tool ms u ns e f element c
  have read : Entry.reader.ofJson (.obj ms) = some e := by decide +kernel
  have renewed : Entry.Renewed ms e ns f := by
    have written : ms.lookup "entry_type" = some (.obj (tool _)) := rfl
    apply Entry.Renewed.action written rfl
    refine ⟨_, "teleport", rfl, rfl, ?_⟩
    intro variant listed
    simp [Action.form] at listed
  rcases unknown_kinds_keep_entries read renewed with ⟨reads, exhibited⟩
  have exhibits := exhibited [("content", .obj ns), ("type", .str "NORMALIZED_ENTRY")] rfl rfl
  have shown := exhibits.1 (fresh none) (Patch.addValue 0 element) 5 (by decide +kernel)
  exact ⟨read, renewed, reads, shown [element] 0 (by decide +kernel) rfl⟩

end Conversation

end LiveLog
