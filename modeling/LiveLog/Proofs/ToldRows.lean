import LiveLog.Proofs.Reencoding
import LiveLog.Proofs.ValueDrafts
import LiveLog.Rows

namespace LiveLog

/-!
# What a row tells

The value of a row tells the kind of the row, and all fields of its entry or of its group.
The names and the places of the fields are written out here, so that a value can be
compared with a row without knowing how rows are written.

Only the metadata of an entry and the arguments and the result of a tool can be nested
deeply. How deep they may be depends on how many levels of the row are around them.
-/

/-! ## Depth -/

namespace Json

/-- Whether a value can be read with so many levels around it. -/
def FitsAt (depth : Nat) (v : Json) : Prop := depth + v.nesting ≤ Draft.deepest

section Depth

variable {depth : Nat}

theorem nestingItems_le_iff {xs : List Json} {n : Nat} :
    nestingItems xs ≤ n ↔ ∀ x ∈ xs, x.nesting ≤ n := by
  induction xs with
  | nil => simp [nestingItems]
  | cons x xs inductionHypothesis =>
      rw [nestingItems, Nat.max_le, inductionHypothesis, List.forall_mem_cons]

theorem nestingMembers_eq (ms : List (String × Json)) :
    nestingMembers ms = nestingItems (ms.map Prod.snd) := by
  induction ms with
  | nil => rfl
  | cons m ms inductionHypothesis =>
      rw [nestingMembers, inductionHypothesis, List.map_cons, nestingItems]

@[simp] theorem fitsAt_null : FitsAt depth .null ↔ depth ≤ Draft.deepest := Iff.rfl

@[simp] theorem fitsAt_bool (b : Bool) : FitsAt depth (.bool b) ↔ depth ≤ Draft.deepest := Iff.rfl

@[simp] theorem fitsAt_ofInt (n : Int) : FitsAt depth (.ofInt n) ↔ depth ≤ Draft.deepest := Iff.rfl

@[simp] theorem fitsAt_str (s : String) : FitsAt depth (.str s) ↔ depth ≤ Draft.deepest := Iff.rfl

/-- What is in an array has one more level around it. -/
@[simp] theorem fitsAt_arr {xs : List Json} :
    FitsAt depth (.arr xs) ↔ depth + 1 ≤ Draft.deepest ∧ ∀ x ∈ xs, x.FitsAt (depth + 1) := by
  simp only [FitsAt, nesting]
  constructor
  · intro fits
    refine ⟨by omega, ?_⟩
    intro x listed
    have within := nestingItems_le_iff.mp (Nat.le_refl (nestingItems xs)) x listed
    omega
  · rintro ⟨outer, inner⟩
    have within : nestingItems xs ≤ Draft.deepest - (depth + 1) := by
      rw [nestingItems_le_iff]
      exact fun x listed => Nat.le_sub_of_add_le' (inner x listed)
    omega

@[simp] theorem fitsAt_obj {ms : List (String × Json)} :
    FitsAt depth (.obj ms) ↔ depth + 1 ≤ Draft.deepest ∧ ∀ m ∈ ms, m.2.FitsAt (depth + 1) := by
  have same : (obj ms).nesting = (arr (ms.map Prod.snd)).nesting := by
    rw [nesting, nesting, nestingMembers_eq]
  rw [FitsAt, same, ← FitsAt, fitsAt_arr, List.forall_mem_map]

theorem FitsAt.mono {v : Json} {inner outer : Nat} (fits : v.FitsAt inner)
    (around : outer ≤ inner) : v.FitsAt outer := by
  unfold FitsAt at *
  omega

@[simp] theorem fitsAt_ofOption {α : Type} {write : α → Json} {o : Option α}
    (room : depth ≤ Draft.deepest) :
    (ofOption write o).FitsAt depth ↔ ∀ a ∈ o, (write a).FitsAt depth := by
  cases o with
  | none => simpa [ofOption] using room
  | some a => simp [ofOption]

end Depth

end Json

section Places

variable {depth inner outer : Nat}

/-- Whether the arguments and the result of a tool can be read with so many levels around
the action. -/
def Action.FitsAt (depth : Nat) : Action → Prop
  | .tool _ arguments result =>
    (∀ v ∈ arguments, v.FitsAt (depth + 1)) ∧ ∀ r ∈ result, r.value.FitsAt (depth + 2)
  | _ => True

/-- Whether the values of an entry can be read with so many levels around it. -/
structure Entry.FitsAt (depth : Nat) (e : Entry) : Prop where
  action : ∀ action ∈ e.action?, action.FitsAt (depth + 2)
  metadata : ∀ v ∈ e.metadata, v.FitsAt (depth + 1)

/-- Whether the values of a row can be read from its line. -/
def Row.Fits : Row MergedEntry → Prop
  | .entry e => ∀ x ∈ e.entry?, x.FitsAt 2
  | .group g => ∀ e ∈ g.entries, ∀ x ∈ e.entry?, x.FitsAt 4

theorem Action.FitsAt.mono {a : Action} (fits : a.FitsAt inner) (around : outer ≤ inner) :
    a.FitsAt outer := by
  cases a with
  | tool name arguments result =>
      exact ⟨fun v present => (fits.1 v present).mono (by omega),
        fun r present => (fits.2 r present).mono (by omega)⟩
  | _ => trivial

theorem Entry.FitsAt.mono {e : Entry} (fits : e.FitsAt inner) (around : outer ≤ inner) :
    e.FitsAt outer where
  action := fun action present => (fits.action action present).mono (by omega)
  metadata := fun v present => (fits.metadata v present).mono (by omega)

/-! ## Depth of written forms -/

theorem FileChange.fitsAt_toJson (c : FileChange) (room : depth + 1 ≤ Draft.deepest) :
    c.toJson.FitsAt depth := by
  cases c <;> simp [toJson, room]

theorem ExitStatus.fitsAt_toJson (s : ExitStatus) (room : depth + 1 ≤ Draft.deepest) :
    s.toJson.FitsAt depth := by
  cases s <;> simp [toJson, room]

theorem CommandResult.fitsAt_toJson (r : CommandResult) (room : depth + 2 ≤ Draft.deepest) :
    r.toJson.FitsAt depth := by
  have outer : depth + 1 ≤ Draft.deepest := by omega
  have ended (s : ExitStatus) : s.toJson.FitsAt (depth + 1) := s.fitsAt_toJson room
  simp [toJson, outer, ended]

theorem ToolResult.fitsAt_toJson {r : ToolResult} (room : depth + 1 ≤ Draft.deepest) :
    r.toJson.FitsAt depth ↔ r.value.FitsAt (depth + 1) := by
  simp [toJson, room]

theorem TodoItem.fitsAt_toJson (t : TodoItem) (room : depth + 1 ≤ Draft.deepest) :
    t.toJson.FitsAt depth := by
  simp [toJson, room]

theorem Action.fitsAt_toJson {a : Action} (room : depth + 3 ≤ Draft.deepest) :
    a.toJson.FitsAt depth ↔ a.FitsAt depth := by
  have first : depth + 1 ≤ Draft.deepest := by omega
  have second : depth + 1 + 1 ≤ Draft.deepest := by omega
  have change (c : FileChange) : c.toJson.FitsAt (depth + 1 + 1) := c.fitsAt_toJson room
  have item (t : TodoItem) : t.toJson.FitsAt (depth + 1 + 1) := t.fitsAt_toJson room
  have result (r : CommandResult) : r.toJson.FitsAt (depth + 1) := r.fitsAt_toJson room
  have answer (r : ToolResult) : r.toJson.FitsAt (depth + 1) ↔ r.value.FitsAt (depth + 2) :=
    ToolResult.fitsAt_toJson second
  cases a <;> simp [toJson, FitsAt, Json.ofList, first, second, change, item, result, answer]

theorem ToolStatus.fitsAt_toJson (s : ToolStatus) (room : depth + 1 ≤ Draft.deepest) :
    s.toJson.FitsAt depth := by
  cases s <;> simp [toJson, Instant.toJson, room]

theorem ErrorCause.fitsAt_toJson (c : ErrorCause) (room : depth + 1 ≤ Draft.deepest) :
    c.toJson.FitsAt depth := by
  cases c <;> simp [toJson, room]

theorem Entry.fitsAt_kind {e : Entry} (room : depth + 4 ≤ Draft.deepest) :
    e.kind.toJson.FitsAt depth ↔ ∀ action ∈ e.action?, action.FitsAt (depth + 1) := by
  have first : depth + 1 ≤ Draft.deepest := by omega
  have second : depth + 1 + 1 ≤ Draft.deepest := by omega
  unfold action?
  cases e.kind with
  | toolUse name action status =>
      have used : action.toJson.FitsAt (depth + 1) ↔ action.FitsAt (depth + 1) :=
        Action.fitsAt_toJson room
      simp [EntryKind.toJson, first, used, status.fitsAt_toJson second]
  | errorMessage cause => simp [EntryKind.toJson, first, cause.fitsAt_toJson second]
  | _ => simp [EntryKind.toJson, first]

theorem Entry.fitsAt_toJson {e : Entry} (room : depth + 5 ≤ Draft.deepest) :
    e.toJson.FitsAt depth ↔ e.FitsAt depth := by
  have first : depth + 1 ≤ Draft.deepest := by omega
  have told : e.kind.toJson.FitsAt (depth + 1) ↔ ∀ action ∈ e.action?, action.FitsAt (depth + 2) :=
    fitsAt_kind room
  have both : e.toJson.FitsAt depth ↔ (∀ action ∈ e.action?, action.FitsAt (depth + 2)) ∧
      ∀ v ∈ e.metadata, v.FitsAt (depth + 1) := by
    simp [toJson, first, told]
  exact both.trans ⟨fun fits => ⟨fits.1, fits.2⟩, fun fits => ⟨fits.action, fits.metadata⟩⟩

theorem MergedEntry.fitsAt_toJson {e : MergedEntry} (room : depth + 7 ≤ Draft.deepest) :
    e.toJson.FitsAt depth ↔ ∀ x ∈ e.entry?, x.FitsAt (depth + 2) := by
  have first : depth + 1 ≤ Draft.deepest := by omega
  have second : depth + 1 + 1 ≤ Draft.deepest := by omega
  rcases e with ⟨id, time, processId, processName, channel, payload⟩
  cases payload with
  | text s => simp [toJson, members, entry?, Uuid.toJson, Payload.toJson, first, second]
  | entry x =>
      have shown : x.toJson.FitsAt (depth + 1 + 1) ↔ x.FitsAt (depth + 2) :=
        Entry.fitsAt_toJson room
      simp [toJson, members, entry?, Uuid.toJson, Payload.toJson, first, second, shown]

/-- A row fits if its value is nested no deeper than a value that is read. -/
theorem Row.fits_iff {row : Row MergedEntry} :
    row.Fits ↔ (row.toJson MergedEntry.members).nesting ≤ Draft.deepest := by
  have whole : (row.toJson MergedEntry.members).nesting ≤ Draft.deepest ↔
      (row.toJson MergedEntry.members).FitsAt 0 := by rw [Json.FitsAt, Nat.zero_add]
  have room (depth : Nat) (few : depth < 10) : depth ≤ Draft.deepest :=
    Nat.le_trans few.le (by decide)
  rw [whole]
  cases row with
  | entry e =>
      have tagged : (toJson MergedEntry.members (.entry e)).FitsAt 0 ↔ e.toJson.FitsAt 0 := by
        simp [toJson, MergedEntry.toJson, room]
      rw [tagged, MergedEntry.fitsAt_toJson (room 7 (by decide))]
      rfl
  | group g =>
      have inside : (toJson MergedEntry.members (.group g)).FitsAt 0 ↔
          ∀ e ∈ g.entries, e.toJson.FitsAt 2 := by
        simp [toJson, MergedEntry.toJson, Json.ofList, Uuid.toJson, room]
      rw [inside]
      exact forall₂_congr fun e _listed => (MergedEntry.fitsAt_toJson (room 9 (by decide))).symm

end Places

/-! ## Fields -/

/-- The name under which a channel is told. -/
inductive Channel.IsNamed : Channel → String → Prop
  | raw : IsNamed .raw "raw"
  | stdout : IsNamed .stdout "stdout"
  | stderr : IsNamed .stderr "stderr"
  | normalized : IsNamed .normalized "normalized"

/-- The name under which a gathered kind is told. -/
inductive GroupKind.IsNamed : GroupKind → String → Prop
  | fileRead : IsNamed .fileRead "file_read"
  | search : IsNamed .search "search"
  | webFetch : IsNamed .webFetch "web_fetch"

/-- A value tells an entry under four names. What was read from some value is read from
this one too, so that its kind is told with all that belongs to it. -/
structure Entry.IsTold (e : Entry) (v : Json) : Prop where
  fields : ∃ kind, v = .obj [("timestamp", (e.timestamp.map Json.str).getD .null),
    ("entry_type", kind), ("content", .str e.content), ("metadata", e.metadata.getD .null)]
  restored : ∀ source, Entry.reader.ofJson source = some e → Entry.reader.ofJson v = some e

/-- A value tells a text or an entry, and which of them it is. -/
inductive Payload.IsTold : Payload → Json → Prop
  | text (s : String) : IsTold (.text s) (.obj [("kind", .str "text"), ("value", .str s)])
  | entry {e : Entry} {v : Json} (told : e.IsTold v) :
    IsTold (.entry e) (.obj [("kind", .str "entry"), ("value", v)])

/-- Members tell an entry of the merged log: its identifier, its time, its process, its
channel and what it shows. -/
inductive MergedEntry.AreTold (e : MergedEntry) : List (String × Json) → Prop
  | intro {channel : String} {payload : Json} (named : e.channel.IsNamed channel)
      (shown : e.payload.IsTold payload) :
    AreTold e [("id", .str e.id), ("ts", .ofInt e.time), ("process_id", .str e.processId.text),
      ("process_name", .str e.processName), ("channel", .str channel), ("payload", payload)]

/-- A value tells an entry by its members. -/
def MergedEntry.IsTold (e : MergedEntry) (v : Json) : Prop := ∃ ms, v = .obj ms ∧ e.AreTold ms

/-- A value tells a row: its kind, and the members of its entry; or what is gathered, the
entries in their order, the key and the process of its group. -/
inductive Row.IsTold : Row MergedEntry → Json → Prop
  | entry {e : MergedEntry} {ms : List (String × Json)} (told : e.AreTold ms) :
    IsTold (.entry e) (.obj (("kind", .str "entry") :: ms))
  | group {g : Group MergedEntry} {name : String} {es : List Json} (named : g.kind.IsNamed name)
      (told : List.Forall₂ MergedEntry.IsTold g.entries es) :
    IsTold (.group g) (.obj [("kind", .str "group"), ("aggregation_type", .str name),
      ("entries", .arr es), ("group_key", .str g.key),
      ("process_id", (g.owner?.map fun id => Json.str id.text).getD .null)])

theorem Channel.isNamed_name (c : Channel) : c.IsNamed c.name := by
  cases c <;> constructor

theorem GroupKind.isNamed_name (k : GroupKind) : k.IsNamed k.name := by
  cases k <;> constructor

theorem Entry.isTold_toJson (e : Entry) : e.IsTold e.toJson where
  fields := by
    rcases e with ⟨timestamp, kind, content, metadata⟩
    exact ⟨kind.toJson, by cases timestamp <;> cases metadata <;> rfl⟩
  restored := fun source read => Entry.stable.settles.restored source e read

theorem Payload.isTold_toJson (p : Payload) : p.IsTold p.toJson := by
  cases p with
  | text s => exact .text s
  | entry e => exact .entry e.isTold_toJson

theorem MergedEntry.areTold_members (e : MergedEntry) : e.AreTold e.members :=
  .intro e.channel.isNamed_name e.payload.isTold_toJson

theorem Row.isTold_toJson (row : Row MergedEntry) :
    row.IsTold (row.toJson MergedEntry.members) := by
  cases row with
  | entry e => exact .entry e.areTold_members
  | group g =>
      have each : List.Forall₂ MergedEntry.IsTold g.entries
          (g.entries.map fun e => .obj e.members) := by
        rw [List.forall₂_map_right_iff, List.forall₂_same]
        exact fun e _listed => ⟨e.members, rfl, e.areTold_members⟩
      have told := IsTold.group g.kind.isNamed_name each
      rcases g with ⟨kind, entries, key, owner⟩
      cases owner <;> exact told

end LiveLog
