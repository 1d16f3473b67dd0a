import LiveLog.Proofs.MessageCodec
import LiveLog.Proofs.WrittenEntries
import LiveLog.Rows

namespace LiveLog

/-!
# Entries that come back from their text

A value comes back from its compact text if its numbers are integers of 64 bits and none
of its objects repeats a key. An entry is written under keys of its own, which are all
different. So the written form of an entry, and of a row of entries, is such a value as
soon as the values are that it carries: its metadata, and the arguments and the result of
a tool.

A row is written by adding its kind to the members of its entry. No member of an entry
has that name.
-/

namespace Json

/-- A value that comes back from its text. -/
structure IsLossless (v : Json) : Prop where
  integral : v.Integral
  distinct : v.Distinct

theorem integralMembers_iff {ms : List (String × Json)} :
    IntegralMembers ms ↔ ∀ m ∈ ms, m.2.Integral := by
  induction ms with
  | nil => simp [IntegralMembers]
  | cons m ms inductionHypothesis =>
      rw [IntegralMembers, inductionHypothesis, List.forall_mem_cons]

theorem distinctMembers_iff {ms : List (String × Json)} :
    DistinctMembers ms ↔ ∀ m ∈ ms, m.2.Distinct := by
  induction ms with
  | nil => simp [DistinctMembers]
  | cons m ms inductionHypothesis =>
      rw [DistinctMembers, inductionHypothesis, List.forall_mem_cons]

@[simp] theorem isLossless_null : null.IsLossless := ⟨trivial, trivial⟩

@[simp] theorem isLossless_bool (b : Bool) : (bool b).IsLossless := ⟨trivial, trivial⟩

@[simp] theorem isLossless_str (s : String) : (str s).IsLossless := ⟨trivial, trivial⟩

theorem isLossless_ofInt {n : Int} (least : -9223372036854775808 ≤ n)
    (most : n ≤ 9223372036854775807) : (ofInt n).IsLossless where
  integral := decide_eq_true ⟨least, by omega⟩
  distinct := trivial

@[simp] theorem isLossless_arr {xs : List Json} :
    (arr xs).IsLossless ↔ ∀ x ∈ xs, x.IsLossless := by
  constructor
  · rintro ⟨integral, distinct⟩ x listed
    exact ⟨integralItems_iff.mp integral x listed, distinctItems_iff.mp distinct x listed⟩
  · intro each
    exact ⟨integralItems_iff.mpr fun x listed => (each x listed).integral,
      distinctItems_iff.mpr fun x listed => (each x listed).distinct⟩

@[simp] theorem isLossless_obj {ms : List (String × Json)} :
    (obj ms).IsLossless ↔ (Assoc.keys ms).Nodup ∧ ∀ m ∈ ms, m.2.IsLossless := by
  constructor
  · rintro ⟨integral, nodup, distinct⟩
    exact ⟨nodup, fun m listed =>
      ⟨integralMembers_iff.mp integral m listed, distinctMembers_iff.mp distinct m listed⟩⟩
  · rintro ⟨nodup, each⟩
    exact ⟨integralMembers_iff.mpr fun m listed => (each m listed).integral,
      nodup, distinctMembers_iff.mpr fun m listed => (each m listed).distinct⟩

@[simp] theorem isLossless_ofOption {α : Type} {write : α → Json} {o : Option α} :
    (ofOption write o).IsLossless ↔ ∀ a ∈ o, (write a).IsLossless := by
  cases o <;> simp [ofOption]

@[simp] theorem isLossless_ofList {α : Type} {write : α → Json} {as : List α} :
    (ofList write as).IsLossless ↔ ∀ a ∈ as, (write a).IsLossless := by
  simp [ofList]

end Json

/-! ## The parts of an entry -/

@[simp] theorem Instant.isLossless_toJson (t : Instant) : t.toJson.IsLossless :=
  Json.isLossless_str t.text

@[simp] theorem Uuid.isLossless_toJson (u : Uuid) : u.toJson.IsLossless :=
  Json.isLossless_str u.text

@[simp] theorem FileChange.isLossless_toJson (c : FileChange) : c.toJson.IsLossless := by
  cases c <;> simp [toJson]

theorem ExitStatus.isLossless_toJson {s : ExitStatus} (fits : s.Fits) : s.toJson.IsLossless := by
  cases s with
  | exitCode code =>
      rcases fits with ⟨least, most⟩
      have number : (Json.ofInt code).IsLossless := Json.isLossless_ofInt (by omega) (by omega)
      simp [toJson, number]
  | success succeeded => simp [toJson]

theorem CommandResult.isLossless_toJson {r : CommandResult} (fits : ∀ s ∈ r.exitStatus, s.Fits) :
    r.toJson.IsLossless := by
  have status : ∀ s ∈ r.exitStatus, s.toJson.IsLossless :=
    fun s present => ExitStatus.isLossless_toJson (fits s present)
  simpa [toJson] using status

theorem ToolResult.isLossless_toJson {r : ToolResult} (value : r.value.IsLossless) :
    r.toJson.IsLossless := by
  simp [toJson, value]

@[simp] theorem TodoItem.isLossless_toJson (t : TodoItem) : t.toJson.IsLossless := by
  simp [toJson]

/-- The JSON values that an action carries. -/
def Action.values : Action → List Json
  | tool _ arguments result => arguments.toList ++ (result.map ToolResult.value).toList
  | _ => []

theorem Action.isLossless_toJson {a : Action} (fits : a.Fits)
    (values : ∀ v ∈ a.values, v.IsLossless) : a.toJson.IsLossless := by
  cases a with
  | commandRun command result =>
      have ended : ∀ r ∈ result, r.toJson.IsLossless :=
        fun r present => CommandResult.isLossless_toJson (fits r present)
      simpa [toJson] using ended
  | tool name arguments result =>
      have given : ∀ v ∈ arguments, v.IsLossless := by
        intro v present
        exact values v (List.mem_append_left _ (Option.mem_toList.mpr present))
      have answer : ∀ r ∈ result, r.toJson.IsLossless := by
        intro r present
        apply ToolResult.isLossless_toJson
        exact values r.value (List.mem_append_right _
          (Option.mem_toList.mpr (Option.mem_map_of_mem ToolResult.value present)))
      simpa [toJson] using ⟨given, answer⟩
  | _ => simp [toJson]

@[simp] theorem ToolStatus.isLossless_toJson (s : ToolStatus) : s.toJson.IsLossless := by
  cases s <;> simp [toJson]

@[simp] theorem ErrorCause.isLossless_toJson (c : ErrorCause) : c.toJson.IsLossless := by
  cases c <;> simp [toJson]

/-! ## Entries -/

namespace Entry

/-- The JSON values that an entry carries. -/
def values (e : Entry) : List Json :=
  e.action?.toList.flatMap Action.values ++ e.metadata.toList

/-- An entry of values that come back from their text. The exit code of its command has
32 bits. -/
structure IsLossless (e : Entry) : Prop where
  values : ∀ v ∈ e.values, v.IsLossless
  fits : ∀ action ∈ e.action?, action.Fits

theorem IsLossless.isLossless_kind {e : Entry} (lossless : e.IsLossless) :
    e.kind.toJson.IsLossless := by
  rcases e with ⟨timestamp, kind, content, metadata⟩
  cases kind with
  | toolUse toolName action status =>
      have written : action.toJson.IsLossless := by
        apply Action.isLossless_toJson (lossless.fits action rfl)
        intro v carried
        exact lossless.values v (by simp [Entry.values, action?, carried])
      simp [EntryKind.toJson, written]
  | _ => simp [EntryKind.toJson]

theorem IsLossless.isLossless_toJson {e : Entry} (lossless : e.IsLossless) :
    e.toJson.IsLossless := by
  have metadata : ∀ v ∈ e.metadata, v.IsLossless := by
    intro v present
    exact lossless.values v (List.mem_append_right _ (Option.mem_toList.mpr present))
  simpa [toJson, lossless.isLossless_kind] using metadata

end Entry

namespace MergedEntry

/-- An entry of the merged log that comes back from its text. Its time has 64 bits. -/
structure IsLossless (e : MergedEntry) : Prop where
  time : -9223372036854775808 ≤ e.time ∧ e.time ≤ 9223372036854775807
  entry : ∀ x ∈ e.entry?, x.IsLossless

variable {e : MergedEntry}

theorem IsLossless.isLossless_payload (lossless : e.IsLossless) :
    e.payload.toJson.IsLossless := by
  rcases e with ⟨id, time, processId, processName, channel, payload⟩
  cases payload with
  | text s => simp [Payload.toJson]
  | entry x => simp [Payload.toJson, (lossless.entry x rfl).isLossless_toJson]

theorem nodup_keys_members (e : MergedEntry) : (Assoc.keys e.members).Nodup := by
  simp [members]

theorem IsLossless.isLossless_members (lossless : e.IsLossless) :
    ∀ m ∈ e.members, m.2.IsLossless := by
  have time := Json.isLossless_ofInt lossless.time.1 lossless.time.2
  simp [members, time, lossless.isLossless_payload]

theorem IsLossless.isLossless_toJson (lossless : e.IsLossless) : e.toJson.IsLossless :=
  Json.isLossless_obj.mpr ⟨e.nodup_keys_members, lossless.isLossless_members⟩

end MergedEntry

/-! ## Rows -/

namespace Row

variable {row : Row MergedEntry}

/-- A row whose entries come back from their text comes back from its text. -/
theorem isLossless_toJson (lossless : ∀ e ∈ row.entries, e.IsLossless) :
    (row.toJson MergedEntry.members).IsLossless := by
  cases row with
  | entry e =>
      have alone := lossless e List.mem_cons_self
      have nodup : (Assoc.keys (("kind", Json.str "entry") :: e.members)).Nodup := by
        simp [MergedEntry.members]
      refine Json.isLossless_obj.mpr ⟨nodup, ?_⟩
      exact List.forall_mem_cons.mpr ⟨Json.isLossless_str "entry", alone.isLossless_members⟩
  | group g =>
      have entries : (Json.ofList (fun e => .obj (MergedEntry.members e)) g.entries).IsLossless :=
        Json.isLossless_ofList.mpr fun e listed => (lossless e listed).isLossless_toJson
      have owner : (Json.ofOption Uuid.toJson g.owner?).IsLossless := by simp
      refine Json.isLossless_obj.mpr ⟨by simp, ?_⟩
      simp only [List.forall_mem_cons, Json.isLossless_str, entries, owner, List.not_mem_nil,
        false_implies, implies_true, and_true]

end Row

end LiveLog
