import LiveLog.Message
import LiveLog.Proofs.Counts
import LiveLog.Proofs.StableReaders

namespace LiveLog

/-!
# Patches and stream events as they are written

A builder hands a patch out as JSON and reads it back before anybody applies it,
and the position of an entry goes through the decimal text of a pointer's token.
Neither changes anything: a position below the bound of counts reads back from its
text, and a patch reads back from its JSON.

A stream event reaches the log as the text of a frame. The texts are many, with
members in any order and others besides; `EventFrame` collects what makes one an
event of a given kind. Its index has 64 bits, so a non-negative one is a position.
-/

namespace Operation

theorem pointerReader_read (held : Bool) (p : Pointer) :
    pointerReader.read held (.str p.text) = some p := Pointer.ofText?_text p

theorem valueFields_read (make : Pointer → Json → Operation) (held : Bool)
    {get : String → Option Json} {p : Pointer} {v : Json}
    (path : get "path" = some (.str p.text)) (value : get "value" = some v) :
    (valueFields make).read held get = some (make p v) := by
  change (((get "path").bind (pointerReader.read held)).map make).bind _ = _
  rw [path, Option.bind_some, pointerReader_read, Option.map_some, Option.bind_some]
  change ((get "value").bind _).bind _ = _
  rw [value]
  rfl

theorem sourceFields_read (make : Pointer → Pointer → Operation) (held : Bool)
    {get : String → Option Json} {p q : Pointer}
    (source : get "from" = some (.str p.text)) (path : get "path" = some (.str q.text)) :
    (sourceFields make).read held get = some (make p q) := by
  change (((get "from").bind (pointerReader.read held)).map make).bind _ = _
  rw [source, Option.bind_some, pointerReader_read, Option.map_some, Option.bind_some]
  change ((get "path").bind (pointerReader.read held)).bind _ = _
  rw [path, Option.bind_some, pointerReader_read]
  rfl

/-- An operation reads back from its JSON. -/
theorem ofJson_toJson (op : Operation) : reader.ofJson op.toJson = some op := by
  cases op with
  | add path value => exact valueFields_read add true rfl rfl
  | remove path =>
      change (Option.bind (some (Json.str path.text)) (pointerReader.read true)).map remove = _
      rw [Option.bind_some, pointerReader_read]
      rfl
  | replace path value => exact valueFields_read replace true rfl rfl
  | move source path => exact sourceFields_read move true rfl rfl
  | copy source path => exact sourceFields_read copy true rfl rfl
  | test path value => exact valueFields_read test true rfl rfl

end Operation

namespace Patch

/-- A patch reads back from its JSON. -/
theorem ofJson_toJson (patch : Patch) : reader.ofJson (toJson patch) = some patch := by
  have items : (patch.map Operation.toJson).mapM Operation.reader.ofJson = some patch := by
    induction patch with
    | nil => rfl
    | cons op ops inductionHypothesis =>
        rw [List.map_cons, List.mapM_cons, Operation.ofJson_toJson, inductionHypothesis]
        rfl
  exact items

end Patch

theorem Reader.int_read {least most : Int} {held : Bool} {v : Json} {n : Int}
    (read : (Reader.int least most).read held v = some n) : least ≤ n ∧ n ≤ most := by
  unfold Reader.int at read
  dsimp only at read
  split at read
  · rw [Option.ite_none_right_eq_some] at read
    rw [← Option.some.inj read.2]
    exact read.1
  · cases read

namespace StreamEvent

/-- The indices of events stay below this bound. -/
def indexLimit : Int := 9223372036854775808

/-- An index that is not negative fits in a machine word. -/
theorem toNat_lt_limit {index : Int} (bounded : index < indexLimit) :
    index.toNat < Count.limit := by
  have wide : (Count.limit : Int) = 18446744073709551616 := by decide
  unfold indexLimit at bounded
  omega

/-- The index that an event names. -/
def index? : StreamEvent → Option Int
  | append index _ | replace index _ => some index
  | finished => none

theorem index_lt_of_entryFields {make : Int → Json → StreamEvent}
    (carries : ∀ i x, (make i x).index? = some i) {held : Bool} {get : String → Option Json}
    {event : StreamEvent} (read : (entryFields make).read held get = some event) {index : Int}
    (named : event.index? = some index) : index < indexLimit := by
  change ((((get "entry_index").bind _).map make).bind _) = _ at read
  rcases Option.bind_eq_some_iff.mp read with ⟨partly, indexed, rest⟩
  rcases Option.map_eq_some_iff.mp indexed with ⟨i, found, rfl⟩
  rcases Option.bind_eq_some_iff.mp found with ⟨number, -, bounded⟩
  rcases Option.bind_eq_some_iff.mp rest with ⟨entry, -, made⟩
  rw [← Option.some.inj made, carries] at named
  rw [← Option.some.inj named]
  exact Int.lt_add_one_of_le (Reader.int_read bounded).2

/-- The kinds of event that a tag can select. -/
theorem select_eq_some {tag : Json} {variant : Variant StreamEvent}
    (selected : form.select false tag = some variant) :
    variant = .fields (entryFields append) ∨ variant = .fields (entryFields replace) ∨
      variant = .unit finished := by
  rcases Tagged.select_eq_some selected with ⟨name, listed⟩ | ⟨event, unknown, -⟩
  · simp only [form, List.mem_cons, List.not_mem_nil, or_false, Prod.mk.injEq] at listed
    rcases listed with ⟨-, kind⟩ | ⟨-, kind⟩ | ⟨-, kind⟩
    · exact Or.inl kind
    · exact Or.inr (Or.inl kind)
    · exact Or.inr (Or.inr kind)
  · cases unknown

/-- An object that stands for an event has a tag, and an index of 64 bits if it
has one. -/
theorem ofJson_obj {ms : List (String × Json)} {event : StreamEvent}
    (read : reader.ofJson (.obj ms) = some event) :
    ((Json.obj ms).member? "type").isSome ∧
      ∀ index, event.index? = some index → index < indexLimit := by
  change (ms.lookup "type").bind _ = _ at read
  rcases Option.bind_eq_some_iff.mp read with ⟨tag, tagged, rest⟩
  rcases Option.bind_eq_some_iff.mp rest with ⟨variant, selected, made⟩
  refine ⟨Option.isSome_iff_exists.mpr ⟨tag, tagged⟩, ?_⟩
  intro index named
  rcases select_eq_some selected with rfl | rfl | rfl
  · exact index_lt_of_entryFields (fun _ _ => rfl) made named
  · exact index_lt_of_entryFields (fun _ _ => rfl) made named
  · rw [← Option.some.inj made] at named
    cases named

end StreamEvent

theorem Message.ofJson_of_event {v : Json} {event : StreamEvent}
    (going : v.member? "finished" ≠ some (.bool true)) (tagged : (v.member? "type").isSome)
    (read : StreamEvent.reader.ofJson v = some event) :
    ofJson v = event.toMessage.map some := by
  unfold ofJson
  rw [if_neg going, if_pos tagged, read]

/-- A text frame that a connection of the second generation sends for an event
with an index: whatever its text, it is an object that does not say that the
stream has finished and that reads as the event. -/
structure EventFrame (make : Int → Json → StreamEvent) where
  text : String
  members : List (String × Json)
  index : Int
  entry : Json
  parsed : Json.ofText text = .ok (.obj members)
  going : (Json.obj members).member? "finished" ≠ some (.bool true)
  read : StreamEvent.reader.ofJson (.obj members) = some (make index entry)

namespace EventFrame

variable {make : Int → Json → StreamEvent}

/-- The frame decodes to what its event stands for. -/
theorem decode_text (frame : EventFrame make) :
    Message.decode (.text frame.text) = (make frame.index frame.entry).toMessage.map some := by
  change Message.ofText frame.text = _
  rw [Message.ofText, frame.parsed]
  exact Message.ofJson_of_event frame.going (StreamEvent.ofJson_obj frame.read).1 frame.read

/-- An event with its members in another order and one more; its index names no
entry. -/
example : ∃ frame : EventFrame .append, frame.index = -1 ∧
    Message.decode (.text frame.text) = .error (.invalidIndex (-1)) :=
  ⟨⟨"\x7b\"entry_index\": -1, \"id\": 7, \"type\": \"append\", \"entry\": null\x7d",
      [("entry_index", .ofInt (-1)), ("id", .ofNat 7), ("type", .str "append"), ("entry", .null)],
      -1, .null, by decide +kernel, by decide +kernel, by decide +kernel⟩,
    rfl, by decide +kernel⟩

theorem index_lt (frame : EventFrame make) (carries : ∀ i x, (make i x).index? = some i) :
    frame.index < StreamEvent.indexLimit :=
  (StreamEvent.ofJson_obj frame.read).2 frame.index (carries frame.index frame.entry)

end EventFrame

end LiveLog
