import LiveLog.Decimal.Count
import LiveLog.Entry.Codec
import LiveLog.Execution

namespace LiveLog

/-!
# The merged log

The output of several processes, merged into one list in the order of time.
What carries no timestamp is placed just before the time at which its
process's latest batch arrived, in the order of the batch. Entries of equal
time keep the order of their processes. Of a log that is too long the newest
part is kept.
-/

/-- What an entry of the merged log shows. -/
inductive Payload
  | text (s : String)
  | entry (e : Entry)
deriving DecidableEq

/-- One entry of the merged log. -/
structure MergedEntry where
  /-- The process's identifier and the unit's position in its output. -/
  id : String
  /-- When, in milliseconds; approximate where the unit has no timestamp. -/
  time : Int
  processId : Uuid
  processName : String
  channel : Channel
  payload : Payload
deriving DecidableEq

/-- One unit of a process's output. -/
structure SourceEntry where
  position : Nat
  unit : LogUnit
  millis? : Option Int
deriving DecidableEq

/-- The present output of one process. -/
structure Source where
  process : Execution
  entries : List SourceEntry
  /-- When the latest batch arrived. -/
  batchTime : Int
deriving DecidableEq

namespace Payload

/-- A payload is written as its tag and its value. -/
def toJson : Payload → Json
  | text s => .obj [("kind", .str "text"), ("value", .str s)]
  | entry e => .obj [("kind", .str "entry"), ("value", e.toJson)]

/-- What a unit shows. -/
def ofUnit : LogUnit → Payload
  | .entry e => entry e
  | .stdout s | .stderr s => text s

end Payload

namespace Channel

/-- Where a unit is shown, for a process that publishes in a given way. -/
def ofUnit (kind : StreamKind) : LogUnit → Channel
  | .entry _ => normalized
  | .stderr _ => stderr
  | .stdout _ => match kind with
    | .raw => raw
    | .normalized => stdout

end Channel

namespace MergedEntry

/-- The fields of an entry, in order. -/
def members (e : MergedEntry) : List (String × Json) :=
  [("id", .str e.id), ("ts", .ofInt e.time), ("process_id", e.processId.toJson),
    ("process_name", .str e.processName), ("channel", .str e.channel.name),
    ("payload", e.payload.toJson)]

/-- An entry of the merged log is written as an object. -/
def toJson (e : MergedEntry) : Json := .obj e.members

/-- The normalized entry, if it shows one. -/
def entry? (e : MergedEntry) : Option Entry :=
  match e.payload with
  | .entry x => some x
  | .text _ => none

/-- The identifier of a unit in the merged log. -/
def idOf (process : Uuid) (position : Nat) : String :=
  process.text ++ ":" ++ Count.text position

end MergedEntry

namespace Source

/-- The entry of a unit, at an offset among `total` units. -/
def entryAt (s : Source) (total offset : Nat) (e : SourceEntry) : MergedEntry where
  id := MergedEntry.idOf s.process.id e.position
  time := e.millis?.getD (s.batchTime - ((total : Int) - (offset : Int)))
  processId := s.process.id
  processName := s.process.displayName
  channel := Channel.ofUnit s.process.kind e.unit
  payload := Payload.ofUnit e.unit

/-- The entries of a process's output. -/
def merged (s : Source) : List MergedEntry :=
  s.entries.mapIdx fun offset e => s.entryAt s.entries.length offset e

end Source

namespace Timeline

/-- The last elements of a list. -/
def newest {α : Type} (cap : Nat) (xs : List α) : List α := xs.drop (xs.length - cap)

/-- At least one entry is kept. -/
def capacity (cap : Nat) : Nat := max cap 1

/-- The entries of all sources in the order of time. -/
def ordered (sources : List Source) : List MergedEntry :=
  (sources.flatMap Source.merged).mergeSort fun a b => decide (a.time ≤ b.time)

/-- The newest part of the merged log. -/
def compose (cap : Nat) (sources : List Source) : List MergedEntry :=
  newest (capacity cap) (ordered sources)

theorem newest_suffix {α : Type} (cap : Nat) (xs : List α) : newest cap xs <:+ xs :=
  List.drop_suffix _ _

theorem length_newest {α : Type} (cap : Nat) (xs : List α) :
    (newest cap xs).length = min xs.length cap := by
  simp only [newest, List.length_drop]
  omega

/-- The order of time loses and repeats nothing. -/
theorem ordered_perm (sources : List Source) :
    (ordered sources).Perm (sources.flatMap Source.merged) := List.mergeSort_perm _ _

end Timeline

end LiveLog
