import LiveLog.Conversation
import LiveLog.Timeline

namespace LiveLog

/-!
# Rows of a log view

A view shows one row for each entry, except that runs of file reads, of
searches and of web fetches are gathered into groups. A group holds at least
two consecutive entries of one kind and of one process. Its key is made from
the key of its first entry, so it stays the same while the group grows.
-/

/-- The kinds of tool use that are gathered. -/
inductive GroupKind
  | fileRead
  | search
  | webFetch
deriving DecidableEq, Repr

namespace GroupKind

/-- The kind of a group, in its JSON. -/
def name : GroupKind → String
  | fileRead => "file_read"
  | search => "search"
  | webFetch => "web_fetch"

/-- The kind of a normalized entry that is gathered. -/
def ofEntry? (e : Entry) : Option GroupKind :=
  match e.kind with
  | .toolUse _ (.fileRead _) _ => some fileRead
  | .toolUse _ (.search _) _ => some search
  | .toolUse _ (.webFetch _) _ => some webFetch
  | _ => none

end GroupKind

/-- What can be shown as a row: it has a key in its view, may be a normalized
entry, and may belong to one of several processes. -/
class Showable (α : Type) where
  key : α → String
  entry? : α → Option Entry
  owner? : α → Option Uuid

instance : Showable MergedEntry where
  key := MergedEntry.id
  entry? := MergedEntry.entry?
  owner? e := some e.processId

instance : Showable ConversationEntry where
  key e := "entry-" ++ Count.text e.index
  entry? e := match e.unit with
    | .entry x => some x
    | _ => none
  owner? _ := none

/-- Several entries in one row. -/
structure Group (α : Type) where
  kind : GroupKind
  entries : List α
  key : String
  owner? : Option Uuid
deriving DecidableEq

/-- One row of a view. -/
inductive Row (α : Type)
  | entry (e : α)
  | group (g : Group α)
deriving DecidableEq

namespace Row

variable {α : Type}

/-- The entries that a row shows. -/
def entries : Row α → List α
  | entry e => [e]
  | group g => g.entries

/-- The number of entries that a row shows. -/
def length (r : Row α) : Nat := r.entries.length

/-- The key of a row in its view. -/
def key [Showable α] : Row α → String
  | entry e => Showable.key e
  | group g => g.key

/-- A row is written with its kind first. -/
def toJson (members : α → List (String × Json)) : Row α → Json
  | entry e => .obj (("kind", .str "entry") :: members e)
  | group g =>
    .obj [("kind", .str "group"), ("aggregation_type", .str g.kind.name),
      ("entries", .ofList (fun e => .obj (members e)) g.entries), ("group_key", .str g.key),
      ("process_id", .ofOption Uuid.toJson g.owner?)]

end Row

namespace Rows

variable {α : Type} [Showable α]

/-- The kind of whatever is shown, if it is gathered. -/
def kind? (e : α) : Option GroupKind := (Showable.entry? e).bind GroupKind.ofEntry?

/-- Whether an entry continues the run of the one before it. -/
def continues (a b : α) : Bool :=
  (kind? b).isSome && decide (kind? a = kind? b) &&
    decide (Showable.owner? a = Showable.owner? b)

/-- The rows of one run. -/
def ofRun : List α → List (Row α)
  | [] => []
  | [e] => [.entry e]
  | e :: f :: rest =>
    match kind? e with
    | some k => [.group ⟨k, e :: f :: rest, "agg-" ++ Showable.key e, Showable.owner? e⟩]
    | none => (e :: f :: rest).map .entry

/-- The rows of a view, with groups. -/
def gather (xs : List α) : List (Row α) := (xs.splitBy continues).flatMap ofRun

omit [Showable α] in
/-- The rows of a view without groups. -/
def plain (xs : List α) : List (Row α) := xs.map .entry

/-- The rows of a view. -/
def view (grouped : Bool) (xs : List α) : List (Row α) := if grouped then gather xs else plain xs

omit [Showable α] in
/-- The entries of a view's rows. -/
def flatten (rows : List (Row α)) : List α := rows.flatMap Row.entries

/-- The rows of a run show the run. -/
theorem flatten_ofRun (run : List α) : flatten (ofRun run) = run := by
  unfold ofRun
  split
  · rfl
  · rfl
  · split
    · simp [flatten, Row.entries]
    · simp [flatten, List.flatMap_map, Row.entries]

end Rows

end LiveLog
