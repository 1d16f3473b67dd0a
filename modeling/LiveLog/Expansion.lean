import LiveLog.Entry.Basic

namespace LiveLog

/-!
# Which rows show their details

A reader of a log opens and closes the details of rows. A row that nobody
touched follows a default, which is computed when the row is first looked at
and kept from then on; what a reader chose wins. Decisions belong to a context
and are forgotten with it.
-/

/-- Why a row is open or closed. -/
inductive Decision
  | byDefault (expanded : Bool)
  | byUser (expanded : Bool)
deriving DecidableEq, Repr

/-- Whether a decided row is open. -/
def Decision.expanded : Decision → Bool
  | byDefault b | byUser b => b

/-- The decisions made in a context. -/
structure Expansion where
  context : Option String
  decisions : List (String × Decision)
deriving DecidableEq

namespace Expansion

/-- No context, nothing decided. -/
def empty : Expansion := ⟨none, []⟩

/-- The decision on a row. -/
def state (x : Expansion) (key : String) : Option Decision := x.decisions.lookup key

/-- Enter a context; tell whether it is another one. -/
def setContext (context : String) (x : Expansion) : Expansion × Bool :=
  if x.context = some context then (x, false) else (⟨some context, []⟩, true)

/-- Forget every decision. -/
def clear (x : Expansion) : Expansion := { x with decisions := [] }

/-- Whether a row is open. The default counts if nothing is decided, and is
then decided. The last part of the answer tells whether it was needed. -/
def resolve (key : String) (fallback : Bool) (x : Expansion) : Expansion × Bool × Bool :=
  match x.state key with
  | some d => (x, d.expanded, false)
  | none => ({ x with decisions := x.decisions ++ [(key, .byDefault fallback)] }, fallback, true)

/-- Whether the row of an entry is open. -/
def isExpanded (key : String) (e : Entry) (x : Expansion) : Expansion × Bool :=
  let (x', b, _) := x.resolve key e.isExpandedByDefault
  (x', b)

/-- Open or close a row. -/
def setExpanded (key : String) (b : Bool) (x : Expansion) : Expansion :=
  { x with decisions := Assoc.set key (.byUser b) x.decisions }

/-- Turn the row of an entry over. -/
def toggle (key : String) (e : Entry) (x : Expansion) : Expansion × Bool :=
  let (x', b) := x.isExpanded key e
  (x'.setExpanded key !b, !b)

/-- What a reader chose is what is shown. -/
theorem state_setExpanded (key : String) (b : Bool) (x : Expansion) :
    (x.setExpanded key b).state key = some (.byUser b) :=
  Assoc.lookup_set_self key _ x.decisions

/-- A choice on one row leaves the others alone. -/
theorem state_setExpanded_of_ne {key other : String} (h : other ≠ key) (b : Bool)
    (x : Expansion) : (x.setExpanded key b).state other = x.state other :=
  Assoc.lookup_set_of_ne h _ x.decisions

end Expansion

end LiveLog
