import LiveLog.Assoc
import LiveLog.Json.Printer
import LiveLog.Rows.Line

namespace LiveLog

/-!
# Printing a log that grows

A printer is shown the rows of a view again and again. It prints an entry once,
and again only when its line has changed. To do so it remembers the last
printed line of each entry, for as long as the entry is among the rows. The
last row is held back until the log is complete, because a group may still grow
there.
-/

/-- A printer, with the line last printed for each entry. -/
structure Printer where
  /-- Whether rows are printed as JSON values. -/
  json : Bool
  shown : List (String × String)
deriving DecidableEq

namespace Printer

/-- Nothing has been printed. -/
def fresh (json : Bool) : Printer := ⟨json, []⟩

/-- The rows that are printed now. -/
def settledRows {α : Type} (done : Bool) (rows : List α) : List α :=
  if done then rows else rows.dropLast

/-- The memory without the entries that are gone. -/
def retained (rows : List (Row MergedEntry)) (shown : List (String × String)) :
    List (String × String) :=
  let present := (Rows.flatten rows).map MergedEntry.id
  shown.filter fun p => present.contains p.1

/-- The entries whose line is not the remembered one, and the memory of them. -/
def changed (shown : List (String × String)) :
    List MergedEntry → List MergedEntry × List (String × String)
  | [] => ([], shown)
  | e :: es =>
    if shown.lookup e.id = some e.line then changed shown es
    else
      let (rest, shown') := changed (Assoc.set e.id e.line shown) es
      (e :: rest, shown')

/-- A row with some of its entries only. -/
def narrowed (row : Row MergedEntry) (entries : List MergedEntry) : Option (Row MergedEntry) :=
  match row, entries with
  | _, [] => none
  | .group g, e :: f :: rest => some (.group { g with entries := e :: f :: rest })
  | _, e :: rest => (e :: rest).getLast?.map .entry

/-- The parts of rows that have to be printed, and the memory of them. -/
def news (shown : List (String × String)) :
    List (Row MergedEntry) → List (Row MergedEntry) × List (String × String)
  | [] => ([], shown)
  | row :: rows =>
    let (entries, shown') := changed shown row.entries
    let (rest, shown'') := news shown' rows
    ((narrowed row entries).toList ++ rest, shown'')

/-- The printed form of a row. -/
def render (json : Bool) (row : Row MergedEntry) : String :=
  if json then (row.toJson MergedEntry.members).compact else row.line

/-- Look at the rows of a view. The answer holds the rows to be printed. -/
def emit (p : Printer) (rows : List (Row MergedEntry)) (done : Bool) :
    Printer × List (Row MergedEntry) :=
  let (out, shown) := news (retained rows p.shown) (settledRows done rows)
  ({ p with shown := shown }, out)

/-- Look at the rows of a view. The answer holds the lines to be printed. -/
def settle (p : Printer) (rows : List (Row MergedEntry)) (done : Bool) : Printer × List String :=
  let (p', out) := p.emit rows done
  (p', out.map (render p.json))

/-- What is printed of a row's entries is a selection of them, in order. -/
theorem changed_sublist (shown : List (String × String)) (es : List MergedEntry) :
    (changed shown es).1.Sublist es := by
  induction es generalizing shown with
  | nil => exact List.Sublist.refl _
  | cons e es ih =>
    unfold changed
    split
    · exact (ih shown).trans (List.sublist_cons_self _ _)
    · exact (ih _).cons_cons e

/-- A group that changed nowhere is not printed. -/
theorem narrowed_nil (row : Row MergedEntry) : narrowed row [] = none := by
  cases row <;> rfl

end Printer

end LiveLog
