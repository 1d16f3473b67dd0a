import LiveLog.Hub
import LiveLog.Rows

namespace LiveLog

/-!
# Views

What a hub shows: the merged log of all processes, or the output of one. A view
has rows, and tells whether more may come and what went wrong.
-/

/-- What is shown. -/
structure View (α : Type) where
  rows : List (Row α)
  isConnected : Bool
  error : Option String
deriving DecidableEq

namespace Hub

/-- The merged log of all processes. -/
def merged (h : Hub) : List MergedEntry := Timeline.compose h.settings.mergedEntries h.sources

/-- The merged log of a hub, with the state of its feeds. -/
def view (h : Hub) (grouped : Bool) : View MergedEntry :=
  ⟨Rows.view grouped h.merged, h.isConnected, h.error?⟩

/-- The output of one process of a hub, with the state of its feed. -/
def viewOf? (h : Hub) (grouped : Bool) (id : Uuid) : Option (View ConversationEntry) :=
  (h.find? id).map fun s => ⟨Rows.view grouped s.feed.units, s.feed.isConnected, s.feed.error⟩

end Hub

end LiveLog
