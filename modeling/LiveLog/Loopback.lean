import LiveLog.Assoc
import LiveLog.Hub

namespace LiveLog

/-!
# The transport within one program

A producer in the same program feeds a connection directly. Of each process the
latest accepted connection is the one that its producer feeds; it is open while
the hub has it registered. The next connection of a process can be refused in
advance.
-/

/-- The connections within one program. -/
structure Loopback where
  /-- The generation of the connection that each producer feeds. -/
  fed : List (Uuid × Nat)
  /-- How often a connection was tried. -/
  attempts : List (Uuid × Nat)
  /-- The processes whose next connection is refused, and why. -/
  refusals : List (Uuid × String)
deriving DecidableEq

namespace Loopback

/-- No connection was tried. -/
def empty : Loopback := ⟨[], [], []⟩

/-- How often a connection of a process was tried. -/
def attemptsOf (t : Loopback) (id : Uuid) : Nat := (t.attempts.lookup id).getD 0

/-- Remember to refuse the next connection of a process. -/
def refuseNext (t : Loopback) (id : Uuid) (message : String) : Loopback :=
  { t with refusals := Assoc.set id message t.refusals }

/-- Stop feeding a process. -/
def release (t : Loopback) (id : Uuid) : Loopback := { t with fed := Assoc.erase id t.fed }

/-- Open a link, and report what came of it. -/
def connect (t : Loopback) (link : Link) : Loopback × Event :=
  let id := link.endpoint.process
  let t := { t with attempts := Assoc.set id (t.attemptsOf id + 1) t.attempts }
  match t.refusals.lookup id with
  | some message => ({ t with refusals := Assoc.erase id t.refusals },
      ⟨id, link.generation, .ofError (.refused message)⟩)
  | none => ({ t with fed := Assoc.set id link.generation t.fed }, ⟨id, link.generation, .opened⟩)

/-- Open links in order. -/
def connectAll (t : Loopback) : List Link → Loopback × List Event
  | [] => (t, [])
  | link :: rest =>
    let (t', e) := t.connect link
    let (t'', es) := t'.connectAll rest
    (t'', e :: es)

/-- The generation that a process's producer feeds, if the hub still has it
registered. -/
def open? (t : Loopback) (h : Hub) (id : Uuid) : Option Nat := do
  let generation ← t.fed.lookup id
  let s ← h.find? id
  if s.generation? = some generation then some generation else none

/-- Every link that is opened reports once. -/
theorem length_connectAll (t : Loopback) (links : List Link) :
    (t.connectAll links).2.length = links.length := by
  induction links generalizing t with
  | nil => rfl
  | cons link rest ih => simp [connectAll, ih]

/-- What a connection reports first bears its own generation. -/
theorem generation_connect (t : Loopback) (link : Link) :
    (t.connect link).2.process = link.endpoint.process ∧
      (t.connect link).2.generation = link.generation := by
  unfold connect
  simp only
  split <;> exact ⟨rfl, rfl⟩

end Loopback

end LiveLog
