import LiveLog.Loopback
import LiveLog.View

namespace LiveLog

/-!
# The pipeline

A hub whose connections stay within one program, with the queue of the events
that the hub has not taken yet, and a clock. Opening a connection and whatever
a producer does put events at the end of the queue. Nothing is applied before
somebody asks for it, and then it counts with the time of that moment.

What a producer sends passes through a channel of its connection and a task that
hands it on to the hub. The tasks come to rest after every step: whatever is in
a channel has been handed on before the next step. So the channels and the queue
of the hub are one queue here, in the order of the steps.
-/

/-- A hub with its connections, its queue and its clock. -/
structure Pipeline where
  hub : Hub
  transport : Loopback
  queue : List Event
  /-- The present time, in milliseconds. -/
  clock : Int
  /-- Whether rows are gathered into groups. -/
  grouped : Bool
deriving DecidableEq

namespace Pipeline

/-- Nothing is followed. -/
def start (settings : Settings) (backend : Backend) (grouped : Bool) (now : Int) : Pipeline :=
  ⟨Hub.empty settings backend, Loopback.empty, [], now, grouped⟩

/-- The links that a hub has opened since a generation. -/
def opened (since : Nat) (h : Hub) : List Link := h.links.filter fun l => since < l.generation

/-- Go on with a changed hub: the links that are new are opened. -/
def adopt (p : Pipeline) (h : Hub) : Pipeline :=
  let (transport, events) := p.transport.connectAll (opened p.hub.generation h)
  { p with hub := h, transport := transport, queue := p.queue ++ events }

/-- Set the clock. -/
def setClock (p : Pipeline) (now : Int) : Pipeline := { p with clock := now }

/-- Follow exactly these processes. -/
def sync (p : Pipeline) (ps : List Execution) : Pipeline := p.adopt (p.hub.sync ps p.clock)

/-- Let all subscriptions go; what is queued stays. -/
def teardown (p : Pipeline) : Pipeline := { p with hub := p.hub.teardown }

/-- Connect to a process anew; tell whether it is followed. -/
def resubscribe (p : Pipeline) (id : Uuid) : Pipeline × Bool :=
  (p.adopt (p.hub.resubscribe id p.clock), (p.hub.find? id).isSome)

/-- The transport will refuse the next connection of a process. -/
def refuseNext (p : Pipeline) (id : Uuid) (message : String) : Pipeline :=
  { p with transport := p.transport.refuseNext id message }

/-- Queue a signal of the connection that a process's producer feeds, if it is
open; tell whether it is. -/
def emit (p : Pipeline) (id : Uuid) (signal : Signal) : Pipeline × Bool :=
  match p.transport.open? p.hub id with
  | some generation => ({ p with queue := p.queue ++ [⟨id, generation, signal⟩] }, true)
  | none => (p, false)

/-- Send a frame; tell whether it will arrive. -/
def send (p : Pipeline) (id : Uuid) (frame : Frame) : Pipeline × Bool := p.emit id (.frame frame)

/-- Break a connection; tell whether the hub will hear of it. -/
def fail (p : Pipeline) (id : Uuid) (message : String) : Pipeline × Bool :=
  let (p', heard) := p.emit id (.ofError (.stream message))
  ({ p' with transport := p'.transport.release id }, heard)

/-- End a connection; tell whether there was one to feed. -/
def close (p : Pipeline) (id : Uuid) : Pipeline × Bool :=
  let (p', _) := p.emit id .ended
  ({ p' with transport := p'.transport.release id }, (p.transport.fed.lookup id).isSome)

/-- Whether the connection that a process's producer feeds is open. -/
def isOpen (p : Pipeline) (id : Uuid) : Bool := (p.transport.open? p.hub id).isSome

/-- Apply queued events up to the first change. -/
def next (p : Pipeline) : Pipeline × Hub.Awaited :=
  let (hub, queue, awaited) := p.hub.next p.clock p.queue
  ({ p with hub := hub, queue := queue }, awaited)

/-- Apply all queued events. -/
def drain (p : Pipeline) : Pipeline × List Update :=
  let (hub, updates) := p.hub.drain p.queue p.clock
  ({ p with hub := hub, queue := [] }, updates)

/-- What the pipeline shows of all processes. -/
def view (p : Pipeline) : View MergedEntry := p.hub.view p.grouped

/-- What the pipeline shows of one process. -/
def viewOf? (p : Pipeline) (id : Uuid) : Option (View ConversationEntry) :=
  p.hub.viewOf? p.grouped id

/-- A frame for a connection that is not open is lost. -/
theorem send_of_not_open {p : Pipeline} {id : Uuid} (h : p.isOpen id = false) (frame : Frame) :
    p.send id frame = (p, false) := by
  have hn : p.transport.open? p.hub id = none := by simpa [isOpen] using h
  simp [send, emit, hn]

/-- After all queued events are applied, none is queued. -/
theorem queue_drain (p : Pipeline) : p.drain.1.queue = [] := rfl

/-- What somebody does with a pipeline. -/
inductive Step
  | setClock (now : Int)
  | sync (ps : List Execution)
  | teardown
  | resubscribe (id : Uuid)
  | refuseNext (id : Uuid) (message : String)
  | send (id : Uuid) (frame : Frame)
  | fail (id : Uuid) (message : String)
  | close (id : Uuid)
  | next
  | drain

/-- Do one thing, and report the changes that were applied. -/
def perform (p : Pipeline) : Step → Pipeline × List Update
  | .setClock now => (p.setClock now, [])
  | .sync ps => (p.sync ps, [])
  | .teardown => (p.teardown, [])
  | .resubscribe id => ((p.resubscribe id).1, [])
  | .refuseNext id message => (p.refuseNext id message, [])
  | .send id frame => ((p.send id frame).1, [])
  | .fail id message => ((p.fail id message).1, [])
  | .close id => ((p.close id).1, [])
  | .next => match p.next with
    | (p', .update u) => (p', [u])
    | (p', _) => (p', [])
  | .drain => p.drain

end Pipeline

end LiveLog
