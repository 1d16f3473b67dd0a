import LiveLog.Proofs.Connections
import LiveLog.Proofs.Replay

namespace LiveLog

/-!
# What can be observed of one process

Somebody who watches a pipeline from outside, and cares for one process, can
keep a journal of its present connection. A new journal is begun whenever the
process is opened: by a synchronization that adds it, or by a resubscription.
From then on the journal takes down the frames that were sent with success, the
end or the failure of the connection, and the clock whenever a report of the
connection is taken off the queue. It also tells whether every synchronization
since then has kept the reason why the process runs.

Nothing in a journal is read off a feed's content. It is made of the steps, the
answers that they give, the identity of the present connection, and the length
by which a step shortens the queue.
-/

/-- What was observed of the present connection of a process. -/
structure Journal where
  /-- The process, as it was described when it was opened. -/
  process : Execution
  openedAt : Int
  /-- The connection, unless the process is served nowhere. -/
  generation : Option Nat
  accepted : Bool
  /-- The frames that were sent with success, in order. -/
  frames : List Frame
  /-- How the connection ended or failed. A refusal is a failure. -/
  closing : Option Signal
  /-- When each report was taken off the queue, the opening left out. -/
  times : List Int
  /-- Whether no synchronization has changed the reason of the process. -/
  steady : Bool
deriving DecidableEq

namespace Pipeline

/-- The pipeline after some steps. -/
def run (p : Pipeline) (steps : List Step) : Pipeline :=
  steps.foldl (fun p step => (p.perform step).1) p

/-- Whether a step opens a process: a synchronization that adds it, or a
resubscription of it. -/
def opens (p : Pipeline) (id : Uuid) : Step → Bool
  | .sync ps => (p.hub.find? id).isNone && ps.any fun q => decide (q.id = id)
  | .resubscribe other => decide (other = id) && (p.hub.find? id).isSome
  | _ => false

/-- The frame that a step sends with success to a process. -/
def delivered (p : Pipeline) (id : Uuid) : Step → List Frame
  | .send other frame => if other = id ∧ (p.send other frame).2 = true then [frame] else []
  | _ => []

/-- How a step ends or breaks the open connection of a process. -/
def closed (p : Pipeline) (id : Uuid) : Step → Option Signal
  | .fail other message =>
    if other = id ∧ p.isOpen id = true then some (.ofError (.stream message)) else none
  | .close other => if other = id ∧ p.isOpen id = true then some .ended else none
  | _ => none

/-- The events that a step takes off the front of the queue. -/
def consumed (p : Pipeline) (step : Step) : List Event :=
  p.queue.take (p.queue.length - (p.perform step).1.queue.length)

end Pipeline

namespace Journal

/-- The reports of the connection that carry a frame or its end, in the order in
which they were sent. -/
def reports (j : Journal) : List Signal := j.frames.map Signal.frame ++ j.closing.toList

/-- The feed before any frame: fresh, and connected if the connection was
accepted. -/
def blankFeed (j : Journal) (settings : Settings) : Feed :=
  { Feed.fresh settings j.process j.openedAt with isConnected := j.accepted }

/-- The feed that the journal accounts for: the reports up to the first final
one, each applied at its time. -/
def feed (j : Journal) (settings : Settings) : Feed :=
  (j.blankFeed settings).replay ((cutAfter Signal.isFinal j.reports).zip j.times)

/-- A new journal, for a subscription that a step has just made. -/
def begun (p : Pipeline) (s : Subscription) : Journal where
  process := s.feed.process
  openedAt := p.clock
  generation := s.generation?
  accepted := (p.transport.refusals.lookup s.id).isNone
  frames := []
  closing := (p.transport.refusals.lookup s.id).map fun message => .ofError (.refused message)
  times := []
  steady := true

/-- A journal after a step that leaves the connection in place. -/
def continued (j : Journal) (p : Pipeline) (id : Uuid) (step : Pipeline.Step) (s : Subscription) :
    Journal :=
  { j with
    frames := j.frames ++ p.delivered id step
    closing := j.closing <|> p.closed id step
    times := j.times ++ ((Event.reportsOf id j.generation (p.consumed step)).filter
      fun signal => decide (signal ≠ .opened)).map fun _ => p.clock
    steady := j.steady && decide ((p.hub.find? id).map (fun t => t.feed.process.reason) =
      some s.feed.process.reason) }

/-- What a step makes of the journal of a process. There is none while the
process is not followed. -/
def observe (id : Uuid) (p : Pipeline) (step : Pipeline.Step) (journal : Option Journal) :
    Option Journal :=
  ((p.perform step).1.hub.find? id).bind fun s =>
    if p.opens id step then some (begun p s)
    else journal.map fun j => j.continued p id step s

/-- The journal of a process after some steps. -/
def watch (id : Uuid) (p : Pipeline) (journal : Option Journal) :
    List Pipeline.Step → Option Journal
  | [] => journal
  | step :: rest => watch id (p.perform step).1 (observe id p step journal) rest

/-- The journal of a process that is watched from the start of a pipeline. -/
def ofRun (id : Uuid) (p : Pipeline) (steps : List Pipeline.Step) : Option Journal :=
  watch id p none steps

end Journal

end LiveLog
