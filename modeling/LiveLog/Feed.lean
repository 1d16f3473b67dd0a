import LiveLog.Conversation
import LiveLog.Execution
import LiveLog.LineBuffer
import LiveLog.Timeline
import LiveLog.Transport

namespace LiveLog

/-!
# Feeds

A feed is what is known of the output of one process. It takes the signals of a
connection one by one: a signal is ignored, or it changes the feed and the
change can be reported. The kind of the process decides what counts. Lines are
kept for scripts, patches of the conversation for agents; a script's patches
count for the lines that they add.

A signal that makes the feed final is its last one. The error of a feed stays
until a connection is opened anew.
-/

/-- How a signal changed a feed. -/
inductive Change
  | connected
  | entries
  | session
  /-- A frame or some part of a patch was of no use. -/
  | updateFailed
  | finished
  | disconnected
deriving DecidableEq, Repr

/-- What is known of the output of a process. -/
structure Feed where
  process : Execution
  conversation : Conversation
  lines : LineBuffer
  /-- The session that a message has named. -/
  namedSession : Option String
  isConnected : Bool
  error : Option String
  isFinished : Bool
  /-- When the output last changed. -/
  updatedAt : Int
deriving DecidableEq

namespace Change

/-- The name of a change in a report. -/
def name : Change → String
  | connected => "connected"
  | entries => "entries"
  | session => "session"
  | updateFailed => "update_failed"
  | finished => "finished"
  | disconnected => "disconnected"

/-- Whether nothing can follow. -/
def isFinal : Change → Bool
  | finished | disconnected => true
  | _ => false

end Change

/-- Whether a frame says that its stream is finished. -/
def Frame.concludes (f : Frame) : Bool :=
  match Message.decode f with
  | .ok (some .finished) => true
  | _ => false

/-- Whether nothing that the connection reports afterwards counts. -/
def Signal.isFinal : Signal → Bool
  | opened => false
  | frame f => f.concludes
  | ended => true
  | failed _ => true

namespace Feed

/-- The wording of an update that was of no use. -/
def updateFailure : String := "Failed to process log update"

/-- Nothing is known yet. -/
def fresh (s : Settings) (p : Execution) (now : Int) : Feed where
  process := p
  conversation := Conversation.forProcess p.id
  lines := LineBuffer.empty s
  namedSession := none
  isConnected := false
  error := none
  isFinished := false
  updatedAt := now

/-- How the process that is followed publishes its output. -/
def kind (f : Feed) : StreamKind := f.process.kind

/-- The session, named by a message or else by the conversation. -/
def session? (f : Feed) : Option String := f.namedSession <|> f.conversation.snapshot.sessionId

/-- The part of the merged log that comes from this feed. A conversation counts
with its own timestamps, lines with the time at which they came. -/
def source (f : Feed) : Source :=
  match f.kind with
  | .raw => ⟨f.process, f.lines.lines.map fun l => ⟨l.position, l.unit, some l.arrivedAt⟩,
      f.updatedAt⟩
  | .normalized => ⟨f.process, f.conversation.snapshot.entries.map fun e =>
      ⟨e.index, e.unit, match e.unit with
        | .entry x => x.millis?
        | _ => none⟩,
      f.conversation.snapshot.updatedAt.getD f.updatedAt⟩

/-- The units that the feed shows by itself. -/
def units (f : Feed) : List ConversationEntry :=
  match f.kind with
  | .raw => f.lines.lines.map fun l => ⟨l.position, l.unit⟩
  | .normalized => f.conversation.snapshot.entries

/-- The feed after the end of its stream. -/
def concluded (f : Feed) : Feed := { f with isConnected := false, isFinished := true }

/-- Keep some lines that arrive now. -/
def pushLines (f : Feed) (units : List LogUnit) (now : Int) : Feed :=
  { f with lines := units.foldl (fun b u => b.push u now) f.lines, updatedAt := now }

/-- The lines that the operations of a patch add. -/
def addedLines (patch : Patch) : List LogUnit :=
  patch.filterMap fun
    | .add _ value => match LogUnit.reader.ofJson value with
      | some (.entry _) => none
      | unit => unit
    | _ => none

/-- Take lines that arrive now. -/
def takeLines (f : Feed) (units : List LogUnit) (now : Int) : Option (Feed × Change) :=
  if units.isEmpty then none else some (f.pushLines units now, .entries)

/-- Take a patch of the conversation that arrives now. -/
def takePatch (f : Feed) (patch : Patch) (now : Int) : Feed × Change :=
  let (conversation, outcome) := f.conversation.applyBatch patch now
  let g := { f with conversation := conversation, updatedAt := now }
  if outcome.isClean then (g, .entries)
  else ({ g with error := some updateFailure }, .updateFailed)

/-- Take a message that arrives now. -/
def takeMessage (f : Feed) (m : Message) (now : Int) : Option (Feed × Change) :=
  match m, f.kind with
  | .stdout text, .raw => f.takeLines [.stdout text] now
  | .stderr text, .raw => f.takeLines [.stderr text] now
  | .patch patch, .raw => f.takeLines (addedLines patch) now
  | .stdout _, .normalized => none
  | .stderr _, .normalized => none
  | .patch patch, .normalized => some (f.takePatch patch now)
  | .sessionId text, _ => some ({ f with namedSession := some text }, .session)
  | .finished, _ => some (f.concluded, .finished)

/-- Take a signal that arrives now. -/
def take (f : Feed) (s : Signal) (now : Int) : Option (Feed × Change) :=
  match s with
  | .opened => some ({ f with error := none, isConnected := true }, .connected)
  | .frame frame =>
    match Message.decode frame with
    | .ok (some m) => f.takeMessage m now
    | .ok none => none
    | .error _ => some ({ f with error := some updateFailure }, .updateFailed)
  | .ended => some (f.concluded, .finished)
  | .failed message =>
    some ({ f with isConnected := false, error := some message }, .disconnected)

/-- No signal changes which process a feed belongs to. -/
theorem process_take {f g : Feed} {s : Signal} {now : Int} {c : Change}
    (h : f.take s now = some (g, c)) : g.process = f.process := by
  have message {m : Message} (h : f.takeMessage m now = some (g, c)) : g.process = f.process := by
    unfold takeMessage at h
    split at h
    all_goals first
      | (unfold takeLines at h; split at h <;> simp at h; rw [← h.1]; rfl)
      | simp at h
    · unfold takePatch at h
      simp only at h
      split at h <;> (rw [Prod.mk.injEq] at h; rw [← h.1])
    · rw [← h.1]
    · rw [← h.1]; rfl
  unfold take at h
  split at h
  · simp at h; rw [← h.1]
  · split at h
    · exact message h
    · simp at h
    · simp at h; rw [← h.1]
  · simp at h; rw [← h.1]; rfl
  · simp at h; rw [← h.1]

end Feed

end LiveLog
