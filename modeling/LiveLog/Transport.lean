import LiveLog.Message
import LiveLog.StatusCode

namespace LiveLog

/-!
# What a connection reports

A connection to a log stream is opened or refused. An open one brings frames
until it ends or breaks. Whatever goes wrong has one wording for people.
-/

/-- Why a connection cannot be opened, or breaks. -/
inductive TransportError
  /-- The request was not answered. -/
  | request (detail : String)
  /-- The answer does not tell of success. -/
  | status (code : Nat)
  /-- The stream of frames broke. -/
  | stream (detail : String)
  /-- The other side refused. -/
  | refused (detail : String)
deriving DecidableEq

/-- The wording of a transport error. -/
def TransportError.message : TransportError → String
  | request detail => "request failed: " ++ detail
  | status code =>
    "unexpected response status " ++ Count.text code ++ " " ++ StatusCode.reason code
  | stream detail => "event stream error: " ++ detail
  | refused detail => "connection refused: " ++ detail

/-- What a connection reports. -/
inductive Signal
  | opened
  | frame (f : Frame)
  /-- The other side has nothing more to say. -/
  | ended
  /-- Nothing more will come, for this reason. -/
  | failed (message : String)
deriving DecidableEq

namespace Signal

/-- The wording of a failed connection. -/
def failure (detail : String) : String := "Connection failed: " ++ detail

/-- The report of a transport error. -/
def ofError (e : TransportError) : Signal := failed (failure e.message)

end Signal

/-- What becomes of a connection: it cannot be opened, or it brings frames until it
ends or breaks. -/
inductive Course
  | refused (e : TransportError)
  | accepted (frames : List Frame) (broken : Option TransportError)
deriving DecidableEq

namespace Course

/-- What a connection reports from beginning to end. -/
def signals : Course → List Signal
  | refused e => [.ofError e]
  | accepted frames broken => .opened :: frames.map .frame ++ [(broken.map .ofError).getD .ended]

/-- A connection reports something. -/
theorem signals_ne_nil (c : Course) : c.signals ≠ [] := by
  cases c <;> exact List.cons_ne_nil _ _

/-- A connection is opened once, before everything else that it reports. -/
theorem opened_not_mem_tail_signals (c : Course) : .opened ∉ c.signals.tail := by
  cases c with
  | refused e => exact List.not_mem_nil
  | accepted frames broken => cases broken <;> simp [signals, Signal.ofError]

end Course

end LiveLog
