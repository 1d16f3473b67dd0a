import LiveLog.Rows.Printer
import LiveLog.View

namespace LiveLog

/-!
# Following logs

A follower applies the events of its hub's connections one by one. After each
change it shows the merged log to a printer, which holds the last row back. When
no more events come, the log is shown once more, complete, and the error of the
first process that has one is the error of the whole.
-/

/-- A hub whose merged log is printed as it grows. -/
structure Follower where
  hub : Hub
  printer : Printer
  /-- Whether rows are gathered into groups. -/
  grouped : Bool
deriving DecidableEq

namespace Follower

/-- Begin to follow some processes. -/
def start (settings : Settings) (backend : Backend) (grouped json : Bool) (ps : List Execution)
    (now : Int) : Follower :=
  ⟨(Hub.empty settings backend).sync ps now, Printer.fresh json, grouped⟩

/-- Show the merged log to the printer. -/
def present (f : Follower) (done : Bool) : Follower × List String :=
  let (printer, lines) := f.printer.settle (f.hub.view f.grouped).rows done
  ({ f with printer := printer }, lines)

/-- Apply one event, and print what is new if it changed anything. -/
def step (f : Follower) (e : Event) (now : Int) : Follower × List String :=
  match f.hub.handle e now with
  | (hub, none) => ({ f with hub := hub }, [])
  | (hub, some _) => ({ f with hub := hub }).present false

/-- Apply events, each at its time. -/
def run (f : Follower) : List (Event × Int) → Follower × List String
  | [] => (f, [])
  | (e, now) :: rest =>
    let (f', lines) := f.step e now
    let (f'', more) := f'.run rest
    (f'', lines ++ more)

/-- What is printed when no more events come, and the error of the whole. -/
def finish (f : Follower) : List String × Option String := ((f.present true).2, f.hub.error?)

/-- Everything that is printed, and the error of the whole. -/
def follow (f : Follower) (events : List (Event × Int)) : List String × Option String :=
  let (f', lines) := f.run events
  (lines ++ f'.finish.1, f'.finish.2)

end Follower

end LiveLog
