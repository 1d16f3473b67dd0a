import LiveLog.EventStream
import LiveLog.Transport
import LiveLog.Url.Basic
import LiveLog.Url.Percent

namespace LiveLog

/-!
# Requests and replies

A log stream is asked for by its address. The request may find nobody, it may
be answered without success, or the answer brings a stream of events, which may
break off. Requests need a host, and one of the two schemes of the web. A user and a
password travel beside the address and not in it.
-/

/-- What became of a request. -/
inductive Reply
  /-- Nobody answers. -/
  | unanswered
  /-- An answer with a status and a body, which may break off. -/
  | answered (status : Nat) (body : List UInt8) (brokenOff : Bool)
deriving DecidableEq

namespace Authority

/-- Whether text is UTF-8 once its percent signs are resolved. -/
def isReadable (s : String) : Bool := decide ((Utf8.decode (Percent.decode s.toList)).2 = .nothing)

/-- Whether there are credentials that can travel beside the address. -/
def hasCredentials (a : Authority) : Bool :=
  isReadable a.user && (!a.user.isEmpty || (a.password.map isReadable).getD false)

/-- The authority without credentials that travel beside the address. -/
def withoutCredentials (a : Authority) : Authority :=
  if a.hasCredentials then { a with user := "", password := none } else a

/-- The characters that a host name may hold, but not in a request. -/
def unsent : List Char := ['"', '\x60', '\x7b', '\x7d']

/-- Whether a host can be asked. -/
def isAskable (a : Authority) : Bool :=
  match a.host with
  | .name s => !s.isEmpty && s.toList.all fun c => !unsent.contains c
  | _ => true

end Authority

namespace Url

/-- The address that a request names. -/
def withoutCredentials (u : Url) : Url :=
  { u with authority := u.authority.map Authority.withoutCredentials }

/-- The length of the longest address that a request may name. -/
def longest : Nat := 65534

/-- Whether an address can be asked for. -/
def isAskable (u : Url) : Bool :=
  decide (u.scheme = "http" ∨ u.scheme = "https") && (u.authority.map (·.isAskable)).getD false &&
    decide (u.withoutCredentials.text.utf8ByteSize ≤ longest)

/-- The path that a request names, with its query. -/
def requestPath (u : Url) : String :=
  u.path.text ++ match u.query with
    | some q => "?" ++ q
    | none => ""

end Url

namespace Reply

/-- The form of answer that requests ask for. -/
def accepted : String := "text/event-stream"

/-- Whether the request has reached a server. -/
def isAnswered : Reply → Bool
  | unanswered => false
  | answered .. => true

/-- The stream of events that a reply brings. -/
def delivery (url : Url) (r : Reply) : Except TransportError EventStream.Delivery :=
  let shown := " for url (" ++ url.withoutCredentials.text ++ ")"
  if url.isAskable then
    match r with
    | unanswered => .error (.request ("error sending request" ++ shown))
    | answered status body brokenOff =>
      if StatusCode.isSuccess status then .ok (EventStream.ofBytes body brokenOff)
      else .error (.status status)
  else .error (.request ("builder error" ++ shown))

/-- What becomes of a connection to an address. -/
def course (url : Url) (r : Reply) : Course :=
  match r.delivery url with
  | .error e => .refused e
  | .ok d => .accepted d.frames (d.failure.map .stream)

/-- A user that cannot be read stays in the address, and a password after one that
can be goes with it. -/
example :
    (⟨"%FF", none, .name "h", none⟩ : Authority).withoutCredentials.text = "%FF@h" ∧
    (⟨"u", some "%FF", .name "h", none⟩ : Authority).withoutCredentials.text = "h" ∧
    (⟨"", some "%FF", .name "h", none⟩ : Authority).withoutCredentials.text = ":%FF@h" := by
  decide +kernel

end Reply

end LiveLog
