import LiveLog.Execution
import LiveLog.Url.Reader

namespace LiveLog

/-!
# The backend

A backend serves the output of every process at an address of its own, in a
directory below the base address. The base always counts as a directory, so
none of its segments is lost. A base with a rigid path has nothing below it.
-/

/-- A backend, by its base address. -/
structure Backend where
  base : Url
deriving DecidableEq

/-- The address at which the output of a process is served. -/
structure Endpoint where
  process : Uuid
  kind : StreamKind
  url : Url
deriving DecidableEq

namespace Backend

/-- The backend at an address. -/
def ofText (s : String) : Except UrlError Backend :=
  (Url.ofText s).map fun u => ⟨u.closed⟩

/-- The backend at a host, with the usual port and no path. -/
def atHost (name : String) : Backend :=
  ⟨⟨"http", some ⟨"", none, .name name, none⟩, .segments [""], none, none⟩⟩

/-- The segments below the base that lead to the output of a process. -/
def segments (process : Uuid) (kind : StreamKind) : List String :=
  ["api", "execution-processes", process.text, kind.endpoint]

/-- Where output of a kind is served for a process. -/
def url (b : Backend) (process : Uuid) (kind : StreamKind) : Except UrlError Url :=
  b.base.within (segments process kind)

/-- The endpoint of a process, by the kind of its output. -/
def resolve (b : Backend) (p : Execution) : Except UrlError Endpoint :=
  (b.url p.id p.kind).map fun u => ⟨p.id, p.kind, u⟩

/-- The wording of an error in an address of the backend. -/
def refusal (e : UrlError) : String := "invalid backend url: " ++ e.message

end Backend

/-- Closing a path makes it end in a slash, unless it was empty and rigid. -/
theorem UrlPath.endsInSlash_closed_segments (k : SchemeClass) (names : List String) :
    ((UrlPath.segments names).closed k).endsInSlash = true := by
  unfold UrlPath.closed
  split
  · assumption
  · simp [UrlPath.endsInSlash]

/-- A host alone is an address. -/
example : (Backend.ofText "http://b").toOption = some (Backend.atHost "b") := by decide +kernel

/-- Dots are resolved, and the base keeps its last segment. -/
example : ((Backend.ofText " HTTP://EXAMPLE.test:80/a/./b/../c?x#y ").toOption.bind fun b =>
    (b.url default .raw).toOption.map Url.text) =
    some ("http://example.test/a/c/api/execution-processes/" ++
      "00000000-0000-0000-0000-000000000000/raw-logs") := by decide +kernel

end LiveLog
