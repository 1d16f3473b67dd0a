import LiveLog.Url.Host

namespace LiveLog

/-!
# Addresses on the web

An address has a scheme, perhaps an authority (a host with a user and a port),
a path, and perhaps a query and a fragment. A path is a list of segments, or
one rigid text under schemes such as `mailto`. What lies below an address is
found by taking its last segment away and adding others; the query and the
fragment do not carry over.
-/

/-- The ways in which the web treats a scheme. -/
inductive SchemeClass
  /-- A host is needed, and a backslash is a slash. -/
  | special
  /-- As above, but there may be no host, and paths may begin with a drive. -/
  | file
  | other
deriving DecidableEq, Repr

/-- A host with what stands around it. -/
structure Authority where
  user : String
  password : Option String
  host : Host
  port : Option Nat
deriving DecidableEq

/-- The way to a resource. -/
inductive UrlPath
  | segments (names : List String)
  /-- A text without parts. -/
  | rigid (text : String)
deriving DecidableEq

/-- An address. -/
structure Url where
  scheme : String
  authority : Option Authority
  path : UrlPath
  query : Option String
  fragment : Option String
deriving DecidableEq

namespace SchemeClass

/-- The schemes that the web treats specially, with their usual ports. -/
def usualPorts : List (String × Nat) :=
  [("http", 80), ("https", 443), ("ws", 80), ("wss", 443), ("ftp", 21)]

/-- The web treats a scheme by its name. -/
def ofName (scheme : String) : SchemeClass :=
  if scheme = "file" then file
  else if (usualPorts.lookup scheme).isSome then special
  else other

/-- Whether a character stands between the segments of a path. -/
def isSlash (k : SchemeClass) (c : Char) : Bool := c == '/' || (k != other && c == '\\')

/-- Whether a character ends what stands before the path. -/
def isBoundary (k : SchemeClass) (c : Char) : Bool := k.isSlash c || c == '?' || c == '#'

end SchemeClass

namespace Authority

/-- The user and the password before a host. -/
def credentials (a : Authority) : String :=
  if a.user.isEmpty && a.password.isNone then ""
  else a.user ++ (match a.password with
    | some p => ":" ++ p
    | none => "") ++ "@"

/-- The written form of an authority. -/
def text (a : Authority) : String :=
  a.credentials ++ a.host.text ++ match a.port with
    | some n => ":" ++ Count.text n
    | none => ""

end Authority

namespace UrlPath

/-- The written form of a path. -/
def text : UrlPath → String
  | segments names => names.foldl (fun s n => s ++ "/" ++ n) ""
  | rigid s => s

/-- Whether a path ends in a slash. -/
def endsInSlash : UrlPath → Bool
  | segments names => names.getLast? == some ""
  | rigid s => s.toList.getLast? == some '/'

/-- Whether a segment is a drive. -/
def isDrive : List Char → Bool
  | [c, d] => c.isAlpha && (d == ':' || d == '|')
  | _ => false

/-- The first segment of a file's path, where a drive is written with a colon. -/
def firstName (cs : List Char) : List Char := if isDrive cs then cs.take 1 ++ [':'] else cs

/-- The segments of a file's path with its drive written as the first one is. -/
def withDrive : List String → List String
  | [] => []
  | s :: rest => String.ofList (firstName s.toList) :: rest

/-- A path with a slash at its end. One that has none is read again. -/
def closed (k : SchemeClass) (p : UrlPath) : UrlPath :=
  if p.endsInSlash then p
  else match p with
    | segments names => segments ((if k = .file then withDrive names else names) ++ [""])
    | rigid s => rigid (if s.isEmpty then "%2F" else s ++ "/")

end UrlPath

namespace Url

/-- How the web treats the address's scheme. -/
def schemeClass (u : Url) : SchemeClass := SchemeClass.ofName u.scheme

/-- What stands between the scheme and the path. Without an authority, a path
that begins with two slashes is kept apart. -/
def beforePath (u : Url) : String :=
  match u.authority with
  | some a => "//" ++ a.text
  | none => match u.path with
    | .segments ("" :: _ :: _) => "/."
    | _ => ""

/-- The written form of an address. -/
def text (u : Url) : String :=
  u.scheme ++ ":" ++ u.beforePath ++ u.path.text ++
    (match u.query with
      | some q => "?" ++ q
      | none => "") ++
    match u.fragment with
      | some f => "#" ++ f
      | none => ""

/-- The address with a slash at the end of its path. -/
def closed (u : Url) : Url := { u with path := u.path.closed u.schemeClass }

/-- The address of some segments within the directory of another. -/
def within (u : Url) (names : List String) : Except UrlError Url :=
  match u.path with
  | .segments base => .ok { u with
      path := .segments (base.dropLast ++ names), query := none, fragment := none }
  | .rigid _ => .error .rigidBase

/-- What lies below an address has its scheme and its authority. -/
theorem scheme_authority_of_within {u v : Url} {names : List String}
    (h : u.within names = .ok v) : v.scheme = u.scheme ∧ v.authority = u.authority := by
  unfold within at h
  split at h
  · cases h
    exact ⟨rfl, rfl⟩
  · cases h

end Url

end LiveLog
