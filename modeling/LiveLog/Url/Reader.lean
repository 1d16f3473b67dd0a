import LiveLog.Url.Basic

namespace LiveLog

/-!
# Reading addresses

Reading follows the web's own rules. Blanks around the text and line breaks
within it do not count, the scheme and the host are put in small letters, dots
in a path are resolved, and what may not stand in a part is percent-encoded.
The special schemes take a backslash for a slash, do not mind how many slashes
come before the host, and leave their usual port out.
-/

namespace UrlPath

/-- Whether a segment stands for its own directory. -/
def isDot (cs : List Char) : Bool := [".", "%2e"].contains (String.ofList (cs.map Char.toLower))

/-- Whether a segment stands for the directory above. -/
def isDoubleDot (cs : List Char) : Bool :=
  ["..", ".%2e", "%2e.", "%2e%2e"].contains (String.ofList (cs.map Char.toLower))

/-- Whether a segment looks like a drive: the letter and the mark, and nothing
or a backslash after them. -/
def looksLikeDrive : List Char → Bool
  | [c, d] => isDrive [c, d]
  | c :: d :: e :: _ => isDrive [c, d] && e == '\\'
  | _ => false

/-- Go up by one segment, given backwards. What looks like a drive stays, under
every scheme. -/
def up : List String → List String
  | [] => []
  | s :: rest => if looksLikeDrive s.toList then s :: rest else rest

/-- The written form of a segment after others, given backwards. -/
def written (k : SchemeClass) (before : List String) (cs : List Char) : String :=
  String.ofList (Percent.encode Percent.path
    (if k = .file ∧ before.isEmpty then firstName cs else cs))

/-- Add segments to others, given backwards, and resolve dots. -/
def resolve (k : SchemeClass) (before : List String) : List (List Char) → List String
  | [] => before.reverse
  | [cs] =>
    if isDoubleDot cs then ("" :: up before).reverse
    else if isDot cs then ("" :: before).reverse
    else (written k before cs :: before).reverse
  | cs :: rest =>
    if isDoubleDot cs then resolve k (up before) rest
    else if isDot cs then resolve k before rest
    else resolve k (written k before cs :: before) rest

/-- Files do not begin with empty segments unless nothing follows. -/
def trimmed : List String → List String
  | "" :: s :: rest => trimmed (s :: rest)
  | ss => ss

/-- The segments of a text without its first slash. -/
def ofChars (k : SchemeClass) (cs : List Char) : List String :=
  resolve k [] (Text.pieces '/' (cs.map fun c => if k.isSlash c then '/' else c))

end UrlPath

namespace Authority

/-- The user and the password in a text. -/
def userInfo (cs : List Char) : String × Option String :=
  let encoded (cs : List Char) : String := String.ofList (Percent.encode Percent.userInfo cs)
  match cs.dropWhile (· ≠ ':') with
  | _ :: c :: rest => (encoded (cs.takeWhile (· ≠ ':')), some (encoded (c :: rest)))
  | _ => (encoded (cs.takeWhile (· ≠ ':')), none)

/-- The text before the last `@`, if there is one, and the text after it. -/
def splitUser (cs : List Char) : Option (List Char) × List Char :=
  match cs.reverse.dropWhile (· ≠ '@') with
  | [] => (none, cs)
  | _ :: before => (some before.reverse, (cs.reverse.takeWhile (· ≠ '@')).reverse)

/-- The text of a host, and what follows it: a colon outside of brackets, or
nothing. -/
def splitHost (inBrackets : Bool) : List Char → List Char × List Char
  | [] => ([], [])
  | c :: cs =>
    if c = ':' ∧ ¬inBrackets then ([], c :: cs)
    else
      let inside := if c = '[' then true else if c = ']' then false else inBrackets
      let (host, rest) := splitHost inside cs
      (c :: host, rest)

/-- The port that some digits name under a scheme. The usual one is left out. -/
def readPort (scheme : String) (cs : List Char) : Except UrlError (Option Nat) :=
  if cs.all Char.isDigit ∧ Count.value cs < 65536 then
    .ok (if cs.isEmpty ∨ SchemeClass.usualPorts.lookup scheme = some (Count.value cs) then none
      else some (Count.value cs))
  else .error .badPort

/-- The authority that a text names, and what follows it there: a backslash
after a port ends it, though it is no slash. An empty user must not stand right
before a path, a query or a fragment; `followed` tells whether one comes. -/
def ofChars (scheme : String) (followed : Bool) (cs : List Char) :
    Except UrlError (Authority × List Char) := do
  let k := SchemeClass.ofName scheme
  let (before, after) := splitUser cs
  let (user, password) := match before with
    | some b => userInfo b
    | none => ("", none)
  if followed ∧ before = some [] ∧ after = [] then throw .emptyHost
  let (hostText, rest) := splitHost false after
  if k ≠ .other ∧ hostText = [] then throw .emptyHost
  let host ← if k = .other then Host.ofPlain hostText else Host.ofSpecial hostText
  match rest with
  | [] =>
    if host = .name "" ∧ (user ≠ "" ∨ password.isSome) then throw .emptyHost
    return (⟨user, password, host, none⟩, [])
  | _ :: digits =>
    if host = .name "" then throw .emptyHost
    let port ← readPort scheme (digits.takeWhile (· ≠ '\\'))
    return (⟨user, password, host, port⟩, digits.dropWhile (· ≠ '\\'))

end Authority

namespace Url

/-- Text without the blanks and control characters around it. -/
def stripped (cs : List Char) : List Char :=
  let outer (c : Char) : Bool := decide (c.toNat ≤ 0x20)
  ((cs.dropWhile outer).reverse.dropWhile outer).reverse

/-- Text as it is read: tabs and line breaks do not count. -/
def relevant (cs : List Char) : List Char :=
  (stripped cs).filter fun c => c != '\t' && c != '\n' && c != '\r'

/-- The scheme of a text, in small letters, and what follows its colon. -/
def scheme? (cs : List Char) : Option (String × List Char) :=
  let allowed (c : Char) : Bool := c.isAlphanum || c == '+' || c == '-' || c == '.'
  match cs.dropWhile allowed, cs.head? with
  | ':' :: rest, some c =>
    if c.isAlpha then some (String.ofList ((cs.takeWhile allowed).map Char.toLower), rest) else none
  | _, _ => none

/-- The query and the fragment at the end of a text. -/
def tail (k : SchemeClass) (cs : List Char) : Option String × Option String :=
  let fragment (cs : List Char) : Option String :=
    match cs with
    | '#' :: f => some (String.ofList (Percent.encode Percent.fragment f))
    | _ => none
  let set := if k = .other then Percent.query else Percent.specialQuery
  match cs with
  | '?' :: rest =>
    (some (String.ofList (Percent.encode set (rest.takeWhile (· ≠ '#')))),
      fragment (rest.dropWhile (· ≠ '#')))
  | _ => (none, fragment cs)

/-- Whether a character begins the query or the fragment. -/
def endsPath (c : Char) : Bool := c == '?' || c == '#'

/-- The segments of the text after an authority. -/
def pathAfterAuthority (k : SchemeClass) (cs : List Char) : List String :=
  match cs with
  | [] => if k = .other then [] else [""]
  | c :: rest => UrlPath.ofChars k (if k.isSlash c then rest else c :: rest)

/-- Read what follows two slashes. -/
def afterSlashes (scheme : String) (cs : List Char) : Except UrlError Url := do
  let k := SchemeClass.ofName scheme
  let behind := cs.dropWhile fun c => !k.isBoundary c
  let (a, left) ← Authority.ofChars scheme (!behind.isEmpty)
    (cs.takeWhile fun c => !k.isBoundary c)
  let rest := left ++ behind
  let (query, fragment) := tail k (rest.dropWhile fun c => !endsPath c)
  return ⟨scheme, some a, .segments (pathAfterAuthority k (rest.takeWhile fun c => !endsPath c)),
    query, fragment⟩

/-- The host of a file and the segments of its path, of a text that follows two
slashes. A drive in the place of the host belongs to the path. Without a host,
or on this machine, the slash before the path is a segment of its own while the
path is read, so a drive behind it is not the first segment. -/
def fileAfterSlashes (cs : List Char) : Except UrlError (Host × List String) :=
  let k := SchemeClass.file
  let hostText := cs.takeWhile fun c => !k.isBoundary c
  let path := (cs.drop hostText.length).takeWhile fun c => !endsPath c
  if UrlPath.isDrive hostText then .ok (.name "", UrlPath.ofChars k (hostText ++ path))
  else if hostText = [] then .ok (.name "", UrlPath.ofChars k path)
  else match Host.ofSpecial hostText with
    | .ok (.name "localhost") => .ok (.name "", UrlPath.ofChars k path)
    | .ok host => .ok (host, pathAfterAuthority k path)
    | .error e => .error e

/-- Read what follows `file:`. A path that begins with a drive has no host. -/
def fileAfterScheme (cs : List Char) : Except UrlError Url := do
  let k := SchemeClass.file
  let path := cs.takeWhile fun c => !endsPath c
  let (host, names) ← match cs with
    | a :: b :: more =>
      if k.isSlash a && k.isSlash b then fileAfterSlashes more
      else .ok (.name "", pathAfterAuthority k path)
    | _ => .ok (.name "", pathAfterAuthority k path)
  let hasDrive := (names.head?.map fun s => UrlPath.isDrive s.toList).getD false
  let (query, fragment) := tail k (cs.dropWhile fun c => !endsPath c)
  return ⟨"file", some ⟨"", none, if hasDrive then .name "" else host, none⟩,
    .segments (UrlPath.trimmed names), query, fragment⟩

/-- Read what follows the colon of a scheme without special treatment. -/
def otherAfterScheme (scheme : String) (cs : List Char) : Except UrlError Url :=
  let (query, fragment) := tail .other (cs.dropWhile fun c => !endsPath c)
  match cs with
  | '/' :: '/' :: rest => afterSlashes scheme rest
  | '/' :: rest =>
    .ok ⟨scheme, none, .segments (UrlPath.ofChars .other (rest.takeWhile fun c => !endsPath c)),
      query, fragment⟩
  | _ =>
    .ok ⟨scheme, none,
      .rigid (String.ofList (Percent.encode [] (cs.takeWhile fun c => !endsPath c))),
      query, fragment⟩

/-- The address that a text names by itself. -/
def ofText (s : String) : Except UrlError Url :=
  match scheme? (relevant s.toList) with
  | none => .error .noBase
  | some (scheme, rest) =>
    match SchemeClass.ofName scheme with
    | .file => fileAfterScheme rest
    | .special => afterSlashes scheme (rest.dropWhile SchemeClass.special.isSlash)
    | .other => otherAfterScheme scheme rest

end Url

end LiveLog
