import LiveLog.Decimal.Count
import LiveLog.Json.Basic

namespace LiveLog

/-!
# JSON pointers

A pointer is the list of the tokens on the way from a document's root to one
of its values. In text each token follows a slash, with `~` written `~0` and
`/` written `~1`; every pointer has one text. A number sign before a text is
allowed and dropped.
-/

/-- The way from the root of a document to a value. -/
structure Pointer where
  tokens : List String
deriving DecidableEq, Inhabited

namespace Pointer

/-- Write the tildes and the slashes of a token as escapes. -/
def escape : List Char → List Char
  | [] => []
  | c :: cs =>
    if c = '~' then '~' :: '0' :: escape cs
    else if c = '/' then '~' :: '1' :: escape cs
    else c :: escape cs

/-- A token as it stands between the slashes of a pointer. -/
def escapeToken (token : String) : String := String.ofList (escape token.toList)

/-- The characters of a pointer: a slash before each token. -/
def chars (p : Pointer) : List Char := p.tokens.flatMap fun t => '/' :: escape t.toList

/-- A pointer, written. -/
def text (p : Pointer) : String := String.ofList p.chars

/-- Split the text after a slash into tokens; `token` is the present one,
backwards. A tilde must be followed by a zero or a one. -/
def scan (token : List Char) : List Char → Option (List String)
  | [] => some [String.ofList token.reverse]
  | '/' :: cs => (scan [] cs).map (String.ofList token.reverse :: ·)
  | '~' :: '0' :: cs => scan ('~' :: token) cs
  | '~' :: '1' :: cs => scan ('/' :: token) cs
  | '~' :: _ => none
  | c :: cs => scan (c :: token) cs

/-- The pointer of a text after an optional number sign. -/
def ofRooted? : List Char → Option Pointer
  | [] => some ⟨[]⟩
  | '/' :: cs => (scan [] cs).map Pointer.mk
  | _ => none

/-- The pointer that characters stand for; a number sign may come first. -/
def ofChars? : List Char → Option Pointer
  | '#' :: cs => ofRooted? cs
  | cs => ofRooted? cs

/-- The pointer that a string stands for. -/
def ofText? (s : String) : Option Pointer := ofChars? s.toList

theorem scan_escape (cs token : List Char) :
    scan token (escape cs) = some [String.ofList (token.reverse ++ cs)] := by
  induction cs generalizing token with
  | nil => simp [escape, scan]
  | cons c cs ih =>
    by_cases ht : c = '~'
    · subst ht; simp [escape, scan, ih]
    · by_cases hs : c = '/'
      · subst hs; simp [escape, scan, ih]
      · simp [escape, ht, hs, scan, ih]

theorem scan_escape_append (cs token rest : List Char) :
    scan token (escape cs ++ '/' :: rest) =
      (scan [] rest).map (String.ofList (token.reverse ++ cs) :: ·) := by
  induction cs generalizing token with
  | nil => simp [escape, scan]
  | cons c cs ih =>
    by_cases ht : c = '~'
    · subst ht; simp [escape, scan, ih]
    · by_cases hs : c = '/'
      · subst hs; simp [escape, scan, ih]
      · simp [escape, ht, hs, scan, ih]

/-- The text after the first slash gives the tokens back. -/
theorem scan_tokens (t : String) (ts : List String) :
    scan [] (escape t.toList ++ ts.flatMap fun t => '/' :: escape t.toList) = some (t :: ts) := by
  induction ts generalizing t with
  | nil => simp [scan_escape]
  | cons u us ih =>
    simp only [List.flatMap_cons, List.cons_append]
    rw [scan_escape_append, ih]
    simp

/-- A pointer reads back from its characters. -/
theorem ofChars?_chars (p : Pointer) : ofChars? p.chars = some p := by
  obtain ⟨tokens⟩ := p
  cases tokens with
  | nil => rfl
  | cons t ts =>
    show (scan [] (escape t.toList ++ ts.flatMap fun t => '/' :: escape t.toList)).map
      Pointer.mk = some ⟨t :: ts⟩
    rw [scan_tokens, Option.map_some]

/-- A pointer reads back from its text. -/
theorem ofText?_text (p : Pointer) : ofText? p.text = some p := by
  simp [ofText?, text, ofChars?_chars]

end Pointer

namespace Json

/-- The value at the end of a way. -/
def resolve? : List String → Json → Option Json
  | [], v => some v
  | t :: ts, .obj ms => (ms.lookup t).bind (resolve? ts)
  | t :: ts, .arr xs => (Count.position? t).bind fun i => xs[i]?.bind (resolve? ts)
  | _ :: _, _ => none

/-- The document with the value at the end of a way changed. Nothing else
moves. -/
def modify? (f : Json → Option Json) : List String → Json → Option Json
  | [], v => f v
  | t :: ts, .obj ms => do
    let w ← modify? f ts (← ms.lookup t)
    return .obj (Assoc.set t w ms)
  | t :: ts, .arr xs => do
    let i ← Count.position? t
    let w ← modify? f ts (← xs[i]?)
    return .arr (xs.set i w)
  | _ :: _, _ => none

/-- A value changes only where the way leads somewhere. -/
theorem resolve?_isSome_of_modify? {f : Json → Option Json} {ts : List String} {v w : Json}
    (h : modify? f ts v = some w) : (resolve? ts v).isSome := by
  induction ts generalizing v w with
  | nil => rfl
  | cons t ts ih =>
    cases v with
    | obj ms =>
      simp only [modify?, Option.bind_eq_bind, Option.bind_eq_some_iff] at h
      obtain ⟨x, hx, y, hy, _⟩ := h
      simp [resolve?, hx, ih hy]
    | arr xs =>
      simp only [modify?, Option.bind_eq_bind, Option.bind_eq_some_iff] at h
      obtain ⟨i, hi, x, hx, y, hy, _⟩ := h
      simp [resolve?, hi, hx, ih hy]
    | _ => simp [modify?] at h

end Json

end LiveLog
