import LiveLog.LogFilter.Pattern

namespace LiveLog

/-!
# Filters of a program's own records

Which records of its own work a program keeps is said by directives with commas
between. A directive is a level, or the name of a part of the program with
perhaps a span in brackets, fields of the span in braces, and a level after an
equals sign. Only the form of a filter matters here.

Blanks around a directive are passed over, but the places of its parts are
counted, in bytes, from its first character that is not blank, and the parts
are then cut from the whole text. So a directive with blanks before it has its
parts cut too early. Where a cut falls inside a character, the program stops.
-/

/-- What becomes of a filter. -/
inductive FilterVerdict
  | accepted
  | refused
  /-- A part would begin or end inside a character. -/
  | torn
deriving DecidableEq, Repr

namespace LogFilter

/-- Whether a text is a level: nothing, a name in any case, or a number. -/
def isLevel (cs : List Char) : Bool :=
  let digits := match cs with
    | '+' :: ds => ds
    | ds => ds
  cs.isEmpty ||
    ["error", "warn", "info", "debug", "trace", "off"].contains
      (String.ofList (cs.map Char.toLower)) ||
    (!digits.isEmpty && digits.all Char.isDigit &&
      match digits.dropWhile (· == '0') with
      | [] => true
      | [d] => d ≤ '5'
      | _ => false)

/-- Whether a text is digits with perhaps a point among them, and perhaps an
exponent. -/
def isDecimal (cs : List Char) : Bool :=
  let whole := cs.takeWhile Char.isDigit
  let afterWhole := cs.drop whole.length
  let fraction := match afterWhole with
    | '.' :: r => r.takeWhile Char.isDigit
    | _ => []
  let rest := match afterWhole with
    | '.' :: r => r.drop fraction.length
    | r => r
  !(whole ++ fraction).isEmpty && match rest with
    | [] => true
    | e :: r =>
      let digits := match r with
        | '+' :: ds | '-' :: ds => ds
        | ds => ds
      (e == 'e' || e == 'E') && !digits.isEmpty && digits.all Char.isDigit

/-- Whether a text is a number, perhaps an infinite one or none at all. -/
def isNumber (cs : List Char) : Bool :=
  isDecimal cs || ["inf", "infinity", "nan"].contains (String.ofList (cs.map Char.toLower))

/-- Whether a text can be the value of a field. Every number is a pattern
unless a plus sign stands before it. -/
def isValue (cs : List Char) : Bool :=
  FilterPattern.isPattern cs || match cs with
    | '+' :: r => isNumber r
    | _ => false

/-- Whether a text is a field: a name, and perhaps a value after an equals sign
and before another. -/
def isField (cs : List Char) : Bool :=
  !cs.isEmpty && match Text.pieces '=' cs with
    | _ :: value :: _ => isValue value
    | _ => true

/-- A text cut after some bytes, unless that is inside a character. -/
def cutBytes : Nat → List Char → Option (List Char × List Char)
  | 0, cs => some ([], cs)
  | _ + 1, [] => some ([], [])
  | n + 1, c :: cs =>
    if c.utf8Size ≤ n + 1 then
      (cutBytes (n + 1 - c.utf8Size) cs).map fun (before, after) => (c :: before, after)
    else none

/-- The bytes of a text from one place to another. -/
def slice? (first last : Nat) (cs : List Char) : Option (List Char) := do
  let (_, after) ← cutBytes first cs
  let (part, _) ← cutBytes (last - first) after
  return part

/-- Where the reading of a directive stands. Parts are given by the place where
they begin. -/
inductive Place
  | start
  | name
  | span (begun : Nat)
  | field (begun : Nat)
  /-- After the fields of a span. -/
  | fields
  /-- After a span. -/
  | target
  | level (begun : Nat)

/-- What becomes of a directive if a part of it has the right form. -/
def judge (part : Option (List Char)) (ok : List Char → Bool) (more : FilterVerdict) :
    FilterVerdict :=
  match part with
  | none => .torn
  | some cs => if ok cs then more else .refused

/-- Read on in a directive. `whole` is all of it, with the blanks around it, and
`n` is the place of what follows. -/
def read (whole : List Char) : Place → (n : Nat) → List Char → FilterVerdict
  | .name, _, [] | .target, _, [] => .accepted
  | .level begun, _, [] =>
    judge ((cutBytes begun whole).map Prod.snd) isLevel .accepted
  | _, _, [] => .refused
  | .start, n, c :: cs =>
    if c = '[' then read whole (.span (n + 1)) (n + 1) cs
    else if c = '-' ∨ c = ':' ∨ c = '_' ∨ Text.isAlphanumeric c then
      read whole .name (n + c.utf8Size) cs
    else .refused
  | .name, n, c :: cs =>
    if c = '=' then
      judge (slice? 0 n whole) (fun _ => true) (read whole (.level (n + 1)) (n + 1) cs)
    else if c = '[' then
      judge (slice? 0 n whole) (fun _ => true) (read whole (.span (n + 1)) (n + 1) cs)
    else read whole .name (n + c.utf8Size) cs
  | .span begun, n, c :: cs =>
    if c = ']' then
      judge (slice? begun n whole) (fun _ => true) (read whole .target (n + 1) cs)
    else if c = '\x7b' then
      judge (slice? begun n whole) (fun _ => true) (read whole (.field (n + 1)) (n + 1) cs)
    else read whole (.span begun) (n + c.utf8Size) cs
  | .field begun, n, c :: cs =>
    if c = '\x7d' then
      judge (slice? begun n whole) isField (read whole .fields (n + 1) cs)
    else read whole (.field begun) (n + c.utf8Size) cs
  | .fields, n, c :: cs => if c = ']' then read whole .target (n + 1) cs else .refused
  | .target, n, c :: cs => if c = '=' then read whole (.level (n + 1)) (n + 1) cs else .refused
  | .level begun, n, c :: cs => read whole (.level begun) (n + c.utf8Size) cs

/-- What becomes of a directive. Nothing at all is left out. -/
def judgeDirective (cs : List Char) : FilterVerdict :=
  if cs.isEmpty then .accepted else read cs .start 0 (Text.trim cs)

/-- What becomes of several directives: the first that is not accepted counts. -/
def judgeAll : List (List Char) → FilterVerdict
  | [] => .accepted
  | d :: ds => match judgeDirective d with
    | .accepted => judgeAll ds
    | v => v

/-- What becomes of a level, perhaps with further directives after commas, when
it is given to a named part of a program. -/
def judgeLevel (s : String) : FilterVerdict :=
  match Text.pieces ',' s.toList with
  | [] => .accepted
  | first :: others => if isLevel first then judgeAll others else .refused

/-- Every directive must be accepted. -/
theorem judgeAll_eq_accepted_iff {ds : List (List Char)} :
    judgeAll ds = .accepted ↔ ∀ d ∈ ds, judgeDirective d = .accepted := by
  induction ds with
  | nil => simp [judgeAll]
  | cons d ds ih =>
    unfold judgeAll
    cases h : judgeDirective d <;> simp [h, ih]

/-- A level, several directives, a word that is no level, and blanks. -/
example : judgeLevel "Debug" = .accepted ∧ judgeLevel "info,net[span]=3,warn" = .accepted ∧
    judgeLevel "loud" = .refused ∧ judgeLevel "" = .accepted ∧
    judgeLevel "info, net" = .accepted ∧ judgeLevel "info, net=3" = .refused ∧
    judgeLevel "info, é=3" = .torn := by decide +kernel

end LogFilter

end LiveLog
