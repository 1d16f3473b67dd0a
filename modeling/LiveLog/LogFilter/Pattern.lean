import LiveLog.Text.Blank
import LiveLog.Text.Hex
import LiveLog.Text.Letters

namespace LiveLog

/-!
# Patterns of field values

A filter may ask that a field of a record match a pattern. This module says
which texts are patterns. They are regular expressions whose alphabet is
Unicode, but which know no property of characters beyond ASCII: classes such
as digits, boundaries of words, and matching regardless of case are refused
unless the pattern turns to ASCII by a flag. A count in braces would need a
closing brace, and that ends a field.

A pattern is read from left to right by a machine that keeps the open groups
and the depth of the open brackets.
-/

namespace FilterPattern

/-- What the flags of a pattern say. -/
structure Flags where
  /-- Case does not matter. -/
  foldsCase : Bool
  /-- The alphabet is all of Unicode. -/
  wide : Bool
  /-- Blanks and remarks in the pattern do not count. -/
  spaced : Bool
deriving DecidableEq

/-- What a character or an escape is read for. -/
inductive Use
  | item
  /-- A member of a bracket. -/
  | member
  /-- The end of a range in a bracket, whose start is given. -/
  | rangeEnd (low : Nat)
deriving DecidableEq

/-- Where in a pattern the reading stands. -/
inductive Place
  /-- Outside brackets; whether something stands before that can be repeated. -/
  | item (repeatable : Bool)
  /-- After a backslash. -/
  | escape (use : Use)
  /-- Inside the digits of an escape; `short` if there are two in all. -/
  | digits (left value : Nat) (short : Bool) (use : Use)
  /-- After an opening parenthesis. -/
  | group
  /-- After an opening parenthesis and a question mark. -/
  | groupMark
  /-- Before the angle bracket that opens a group's name. -/
  | nameMark
  /-- Inside the name of a group, backwards. -/
  | name (read : List Char)
  /-- Inside flags, backwards. -/
  | flags (seen : List Char)
  /-- At the beginning of a bracket: after a caret, after hyphens. -/
  | opening (caret hyphens : Bool)
  /-- Inside a bracket. -/
  | member
  /-- After a member of a bracket; its code point, if it is a character. -/
  | afterMember (low : Option Nat)
  /-- Before the end of a range. -/
  | rangeEnd (low : Nat)
  /-- Before some characters of a bracket that have been looked at already. -/
  | passing (left : Nat)
deriving DecidableEq

/-- The reading of a pattern. -/
structure Reading where
  flags : Flags
  /-- The flags outside each open group, innermost first. -/
  groups : List Flags
  names : List (List Char)
  /-- How many brackets are open. -/
  depth : Nat
  /-- Inside a remark. -/
  remark : Bool
  place : Place

namespace Reading

/-- An expression is about to be read. -/
def start : Reading := ⟨⟨false, true, false⟩, [], [], 0, false, .item false⟩

/-- The same reading at another place. -/
def goTo (r : Reading) (place : Place) : Option Reading := some { r with place := place }

/-- Whether blanks do not count at a place, where the flags say so. -/
def isLoose : Place → Bool
  | .item _ | .digits .. | .group | .opening .. | .member | .afterMember _ | .rangeEnd _ => true
  | _ => false

/-- A character that stands for itself. Matching regardless of case needs
properties of it, unless the alphabet is ASCII. -/
def literal (r : Reading) (n : Nat) : Use → Option Reading
  | .item => if r.flags.foldsCase && r.flags.wide then none else r.goTo (.item true)
  | .member => if r.flags.wide || n < 0x80 then r.goTo (.afterMember (some n)) else none
  | .rangeEnd low => if low ≤ n && (r.flags.wide || n < 0x80) then r.goTo .member else none

/-- A class of characters that an escape names. -/
def namedClass (r : Reading) : Use → Option Reading
  | .item => r.goTo (.item true)
  | .member => r.goTo (.afterMember none)
  | .rangeEnd _ => none

/-- A condition on the place in the text. -/
def condition (r : Reading) : Use → Option Reading
  | .item => r.goTo (.item true)
  | _ => none

/-- The code points of the letters that stand for control characters. -/
def controls : List (Char × Nat) :=
  [('a', 7), ('f', 12), ('t', 9), ('n', 10), ('r', 13), ('v', 11)]

/-- The escapes that name a code point by its digits, and how many there are. -/
def digitCounts : List (Char × Nat) := [('x', 2), ('u', 4), ('U', 8)]

/-- A character after a backslash. -/
def escaped (r : Reading) (c : Char) (use : Use) : Option Reading :=
  match digitCounts.lookup c, controls.lookup c with
  | some n, _ => r.goTo (.digits n 0 (n = 2) use)
  | none, some n => r.literal n use
  | none, none =>
    if c = 'A' ∨ c = 'z' then r.condition use
    else if c = 'b' ∨ c = 'B' ∨ c = '<' ∨ c = '>' then
      if r.flags.wide then none else r.condition use
    else if c = 'd' ∨ c = 's' ∨ c = 'w' then
      if r.flags.wide then none else r.namedClass use
    else if c.isAlphanum ∨ 0x80 ≤ c.toNat then none
    else r.literal c.toNat use

/-- One digit of an escape. The last one makes the code point. -/
def digit (r : Reading) (c : Char) (left value : Nat) (short : Bool) (use : Use) :
    Option Reading := do
  let value := value * 16 + (← Hex.value? c)
  if 1 < left then r.goTo (.digits (left - 1) value short use)
  else if value.isValidChar && (r.flags.wide || !short || value < 0x80) then r.literal value use
  else none

/-- A group opens; the flags inside it are given. -/
def openGroup (r : Reading) (inner : Flags) : Reading :=
  { r with flags := inner, groups := r.flags :: r.groups, place := .item false }

/-- A bracket opens. -/
def openBracket (r : Reading) : Option Reading :=
  if r.flags.foldsCase && r.flags.wide then none
  else some { r with depth := r.depth + 1, place := .opening false false }

/-- A character outside brackets. -/
def item (r : Reading) (repeatable : Bool) (c : Char) : Option Reading :=
  match c with
  | '(' => r.goTo .group
  | ')' => match r.groups with
    | [] => none
    | outer :: groups => some { r with flags := outer, groups := groups, place := .item true }
  | '|' => r.goTo (.item false)
  | '[' => r.openBracket
  | '?' | '*' | '+' => if repeatable then r.goTo (.item true) else none
  | '\x7b' => none
  | '\\' => r.goTo (.escape .item)
  | '.' => if r.flags.wide then r.goTo (.item true) else none
  | '^' | '$' => r.goTo (.item true)
  | c => r.literal c.toNat .item

/-- What flags say, given backwards. Those after a hyphen are put out. -/
def setFlags (flags : Flags) : List Char → Flags
  | [] => flags
  | c :: before =>
    let flags := setFlags flags before
    let on := !before.contains '-'
    match c with
    | 'i' => { flags with foldsCase := on }
    | 'u' => { flags with wide := on }
    | 'x' => { flags with spaced := on }
    | _ => flags

/-- A character inside flags. -/
def flag (r : Reading) (seen : List Char) (c : Char) : Option Reading :=
  if c = ')' ∨ c = ':' then
    if seen.head? = some '-' ∨ (c = ')' ∧ seen = []) then none
    else if c = ')' then some { r with flags := setFlags r.flags seen, place := .item false }
    else some (r.openGroup (setFlags r.flags seen))
  else if ['-', 'i', 'm', 's', 'U', 'u', 'R', 'x'].contains c && !seen.contains c then
    r.goTo (.flags (c :: seen))
  else none

/-- A character inside the name of a group. -/
def nameChar (r : Reading) (read : List Char) (c : Char) : Option Reading :=
  if c = '>' then
    if read = [] ∨ r.names.contains read then none
    else some { r.openGroup r.flags with names := read :: r.names }
  else if c = '_' || (if read = [] then Text.isLetter c
      else ['.', '[', ']'].contains c || Text.isAlphanumeric c) then r.goTo (.name (c :: read))
  else none

/-- The names of classes inside brackets. -/
def classNames : List (List Char) :=
  ["alnum", "alpha", "ascii", "blank", "cntrl", "digit", "graph", "lower", "print", "punct",
    "space", "upper", "word", "xdigit"].map String.toList

/-- The class that is named after an opening bracket: whether it is turned
around, and how many characters name it. -/
def classAhead? (cs : List Char) : Option (Bool × Nat) :=
  match cs with
  | ':' :: rest =>
    let negated := rest.head? = some '^'
    let body := if negated then rest.drop 1 else rest
    let name := body.takeWhile (· ≠ ':')
    if classNames.contains name && (body.drop name.length).take 2 = [':', ']'] then
      some (negated, (if negated then 4 else 3) + name.length)
    else none
  | _ => none

/-- A character inside brackets; what follows it is given. -/
def member (r : Reading) (c : Char) (ahead : List Char) : Option Reading :=
  match c with
  | '[' => match classAhead? ahead with
    | some (negated, n) => if negated && !r.flags.wide then none else r.goTo (.passing n)
    | none => r.openBracket
  | ']' =>
    if r.depth ≤ 1 then some { r with depth := 0, place := .item true }
    else some { r with depth := r.depth - 1, place := .member }
  | '\\' => r.goTo (.escape .member)
  | c =>
    if ['&', '-', '~'].contains c && ahead.head? = some c then r.goTo (.passing 1)
    else r.literal c.toNat .member

/-- A character at the beginning of a bracket. A bracket that is turned around
holds more than ASCII. -/
def opening (r : Reading) (caret hyphens : Bool) (c : Char) (ahead : List Char) :
    Option Reading :=
  if c = '^' && !caret && !hyphens then
    if r.flags.wide then r.goTo (.opening true false) else none
  else if c = '-' then r.goTo (.opening caret true)
  else if c = ']' && !hyphens then r.goTo .member
  else r.member c ahead

/-- A character after a member of a bracket. -/
def afterMember (r : Reading) (low : Option Nat) (c : Char) (ahead : List Char) :
    Option Reading :=
  let next := if r.flags.spaced then (ahead.dropWhile Text.isBlank).head? else ahead.head?
  if c = '-' && next ≠ some ']' && next ≠ some '-' then low.bind fun n => r.goTo (.rangeEnd n)
  else r.member c ahead

/-- A character that counts; what follows it is given. -/
def next (r : Reading) (c : Char) (ahead : List Char) : Option Reading :=
  match r.place with
  | .item repeatable => r.item repeatable c
  | .escape use => r.escaped c use
  | .digits left value short use => r.digit c left value short use
  | .group => if c = '?' then r.goTo .groupMark else (r.openGroup r.flags).item false c
  | .groupMark =>
    if c = 'P' then if ahead.head? = some '<' then r.goTo .nameMark else none
    else if c = '<' then r.goTo (.name [])
    else r.flag [] c
  | .nameMark => r.goTo (.name [])
  | .name read => r.nameChar read c
  | .flags seen => r.flag seen c
  | .opening caret hyphens => r.opening caret hyphens c ahead
  | .member => r.member c ahead
  | .afterMember low => r.afterMember low c ahead
  | .rangeEnd low => if c = '\\' then r.goTo (.escape (.rangeEnd low)) else
      r.literal c.toNat (.rangeEnd low)
  | .passing left => r.goTo (if left ≤ 1 then .member else .passing (left - 1))

/-- Any character; what follows it is given. -/
def step (r : Reading) (c : Char) (ahead : List Char) : Option Reading :=
  if r.remark then some { r with remark := c != '\n' }
  else if r.flags.spaced && isLoose r.place && Text.isBlank c then some r
  else if r.flags.spaced && isLoose r.place && c = '#' then some { r with remark := true }
  else r.next c ahead

/-- Whether a pattern may end here. -/
def isDone (r : Reading) : Bool :=
  r.groups.isEmpty && match r.place with
    | .item _ => true
    | _ => false

/-- Whether some text ends a pattern. -/
def accepts (r : Reading) : List Char → Bool
  | [] => r.isDone
  | c :: cs => match r.step c cs with
    | some r => r.accepts cs
    | none => false

end Reading

/-- Whether a text is a pattern. -/
def isPattern (cs : List Char) : Bool := Reading.start.accepts cs

theorem isPattern_nil : isPattern [] = true := rfl

/-- Nothing stands before the first character that could be repeated. -/
theorem not_isPattern_of_repetition {c : Char} (h : c = '?' ∨ c = '*' ∨ c = '+')
    (cs : List Char) : isPattern (c :: cs) = false := by
  rcases h with h | h | h <;> subst h <;> rfl

/-- Groups, brackets, escapes and flags. -/
example : (["a|b*", "(?P<n>x)?", "[^]a-c&&[[:alpha:]]]", "\\x41\\.", "(?-u:\\w+)", "(?x) a # b"].all
      fun s => isPattern s.toList) = true ∧
    (["(", "a)", "[a", "[c-a]", "\\d", "(?i)a", "a\x7b", "\\", "(?P<n>)(?P<n>)", "(?)"].any
      fun s => isPattern s.toList) = false := by decide +kernel

end FilterPattern

end LiveLog
