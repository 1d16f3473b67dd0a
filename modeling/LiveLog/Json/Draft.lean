import LiveLog.Json.Numeral
import LiveLog.Text.Hex

namespace LiveLog

/-!
# JSON text, as far as it can be read

A text is read one character at a time by a machine that keeps the open
containers on a stack, so reading is a fold over the characters. The result is
a *draft*: the syntax tree of the part before the first place where the text
breaks the grammar. A draft keeps what a value forgets, repeated keys above
all, because whether a repetition matters is decided by who reads the object.

Some pieces are grammatical but stand for no value: a number beyond the range
of floats, a string with an unpaired surrogate escape, a container nested too
deeply. They are `unfit`: a reader that skips them does not mind, a reader that
needs their value does.
-/

/-- The key of a member. -/
inductive Draft.Key
  | name (s : String)
  /-- The key stands for no string, because of an unpaired surrogate. -/
  | unfit
  /-- No key could be read after a comma. -/
  | missing
  /-- Something other than a string stands where the first key is due. -/
  | unnamed
deriving DecidableEq

/-- The syntax tree of a text, up to the place where the text goes wrong. -/
inductive Draft
  | null
  | bool (b : Bool)
  | num (n : Number)
  | str (s : String)
  /-- An array; `stop` tells why it could not be closed. -/
  | arr (items : List Draft) (stop : Option Flaw)
  /-- An object; `stop` tells why it could not be closed. -/
  | obj (members : List (Draft.Key × Draft)) (stop : Option Flaw)
  /-- A piece that can be skipped but has no value. -/
  | unfit (inner : Draft)
  /-- A literal or a numeral begins here and cannot be read to its end. -/
  | broken (f : Flaw)
  /-- No value could be read here. -/
  | flaw (f : Flaw)
deriving Inhabited

namespace Draft

/-- How many containers may enclose one another. -/
def deepest : Nat := 127

/-- A container inside `depth` others. -/
def atDepth (depth : Nat) (d : Draft) : Draft := if depth < deepest then d else .unfit d

/-- The value that a word begins with, and what follows it in the word. -/
def ofWord (atEnd : Bool) (word : List Char) : Except Flaw (Draft × List Char) :=
  match word with
  | 'n' :: _ => (Numeral.literal atEnd ['n', 'u', 'l', 'l'] word).map (Draft.null, ·)
  | 't' :: _ => (Numeral.literal atEnd ['t', 'r', 'u', 'e'] word).map (Draft.bool true, ·)
  | 'f' :: _ => (Numeral.literal atEnd ['f', 'a', 'l', 's', 'e'] word).map (Draft.bool false, ·)
  | _ => (Numeral.split atEnd word).map fun p =>
      (match p.number? with
        | some n => .num n
        | none => .unfit .null, p.rest)

end Draft

namespace JsonText

/-- What of an escape has been read, inside a string. -/
inductive Escape
  /-- Not inside an escape. -/
  | outside
  /-- After a backslash. -/
  | backslash
  /-- Inside four hexadecimal digits, of which `count` are read; `lead` is the
  leading surrogate that waits for its partner. -/
  | hex (count value : Nat) (lead : Option Nat)
  /-- After a digit that is not hexadecimal; so many more bytes decide. -/
  | badHex (bytes : Nat)
  /-- After a leading surrogate, which needs a second escape. -/
  | lead (value : Nat)
  /-- After a leading surrogate and a backslash. -/
  | leadBackslash (value : Nat)
deriving DecidableEq

/-- A string that is being read; `read` is backwards. `fit` turns false at the
first unpaired surrogate. -/
structure Quote where
  read : List Char
  escape : Escape
  fit : Bool
deriving DecidableEq

/-- What a string does with one more character. -/
inductive QuoteStep
  | more (q : Quote)
  | closed (q : Quote)
  | broken (q : Quote)

namespace Quote

/-- The character of a short escape. -/
def short? (c : Char) : Option Char :=
  if c = '"' then some '"'
  else if c = '\\' then some '\\'
  else if c = '/' then some '/'
  else if c = 'b' then some (Char.ofNat 8)
  else if c = 'f' then some (Char.ofNat 12)
  else if c = 'n' then some '\n'
  else if c = 'r' then some '\r'
  else if c = 't' then some '\t'
  else none

/-- One character outside any escape. -/
def plain (q : Quote) (c : Char) : QuoteStep :=
  if c = '"' then .closed q
  else if c = '\\' then .more { q with escape := .backslash }
  else if c.toNat < 32 then .broken q
  else .more { q with read := c :: q.read, escape := .outside }

/-- One character after a backslash. -/
def escaped (q : Quote) (c : Char) : QuoteStep :=
  if c = 'u' then .more { q with escape := .hex 0 0 none }
  else match short? c with
    | some e => .more { q with read := e :: q.read, escape := .outside }
    | none => .broken q

/-- A surrogate that has no partner. -/
def unpaired (q : Quote) : Quote := { q with escape := .outside, fit := false }

/-- Four hexadecimal digits have been read. -/
def unit (q : Quote) (value : Nat) : Option Nat → Quote
  | none =>
    if 0xD800 ≤ value ∧ value ≤ 0xDBFF then { q with escape := .lead value }
    else if 0xDC00 ≤ value ∧ value ≤ 0xDFFF then q.unpaired
    else { q with read := Char.ofNat value :: q.read, escape := .outside }
  | some high =>
    if 0xDC00 ≤ value ∧ value ≤ 0xDFFF then
      let code := (high - 0xD800) * 0x400 + (value - 0xDC00) + 0x10000
      { q with read := Char.ofNat code :: q.read, escape := .outside }
    else q.unpaired

/-- One more character of a string. -/
def step (q : Quote) (c : Char) : QuoteStep :=
  match q.escape with
  | .outside => q.plain c
  | .backslash => q.escaped c
  | .hex count value lead =>
    match Hex.value? c with
    | some d =>
      if count = 3 then .more (q.unit (value * 16 + d) lead)
      else .more { q with escape := .hex (count + 1) (value * 16 + d) lead }
    | none =>
      if 4 - count ≤ c.utf8Size then .broken q
      else .more { q with escape := .badHex (4 - count - c.utf8Size) }
  | .badHex bytes =>
    if bytes ≤ c.utf8Size then .broken q
    else .more { q with escape := .badHex (bytes - c.utf8Size) }
  | .lead value =>
    if c = '\\' then .more { q with escape := .leadBackslash value } else q.unpaired.plain c
  | .leadBackslash value =>
    if c = 'u' then .more { q with escape := .hex 0 0 (some value) } else q.unpaired.escaped c

/-- The string that has been read, if it stands for one. -/
def string? (q : Quote) : Option String :=
  if q.fit then some (String.ofList q.read.reverse) else none

/-- The key that has been read. -/
def key (q : Quote) : Draft.Key :=
  match q.string? with
  | some s => .name s
  | none => .unfit

end Quote

/-- An open container; what it holds so far is backwards. -/
inductive Frame
  | items (done : List Draft)
  | members (done : List (Draft.Key × Draft))
  /-- An object whose next member's key has been read. -/
  | member (done : List (Draft.Key × Draft)) (key : Draft.Key)

/-- What is due next, or being read. -/
inductive Phase
  /-- A value; where `closable`, the end of an array that is empty. -/
  | value (closable : Bool)
  /-- A key; where `closable`, the end of an object that is empty. -/
  | key (closable : Bool)
  | colon
  /-- A comma, or the end of a container. -/
  | next
  | quote (isKey : Bool) (q : Quote)
  /-- A literal or a number, backwards. -/
  | word (read : List Char)
  /-- The value is complete; whether something else follows it. -/
  | ended (root : Draft) (trailing : Bool)

/-- The reader: its open containers, innermost first, and its phase. -/
structure Machine where
  stack : List Frame
  phase : Phase

/-- What was read: the draft of the value, and whether more text follows it. -/
structure Outcome where
  root : Draft
  trailing : Bool

namespace Machine

/-- A whole value is expected. -/
def start : Machine := ⟨[], .value false⟩

/-- Put a complete value where it belongs. -/
def push (d : Draft) : List Frame → Machine
  | [] => ⟨[], .ended d false⟩
  | .items done :: rest => ⟨.items (d :: done) :: rest, .next⟩
  | .member done key :: rest => ⟨.members ((key, d) :: done) :: rest, .next⟩
  | .members done :: rest => ⟨.members ((.missing, d) :: done) :: rest, .next⟩

/-- The draft of a container that is closed, or broken off. -/
def wrap (stop : Option Flaw) (depth : Nat) : Frame → Draft
  | .items done => Draft.atDepth depth (.arr done.reverse stop)
  | .members done => Draft.atDepth depth (.obj done.reverse stop)
  | .member done key =>
    Draft.atDepth depth (.obj ((key, .flaw (stop.getD .malformed)) :: done).reverse stop)

/-- Close the innermost container. -/
def close : List Frame → Machine
  | [] => start
  | frame :: rest => push (wrap none rest.length frame) rest

/-- Add a value to a container that breaks off after it. -/
def addLast (d : Draft) : Frame → Frame
  | .items done => .items (d :: done)
  | .members done => .members ((.missing, d) :: done)
  | .member done key => .members ((key, d) :: done)

/-- The draft of everything that is open, when the text breaks off inside the
draft `d`. -/
def unwind (f : Flaw) : List Frame → Draft → Draft
  | [], d => d
  | frame :: rest, d => unwind f rest (wrap (some f) rest.length (addLast d frame))

/-- The text breaks off where no value has begun. -/
def breakOff (f : Flaw) : List Frame → Draft
  | [] => .flaw f
  | frame :: rest => unwind f rest (wrap (some f) rest.length frame)

/-- The text breaks off where a key is due, or inside one. -/
def breakKey (f : Flaw) (stack : List Frame) : Draft :=
  match stack with
  | .members (_ :: _) :: _ => unwind f stack (.flaw f)
  | _ => breakOff f stack

/-- The text goes wrong for good: what follows is not looked at. -/
def halt (d : Draft) : Machine := ⟨[], .ended d true⟩

/-- The draft of a text that breaks off inside a string. -/
def breakQuote (f : Flaw) (isKey : Bool) (q : Quote) (stack : List Frame) : Draft :=
  if isKey then
    match q.fit, stack with
    | false, .members done :: rest => unwind f (.member done .unfit :: rest) (.flaw f)
    | _, _ => breakKey f stack
  else unwind f stack (if q.fit then .flaw f else .unfit (.flaw f))

/-- A string is complete. -/
def closeQuote (stack : List Frame) (isKey : Bool) (q : Quote) : Machine :=
  if isKey then
    match stack with
    | .members done :: rest => ⟨.member done q.key :: rest, .colon⟩
    | _ => ⟨stack, .colon⟩
  else
    push (match q.string? with
      | some s => .str s
      | none => .unfit (.str "")) stack

/-- A word is complete, because of another character or of the end. -/
def closeWord (stack : List Frame) (atEnd : Bool) (read : List Char) : Machine :=
  match Draft.ofWord atEnd read.reverse with
  | .error f => halt (unwind f stack (.broken f))
  | .ok (d, []) => push d stack
  | .ok (d, _ :: _) =>
    let m := push d stack
    match m.phase with
    | .ended root _ => halt root
    | _ => halt (breakOff .malformed m.stack)

/-- The blanks of the grammar. -/
def isBlank (c : Char) : Bool := c = ' ' || c = '\n' || c = '\t' || c = '\r'

/-- The characters of literals and numerals. -/
def isWord (c : Char) : Bool := c.isAlphanum || c = '+' || c = '-' || c = '.'

/-- Begin a value. -/
def openValue (stack : List Frame) (c : Char) : Machine :=
  if c = '[' then ⟨.items [] :: stack, .value true⟩
  else if c = '{' then ⟨.members [] :: stack, .key true⟩
  else if c = '"' then ⟨stack, .quote false ⟨[], .outside, true⟩⟩
  else if c = '-' ∨ c.isDigit ∨ c = 'n' ∨ c = 't' ∨ c = 'f' then ⟨stack, .word [c]⟩
  else halt (unwind .malformed stack (.flaw .malformed))

/-- Begin what stands in place of a key. Only the first key of an object is
read although it is no string. -/
def openUnnamed (first : Bool) (stack : List Frame) (c : Char) : Machine :=
  match first, stack with
  | true, .members done :: rest => openValue (.member done .unnamed :: rest) c
  | _, _ => halt (breakKey .malformed stack)

/-- A character that is neither blank nor part of a string or word. -/
def mark (m : Machine) (c : Char) : Machine :=
  match m.phase with
  | .value closable =>
    if closable ∧ c = ']' then close m.stack else openValue m.stack c
  | .key closable =>
    if closable ∧ c = '}' then close m.stack
    else if c = '"' then ⟨m.stack, .quote true ⟨[], .outside, true⟩⟩
    else openUnnamed closable m.stack c
  | .colon =>
    if c = ':' then ⟨m.stack, .value false⟩ else halt (unwind .malformed m.stack (.flaw .malformed))
  | .next =>
    match m.stack with
    | .items _ :: _ =>
      if c = ',' then ⟨m.stack, .value false⟩
      else if c = ']' then close m.stack
      else halt (breakOff .malformed m.stack)
    | _ =>
      if c = ',' then ⟨m.stack, .key false⟩
      else if c = '}' then close m.stack
      else halt (breakOff .malformed m.stack)
  | .ended root _ => ⟨m.stack, .ended root true⟩
  | _ => m

/-- Read one character. -/
def step (m : Machine) (c : Char) : Machine :=
  match m.phase with
  | .quote isKey q =>
    match q.step c with
    | .more q' => ⟨m.stack, .quote isKey q'⟩
    | .closed q' => closeQuote m.stack isKey q'
    | .broken q' => halt (breakQuote .malformed isKey q' m.stack)
  | .word read =>
    if isWord c then ⟨m.stack, .word (c :: read)⟩
    else
      let m' := closeWord m.stack false read
      if isBlank c then m' else m'.mark c
  | _ => if isBlank c then m else m.mark c

/-- Read many characters. -/
def run (m : Machine) (cs : List Char) : Machine := cs.foldl step m

/-- The text ends. -/
def finish (m : Machine) : Outcome :=
  match m.phase with
  | .ended root trailing => ⟨root, trailing⟩
  | .word read =>
    match (closeWord m.stack true read) with
    | ⟨_, .ended root trailing⟩ => ⟨root, trailing⟩
    | ⟨stack, _⟩ => ⟨breakOff .cutShort stack, false⟩
  | .quote isKey q => ⟨breakQuote .cutShort isKey q m.stack, false⟩
  | .value false | .colon => ⟨unwind .cutShort m.stack (.flaw .cutShort), false⟩
  | .key false => ⟨breakKey .cutShort m.stack, false⟩
  | _ => ⟨breakOff .cutShort m.stack, false⟩

@[simp] theorem run_nil (m : Machine) : m.run [] = m := rfl

@[simp] theorem run_cons (m : Machine) (c : Char) (cs : List Char) :
    m.run (c :: cs) = (m.step c).run cs := rfl

theorem run_append (m : Machine) (cs ds : List Char) : m.run (cs ++ ds) = (m.run cs).run ds :=
  List.foldl_append

end Machine

/-- Read a text. -/
def read (s : String) : Outcome := (Machine.start.run s.toList).finish

end JsonText

namespace Draft

mutual

/-- The value of a draft, or the first flaw of the text. In an object, a
repeated key keeps its first place and its last value. -/
def toJson : Draft → Except Flaw Json
  | .null => .ok .null
  | .bool b => .ok (.bool b)
  | .num n => .ok (.num n)
  | .str s => .ok (.str s)
  | .arr items stop => do
    let xs ← toItems items
    match stop with
    | some f => .error f
    | none => .ok (.arr xs)
  | .obj members stop => do
    let ms ← toMembers [] members
    match stop with
    | some f => .error f
    | none => .ok (.obj ms)
  | .unfit _ => .error .malformed
  | .broken f => .error f
  | .flaw f => .error f

/-- The values of drafts in order. -/
def toItems : List Draft → Except Flaw (List Json)
  | [] => .ok []
  | d :: ds => do
    let x ← toJson d
    let xs ← toItems ds
    .ok (x :: xs)

/-- The members of an object, added to those before them. -/
def toMembers (done : List (String × Json)) :
    List (Draft.Key × Draft) → Except Flaw (List (String × Json))
  | [] => .ok done
  | (.unfit, _) :: _ => .error .malformed
  | (.unnamed, _) :: _ => .error .malformed
  | (.missing, d) :: ds => do
    let _ ← toJson d
    toMembers done ds
  | (.name k, d) :: ds => do
    let x ← toJson d
    toMembers (Assoc.set k x done) ds

end

mutual

/-- The first flaw that a reader meets who skips the piece. -/
def skip : Draft → Option Flaw
  | .arr items stop => (skipItems items).or stop
  | .obj members stop => (skipMembers members).or stop
  | .unfit inner => skip inner
  | .broken f => some f
  | .flaw f => some f
  | _ => none

/-- The first flaw in skipped items. -/
def skipItems : List Draft → Option Flaw
  | [] => none
  | d :: ds => (skip d).or (skipItems ds)

/-- The first flaw in skipped members. -/
def skipMembers : List (Draft.Key × Draft) → Option Flaw
  | [] => none
  | (.unnamed, _) :: _ => some .malformed
  | (_, d) :: ds => (skip d).or (skipMembers ds)

end

/-- The first flaw that a reader meets who needs the value. -/
def take (d : Draft) : Option Flaw :=
  match d.toJson with
  | .error f => some f
  | .ok _ => none

mutual

/-- The value of a draft with null in place of what has none. -/
def fill : Draft → Json
  | .null => .null
  | .bool b => .bool b
  | .num n => .num n
  | .str s => .str s
  | .arr items _ => .arr (fillItems items)
  | .obj members _ => .obj (fillMembers [] members)
  | .unfit _ => .null
  | .broken _ => .null
  | .flaw _ => .null

/-- The filled values of drafts in order. -/
def fillItems : List Draft → List Json
  | [] => []
  | d :: ds => fill d :: fillItems ds

/-- The filled members of an object, added to those before them. -/
def fillMembers (done : List (String × Json)) :
    List (Draft.Key × Draft) → List (String × Json)
  | [] => done
  | (.name k, d) :: ds => fillMembers (Assoc.set k (fill d) done) ds
  | (_, _) :: ds => fillMembers done ds

end

end Draft

/-- The JSON value of a text, or the first flaw of the text. -/
def Json.ofText (s : String) : Except Flaw Json := do
  let out := JsonText.read s
  let v ← out.root.toJson
  if out.trailing then .error .malformed else .ok v

end LiveLog
