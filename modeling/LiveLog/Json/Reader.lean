import LiveLog.Json.Draft

namespace LiveLog

/-!
# Reading typed values from JSON

A `Reader` says how the values of a type are written in JSON. It has two
halves, built together by the combinators of this module. `read` takes a JSON
value to a typed one. `fault` takes a draft of a text to the first fault that a
reader going from left to right meets, so that a text with several faults is
refused for the right one.

The forms are these. A record is an object, whose unknown members are ignored,
or an array of its fields in order. A tagged union is an object one of whose
members is the tag, or an array that begins with the tag. A union with content
keeps tag and content in two members. An enumeration is a name; a named union
is an object with one member.

The members of a tagged union are held back until the tag is known, and values
that are held back are read a little more freely: a tag inside them may also be
the variant's position. The flag `held` carries this.
-/

/-- Why a text does not stand for a value of the wanted type. -/
inductive Fault
  /-- The text is JSON of the wrong shape. -/
  | shape
  /-- The text itself is flawed. -/
  | text (f : Flaw)
deriving DecidableEq, Repr

/-- How the values of a type are written in JSON. -/
structure Reader (α : Type) where
  /-- The value that a JSON value stands for. -/
  read : (held : Bool) → Json → Option α
  /-- The first fault of a draft. -/
  fault : (held : Bool) → Draft → Option Fault

namespace Draft

/-- The fault of a draft where a scalar is wanted. A scalar is read before it
is refused, a container is refused at its first character. -/
def scalarFault (accept : Draft → Bool) : Draft → Option Fault
  | .flaw f => some (.text f)
  | .broken f => some (.text f)
  | .unfit (.arr _ _) => some .shape
  | .unfit (.obj _ _) => some .shape
  | .unfit _ => some (.text .malformed)
  | d => if accept d then none else some .shape

/-- The fault of a draft where a container is wanted. -/
def containerFault (onArr : Option (List Draft → Option Flaw → Option Fault))
    (onObj : Option (List (Draft.Key × Draft) → Option Flaw → Option Fault)) :
    Draft → Option Fault
  | .arr items stop => match onArr with
    | some visit => visit items stop
    | none => some .shape
  | .obj members stop => match onObj with
    | some visit => visit members stop
    | none => some .shape
  | .unfit (.arr _ _) => some (if onArr.isSome then .text .malformed else .shape)
  | .unfit (.obj _ _) => some (if onObj.isSome then .text .malformed else .shape)
  | .unfit _ => some (.text .malformed)
  | .broken f => some (.text f)
  | .flaw f => some (.text f)
  | _ => some .shape

/-- The first flaw among values that are all needed. -/
def takeAll : List Draft → Option Flaw
  | [] => none
  | d :: ds => d.take.or (takeAll ds)

end Draft

namespace Reader

/-- A value read as what it is. -/
def ofJson {α : Type} (r : Reader α) (v : Json) : Option α := r.read false v

/-- A text read from left to right. -/
def ofText {α : Type} (r : Reader α) (s : String) : Except Fault α :=
  let out := JsonText.read s
  match r.fault false out.root with
  | some f => .error f
  | none =>
    if out.trailing then .error (.text .malformed)
    else match r.read false out.root.fill with
      | some a => .ok a
      | none => .error .shape

/-- Any JSON value. -/
def json : Reader Json where
  read _ v := some v
  fault _ d := d.take.map .text

/-- A string that stands for a value. -/
def parsed {α : Type} (parse : String → Option α) : Reader α where
  read _ v := v.text?.bind parse
  fault _ := Draft.scalarFault fun
    | .str s => (parse s).isSome
    | _ => false

/-- Any string. -/
def string : Reader String := parsed some

/-- A boolean. -/
def bool : Reader Bool where
  read _ v := match v with
    | .bool b => some b
    | _ => none
  fault _ := Draft.scalarFault fun
    | .bool _ => true
    | _ => false

/-- An integer between bounds. -/
def int (least most : Int) : Reader Int where
  read _ v := match v with
    | .num (.int n) => if least ≤ n ∧ n ≤ most then some n else none
    | _ => none
  fault _ := Draft.scalarFault fun
    | .num (.int n) => decide (least ≤ n ∧ n ≤ most)
    | _ => false

/-- A value or null. -/
def option {α : Type} (r : Reader α) : Reader (Option α) where
  read held v := match v with
    | .null => some none
    | v => (r.read held v).map some
  fault held d := match d with
    | .null => none
    | d => r.fault held d

/-- An array of values. -/
def list {α : Type} (r : Reader α) : Reader (List α) where
  read held v := match v with
    | .arr xs => xs.mapM (r.read held)
    | _ => none
  fault held := Draft.containerFault
    (some fun items stop => (items.findSome? (r.fault held)).or (stop.map .text)) none

/-- A value read in another type's form. -/
def map {α β : Type} (f : α → β) (r : Reader α) : Reader β where
  read held v := (r.read held v).map f
  fault := r.fault

end Reader

/-- Whether a field may be missing. -/
inductive Presence
  | required
  /-- A missing member counts as null; an array must have the item. -/
  | optional
  /-- A missing member, or missing items at the end of an array, take a default. -/
  | defaulted
deriving DecidableEq

/-- One field of a record, as a reader of drafts sees it. -/
structure FieldForm where
  name : String
  presence : Presence
  fault : (held : Bool) → Draft → Option Fault

/-- The fields of a record, and how they make a value. `read` is given a look-up
of the members that are present. -/
structure Fields (α : Type) where
  forms : List FieldForm
  read : (held : Bool) → (String → Option Json) → Option α

namespace Fields

instance : Functor Fields where
  map f fs := ⟨fs.forms, fun held get => (fs.read held get).map f⟩

instance : Seq Fields where
  seq fs xs := ⟨fs.forms ++ (xs ()).forms, fun held get => do
    let f ← fs.read held get
    let x ← (xs ()).read held get
    return f x⟩

/-- A field that must be present. -/
def required {α : Type} (name : String) (r : Reader α) : Fields α where
  forms := [⟨name, .required, r.fault⟩]
  read held get := (get name).bind (r.read held)

/-- A field that is null when it is missing. -/
def optional {α : Type} (name : String) (r : Reader α) : Fields (Option α) where
  forms := [⟨name, .optional, r.option.fault⟩]
  read held get := match get name with
    | none => some none
    | some v => r.option.read held v

/-- A field that takes a default when it is missing. -/
def defaulted {α : Type} (name : String) (default : α) (r : Reader α) : Fields α where
  forms := [⟨name, .defaulted, r.fault⟩]
  read held get := match get name with
    | none => some default
    | some v => r.read held v

/-- The members of a record value. An array gives its items to the fields in
order: none may be left over, and only fields with a default may go short. -/
def members? (forms : List FieldForm) : Json → Option (List (String × Json))
  | .obj ms => some ms
  | .arr xs =>
    if xs.length ≤ forms.length ∧ (forms.drop xs.length).all (·.presence = .defaulted) then
      some ((forms.map (·.name)).zip xs)
    else none
  | _ => none

/-- The value of a record. -/
def value {α : Type} (fs : Fields α) (held : Bool) (v : Json) : Option α :=
  (members? fs.forms v).bind fun ms => fs.read held fun name => ms.lookup name

/-- The first fault among the members of an object, some of whose names are
already seen. -/
def memberFault (forms : List FieldForm) (held : Bool) (stop : Option Flaw) :
    List String → List (Draft.Key × Draft) → Option Fault
  | seen, [] =>
    match stop with
    | some f => some (.text f)
    | none =>
      if forms.any fun form => form.presence = .required ∧ form.name ∉ seen then some .shape
      else none
  | _, (.unfit, _) :: _ => some (.text .malformed)
  | _, (.unnamed, _) :: _ => some (.text .malformed)
  | seen, (.missing, d) :: ms => (d.skip.map .text).or (memberFault forms held stop seen ms)
  | seen, (.name k, d) :: ms =>
    match forms.find? (·.name = k) with
    | none => (d.skip.map .text).or (memberFault forms held stop seen ms)
    | some form =>
      if k ∈ seen then some .shape
      else (form.fault held d).or (memberFault forms held stop (k :: seen) ms)

/-- The first fault among the items of an array that stands for a record. -/
def itemFault (held : Bool) (stop : Option Flaw) : List FieldForm → List Draft → Option Fault
  | [], [] => stop.map .text
  | [], _ :: _ => some (if held then .shape else .text .malformed)
  | form :: forms, [] =>
    match stop with
    | some f => some (.text f)
    | none =>
      if form.presence = .defaulted then itemFault held stop forms [] else some .shape
  | form :: forms, d :: ds => (form.fault held d).or (itemFault held stop forms ds)

/-- The first fault of a draft that should be a record. -/
def draftFault {α : Type} (fs : Fields α) (held : Bool) : Draft → Option Fault :=
  Draft.containerFault (some fun items stop => itemFault held stop fs.forms items)
    (some fun members stop => memberFault fs.forms held stop [] members)

/-- A record. -/
def reader {α : Type} (fs : Fields α) : Reader α := ⟨fs.value, fs.draftFault⟩

end Fields

/-- One alternative of a tagged union: what its remaining members make. -/
structure Variant (α : Type) where
  read : Json → Option α
  fault : Draft → Option Fault

namespace Variant

/-- An alternative without fields. An array has nothing after its tag. -/
def unit {α : Type} (a : α) : Variant α where
  read v := match v with
    | .obj _ => some a
    | .arr [] => some a
    | _ => none
  fault d := match d with
    | .obj _ _ => none
    | .arr [] _ => none
    | _ => some .shape

/-- An alternative with fields. -/
def fields {α : Type} (fs : Fields α) : Variant α := ⟨fs.value true, fs.draftFault true⟩

end Variant

/-- A union whose alternatives are told apart by a tag among the members. -/
structure Tagged (α : Type) where
  tag : String
  variants : List (String × Variant α)
  /-- What an unknown tag stands for, where unknown tags are allowed. -/
  fallback : Option α

namespace Tagged

variable {α : Type}

/-- The alternative that a tag's name selects. -/
def named (t : Tagged α) (name : String) : Option (Variant α) :=
  (t.variants.lookup name).or (t.fallback.map .unit)

/-- The alternative that a tag's position selects. -/
def placed (t : Tagged α) (place : Nat) : Option (Variant α) :=
  (t.variants[place]?.map Prod.snd).or (t.fallback.map .unit)

/-- The alternative that a tag selects. -/
def select (t : Tagged α) (held : Bool) : Json → Option (Variant α)
  | .str name => t.named name
  | .num (.int n) => if held ∧ 0 ≤ n then t.placed n.toNat else none
  | _ => none

/-- The value of a tagged union. -/
def value (t : Tagged α) (held : Bool) : Json → Option α
  | .obj ms => do
    let variant ← t.select held (← ms.lookup t.tag)
    variant.read (.obj ms)
  | .arr (x :: xs) => do
    let variant ← t.select held x
    variant.read (.arr xs)
  | _ => none

/-- The alternative that the draft of a tag selects. -/
def selectDraft (t : Tagged α) (held : Bool) : Draft → Option (Variant α)
  | .str name => t.named name
  | .num (.int n) => if held ∧ 0 ≤ n then t.placed n.toNat else none
  | _ => none

/-- The fault of the draft of a tag. -/
def tagFault (t : Tagged α) (held : Bool) : Draft → Option Fault :=
  Draft.scalarFault fun d => (t.selectDraft held d).isSome

/-- The fault of what the tag leaves, once all of it is known. -/
def restFault (t : Tagged α) (held : Bool) (tag rest : Draft) : Option Fault :=
  match t.selectDraft held tag with
  | some variant => (variant.fault rest).map fun _ => Fault.shape
  | none => some .shape

/-- The first fault among the members of an object; `tag` is the tag if it has
been seen, and `others` are the members before, backwards. -/
def memberFault (t : Tagged α) (held : Bool) (stop : Option Flaw) :
    Option Draft → List (Draft.Key × Draft) → List (Draft.Key × Draft) → Option Fault
  | tag, others, [] =>
    match stop, tag with
    | some f, _ => some (.text f)
    | none, none => some .shape
    | none, some d => t.restFault held d (.obj others.reverse none)
  | _, _, (.unfit, _) :: _ => some (.text .malformed)
  | _, _, (.unnamed, _) :: _ => some (.text .malformed)
  | tag, others, (.missing, d) :: ms =>
    (d.take.map .text).or (memberFault t held stop tag others ms)
  | tag, others, (.name k, d) :: ms =>
    if k = t.tag then
      if tag.isSome then some .shape
      else (t.tagFault held d).or (memberFault t held stop (some d) others ms)
    else (d.take.map .text).or (memberFault t held stop tag ((.name k, d) :: others) ms)

/-- The first fault among the items of an array that begins with a tag. -/
def itemFault (t : Tagged α) (held : Bool) (items : List Draft) (stop : Option Flaw) :
    Option Fault :=
  match items with
  | [] => some (match stop with
    | some f => .text f
    | none => .shape)
  | tag :: rest =>
    (t.tagFault held tag).or <| ((Draft.takeAll rest).map .text).or <| (stop.map .text).or <|
      t.restFault held tag (.arr rest none)

/-- A tagged union. -/
def reader (t : Tagged α) : Reader α where
  read := t.value
  fault held := Draft.containerFault (some (t.itemFault held))
    (some fun members stop => t.memberFault held stop none [] members)

end Tagged

/-- One alternative of a named union: a name alone, or a name with a value. -/
inductive Named (α : Type)
  | unit (a : α)
  | value (r : Reader α)

namespace Named

variable {α : Type}

/-- What a name alone stands for. -/
def alone? : Named α → Option α
  | .unit a => some a
  | .value _ => none

/-- What a name with a value stands for. A name that needs none may come with
null and, where it is held back, with an empty object. -/
def withValue (held : Bool) : Named α → Json → Option α
  | .unit a, .null => some a
  | .unit a, .obj [] => if held then some a else none
  | .unit _, _ => none
  | .value r, v => r.read held v

/-- The fault of the value beside a name. -/
def valueFault (held : Bool) : Named α → Draft → Option Fault
  | .unit _ => Draft.scalarFault fun
    | .null => true
    | .obj [] _ => held
    | _ => false
  | .value r => r.fault held

end Named

namespace Reader

variable {α : Type}

/-- A union whose alternatives are named: the name, or an object with the name
as its one member. In a text, a second member breaks the grammar of the union
before it is read, and so does a value that is neither a string nor an object:
not even its first word is read. -/
def named (variants : List (String × Named α)) : Reader α where
  read held v := match v with
    | .str name => (variants.lookup name).bind Named.alone?
    | .obj [(name, v)] => (variants.lookup name).bind fun n => n.withValue held v
    | _ => none
  fault held d := match d with
    | .str name => if ((variants.lookup name).bind Named.alone?).isSome then none else some .shape
    | .obj members stop =>
      match members, stop with
      | [], some f => some (.text f)
      | [], none => some (.text .malformed)
      | (.unfit, _) :: _, _ => some (.text .malformed)
      | (.missing, d) :: _, _ => (d.skip.map .text).or (some (.text .malformed))
      | (.unnamed, d) :: _, _ => Draft.scalarFault (fun _ => false) d
      | (.name k, d) :: rest, stop =>
        match variants.lookup k with
        | none => some .shape
        | some n => (n.valueFault held d).or <|
            if rest.isEmpty then stop.map .text
            else some (if held then .shape else .text .malformed)
    | .flaw f => some (.text f)
    | _ => some (if held then .shape else .text .malformed)

/-- An enumeration: one of a list of names. -/
def enumeration (names : List (String × α)) : Reader α :=
  named (names.map fun p => (p.1, .unit p.2))

end Reader

/-- A union that keeps its tag and its content in two members. -/
structure Content (α : Type) where
  tag : String
  content : String
  variants : List (String × Reader α)

namespace Content

variable {α : Type}

/-- The reader of the tag among members: it gives the reader of the content. -/
def tagReader (c : Content α) : Reader (Reader α) := Reader.enumeration c.variants

/-- The reader of the content that a tag in front of it selects. Such a tag is a
name and, where it is held back, perhaps a position. -/
def select (c : Content α) (held : Bool) : Json → Option (Reader α)
  | .str name => c.variants.lookup name
  | .num (.int n) => if held ∧ 0 ≤ n then c.variants[n.toNat]?.map Prod.snd else none
  | _ => none

/-- Whether the content comes before the tag. -/
def contentFirst (c : Content α) : List (String × Json) → Bool
  | [] => false
  | (k, _) :: ms => if k = c.tag then false else k = c.content || contentFirst c ms

/-- The value of a union with content. Content that comes before its tag is
held back. -/
def value (c : Content α) (held : Bool) : Json → Option α
  | .obj ms => do
    let r ← c.tagReader.read held (← ms.lookup c.tag)
    r.read (held || c.contentFirst ms) (← ms.lookup c.content)
  | .arr [t, x] => do
    let r ← c.select held t
    r.read held x
  | _ => none

/-- The first fault among the members of an object; `tag` and `content` are
those already seen. -/
def memberFault (c : Content α) (held : Bool) (stop : Option Flaw) :
    Option (Option (Reader α)) → Option Draft → List (Draft.Key × Draft) → Option Fault
  | tag, content, [] =>
    match stop, tag, content with
    | some f, _, _ => some (.text f)
    | none, some _, some _ => none
    | none, _, _ => some .shape
  | _, _, (.unfit, _) :: _ => some (.text .malformed)
  | _, _, (.unnamed, _) :: _ => some (.text .malformed)
  | tag, content, (.missing, d) :: ms =>
    (d.skip.map .text).or (memberFault c held stop tag content ms)
  | tag, content, (.name k, d) :: ms =>
    if k = c.tag then
      if tag.isSome then some .shape
      else
        let r := c.tagReader.read held d.fill
        (c.tagReader.fault held d).or <|
          (match r, content with
            | some r, some x => (r.fault true x).map fun _ => Fault.shape
            | _, _ => none).or <|
          memberFault c held stop (some r) content ms
    else if k = c.content then
      if content.isSome then some .shape
      else match tag with
        | some (some r) => (r.fault held d).or (memberFault c held stop tag (some d) ms)
        | _ => (d.take.map .text).or (memberFault c held stop tag (some d) ms)
    else (d.skip.map .text).or (memberFault c held stop tag content ms)

/-- The first fault among the items of an array of tag and content. -/
def itemFault (c : Content α) (held : Bool) (items : List Draft) (stop : Option Flaw) :
    Option Fault :=
  let missing : Option Fault := some (match stop with
    | some f => .text f
    | none => .shape)
  match items with
  | [] => missing
  | t :: rest => (Draft.scalarFault (fun d => (c.select held d.fill).isSome) t).or <|
    match rest, c.select held t.fill with
    | [], _ => missing
    | x :: more, some r => (r.fault held x).or <|
        if more.isEmpty then stop.map .text
        else some (if held then .shape else .text .malformed)
    | _, none => some .shape

/-- A union with content. -/
def reader (c : Content α) : Reader α where
  read := c.value
  fault held := Draft.containerFault (some (c.itemFault held))
    (some fun members stop => c.memberFault held stop none none members)

end Content

end LiveLog
