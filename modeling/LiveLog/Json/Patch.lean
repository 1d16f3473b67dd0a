import LiveLog.Json.Pointer
import LiveLog.Json.Reader

namespace LiveLog

/-!
# JSON patches

A patch is a list of operations on a document, each at the end of a pointer.
`Operation.apply` carries one out and says what stood in the way, if anything
did. An operation that fails leaves the document as it was, with one
exception: a move whose value cannot be put down has still been taken away.
-/

/-- One operation on a document. -/
inductive Operation
  /-- Set a member, or insert before a position; a dash appends. -/
  | add (path : Pointer) (value : Json)
  /-- Take a value away. -/
  | remove (path : Pointer)
  /-- Overwrite a value that is there. -/
  | replace (path : Pointer) (value : Json)
  /-- Take a value away and add it elsewhere. -/
  | move (source path : Pointer)
  /-- Add a value that is also elsewhere. -/
  | copy (source path : Pointer)
  /-- Require that a value is there. -/
  | test (path : Pointer) (value : Json)
deriving DecidableEq

/-- A list of operations, carried out in order. -/
abbrev Patch := List Operation

/-- Why an operation could not be carried out. -/
inductive Obstacle
  | noPath
  | noSource
  | mismatch
  | intoItself
deriving DecidableEq, Repr

/-- The wording of an obstacle. -/
def Obstacle.message : Obstacle → String
  | noPath => "path is invalid"
  | noSource => "\"from\" path is invalid"
  | mismatch => "value did not match"
  | intoItself => "cannot move the value inside itself"

namespace Json

/-- A container with a value added under a token. -/
def addChild? (token : String) (value : Json) : Json → Option Json
  | .obj ms => some (.obj (Assoc.set token value ms))
  | .arr xs =>
    if token = "-" then some (.arr (xs ++ [value]))
    else (Count.position? token).bind fun i =>
      if i ≤ xs.length then some (.arr (xs.take i ++ value :: xs.drop i)) else none
  | _ => none

/-- A container without the value under a token. -/
def removeChild? (token : String) : Json → Option Json
  | .obj ms => if (ms.lookup token).isSome then some (.obj (Assoc.swapErase token ms)) else none
  | .arr xs => (Count.position? token).bind fun i =>
      if i < xs.length then some (.arr (xs.eraseIdx i)) else none
  | _ => none

/-- The document with a value added at a pointer. -/
def add? (doc : Json) (path : Pointer) (value : Json) : Option Json :=
  match path.tokens.getLast? with
  | none => some value
  | some last => doc.modify? (addChild? last value) path.tokens.dropLast

/-- The document without the value at a pointer. -/
def remove? (doc : Json) (path : Pointer) : Option Json :=
  match path.tokens.getLast? with
  | none => none
  | some last => doc.modify? (removeChild? last) path.tokens.dropLast

/-- The document with the value at a pointer overwritten. -/
def replace? (doc : Json) (path : Pointer) (value : Json) : Option Json :=
  doc.modify? (fun _ => some value) path.tokens

end Json

namespace Operation

/-- Where the operation takes effect. -/
def path : Operation → Pointer
  | add path _ | remove path | replace path _ | move _ path | copy _ path | test path _ => path

/-- The value that the operation carries. -/
def value? : Operation → Option Json
  | add _ value | replace _ value | test _ value => some value
  | _ => none

/-- The name of the operation. -/
def name : Operation → String
  | add .. => "add"
  | remove .. => "remove"
  | replace .. => "replace"
  | move .. => "move"
  | copy .. => "copy"
  | test .. => "test"

/-- Whether one pointer leads through the value of another. -/
def leadsInto (source path : Pointer) : Bool :=
  source.tokens.isPrefixOf path.tokens && decide (source.tokens.length < path.tokens.length)

/-- The document after an attempt, and what stood in the way. -/
def settle (doc : Json) (o : Obstacle) : Option Json → Json × Option Obstacle
  | some doc' => (doc', none)
  | none => (doc, some o)

/-- Carry an operation out. -/
def apply (op : Operation) (doc : Json) : Json × Option Obstacle :=
  match op with
  | add path value => settle doc .noPath (doc.add? path value)
  | remove path => settle doc .noPath (doc.remove? path)
  | replace path value => settle doc .noPath (doc.replace? path value)
  | move source path =>
    if leadsInto source path then (doc, some .intoItself)
    else match doc.resolve? source.tokens, doc.remove? source with
      | some value, some without => settle without .noPath (without.add? path value)
      | _, _ => (doc, some .noSource)
  | copy source path =>
    match doc.resolve? source.tokens with
    | some value => settle doc .noPath (doc.add? path value)
    | none => (doc, some .noSource)
  | test path value =>
    match doc.resolve? path.tokens with
    | some found => (doc, if found.same value then none else some .mismatch)
    | none => (doc, some .noPath)

/-- Only a move can change the document and fail. -/
theorem apply_fst_of_obstacle {op : Operation} {doc : Json} {o : Obstacle}
    (hop : ∀ source path, op ≠ move source path) (h : (op.apply doc).2 = some o) :
    (op.apply doc).1 = doc := by
  cases op with
  | move source path => exact absurd rfl (hop source path)
  | add path value =>
    cases hd : doc.add? path value <;> simp_all [apply, settle]
  | remove path =>
    cases hd : doc.remove? path <;> simp_all [apply, settle]
  | replace path value =>
    cases hd : doc.replace? path value <;> simp_all [apply, settle]
  | copy source path =>
    cases hs : doc.resolve? source.tokens with
    | none => simp [apply, hs]
    | some value => cases hd : doc.add? path value <;> simp_all [apply, settle]
  | test path value =>
    cases hs : doc.resolve? path.tokens <;> simp [apply, hs]

/-- An operation is written with its name first. -/
def toJson : Operation → Json
  | add path value => .obj [("op", .str "add"), ("path", .str path.text), ("value", value)]
  | remove path => .obj [("op", .str "remove"), ("path", .str path.text)]
  | replace path value => .obj [("op", .str "replace"), ("path", .str path.text), ("value", value)]
  | move source path =>
    .obj [("op", .str "move"), ("from", .str source.text), ("path", .str path.text)]
  | copy source path =>
    .obj [("op", .str "copy"), ("from", .str source.text), ("path", .str path.text)]
  | test path value => .obj [("op", .str "test"), ("path", .str path.text), ("value", value)]

/-- Read a pointer. -/
def pointerReader : Reader Pointer := .parsed Pointer.ofText?

/-- A path and a value. -/
def valueFields (make : Pointer → Json → Operation) : Fields Operation :=
  make <$> Fields.required "path" pointerReader <*> Fields.required "value" Reader.json

/-- A source and a path. -/
def sourceFields (make : Pointer → Pointer → Operation) : Fields Operation :=
  make <$> Fields.required "from" pointerReader <*> Fields.required "path" pointerReader

/-- Operations are told apart by their names. -/
def form : Tagged Operation where
  tag := "op"
  variants := [("add", .fields (valueFields add)),
    ("remove", .fields (remove <$> Fields.required "path" pointerReader)),
    ("replace", .fields (valueFields replace)),
    ("move", .fields (sourceFields move)),
    ("copy", .fields (sourceFields copy)),
    ("test", .fields (valueFields test))]
  fallback := none

/-- Read an operation. -/
def reader : Reader Operation := form.reader

end Operation

namespace Patch

/-- A patch is written as the array of its operations. -/
def toJson (patch : Patch) : Json := .ofList Operation.toJson patch

/-- Read a patch. -/
def reader : Reader Patch := Operation.reader.list

end Patch

end LiveLog
