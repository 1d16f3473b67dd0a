import LiveLog.Proofs.EntryList
import LiveLog.Proofs.Framing

namespace LiveLog

/-!
# Replacements that may add

A replacement of what is not there is tried again as an addition, and the two follow
different rules: an overwriting needs a value at the end of the way and moves nothing,
an addition inserts into an array, appends at a dash or at the position right behind
the last item, and gives an object a new member. `Conversation.Upserts` says what
becomes of the two together. A value that is there is overwritten in its place; else
the outcome is that of the addition; and what was written can be read back, so that
the same operation a second time finds its own value.

The way through a document is followed one token at a time. `Json.child?` and
`Json.setChild` say for both kinds of container what a token names and how it is
overwritten, and every induction below is on the tokens, with those two as the step.
-/

namespace Assoc

variable {κ : Type} {α : Type} [DecidableEq κ]

/-- Setting the first member with a key leaves the members around it in their places. -/
theorem set_append_cons {k : κ} {before : List (κ × α)} (first : k ∉ keys before) (x y : α)
    (after : List (κ × α)) :
    set k y (before ++ (k, x) :: after) = before ++ (k, y) :: after := by
  induction before with
  | nil => exact if_pos rfl
  | cons p before inductionHypothesis =>
      rw [keys_cons, List.mem_cons, not_or] at first
      rw [List.cons_append, set, if_neg (Ne.symm first.1), inductionHypothesis first.2,
        List.cons_append]

/-- What a key finds is the first member with that key. -/
theorem split_of_lookup {k : κ} {x : α} {ps : List (κ × α)} (found : ps.lookup k = some x) :
    ∃ before after, ps = before ++ (k, x) :: after ∧ k ∉ keys before := by
  rcases List.lookup_eq_some_iff.mp found with ⟨before, after, split, apart⟩
  refine ⟨before, after, split, ?_⟩
  intro present
  rcases List.mem_map.mp present with ⟨p, listed, same⟩
  exact bne_iff_ne.mp (apart p listed) same.symm

end Assoc

namespace Json

/-- What a token names in a container. -/
def child? (token : String) : Json → Option Json
  | .obj ms => ms.lookup token
  | .arr xs => (Count.position? token).bind fun i => xs[i]?
  | _ => none

/-- A container with what a token names overwritten. -/
def setChild (doc : Json) (token : String) (y : Json) : Json :=
  match doc, Count.position? token with
  | .obj ms, _ => .obj (Assoc.set token y ms)
  | .arr xs, some i => .arr (xs.set i y)
  | v, _ => v

/-- Two containers that differ in what one token names: the members or items before
it and after it are the same ones in the same places. -/
inductive DiffersAt (token : String) (x y : Json) : Json → Json → Prop
  | member (before after : List (String × Json)) (first : token ∉ Assoc.keys before) :
      DiffersAt token x y (.obj (before ++ (token, x) :: after))
        (.obj (before ++ (token, y) :: after))
  | item (before after : List Json) (position : Count.position? token = some before.length) :
      DiffersAt token x y (.arr (before ++ x :: after)) (.arr (before ++ y :: after))

/-- Two documents that differ in the value at the end of a way, which is `v` in the
second one. -/
inductive Overwrites (v : Json) : List String → Json → Json → Prop
  | here (x : Json) : Overwrites v [] x v
  | under {token : String} {ts : List String} {x y doc doc' : Json}
      (around : DiffersAt token x y doc doc') (inner : Overwrites v ts x y) :
      Overwrites v (token :: ts) doc doc'

section Child

variable {token : String} {x y doc doc' : Json}

theorem differsAt_setChild (found : doc.child? token = some x) (y : Json) :
    DiffersAt token x y doc (doc.setChild token y) := by
  cases doc with
  | obj ms =>
      rcases Assoc.split_of_lookup found with ⟨before, after, rfl, first⟩
      change DiffersAt token x y _ (.obj (Assoc.set token y (before ++ (token, x) :: after)))
      rw [Assoc.set_append_cons first]
      exact DiffersAt.member before after first
  | arr xs =>
      rcases Option.bind_eq_some_iff.mp found with ⟨i, position, item⟩
      rcases List.getElem?_eq_some_iff.mp item with ⟨inside, value⟩
      rcases @List.exists_of_set _ i y xs inside with ⟨before, after, split, rfl, written⟩
      simp only [setChild, position]
      rw [written, split, value]
      exact DiffersAt.item before after position
  | null => cases found
  | bool b => cases found
  | num n => cases found
  | str s => cases found

/-- The second of two containers that differ at a token holds the second value there. -/
theorem DiffersAt.child? (differs : DiffersAt token x y doc doc') :
    doc'.child? token = some y := by
  cases differs with
  | member before after first =>
      rw [← Assoc.set_append_cons first x y after]
      exact Assoc.lookup_set_self token y _
  | item before after position =>
      rw [child?, position, Option.bind_some, List.getElem?_append_right (Nat.le_refl _),
        Nat.sub_self]
      rfl

theorem DiffersAt.symm (differs : DiffersAt token x y doc doc') :
    DiffersAt token y x doc' doc := by
  cases differs with
  | member before after first => exact DiffersAt.member before after first
  | item before after position => exact DiffersAt.item before after position

theorem DiffersAt.eq_of_self (differs : DiffersAt token x x doc doc') : doc' = doc := by
  cases differs with
  | member before after first => rfl
  | item before after position => rfl

/-- What is added under a token is found there, unless the token is a dash. -/
theorem child?_of_addChild? (named : token ≠ "-") (added : addChild? token x doc = some doc') :
    doc'.child? token = some x := by
  cases doc with
  | obj ms =>
      cases added
      exact Assoc.lookup_set_self token x ms
  | arr xs =>
      rw [addChild?, if_neg named] at added
      rcases Option.bind_eq_some_iff.mp added with ⟨i, position, inserted⟩
      rcases Option.ite_none_right_eq_some.mp inserted with ⟨within, same⟩
      cases same
      rw [child?, position, Option.bind_some, insertIdx_eq_take_drop within,
        List.getElem?_insertIdx_self, if_pos within]
  | null => cases added
  | bool b => cases added
  | num n => cases added
  | str s => cases added

end Child

theorem resolve?_cons (token : String) (ts : List String) (doc : Json) :
    resolve? (token :: ts) doc = (doc.child? token).bind (resolve? ts) := by
  cases doc with
  | arr xs => exact (Option.bind_assoc _ _ _).symm
  | obj ms => rfl
  | null => rfl
  | bool b => rfl
  | num n => rfl
  | str s => rfl

/-- A change below a token is a change of what the token names. -/
theorem modify?_cons (f : Json → Option Json) (token : String) (ts : List String) (doc : Json) :
    modify? f (token :: ts) doc =
      (doc.child? token).bind fun x => (modify? f ts x).map fun y => doc.setChild token y := by
  cases doc with
  | obj ms =>
      rw [modify?, child?]
      cases ms.lookup token with
      | some x => exact Option.map_eq_bind.symm
      | none => rfl
  | arr xs =>
      rw [modify?, child?]
      cases position : Count.position? token with
      | some i =>
          simp only [Option.bind_eq_bind, Option.bind_some, setChild, position]
          cases xs[i]? with
          | some x => exact Option.map_eq_bind.symm
          | none => rfl
      | none => rfl
  | null => rfl
  | bool b => rfl
  | num n => rfl
  | str s => rfl

/-- A longer way goes on where a shorter one ends. -/
theorem resolve?_append (ts us : List String) (doc : Json) :
    resolve? (ts ++ us) doc = (resolve? ts doc).bind (resolve? us) := by
  induction ts generalizing doc with
  | nil => rfl
  | cons token ts inductionHypothesis =>
      rw [List.cons_append, resolve?_cons, resolve?_cons, Option.bind_assoc]
      exact congrArg (doc.child? token).bind (funext inductionHypothesis)

section Way

variable {f : Json → Option Json} {ts : List String} {v w x doc doc' : Json}

/-- After a change, the way ends in the changed value. -/
theorem exists_resolve?_of_modify? (modified : modify? f ts doc = some doc') :
    ∃ x y, resolve? ts doc = some x ∧ f x = some y ∧ resolve? ts doc' = some y := by
  induction ts generalizing doc doc' with
  | nil => exact ⟨doc, doc', rfl, modified, rfl⟩
  | cons token ts inductionHypothesis =>
      rw [modify?_cons] at modified
      rcases Option.bind_eq_some_iff.mp modified with ⟨z, found, changed⟩
      rcases Option.map_eq_some_iff.mp changed with ⟨z', inner, rfl⟩
      rcases inductionHypothesis inner with ⟨x, y, old, step, new⟩
      have written := (differsAt_setChild found z').child?
      refine ⟨x, y, ?_, step, ?_⟩
      · rw [resolve?_cons, found, Option.bind_some, old]
      · rw [resolve?_cons, written, Option.bind_some, new]

/-- A way that leads to a value lets it be overwritten, and nothing else changes. -/
theorem exists_overwrites (found : resolve? ts doc = some x) (v : Json) :
    ∃ doc', modify? (fun _ => some v) ts doc = some doc' ∧ Overwrites v ts doc doc' := by
  induction ts generalizing doc with
  | nil => exact ⟨v, rfl, Overwrites.here doc⟩
  | cons token ts inductionHypothesis =>
      rw [resolve?_cons] at found
      rcases Option.bind_eq_some_iff.mp found with ⟨z, named, rest⟩
      rcases inductionHypothesis rest with ⟨z', changed, inner⟩
      refine ⟨doc.setChild token z', ?_, Overwrites.under (differsAt_setChild named z') inner⟩
      rw [modify?_cons, named, Option.bind_some, changed, Option.map_some]

/-- Overwriting a value by itself leaves the whole document as it is. -/
theorem eq_of_overwrites_self (found : resolve? ts doc = some v)
    (overwrites : Overwrites v ts doc doc') : doc' = doc := by
  induction overwrites with
  | here x => exact (Option.some.inj found).symm
  | under around inner inductionHypothesis =>
      rw [resolve?_cons, around.symm.child?, Option.bind_some] at found
      rw [inductionHypothesis found] at around
      exact around.eq_of_self

end Way

section Document

variable {doc doc' v : Json} {p : Pointer}

/-- A replacement takes effect where there is a value, and there alone. -/
theorem replace?_eq_none : doc.replace? p v = none ↔ doc.resolve? p.tokens = none := by
  constructor
  · intro refused
    cases found : doc.resolve? p.tokens with
    | none => rfl
    | some x =>
        rcases exists_overwrites found v with ⟨doc', changed, -⟩
        cases refused.symm.trans changed
  · intro missing
    cases replaced : doc.replace? p v with
    | none => rfl
    | some doc' =>
        have found := resolve?_isSome_of_modify? replaced
        rw [missing] at found
        cases found

theorem overwrites_of_replace? (replaced : doc.replace? p v = some doc') :
    Overwrites v p.tokens doc doc' := by
  rcases exists_resolve?_of_modify? replaced with ⟨x, -, found, -, -⟩
  rcases exists_overwrites found v with ⟨doc'', changed, overwrites⟩
  cases replaced.symm.trans changed
  exact overwrites

theorem resolve?_of_replace? (replaced : doc.replace? p v = some doc') :
    doc'.resolve? p.tokens = some v := by
  rcases exists_resolve?_of_modify? replaced with ⟨-, y, -, written, read⟩
  rw [read, Option.some.inj written]

/-- Where a value is there already, its replacement by itself finds nothing to do. -/
theorem replace?_self (held : doc.resolve? p.tokens = some v) : doc.replace? p v = some doc := by
  rcases exists_overwrites held v with ⟨doc', changed, overwrites⟩
  rw [eq_of_overwrites_self held overwrites] at changed
  exact changed

/-- An added value is read at its pointer, unless the pointer ends in a dash: what a
dash appends to an array has a position for its name. -/
theorem resolve?_of_add? (named : p.tokens.getLast? ≠ some "-")
    (added : doc.add? p v = some doc') : doc'.resolve? p.tokens = some v := by
  rw [add?] at added
  cases ending : p.tokens.getLast? with
  | none =>
      rw [ending] at added
      cases added
      rw [List.getLast?_eq_none_iff.mp ending]
      rfl
  | some token =>
      rw [ending] at added named
      rcases exists_resolve?_of_modify? added with ⟨x, y, -, child, parent⟩
      have stored := child?_of_addChild? (fun dash => named (congrArg some dash)) child
      rw [← List.dropLast_append_getLast? token ending, resolve?_append, parent, Option.bind_some,
        resolve?_cons, stored]
      rfl

end Document

end Json

/-- The path and the value of a replacement, written as JSON and given the other name,
are read as the addition. -/
theorem Operation.ofJson_renamed (p : Pointer) (v : Json) :
    Operation.reader.ofJson (.obj [("path", .str p.text), ("value", v), ("op", .str "add")]) =
      some (.add p v) :=
  Operation.valueFields_read .add true rfl rfl

namespace Conversation

/-- A conversation with a document, published at a time. -/
def holding (c : Conversation) (doc : Json) (now : Int) : Conversation :=
  ⟨c.owner, doc, Snapshot.ofDocument doc now⟩

/-- What a replacement in a conversation amounts to. -/
structure Upserts (c : Conversation) (p : Pointer) (v : Json) (now : Int) : Prop where
  /-- It succeeds where there is a value and where the addition would succeed. -/
  succeeds : (c.applyBatch [.replace p v] now).2.isClean = true ↔
    (c.document.resolve? p.tokens).isSome = true ∨
      (c.applyBatch [.add p v] now).2.isClean = true
  /-- A value that is there is overwritten, and everything else keeps its place. -/
  overwritten : (c.document.resolve? p.tokens).isSome = true →
    Json.Overwrites v p.tokens c.document (c.applyBatch [.replace p v] now).1.document
  /-- Where there is no value, it does what the addition does. -/
  added : c.document.resolve? p.tokens = none →
    (c.applyBatch [.replace p v] now).1 = (c.applyBatch [.add p v] now).1
  /-- Without success nothing changes. -/
  refused : (c.applyBatch [.replace p v] now).2.isClean = false →
    (c.applyBatch [.replace p v] now).1 = c
  /-- After a success the value is found at its pointer. -/
  read : (c.applyBatch [.replace p v] now).2.isClean = true →
    p.tokens.getLast? ≠ some "-" →
    (c.applyBatch [.replace p v] now).1.document.resolve? p.tokens = some v
  /-- After a success the same operation succeeds again, and all that changes is the
  time at which the document was published. -/
  again : (c.applyBatch [.replace p v] now).2.isClean = true →
    p.tokens.getLast? ≠ some "-" → ∀ later : Int,
    let after := (c.applyBatch [.replace p v] now).1
    (after.applyBatch [.replace p v] later).2.isClean = true ∧
      (after.applyBatch [.replace p v] later).1 =
        { after with snapshot := { after.snapshot with updatedAt := some later } }

section Single

variable {c : Conversation} {p : Pointer} {v doc' : Json}

theorem applyBatch_of_applied {op : Operation}
    (applied : applyOperation 0 op c.document = (doc', none)) (now : Int) :
    c.applyBatch [op] now = (c.holding doc' now, ⟨1, []⟩) := by
  rw [applyBatch, applyFrom_of_applied applied]
  rfl

theorem applyBatch_of_reported {op : Operation} {d : Dropped}
    (reported : applyOperation 0 op c.document = (c.document, some d)) (now : Int) :
    c.applyBatch [op] now = (c, ⟨0, [d]⟩) := by
  rw [applyBatch, applyFrom_of_reported reported]
  rfl

theorem applyBatch_add (c : Conversation) (p : Pointer) (v : Json) (now : Int) :
    c.applyBatch [.add p v] now =
      match c.document.add? p v with
      | some doc' => (c.holding doc' now, ⟨1, []⟩)
      | none => (c, ⟨0, [⟨0, .add p v, .noPath, none⟩]⟩) := by
  cases added : c.document.add? p v with
  | some doc' =>
      apply applyBatch_of_applied
      simp only [applyOperation, Operation.apply, added, Operation.settle]
  | none =>
      apply applyBatch_of_reported
      simp only [applyOperation, Operation.apply, added, Operation.settle]

theorem applyBatch_replace_of_present (replaced : c.document.replace? p v = some doc')
    (now : Int) : c.applyBatch [.replace p v] now = (c.holding doc' now, ⟨1, []⟩) := by
  apply applyBatch_of_applied
  simp only [applyOperation, Operation.apply, replaced, Operation.settle]

theorem applyBatch_replace_of_missing (missing : c.document.replace? p v = none) (now : Int) :
    c.applyBatch [.replace p v] now =
      match c.document.add? p v with
      | some doc' => (c.holding doc' now, ⟨1, []⟩)
      | none => (c, ⟨0, [⟨0, .replace p v, .noPath, some .noPath⟩]⟩) := by
  have outcome := applyOperation_replace missing
  cases added : c.document.add? p v with
  | some doc' =>
      rw [added] at outcome
      exact applyBatch_of_applied outcome now
  | none =>
      rw [added] at outcome
      exact applyBatch_of_reported outcome now

/-- A replacement where the value is there already publishes the document anew. -/
theorem applyBatch_replace_self (held : c.document.resolve? p.tokens = some v) (now : Int) :
    c.applyBatch [.replace p v] now = (c.holding c.document now, ⟨1, []⟩) :=
  applyBatch_replace_of_present (Json.replace?_self held) now

/-- Once the value is held, a repetition changes the time of publication alone. -/
theorem holding_again (read : doc'.resolve? p.tokens = some v) (now later : Int) :
    (c.holding doc' now).applyBatch [.replace p v] later =
      ({ c.holding doc' now with
          snapshot := { (c.holding doc' now).snapshot with updatedAt := some later } },
        ⟨1, []⟩) :=
  applyBatch_replace_self (c := c.holding doc' now) read later

theorem upserts_of_present (replaced : c.document.replace? p v = some doc') (now : Int) :
    c.Upserts p v now := by
  have outcome := applyBatch_replace_of_present replaced now
  have found := Json.resolve?_isSome_of_modify? replaced
  have read := Json.resolve?_of_replace? replaced
  constructor
  case succeeds =>
    rw [outcome]
    exact ⟨fun _ => Or.inl found, fun _ => rfl⟩
  case overwritten =>
    intro _
    rw [outcome]
    exact Json.overwrites_of_replace? replaced
  case added =>
    intro missing
    rw [missing] at found
    cases found
  case refused =>
    rw [outcome]
    intro impossible
    cases impossible
  case read =>
    intro _ _
    rw [outcome]
    exact read
  case again =>
    intro _ _ later
    rw [outcome]
    dsimp only
    rw [holding_again read]
    exact ⟨rfl, rfl⟩

theorem upserts_of_added (missing : c.document.replace? p v = none)
    (added : c.document.add? p v = some doc') (now : Int) : c.Upserts p v now := by
  have outcome := applyBatch_replace_of_missing missing now
  have addition := applyBatch_add c p v now
  have absent := Json.replace?_eq_none.mp missing
  rw [added] at outcome addition
  constructor
  case succeeds =>
    rw [outcome, addition]
    exact ⟨fun _ => Or.inr rfl, fun _ => rfl⟩
  case overwritten =>
    rw [absent]
    intro impossible
    cases impossible
  case added =>
    intro _
    rw [outcome, addition]
  case refused =>
    rw [outcome]
    intro impossible
    cases impossible
  case read =>
    intro _ named
    rw [outcome]
    exact Json.resolve?_of_add? named added
  case again =>
    intro _ named later
    rw [outcome]
    dsimp only
    rw [holding_again (Json.resolve?_of_add? named added)]
    exact ⟨rfl, rfl⟩

theorem upserts_of_refused (missing : c.document.replace? p v = none)
    (refused : c.document.add? p v = none) (now : Int) : c.Upserts p v now := by
  have outcome := applyBatch_replace_of_missing missing now
  have addition := applyBatch_add c p v now
  have absent := Json.replace?_eq_none.mp missing
  rw [refused] at outcome addition
  have failed : (c.applyBatch [.replace p v] now).2.isClean ≠ true := by
    rw [outcome]
    exact Bool.false_ne_true
  constructor
  case succeeds =>
    rw [outcome, addition, absent]
    constructor
    · intro impossible
      cases impossible
    · rintro (impossible | impossible)
      · cases impossible
      · cases impossible
  case overwritten =>
    rw [absent]
    intro impossible
    cases impossible
  case added =>
    intro _
    rw [outcome, addition]
  case refused =>
    intro _
    rw [outcome]
  case read =>
    intro clean
    exact absurd clean failed
  case again =>
    intro clean
    exact absurd clean failed

/-- The two attempts never both take effect. -/
theorem upserts (c : Conversation) (p : Pointer) (v : Json) (now : Int) : c.Upserts p v now := by
  cases replaced : c.document.replace? p v with
  | some doc' => exact upserts_of_present replaced now
  | none =>
      cases added : c.document.add? p v with
      | some doc' => exact upserts_of_added replaced added now
      | none => exact upserts_of_refused replaced added now

end Single

/-- A batch of two parts does what the second part does after the first one. -/
theorem applyBatch_append (c : Conversation) (first second : Patch) (now : Int) :
    let begun := c.applyBatch first now
    let ended := begun.1.applyBatch second now
    let whole := c.applyBatch (first ++ second) now
    whole.1.document = ended.1.document ∧
      whole.2 = begun.2.append (ended.2.behind first.length) := by
  intro begun ended whole
  have parts := applyFrom_append 0 c.document first second
  rw [Nat.add_comm, applyFrom_behind] at parts
  have document := congrArg Prod.fst parts
  have outcome := congrArg Prod.snd parts
  exact ⟨document, outcome⟩

/-- Wherever a replacement stands in a batch, it overwrites or adds in the document
that the operations before it have left, as `Upserts` says, and the operations behind
it go on from there: the document and the reports of the batch are those of the three
steps. The addition is the replacement read under the other name. -/
theorem replace_upserts (c : Conversation) (earlier later : Patch) (p : Pointer) (v : Json)
    (now : Int) :
    let reached := c.applyBatch earlier now
    let replaced := reached.1.applyBatch [.replace p v] now
    let rest := replaced.1.applyBatch later now
    let whole := c.applyBatch (earlier ++ .replace p v :: later) now
    reached.1.Upserts p v now ∧ whole.1.document = rest.1.document ∧
      whole.2 = reached.2.append
        ((replaced.2.append (rest.2.behind 1)).behind earlier.length) ∧
      Operation.reader.ofJson (.obj [("path", .str p.text), ("value", v), ("op", .str "add")]) =
        some (.add p v) := by
  intro reached replaced rest whole
  rcases c.applyBatch_append earlier (.replace p v :: later) now with ⟨document, outcome⟩
  rcases reached.1.applyBatch_append [.replace p v] later now with ⟨document', outcome'⟩
  have reports := congrArg (fun o => reached.2.append (o.behind earlier.length)) outcome'
  exact ⟨upserts reached.1 p v now, document.trans document', outcome.trans reports,
    Operation.ofJson_renamed p v⟩

/-- Overwritten in place, added behind the last item, added to an object, refused. -/
example :
    let doc := Json.obj [("a", .arr [.null, .obj [("x", .null)]]), ("b", .null)]
    let after (tokens : List String) := applyFrom 0 doc [.replace ⟨tokens⟩ (.bool true)]
    after ["a", "0"] =
        (.obj [("a", .arr [.bool true, .obj [("x", .null)]]), ("b", .null)], ⟨1, []⟩) ∧
      after ["a", "2"] =
        (.obj [("a", .arr [.null, .obj [("x", .null)], .bool true]), ("b", .null)], ⟨1, []⟩) ∧
      after ["a", "1", "y"] =
        (.obj [("a", .arr [.null, .obj [("x", .null), ("y", .bool true)]]), ("b", .null)],
          ⟨1, []⟩) ∧
      (after ["b", "y"]).1 = doc ∧ (after ["b", "y"]).2.applied = 0 := by
  decide +kernel

end Conversation

end LiveLog
