import LiveLog.Json.Reader
import Mathlib.Data.List.Nodup

namespace LiveLog

/-!
# Readers that read what is written

A value can be read from many forms and is written in one. A reader is stable if it
reads the written form of whatever it has read as the same value, held back or not. All
that is asked of the written form is asked of values that were read: a number out of
bounds, say, need not be restored.

Each combinator of readers has its law here, so that a type is stable as soon as its
fields or its alternatives are. Three things need care. An optional value may be any
value but the one that is written for its absence, so a stable reader also has null
written only for what null was read as. A default must itself be restored, because it
is written out. And the value that an unknown tag stands for must be one of the
alternatives that have a name.
-/

namespace Assoc

variable {κ : Type} {α : Type} [DecidableEq κ] {ps : List (κ × α)} {k : κ} {a : α}

theorem mem_of_lookup (found : ps.lookup k = some a) : (k, a) ∈ ps := by
  rcases List.lookup_eq_some_iff.mp found with ⟨before, after, split, -⟩
  rw [split]
  exact List.mem_append_right before List.mem_cons_self

theorem lookup_of_mem (nodup : (keys ps).Nodup) (listed : (k, a) ∈ ps) : ps.lookup k = some a := by
  induction ps with
  | nil => cases listed
  | cons p ps inductionHypothesis =>
      rw [keys_cons, List.nodup_cons] at nodup
      rcases List.mem_cons.mp listed with first | later
      · rw [← first, List.lookup_cons, beq_self_eq_true]
      · have other : (k == p.1) = false := by
          rw [beq_eq_false_iff_ne]
          intro same
          exact nodup.1 (same ▸ List.mem_map_of_mem later)
        rw [List.lookup_cons, other]
        exact inductionHypothesis nodup.2 later

end Assoc

namespace Reader

variable {α β : Type} {r : Reader α} {write : α → Json}

/-- What was read is read again from its written form, and null is written only for
what was read from null. -/
structure Stable (r : Reader α) (write : α → Json) : Prop where
  again : ∀ held v x, r.read held v = some x → ∀ later, r.read later (write x) = some x
  null : ∀ held v x, r.read held v = some x → write x = .null → v = .null

/-- A reader whose values are never written as null is stable if they are read again. -/
theorem Stable.of_filled (filled : ∀ held v x, r.read held v = some x →
    write x ≠ .null ∧ ∀ later, r.read later (write x) = some x) : r.Stable write where
  again := fun held v x read => (filled held v x read).2
  null := fun held v x read null => absurd null (filled held v x read).1

theorem stable_json : json.Stable id where
  again := by
    intro held v x read later
    rfl
  null := by
    intro held v x read null
    cases read
    exact null

theorem stable_parsed {parse : String → Option α} {text : α → String}
    (back : ∀ s x, parse s = some x → parse (text x) = some x) :
    (parsed parse).Stable fun x => .str (text x) := by
  apply Stable.of_filled
  intro held v x read
  rcases Option.bind_eq_some_iff.mp read with ⟨s, -, parsed⟩
  exact ⟨nofun, fun _later => back s x parsed⟩

theorem stable_string : string.Stable Json.str := stable_parsed fun _s _x _read => rfl

theorem stable_bool : bool.Stable Json.bool := by
  apply Stable.of_filled
  intro held v x read
  exact ⟨nofun, fun _later => rfl⟩

theorem stable_int (least most : Int) : (int least most).Stable Json.ofInt := by
  apply Stable.of_filled
  intro held v x read
  unfold int at read
  dsimp only at read
  split at read
  · rw [Option.ite_none_right_eq_some] at read
    rw [← Option.some.inj read.2]
    exact ⟨nofun, fun _later => if_pos read.1⟩
  · cases read

theorem Stable.option (stable : r.Stable write) : r.option.Stable (Json.ofOption write) where
  again := by
    intro held v o read later
    unfold Reader.option at read ⊢
    dsimp only at read ⊢
    split at read
    · rw [← Option.some.inj read]
      rfl
    · rename_i filled
      rcases Option.map_eq_some_iff.mp read with ⟨x, found, rfl⟩
      unfold Json.ofOption
      split
      · -- Null is written for absence only, so nothing else is taken for it.
        rename_i null
        exact absurd (stable.null held v x found null) filled
      · rw [stable.again held v x found later, Option.map_some]
  null := by
    intro held v o read null
    unfold Reader.option at read
    dsimp only at read
    split at read
    · rfl
    · rcases Option.map_eq_some_iff.mp read with ⟨x, found, rfl⟩
      exact stable.null held v x found null

theorem Stable.list (stable : r.Stable write) : r.list.Stable (Json.ofList write) := by
  apply Stable.of_filled
  intro held v xs read
  refine ⟨nofun, fun later => ?_⟩
  unfold Reader.list at read
  dsimp only at read
  split at read
  · rename_i vs
    change (xs.map write).mapM (r.read later) = some xs
    induction vs generalizing xs with
    | nil =>
        rw [List.mapM_nil] at read
        cases read
        rfl
    | cons v vs inductionHypothesis =>
        rw [List.mapM_cons] at read
        rcases Option.bind_eq_some_iff.mp read with ⟨x, first, rest⟩
        rcases Option.bind_eq_some_iff.mp rest with ⟨ys, others, whole⟩
        cases whole
        rw [List.map_cons, List.mapM_cons, stable.again held v x first later,
          inductionHypothesis ys others]
        rfl
  · cases read

/-- What was read is written as a part of a larger value, and read again from that part. -/
def StableWithin (r : Reader α) (wrap : Json → Json) (write : α → Json) : Prop :=
  ∀ held v x, r.read held v = some x → ∃ w, write x = wrap w ∧ ∀ later, r.read later w = some x

theorem Stable.within (stable : r.Stable write) {f : α → β} {wrap : Json → Json}
    {whole : β → Json} (form : ∀ a, whole (f a) = wrap (write a)) :
    (r.map f).StableWithin wrap whole := by
  intro held v y read
  rcases Option.map_eq_some_iff.mp read with ⟨x, found, rfl⟩
  refine ⟨write x, form x, ?_⟩
  intro later
  exact Option.map_eq_some_iff.mpr ⟨x, stable.again held v x found later, rfl⟩

end Reader

/-! ## Records -/

namespace Fields

variable {α β κ μ : Type}

theorem map_eq_some {fs : Fields α} {f : α → β} {held : Bool} {get : String → Option Json} {b : β} :
    (f <$> fs).read held get = some b ↔ ∃ a, fs.read held get = some a ∧ f a = b :=
  Option.map_eq_some_iff

theorem seq_eq_some {fs : Fields (α → β)} {xs : Fields α} {held : Bool}
    {get : String → Option Json} {b : β} :
    (fs <*> xs).read held get = some b ↔
      ∃ f a, fs.read held get = some f ∧ xs.read held get = some a ∧ f a = b := by
  constructor
  · intro read
    rcases Option.bind_eq_some_iff.mp read with ⟨f, built, rest⟩
    rcases Option.bind_eq_some_iff.mp rest with ⟨a, found, whole⟩
    exact ⟨f, a, built, found, Option.some.inj whole⟩
  · rintro ⟨f, a, built, found, rfl⟩
    refine Option.bind_eq_some_iff.mpr ⟨f, built, ?_⟩
    exact Option.bind_eq_some_iff.mpr ⟨a, found, rfl⟩

/-- The fields make a value of whatever has the given members. -/
def Restores (fs : Fields α) (a : α) (ms : List (String × Json)) : Prop :=
  ∀ get : String → Option Json, (∀ m ∈ ms, get m.1 = some m.2) → ∀ held, fs.read held get = some a

/-- What the fields have read is `make c` for some contents `c` of the fields, and the
fields make it again of the members in which the contents are written. -/
structure Writes (fs : Fields α) (make : κ → α) (members : κ → List (String × Json)) : Prop where
  names : ∀ c, Assoc.keys (members c) = fs.forms.map FieldForm.name
  restores : ∀ held get a, fs.read held get = some a → ∃ c, make c = a ∧ fs.Restores a (members c)

section Single

variable {r : Reader α} {write : α → Json} (name : String)

theorem writes_required (stable : r.Stable write) :
    (required name r).Writes id fun a => [(name, write a)] where
  names := fun _a => rfl
  restores := by
    intro held get a read
    rcases Option.bind_eq_some_iff.mp read with ⟨v, _present, found⟩
    refine ⟨a, rfl, ?_⟩
    intro other shows later
    change (other name).bind (r.read later) = some a
    rw [shows (name, write a) List.mem_cons_self, Option.bind_some]
    exact stable.again held v a found later

theorem writes_optional (stable : r.Stable write) :
    (optional name r).Writes id fun o => [(name, Json.ofOption write o)] where
  names := fun _o => rfl
  restores := by
    intro held get o read
    refine ⟨o, rfl, ?_⟩
    intro other shows later
    have written := shows (name, Json.ofOption write o) List.mem_cons_self
    unfold optional at read ⊢
    dsimp only at read written ⊢
    rw [written]
    split at read
    · cases read
      rfl
    · rename_i v _present
      exact stable.option.again held v o read later

theorem writes_defaulted {default : α} (stable : r.Stable write)
    (restored : ∀ later, r.read later (write default) = some default) :
    (defaulted name default r).Writes id fun a => [(name, write a)] where
  names := fun _a => rfl
  restores := by
    intro held get a read
    refine ⟨a, rfl, ?_⟩
    intro other shows later
    have written := shows (name, write a) List.mem_cons_self
    unfold defaulted at read ⊢
    dsimp only at read written ⊢
    rw [written]
    split at read
    · cases read
      exact restored later
    · rename_i v _present
      exact stable.again held v a read later

end Single

section Several

variable {make : κ → α} {members : κ → List (String × Json)}

theorem Writes.map {fs : Fields α} (writes : fs.Writes make members) (f : α → β) :
    (f <$> fs).Writes (fun c => f (make c)) members where
  names := writes.names
  restores := by
    intro held get b read
    rcases map_eq_some.mp read with ⟨a, found, rfl⟩
    rcases writes.restores held get a found with ⟨c, rfl, restores⟩
    refine ⟨c, rfl, ?_⟩
    intro other shows later
    exact map_eq_some.mpr ⟨make c, restores other shows later, rfl⟩

theorem Writes.seq {fs : Fields (α → β)} {xs : Fields α} {build : μ → α → β}
    {others : μ → List (String × Json)} (first : fs.Writes build others)
    (second : xs.Writes make members) :
    (fs <*> xs).Writes (fun c : μ × κ => build c.1 (make c.2))
      fun c => others c.1 ++ members c.2 where
  names := by
    intro c
    change (others c.1 ++ members c.2).map Prod.fst = (fs.forms ++ xs.forms).map FieldForm.name
    rw [List.map_append, List.map_append]
    exact congrArg₂ (· ++ ·) (first.names c.1) (second.names c.2)
  restores := by
    intro held get b read
    rcases seq_eq_some.mp read with ⟨f, a, built, found, rfl⟩
    rcases first.restores held get f built with ⟨c, rfl, restoresFirst⟩
    rcases second.restores held get a found with ⟨d, rfl, restoresSecond⟩
    refine ⟨(c, d), rfl, ?_⟩
    -- Each of the two finds its own members among those of both.
    intro other shows later
    refine seq_eq_some.mpr ⟨build c, make d, restoresFirst other ?_ later,
      restoresSecond other ?_ later, rfl⟩
    · exact fun m listed => shows m (List.mem_append_left (members d) listed)
    · exact fun m listed => shows m (List.mem_append_right (others c) listed)

/-- The members of a record are found in its object, whatever stands before them under
other names. -/
theorem Restores.value {fs : Fields α} {a : α} {ms : List (String × Json)}
    (restores : fs.Restores a ms) (before : List (String × Json))
    (nodup : (Assoc.keys (before ++ ms)).Nodup) (held : Bool) :
    fs.value held (.obj (before ++ ms)) = some a := by
  apply restores
  intro m listed
  exact Assoc.lookup_of_mem nodup (List.mem_append_right before listed)

theorem Writes.stable {fs : Fields α} {write : α → Json} (writes : fs.Writes make members)
    (form : ∀ c, write (make c) = .obj (members c))
    (nodup : (fs.forms.map FieldForm.name).Nodup) : fs.reader.Stable write := by
  apply Reader.Stable.of_filled
  intro held v a read
  rcases Option.bind_eq_some_iff.mp read with ⟨given, _present, found⟩
  rcases writes.restores held _ a found with ⟨c, rfl, restores⟩
  rw [form c]
  exact ⟨nofun, restores.value [] (writes.names c ▸ nodup)⟩

end Several

end Fields

/-! ## Unions -/

namespace Variant

variable {α : Type}

/-- An alternative without fields reads as one value. -/
theorem eq_of_unit {a x : α} {v : Json} (read : (unit a).read v = some x) : x = a := by
  unfold unit at read
  dsimp only at read
  split at read <;> cases read <;> rfl

/-- What an alternative has read is written behind a tag, and the alternative reads the
written form again. -/
def Writes (variant : Variant α) (tag : String × Json) (write : α → Json) : Prop :=
  ∀ v x, variant.read v = some x →
    ∃ ms, write x = .obj (tag :: ms) ∧ variant.read (.obj (tag :: ms)) = some x

variable {tag : String × Json} {write : α → Json}

theorem Writes.unit {a : α} (form : write a = .obj [tag]) : (unit a).Writes tag write := by
  intro v x read
  rw [eq_of_unit read]
  exact ⟨[], form, rfl⟩

theorem Writes.fields {κ : Type} {fs : Fields α} {make : κ → α}
    {members : κ → List (String × Json)} (writes : fs.Writes make members)
    (form : ∀ c, write (make c) = .obj (tag :: members c))
    (nodup : (tag.1 :: fs.forms.map FieldForm.name).Nodup) : (fields fs).Writes tag write := by
  intro v x read
  rcases Option.bind_eq_some_iff.mp read with ⟨given, _present, found⟩
  rcases writes.restores true _ x found with ⟨c, rfl, restores⟩
  refine ⟨members c, form c, ?_⟩
  apply restores.value [tag]
  rw [List.singleton_append, Assoc.keys_cons, writes.names c]
  exact nodup

end Variant

namespace Tagged

variable {α : Type} {t : Tagged α} {write : α → Json}

/-- The alternatives that a tag can select: those with a name, and the one that unknown
tags stand for. -/
theorem select_eq_some {held : Bool} {tag : Json} {variant : Variant α}
    (selected : t.select held tag = some variant) :
    (∃ name, (name, variant) ∈ t.variants) ∨ ∃ x, t.fallback = some x ∧ variant = .unit x := by
  have fallback {found : Option (Variant α)}
      (reached : found.or (t.fallback.map .unit) = some variant)
      (listed : found = some variant → ∃ name, (name, variant) ∈ t.variants) :
      (∃ name, (name, variant) ∈ t.variants) ∨ ∃ x, t.fallback = some x ∧ variant = .unit x := by
    rcases Option.or_eq_some_iff.mp reached with known | ⟨-, unknown⟩
    · exact Or.inl (listed known)
    · rcases Option.map_eq_some_iff.mp unknown with ⟨x, same, rfl⟩
      exact Or.inr ⟨x, same, rfl⟩
  unfold select at selected
  split at selected
  · rename_i name
    exact fallback selected fun found => ⟨name, Assoc.mem_of_lookup found⟩
  · rw [Option.ite_none_right_eq_some] at selected
    apply fallback selected.2
    intro found
    rcases Option.map_eq_some_iff.mp found with ⟨p, placed, rfl⟩
    exact ⟨p.1, List.mem_of_getElem? placed⟩
  · cases selected

/-- What a tagged union has read was read by an alternative that its tag selected. -/
theorem exists_of_value {held : Bool} {v : Json} {x : α} (read : t.value held v = some x) :
    ∃ tag variant rest, t.select held tag = some variant ∧ variant.read rest = some x := by
  unfold value at read
  split at read
  · rcases Option.bind_eq_some_iff.mp read with ⟨tag, -, chosen⟩
    rcases Option.bind_eq_some_iff.mp chosen with ⟨variant, selected, found⟩
    exact ⟨tag, variant, _, selected, found⟩
  · rename_i tag rest
    rcases Option.bind_eq_some_iff.mp read with ⟨variant, selected, found⟩
    exact ⟨tag, variant, _, selected, found⟩
  · cases read

theorem stable (nodup : (Assoc.keys t.variants).Nodup)
    (writes : t.variants.Forall fun p => p.2.Writes (t.tag, .str p.1) write)
    (fallback : ∀ x, t.fallback = some x → ∃ name, (name, Variant.unit x) ∈ t.variants) :
    t.reader.Stable write := by
  apply Reader.Stable.of_filled
  intro held v x read
  have listed : ∃ name variant, (name, variant) ∈ t.variants ∧
      ∃ rest, variant.read rest = some x := by
    rcases exists_of_value read with ⟨tag, variant, rest, selected, found⟩
    rcases select_eq_some selected with ⟨name, listed⟩ | ⟨y, unknown, rfl⟩
    · exact ⟨name, variant, listed, rest, found⟩
    · -- An unknown tag stands for the same value as one of the named alternatives.
      rcases fallback y unknown with ⟨name, listed⟩
      exact ⟨name, .unit y, listed, rest, found⟩
  rcases listed with ⟨name, variant, listed, rest, found⟩
  have written := List.forall_iff_forall_mem.mp writes (name, variant) listed
  rcases written rest x found with ⟨ms, form, again⟩
  rw [form]
  refine ⟨nofun, fun later => ?_⟩
  have tagged : ((t.tag, Json.str name) :: ms).lookup t.tag = some (.str name) := by
    rw [List.lookup_cons, beq_self_eq_true]
  have selected : t.select later (.str name) = some variant := by
    change (t.variants.lookup name).or _ = _
    rw [Assoc.lookup_of_mem nodup listed, Option.some_or]
  exact Option.bind_eq_some_iff.mpr ⟨.str name, tagged,
    Option.bind_eq_some_iff.mpr ⟨variant, selected, again⟩⟩

end Tagged

namespace Named

variable {α : Type} {n : Named α} {x : α}

/-- What an alternative may stand for. -/
def Gives (x : α) : Named α → Prop
  | .unit a => a = x
  | .value r => ∃ held v, r.read held v = some x

theorem gives_of_alone? (read : n.alone? = some x) : n.Gives x := by
  cases n with
  | unit a => exact Option.some.inj read
  | value r => cases read

theorem gives_of_withValue {held : Bool} {v : Json} (read : n.withValue held v = some x) :
    n.Gives x := by
  unfold withValue at read
  split at read
  · exact Option.some.inj read
  · rw [Option.ite_none_right_eq_some] at read
    exact Option.some.inj read.2
  · cases read
  · exact ⟨held, v, read⟩

/-- What an alternative stands for is written as its name, or as its name with a value
from which it is read again. -/
def Writes (name : String) (write : α → Json) : Named α → Prop
  | .unit a => write a = .str name
  | .value r => r.StableWithin (fun w => .obj [(name, w)]) write

end Named

namespace Reader

variable {α : Type} {write : α → Json}

theorem exists_of_named {variants : List (String × Named α)} {held : Bool} {v : Json} {x : α}
    (read : (named variants).read held v = some x) :
    ∃ name n, (name, n) ∈ variants ∧ n.Gives x := by
  unfold named at read
  dsimp only at read
  split at read
  · rename_i name
    rcases Option.bind_eq_some_iff.mp read with ⟨n, found, alone⟩
    exact ⟨name, n, Assoc.mem_of_lookup found, Named.gives_of_alone? alone⟩
  · rename_i name rest
    rcases Option.bind_eq_some_iff.mp read with ⟨n, found, beside⟩
    exact ⟨name, n, Assoc.mem_of_lookup found, Named.gives_of_withValue beside⟩
  · cases read

theorem stable_named {variants : List (String × Named α)} (nodup : (Assoc.keys variants).Nodup)
    (writes : variants.Forall fun p => p.2.Writes p.1 write) : (named variants).Stable write := by
  apply Stable.of_filled
  intro held v x read
  rcases exists_of_named read with ⟨name, n, listed, gives⟩
  have found := Assoc.lookup_of_mem nodup listed
  have written := List.forall_iff_forall_mem.mp writes (name, n) listed
  cases n with
  | unit a =>
      rw [← gives, show write a = .str name from written]
      exact ⟨nofun, fun _later => Option.bind_eq_some_iff.mpr ⟨.unit a, found, rfl⟩⟩
  | value r =>
      rcases gives with ⟨before, rest, beside⟩
      rcases written before rest x beside with ⟨w, form, again⟩
      rw [form]
      exact ⟨nofun, fun later => Option.bind_eq_some_iff.mpr ⟨.value r, found, again later⟩⟩

section Enumeration

variable {names : List (String × α)} {held : Bool} {a : α}

theorem exists_of_enumeration {v : Json} (read : (enumeration names).read held v = some a) :
    ∃ name, (name, a) ∈ names := by
  rcases exists_of_named read with ⟨name, n, listed, gives⟩
  rcases List.mem_map.mp listed with ⟨p, member, same⟩
  cases same
  cases gives
  exact ⟨p.1, member⟩

theorem enumeration_read (nodup : (Assoc.keys names).Nodup) {name : String}
    (listed : (name, a) ∈ names) : (enumeration names).read held (.str name) = some a := by
  have found : (names.map fun p => (p.1, Named.unit p.2)).lookup name = some (.unit a) := by
    apply Assoc.lookup_of_mem
    · rw [Assoc.keys, List.map_map]
      exact nodup
    · exact List.mem_map.mpr ⟨(name, a), listed, rfl⟩
  exact Option.bind_eq_some_iff.mpr ⟨.unit a, found, rfl⟩

theorem stable_enumeration (nodup : (Assoc.keys names).Nodup)
    (form : ∀ p ∈ names, write p.2 = .str p.1) : (enumeration names).Stable write := by
  apply stable_named
  · rw [Assoc.keys, List.map_map]
    exact nodup
  · rw [List.forall_iff_forall_mem]
    intro p listed
    rcases List.mem_map.mp listed with ⟨q, member, rfl⟩
    exact form q member

end Enumeration

end Reader

namespace Content

variable {α : Type} {c : Content α} {write : α → Json}

/-- What a union with content has read was read by one of its alternatives. -/
theorem exists_of_value {held : Bool} {v : Json} {x : α} (read : c.value held v = some x) :
    ∃ name r, (name, r) ∈ c.variants ∧ ∃ within content, r.read within content = some x := by
  unfold value at read
  split at read
  · rcases Option.bind_eq_some_iff.mp read with ⟨tag, -, chosen⟩
    rcases Option.bind_eq_some_iff.mp chosen with ⟨r, selected, rest⟩
    rcases Option.bind_eq_some_iff.mp rest with ⟨content, -, found⟩
    rcases Reader.exists_of_enumeration selected with ⟨name, listed⟩
    exact ⟨name, r, listed, _, content, found⟩
  · rename_i tag content
    rcases Option.bind_eq_some_iff.mp read with ⟨r, selected, found⟩
    unfold select at selected
    split at selected
    · rename_i name
      exact ⟨name, r, Assoc.mem_of_lookup selected, held, content, found⟩
    · rw [Option.ite_none_right_eq_some] at selected
      rcases Option.map_eq_some_iff.mp selected.2 with ⟨p, placed, rfl⟩
      exact ⟨p.1, p.2, List.mem_of_getElem? placed, held, content, found⟩
    · cases selected
  · cases read

theorem stable (apart : c.content ≠ c.tag) (nodup : (Assoc.keys c.variants).Nodup)
    (writes : c.variants.Forall fun p =>
      p.2.StableWithin (fun w => .obj [(c.tag, .str p.1), (c.content, w)]) write) :
    c.reader.Stable write := by
  apply Reader.Stable.of_filled
  intro held v x read
  rcases exists_of_value read with ⟨name, r, listed, within, content, found⟩
  have written := List.forall_iff_forall_mem.mp writes (name, r) listed
  rcases written within content x found with ⟨w, form, again⟩
  rw [form]
  refine ⟨nofun, fun later => ?_⟩
  have tagged : [(c.tag, Json.str name), (c.content, w)].lookup c.tag = some (.str name) := by
    rw [List.lookup_cons, beq_self_eq_true]
  have filled : [(c.tag, Json.str name), (c.content, w)].lookup c.content = some w := by
    rw [List.lookup_cons, beq_eq_false_iff_ne.mpr apart, List.lookup_cons, beq_self_eq_true]
  exact Option.bind_eq_some_iff.mpr ⟨.str name, tagged,
    Option.bind_eq_some_iff.mpr ⟨r, Reader.enumeration_read nodup listed,
      Option.bind_eq_some_iff.mpr ⟨w, filled, again _⟩⟩⟩

end Content

end LiveLog
