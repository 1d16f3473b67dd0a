import LiveLog.Execution
import LiveLog.Proofs.WrittenScalars
import Mathlib.Data.Bool.AllAny
import Mathlib.Data.List.Forall2
import Mathlib.Data.List.TakeWhile

namespace LiveLog

/-!
# The grammar of process arguments

An argument names a process by its identifier and the reason why it runs, with a colon
between. What counts is the first colon of the text. An identifier that is spelled as a
URN has colons of its own, so no argument can hold one: the first colon would end the
identifier after three letters.

That leaves three spellings, which are given here as a relation between identifiers and
texts. It says nothing of how a text is read.
-/

namespace Text

variable {l w r cs : List Char}

theorem trimStart_append (blank : ∀ c ∈ l, isBlank c = true) :
    trimStart (l ++ cs) = trimStart cs := by
  induction l with
  | nil => rfl
  | cons c l inductionHypothesis =>
      rcases List.forall_mem_cons.mp blank with ⟨first, rest⟩
      rw [List.cons_append, trimStart, List.dropWhile_cons_of_pos first]
      exact inductionHypothesis rest

theorem trimStart_of_solid (solid : ∀ c ∈ w, isBlank c = false)
    (blank : ∀ c ∈ r, isBlank c = true) : trimStart (w ++ r) = if w = [] then [] else w ++ r := by
  cases w with
  | nil => simpa [trimStart] using blank
  | cons c w => simp [trimStart, solid c List.mem_cons_self]

/-- Blanks around a text without blanks are trimmed, and nothing else is. -/
theorem trim_of_solid (before : ∀ c ∈ l, isBlank c = true) (solid : ∀ c ∈ w, isBlank c = false)
    (after : ∀ c ∈ r, isBlank c = true) : trim (l ++ w ++ r) = w := by
  have reversed : ∀ c ∈ r.reverse, isBlank c = true := by simpa using after
  have backwards : ∀ c ∈ w.reverse, isBlank c = false := by simpa using solid
  unfold trim
  rw [List.append_assoc, trimStart_append before, trimStart_of_solid solid after]
  cases w with
  | nil => rfl
  | cons c w =>
      rw [if_neg (List.cons_ne_nil c w), List.reverse_append, trimStart_append reversed]
      have unchanged := trimStart_of_solid (r := []) backwards (by simp)
      simp_all

theorem mem_of_mem_trim {c : Char} (listed : c ∈ trim cs) : c ∈ cs := by
  have suffix (ds : List Char) : trimStart ds <:+ ds := List.dropWhile_suffix isBlank
  have inner := (suffix _).mem (List.mem_reverse.mp listed)
  exact (suffix cs).mem (List.mem_reverse.mp inner)

/-- A text is cut in two at a character whose place is known. -/
theorem split_at {n : Nat} {c : Char} (here : cs[n]? = some c) :
    cs = cs.take n ++ c :: cs.drop (n + 1) := by
  rcases List.getElem?_eq_some_iff.mp here with ⟨within, same⟩
  rw [← same, ← List.drop_eq_getElem_cons within, List.take_append_drop]

end Text

/-! ## Spelled identifiers -/

namespace Uuid

/-- Whether a character is the digit of a value, in either case. -/
def StandsFor (c : Char) (d : Fin 16) : Prop := c = digitChar d ∨ c = (digitChar d).toUpper

instance (c : Char) (d : Fin 16) : Decidable (StandsFor c d) := inferInstanceAs (Decidable (_ ∨ _))

/-- Whether characters are the digits of an identifier, each in either case. -/
def HasDigits (u : Uuid) (cs : List Char) : Prop := List.Forall₂ StandsFor cs u.digits

/-- Characters with hyphens after the eighth, twelfth, sixteenth and twentieth. -/
def hyphenated (cs : List Char) : List Char :=
  cs.take 8 ++ '-' :: (cs.drop 8).take 4 ++ '-' :: (cs.drop 12).take 4 ++
    '-' :: (cs.drop 16).take 4 ++ '-' :: cs.drop 20

/-- The spellings of an identifier. -/
inductive Spells (u : Uuid) : List Char → Prop
  | simple {cs : List Char} (digits : u.HasDigits cs) : Spells u cs
  | hyphens {cs : List Char} (digits : u.HasDigits cs) : Spells u (hyphenated cs)
  | braces {cs : List Char} (digits : u.HasDigits cs) : Spells u ('{' :: hyphenated cs ++ ['}'])

variable {u : Uuid} {c : Char} {d : Fin 16} {cs : List Char}

theorem toNat_lt_of_digit? (read : digit? c = some d) : c.toNat < 128 := by
  have highest {m : Char} (below : c ≤ m) : c.toNat ≤ m.toNat := below
  unfold digit? at read
  split at read
  · rename_i range
    exact Nat.lt_of_le_of_lt (highest range.2) (by decide)
  · split at read
    · rename_i range
      exact Nat.lt_of_le_of_lt (highest range.2) (by decide)
    · split at read
      · rename_i range
        exact Nat.lt_of_le_of_lt (highest range.2) (by decide)
      · cases read

theorem digit?_eq_some_iff : digit? c = some d ↔ StandsFor c d := by
  constructor
  · intro read
    have all : ∀ n < 128, ∀ d, digit? (Char.ofNat n) = some d → StandsFor (Char.ofNat n) d := by
      decide +kernel
    have this := all c.toNat (toNat_lt_of_digit? read) d
    rw [Char.ofNat_toNat] at this
    exact this read
  · rintro (rfl | rfl)
    · exact digit?_digitChar d
    · revert d
      decide

theorem mapM_digit?_eq_some_iff {ds : List (Fin 16)} :
    cs.mapM digit? = some ds ↔ List.Forall₂ StandsFor cs ds := by
  induction cs generalizing ds with
  | nil => simp [eq_comm]
  | cons c cs inductionHypothesis =>
      simp only [List.mapM_cons, Option.bind_eq_bind, Option.bind_eq_some_iff, digit?_eq_some_iff,
        inductionHypothesis, List.forall₂_cons_left_iff]
      constructor
      · rintro ⟨d, first, rest, others, same⟩
        exact ⟨d, rest, first, others, (Option.some.inj same).symm⟩
      · rintro ⟨d, rest, first, others, rfl⟩
        exact ⟨d, first, rest, others, rfl⟩

theorem ofSimple?_eq_some_iff : ofSimple? cs = some u ↔ u.HasDigits cs := by
  unfold ofSimple? ofDigits? HasDigits
  rw [Option.bind_eq_some_iff, ← mapM_digit?_eq_some_iff]
  constructor
  · rintro ⟨ds, read, full⟩
    split at full
    · cases full
      exact read
    · cases full
  · intro read
    exact ⟨u.digits, read, dif_pos u.length_digits⟩

theorem HasDigits.length_eq (digits : u.HasDigits cs) : cs.length = 32 :=
  (List.Forall₂.length_eq digits).trans u.length_digits

/-! ## Hyphens -/

/-- Five groups of the right lengths are what stands between the hyphens. -/
theorem hyphenated_groups {a b c d e : List Char} (first : a.length = 8) (second : b.length = 4)
    (third : c.length = 4) (fourth : d.length = 4) :
    hyphenated (a ++ b ++ c ++ d ++ e) =
      a ++ '-' :: b ++ '-' :: c ++ '-' :: d ++ '-' :: e := by
  have gone {cs : List Char} {n : Nat} (short : cs.length ≤ n) : cs.drop n = [] :=
    List.drop_eq_nil_of_le short
  unfold hyphenated
  simp [List.drop_append, gone, first, second, third, fourth]

/-- A text with its hyphens in the right places consists of five groups. -/
theorem exists_groups (size : cs.length = 36) (hyphen8 : cs[8]? = some '-')
    (hyphen13 : cs[13]? = some '-') (hyphen18 : cs[18]? = some '-')
    (hyphen23 : cs[23]? = some '-') :
    ∃ a b c d e : List Char, (a.length = 8 ∧ b.length = 4 ∧ c.length = 4 ∧ d.length = 4 ∧
      e.length = 12) ∧ cs = a ++ '-' :: b ++ '-' :: c ++ '-' :: d ++ '-' :: e := by
  have cut {start : Nat} (here : cs[start + 4]? = some '-') :
      cs.drop start = (cs.drop start).take 4 ++ '-' :: cs.drop (start + 5) := by
    have inside : (cs.drop start)[4]? = some '-' := by rw [List.getElem?_drop, here]
    have parts := Text.split_at inside
    rw [List.drop_drop] at parts
    exact parts
  refine ⟨cs.take 8, (cs.drop 9).take 4, (cs.drop 14).take 4, (cs.drop 19).take 4, cs.drop 24,
    ?_, ?_⟩
  · simp [size]
  · simp only [List.append_assoc, List.cons_append]
    rw [← cut hyphen23, ← cut hyphen18, ← cut hyphen13]
    exact Text.split_at hyphen8

theorem ofHyphenated?_eq_some_iff :
    ofHyphenated? cs = some u ↔ ∃ ds, u.HasDigits ds ∧ cs = hyphenated ds := by
  constructor
  · intro read
    have shape : cs.length = 36 ∧ cs[8]? = some '-' ∧ cs[13]? = some '-' ∧ cs[18]? = some '-' ∧
        cs[23]? = some '-' := by
      by_contra other
      rw [ofHyphenated?, if_neg other] at read
      cases read
    rcases shape with ⟨size, hyphen8, hyphen13, hyphen18, hyphen23⟩
    rcases exists_groups size hyphen8 hyphen13 hyphen18 hyphen23 with
      ⟨a, b, c, d, e, ⟨first, second, third, fourth, fifth⟩, rfl⟩
    rw [ofHyphenated?_parts first second third fourth fifth, ofSimple?_eq_some_iff] at read
    exact ⟨_, read, (hyphenated_groups first second third fourth).symm⟩
  · rintro ⟨ds, digits, rfl⟩
    have size := digits.length_eq
    have join {start stop : Nat} (next : start + 4 = stop) :
        (ds.drop start).take 4 ++ ds.drop stop = ds.drop start := by
      rw [← next, ← List.drop_drop, List.take_append_drop]
    unfold hyphenated
    rw [ofHyphenated?_parts (by simp [size]) (by simp [size]) (by simp [size]) (by simp [size])
      (by simp [size])]
    simp only [List.append_assoc]
    rw [join rfl, join rfl, join rfl, List.take_append_drop]
    exact ofSimple?_eq_some_iff.mpr digits

/-! ## All spellings -/

theorem StandsFor.solid (stands : StandsFor c d) : Text.isBlank c = false ∧ c ≠ ':' := by
  have small : ∀ d : Fin 16, Text.isBlank (digitChar d) = false ∧ digitChar d ≠ ':' := by decide
  have capital : ∀ d : Fin 16,
      Text.isBlank (digitChar d).toUpper = false ∧ (digitChar d).toUpper ≠ ':' := by decide
  rcases stands with rfl | rfl
  · exact small d
  · exact capital d

theorem HasDigits.solid (digits : u.HasDigits cs) : ∀ c ∈ cs, Text.isBlank c = false ∧ c ≠ ':' := by
  intro c listed
  rcases List.mem_iff_getElem.mp listed with ⟨i, within, rfl⟩
  have inside : i < u.digits.length := List.Forall₂.length_eq digits ▸ within
  exact (List.Forall₂.get digits within inside).solid

theorem mem_of_mem_hyphenated (listed : c ∈ hyphenated cs) : c = '-' ∨ c ∈ cs := by
  have taken {n m : Nat} (inside : c ∈ (cs.drop n).take m) : c ∈ cs :=
    List.mem_of_mem_drop (List.mem_of_mem_take inside)
  unfold hyphenated at listed
  simp only [List.mem_append, List.mem_cons] at listed
  rcases listed with (((first | rfl | second) | rfl | third) | rfl | fourth) | rfl | fifth
  · exact Or.inr (List.mem_of_mem_take first)
  · exact Or.inl rfl
  · exact Or.inr (taken second)
  · exact Or.inl rfl
  · exact Or.inr (taken third)
  · exact Or.inl rfl
  · exact Or.inr (taken fourth)
  · exact Or.inl rfl
  · exact Or.inr (List.mem_of_mem_drop fifth)

/-- No spelling has a blank or a colon. -/
theorem Spells.solid (spells : u.Spells cs) : ∀ c ∈ cs, Text.isBlank c = false ∧ c ≠ ':' := by
  have hyphens {ds : List Char} (digits : u.HasDigits ds) :
      ∀ c ∈ hyphenated ds, Text.isBlank c = false ∧ c ≠ ':' := by
    intro c listed
    rcases mem_of_mem_hyphenated listed with rfl | inside
    · decide
    · exact digits.solid c inside
  cases spells with
  | simple digits => exact digits.solid
  | hyphens digits => exact hyphens digits
  | braces digits =>
      intro c listed
      rcases List.mem_cons.mp listed with rfl | listed
      · decide
      · rcases List.mem_append.mp listed with inside | last
        · exact hyphens digits c inside
        · rw [List.mem_singleton] at last
          subst last
          decide

theorem length_hyphenated (size : cs.length = 32) : (hyphenated cs).length = 36 := by
  unfold hyphenated
  simp [size]

/-- A text without colons is read as an identifier exactly if it spells it. -/
theorem ofChars?_eq_some_iff (plain : ':' ∉ cs) : ofChars? cs = some u ↔ u.Spells cs := by
  constructor
  · intro read
    unfold ofChars? at read
    split at read
    · exact .simple (ofSimple?_eq_some_iff.mp read)
    · rcases ofHyphenated?_eq_some_iff.mp read with ⟨ds, digits, rfl⟩
      exact .hyphens digits
    · split at read
      · rename_i size marks
        rcases ofHyphenated?_eq_some_iff.mp read with ⟨ds, digits, inner⟩
        have whole : cs = '{' :: hyphenated ds ++ ['}'] := by
          rcases List.head?_eq_some_iff.mp marks.1 with ⟨rest, rfl⟩
          have filled : rest ≠ [] := by
            rintro rfl
            cases size
          rw [List.drop_one, List.tail_cons] at inner
          rw [List.getLast?_cons_of_ne_nil filled] at marks
          rw [List.cons_append, ← inner, List.dropLast_append_getLast? _ marks.2]
        rw [whole]
        exact .braces digits
      · cases read
    · split at read
      · rename_i urn
        exact absurd (List.mem_of_mem_take (urn ▸ by decide : ':' ∈ cs.take 9)) plain
      · cases read
    · cases read
  · intro spells
    cases spells with
    | simple digits =>
        unfold ofChars?
        rw [digits.length_eq]
        exact ofSimple?_eq_some_iff.mpr digits
    | hyphens digits =>
        unfold ofChars?
        rw [length_hyphenated digits.length_eq]
        exact ofHyphenated?_eq_some_iff.mpr ⟨_, digits, rfl⟩
    | @braces ds digits =>
        have size : ('{' :: hyphenated ds ++ ['}']).length = 38 := by
          simp [length_hyphenated digits.length_eq]
        unfold ofChars?
        rw [size]
        simp only [List.cons_append, List.head?_cons, List.drop_one, List.tail_cons,
          List.dropLast_concat]
        rw [if_pos ⟨trivial, by rw [← List.cons_append, List.getLast?_concat]⟩]
        exact ofHyphenated?_eq_some_iff.mpr ⟨ds, digits, rfl⟩

/-- The written form is the hyphenated one. -/
theorem spells_chars (u : Uuid) : u.Spells u.chars := by
  have digits : u.HasDigits (u.digits.map digitChar) := by
    unfold HasDigits
    rw [List.forall₂_map_left_iff, List.forall₂_same]
    exact fun d _listed => Or.inl rfl
  exact .hyphens digits

end Uuid

/-! ## Arguments -/

namespace Execution

variable {s : String} {before after : List Char}

/-- The first colon of a text ends the part before it. -/
theorem spans_of_colon (whole : s.toList = before ++ ':' :: after) (first : ':' ∉ before) :
    s.toList.takeWhile (fun c => decide (c ≠ ':')) = before ∧
      s.toList.dropWhile (fun c => decide (c ≠ ':')) = ':' :: after := by
  have passed : ∀ c ∈ before, decide (c ≠ ':') = true := by
    intro c listed
    exact decide_eq_true fun same => first (same ▸ listed)
  rw [whole, List.takeWhile_append_of_pos passed, List.dropWhile_append_of_pos passed]
  simp

/-- What is read of a text with a colon is what its two sides stand for. -/
theorem ofArgument_eq_ok_of_colon (whole : s.toList = before ++ ':' :: after)
    (first : ':' ∉ before) {p : Execution} : ofArgument s = .ok p ↔
      p.id.Spells (Text.trim before) ∧ Text.trim after = p.reason.name.toList ∧
        p.status = .running ∧ p.dropped = false := by
  have plain : ':' ∉ Text.trim before := fun listed => first (Text.mem_of_mem_trim listed)
  have named (r : RunReason) : RunReason.ofName? (String.ofList (Text.trim after)) = some r ↔
      Text.trim after = r.name.toList := by
    rw [RunReason.ofName?_eq_some]
    constructor
    · intro same
      rw [← same, String.toList_ofList]
    · intro same
      rw [same, String.ofList_toList]
  have spans := spans_of_colon whole first
  rw [ofArgument, spans.1, spans.2]
  dsimp only
  constructor
  · intro read
    split at read
    · cases read
    · rename_i id spelled
      split at read
      · cases read
      · rename_i reason word
        cases read
        exact ⟨(Uuid.ofChars?_eq_some_iff plain).mp spelled, (named reason).mp word, rfl, rfl⟩
  · rintro ⟨spells, word, running, kept⟩
    simp only [(Uuid.ofChars?_eq_some_iff plain).mpr spells, (named p.reason).mpr word]
    rcases p with ⟨id, reason, status, dropped⟩
    cases running
    cases kept
    rfl

theorem mem_of_ofArgument {p : Execution} (read : ofArgument s = .ok p) : ':' ∈ s.toList := by
  by_contra missing
  have rest : s.toList.dropWhile (fun c => decide (c ≠ ':')) = [] := by
    rw [List.dropWhile_eq_nil_iff]
    intro c listed
    exact decide_eq_true fun same => missing (same ▸ listed)
  unfold ofArgument at read
  simp only [rest] at read
  cases read

/-- Arguments are read by their grammar. A text names a process exactly if it has a colon
and its first colon stands between a spelled identifier and the name of a reason, apart
from blanks around either; the process has this identifier and this reason, is running
and has not been dropped. So any spelling of an identifier, among them its written form,
and any blanks around it and around the name of a reason give back the two. -/
theorem argument_names_process (s : String) :
    (∀ p : Execution, ofArgument s = .ok p ↔ ∃ before after,
      s.toList = before ++ ':' :: after ∧ ':' ∉ before ∧ p.id.Spells (Text.trim before) ∧
        Text.trim after = p.reason.name.toList ∧ p.status = .running ∧ p.dropped = false) ∧
      (∀ id : Uuid, id.Spells id.chars) ∧
      ∀ (id : Uuid) (reason : RunReason) (word a b c d : List Char), id.Spells word →
        (∀ x ∈ a ++ b ++ (c ++ d), Text.isBlank x = true) →
        s.toList = a ++ word ++ b ++ ':' :: (c ++ reason.name.toList ++ d) →
        ofArgument s = .ok ⟨id, reason, .running, false⟩ := by
  refine ⟨?_, Uuid.spells_chars, ?_⟩
  · intro p
    constructor
    · intro read
      rcases List.eq_append_cons_of_mem (mem_of_ofArgument read) with ⟨before, after, whole, first⟩
      exact ⟨before, after, whole, first, (ofArgument_eq_ok_of_colon whole first).mp read⟩
    · rintro ⟨before, after, whole, first, grammar⟩
      exact (ofArgument_eq_ok_of_colon whole first).mpr grammar
  · intro id reason word a b c d spells blank whole
    simp only [List.forall_mem_append] at blank
    rcases blank with ⟨⟨beforeId, afterId⟩, beforeName, afterName⟩
    have name : ∀ x ∈ reason.name.toList, Text.isBlank x = false := by
      cases reason <;> exact List.all_iff_forall_prop.mp rfl
    have first : ':' ∉ a ++ word ++ b := by
      have solid : ¬ Text.isBlank ':' = true := by decide
      simp only [List.mem_append, not_or]
      exact ⟨⟨fun listed => solid (beforeId _ listed), fun listed => (spells.solid _ listed).2 rfl⟩,
        fun listed => solid (afterId _ listed)⟩
    refine (ofArgument_eq_ok_of_colon whole first).mpr ⟨?_, ?_, rfl, rfl⟩
    · rw [Text.trim_of_solid beforeId (fun x listed => (spells.solid x listed).1) afterId]
      exact spells
    · exact Text.trim_of_solid beforeName name afterName

/-- Blanks of several kinds around an identifier in capitals and braces. -/
theorem braced_argument_names_process :
    ofArgument "\t{6F1C1F0E-7F53-4A53-9C7B-5B0F3F9A9D11}\u3000: \u00A0devserver\n" =
      .ok ⟨⟨[6, 15, 1, 12, 1, 15, 0, 14, 7, 15, 5, 3, 4, 10, 5, 3, 9, 12, 7, 11, 5, 11, 0, 15, 3,
        15, 9, 10, 9, 13, 1, 1], rfl⟩, .devServer, .running, false⟩ := by
  have digits : Uuid.HasDigits ⟨[6, 15, 1, 12, 1, 15, 0, 14, 7, 15, 5, 3, 4, 10, 5, 3, 9, 12, 7, 11,
      5, 11, 0, 15, 3, 15, 9, 10, 9, 13, 1, 1], rfl⟩ "6F1C1F0E7F534A539C7B5B0F3F9A9D11".toList := by
    unfold Uuid.HasDigits
    decide +kernel
  exact (argument_names_process _).2.2 _ .devServer _ ['\t'] ['\u3000'] [' ', '\u00A0'] ['\n']
    (.braces digits) (List.all_iff_forall_prop.mp rfl) (by decide +kernel)

end Execution

end LiveLog
