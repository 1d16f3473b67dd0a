import LiveLog.Entry.Codec
import LiveLog.Execution
import LiveLog.Proofs.PatchCodec
import Mathlib.Data.List.Induction
import Mathlib.Data.Nat.Digits.Defs

namespace LiveLog

/-!
# Identifiers and moments as they are written

Identifiers and moments are read in several grammars, and each has one written form.
The written form lies in the grammar, and it is read as what was written.

For a moment this is a matter of where digits end. Every number of the written form is
followed by a mark that is no digit, so a number of variable width ends where it was
ended. Only a moment that was read is sure to come back: its year lies within the bounds
that every reading is held to, and only its fifty-ninth second can be a leap second.
-/

namespace Uuid

theorem mapM_digit?_map (ds : List (Fin 16)) : (ds.map digitChar).mapM digit? = some ds := by
  induction ds with
  | nil => rfl
  | cons d ds inductionHypothesis =>
      rw [List.map_cons, List.mapM_cons, digit?_digitChar, inductionHypothesis]
      rfl

theorem ofSimple?_map (u : Uuid) : ofSimple? (u.digits.map digitChar) = some u := by
  unfold ofSimple? ofDigits?
  rw [mapM_digit?_map, Option.bind_some, dif_pos u.length_digits]

theorem length_chars (u : Uuid) : u.chars.length = 36 := by
  unfold chars
  simp only [List.length_append, List.length_cons, List.length_take, List.length_drop,
    List.length_map, u.length_digits]
  rfl

theorem ofHyphenated?_parts {a b c d e : List Char} (first : a.length = 8) (second : b.length = 4)
    (third : c.length = 4) (fourth : d.length = 4) (fifth : e.length = 12) :
    ofHyphenated? (a ++ '-' :: b ++ '-' :: c ++ '-' :: d ++ '-' :: e) =
      ofSimple? (a ++ b ++ c ++ d ++ e) := by
  have gone {cs : List Char} {n : Nat} (short : cs.length ≤ n) : cs.drop n = [] :=
    List.drop_eq_nil_of_le short
  unfold ofHyphenated?
  rw [if_pos]
  · simp [List.drop_append, gone, first, second, third, fourth]
  · simp [first, second, third, fourth, fifth]

theorem ofChars?_chars (u : Uuid) : ofChars? u.chars = some u := by
  have size : (u.digits.map digitChar).length = 32 := by rw [List.length_map, u.length_digits]
  have join {start stop : Nat} (next : start + 4 = stop) :
      ((u.digits.map digitChar).drop start).take 4 ++ (u.digits.map digitChar).drop stop =
        (u.digits.map digitChar).drop start := by
    rw [← next, ← List.drop_drop, List.take_append_drop]
  have group {start : Nat} (within : start + 4 ≤ 32) :
      (((u.digits.map digitChar).drop start).take 4).length = 4 := by
    rw [List.length_take, List.length_drop, size]
    omega
  unfold ofChars?
  rw [u.length_chars]
  unfold chars
  rw [ofHyphenated?_parts (by rw [List.length_take, size]; rfl) (group (by decide))
    (group (by decide)) (group (by decide)) (by rw [List.length_drop, size])]
  simp only [List.append_assoc]
  rw [join rfl, join rfl, join rfl, List.take_append_drop]
  exact u.ofSimple?_map

/-- An identifier reads back from its text. -/
theorem ofText?_text (u : Uuid) : ofText? u.text = some u := by
  unfold ofText? text
  rw [String.toList_ofList]
  exact u.ofChars?_chars

theorem chars_injective {u v : Uuid} (same : u.chars = v.chars) : u = v := by
  apply Option.some.inj
  rw [← u.ofChars?_chars, same, v.ofChars?_chars]

end Uuid

theorem Text.isBlank_of_isDigit {c : Char} (digit : c.isDigit = true) : isBlank c = false := by
  have range : 48 ≤ c.toNat ∧ c.toNat ≤ 57 := by
    simpa [Char.isDigit, UInt32.le_iff_toNat_le] using digit
  simp [isBlank, blankRanges]
  omega

theorem daysInMonth_le (year : Int) (month : Nat) : daysInMonth year month ≤ 31 := by
  unfold daysInMonth
  split <;> first | decide | split <;> decide

namespace Instant

/-- The text does not go on with a digit. -/
def Ends (cs : List Char) : Prop := ∀ c ∈ cs.head?, c.isDigit = false

theorem ends_cons {c : Char} (mark : c.isDigit = false) (cs : List Char) : Ends (c :: cs) := by
  intro d first
  cases first
  exact mark

section Digits

variable {ds rest : List Char}

/-- A run of digits at the front of a text is read as a whole. -/
theorem digits?_append {least most : Nat} (digits : ∀ c ∈ ds, c.isDigit = true) (ends : Ends rest)
    (long : least ≤ ds.length) (short : ds.length ≤ most) :
    digits? least most (ds ++ rest) = some (ds, rest) := by
  have run : ((ds ++ rest).take most).takeWhile Char.isDigit = ds := by
    rw [List.take_append, List.take_of_length_le short, List.takeWhile_append_of_pos digits]
    cases after : rest.take (most - ds.length) with
    | nil => exact List.append_nil ds
    | cons c cs =>
        have first : c.isDigit = false := by
          apply ends c
          rw [← List.take_append_drop (most - ds.length) rest, after]
          exact Option.mem_some_self c
        rw [List.takeWhile_cons_of_neg (by rw [first]; exact Bool.false_ne_true), List.append_nil]
  unfold digits?
  rw [run, if_pos long, List.drop_left]

theorem number?_append {least most : Nat} (digits : ∀ c ∈ ds, c.isDigit = true) (ends : Ends rest)
    (long : least ≤ ds.length) (short : ds.length ≤ most) :
    number? least most (ds ++ rest) = some (Count.value ds, rest) := by
  unfold number?
  rw [digits?_append digits ends long short, Option.map_some]

theorem dropWhile_of_ends (ends : Ends rest) : rest.dropWhile Char.isDigit = rest := by
  cases rest with
  | nil => rfl
  | cons c cs =>
      rw [List.dropWhile_cons_of_neg]
      rw [ends c (Option.mem_some_self c)]
      exact Bool.false_ne_true

/-- Before digits there is no blank to be taken away. -/
theorem trimStart_digits (filled : ds ≠ []) (digits : ∀ c ∈ ds, c.isDigit = true)
    (rest : List Char) : Text.trimStart (ds ++ rest) = ds ++ rest := by
  cases ds with
  | nil => exact absurd rfl filled
  | cons d ds =>
      exact Text.trimStart_of_not_blank (Text.isBlank_of_isDigit (digits d List.mem_cons_self)) _

end Digits

section Padded

variable {width n : Nat} {rest : List Char}

theorem isDigit_of_mem_padded : ∀ c ∈ padded width n, c.isDigit = true := by
  intro c listed
  rcases List.mem_append.mp listed with zero | digit
  · rw [List.eq_of_mem_replicate zero]
    rfl
  · exact Nat.isDigit_of_mem_toDigits (by decide) (by decide) digit

theorem length_padded (wide : 0 < width) (small : n < 10 ^ width) :
    (padded width n).length = width := by
  have short := Nat.toDigits_length 10 n width wide small
  unfold padded
  rw [List.length_append, List.length_replicate]
  omega

theorem le_length_padded : width ≤ (padded width n).length := by
  unfold padded
  rw [List.length_append, List.length_replicate]
  omega

theorem padded_ne_nil (wide : 0 < width) : padded width n ≠ [] := by
  intro none
  have long : width ≤ (padded width n).length := le_length_padded
  rw [none] at long
  exact Nat.not_lt_of_le long wide

theorem value_padded (width n : Nat) : Count.value (padded width n) = n := by
  unfold padded
  rw [Count.value_zeros, Count.value_toDigits]

theorem number?_padded {least most : Nat} (wide : 0 < width) (small : n < 10 ^ width)
    (long : least ≤ width) (short : width ≤ most) (ends : Ends rest) :
    number? least most (padded width n ++ rest) = some (n, rest) := by
  have size := length_padded wide small
  rw [number?_append isDigit_of_mem_padded ends (by omega) (by omega), value_padded]

theorem looseNumber?_padded (small : n < 100) (ends : Ends rest) :
    looseNumber? (padded 2 n ++ rest) = some (n, rest) := by
  unfold looseNumber?
  rw [trimStart_digits (padded_ne_nil Nat.two_pos) isDigit_of_mem_padded]
  exact number?_padded Nat.two_pos small (by decide) (Nat.le_refl 2) ends

/-- Digits after the point are counted in nanoseconds. -/
theorem fraction?_padded (wide : 0 < width) (narrow : width ≤ 9) (small : n < 10 ^ width)
    (ends : Ends rest) :
    fraction? ('.' :: (padded width n ++ rest)) = some (n * 10 ^ (9 - width), rest) := by
  have size := length_padded wide small
  change (digits? 1 9 (padded width n ++ rest)).map _ = _
  rw [digits?_append isDigit_of_mem_padded ends (by omega) (by omega), Option.map_some,
    value_padded, size, dropWhile_of_ends ends]
  rfl

end Padded

/-! ## The written form -/

theorem looseYear?_yearChars (year : Int) {rest : List Char} (ends : Ends rest) :
    looseYear? (yearChars year ++ rest) = some (year, rest) := by
  have signed {r : List Char} (whole : r = padded 4 year.natAbs ++ rest) :
      number? 1 r.length r = some (year.natAbs, rest) := by
    rw [whole, number?_append isDigit_of_mem_padded ends (Nat.le_trans (by decide) le_length_padded)
      (by rw [List.length_append]; omega), value_padded]
  unfold yearChars
  split
  · rename_i plain
    have small : year.toNat < 10 ^ 4 := by omega
    have read : number? 1 4 (padded 4 year.toNat ++ rest) = some (year.toNat, rest) :=
      number?_padded (by decide) small (by decide) (Nat.le_refl 4) ends
    unfold looseYear?
    rw [trimStart_digits (padded_ne_nil (by decide)) isDigit_of_mem_padded]
    have first : ∀ c ∈ (padded 4 year.toNat ++ rest).head?, c.isDigit = true := by
      rw [List.head?_append_of_ne_nil _ (padded_ne_nil (by decide))]
      intro c head
      exact isDigit_of_mem_padded c (List.mem_of_mem_head? head)
    split
    · rename_i after whole
      have digit := first '-' (by rw [whole]; rfl)
      cases digit
    · rename_i after whole
      have digit := first '+' (by rw [whole]; rfl)
      cases digit
    · rw [read, Option.map_some, Int.toNat_of_nonneg plain.1]
  · rename_i signs
    by_cases negative : year < 0
    · rw [if_pos negative]
      have sign : Text.isBlank '-' = false := by decide
      unfold looseYear?
      rw [List.cons_append, Text.trimStart_of_not_blank sign]
      simp only [signed rfl, Option.map_some]
      congr 2
      omega
    · rw [if_neg negative]
      have sign : Text.isBlank '+' = false := by decide
      unfold looseYear?
      rw [List.cons_append, Text.trimStart_of_not_blank sign]
      simp only [signed rfl, Option.map_some]
      congr 2
      omega

theorem fraction?_fractionChars {nanos : Nat} (small : nanos < 10 ^ 9) {rest : List Char} :
    fraction? (fractionChars nanos ++ 'Z' :: rest) = some (nanos, 'Z' :: rest) := by
  have ends : Ends ('Z' :: rest) := ends_cons (by decide) rest
  unfold fractionChars
  split
  · rename_i zero
    rw [zero]
    rfl
  · split
    · rw [List.cons_append, fraction?_padded (by decide) (by decide) (by omega) ends]
      congr 2
      omega
    · split
      · rw [List.cons_append, fraction?_padded (by decide) (by decide) (by omega) ends]
        congr 2
        omega
      · rw [List.cons_append, fraction?_padded (by decide) (by decide) small ends]
        congr 2
        omega

/-- What every moment has that was read. -/
structure IsRead (t : Instant) : Prop where
  year : leastYear ≤ t.date.year ∧ t.date.year ≤ mostYear
  leap : 1000000000 ≤ t.nanos → t.second = 59

section Reading

variable {t : Instant}

theorem ofLocal?_eq_some {date : Date} {minute second nanos : Nat} {offset : Int}
    (placed : ofLocal? date minute second nanos offset = some t) :
    (leastYear ≤ t.date.year ∧ t.date.year ≤ mostYear) ∧ t.second = second ∧ t.nanos = nanos := by
  unfold ofLocal? at placed
  dsimp only at placed
  generalize (if (minute : Int) - offset < 0 then (date.previous, (minute : Int) - offset + 1440)
    else if 1440 ≤ (minute : Int) - offset then (date.next, (minute : Int) - offset - 1440)
    else (date, (minute : Int) - offset)) = moved at placed
  split at placed
  · rw [Option.ite_none_right_eq_some] at placed
    rw [← Option.some.inj placed.2]
    exact ⟨placed.1, rfl, rfl⟩
  · cases placed

theorem isRead_of_ofFields? {f : Fields} (read : ofFields? f = some t)
    (fraction : f.nanos < 10 ^ 9) : t.IsRead := by
  unfold ofFields? at read
  rw [Option.ite_none_right_eq_some] at read
  rcases Option.bind_eq_some_iff.mp read.2 with ⟨date, _exists, placed⟩
  rcases ofLocal?_eq_some placed with ⟨bounded, second, nanos⟩
  refine ⟨bounded, ?_⟩
  intro leap
  rw [nanos] at leap
  rw [second]
  split at leap <;> omega

theorem digits?_eq_some {least most : Nat} {cs : List Char} {read : List Char × List Char}
    (found : digits? least most cs = some read) :
    (∀ c ∈ read.1, c.isDigit = true) ∧ read.1.length ≤ most := by
  unfold digits? at found
  rw [Option.ite_none_right_eq_some] at found
  rw [← Option.some.inj found.2]
  refine ⟨fun c listed => List.all_eq_true.mp List.all_takeWhile c listed, ?_⟩
  exact Nat.le_trans (List.takeWhile_prefix _).length_le (List.length_take_le most cs)

/-- Nine digits are fewer nanoseconds than a second has. -/
theorem fraction?_lt {cs rest : List Char} {nanos : Nat}
    (read : fraction? cs = some (nanos, rest)) : nanos < 10 ^ 9 := by
  unfold fraction? at read
  split at read
  · rcases Option.map_eq_some_iff.mp read with ⟨run, found, value⟩
    rcases digits?_eq_some found with ⟨digits, short⟩
    rw [Prod.mk.injEq] at value
    calc
      nanos = Count.value run.1 * 10 ^ (9 - run.1.length) := value.1.symm
      _ < 10 ^ run.1.length * 10 ^ (9 - run.1.length) :=
        Nat.mul_lt_mul_of_pos_right (Count.value_lt digits) (Nat.pow_pos (by decide))
      _ = 10 ^ 9 := by rw [← Nat.pow_add, Nat.add_sub_of_le short]
  · cases read
    decide

theorem isRead_of_ofRelaxed? {cs : List Char} (read : ofRelaxed? cs = some t) : t.IsRead := by
  unfold ofRelaxed? at read
  rcases Option.bind_eq_some_iff.mp read with ⟨⟨year, _⟩, -, read⟩
  rcases Option.bind_eq_some_iff.mp read with ⟨_, -, read⟩
  rcases Option.bind_eq_some_iff.mp read with ⟨⟨month, _⟩, -, read⟩
  rcases Option.bind_eq_some_iff.mp read with ⟨_, -, read⟩
  rcases Option.bind_eq_some_iff.mp read with ⟨⟨day, _⟩, -, read⟩
  rcases Option.bind_eq_some_iff.mp read with ⟨_, -, read⟩
  rcases Option.bind_eq_some_iff.mp read with ⟨⟨hour, _⟩, -, read⟩
  rcases Option.bind_eq_some_iff.mp read with ⟨_, -, read⟩
  rcases Option.bind_eq_some_iff.mp read with ⟨⟨minute, _⟩, -, read⟩
  rcases Option.bind_eq_some_iff.mp read with ⟨_, -, read⟩
  rcases Option.bind_eq_some_iff.mp read with ⟨⟨second, _⟩, -, read⟩
  rcases Option.bind_eq_some_iff.mp read with ⟨⟨nanos, _⟩, fraction, read⟩
  rcases Option.bind_eq_some_iff.mp read with ⟨⟨offset, _⟩, -, placed⟩
  dsimp only at placed
  rw [Option.ite_none_right_eq_some] at placed
  exact isRead_of_ofFields? placed.2 (fraction?_lt fraction)

/-- The fields of the written form. A leap second is a sixtieth one. -/
def fields (t : Instant) : Fields where
  year := t.date.year
  month := t.date.month
  day := t.date.day
  hour := t.minute / 60
  minute := t.minute % 60
  second := if 1000000000 ≤ t.nanos then t.second + 1 else t.second
  nanos := if 1000000000 ≤ t.nanos then t.nanos - 1000000000 else t.nanos
  offset := 0

theorem fields_lt (t : Instant) : t.fields.hour < 24 ∧ t.fields.minute < 60 ∧
    t.fields.second ≤ 60 ∧ t.fields.nanos < 10 ^ 9 := by
  have minute := t.minute_lt
  have second := t.second_lt
  have nanos := t.nanos_lt
  unfold fields
  dsimp only
  refine ⟨by omega, by omega, ?_, ?_⟩
  · split <;> omega
  · split <;> omega

/-- The moment that the fields of the written form stand for. -/
def asWritten (t : Instant) : Instant where
  date := t.date
  minute := t.minute
  second := min t.fields.second 59
  nanos := t.fields.nanos + if t.fields.second = 60 then 1000000000 else 0
  minute_lt := t.minute_lt
  second_lt := Nat.lt_succ_of_le (Nat.min_le_right _ _)
  nanos_lt := by
    have nanos := (fields_lt t).2.2.2
    split <;> omega

/-- A moment that was read is what its written form stands for. -/
theorem asWritten_of_isRead (isRead : t.IsRead) : t.asWritten = t := by
  have second := t.second_lt
  have leap := isRead.leap
  have sameSecond : min t.fields.second 59 = t.second := by
    unfold fields
    dsimp only
    split <;> omega
  have sameNanos : t.fields.nanos + (if t.fields.second = 60 then 1000000000 else 0) = t.nanos := by
    unfold fields
    dsimp only
    split <;> split <;> omega
  simp only [asWritten, sameSecond, sameNanos]

theorem ofFields?_fields (year : leastYear ≤ t.date.year ∧ t.date.year ≤ mostYear) :
    ofFields? t.fields = some t.asWritten := by
  rcases fields_lt t with ⟨hour, minute, last, -⟩
  have date : Date.of? t.fields.year t.fields.month t.fields.day = some t.date :=
    dif_pos ⟨t.date.one_le_day, t.date.day_le⟩
  have minutes : t.fields.hour * 60 + t.fields.minute = t.minute := Nat.div_add_mod' t.minute 60
  have late : ¬ (t.minute : Int) < 0 := Int.not_lt.mpr (Int.natCast_nonneg t.minute)
  have early : ¬ (1440 : Int) ≤ t.minute := by
    have minute := t.minute_lt
    omega
  unfold ofFields?
  rw [if_pos ⟨hour, minute, last, Nat.zero_le _, year⟩, date, Option.bind_some, minutes]
  unfold ofLocal?
  simp only [show t.fields.offset = 0 from rfl, Int.sub_zero, if_neg late, if_neg early,
    Int.toNat_natCast]
  rw [dif_pos ⟨t.minute_lt, t.asWritten.second_lt, t.asWritten.nanos_lt⟩, if_pos year]
  rfl

theorem looseMark?_cons {c : Char} (solid : Text.isBlank c = false) (cs : List Char) :
    looseMark? c (c :: cs) = some cs := by
  unfold looseMark?
  rw [Text.trimStart_of_not_blank solid]
  exact if_pos rfl

/-- The written form of a moment in one of the years that there are is read as what it
stands for. -/
theorem ofRelaxed?_chars (year : leastYear ≤ t.date.year ∧ t.date.year ≤ mostYear) :
    ofRelaxed? t.chars = some t.asWritten := by
  rcases fields_lt t with ⟨hour, minute, second, nanos⟩
  have written : t.chars = yearChars t.fields.year ++ '-' :: (padded 2 t.fields.month ++
      '-' :: (padded 2 t.fields.day ++ 'T' :: (padded 2 t.fields.hour ++
      ':' :: (padded 2 t.fields.minute ++ ':' :: (padded 2 t.fields.second ++
      (fractionChars t.fields.nanos ++ ['Z'])))))) := by
    unfold chars fields
    simp only [List.append_assoc, List.cons_append]
  replace hour := Nat.lt_trans hour (by decide : 24 < 100)
  replace minute := Nat.lt_trans minute (by decide : 60 < 100)
  replace second := Nat.lt_of_le_of_lt second (by decide : 60 < 100)
  have month : t.fields.month < 100 := Nat.lt_of_le_of_lt t.date.month_le.2 (by decide)
  have day : t.fields.day < 100 :=
    Nat.lt_of_le_of_lt (Nat.le_trans t.date.day_le (daysInMonth_le _ _)) (by decide)
  have dash (rest : List Char) : Ends ('-' :: rest) := ends_cons (by decide) rest
  have colon (rest : List Char) : Ends (':' :: rest) := ends_cons (by decide) rest
  have middle (rest : List Char) : Ends ('T' :: rest) := ends_cons (by decide) rest
  have last : Ends (fractionChars t.fields.nanos ++ ['Z']) := by
    unfold fractionChars
    split
    · exact ends_cons (by decide) []
    · split
      · exact ends_cons (by decide) _
      · split <;> exact ends_cons (by decide) _
  have between (rest : List Char) : separator? ('T' :: rest) = some rest := rfl
  have zulu : looseOffset? (Text.trimStart ['Z']) = some (0, []) := by decide
  unfold ofRelaxed?
  rw [written]
  refine Option.bind_eq_some_iff.mpr ⟨_, looseYear?_yearChars _ (dash _), ?_⟩
  refine Option.bind_eq_some_iff.mpr ⟨_, looseMark?_cons (by decide) _, ?_⟩
  refine Option.bind_eq_some_iff.mpr ⟨_, looseNumber?_padded month (dash _), ?_⟩
  refine Option.bind_eq_some_iff.mpr ⟨_, looseMark?_cons (by decide) _, ?_⟩
  refine Option.bind_eq_some_iff.mpr ⟨_, looseNumber?_padded day (middle _), ?_⟩
  refine Option.bind_eq_some_iff.mpr ⟨_, between _, ?_⟩
  refine Option.bind_eq_some_iff.mpr ⟨_, looseNumber?_padded hour (colon _), ?_⟩
  refine Option.bind_eq_some_iff.mpr ⟨_, looseMark?_cons (by decide) _, ?_⟩
  refine Option.bind_eq_some_iff.mpr ⟨_, looseNumber?_padded minute (colon _), ?_⟩
  refine Option.bind_eq_some_iff.mpr ⟨_, looseMark?_cons (by decide) _, ?_⟩
  refine Option.bind_eq_some_iff.mpr ⟨_, looseNumber?_padded second last, ?_⟩
  refine Option.bind_eq_some_iff.mpr ⟨_, fraction?_fractionChars nanos, ?_⟩
  refine Option.bind_eq_some_iff.mpr ⟨_, zulu, ?_⟩
  exact ofFields?_fields year

end Reading

/-- A moment is read from its written form, though perhaps as another one: only the last
second of a minute can be a leap second. -/
theorem ofRelaxedText?_text_eq {t : Instant}
    (year : leastYear ≤ t.date.year ∧ t.date.year ≤ mostYear) :
    ofRelaxedText? t.text = some t.asWritten := by
  unfold ofRelaxedText? text
  rw [String.toList_ofList]
  exact ofRelaxed?_chars year

/-- Whatever text a moment was read from, its written form is read as the moment. -/
theorem ofRelaxedText?_text {s : String} {t : Instant} (read : ofRelaxedText? s = some t) :
    ofRelaxedText? t.text = some t := by
  have isRead := isRead_of_ofRelaxed? read
  rw [ofRelaxedText?_text_eq isRead.year, asWritten_of_isRead isRead]

end Instant

end LiveLog
