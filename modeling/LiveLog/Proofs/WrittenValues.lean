import LiveLog.Json.Printer
import LiveLog.Proofs.PatchCodec
import LiveLog.Proofs.ValueDrafts
import Mathlib.Data.List.TakeWhile

namespace LiveLog

/-!
# Values that are written and read again

The compact text of a value is read character by character by a machine that knows
nothing of the value. A value with integers of 64 bits, without floats and nested no
deeper than a reader allows, comes back from its text: the machine ends with the draft
of the value, and nothing follows it.

Most values are complete with their last character. A number or a literal is not: the
machine learns where it ends from the character after it, or from the end of the text.
So the invariant of a value that was read inside some containers has two cases
(`Reads`), and every character that can follow a value makes one of the two.
-/

namespace JsonText

namespace Machine

/-- A machine that has read a value inside some containers, though perhaps not what
shows that the value is complete. -/
inductive Reads (stack : List Frame) (d : Draft) : Machine → Prop
  | complete : Reads stack d (push d stack)
  /-- The last word is the value, whatever ends the word. -/
  | pending (read : List Char) (closes : ∀ atEnd, closeWord stack atEnd read = push d stack) :
    Reads stack d ⟨stack, .word read⟩

theorem phase_push (d : Draft) (stack : List Frame) :
    (push d stack).phase = .next ∨ ∃ root trailing, (push d stack).phase = .ended root trailing := by
  cases stack with
  | nil => exact Or.inr ⟨d, false, rfl⟩
  | cons frame rest => cases frame <;> exact Or.inl rfl

/-- A character that is no part of a word shows that the value is complete. -/
theorem Reads.step {stack : List Frame} {d : Draft} {m : Machine} (reads : Reads stack d m)
    {c : Char} (other : isWord c = false) : m.step c = (push d stack).step c := by
  cases reads with
  | complete => rfl
  | pending read closes =>
      have expanded : (push d stack).step c =
          if isBlank c then push d stack else (push d stack).mark c := by
        unfold Machine.step
        rcases phase_push d stack with next | ⟨root, trailing, ended⟩
        · rw [next]
        · rw [ended]
      rw [expanded]
      unfold Machine.step
      simp only [other, Bool.false_eq_true, if_false, closes false]

/-- So does the end of the text. -/
theorem Reads.finish {d : Draft} {m : Machine} (reads : Reads [] d m) : m.finish = ⟨d, false⟩ := by
  cases reads with
  | complete => rfl
  | pending read closes =>
      unfold Machine.finish
      simp only [closes true]
      rfl

/-! ## Words -/

/-- Whether a value can begin with a character of a word. -/
def beginsWord (c : Char) : Bool :=
  c = '-' || c.isDigit || c = 'n' || c = 't' || c = 'f'

theorem openValue_of_word (stack : List Frame) {c : Char} (begins : beginsWord c = true) :
    openValue stack c = ⟨stack, .word [c]⟩ := by
  have array : c ≠ '[' := by rintro rfl; cases begins
  have object : c ≠ '{' := by rintro rfl; cases begins
  have quote : c ≠ '"' := by rintro rfl; cases begins
  have word : c = '-' ∨ c.isDigit ∨ c = 'n' ∨ c = 't' ∨ c = 'f' := by
    simpa only [beginsWord, Bool.or_eq_true, decide_eq_true_eq, or_assoc] using begins
  rw [openValue, if_neg array, if_neg object, if_neg quote, if_pos word]

theorem step_value {stack : List Frame} {closable : Bool} {c : Char} (solid : isBlank c = false)
    (other : c ≠ ']') : (⟨stack, .value closable⟩ : Machine).step c = openValue stack c := by
  unfold step mark
  simp only [solid, other, and_false, Bool.false_eq_true, if_false]

theorem run_word (stack : List Frame) (read : List Char) {cs : List Char}
    (word : ∀ c ∈ cs, isWord c = true) :
    (⟨stack, .word read⟩ : Machine).run cs = ⟨stack, .word (cs.reverse ++ read)⟩ := by
  induction cs generalizing read with
  | nil => rfl
  | cons c cs inductionHypothesis =>
      rcases List.forall_mem_cons.mp word with ⟨first, rest⟩
      have more : (⟨stack, .word read⟩ : Machine).step c = ⟨stack, .word (c :: read)⟩ := by
        unfold step
        simp only [first, if_true]
      rw [run_cons, more, inductionHypothesis _ rest, List.reverse_cons, List.append_assoc]
      rfl

/-- A word that stands for a value is read as that value. -/
theorem reads_word (stack : List Frame) (closable : Bool) {c : Char} {cs : List Char} {d : Draft}
    (begins : beginsWord c = true) (word : ∀ c ∈ cs, isWord c = true)
    (means : ∀ atEnd, Draft.ofWord atEnd (c :: cs) = .ok (d, [])) :
    Reads stack d ((⟨stack, .value closable⟩ : Machine).run (c :: cs)) := by
  have solid : isBlank c = false := by
    unfold isBlank
    simp only [Bool.or_eq_false_iff, decide_eq_false_iff_not]
    refine ⟨⟨⟨?_, ?_⟩, ?_⟩, ?_⟩ <;> (rintro rfl; cases begins)
  have other : c ≠ ']' := by rintro rfl; cases begins
  rw [run_cons, step_value solid other, openValue_of_word stack begins, run_word stack [c] word]
  refine .pending _ ?_
  intro atEnd
  unfold closeWord
  rw [List.reverse_append, List.reverse_reverse, List.reverse_singleton, List.singleton_append,
    means atEnd]

end Machine

end JsonText

/-! ## Numbers -/

namespace Numeral

theorem isDigit_of_mem_toDigits {n : Nat} : ∀ c ∈ Nat.toDigits 10 n, c.isDigit = true :=
  fun _ listed => Nat.isDigit_of_mem_toDigits (by decide) (by decide) listed

theorem finish_nil (atEnd negative : Bool) (whole : List Char) :
    finish atEnd negative whole [] = .ok ⟨negative, whole, none, none, []⟩ := rfl

/-- The digits of a number are a whole numeral: only zero begins with a zero. -/
theorem split_toDigits (atEnd : Bool) (n : Nat) :
    split atEnd (Nat.toDigits 10 n) = .ok ⟨false, Nat.toDigits 10 n, none, none, []⟩ ∧
      split atEnd ('-' :: Nat.toDigits 10 n) = .ok ⟨true, Nat.toDigits 10 n, none, none, []⟩ := by
  rcases Nat.eq_zero_or_pos n with rfl | positive
  · exact ⟨rfl, rfl⟩
  · have front := Count.head_toDigits_ne_zero positive
    have digits := isDigit_of_mem_toDigits (n := n)
    cases written : Nat.toDigits 10 n with
    | nil => exact absurd written Nat.toDigits_ne_nil
    | cons c cs =>
        rw [written] at front digits
        rcases List.forall_mem_cons.mp digits with ⟨first, rest⟩
        have zero : c ≠ '0' := fun same => front (congrArg some same)
        have sign : c ≠ '-' := by rintro rfl; cases first
        have whole : cs.takeWhile Char.isDigit = cs := List.takeWhile_eq_self_iff.mpr rest
        have nothing : cs.dropWhile Char.isDigit = [] := List.dropWhile_eq_nil_iff.mpr rest
        constructor
        · unfold split
          split
          rename_i negative body signed
          split at signed
          · rename_i r equal
            exact absurd (List.cons.inj equal).1 sign
          · cases signed
            simp only [first, whole, nothing, if_true, finish_nil]
        · unfold split
          simp only [first, whole, nothing, if_true, finish_nil]

/-- A numeral without a point and an exponent stands for an integer that fits. -/
theorem number?_toDigits {n : Int} (fits : Json.isWordInteger (.int n) = true) :
    (⟨decide (n < 0), Nat.toDigits 10 n.natAbs, none, none, []⟩ : Parts).number? =
      some (.int n) := by
  have bounds := of_decide_eq_true fits
  have most : Nat.pow 2 64 = 18446744073709551616 := rfl
  have least : Nat.pow 2 63 = 9223372036854775808 := rfl
  unfold Parts.number?
  simp only [Count.value_toDigits, most, least, Option.isNone_none, true_and, decide_eq_true_eq]
  by_cases negative : n < 0
  · rw [if_neg (fun unsigned => unsigned.1 negative), if_pos (by omega)]
    exact congrArg (fun m => some (Number.int m)) (by omega)
  · rw [if_pos (by omega)]
    exact congrArg (fun m => some (Number.int m)) (by omega)

end Numeral

/-- The text of an integer: a sign or a digit, and then digits. -/
theorem Json.integerChars_eq_cons (n : Int) : ∃ c cs, integerChars n = c :: cs ∧
    (c = '-' ∨ c.isDigit = true) ∧ ∀ d ∈ cs, d.isDigit = true := by
  have digits := Numeral.isDigit_of_mem_toDigits (n := n.natAbs)
  unfold integerChars
  by_cases negative : n < 0
  · rw [if_pos negative]
    exact ⟨'-', _, rfl, Or.inl rfl, digits⟩
  · rw [if_neg negative]
    cases written : Nat.toDigits 10 n.natAbs with
    | nil => exact absurd written Nat.toDigits_ne_nil
    | cons c cs =>
        rw [written] at digits
        rcases List.forall_mem_cons.mp digits with ⟨first, rest⟩
        exact ⟨c, cs, rfl, Or.inr first, rest⟩

namespace Draft

/-- A word that begins with a sign or a digit is a numeral. -/
theorem ofWord_of_numeral (atEnd : Bool) {c : Char} (numeral : c = '-' ∨ c.isDigit = true)
    (cs : List Char) : ofWord atEnd (c :: cs) = (Numeral.split atEnd (c :: cs)).map fun p =>
      (match p.number? with
        | some n => .num n
        | none => .unfit .null, p.rest) := by
  have letter {l : Char} (sign : l ≠ '-') (digit : l.isDigit = false) : c ≠ l := by
    rintro rfl
    rcases numeral with same | number
    · exact sign same
    · rw [digit] at number
      cases number
  unfold ofWord
  split
  · rename_i equal
    exact absurd (List.cons.inj equal).1 (letter (by decide) (by decide))
  · rename_i equal
    exact absurd (List.cons.inj equal).1 (letter (by decide) (by decide))
  · rename_i equal
    exact absurd (List.cons.inj equal).1 (letter (by decide) (by decide))
  · rfl

end Draft

/-- The text of an integer of 64 bits is a word for it. -/
theorem Draft.ofWord_integerChars (atEnd : Bool) {n : Int}
    (fits : Json.isWordInteger (.int n) = true) :
    ofWord atEnd (Json.integerChars n) = .ok (.num (.int n), []) := by
  have numeral : Numeral.split atEnd (Json.integerChars n) =
      .ok ⟨decide (n < 0), Nat.toDigits 10 n.natAbs, none, none, []⟩ := by
    unfold Json.integerChars
    rcases Numeral.split_toDigits atEnd n.natAbs with ⟨unsigned, signed⟩
    by_cases negative : n < 0
    · rw [if_pos negative, signed, decide_eq_true negative]
    · rw [if_neg negative, unsigned, decide_eq_false negative]
  rcases Json.integerChars_eq_cons n with ⟨c, cs, written, first, _digits⟩
  rw [written] at numeral ⊢
  rw [ofWord_of_numeral atEnd first, numeral]
  simp only [Except.map, Numeral.number?_toDigits fits]

/-! ## Strings -/

theorem Hex.value?_hexDigit (n : Nat) : value? (Json.hexDigit n) = some (n % 16) := by
  have all : ∀ d < 16, value? (Nat.digitChar d) = some d := by decide
  exact all (n % 16) (Nat.mod_lt n (by decide))

namespace JsonText

namespace Quote

theorem step_hex {read : List Char} {count value d : Nat} {c : Char}
    (digit : Hex.value? c = some d) (short : count ≠ 3) :
    (⟨read, .hex count value none, true⟩ : Quote).step c =
      .more ⟨read, .hex (count + 1) (value * 16 + d) none, true⟩ := by
  unfold step
  simp only [digit, if_neg short]

/-- The last digit of an escape for a character that is no surrogate. -/
theorem step_hex_last {read : List Char} {value d : Nat} {c : Char}
    (digit : Hex.value? c = some d) (low : value * 16 + d < 0xD800) :
    (⟨read, .hex 3 value none, true⟩ : Quote).step c =
      .more ⟨Char.ofNat (value * 16 + d) :: read, .outside, true⟩ := by
  unfold step unit
  simp only [digit, if_true]
  rw [if_neg (by omega), if_neg (by omega)]

theorem step_plain {read : List Char} {c : Char} (quote : c ≠ '"') (slash : c ≠ '\\')
    (plain : ¬ c.toNat < 32) :
    (⟨read, .outside, true⟩ : Quote).step c = .more ⟨c :: read, .outside, true⟩ := by
  unfold step Quote.plain
  simp only [if_neg quote, if_neg slash, if_neg plain]

end Quote

namespace Machine

section Strings

variable (stack : List Frame) (isKey : Bool)

theorem step_quote {q r : Quote} {c : Char} (more : q.step c = .more r) :
    (⟨stack, .quote isKey q⟩ : Machine).step c = ⟨stack, .quote isKey r⟩ := by
  unfold step
  simp only [more]

/-- The written form of a character is read as the character. -/
theorem run_escapeChar (read : List Char) (c : Char) :
    (⟨stack, .quote isKey ⟨read, .outside, true⟩⟩ : Machine).run (Json.escapeChar c) =
      ⟨stack, .quote isKey ⟨c :: read, .outside, true⟩⟩ := by
  have named {n : Nat} (code : c.toNat = n) : c = Char.ofNat n := by
    rw [← code, Char.ofNat_toNat]
  unfold Json.escapeChar
  split
  · subst_vars; rfl
  rename_i quote
  split
  · subst_vars; rfl
  rename_i slash
  split
  · subst_vars; rfl
  split
  · subst_vars; rfl
  split
  · subst_vars; rfl
  split
  · rw [named ‹_›]; rfl
  split
  · rw [named ‹_›]; rfl
  split
  · rename_i control
    -- Of the four digits the first two are zeros.
    change (⟨stack, .quote isKey ⟨read, .hex 2 0 none, true⟩⟩ : Machine).run
      [Json.hexDigit (c.toNat / 16), Json.hexDigit c.toNat] = _
    have high := Hex.value?_hexDigit (c.toNat / 16)
    have low := Hex.value?_hexDigit c.toNat
    have code : (0 * 16 + c.toNat / 16 % 16) * 16 + c.toNat % 16 = c.toNat := by omega
    rw [run_cons, step_quote stack isKey (Quote.step_hex high (by decide)), run_cons,
      step_quote stack isKey (Quote.step_hex_last low (by omega)), code, Char.ofNat_toNat, run_nil]
  · rename_i plain
    rw [run_cons, step_quote stack isKey (Quote.step_plain quote slash plain), run_nil]

theorem run_escaped (read cs : List Char) :
    (⟨stack, .quote isKey ⟨read, .outside, true⟩⟩ : Machine).run (cs.flatMap Json.escapeChar) =
      ⟨stack, .quote isKey ⟨cs.reverse ++ read, .outside, true⟩⟩ := by
  induction cs generalizing read with
  | nil => rfl
  | cons c cs inductionHypothesis =>
      rw [List.flatMap_cons, run_append, run_escapeChar, inductionHypothesis, List.reverse_cons,
        List.append_assoc]
      rfl

/-- A string is read up to the quote that ends it. -/
theorem run_string (s : String) :
    (⟨stack, .quote isKey ⟨[], .outside, true⟩⟩ : Machine).run
        (s.toList.flatMap Json.escapeChar ++ ['"']) =
      closeQuote stack isKey ⟨s.toList.reverse, .outside, true⟩ := by
  rw [run_append, run_escaped, List.append_nil]
  rfl

theorem string?_reverse (s : String) :
    (⟨s.toList.reverse, .outside, true⟩ : Quote).string? = some s := by
  unfold Quote.string?
  rw [if_pos rfl, List.reverse_reverse, String.ofList_toList]

/-- A string where a value is due. -/
theorem run_quoted (closable : Bool) (s : String) :
    (⟨stack, .value closable⟩ : Machine).run (Json.quoted s) = push (.str s) stack := by
  have opened : (⟨stack, .value closable⟩ : Machine).step '"' =
      ⟨stack, .quote false ⟨[], .outside, true⟩⟩ := step_value rfl (by decide)
  unfold Json.quoted
  rw [List.cons_append, run_cons, opened, run_string]
  unfold closeQuote
  rw [if_neg Bool.false_ne_true, string?_reverse]

/-- A string where a key is due, and the colon after it. -/
theorem run_key (done : List (Draft.Key × Draft)) (closable : Bool) (k : String) (cs : List Char) :
    (⟨.members done :: stack, .key closable⟩ : Machine).run (Json.quoted k ++ ':' :: cs) =
      (⟨.member done (.name k) :: stack, .value false⟩ : Machine).run cs := by
  have opened : (⟨.members done :: stack, .key closable⟩ : Machine).step '"' =
      ⟨.members done :: stack, .quote true ⟨[], .outside, true⟩⟩ := by
    cases closable <;> rfl
  have named : (⟨k.toList.reverse, .outside, true⟩ : Quote).key = .name k := by
    unfold Quote.key
    rw [string?_reverse]
  unfold Json.quoted
  rw [List.cons_append, List.cons_append, run_cons, opened, run_append, run_string]
  unfold closeQuote
  simp only [if_true, named]
  rw [run_cons]
  rfl

end Strings

/-! ## Containers -/

theorem reads_integer (stack : List Frame) (closable : Bool) {n : Int}
    (fits : Json.isWordInteger (.int n) = true) :
    Reads stack (.num (.int n)) ((⟨stack, .value closable⟩ : Machine).run (Json.integerChars n)) := by
  rcases Json.integerChars_eq_cons n with ⟨c, cs, written, first, digits⟩
  have begins : beginsWord c = true := by
    unfold beginsWord
    rcases first with rfl | digit
    · rfl
    · rw [digit, Bool.or_true, Bool.true_or, Bool.true_or, Bool.true_or]
  have word : ∀ d ∈ cs, isWord d = true := by
    intro d listed
    unfold isWord Char.isAlphanum
    rw [digits d listed, Bool.or_true, Bool.true_or, Bool.true_or, Bool.true_or]
  have means (atEnd : Bool) := Draft.ofWord_integerChars atEnd fits
  rw [written] at means ⊢
  exact reads_word stack closable begins word means

theorem close_items {stack : List Frame} (fits : stack.length < Draft.deepest)
    (done : List Draft) : close (.items done :: stack) = push (.arr done.reverse none) stack := by
  simp only [close, wrap, Draft.atDepth, if_pos fits]

theorem close_members {stack : List Frame} (fits : stack.length < Draft.deepest)
    (done : List (Draft.Key × Draft)) :
    close (.members done :: stack) = push (.obj done.reverse none) stack := by
  simp only [close, wrap, Draft.atDepth, if_pos fits]

mutual

/-- A value is read from its text, inside of any containers that leave room for it. -/
theorem reads_chars (v : Json) (integral : v.Integral) (stack : List Frame) (closable : Bool)
    (fits : stack.length + v.nesting ≤ Draft.deepest) :
    Reads stack v.draft ((⟨stack, .value closable⟩ : Machine).run v.chars) := by
  cases v with
  | null => exact reads_word stack closable rfl (List.all_eq_true.mp rfl) fun atEnd => rfl
  | bool b =>
      cases b with
      | true => exact reads_word stack closable rfl (List.all_eq_true.mp rfl) fun atEnd => rfl
      | false => exact reads_word stack closable rfl (List.all_eq_true.mp rfl) fun atEnd => rfl
  | num n =>
      cases n with
      | float x => cases integral
      | int n => exact reads_integer stack closable integral
  | str s =>
      rw [Json.chars, run_quoted]
      exact .complete
  | arr xs =>
      rw [Json.nesting] at fits
      cases xs with
      | nil =>
          have closed : (⟨stack, .value closable⟩ : Machine).run ['[', ']'] =
            close (.items [] :: stack) := by cases closable <;> rfl
          rw [Json.chars, closed, close_items (by omega)]
          exact .complete
      | cons x xs =>
          rw [Json.nestingItems] at fits
          have opened : (⟨stack, .value closable⟩ : Machine).step '[' =
            ⟨.items [] :: stack, .value true⟩ := by cases closable <;> rfl
          have first := reads_chars x integral.1 (.items [] :: stack) true
            (by rw [List.length_cons]; omega)
          rw [Json.chars, List.cons_append, run_cons, opened, run_append,
            run_itemChars xs integral.2 stack [] x.draft _ first (by omega)]
          exact .complete
  | obj ms =>
      rw [Json.nesting] at fits
      have opened : (⟨stack, .value closable⟩ : Machine).step '{' =
        ⟨.members [] :: stack, .key true⟩ := by cases closable <;> rfl
      cases ms with
      | nil =>
          rw [Json.chars, run_cons, opened]
          change Reads stack _ (close (.members [] :: stack))
          rw [close_members (by omega)]
          exact .complete
      | cons m ms =>
          rcases m with ⟨k, x⟩
          rw [Json.nestingMembers] at fits
          have first := reads_chars x integral.1 (.member [] (.name k) :: stack) false
            (by rw [List.length_cons]; omega)
          rw [Json.chars, List.append_assoc, List.cons_append, run_cons, opened,
            List.cons_append, run_key, run_append,
            run_memberChars ms integral.2 stack [] (.name k) x.draft _ first (by omega)]
          exact .complete

/-- After an item the rest of its array is read. -/
theorem run_itemChars (xs : List Json) (integral : Json.IntegralItems xs) (stack : List Frame)
    (done : List Draft) (d : Draft) (m : Machine) (reads : Reads (.items done :: stack) d m)
    (fits : stack.length + 1 + Json.nestingItems xs ≤ Draft.deepest) :
    m.run (Json.itemChars xs) =
      push (.arr (done.reverse ++ d :: Json.draftItems xs) none) stack := by
  cases xs with
  | nil =>
      rw [Json.itemChars, run_cons, reads.step rfl, run_nil]
      change close (.items (d :: done) :: stack) = _
      rw [close_items (by omega), List.reverse_cons]
      rfl
  | cons x xs =>
      rw [Json.nestingItems] at fits
      have next : (push d (.items done :: stack)).step ',' =
        ⟨.items (d :: done) :: stack, .value false⟩ := rfl
      have first := reads_chars x integral.1 (.items (d :: done) :: stack) false
        (by rw [List.length_cons]; omega)
      rw [Json.itemChars, List.cons_append, run_cons, reads.step rfl, next, run_append,
        run_itemChars xs integral.2 stack (d :: done) x.draft _ first (by omega),
        List.reverse_cons, List.append_assoc]
      rfl

/-- After a member the rest of its object is read. -/
theorem run_memberChars (ms : List (String × Json)) (integral : Json.IntegralMembers ms)
    (stack : List Frame) (done : List (Draft.Key × Draft)) (key : Draft.Key) (d : Draft)
    (m : Machine) (reads : Reads (.member done key :: stack) d m)
    (fits : stack.length + 1 + Json.nestingMembers ms ≤ Draft.deepest) :
    m.run (Json.memberChars ms) =
      push (.obj (done.reverse ++ (key, d) :: Json.draftMembers ms) none) stack := by
  cases ms with
  | nil =>
      rw [Json.memberChars, run_cons, reads.step rfl, run_nil]
      change close (.members ((key, d) :: done) :: stack) = _
      rw [close_members (by omega), List.reverse_cons]
      rfl
  | cons next ms =>
      rcases next with ⟨k, x⟩
      rw [Json.nestingMembers] at fits
      have comma : (push d (.member done key :: stack)).step ',' =
        ⟨.members ((key, d) :: done) :: stack, .key false⟩ := rfl
      have first := reads_chars x integral.1 (.member ((key, d) :: done) (.name k) :: stack) false
        (by rw [List.length_cons]; omega)
      rw [Json.memberChars, List.append_assoc, List.cons_append, run_cons, reads.step rfl, comma,
        List.cons_append, run_key, run_append,
        run_memberChars ms integral.2 stack ((key, d) :: done) (.name k) x.draft _ first (by omega),
        List.reverse_cons, List.append_assoc]
      rfl

end

end Machine

/-- A value is read from its compact text, and nothing is left. -/
theorem read_compact {v : Json} (integral : v.Integral) (fits : v.nesting ≤ Draft.deepest) :
    read v.compact = ⟨v.draft, false⟩ := by
  have reads := Machine.reads_chars v integral [] false (by rw [List.length_nil]; omega)
  unfold read Json.compact
  rw [String.toList_ofList]
  exact reads.finish

end JsonText

namespace Json

/-- A value comes back from its compact text. -/
theorem ofText_compact {v : Json} (integral : v.Integral) (distinct : v.Distinct)
    (fits : v.nesting ≤ Draft.deepest) : ofText v.compact = .ok v := by
  unfold ofText
  rw [JsonText.read_compact integral fits]
  simp only [toJson_draft v distinct]
  rfl

end Json

end LiveLog
