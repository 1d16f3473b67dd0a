import LiveLog.Text.Decomposition
import LiveLog.Text.MarkOrder

namespace LiveLog

/-!
# Composed text

A text is composed when its marks are in order and every letter is written
together with those of its marks with which it makes one character. Texts that
mean the same letters and marks have one composed form.
-/

/-- Text that is being composed. -/
structure Composition where
  /-- What will not change any more, backwards. -/
  done : List Char
  /-- The last letter, to which marks may still be added. -/
  letter : Option Char
  /-- The marks after it that it did not take, backwards. -/
  marks : List Char

namespace Composition

/-- A composition of no characters. -/
def start : Composition := ⟨[], none, []⟩

/-- All that has been read, backwards. -/
def read (s : Composition) : List Char := s.marks ++ s.letter.toList ++ s.done

/-- Whether a mark that was not taken keeps a character from the letter. -/
def isBlocked (s : Composition) (c : Char) : Bool :=
  match s.marks with
  | [] => false
  | m :: _ => MarkOrder.classOf c ≤ MarkOrder.classOf m

/-- The letter that takes a character, if it does. -/
def taken? (s : Composition) (c : Char) : Option Char :=
  if s.isBlocked c then none else s.letter.bind fun l => Decomposition.pair? l c

/-- One more character. -/
def add (s : Composition) (c : Char) : Composition :=
  match s.taken? c with
  | some l => { s with letter := some l }
  | none =>
    if MarkOrder.classOf c = 0 then ⟨s.read, some c, []⟩ else { s with marks := c :: s.marks }

/-- The composed form of a text. -/
def ofChars (cs : List Char) : List Char :=
  if cs.all (·.toNat < 0x80) then cs
  else
    ((MarkOrder.sorted (cs.flatMap Decomposition.parts)).foldl add start).read.reverse

/-- Where no letter takes it, a character is added at the end. -/
theorem read_add_of_not_taken {s : Composition} {c : Char} (h : s.taken? c = none) :
    (s.add c).read = c :: s.read := by
  unfold add
  rw [h]
  dsimp only
  split <;> simp [read]

/-- Text in ASCII is composed. -/
theorem ofChars_of_ascii {cs : List Char} (h : ∀ c ∈ cs, c.toNat < 0x80) : ofChars cs = cs := by
  unfold ofChars
  rw [if_pos]
  simpa [List.all_eq_true] using h

end Composition

end LiveLog
