namespace LiveLog

/-!
# Pieces of a text

A text cut at each occurrence of a character. There is always one piece more
than there are occurrences.
-/

namespace Text

/-- A text cut at each occurrence of a character. `piece` is the present piece,
backwards. -/
def cut (sep : Char) (piece : List Char) : List Char → List (List Char)
  | [] => [piece.reverse]
  | c :: cs => if c = sep then piece.reverse :: cut sep [] cs else cut sep (c :: piece) cs

/-- The pieces of a text between the occurrences of a character. -/
def pieces (sep : Char) (cs : List Char) : List (List Char) := cut sep [] cs

theorem length_cut (sep : Char) (piece cs : List Char) :
    (cut sep piece cs).length = cs.count sep + 1 := by
  induction cs generalizing piece with
  | nil => rfl
  | cons c cs ih =>
    unfold cut
    by_cases h : c = sep <;> simp [h, ih]

/-- There is one piece more than there are occurrences. -/
theorem length_pieces (sep : Char) (cs : List Char) :
    (pieces sep cs).length = cs.count sep + 1 := length_cut sep [] cs

theorem pieces_ne_nil (sep : Char) (cs : List Char) : pieces sep cs ≠ [] := fun h => by
  have := length_pieces sep cs
  simp [h] at this

theorem cut_append (sep : Char) (piece xs ys : List Char) :
    cut sep piece (xs ++ sep :: ys) = cut sep piece xs ++ pieces sep ys := by
  induction xs generalizing piece with
  | nil => simp [cut, pieces]
  | cons c xs ih =>
    by_cases h : c = sep
    · simp [cut, h, ih]
    · simp only [List.cons_append, cut, h, if_false, ih]

/-- The text before an occurrence and the text after it are cut apart. -/
theorem pieces_append (sep : Char) (xs ys : List Char) :
    pieces sep (xs ++ sep :: ys) = pieces sep xs ++ pieces sep ys := cut_append sep [] xs ys

theorem cut_of_not_mem {sep : Char} {xs : List Char} (piece : List Char) (h : sep ∉ xs) :
    cut sep piece xs = [piece.reverse ++ xs] := by
  induction xs generalizing piece with
  | nil => simp [cut]
  | cons c xs ih =>
    have hc : c ≠ sep := fun e => h (e ▸ List.mem_cons_self)
    have hxs : sep ∉ xs := fun m => h (List.mem_cons_of_mem c m)
    simp [cut, hc, ih _ hxs]

/-- A text without the character is one piece. -/
theorem pieces_of_not_mem {sep : Char} {xs : List Char} (h : sep ∉ xs) : pieces sep xs = [xs] :=
  cut_of_not_mem [] h

theorem not_mem_of_mem_cut {sep : Char} {piece xs ys : List Char} (h : sep ∉ piece)
    (hys : ys ∈ cut sep piece xs) : sep ∉ ys := by
  induction xs generalizing piece with
  | nil => simp_all [cut]
  | cons c xs ih =>
    unfold cut at hys
    split at hys
    · rcases List.mem_cons.mp hys with rfl | hys
      · simpa using h
      · exact ih List.not_mem_nil hys
    · rename_i hc
      exact ih (by simpa [Ne.symm hc] using h) hys

/-- No piece holds the character. -/
theorem not_mem_of_mem_pieces {sep : Char} {xs ys : List Char} (h : ys ∈ pieces sep xs) :
    sep ∉ ys := not_mem_of_mem_cut List.not_mem_nil h

theorem mem_of_mem_cut {sep c : Char} {piece xs ys : List Char} (hys : ys ∈ cut sep piece xs)
    (h : c ∈ ys) : c ∈ piece ∨ c ∈ xs := by
  induction xs generalizing piece with
  | nil => simp_all [cut]
  | cons d xs ih =>
    unfold cut at hys
    split at hys
    · rcases List.mem_cons.mp hys with rfl | hys
      · exact Or.inl (List.mem_reverse.mp h)
      · rcases ih hys with hn | hm
        · cases hn
        · exact Or.inr (List.mem_cons_of_mem d hm)
    · rcases ih hys with hp | hm
      · rcases List.mem_cons.mp hp with rfl | hp
        · exact Or.inr List.mem_cons_self
        · exact Or.inl hp
      · exact Or.inr (List.mem_cons_of_mem d hm)

/-- The pieces hold nothing that the text does not hold. -/
theorem mem_of_mem_pieces {sep c : Char} {xs ys : List Char} (hys : ys ∈ pieces sep xs)
    (h : c ∈ ys) : c ∈ xs := (mem_of_mem_cut hys h).resolve_left List.not_mem_nil

/-- The first line of a text, without what ends it. -/
def firstLine (s : String) : String :=
  match pieces '\n' s.toList with
  | line :: _ :: _ => String.ofList (if line.getLast? = some '\r' then line.dropLast else line)
  | _ => s

/-- What ends a line may be two characters; the last line has no end. -/
example : firstLine "a\r\nb" = "a" ∧ firstLine "a\nb" = "a" ∧ firstLine "a\r" = "a\r" := by
  decide +kernel

end Text

end LiveLog
