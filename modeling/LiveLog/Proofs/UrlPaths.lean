import LiveLog.Backend
import Mathlib.Data.List.TakeWhile

namespace LiveLog

/-!
# Paths of addresses as they are read

A path is read segment by segment: dots move within the way so far, and every other segment
is percent-encoded and added to it. What is added is settled. It is no writing of dots, it
holds only characters that a path may hold, and so a path that is written and read again
does not change. That encoding makes no dots has to be seen from the codes themselves, since
dots may be written as `%2E`: the only character with the code of a full stop is the full
stop, which is never encoded.

A path ends in a slash when its last segment is empty, and it is closed by adding an empty
segment. The same path comes about when a slash is put after the text that was read, provided
that the text did not end in a slash: a segment that follows is passed and not ended, which
makes a difference only to dots.
-/

/-! ## Encoded text -/

namespace Percent

variable {set cs : List Char}

theorem encodeChar_ne_nil (set : List Char) (c : Char) : encodeChar set c ≠ [] := by
  unfold encodeChar
  split
  · exact List.cons_ne_nil c []
  · intro none
    have bytes := String.utf8EncodeChar_ne_nil (c := c)
    cases encoded : String.utf8EncodeChar c with
    | nil => exact bytes encoded
    | cons b rest =>
        rw [encoded, List.flatMap_cons] at none
        cases none

theorem encode_ne_nil (filled : cs ≠ []) : encode set cs ≠ [] := by
  cases cs with
  | nil => exact absurd rfl filled
  | cons c cs =>
      rw [encode, List.flatMap_cons]
      exact List.append_ne_nil_of_left_ne_nil (encodeChar_ne_nil set c) _

/-- An encoded text consists of characters of the text that may stand, and of codes. -/
theorem of_mem_encode {c : Char} (listed : c ∈ encode set cs) :
    (c ∈ cs ∧ isPlain set c = true) ∨ c = '%' ∨ ∃ n, c = Hex.capital n := by
  rcases List.mem_flatMap.mp listed with ⟨d, inside, written⟩
  unfold encodeChar at written
  split at written
  · rename_i plain
    rw [List.mem_singleton] at written
    exact Or.inl (written ▸ ⟨inside, plain⟩)
  · rcases List.mem_flatMap.mp written with ⟨b, _encoded, mark⟩
    simp only [byte, List.mem_cons, List.not_mem_nil, or_false] at mark
    rcases mark with percent | high | low
    · exact Or.inr (Or.inl percent)
    · exact Or.inr (Or.inr ⟨_, high⟩)
    · exact Or.inr (Or.inr ⟨_, low⟩)

/-- Percent-encoding makes no slashes. -/
theorem isSlash_of_mem_encode {k : SchemeClass} (clear : ∀ c ∈ cs, k.isSlash c = false) :
    ∀ c ∈ encode set cs, k.isSlash c = false := by
  have digit : ∀ d < 16, k.isSlash (Nat.digitChar d).toUpper = false := by cases k <;> decide
  intro c listed
  rcases of_mem_encode listed with ⟨inside, _plain⟩ | rfl | ⟨n, rfl⟩
  · exact clear c inside
  · cases k <;> rfl
  · exact digit (n % 16) (Nat.mod_lt n (by decide))

/-- Only characters that a path may hold are left in an encoded text. -/
theorem isPlain_of_mem_encode {c : Char} (listed : c ∈ encode path cs) : isPlain path c = true := by
  have digit : ∀ d < 16, isPlain path (Nat.digitChar d).toUpper = true := by decide
  rcases of_mem_encode listed with ⟨_inside, plain⟩ | rfl | ⟨n, rfl⟩
  · exact plain
  · decide
  · exact digit (n % 16) (Nat.mod_lt n (by decide))

/-- The bytes of no character but the full stop begin as those of the full stop. -/
theorem eq_stop_of_utf8EncodeChar {c : Char} {b : UInt8} {bs : List UInt8}
    (encoded : String.utf8EncodeChar c = b :: bs) (stop : b.toNat = 0x2E) : c = '.' := by
  have code : c.val.toNat = 0x2E := by
    simp only [String.utf8EncodeChar] at encoded
    repeat' split at encoded
    all_goals
      have first := congrArg UInt8.toNat (List.cons.inj encoded).1
      rw [stop, UInt8.toNat_ofNat'] at first
      omega
  exact Char.ext (UInt32.toNat_inj.mp code)

theorem eq_stop_of_capitals {b : UInt8} (high : (Hex.capital (b.toNat / 16)).toLower = '2')
    (low : (Hex.capital b.toNat).toLower = 'e') : b.toNat = 0x2E := by
  have highs : ∀ d < 16, ((Nat.digitChar d).toUpper).toLower = '2' → d = 2 := by decide
  have lows : ∀ d < 16, ((Nat.digitChar d).toUpper).toLower = 'e' → d = 14 := by decide
  have first := highs _ (Nat.mod_lt _ (by decide)) high
  have second := lows _ (Nat.mod_lt _ (by decide)) low
  have small := b.toNat_lt
  omega

end Percent

/-! ## Settled segments -/

namespace UrlPath

variable {k : SchemeClass} {before : List String} {ps : List (List Char)} {cs : List Char}

/-- The segments in small letters that stand for a directory or the one above. -/
def dots : List String := [".", "%2e", "..", ".%2e", "%2e.", "%2e%2e"]

theorem stop_of_mem_dots : ∀ t ∈ dots, ∀ n < t.length, t.toList[n]? = some '%' →
    t.toList[n + 1]? = some '2' ∧ t.toList[n + 2]? = some 'e' := by
  decide

/-- Nothing but a full stop has a code that could stand for one. So a segment that is dots
when it is encoded was dots before. -/
theorem map_toLower_of_encode {t : String} {cs : List Char} (listed : t ∈ dots)
    (written : (Percent.encode Percent.path cs).map Char.toLower = t.toList) :
    cs.map Char.toLower = t.toList := by
  have plain : ∀ c ∈ cs, Percent.isPlain Percent.path c = true := by
    intro c inside
    by_contra hidden
    rcases List.append_of_mem inside with ⟨front, rest, split⟩
    cases encoded : String.utf8EncodeChar c with
    | nil => exact String.utf8EncodeChar_ne_nil encoded
    | cons b bs =>
        have shape : t.toList = (Percent.encode Percent.path front).map Char.toLower ++
            '%' :: (Hex.capital (b.toNat / 16)).toLower :: (Hex.capital b.toNat).toLower ::
              (bs.flatMap Percent.byte ++ Percent.encode Percent.path rest).map Char.toLower := by
          rw [← written]
          simp [split, Percent.encode, Percent.encodeChar, hidden, encoded, Percent.byte]
        have marks : (Hex.capital (b.toNat / 16)).toLower = '2' ∧
            (Hex.capital b.toNat).toLower = 'e' := by
          have place := stop_of_mem_dots t listed (Percent.encode Percent.path front).length
            (by rw [← String.length_toList, shape]; simp) (by rw [shape]; simp)
          simpa [shape] using place
        have stop := Percent.eq_stop_of_utf8EncodeChar encoded
          (Percent.eq_stop_of_capitals marks.1 marks.2)
        subst stop
        exact hidden (by decide)
  rw [← written, Percent.encode_eq_self plain]

theorem contains_of_encode {names : List String} {cs : List Char} (among : names ⊆ dots)
    (found : names.contains (String.ofList ((Percent.encode Percent.path cs).map Char.toLower))) :
    names.contains (String.ofList (cs.map Char.toLower)) := by
  rw [List.contains_iff_mem] at *
  have listed := among found
  have same := map_toLower_of_encode listed (String.toList_ofList).symm
  rw [String.toList_ofList] at same
  rw [same]
  exact found

/-- A segment that is read as it stands. -/
structure IsSettled (k : SchemeClass) (cs : List Char) : Prop where
  noDot : isDot cs = false
  noDoubleDot : isDoubleDot cs = false
  plain : ∀ c ∈ cs, Percent.isPlain Percent.path c = true
  noSlash : ∀ c ∈ cs, k.isSlash c = false

instance (k : SchemeClass) (cs : List Char) : Decidable (IsSettled k cs) :=
  decidable_of_iff (isDot cs = false ∧ isDoubleDot cs = false ∧
      cs.all (Percent.isPlain Percent.path) = true ∧ cs.all (fun c => !k.isSlash c) = true)
    ⟨fun ⟨noDot, noDoubleDot, plain, noSlash⟩ =>
      ⟨noDot, noDoubleDot, List.all_eq_true.mp plain, by simpa using noSlash⟩,
    fun ⟨noDot, noDoubleDot, plain, noSlash⟩ =>
      ⟨noDot, noDoubleDot, List.all_eq_true.mpr plain, by simpa using noSlash⟩⟩

namespace IsSettled

theorem nil (k : SchemeClass) : IsSettled k [] :=
  ⟨by decide, by decide, List.forall_mem_nil _, List.forall_mem_nil _⟩

/-- Encoding settles a segment that is no writing of dots. -/
theorem encode (noDot : isDot cs = false) (noDoubleDot : isDoubleDot cs = false)
    (noSlash : ∀ c ∈ cs, k.isSlash c = false) :
    IsSettled k (Percent.encode Percent.path cs) := by
  refine ⟨?_, ?_, fun c listed => Percent.isPlain_of_mem_encode listed,
    Percent.isSlash_of_mem_encode noSlash⟩
  · rw [Bool.eq_false_iff] at *
    exact fun found => noDot (contains_of_encode (by decide) found)
  · rw [Bool.eq_false_iff] at *
    exact fun found => noDoubleDot (contains_of_encode (by decide) found)

theorem slash_not_mem (settled : IsSettled k cs) : '/' ∉ cs := by
  intro listed
  cases settled.noSlash _ listed

end IsSettled

theorem written_eq (other : k ≠ .file) (before : List String) (cs : List Char) :
    written k before cs = String.ofList (Percent.encode Percent.path cs) := by
  rw [written, if_neg (fun file => other file.1)]

/-! ## Segments on the way -/

theorem mem_of_mem_up {n : String} (listed : n ∈ up before) : n ∈ before := by
  unfold up at listed
  split at listed
  · exact listed
  · split at listed
    · exact listed
    · exact List.mem_cons_of_mem _ listed

/-- The way after a segment that others follow, given backwards. -/
def passed (k : SchemeClass) (before : List String) (cs : List Char) : List String :=
  if isDoubleDot cs then up before
  else if isDot cs then before
  else written k before cs :: before

/-- The way after the last segment, given backwards. Dots at the end stand for a
directory. -/
def ended (k : SchemeClass) (before : List String) (cs : List Char) : List String :=
  if isDoubleDot cs ∨ isDot cs then "" :: passed k before cs else passed k before cs

theorem ended_of_not_dots {k : SchemeClass} {before : List String} {cs : List Char}
    (noDots : ¬(isDoubleDot cs ∨ isDot cs)) :
    ended k before cs = written k before cs :: before := by
  rw [ended, if_neg noDots, passed, if_neg fun up => noDots (Or.inl up),
    if_neg fun stay => noDots (Or.inr stay)]

theorem resolve_singleton (k : SchemeClass) (before : List String) (cs : List Char) :
    resolve k before [cs] = (ended k before cs).reverse := by
  by_cases up : isDoubleDot cs = true
  · simp [resolve, ended, passed, up]
  · by_cases stay : isDot cs = true
    · simp [resolve, ended, passed, up, stay]
    · simp [resolve, ended, passed, up, stay]

/-- All segments but the last one are passed, and with the last one the way ends. -/
theorem resolve_concat (k : SchemeClass) (before : List String) (ps : List (List Char))
    (cs : List Char) :
    resolve k before (ps ++ [cs]) = (ended k (ps.foldl (passed k) before) cs).reverse := by
  induction ps generalizing before with
  | nil => exact resolve_singleton k before cs
  | cons p ps inductionHypothesis =>
      have more : ps ++ [cs] ≠ [] := List.concat_ne_nil cs ps
      rw [List.cons_append, List.foldl_cons, ← inductionHypothesis, passed]
      cases rest : ps ++ [cs] with
      | nil => exact absurd rest more
      | cons q qs => simp only [resolve, apply_ite (resolve k · (q :: qs))]

/-- What an empty segment at the end adds. -/
theorem resolve_concat_nil (k : SchemeClass) (before : List String) (ps : List (List Char)) :
    resolve k before (ps ++ [[]]) = (ps.foldl (passed k) before).reverse ++ [""] := by
  have empty (names : List String) : written k names [] = "" := by
    unfold written firstName
    simp [isDrive, Percent.encode]
  rw [resolve_concat, ended_of_not_dots (by decide), empty, List.reverse_cons]

theorem isSettled_passed (other : k ≠ .file) (settled : ∀ n ∈ before, IsSettled k n.toList)
    (noSlash : ∀ c ∈ cs, k.isSlash c = false) :
    ∀ n ∈ passed k before cs, IsSettled k n.toList := by
  unfold passed
  split
  · exact fun n listed => settled n (mem_of_mem_up listed)
  · rename_i noDoubleDot
    split
    · exact settled
    · rename_i noDot
      rw [Bool.not_eq_true] at noDot noDoubleDot
      refine List.forall_mem_cons.mpr ⟨?_, settled⟩
      rw [written_eq other, String.toList_ofList]
      exact .encode noDot noDoubleDot noSlash

theorem isSettled_foldl (other : k ≠ .file) (settled : ∀ n ∈ before, IsSettled k n.toList)
    (noSlash : ∀ p ∈ ps, ∀ c ∈ p, k.isSlash c = false) :
    ∀ n ∈ ps.foldl (passed k) before, IsSettled k n.toList := by
  induction ps generalizing before with
  | nil => exact settled
  | cons p ps inductionHypothesis =>
      rcases List.forall_mem_cons.mp noSlash with ⟨first, rest⟩
      exact inductionHypothesis (isSettled_passed other settled first) rest

theorem isSettled_ended (other : k ≠ .file) (settled : ∀ n ∈ before, IsSettled k n.toList)
    (noSlash : ∀ c ∈ cs, k.isSlash c = false) :
    ∀ n ∈ ended k before cs, IsSettled k n.toList := by
  have empty : IsSettled k "".toList := .nil k
  have passes := isSettled_passed other settled noSlash
  unfold ended
  split
  · exact List.forall_mem_cons.mpr ⟨empty, passes⟩
  · exact passes

theorem ended_ne_nil (k : SchemeClass) (before : List String) (cs : List Char) :
    ended k before cs ≠ [] := by
  by_cases dots : isDoubleDot cs ∨ isDot cs
  · rw [ended, if_pos dots]
    exact List.cons_ne_nil _ _
  · rw [ended_of_not_dots dots]
    exact List.cons_ne_nil _ _

/-- A text in which the slashes of a scheme are all written alike. -/
def slashed (k : SchemeClass) (cs : List Char) : List Char :=
  cs.map fun c => if k.isSlash c then '/' else c

theorem ofChars_eq (k : SchemeClass) (cs : List Char) :
    ofChars k cs = resolve k [] (Text.pieces '/' (slashed k cs)) := rfl

theorem isSlash_of_mem_pieces {p : List Char} (piece : p ∈ Text.pieces '/' (slashed k cs)) :
    ∀ c ∈ p, k.isSlash c = false := by
  intro c listed
  have mark : c ≠ '/' := ne_of_mem_of_not_mem listed (Text.not_mem_of_mem_pieces piece)
  rcases List.mem_map.mp (Text.mem_of_mem_pieces piece listed) with ⟨d, _inside, rfl⟩
  split at mark
  · exact absurd rfl mark
  · rename_i letter
    rwa [if_neg letter, ← Bool.not_eq_true]

/-- The segments of a text: there is one at least, and all are settled. -/
theorem ofChars_settled (other : k ≠ .file) (cs : List Char) :
    ofChars k cs ≠ [] ∧ ∀ n ∈ ofChars k cs, IsSettled k n.toList := by
  have noSlash : ∀ p ∈ Text.pieces '/' (slashed k cs), ∀ c ∈ p, k.isSlash c = false :=
    fun p piece => isSlash_of_mem_pieces piece
  rw [ofChars_eq]
  rcases List.eq_nil_or_concat (Text.pieces '/' (slashed k cs)) with none | ⟨front, last, split⟩
  · exact absurd none (Text.pieces_ne_nil _ _)
  · rw [List.concat_eq_append] at split
    rw [split] at noSlash ⊢
    rcases List.forall_mem_append.mp noSlash with ⟨others, final⟩
    have walked : ∀ n ∈ front.foldl (passed k) [], IsSettled k n.toList :=
      isSettled_foldl other (List.forall_mem_nil _) others
    have settled := isSettled_ended other walked (final last List.mem_cons_self)
    rw [resolve_concat]
    constructor
    · exact fun none => ended_ne_nil _ _ _ (List.reverse_eq_nil_iff.mp none)
    · exact fun n listed => settled n (List.mem_reverse.mp listed)

/-- Settled segments are added as they stand. -/
theorem resolve_of_settled (other : k ≠ .file) (settled : ∀ p ∈ ps, IsSettled k p) :
    resolve k before ps = before.reverse ++ ps.map String.ofList := by
  induction ps generalizing before with
  | nil => simp [resolve]
  | cons p ps inductionHypothesis =>
      rcases List.forall_mem_cons.mp settled with ⟨first, rest⟩
      have adds : written k before p = String.ofList p := by
        rw [written_eq other, Percent.encode_eq_self first.plain]
      cases ps with
      | nil => simp [resolve, first.noDot, first.noDoubleDot, adds]
      | cons q qs =>
          have more : resolve k (String.ofList p :: before) (q :: qs) =
              (String.ofList p :: before).reverse ++ (q :: qs).map String.ofList :=
            inductionHypothesis rest
          simp only [resolve, first.noDot, first.noDoubleDot, adds, Bool.false_eq_true, if_false]
          rw [more, List.reverse_cons, List.append_assoc]
          rfl

/-! ## Closed paths -/

theorem closed_of_endsInSlash (k : SchemeClass) {p : UrlPath} (ends : p.endsInSlash = true) :
    p.closed k = p := by
  unfold closed
  exact if_pos ends

theorem closed_concat_empty (k : SchemeClass) (names : List String) :
    (segments (names ++ [""])).closed k = segments (names ++ [""]) :=
  closed_of_endsInSlash k (by simp [endsInSlash])

theorem closed_concat {n : String} (other : k ≠ .file) (names : List String) (filled : n ≠ "") :
    (segments (names ++ [n])).closed k = segments (names ++ [n] ++ [""]) := by
  simp [closed, endsInSlash, filled, other]

/-- Closing a path twice does what closing it once does. -/
theorem closed_closed (k : SchemeClass) (names : List String) :
    ((segments names).closed k).closed k = (segments names).closed k :=
  closed_of_endsInSlash k (endsInSlash_closed_segments k names)

/-- A closed path of settled segments ends in an empty one. -/
theorem exists_closed {names : List String} (other : k ≠ .file)
    (settled : ∀ n ∈ names, IsSettled k n.toList) : ∃ directories,
      (segments names).closed k = segments (directories ++ [""]) ∧
        ∀ n ∈ directories, IsSettled k n.toList := by
  rcases List.eq_nil_or_concat names with rfl | ⟨front, last, rfl⟩
  · exact ⟨[], by simp [closed, endsInSlash, other], settled⟩
  · rw [List.concat_eq_append] at *
    by_cases empty : last = ""
    · subst empty
      exact ⟨front, closed_concat_empty k front, (List.forall_mem_append.mp settled).1⟩
    · exact ⟨front ++ [last], closed_concat other front empty, settled⟩

/-- A way that ends is closed as if it went on. Only an empty segment would be lost. -/
theorem closed_ended (other : k ≠ .file) (before : List String) (filled : cs ≠ []) :
    (segments (ended k before cs).reverse).closed k =
      segments ((passed k before cs).reverse ++ [""]) := by
  have shown : written k before cs ≠ "" := by
    intro none
    have none := congrArg String.toList none
    rw [written_eq other, String.toList_ofList] at none
    exact Percent.encode_ne_nil filled none
  by_cases dots : isDoubleDot cs ∨ isDot cs
  · rw [ended, if_pos dots, List.reverse_cons, closed_concat_empty]
  · have adds : ended k before cs = written k before cs :: before := ended_of_not_dots dots
    have same : passed k before cs = ended k before cs := by rw [ended, if_neg dots]
    rw [same, adds, List.reverse_cons, closed_concat other _ shown]

theorem exists_pieces_concat {sep c : Char} (other : c ≠ sep) (cs : List Char) :
    ∃ front last, Text.pieces sep (cs ++ [c]) = front ++ [last] ∧ last ≠ [] := by
  have walk (piece : List Char) :
      ∃ front last, Text.cut sep piece (cs ++ [c]) = front ++ [last] ∧ last ≠ [] := by
    induction cs generalizing piece with
    | nil => exact ⟨[], (c :: piece).reverse, by simp [Text.cut, other], by simp⟩
    | cons d cs inductionHypothesis =>
        by_cases ends : d = sep
        · rcases inductionHypothesis [] with ⟨front, last, split, filled⟩
          exact ⟨piece.reverse :: front, last, by simp [Text.cut, ends, split], filled⟩
        · rcases inductionHypothesis (d :: piece) with ⟨front, last, split, filled⟩
          exact ⟨front, last, by simp [Text.cut, ends, split], filled⟩
  exact walk []

/-- A slash at the end of a text closes its path. -/
theorem ofChars_concat_slash {c : Char} (other : k ≠ .file) (cs : List Char)
    (solid : k.isSlash c = false) :
    segments (ofChars k (cs ++ [c] ++ ['/'])) = (segments (ofChars k (cs ++ [c]))).closed k := by
  have slash : k.isSlash '/' = true := rfl
  have letter : c ≠ '/' := by
    rintro rfl
    cases solid
  rcases exists_pieces_concat letter (slashed k cs) with ⟨front, last, split, filled⟩
  have cut : Text.pieces '/' (slashed k (cs ++ [c])) = front ++ [last] := by
    simpa [slashed, solid] using split
  have cutTwice : Text.pieces '/' (slashed k (cs ++ [c] ++ ['/'])) = front ++ [last] ++ [[]] := by
    have marked : slashed k (cs ++ [c] ++ ['/']) = slashed k (cs ++ [c]) ++ ['/'] := by
      simp [slashed, slash]
    rw [marked, Text.pieces_append, cut]
    rfl
  rw [ofChars_eq, ofChars_eq, cut, cutTwice, resolve_concat_nil, resolve_concat,
    closed_ended other _ filled, List.foldl_append]
  rfl

/-! ## Written paths -/

/-- The written form of a path that counts as a directory. -/
def directory (s : String) : String := if s.toList.getLast? = some '/' then s else s ++ "/"

theorem toList_text (names : List String) :
    (segments names).text.toList = names.flatMap fun n => '/' :: n.toList := by
  have slash : ("/" : String).toList = ['/'] := rfl
  have walk (s : String) : (names.foldl (fun s n => s ++ "/" ++ n) s).toList =
      s.toList ++ names.flatMap fun n => '/' :: n.toList := by
    induction names generalizing s with
    | nil => simp
    | cons n names inductionHypothesis =>
        rw [List.foldl_cons, inductionHypothesis, List.flatMap_cons, String.toList_append,
          String.toList_append, slash]
        simp
  exact walk ""

theorem exists_text_eq {names : List String} (filled : names ≠ []) :
    ∃ cs, (segments names).text.toList = '/' :: cs := by
  rw [toList_text]
  cases names with
  | nil => exact absurd rfl filled
  | cons n names => exact ⟨_, rfl⟩

theorem text_append (names more : List String) :
    (segments (names ++ more)).text = (segments names).text ++ (segments more).text := by
  apply String.toList_inj.mp
  rw [String.toList_append, toList_text, toList_text, toList_text, List.flatMap_append]

/-- The segments of a written path are its pieces. -/
theorem pieces_text {names : List String} (clear : ∀ n ∈ names, '/' ∉ n.toList) :
    Text.pieces '/' (segments names).text.toList = [] :: names.map String.toList := by
  have walk (cs : List Char) (plain : '/' ∉ cs) :
      Text.pieces '/' (cs ++ names.flatMap fun n => '/' :: n.toList) =
        cs :: names.map String.toList := by
    induction names generalizing cs with
    | nil => rw [List.flatMap_nil, List.append_nil, Text.pieces_of_not_mem plain, List.map_nil]
    | cons n names inductionHypothesis =>
        rcases List.forall_mem_cons.mp clear with ⟨first, rest⟩
        rw [List.flatMap_cons, List.cons_append, Text.pieces_append, Text.pieces_of_not_mem plain,
          inductionHypothesis rest n.toList first]
        rfl
  rw [toList_text]
  exact walk [] List.not_mem_nil

/-- Paths that are written alike have the same segments. -/
theorem text_injective {names others : List String} (clear : ∀ n ∈ names, '/' ∉ n.toList)
    (clearToo : ∀ n ∈ others, '/' ∉ n.toList)
    (same : (segments names).text = (segments others).text) : names = others := by
  have pieces := pieces_text clear
  rw [same, pieces_text clearToo] at pieces
  exact (List.map_inj_right fun _ _ => String.toList_inj.mp).mp (List.cons.inj pieces).2.symm

/-- A path is closed by writing a slash at its end, unless there is one. -/
theorem text_closed {names : List String} (other : k ≠ .file) (filled : names ≠ [])
    (clear : ∀ n ∈ names, '/' ∉ n.toList) :
    ((segments names).closed k).text = directory (segments names).text := by
  rcases List.eq_nil_or_concat names with rfl | ⟨front, last, rfl⟩
  · exact absurd rfl filled
  · rw [List.concat_eq_append] at *
    by_cases empty : last = ""
    · subst empty
      have ends : (segments (front ++ [""])).text.toList.getLast? = some '/' := by
        simp [toList_text]
      rw [closed_concat_empty, directory, if_pos ends]
    · have ends : (segments (front ++ [last])).text.toList.getLast? ≠ some '/' := by
        intro slash
        rcases List.eq_nil_or_concat last.toList with none | ⟨cs, c, split⟩
        · exact empty (String.toList_eq_nil_iff.mp none)
        · have final : c = '/' := by simpa [toList_text, split, List.getLast?_cons] using slash
          have plain := clear last (by simp)
          rw [split, final] at plain
          simp at plain
      rw [closed_concat other front empty, text_append, directory, if_neg ends]
      rfl

/-- A written path of settled segments holds only characters that a path may hold. -/
theorem isPlain_of_mem_text {names : List String} (settled : ∀ n ∈ names, IsSettled k n.toList) :
    ∀ c ∈ (segments names).text.toList, Percent.isPlain Percent.path c = true := by
  intro c listed
  rw [toList_text] at listed
  rcases List.mem_flatMap.mp listed with ⟨n, name, inside⟩
  rcases List.mem_cons.mp inside with rfl | inside
  · decide
  · exact (settled n name).plain c inside

/-- Settled segments are what is read from their written form without its first slash. -/
theorem pieces_of_text {names : List String} {cs : List Char}
    (settled : ∀ n ∈ names, IsSettled k n.toList)
    (written : (segments names).text.toList = '/' :: cs) :
    Text.pieces '/' (slashed k cs) = names.map String.toList := by
  have unchanged : ∀ c ∈ cs, (if k.isSlash c then '/' else c) = c := by
    intro c listed
    have listed : c ∈ (segments names).text.toList := written ▸ List.mem_cons_of_mem '/' listed
    rw [toList_text] at listed
    rcases List.mem_flatMap.mp listed with ⟨n, name, inside⟩
    rcases List.mem_cons.mp inside with rfl | inside
    · exact ite_self '/'
    · rw [(settled n name).noSlash c inside]
      rfl
  have pieces := pieces_text fun n listed => (settled n listed).slash_not_mem
  rw [written] at pieces
  rw [slashed, List.map_congr_left unchanged, List.map_id']
  exact (List.cons.inj pieces).2

/-- A written path is read as it was. -/
theorem ofChars_text {names : List String} {cs : List Char} (other : k ≠ .file)
    (settled : ∀ n ∈ names, IsSettled k n.toList)
    (written : (segments names).text.toList = '/' :: cs) : ofChars k cs = names := by
  have inList : ∀ p ∈ names.map String.toList, IsSettled k p := List.forall_mem_map.mpr settled
  rw [ofChars_eq, pieces_of_text settled written, resolve_of_settled other inList]
  simp

end UrlPath

end LiveLog
