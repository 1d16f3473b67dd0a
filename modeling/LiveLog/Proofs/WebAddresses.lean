import LiveLog.Proofs.UrlPaths

namespace LiveLog

/-!
# Addresses of the web as they are read

Under a special scheme a text is read in three parts. The first one names the authority and
reaches up to the first boundary, the path comes next, and the query or the fragment ends
it. How the authority is read does not depend on what comes after it: a host is needed in
any case, and a backslash, which could leave something of the first part over, is a boundary
itself.

From this it follows what a slash does that is written at the end of a path. The scheme, the
authority, the query and the fragment stay as they are, and the path is the closed one. So
an address that is closed after it was read does not tell whether the slash was there.
-/

/-! ## Spans of a text -/

namespace Text

variable {cs xs rest : List Char}

theorem takeWhile_append_of_head {p : Char → Bool} (inside : ∀ c ∈ xs, p c = true)
    (ends : ∀ c ∈ rest.head?, p c = false) : (xs ++ rest).takeWhile p = xs := by
  rw [List.takeWhile_append_of_pos inside]
  cases rest with
  | nil => simp
  | cons c rest => simp [ends c rfl]

theorem dropWhile_append_of_head {p : Char → Bool} (inside : ∀ c ∈ xs, p c = true)
    (ends : ∀ c ∈ rest.head?, p c = false) : (xs ++ rest).dropWhile p = rest := by
  rw [List.dropWhile_append_of_pos inside]
  cases rest with
  | nil => rfl
  | cons c rest => simp [ends c rfl]

theorem dropWhile_append_of_neg {p : Char → Bool} {c : Char} (stops : p c = false)
    (xs ys : List Char) : (xs ++ c :: ys).dropWhile p = xs.dropWhile p ++ c :: ys := by
  rw [List.dropWhile_append]
  split
  · rename_i passed
    rw [List.isEmpty_iff.mp passed, List.nil_append, List.dropWhile_cons_of_neg (by simp [stops])]
  · rfl

theorem head?_dropWhile_eq_false {p : Char → Bool} {c : Char}
    (first : c ∈ (cs.dropWhile p).head?) : p c = false := by
  have stops := List.head?_dropWhile_not p cs
  rw [Option.mem_def.mp first] at stops
  exact stops

end Text

/-! ## Authorities -/

namespace Authority

variable {scheme : String} {cs : List Char}

theorem mem_of_mem_splitHost {inBrackets : Bool} {c : Char}
    (listed : c ∈ (splitHost inBrackets cs).2) : c ∈ cs := by
  induction cs generalizing inBrackets with
  | nil => exact listed
  | cons d cs inductionHypothesis =>
      unfold splitHost at listed
      split at listed
      · exact listed
      · exact List.mem_cons_of_mem d (inductionHypothesis listed)

theorem mem_of_mem_splitUser {c : Char} (listed : c ∈ (splitUser cs).2) : c ∈ cs := by
  unfold splitUser at listed
  split at listed
  · exact listed
  · exact List.mem_reverse.mp ((List.takeWhile_sublist _).subset (List.mem_reverse.mp listed))

/-- Without a backslash nothing is left of a text after its authority. -/
theorem left_of_ofChars {followed : Bool} {a : Authority} {left : List Char}
    (read : ofChars scheme followed cs = .ok (a, left)) (plain : '\\' ∉ cs) : left = [] := by
  simp only [ofChars, bind, Except.bind, pure, Except.pure, throw, throwThe,
    MonadExceptOf.throw] at read
  cases behind : (splitHost false (splitUser cs).2).2 with
  | nil =>
      simp only [behind] at read
      repeat' split at read
      all_goals cases read
      all_goals rfl
  | cons colon digits =>
      have port : digits.dropWhile (· ≠ '\\') = [] := by
        rw [List.dropWhile_eq_nil_iff]
        intro c listed
        have inside : c ∈ (splitHost false (splitUser cs).2).2 := by
          rw [behind]
          exact List.mem_cons_of_mem colon listed
        have inside := mem_of_mem_splitUser (mem_of_mem_splitHost inside)
        have other : c ≠ '\\' := ne_of_mem_of_not_mem inside plain
        exact decide_eq_true other
      simp only [behind] at read
      repeat' split at read
      all_goals cases read
      all_goals exact port

/-- Under a special scheme it does not matter to an authority what follows it: its host
is not empty. -/
theorem ofChars_followed (special : SchemeClass.ofName scheme = .special) (followed : Bool)
    (cs : List Char) : ofChars scheme followed cs = ofChars scheme false cs := by
  simp only [ofChars, bind, Except.bind, throw, throwThe, MonadExceptOf.throw, special]
  by_cases early : followed = true ∧ (splitUser cs).1 = some [] ∧ (splitUser cs).2 = []
  · have empty : (splitHost false (splitUser cs).2).1 = [] := by
      rw [early.2.2]
      rfl
    rw [if_pos early]
    simp [empty]
  · rw [if_neg early]
    simp

end Authority

/-! ## Parts of an address -/

namespace Url

variable {scheme : String} {host path rest cs : List Char}

theorem eq_of_endsPath {c : Char} (ends : endsPath c = true) : c = '?' ∨ c = '#' := by
  rwa [endsPath, Bool.or_eq_true, beq_iff_eq, beq_iff_eq] at ends

/-- A text that follows the slashes of a special scheme, in three parts. The host reaches
up to the first boundary, and the query or the fragment ends the path. -/
structure Parts (host path rest : List Char) : Prop where
  inHost : ∀ c ∈ host, SchemeClass.special.isBoundary c = false
  beginsPath : ∀ c ∈ path.head?, SchemeClass.special.isSlash c = true
  inPath : ∀ c ∈ path, endsPath c = false
  beginsRest : ∀ c ∈ rest.head?, endsPath c = true

theorem isBoundary_eq_false_iff (k : SchemeClass) (c : Char) :
    k.isBoundary c = false ↔ k.isSlash c = false ∧ endsPath c = false := by
  simp [SchemeClass.isBoundary, endsPath, and_assoc]

/-- Every text has such parts. -/
theorem exists_parts (inside : ∀ c ∈ cs, endsPath c = false)
    (ends : ∀ c ∈ rest.head?, endsPath c = true) :
    ∃ host path, cs = host ++ path ∧ Parts host path rest := by
  let inHost (c : Char) : Bool := !SchemeClass.special.isBoundary c
  refine ⟨cs.takeWhile inHost, cs.dropWhile inHost, List.takeWhile_append_dropWhile.symm, ?_, ?_,
    ?_, ends⟩
  · intro c listed
    have holds : inHost c = true := List.mem_takeWhile_imp listed
    simpa [inHost] using holds
  · intro c first
    have boundary := Text.head?_dropWhile_eq_false first
    have listed : c ∈ cs := (List.dropWhile_sublist _).subset (List.mem_of_mem_head? first)
    by_contra other
    rw [Bool.not_eq_true] at other
    have passed := (isBoundary_eq_false_iff _ c).mpr ⟨other, inside c listed⟩
    simp [inHost, passed] at boundary
  · exact fun c listed => inside c ((List.dropWhile_sublist _).subset listed)

/-- What follows the slashes of a special scheme is read part by part. -/
theorem afterSlashes_append (special : SchemeClass.ofName scheme = .special)
    (parts : Parts host path rest) : afterSlashes scheme (host ++ (path ++ rest)) =
      (Authority.ofChars scheme false host).map fun read =>
        ⟨scheme, some read.1, .segments (pathAfterAuthority .special path),
          (tail .special rest).1, (tail .special rest).2⟩ := by
  let inHost (c : Char) : Bool := !SchemeClass.special.isBoundary c
  have insideHost : ∀ c ∈ host, inHost c = true := fun c listed => by
    simp [inHost, parts.inHost c listed]
  have boundary : ∀ c ∈ (path ++ rest).head?, inHost c = false := by
    intro c first
    rw [Bool.eq_false_iff]
    intro inside
    have neither := (isBoundary_eq_false_iff .special c).mp (by simpa [inHost] using inside)
    rw [List.head?_append, Option.mem_def, Option.or_eq_some_iff] at first
    rcases first with slash | ⟨_, ends⟩
    · rw [parts.beginsPath c slash] at neither
      cases neither.1
    · rw [parts.beginsRest c ends] at neither
      cases neither.2
  have insidePath : ∀ c ∈ path, (!endsPath c) = true := fun c listed => by
    simp [parts.inPath c listed]
  have ends : ∀ c ∈ rest.head?, (!endsPath c) = false := fun c first => by
    simp [parts.beginsRest c first]
  have plain : '\\' ∉ host := fun listed => absurd (parts.inHost _ listed) (by decide)
  simp only [afterSlashes, special, bind, Except.bind, pure, Except.pure,
    Authority.ofChars_followed special]
  rw [Text.takeWhile_append_of_head insideHost boundary,
    Text.dropWhile_append_of_head insideHost boundary]
  cases read : Authority.ofChars scheme false host with
  | error e => rfl
  | ok result =>
      obtain ⟨a, left⟩ := result
      have none : left = [] := Authority.left_of_ofChars read plain
      subst none
      simp only [List.nil_append, Except.map, Text.takeWhile_append_of_head insidePath ends,
        Text.dropWhile_append_of_head insidePath ends]

/-- The path after an authority has a segment at least, and its segments are settled. -/
theorem pathAfterAuthority_settled (cs : List Char) :
    pathAfterAuthority .special cs ≠ [] ∧
      ∀ n ∈ pathAfterAuthority .special cs, UrlPath.IsSettled .special n.toList := by
  cases cs with
  | nil =>
      have empty : UrlPath.IsSettled .special "".toList := .nil .special
      exact ⟨List.cons_ne_nil _ _, List.forall_mem_singleton.mpr empty⟩
  | cons c rest => exact UrlPath.ofChars_settled (by decide) _

/-- A slash after a path that ends otherwise closes it. -/
theorem closed_pathAfterAuthority
    (begins : ∀ c ∈ cs.head?, SchemeClass.special.isSlash c = true)
    (ends : ∀ c ∈ cs.getLast?, SchemeClass.special.isSlash c = false) :
    (UrlPath.segments (pathAfterAuthority .special (cs ++ ['/']))).closed .special =
      (UrlPath.segments (pathAfterAuthority .special cs)).closed .special := by
  cases cs with
  | nil => rfl
  | cons slash more =>
      have first : SchemeClass.special.isSlash slash = true := begins slash rfl
      rcases List.eq_nil_or_concat more with rfl | ⟨front, last, rfl⟩
      · have other := ends slash rfl
        rw [first] at other
        cases other
      · have solid : SchemeClass.special.isSlash last = false := ends last (by
          rw [List.concat_eq_append, ← List.cons_append, List.getLast?_concat]
          rfl)
        have closes := UrlPath.ofChars_concat_slash (by decide) front solid
        simp only [pathAfterAuthority, List.cons_append, first, if_true, List.concat_eq_append]
        rw [closes, UrlPath.closed_closed]

/-! ## Slashes behind a scheme -/

theorem Parts.slash (parts : Parts host path rest) : Parts host (path ++ ['/']) rest := by
  refine ⟨parts.inHost, ?_, ?_, parts.beginsRest⟩
  · intro c first
    cases path with
    | nil =>
        cases first
        rfl
    | cons d path => exact parts.beginsPath c first
  · exact List.forall_mem_append.mpr ⟨parts.inPath, List.forall_mem_singleton.mpr rfl⟩

/-- A slash after a path that ends otherwise makes no difference once the path is closed. -/
theorem closed_afterSlashes_append (special : SchemeClass.ofName scheme = .special)
    (parts : Parts host path rest)
    (solid : ∀ c ∈ path.getLast?, SchemeClass.special.isSlash c = false) :
    (afterSlashes scheme (host ++ (path ++ '/' :: rest))).map closed =
      (afterSlashes scheme (host ++ (path ++ rest))).map closed := by
  have slashed := afterSlashes_append special parts.slash
  rw [List.append_assoc, List.singleton_append] at slashed
  rw [slashed, afterSlashes_append special parts]
  cases Authority.ofChars scheme false host with
  | error e => rfl
  | ok read =>
      have same := closed_pathAfterAuthority parts.beginsPath solid
      simp only [Except.map, closed, schemeClass, special, same]

/-- The same slash, behind a scheme and before the slashes after the scheme are left out. -/
theorem closed_afterSlashes (special : SchemeClass.ofName scheme = .special)
    (inside : ∀ c ∈ cs, endsPath c = false)
    (solid : ∀ c ∈ cs.getLast?, SchemeClass.special.isSlash c = false)
    (ends : ∀ c ∈ rest.head?, endsPath c = true) :
    (afterSlashes scheme ((cs ++ '/' :: rest).dropWhile SchemeClass.special.isSlash)).map closed =
      (afterSlashes scheme ((cs ++ rest).dropWhile SchemeClass.special.isSlash)).map closed := by
  rcases List.eq_nil_or_concat cs with rfl | ⟨front, last, rfl⟩
  · have noSlash : ∀ c ∈ rest.head?, SchemeClass.special.isSlash c = false := by
      intro c first
      rcases eq_of_endsPath (ends c first) with rfl | rfl <;> rfl
    have kept : ([] ++ rest).dropWhile SchemeClass.special.isSlash = rest :=
      Text.dropWhile_append_of_head (List.forall_mem_nil _) noSlash
    rw [List.nil_append] at kept
    rw [List.nil_append, List.nil_append, List.dropWhile_cons_of_pos rfl, kept]
  · rw [List.concat_eq_append] at *
    have solid : SchemeClass.special.isSlash last = false := solid last (by simp)
    have dropped (xs : List Char) :
        ((front ++ [last]) ++ xs).dropWhile SchemeClass.special.isSlash =
          (front.dropWhile SchemeClass.special.isSlash ++ [last]) ++ xs := by
      simp [List.dropWhile_append, solid]
    have within :
        ∀ c ∈ front.dropWhile SchemeClass.special.isSlash ++ [last], endsPath c = false :=
      fun c listed => inside c (((List.dropWhile_sublist _).append_right [last]).subset listed)
    rcases exists_parts within ends with ⟨host, path, split, parts⟩
    have final : ∀ c ∈ path.getLast?, SchemeClass.special.isSlash c = false := by
      intro c listed
      have same := congrArg List.getLast? split
      rw [List.getLast?_concat, List.getLast?_append, listed, Option.some_or,
        Option.some_inj] at same
      exact same ▸ solid
    rw [dropped, dropped, split, List.append_assoc, List.append_assoc]
    exact closed_afterSlashes_append special parts final

/-! ## Addresses under special schemes -/

theorem scheme_of_afterSlashes {u : Url} (read : afterSlashes scheme cs = .ok u) :
    u.scheme = scheme := by
  simp only [afterSlashes, bind, Except.bind, pure, Except.pure] at read
  split at read
  · cases read
  · cases read
    rfl

theorem scheme_of_fileAfterScheme {u : Url} (read : fileAfterScheme cs = .ok u) :
    u.scheme = "file" := by
  simp only [fileAfterScheme, bind, Except.bind, pure, Except.pure] at read
  repeat' split at read
  all_goals cases read
  all_goals rfl

theorem scheme_of_otherAfterScheme {u : Url} (read : otherAfterScheme scheme cs = .ok u) :
    u.scheme = scheme := by
  simp only [otherAfterScheme] at read
  split at read
  · exact scheme_of_afterSlashes read
  · cases read
    rfl
  · cases read
    rfl

/-- An address under a special scheme is read behind the slashes after it. -/
theorem afterSlashes_of_ofText {s : String} {u : Url} (read : ofText s = .ok u)
    (special : u.schemeClass = .special) : ∃ rest,
      scheme? (relevant s.toList) = some (u.scheme, rest) ∧
      afterSlashes u.scheme (rest.dropWhile SchemeClass.special.isSlash) = .ok u := by
  unfold ofText at read
  split at read
  · cases read
  · rename_i scheme rest found
    split at read
    · rw [schemeClass, scheme_of_fileAfterScheme read] at special
      cases special
    · have same := scheme_of_afterSlashes read
      subst same
      exact ⟨rest, found, read⟩
    · rename_i other
      rw [schemeClass, scheme_of_otherAfterScheme read, other] at special
      cases special

/-- An address under a special scheme has an authority, and a path of one segment at least.
All segments are settled. -/
theorem shape_of_ofText {s : String} {u : Url} (read : ofText s = .ok u)
    (special : u.schemeClass = .special) : ∃ a names,
      u.authority = some a ∧ u.path = .segments names ∧ names ≠ [] ∧
        ∀ n ∈ names, UrlPath.IsSettled .special n.toList := by
  rcases afterSlashes_of_ofText read special with ⟨rest, _found, read⟩
  have parted := List.takeWhile_append_dropWhile
    (p := fun c => !endsPath c) (l := rest.dropWhile SchemeClass.special.isSlash)
  have inside : ∀ c ∈ (rest.dropWhile SchemeClass.special.isSlash).takeWhile (!endsPath ·),
      endsPath c = false := by
    intro c listed
    simpa using List.mem_takeWhile_imp listed
  have ends : ∀ c ∈ ((rest.dropWhile SchemeClass.special.isSlash).dropWhile (!endsPath ·)).head?,
      endsPath c = true := by
    intro c first
    simpa using Text.head?_dropWhile_eq_false first
  rcases exists_parts inside ends with ⟨host, path, split, parts⟩
  rw [← parted, split, List.append_assoc, afterSlashes_append special parts] at read
  cases named : Authority.ofChars u.scheme false host with
  | error e =>
      rw [named] at read
      cases read
  | ok result =>
      rw [named] at read
      have same := Except.ok.inj read
      have shape := pathAfterAuthority_settled path
      exact ⟨_, _, congrArg Url.authority same.symm, congrArg Url.path same.symm, shape⟩

/-! ## What is read of a text -/

/-- Whether a character is dropped around an address. -/
def isOuter (c : Char) : Bool := decide (c.toNat ≤ 0x20)

/-- Whether a character is kept within an address. -/
def isKept (c : Char) : Bool := c != '\t' && c != '\n' && c != '\r'

theorem isKept_of_isOuter_eq_false {c : Char} (solid : isOuter c = false) : isKept c = true := by
  unfold isKept
  by_contra dropped
  rw [isOuter, decide_eq_false_iff_not] at solid
  simp only [Bool.and_eq_true, bne_iff_ne, not_and_or, not_not] at dropped
  rcases dropped with (rfl | rfl) | rfl <;> exact solid (by decide)

/-- The end of a text as it is read in an address. -/
def relevantEnd (cs : List Char) : List Char :=
  ((cs.reverse.dropWhile isOuter).reverse).filter isKept

theorem relevantEnd_append {c : Char} (solid : isOuter c = false) (xs ys : List Char) :
    relevantEnd (xs ++ c :: ys) = xs.filter isKept ++ c :: relevantEnd ys := by
  rw [relevantEnd, List.reverse_append, List.reverse_cons, List.append_assoc,
    List.singleton_append, Text.dropWhile_append_of_neg solid, List.reverse_append,
    List.reverse_cons, List.reverse_reverse, List.append_assoc, List.singleton_append, List.filter_append,
    List.filter_cons_of_pos (isKept_of_isOuter_eq_false solid)]
  rfl

/-- The texts before and after a character that counts are read by themselves. -/
theorem relevant_append {c : Char} (solid : isOuter c = false) (xs ys : List Char) :
    relevant (xs ++ c :: ys) =
      (xs.dropWhile isOuter).filter isKept ++ c :: relevantEnd ys := by
  rw [← relevantEnd_append solid, ← Text.dropWhile_append_of_neg solid]
  rfl

/-- A text without characters that are dropped is read as it stands. -/
theorem relevant_of_solid (solid : ∀ c ∈ cs, isOuter c = false) : relevant cs = cs := by
  have kept : ∀ c ∈ cs, isKept c = true := fun c listed =>
    isKept_of_isOuter_eq_false (solid c listed)
  rcases List.eq_nil_or_concat cs with rfl | ⟨front, last, rfl⟩
  · rfl
  · rw [List.concat_eq_append] at *
    have begins : front.dropWhile isOuter = front :=
      List.dropWhile_eq_self_iff.mpr fun filled => by
        simp [solid front[0] (by simp)]
    have last : isOuter last = false := solid last (by simp)
    have whole : front.filter isKept = front :=
      List.filter_eq_self.mpr fun c listed => kept c (by simp [listed])
    rw [relevant_append last, begins, whole]
    rfl

/-- What a path may hold is not dropped from an address, and it does not end the path. -/
theorem solid_of_isPlain {c : Char} (plain : Percent.isPlain Percent.path c = true) :
    isOuter c = false ∧ endsPath c = false := by
  rw [Percent.isPlain, Bool.and_eq_true, decide_eq_true_iff] at plain
  rcases plain with ⟨range, noMark⟩
  constructor
  · rw [isOuter, decide_eq_false_iff_not]
    intro outer
    have blank : c = ' ' := Char.ext (UInt32.toNat_inj.mp (Nat.le_antisymm outer range.1))
    subst blank
    cases noMark
  · rw [Bool.eq_false_iff]
    intro ends
    rcases eq_of_endsPath ends with rfl | rfl <;> cases noMark

/-! ## Schemes of texts -/

/-- Whether a character may stand in a scheme. -/
def inScheme (c : Char) : Bool := c.isAlphanum || c == '+' || c == '-' || c == '.'

theorem scheme?_eq (cs : List Char) : scheme? cs =
    match cs.dropWhile inScheme, cs.head? with
    | ':' :: rest, some c =>
      if c.isAlpha then
        some (String.ofList ((cs.takeWhile inScheme).map Char.toLower), rest)
      else none
    | _, _ => none := rfl

/-- A text that no scheme can reach into is no part of the scheme. -/
theorem scheme?_append (ends : ∀ c ∈ rest.head?, SchemeClass.other.isBoundary c = true) :
    scheme? (cs ++ rest) = (scheme? cs).map fun found => (found.1, found.2 ++ rest) := by
  have closes : ∀ c ∈ rest.head?, inScheme c = false ∧ c ≠ ':' := by
    intro c first
    have mark := ends c first
    simp only [SchemeClass.isBoundary, SchemeClass.isSlash, bne_self_eq_false, Bool.false_and,
      Bool.or_false, Bool.or_eq_true, beq_iff_eq] at mark
    rcases mark with (rfl | rfl) | rfl <;> decide
  cases behind : cs.dropWhile inScheme with
  | nil =>
      have inside : ∀ c ∈ cs, inScheme c = true := List.dropWhile_eq_nil_iff.mp behind
      rw [scheme?_eq, scheme?_eq, behind,
        Text.dropWhile_append_of_head inside fun c first => (closes c first).1]
      cases rest with
      | nil => simp
      | cons c rest => simp [(closes c rfl).2]
  | cons mark after =>
      have parted := List.takeWhile_append_dropWhile (p := inScheme) (l := cs)
      have filled : cs ≠ [] := by
        rintro rfl
        cases behind
      have whole : (cs ++ rest).dropWhile inScheme = mark :: (after ++ rest) := by
        rw [List.dropWhile_append, behind]
        rfl
      have front : (cs ++ rest).takeWhile inScheme = cs.takeWhile inScheme := by
        rw [List.takeWhile_append, if_neg]
        intro same
        have lengths := congrArg List.length parted
        rw [behind, List.length_append, same, List.length_cons] at lengths
        omega
      have first : (cs ++ rest).head? = cs.head? := by
        cases cs with
        | nil => exact absurd rfl filled
        | cons c cs => rfl
      rw [scheme?_eq, scheme?_eq, whole, front, first, behind]
      by_cases colon : mark = ':'
      · subst colon
        cases cs.head? with
        | none => rfl
        | some c => by_cases letter : c.isAlpha = true <;> simp [letter]
      · simp [colon]

/-- What stands behind a scheme is the end of the text: it holds what the text holds, and if
it is not empty it ends as the text does. -/
theorem behind_scheme? {c : Char} (found : scheme? (cs ++ [c]) = some (scheme, rest)) :
    (∀ d ∈ rest, d ∈ cs ++ [c]) ∧ ∀ d ∈ rest.getLast?, d = c := by
  have parted := List.takeWhile_append_dropWhile (p := inScheme) (l := cs ++ [c])
  have split : ∃ front, cs ++ [c] = front ++ ':' :: rest := by
    rw [scheme?_eq] at found
    split at found
    · rename_i behind _first
      split at found
      · cases found
        rw [behind] at parted
        exact ⟨_, parted.symm⟩
      · cases found
    · cases found
  rcases split with ⟨front, split⟩
  constructor
  · intro d listed
    rw [split]
    exact List.mem_append_right front (List.mem_cons_of_mem ':' listed)
  · intro d last
    have same := congrArg List.getLast? split
    rw [List.getLast?_concat, List.getLast?_append, List.getLast?_cons, last] at same
    exact (Option.some.inj same).symm

/-! ## Slashes at the end of a path -/

/-- A text that ends within the path of an address, before a slash that would close it: the
path does not end in a slash already, and the query or the fragment comes next. -/
structure OpenEnd (front rest : String) : Prop where
  solid : ∃ c ∈ front.toList.getLast?, isOuter c = false ∧ SchemeClass.special.isSlash c = false
  inPath : ∀ c ∈ front.toList, endsPath c = false
  beginsRest : ∀ c ∈ rest.toList.head?, endsPath c = true

theorem OpenEnd.relevant {front rest : String} (ends : OpenEnd front rest) :
    ∃ xs c ys, SchemeClass.special.isSlash c = false ∧
      relevant (front ++ rest).toList = (xs ++ [c]) ++ ys ∧
      relevant (front ++ "/" ++ rest).toList = (xs ++ [c]) ++ '/' :: ys ∧
      (∀ d ∈ xs ++ [c], endsPath d = false) ∧ ∀ d ∈ ys.head?, endsPath d = true := by
  obtain ⟨⟨c, last, solid, letter⟩, inPath, beginsRest⟩ := ends
  obtain ⟨before, split⟩ := List.getLast?_eq_some_iff.mp last
  have slash : ("/" : String).toList = ['/'] := rfl
  have closing : relevantEnd ('/' :: rest.toList) = '/' :: relevantEnd rest.toList :=
    relevantEnd_append (by decide) [] rest.toList
  refine ⟨(before.dropWhile isOuter).filter isKept, c, relevantEnd rest.toList, letter, ?_, ?_,
    ?_, ?_⟩
  · rw [String.toList_append, split, List.append_assoc, List.singleton_append,
      relevant_append solid, List.append_assoc, List.singleton_append]
  · rw [String.toList_append, String.toList_append, split, slash, List.append_assoc,
      List.append_assoc, List.singleton_append, List.singleton_append, relevant_append solid,
      closing, List.append_assoc, List.singleton_append]
  · rw [split] at inPath
    have sublist : ((before.dropWhile isOuter).filter isKept ++ [c]).Sublist (before ++ [c]) :=
      (List.filter_sublist.trans (List.dropWhile_sublist _)).append_right [c]
    exact fun d listed => inPath d (sublist.subset listed)
  · cases following : rest.toList with
    | nil => simp [relevantEnd]
    | cons mark after =>
        rw [following] at beginsRest
        have ends := beginsRest mark rfl
        have solid : isOuter mark = false := by
          rcases eq_of_endsPath ends with rfl | rfl <;> rfl
        intro d first
        have kept := relevantEnd_append solid [] after
        rw [List.nil_append] at kept
        rw [kept] at first
        cases first
        exact ends

/-- Where a slash would close the path of an address under a special scheme, it makes no
difference to the closed address whether the slash is there. -/
theorem closed_ofText {front rest : String} {u : Url} (ends : OpenEnd front rest)
    (read : ofText (front ++ rest) = .ok u ∨ ofText (front ++ "/" ++ rest) = .ok u)
    (special : u.schemeClass = .special) :
    (ofText (front ++ "/" ++ rest)).map closed = (ofText (front ++ rest)).map closed := by
  rcases ends.relevant with ⟨xs, c, ys, letter, plain, slashed, inPath, beginsRest⟩
  have boundary : ∀ d ∈ ys.head?, SchemeClass.other.isBoundary d = true := by
    intro d first
    rcases eq_of_endsPath (beginsRest d first) with rfl | rfl <;> rfl
  have slash : ∀ d ∈ ('/' :: ys).head?, SchemeClass.other.isBoundary d = true := by
    rintro d ⟨⟩
    rfl
  have plainScheme : scheme? (xs ++ [c] ++ ys) = _ := scheme?_append boundary
  have slashedScheme : scheme? (xs ++ [c] ++ '/' :: ys) = _ := scheme?_append slash
  cases found : scheme? (xs ++ [c]) with
  | none =>
      rw [ofText, ofText, plain, slashed, plainScheme, slashedScheme, found]
      rfl
  | some named =>
      obtain ⟨scheme, after⟩ := named
      have special : SchemeClass.ofName scheme = .special := by
        rcases read with read | read
        · rcases afterSlashes_of_ofText read special with ⟨behind, named, _⟩
          rw [plain, plainScheme, found] at named
          cases named
          exact special
        · rcases afterSlashes_of_ofText read special with ⟨behind, named, _⟩
          rw [slashed, slashedScheme, found] at named
          cases named
          exact special
      rcases behind_scheme? found with ⟨within, last⟩
      have inside : ∀ d ∈ after, endsPath d = false := fun d listed => inPath d (within d listed)
      have final : ∀ d ∈ after.getLast?, SchemeClass.special.isSlash d = false :=
        fun d listed => last d listed ▸ letter
      rw [ofText, ofText, plain, slashed, plainScheme, slashedScheme, found]
      simp only [Option.map_some, special]
      exact closed_afterSlashes special inside final beginsRest

end Url

end LiveLog
