import LiveLog.Proofs.Arguments
import LiveLog.Proofs.WebAddresses

namespace LiveLog

/-!
# Where the output of processes is served

A backend asks for the output of a process at an address that is named relative to its
base. Such a name takes the place of the last segment of the base, so the base is closed
when the backend is set up: what gives way is then an empty segment, and every segment that
the base came with stays.

Closing sets the path to its written form with a slash at the end, which is read again.
Since settled segments are read as they stand, the closed base is written as the directory
of the path that was read, and so are all addresses below it. The authority, which is there
under every special scheme, keeps what is written before the path apart from the path. Two
addresses below one base are therefore alike only if the ways to them are.
-/

/-! ## Relative addresses -/

namespace UrlPath

/-- Long segments are no writing of dots. -/
theorem IsSettled.of_length {k : SchemeClass} {cs : List Char} (long : 6 < cs.length)
    (plain : ∀ c ∈ cs, Percent.isPlain Percent.path c = true)
    (noSlash : ∀ c ∈ cs, k.isSlash c = false) : IsSettled k cs := by
  have other : ∀ t ∈ dots, String.ofList (cs.map Char.toLower) ≠ t := by
    intro t listed same
    have short : ∀ t ∈ dots, t.length ≤ 6 := by decide
    have short := short t listed
    rw [← same, String.length_ofList, List.length_map] at short
    omega
  simp only [dots, List.forall_mem_cons] at other
  refine ⟨?_, ?_, plain, noSlash⟩
  · simp [isDot, other]
  · simp [isDoubleDot, other]

end UrlPath

namespace Url

/-- The address that a text names relative to another one. The text begins with a segment,
that is, neither with a scheme nor with a slash, and what follows the path is read as in a
text of its own. -/
def join (u : Url) (s : String) : Except UrlError Url :=
  let cs := relevant s.toList
  let way := UrlPath.slashed u.schemeClass (cs.takeWhile fun c => !endsPath c)
  let (query, fragment) := tail u.schemeClass (cs.dropWhile fun c => !endsPath c)
  match u.path with
  | .segments names => .ok { u with
      path := .segments
        (UrlPath.resolve u.schemeClass names.dropLast.reverse (Text.pieces '/' way))
      query := query
      fragment := fragment }
  | .rigid _ => .error .rigidBase

/-- An address below another one: it has the scheme and the authority of the other, a text
that is added to the path of the other as to a directory, and neither a query nor a
fragment. -/
structure IsBelow (u base : Url) (added : String) : Prop where
  scheme : u.scheme = base.scheme
  authority : u.authority = base.authority
  path : u.path.text = UrlPath.directory base.path.text ++ added
  query : u.query = none
  fragment : u.fragment = none

/-- What distinguishes addresses below another one is the text that is added. -/
theorem IsBelow.added_eq {u v base : Url} {a : Authority} {added addedToo : String}
    (below : u.IsBelow base added) (belowToo : v.IsBelow base addedToo)
    (named : base.authority = some a) (same : u.text = v.text) : added = addedToo := by
  have front {w : Url} {ending : String} (below : w.IsBelow base ending) :
      w.text = base.scheme ++ ":" ++ ("//" ++ a.text) ++ UrlPath.directory base.path.text ++
        ending := by
    simp only [text, beforePath, below.scheme, below.authority, named, below.path, below.query,
      below.fragment, String.append_empty, String.append_assoc]
  rw [front below, front belowToo] at same
  exact String.append_right_inj _ |>.mp same

/-- Settled segments are named by writing them with slashes between. -/
theorem join_of_settled {u : Url} {s : String} {names : List String}
    (other : u.schemeClass ≠ .file)
    (settled : ∀ n ∈ names, UrlPath.IsSettled u.schemeClass n.toList)
    (written : (UrlPath.segments names).text = "/" ++ s) : u.join s = u.within names := by
  have written : (UrlPath.segments names).text.toList = '/' :: s.toList := by
    rw [written, String.toList_append]
    rfl
  have solid : ∀ c ∈ s.toList, isOuter c = false ∧ endsPath c = false := by
    intro c listed
    refine solid_of_isPlain (UrlPath.isPlain_of_mem_text settled c ?_)
    rw [written]
    exact List.mem_cons_of_mem '/' listed
  have whole : relevant s.toList = s.toList :=
    relevant_of_solid fun c listed => (solid c listed).1
  have inPath : ∀ c ∈ s.toList, (!endsPath c) = true := fun c listed => by
    simp [(solid c listed).2]
  have inList : ∀ p ∈ names.map String.toList, UrlPath.IsSettled u.schemeClass p :=
    List.forall_mem_map.mpr settled
  have pieces := UrlPath.pieces_of_text settled written
  simp only [join, within, whole, List.takeWhile_eq_self_iff.mpr inPath,
    List.dropWhile_eq_nil_iff.mpr inPath, pieces, UrlPath.resolve_of_settled other inList]
  cases u.path with
  | rigid s => rfl
  | segments base => simp [tail]

/-- Without a slash at its end, an address loses its last segment to what is joined to it. -/
example : ((ofText "http://h/a/vk?x").bind fun u => u.join "api/raw-logs").toOption.map text =
    some "http://h/a/api/raw-logs" := by decide +kernel

/-- An address with a path that is read from a text. -/
def withPath (u : Url) (s : String) : Url :=
  { u with path := .segments (pathAfterAuthority u.schemeClass s.toList) }

/-- An address under a special scheme has a closed path of settled segments once it is
closed, written as the directory of the path that it had. -/
theorem closed_eq_of_ofText {s : String} {u : Url} (read : ofText s = .ok u)
    (special : u.schemeClass = .special) : ∃ a directories,
      u.authority = some a ∧ u.closed = { u with path := .segments (directories ++ [""]) } ∧
        (UrlPath.segments (directories ++ [""])).text = UrlPath.directory u.path.text ∧
        ∀ n ∈ directories ++ [""], UrlPath.IsSettled .special n.toList := by
  have empty : UrlPath.IsSettled .special "".toList := .nil .special
  rcases shape_of_ofText read special with ⟨a, names, named, path, filled, settled⟩
  rcases UrlPath.exists_closed (by decide) settled with ⟨directories, closes, settledToo⟩
  refine ⟨a, directories, named, ?_, ?_, ?_⟩
  · simp only [closed, path, special, closes]
  · rw [← closes, path, UrlPath.text_closed (by decide) filled]
    exact fun n listed => (settled n listed).slash_not_mem
  · exact List.forall_mem_append.mpr ⟨settledToo, List.forall_mem_singleton.mpr empty⟩

/-- Closing an address is setting its path to its own written form with a slash at the end:
what is read from that is what was there. -/
theorem closed_eq_withPath {s : String} {u : Url} (read : ofText s = .ok u)
    (special : u.schemeClass = .special) :
    u.closed = u.withPath (UrlPath.directory u.path.text) := by
  rcases closed_eq_of_ofText read special with ⟨a, directories, named, shape, closes, settled⟩
  have filled : directories ++ [""] ≠ [] := List.concat_ne_nil "" directories
  rcases UrlPath.exists_text_eq filled with ⟨cs, written⟩
  have again : pathAfterAuthority .special ('/' :: cs) = directories ++ [""] :=
    UrlPath.ofChars_text (by decide) settled written
  rw [shape, withPath, special, ← closes, written, again]

end Url

namespace Backend

variable {process : Uuid} {kind : StreamKind}

/-- The way from a base to the output of a process, as it is written. -/
def way (process : Uuid) (kind : StreamKind) : String :=
  "api/execution-processes/" ++ process.text ++ "/" ++ kind.endpoint

theorem text_segments (process : Uuid) (kind : StreamKind) :
    (UrlPath.segments (segments process kind)).text = "/" ++ way process kind := by
  have front : "" ++ "/" ++ "api" ++ "/" ++ "execution-processes" ++ "/" =
      "/" ++ "api/execution-processes/" := by decide +kernel
  have regroup (a b c d e : String) : a ++ b ++ c ++ d ++ e = a ++ (b ++ c ++ d ++ e) := by
    simp only [String.append_assoc]
  calc (UrlPath.segments (segments process kind)).text
      = "" ++ "/" ++ "api" ++ "/" ++ "execution-processes" ++ "/" ++ process.text ++ "/" ++
          kind.endpoint := rfl
    _ = "/" ++ "api/execution-processes/" ++ process.text ++ "/" ++ kind.endpoint := by rw [front]
    _ = "/" ++ way process kind := regroup _ _ _ _ _

theorem isSettled_segments (process : Uuid) (kind : StreamKind) :
    ∀ n ∈ segments process kind, UrlPath.IsSettled .special n.toList := by
  have api : UrlPath.IsSettled .special "api".toList := by decide
  have processes : UrlPath.IsSettled .special "execution-processes".toList := by decide
  have output : UrlPath.IsSettled .special kind.endpoint.toList := by cases kind <;> decide
  have digit : ∀ d : Fin 16, Percent.isPlain Percent.path (Uuid.digitChar d) = true ∧
      SchemeClass.special.isSlash (Uuid.digitChar d) = false := by decide
  have marks : ∀ c ∈ process.chars, Percent.isPlain Percent.path c = true ∧
      SchemeClass.special.isSlash c = false := by
    intro c listed
    have listed : c ∈ Uuid.hyphenated (process.digits.map Uuid.digitChar) := listed
    rcases Uuid.mem_of_mem_hyphenated listed with rfl | inside
    · decide
    · rcases List.mem_map.mp inside with ⟨d, _listed, rfl⟩
      exact digit d
  have id : UrlPath.IsSettled .special process.text.toList := by
    rw [Uuid.text, String.toList_ofList]
    refine .of_length ?_ (fun c listed => (marks c listed).1) (fun c listed => (marks c listed).2)
    rw [process.length_chars]
    decide
  simp only [segments, List.forall_mem_cons]
  exact ⟨api, processes, id, output, List.forall_mem_nil _⟩

theorem exists_of_ofText {s : String} {b : Backend} (accepted : ofText s = .ok b) :
    ∃ u, Url.ofText s = .ok u ∧ b.base = u.closed := by
  cases read : Url.ofText s with
  | error e =>
      rw [ofText, read] at accepted
      cases accepted
  | ok u =>
      rw [ofText, read] at accepted
      cases accepted
      exact ⟨u, rfl, rfl⟩

/-- Below a base whose last segment is empty, the way to the output of a process is added to
the other segments. -/
theorem url_eq {b : Backend} {u : Url} {directories : List String} (process : Uuid)
    (kind : StreamKind) (base : b.base = { u with path := .segments (directories ++ [""]) }) :
    b.url process kind = .ok { u with
      path := .segments (directories ++ segments process kind)
      query := none
      fragment := none } := by
  simp only [url, Url.within, base, List.dropLast_concat]

theorem resolve_eq {b : Backend} {u : Url} {directories : List String} (p : Execution)
    (base : b.base = { u with path := .segments (directories ++ [""]) }) :
    b.resolve p = .ok ⟨p.id, p.kind, { u with
      path := .segments (directories ++ segments p.id p.kind)
      query := none
      fragment := none }⟩ := by
  rw [resolve, url_eq p.id p.kind base]
  rfl

theorem text_append_segments (directories : List String) (process : Uuid) (kind : StreamKind) :
    (UrlPath.segments (directories ++ segments process kind)).text =
      (UrlPath.segments (directories ++ [""])).text ++ way process kind := by
  have slash : (UrlPath.segments [""]).text = "/" := rfl
  rw [UrlPath.text_append, UrlPath.text_append, text_segments, slash, String.append_assoc]

/-- The way tells the process and the kind. -/
theorem way_injective {process other : Uuid} {kind otherKind : StreamKind}
    (same : way process kind = way other otherKind) : process = other ∧ kind = otherKind := by
  have cancel (front mark a b : String) (u v : Uuid)
      (same : front ++ u.text ++ mark ++ a = front ++ v.text ++ mark ++ b) : u = v ∧ a = b := by
    have same := congrArg String.toList same
    simp only [String.toList_append, List.append_assoc, List.append_cancel_left_eq] at same
    have size : u.text.toList.length = v.text.toList.length := by
      simp only [Uuid.text, String.toList_ofList, Uuid.length_chars]
    rcases List.append_inj same size with ⟨ids, rest⟩
    simp only [Uuid.text, String.toList_ofList] at ids
    exact ⟨Uuid.chars_injective ids, String.toList_inj.mp (List.append_cancel_left rest)⟩
  rcases cancel _ _ _ _ _ _ same with ⟨ids, endpoints⟩
  refine ⟨ids, ?_⟩
  cases kind <;> cases otherKind <;> first | rfl | exact absurd endpoints (by decide)

/-- Joining the way to a base gives what adding its segments gives. -/
theorem join_way {b : Backend} (special : b.base.schemeClass = .special) (process : Uuid)
    (kind : StreamKind) : b.base.join (way process kind) = b.url process kind := by
  refine Url.join_of_settled ?_ ?_ (text_segments process kind)
  · rw [special]
    decide
  · rw [special]
    exact isSettled_segments process kind

theorem isBelow_resolve {u : Url} {directories : List String} (p : Execution)
    (closes : (UrlPath.segments (directories ++ [""])).text = UrlPath.directory u.path.text) :
    Url.IsBelow { u with
      path := .segments (directories ++ segments p.id p.kind)
      query := none
      fragment := none } u (way p.id p.kind) := by
  refine ⟨rfl, rfl, ?_, rfl, rfl⟩
  rw [text_append_segments, closes]

/-- Bases under one scheme and one authority serve every process alike if their paths do not
differ as directories. -/
theorem resolve_eq_of_directory_eq {s t : String} {b c : Backend} {u v : Url}
    (read : Url.ofText s = .ok u) (base : b.base = u.closed) (readToo : Url.ofText t = .ok v)
    (baseToo : c.base = v.closed) (special : u.schemeClass = .special)
    (sameScheme : v.scheme = u.scheme) (sameAuthority : v.authority = u.authority)
    (samePath : UrlPath.directory v.path.text = UrlPath.directory u.path.text) :
    c.resolve = b.resolve := by
  have specialToo : v.schemeClass = .special := by
    rw [Url.schemeClass, sameScheme]
    exact special
  rcases Url.closed_eq_of_ofText read special with ⟨_, directories, _, shape, closes, settled⟩
  rcases Url.closed_eq_of_ofText readToo specialToo with
    ⟨_, others, _, shapeToo, closesToo, settledToo⟩
  have same : others ++ [""] = directories ++ [""] := by
    refine UrlPath.text_injective (fun n listed => (settledToo n listed).slash_not_mem)
      (fun n listed => (settled n listed).slash_not_mem) ?_
    rw [closes, closesToo, samePath]
  have same : others = directories := List.append_cancel_right same
  funext p
  rw [resolve_eq p (base.trans shape), resolve_eq p (baseToo.trans shapeToo), same, sameScheme,
    sameAuthority]

/-- Where a slash would close the path of a base, it makes no difference whether the slash
is there. -/
theorem ofText_slash {front rest s : String} {b : Backend} {u : Url}
    (ends : Url.OpenEnd front rest) (written : s = front ++ rest ∨ s = front ++ "/" ++ rest)
    (accepted : ofText s = .ok b) (read : Url.ofText s = .ok u)
    (special : u.schemeClass = .special) :
    ofText (front ++ rest) = .ok b ∧ ofText (front ++ "/" ++ rest) = .ok b := by
  have closing (t : String) : ofText t = ((Url.ofText t).map Url.closed).map Backend.mk := by
    rw [ofText]
    cases Url.ofText t <;> rfl
  have alike : ofText (front ++ "/" ++ rest) = ofText (front ++ rest) := by
    rw [closing, closing, Url.closed_ofText ends _ special]
    rcases written with rfl | rfl
    · exact Or.inl read
    · exact Or.inr read
  rcases written with rfl | rfl
  · exact ⟨accepted, alike.trans accepted⟩
  · exact ⟨alike.symm.trans accepted, accepted⟩

/-- Every process is served below the base. Under the schemes `http` and `https` its
address keeps the scheme and the authority of the base, and the way to its output is added
to the path of the base as to a directory. That is what joining the way to the base gives.
Two processes whose addresses are written alike have one identifier and one kind. It makes
no difference to a process whether the base has a slash at its end: bases that agree in what
is kept serve it at one address, and texts that differ only in the slash are one base. -/
theorem endpoints_under_base {s : String} {b : Backend} (accepted : ofText s = .ok b)
    (web : b.base.scheme = "http" ∨ b.base.scheme = "https") : ∃ u, Url.ofText s = .ok u ∧
      b.base = u.withPath (UrlPath.directory u.path.text) ∧
      (∀ p : Execution, ∃ e, b.resolve p = .ok e ∧ e.process = p.id ∧ e.kind = p.kind ∧
        e.url.IsBelow u (way p.id p.kind) ∧ b.base.join (way p.id p.kind) = .ok e.url) ∧
      (∀ p q e f, b.resolve p = .ok e → b.resolve q = .ok f → e.url.text = f.url.text →
        p.id = q.id ∧ p.kind = q.kind) ∧
      (∀ t c v, ofText t = .ok c → Url.ofText t = .ok v → v.scheme = u.scheme →
        v.authority = u.authority →
        UrlPath.directory v.path.text = UrlPath.directory u.path.text → c.resolve = b.resolve) ∧
      ∀ front rest, Url.OpenEnd front rest → s = front ++ rest ∨ s = front ++ "/" ++ rest →
        ofText (front ++ rest) = .ok b ∧ ofText (front ++ "/" ++ rest) = .ok b := by
  rcases exists_of_ofText accepted with ⟨u, read, base⟩
  have special : u.schemeClass = .special := by
    rw [base] at web
    unfold Url.schemeClass
    rcases web with http | https
    · rw [show u.scheme = "http" from http]
      rfl
    · rw [show u.scheme = "https" from https]
      rfl
  rcases Url.closed_eq_of_ofText read special with ⟨a, directories, named, shape, closes, _settled⟩
  have shape := base.trans shape
  have specialBase : b.base.schemeClass = .special := by
    rw [base]
    exact special
  refine ⟨u, read, base.trans (Url.closed_eq_withPath read special), ?_, ?_, ?_, ?_⟩
  · intro p
    refine ⟨_, resolve_eq p shape, rfl, rfl, isBelow_resolve p closes, ?_⟩
    rw [join_way specialBase, url_eq p.id p.kind shape]
  · intro p q e f served servedToo same
    rw [resolve_eq p shape] at served
    rw [resolve_eq q shape] at servedToo
    cases served
    cases servedToo
    exact way_injective ((isBelow_resolve p closes).added_eq (isBelow_resolve q closes) named same)
  · intro t c v acceptedToo readToo sameScheme sameAuthority samePath
    rcases exists_of_ofText acceptedToo with ⟨v', readAgain, baseToo⟩
    rw [readToo] at readAgain
    cases readAgain
    exact resolve_eq_of_directory_eq read base readToo baseToo special sameScheme sameAuthority
      samePath
  · intro front rest ends written
    exact ofText_slash ends written accepted read special

/-- A base with credentials, a port, a dot in its path, a query and a fragment, and the same
base with a slash. -/
theorem endpoints_under_deep_base : ∃ b,
    ofText "https://me:pw@Example.test:8443/a/./vk?x#y" = .ok b ∧
      ofText "https://me:pw@Example.test:8443/a/./vk/?x#y" = .ok b ∧
      ∀ p : Execution, ∃ e, b.resolve p = .ok e ∧
        e.url.path.text = "/a/vk/" ++ way p.id p.kind := by
  have read : Url.ofText "https://me:pw@Example.test:8443/a/./vk?x#y" =
      .ok ⟨"https", some ⟨"me", some "pw", .name "example.test", some 8443⟩,
        .segments ["a", "vk"], some "x", some "y"⟩ := by decide +kernel
  have accepted : ofText "https://me:pw@Example.test:8443/a/./vk?x#y" =
      .ok ⟨⟨"https", some ⟨"me", some "pw", .name "example.test", some 8443⟩,
        .segments ["a", "vk", ""], some "x", some "y"⟩⟩ := by
    rw [ofText, read]
    rfl
  have ends : Url.OpenEnd "https://me:pw@Example.test:8443/a/./vk" "?x#y" :=
    ⟨⟨'k', by decide, by decide⟩, List.all_iff_forall_prop.mp rfl, by rintro _ ⟨⟩; rfl⟩
  rcases endpoints_under_base accepted (Or.inr rfl) with
    ⟨u, readAgain, _base, below, _unique, _alike, slash⟩
  rw [read] at readAgain
  cases readAgain
  refine ⟨_, accepted, (slash _ _ ends (Or.inl rfl)).2, ?_⟩
  intro p
  rcases below p with ⟨e, served, _process, _kind, isBelow, _joined⟩
  have directory : UrlPath.directory (UrlPath.segments ["a", "vk"]).text = "/a/vk/" := by
    decide +kernel
  refine ⟨e, served, ?_⟩
  rw [isBelow.path, directory]

end Backend

end LiveLog
