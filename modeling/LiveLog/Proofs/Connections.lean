import LiveLog.Pipeline
import LiveLog.Proofs.Subscriptions

namespace LiveLog

/-!
# What opening connections means for one process

A pipeline opens the links that are new in its hub, one after the other, and
queues what each of them reports. Seen from one process, nothing happens unless
one of those links is its own; then there is exactly one, its report is queued
once, and its producer feeds the new connection from now on, unless it was
refused. The links of other processes touch neither what the producer of this
one feeds nor whether its next connection is refused.
-/

namespace Assoc

variable {κ : Type} {α : Type} [DecidableEq κ]

theorem lookup_erase_self (k : κ) (ps : List (κ × α)) : (erase k ps).lookup k = none := by
  induction ps with
  | nil => rfl
  | cons p ps inductionHypothesis =>
      unfold erase at inductionHypothesis ⊢
      by_cases same : p.1 = k
      · rw [List.filter_cons_of_neg (by simpa using same)]
        exact inductionHypothesis
      · have different : (k == p.1) = false := beq_eq_false_iff_ne.mpr fun equal => same equal.symm
        rw [List.filter_cons_of_pos (by simpa using same), List.lookup_cons, different]
        exact inductionHypothesis

theorem lookup_erase_of_ne {k j : κ} (other : j ≠ k) (ps : List (κ × α)) :
    (erase k ps).lookup j = ps.lookup j := by
  induction ps with
  | nil => rfl
  | cons p ps inductionHypothesis =>
      unfold erase at inductionHypothesis ⊢
      by_cases same : p.1 = k
      · have different : (j == p.1) = false :=
          beq_eq_false_iff_ne.mpr fun equal => other (equal.trans same)
        rw [List.filter_cons_of_neg (by simpa using same), List.lookup_cons, different]
        exact inductionHypothesis
      · rw [List.filter_cons_of_pos (by simpa using same), List.lookup_cons, List.lookup_cons,
          inductionHypothesis]

end Assoc

namespace Event

/-- Whether an event is a report of one connection. -/
def isFrom (id : Uuid) (generation : Option Nat) (e : Event) : Bool :=
  decide (e.process = id ∧ some e.generation = generation)

/-- The reports of one connection among some events, in order. -/
def reportsOf (id : Uuid) (generation : Option Nat) (events : List Event) : List Signal :=
  (events.filter (isFrom id generation)).map Event.signal

variable {id : Uuid} {generation : Option Nat}

theorem reportsOf_append (first second : List Event) :
    reportsOf id generation (first ++ second) =
      reportsOf id generation first ++ reportsOf id generation second := by
  unfold reportsOf
  rw [List.filter_append, List.map_append]

theorem reportsOf_cons_self {e : Event} (owner : e.process = id)
    (same : some e.generation = generation) (events : List Event) :
    reportsOf id generation (e :: events) = e.signal :: reportsOf id generation events := by
  unfold reportsOf
  have mine : e.isFrom id generation = true := decide_eq_true ⟨owner, same⟩
  rw [List.filter_cons_of_pos mine, List.map_cons]

theorem reportsOf_cons_other {e : Event}
    (other : ¬ (e.process = id ∧ some e.generation = generation)) (events : List Event) :
    reportsOf id generation (e :: events) = reportsOf id generation events := by
  unfold reportsOf
  have foreign : ¬ e.isFrom id generation = true := fun same => other (of_decide_eq_true same)
  rw [List.filter_cons_of_neg foreign]

/-- A connection has no report among events that are all of other connections. -/
theorem reportsOf_eq_nil {events : List Event}
    (others : ∀ e ∈ events, ¬ (e.process = id ∧ some e.generation = generation)) :
    reportsOf id generation events = [] := by
  induction events with
  | nil => rfl
  | cons e events inductionHypothesis =>
      rw [reportsOf_cons_other (others e List.mem_cons_self)]
      exact inductionHypothesis fun e listed => others e (List.mem_cons_of_mem _ listed)

end Event

namespace Loopback

/-- What the next connection of a process will report first. -/
def greeting (t : Loopback) (id : Uuid) : Signal :=
  match t.refusals.lookup id with
  | some message => .ofError (.refused message)
  | none => .opened

section Connect

variable {t : Loopback} {link : Link} {id : Uuid}

theorem connect_of_refused {message : String}
    (refused : t.refusals.lookup link.endpoint.process = some message) :
    t.connect link = (⟨t.fed,
        Assoc.set link.endpoint.process (t.attemptsOf link.endpoint.process + 1) t.attempts,
        Assoc.erase link.endpoint.process t.refusals⟩,
      ⟨link.endpoint.process, link.generation, .ofError (.refused message)⟩) := by
  unfold connect
  simp only [refused]

theorem connect_of_accepted (accepted : t.refusals.lookup link.endpoint.process = none) :
    t.connect link = (⟨Assoc.set link.endpoint.process link.generation t.fed,
        Assoc.set link.endpoint.process (t.attemptsOf link.endpoint.process + 1) t.attempts,
        t.refusals⟩,
      ⟨link.endpoint.process, link.generation, .opened⟩) := by
  unfold connect
  simp only [accepted]

/-- A connection of another process leaves this one alone. -/
theorem connect_other (other : link.endpoint.process ≠ id) :
    (t.connect link).1.fed.lookup id = t.fed.lookup id ∧
      (t.connect link).1.refusals.lookup id = t.refusals.lookup id := by
  cases refused : t.refusals.lookup link.endpoint.process with
  | some message =>
      rw [connect_of_refused refused]
      exact ⟨rfl, Assoc.lookup_erase_of_ne other.symm _⟩
  | none =>
      rw [connect_of_accepted refused]
      exact ⟨Assoc.lookup_set_of_ne other.symm _ _, rfl⟩

/-- A connection of another process is no attempt at this one. -/
theorem attemptsOf_connect_other (other : link.endpoint.process ≠ id) :
    (t.connect link).1.attemptsOf id = t.attemptsOf id := by
  unfold attemptsOf
  cases refused : t.refusals.lookup link.endpoint.process with
  | some message =>
      rw [connect_of_refused refused, Assoc.lookup_set_of_ne other.symm]
  | none =>
      rw [connect_of_accepted refused, Assoc.lookup_set_of_ne other.symm]

/-- A connection of the process reports its greeting, and is fed unless it was
refused. -/
theorem connect_self (owner : link.endpoint.process = id) :
    (t.connect link).2 = ⟨id, link.generation, t.greeting id⟩ ∧
      (t.connect link).1.fed.lookup id =
        if (t.refusals.lookup id).isNone then some link.generation else t.fed.lookup id := by
  unfold greeting
  cases refused : t.refusals.lookup id with
  | some message =>
      rw [connect_of_refused (owner ▸ refused), owner]
      exact ⟨rfl, rfl⟩
  | none =>
      rw [connect_of_accepted (owner ▸ refused), owner]
      exact ⟨rfl, Assoc.lookup_set_self _ _ _⟩

theorem connectAll_cons (rest : List Link) :
    t.connectAll (link :: rest) =
      (((t.connect link).1.connectAll rest).1,
        (t.connect link).2 :: ((t.connect link).1.connectAll rest).2) := rfl

end Connect

section ConnectAll

variable {id : Uuid}

theorem connectAll_append (t : Loopback) (first second : List Link) :
    t.connectAll (first ++ second) =
      (((t.connectAll first).1.connectAll second).1,
        (t.connectAll first).2 ++ ((t.connectAll first).1.connectAll second).2) := by
  induction first generalizing t with
  | nil => rfl
  | cons link rest inductionHypothesis =>
      rw [List.cons_append, connectAll_cons, connectAll_cons, inductionHypothesis]
      rfl

theorem connectAll_others (t : Loopback) {links : List Link}
    (others : ∀ link ∈ links, link.endpoint.process ≠ id) :
    (t.connectAll links).1.fed.lookup id = t.fed.lookup id ∧
      (t.connectAll links).1.refusals.lookup id = t.refusals.lookup id ∧
      ∀ e ∈ (t.connectAll links).2, e.process ≠ id := by
  induction links generalizing t with
  | nil => exact ⟨rfl, rfl, fun e listed => absurd listed List.not_mem_nil⟩
  | cons link rest inductionHypothesis =>
      have other := others link List.mem_cons_self
      rcases connect_other (t := t) other with ⟨fed, refusals⟩
      rcases inductionHypothesis (t.connect link).1
        (fun later listed => others later (List.mem_cons_of_mem _ listed)) with
        ⟨fedRest, refusalsRest, eventsRest⟩
      rw [connectAll_cons]
      refine ⟨fedRest.trans fed, refusalsRest.trans refusals, ?_⟩
      intro e listed
      rcases List.mem_cons.mp listed with first | later
      · rw [first, (t.generation_connect link).1]
        exact other
      · exact eventsRest e later

theorem attemptsOf_connectAll_others (t : Loopback) {links : List Link}
    (others : ∀ link ∈ links, link.endpoint.process ≠ id) :
    (t.connectAll links).1.attemptsOf id = t.attemptsOf id := by
  induction links generalizing t with
  | nil => rfl
  | cons link rest inductionHypothesis =>
      have other := others link List.mem_cons_self
      rw [connectAll_cons, inductionHypothesis _ fun later listed =>
        others later (List.mem_cons_of_mem _ listed)]
      exact attemptsOf_connect_other other

/-- Among links of which one belongs to the process, that one greets and is
fed, whatever the others do before and after it. -/
theorem connectAll_one (t : Loopback) {before after : List Link} {link : Link}
    (owner : link.endpoint.process = id)
    (othersBefore : ∀ other ∈ before, other.endpoint.process ≠ id)
    (othersAfter : ∀ other ∈ after, other.endpoint.process ≠ id) :
    (t.connectAll (before ++ link :: after)).1.fed.lookup id =
        (if (t.refusals.lookup id).isNone then some link.generation else t.fed.lookup id) ∧
      Event.reportsOf id (some link.generation) (t.connectAll (before ++ link :: after)).2 =
        [t.greeting id] := by
  rcases t.connectAll_others othersBefore with ⟨fedBefore, refusalsBefore, eventsBefore⟩
  rcases connect_self (t := (t.connectAll before).1) owner with ⟨reported, fed⟩
  rcases ((t.connectAll before).1.connect link).1.connectAll_others othersAfter with
    ⟨fedAfter, _refusalsAfter, eventsAfter⟩
  have greets : (t.connectAll before).1.greeting id = t.greeting id := by
    unfold greeting
    rw [refusalsBefore]
  rw [connectAll_append, connectAll_cons]
  refine ⟨?_, ?_⟩
  · rw [fedAfter, fed, refusalsBefore, fedBefore]
  · have silentBefore : Event.reportsOf id (some link.generation) (t.connectAll before).2 = [] :=
      Event.reportsOf_eq_nil fun e listed same => eventsBefore e listed same.1
    have silentAfter : Event.reportsOf id (some link.generation)
        (((t.connectAll before).1.connect link).1.connectAll after).2 = [] :=
      Event.reportsOf_eq_nil fun e listed same => eventsAfter e listed same.1
    simp only [Event.reportsOf_append, silentBefore, List.nil_append]
    rw [reported, Event.reportsOf_cons_self (e := ⟨id, link.generation, _⟩) rfl rfl, silentAfter,
      greets]

/-- Every report bears the generation of a link, and so does whatever a producer
feeds that was not fed before. -/
theorem connectAll_generation (t : Loopback) (links : List Link) :
    (∀ e ∈ (t.connectAll links).2, ∃ link ∈ links, e.generation = link.generation) ∧
      ∀ id generation, (t.connectAll links).1.fed.lookup id = some generation →
        t.fed.lookup id = some generation ∨ ∃ link ∈ links, generation = link.generation := by
  induction links generalizing t with
  | nil =>
      exact ⟨fun e listed => absurd listed List.not_mem_nil, fun id generation fed => Or.inl fed⟩
  | cons link rest inductionHypothesis =>
      rcases inductionHypothesis (t.connect link).1 with ⟨reports, feeds⟩
      rw [connectAll_cons]
      refine ⟨?_, ?_⟩
      · intro e listed
        rcases List.mem_cons.mp listed with first | later
        · refine ⟨link, List.mem_cons_self, ?_⟩
          rw [first]
          exact (t.generation_connect link).2
        · rcases reports e later with ⟨other, member, same⟩
          exact ⟨other, List.mem_cons_of_mem _ member, same⟩
      · intro id generation fed
        rcases feeds id generation fed with before | ⟨other, member, same⟩
        · by_cases owner : link.endpoint.process = id
          · rw [(connect_self owner).2] at before
            split at before
            · exact Or.inr ⟨link, List.mem_cons_self, (Option.some.inj before).symm⟩
            · exact Or.inl before
          · rw [(connect_other owner).1] at before
            exact Or.inl before
        · exact Or.inr ⟨other, List.mem_cons_of_mem _ member, same⟩

end ConnectAll

end Loopback

/-! ## The links of one process -/

namespace Hub

/-- Where no identifier is listed twice and every link belongs to its process,
the links to one process are the one that is found with it. -/
theorem links_of_process {ss : List Subscription} (nodup : (ss.map Subscription.id).Nodup)
    (owned : ∀ s ∈ ss, ∀ link, s.link = some link → link.endpoint.process = s.id) (id : Uuid) :
    (ss.filterMap Subscription.link).filter (fun link => decide (link.endpoint.process = id)) =
      ((findIn id ss).bind Subscription.link).toList := by
  induction ss with
  | nil => rfl
  | cons s rest inductionHypothesis =>
      rw [List.map_cons, List.nodup_cons] at nodup
      have later := inductionHypothesis nodup.2
        fun t listed => owned t (List.mem_cons_of_mem s listed)
      have own : s.link.toList.filter (fun link => decide (link.endpoint.process = id)) =
          if s.id = id then s.link.toList else [] := by
        cases linked : s.link with
        | none =>
            split <;> rfl
        | some link =>
            have owner := owned s List.mem_cons_self link linked
            by_cases same : s.id = id
            · simp only [Option.toList_some, List.filter_cons, owner, same, decide_true, if_true,
                List.filter_nil]
            · simp only [Option.toList_some, List.filter_cons, owner, same, decide_false,
                Bool.false_eq_true, if_false, List.filter_nil]
      have split_head : (s :: rest).filterMap Subscription.link =
          s.link.toList ++ rest.filterMap Subscription.link := by
        cases linked : s.link with
        | none => exact List.filterMap_cons_none linked
        | some link => exact List.filterMap_cons_some linked
      rw [split_head, List.filter_append, own, later]
      by_cases same : s.id = id
      · have absent : findIn id rest = none := findIn_eq_none_iff.mpr (same ▸ nodup.1)
        rw [if_pos same, findIn_cons_of_eq same, absent]
        exact List.append_nil _
      · rw [if_neg same, findIn_cons_of_ne same]
        rfl

/-- The registered link of a process. -/
def link? (h : Hub) (id : Uuid) : Option Link := (h.find? id).bind Subscription.link

theorem Sound.links_filter {h : Hub} (sound : h.Sound) (id : Uuid) :
    h.links.filter (fun link => decide (link.endpoint.process = id)) = (h.link? id).toList :=
  links_of_process sound.nodup sound.owned id

end Hub

namespace Pipeline

section Adopt

variable {p : Pipeline} {h : Hub} {id : Uuid}

theorem opened_filter (sound : h.Sound) (since : Nat) :
    (opened since h).filter (fun link => decide (link.endpoint.process = id)) =
      (h.link? id).toList.filter fun link => decide (since < link.generation) := by
  unfold opened
  rw [← sound.links_filter id, List.filter_filter, List.filter_filter]
  apply List.filter_congr
  intro link _listed
  exact Bool.and_comm _ _

/-- A link that is not new leaves nothing to open for its process. -/
theorem opened_others (sound : h.Sound) {since : Nat}
    (old : ∀ link, h.link? id = some link → link.generation ≤ since) :
    ∀ link ∈ opened since h, link.endpoint.process ≠ id := by
  have nothing : (h.link? id).toList.filter (fun link => decide (since < link.generation)) = [] := by
    cases registered : h.link? id with
    | none => rfl
    | some link =>
        have late : ¬ since < link.generation := Nat.not_lt_of_le (old link registered)
        simp only [Option.toList_some, List.filter_cons, late, decide_false, Bool.false_eq_true,
          if_false, List.filter_nil]
  rw [← opened_filter sound since, List.filter_eq_nil_iff] at nothing
  intro link listed owner
  exact nothing link listed (decide_eq_true owner)

/-- A new link is opened once, among links of other processes. -/
theorem opened_one (sound : h.Sound) {since : Nat} {link : Link}
    (registered : h.link? id = some link) (new : since < link.generation) :
    link.endpoint.process = id ∧ ∃ before after, opened since h = before ++ link :: after ∧
      (∀ other ∈ before, other.endpoint.process ≠ id) ∧
      (∀ other ∈ after, other.endpoint.process ≠ id) := by
  have single : (opened since h).filter (fun link => decide (link.endpoint.process = id)) =
      [link] := by
    rw [opened_filter sound since, registered]
    simp only [Option.toList_some, List.filter_cons, new, decide_true, if_true, List.filter_nil]
  rw [List.filter_eq_cons_iff] at single
  rcases single with ⟨before, after, parts, others, owner, rest⟩
  refine ⟨of_decide_eq_true owner, before, after, parts, ?_, ?_⟩
  · intro other listed same
    exact others other listed (decide_eq_true same)
  · intro other listed same
    exact (List.filter_eq_nil_iff.mp rest) other listed (decide_eq_true same)

/-- Going on with a hub in which a process has no new link queues nothing from
this process, and its producer feeds what it fed before. -/
theorem adopt_others (sound : h.Sound)
    (old : ∀ link, h.link? id = some link → link.generation ≤ p.hub.generation) :
    (p.adopt h).transport.fed.lookup id = p.transport.fed.lookup id ∧
      ∃ events, (p.adopt h).queue = p.queue ++ events ∧ ∀ e ∈ events, e.process ≠ id := by
  rcases p.transport.connectAll_others (opened_others sound old) with ⟨fed, _refusals, others⟩
  exact ⟨fed, _, rfl, others⟩

/-- Going on with a hub in which a process has a new link queues the greeting of
that link, which its producer feeds from now on unless it was refused. -/
theorem adopt_one (sound : h.Sound) {link : Link} (registered : h.link? id = some link)
    (new : p.hub.generation < link.generation) :
    (p.adopt h).transport.fed.lookup id =
        (if (p.transport.refusals.lookup id).isNone then some link.generation
          else p.transport.fed.lookup id) ∧
      ∃ events, (p.adopt h).queue = p.queue ++ events ∧
        Event.reportsOf id (some link.generation) events = [p.transport.greeting id] := by
  rcases opened_one sound registered new with ⟨owner, before, after, parts, othersBefore, othersAfter⟩
  rcases p.transport.connectAll_one owner othersBefore othersAfter with ⟨fed, reports⟩
  rw [← parts] at fed reports
  exact ⟨fed, _, rfl, reports⟩

end Adopt

/-! ## What every pipeline keeps -/

/-- The hub is sound, and no event in the queue, nor any connection that a
producer feeds, is newer than the hub's counter. -/
structure Orderly (p : Pipeline) : Prop where
  sound : p.hub.Sound
  queued : ∀ e ∈ p.queue, e.generation ≤ p.hub.generation
  fed : ∀ id generation, p.transport.fed.lookup id = some generation →
    generation ≤ p.hub.generation

namespace Orderly

variable {p : Pipeline}

theorem start (settings : Settings) (backend : Backend) (grouped : Bool) (now : Int) :
    (Pipeline.start settings backend grouped now).Orderly where
  sound := Hub.Sound.empty settings backend
  queued := fun _e listed => absurd listed List.not_mem_nil
  fed := fun _id _generation fed => nomatch fed

theorem adopt (orderly : p.Orderly) {h : Hub} (sound : h.Sound)
    (later : p.hub.generation ≤ h.generation) : (p.adopt h).Orderly := by
  have bounded : ∀ link ∈ opened p.hub.generation h, link.generation ≤ h.generation := by
    intro link listed
    rcases List.mem_filterMap.mp (List.mem_filter.mp listed).1 with ⟨s, member, linked⟩
    exact sound.bounded s member link linked
  rcases p.transport.connectAll_generation (opened p.hub.generation h) with ⟨reports, feeds⟩
  refine ⟨sound, ?_, ?_⟩
  · intro e listed
    rcases List.mem_append.mp listed with old | new
    · exact Nat.le_trans (orderly.queued e old) later
    · rcases reports e new with ⟨link, member, same⟩
      rw [same]
      exact bounded link member
  · intro id generation fed
    rcases feeds id generation fed with old | ⟨link, member, same⟩
    · exact Nat.le_trans (orderly.fed id generation old) later
    · rw [same]
      exact bounded link member

end Orderly

end Pipeline

end LiveLog
