import LiveLog.Hub

namespace LiveLog

/-!
# What the operations of a hub do to one process

Every operation of a hub walks through the whole list of its subscriptions.
Here each of them is described by what it makes of the subscription of a single
process: kept with a new description, opened with a new generation, dropped, or
handed an event.

Lookups by identifier mean something because a hub never lists an identifier
twice, and links can be told apart because each belongs to the process that is
listed with it and bears a generation that has been given out. These facts are
gathered in `Hub.Sound`, and every operation keeps them. No fact about signals
or about the content of a feed is used.
-/

namespace Backend

/-- An endpoint is resolved for the process that was asked for, and for the way
in which that process publishes. -/
theorem resolve_eq_ok {b : Backend} {p : Execution} {endpoint : Endpoint}
    (resolved : b.resolve p = .ok endpoint) :
    endpoint.process = p.id ∧ endpoint.kind = p.kind := by
  unfold resolve at resolved
  cases served : b.url p.id p.kind with
  | error e =>
      rw [served] at resolved
      cases resolved
  | ok address =>
      rw [served] at resolved
      cases resolved
      exact ⟨rfl, rfl⟩

end Backend

namespace Feed

/-- The same feed under another description of its process. -/
def described (f : Feed) (p : Execution) : Feed := { f with process := p }

end Feed

namespace Subscription

/-- The subscription after an event, whether or not the event is meant for it. -/
def receive (s : Subscription) (e : Event) (now : Int) : Subscription :=
  if s.accepts e then (s.take e.signal now).1 else s

theorem process_take (s : Subscription) (signal : Signal) (now : Int) :
    (s.take signal now).1.feed.process = s.feed.process := by
  unfold take
  cases taken : s.feed.take signal now with
  | none => rfl
  | some result =>
      obtain ⟨feed, change⟩ := result
      exact Feed.process_take taken

theorem process_receive (s : Subscription) (e : Event) (now : Int) :
    (s.receive e now).feed.process = s.feed.process := by
  unfold receive
  split
  · exact s.process_take e.signal now
  · rfl

@[simp] theorem id_receive (s : Subscription) (e : Event) (now : Int) :
    (s.receive e now).id = s.id := congrArg Execution.id (s.process_receive e now)

/-- A signal never installs a link: it leaves the present one, or none. -/
theorem link_take (s : Subscription) (signal : Signal) (now : Int) :
    (s.take signal now).1.link = s.link ∨ (s.take signal now).1.link = none := by
  unfold take
  cases s.feed.take signal now with
  | none => exact Or.inl rfl
  | some result =>
      obtain ⟨feed, change⟩ := result
      cases final : change.isFinal with
      | false => exact Or.inl (by simp only [final, Bool.false_eq_true, if_false])
      | true => exact Or.inr (by simp only [final, if_true])

theorem link_receive {s : Subscription} {e : Event} {now : Int} {link : Link}
    (linked : (s.receive e now).link = some link) : s.link = some link := by
  unfold receive at linked
  split at linked
  · rcases s.link_take e.signal now with same | closed
    · exact same ▸ linked
    · rw [closed] at linked
      cases linked
  · exact linked

theorem accepts_eq_true_iff (s : Subscription) (e : Event) :
    s.accepts e = true ↔ s.id = e.process ∧ s.generation? = some e.generation := by
  unfold accepts
  exact decide_eq_true_iff

/-- An event of another process is not accepted. -/
theorem receive_of_ne {s : Subscription} {e : Event} (now : Int) (other : s.id ≠ e.process) :
    s.receive e now = s := by
  have refused : ¬ s.accepts e = true := by
    intro accepted
    exact other ((s.accepts_eq_true_iff e).mp accepted).1
  unfold receive
  rw [if_neg refused]

/-- The same subscription under another description of its process. -/
def described (s : Subscription) (p : Execution) : Subscription :=
  { s with feed := s.feed.described p }

end Subscription

namespace Hub

/-- The lookup that `Hub.find?` does, on the bare list. -/
def findIn (id : Uuid) (ss : List Subscription) : Option Subscription := ss.find? fun s => s.id = id

theorem findIn_cons_of_eq {id : Uuid} {s : Subscription} (same : s.id = id)
    (rest : List Subscription) : findIn id (s :: rest) = some s := by
  unfold findIn
  rw [List.find?_cons_of_pos]
  exact decide_eq_true same

theorem findIn_cons_of_ne {id : Uuid} {s : Subscription} (other : s.id ≠ id)
    (rest : List Subscription) : findIn id (s :: rest) = findIn id rest := by
  unfold findIn
  rw [List.find?_cons_of_neg]
  intro same
  exact other (of_decide_eq_true same)

theorem mem_of_findIn {id : Uuid} {ss : List Subscription} {s : Subscription}
    (found : findIn id ss = some s) : s ∈ ss ∧ s.id = id := by
  unfold findIn at found
  have selected := List.find?_some found
  exact ⟨List.mem_of_find?_eq_some found, of_decide_eq_true selected⟩

theorem findIn_eq_none_iff {id : Uuid} {ss : List Subscription} :
    findIn id ss = none ↔ id ∉ ss.map Subscription.id := by
  unfold findIn
  rw [List.find?_eq_none]
  simp only [List.mem_map, not_exists, not_and, decide_eq_true_eq]

/-- Where no identifier is listed twice, a listed subscription is the one that
is found. -/
theorem findIn_eq_some_iff {id : Uuid} {ss : List Subscription} {s : Subscription}
    (nodup : (ss.map Subscription.id).Nodup) : findIn id ss = some s ↔ s ∈ ss ∧ s.id = id := by
  constructor
  · exact mem_of_findIn
  · rintro ⟨listed, same⟩
    induction ss with
    | nil => cases listed
    | cons head rest inductionHypothesis =>
        rw [List.map_cons, List.nodup_cons] at nodup
        rcases List.mem_cons.mp listed with first | later
        · rw [first] at same ⊢
          exact findIn_cons_of_eq same rest
        · have other : head.id ≠ id := by
            intro twice
            exact nodup.1 (List.mem_map.mpr ⟨s, later, same.trans twice.symm⟩)
          rw [findIn_cons_of_ne other]
          exact inductionHypothesis nodup.2 later

/-- Handing an event to the list is handing it to every subscription: only the
one that is found under the event's process can accept it. -/
theorem findIn_deliver (e : Event) (now : Int) (id : Uuid) (ss : List Subscription) :
    findIn id (deliver e now ss).1 = (findIn id ss).map fun s => s.receive e now := by
  induction ss with
  | nil => rfl
  | cons s rest inductionHypothesis =>
      by_cases accepted : s.accepts e = true
      · have addressee := ((s.accepts_eq_true_iff e).mp accepted).1
        have delivered : (deliver e now (s :: rest)).1 = s.receive e now :: rest := by
          simp only [deliver, Subscription.receive, if_pos accepted]
        rw [delivered]
        by_cases same : s.id = id
        · rw [findIn_cons_of_eq (by rw [Subscription.id_receive]; exact same),
            findIn_cons_of_eq same, Option.map_some]
        · rw [findIn_cons_of_ne (by rw [Subscription.id_receive]; exact same),
            findIn_cons_of_ne same]
          cases found : findIn id rest with
          | none => rfl
          | some t =>
              have other : t.id ≠ e.process := by
                rw [(mem_of_findIn found).2, ← addressee]
                exact fun equal => same equal.symm
              rw [Option.map_some, Subscription.receive_of_ne now other]
      · have delivered : (deliver e now (s :: rest)).1 = s :: (deliver e now rest).1 := by
          simp only [deliver, if_neg accepted]
        have kept : s.receive e now = s := by
          unfold Subscription.receive
          rw [if_neg accepted]
        rw [delivered]
        by_cases same : s.id = id
        · rw [findIn_cons_of_eq same, findIn_cons_of_eq same, Option.map_some, kept]
        · rw [findIn_cons_of_ne same, findIn_cons_of_ne same]
          exact inductionHypothesis

/-- What an event makes of the subscription of a process. -/
theorem find?_handle (h : Hub) (e : Event) (now : Int) (id : Uuid) :
    (h.handle e now).1.find? id = (h.find? id).map fun s => s.receive e now :=
  findIn_deliver e now id h.subscriptions

theorem handleAll_cons (h : Hub) (e : Event) (now : Int) (rest : List (Event × Int)) :
    h.handleAll ((e, now) :: rest) =
      (((h.handle e now).1.handleAll rest).1,
        (h.handle e now).2.toList ++ ((h.handle e now).1.handleAll rest).2) := rfl

theorem ids_handleAll (h : Hub) (events : List (Event × Int)) :
    (h.handleAll events).1.ids = h.ids := by
  induction events generalizing h with
  | nil => rfl
  | cons event rest inductionHypothesis =>
      rw [handleAll_cons, inductionHypothesis]
      exact map_id_deliver event.1 event.2 h.subscriptions

theorem generation_handleAll (h : Hub) (events : List (Event × Int)) :
    (h.handleAll events).1.generation = h.generation := by
  induction events generalizing h with
  | nil => rfl
  | cons event rest inductionHypothesis =>
      rw [handleAll_cons, inductionHypothesis, generation_handle]

theorem settings_handleAll (h : Hub) (events : List (Event × Int)) :
    (h.handleAll events).1.settings = h.settings ∧
      (h.handleAll events).1.backend = h.backend := by
  induction events generalizing h with
  | nil => exact ⟨rfl, rfl⟩
  | cons event rest inductionHypothesis => exact inductionHypothesis (h.handle event.1 event.2).1

/-- Every listed subscription after an event was listed before it. -/
theorem mem_deliver {e : Event} {now : Int} {ss : List Subscription} {t : Subscription}
    (listed : t ∈ (deliver e now ss).1) : t ∈ ss ∨ ∃ s ∈ ss, t = s.receive e now := by
  induction ss with
  | nil => cases listed
  | cons s rest inductionHypothesis =>
      by_cases accepted : s.accepts e = true
      · simp only [deliver, if_pos accepted, List.mem_cons] at listed
        rcases listed with first | later
        · refine Or.inr ⟨s, List.mem_cons_self, ?_⟩
          unfold Subscription.receive
          rw [if_pos accepted]
          exact first
        · exact Or.inl (List.mem_cons_of_mem s later)
      · simp only [deliver, if_neg accepted, List.mem_cons] at listed
        rcases listed with first | later
        · exact Or.inl (first ▸ List.mem_cons_self)
        · rcases inductionHypothesis later with same | ⟨u, member, received⟩
          · exact Or.inl (List.mem_cons_of_mem s same)
          · exact Or.inr ⟨u, List.mem_cons_of_mem s member, received⟩

/-! ## Opening -/

section Opening

variable (settings : Settings) (backend : Backend) (generation : Nat) (p : Execution) (now : Int)

theorem id_subscribe : (subscribe settings backend generation p now).1.id = p.id := by
  unfold subscribe
  cases backend.resolve p <;> rfl

theorem le_subscribe : generation ≤ (subscribe settings backend generation p now).2 := by
  unfold subscribe
  cases backend.resolve p with
  | error e => exact Nat.le_refl generation
  | ok endpoint => exact Nat.le_succ generation

variable {settings backend generation p now}

/-- A new subscription to a process that is served somewhere: its feed is fresh,
and its link is the next one. -/
theorem subscribe_of_ok {endpoint : Endpoint} (resolved : backend.resolve p = .ok endpoint) :
    subscribe settings backend generation p now =
      (⟨Feed.fresh settings p now, some ⟨generation + 1, endpoint⟩⟩, generation + 1) := by
  unfold subscribe
  rw [resolved]

/-- A new subscription has a link only to the endpoint of its process, with a
generation that no link had before. -/
theorem subscribe_link {link : Link}
    (linked : (subscribe settings backend generation p now).1.link = some link) :
    backend.resolve p = .ok link.endpoint ∧ link.generation = generation + 1 ∧
      (subscribe settings backend generation p now).2 = generation + 1 := by
  cases resolved : backend.resolve p with
  | error e =>
      simp only [subscribe, resolved] at linked
      cases linked
  | ok endpoint =>
      rw [subscribe_of_ok resolved] at linked ⊢
      cases linked
      exact ⟨rfl, rfl, rfl⟩

end Opening

section Synchronizing

variable {h : Hub} {now : Int}

theorem keepOrSubscribe_of_some {generation : Nat} {p : Execution} {s : Subscription}
    (found : h.find? p.id = some s) :
    h.keepOrSubscribe generation p now = (s.described p, generation) := by
  unfold keepOrSubscribe
  rw [found]
  rfl

theorem keepOrSubscribe_of_none {generation : Nat} {p : Execution}
    (missing : h.find? p.id = none) :
    h.keepOrSubscribe generation p now = subscribe h.settings h.backend generation p now := by
  unfold keepOrSubscribe
  rw [missing]

theorem id_keepOrSubscribe (h : Hub) (generation : Nat) (p : Execution) (now : Int) :
    (h.keepOrSubscribe generation p now).1.id = p.id := by
  cases found : h.find? p.id with
  | none =>
      rw [keepOrSubscribe_of_none found]
      exact id_subscribe h.settings h.backend generation p now
  | some s =>
      rw [keepOrSubscribe_of_some found]
      rfl

theorem le_keepOrSubscribe (h : Hub) (generation : Nat) (p : Execution) (now : Int) :
    generation ≤ (h.keepOrSubscribe generation p now).2 := by
  cases found : h.find? p.id with
  | none =>
      rw [keepOrSubscribe_of_none found]
      exact le_subscribe h.settings h.backend generation p now
  | some s =>
      exact Nat.le_of_eq (congrArg Prod.snd (keepOrSubscribe_of_some found)).symm

theorem subscribeAll_cons (h : Hub) (now : Int) (generation : Nat) (p : Execution)
    (ps : List Execution) :
    h.subscribeAll now generation (p :: ps) =
      ((h.keepOrSubscribe generation p now).1 ::
        (h.subscribeAll now (h.keepOrSubscribe generation p now).2 ps).1,
        (h.subscribeAll now (h.keepOrSubscribe generation p now).2 ps).2) := rfl

theorem ids_subscribeAll (h : Hub) (now : Int) (generation : Nat) (ps : List Execution) :
    (h.subscribeAll now generation ps).1.map Subscription.id = ps.map Execution.id := by
  induction ps generalizing generation with
  | nil => rfl
  | cons p ps inductionHypothesis =>
      rw [subscribeAll_cons, List.map_cons, List.map_cons, id_keepOrSubscribe, inductionHypothesis]

theorem le_subscribeAll (h : Hub) (now : Int) (generation : Nat) (ps : List Execution) :
    generation ≤ (h.subscribeAll now generation ps).2 := by
  induction ps generalizing generation with
  | nil => exact Nat.le_refl generation
  | cons p ps inductionHypothesis =>
      rw [subscribeAll_cons]
      exact Nat.le_trans (h.le_keepOrSubscribe generation p now) (inductionHypothesis _)

/-- Every subscription of a synchronized hub is the one that was kept or opened
for some listed process, at some value of the generation counter in between. -/
theorem mem_subscribeAll {generation : Nat} {ps : List Execution} {s : Subscription}
    (listed : s ∈ (h.subscribeAll now generation ps).1) :
    ∃ p ∈ ps, ∃ before, generation ≤ before ∧ s = (h.keepOrSubscribe before p now).1 ∧
      (h.keepOrSubscribe before p now).2 ≤ (h.subscribeAll now generation ps).2 := by
  induction ps generalizing generation with
  | nil => cases listed
  | cons p ps inductionHypothesis =>
      rw [subscribeAll_cons] at listed ⊢
      rcases List.mem_cons.mp listed with first | later
      · exact ⟨p, List.mem_cons_self, generation, Nat.le_refl generation, first,
          h.le_subscribeAll now _ ps⟩
      · rcases inductionHypothesis later with ⟨q, member, before, bound, same, upper⟩
        exact ⟨q, List.mem_cons_of_mem p member, before,
          Nat.le_trans (h.le_keepOrSubscribe generation p now) bound, same, upper⟩

/-- No identifier is listed twice after a synchronization, whatever list was
asked for. -/
theorem nodup_ids_sync (h : Hub) (ps : List Execution) (now : Int) : (h.sync ps now).ids.Nodup := by
  change ((h.subscribeAll now h.generation (distinct ps)).1.map Subscription.id).Nodup
  rw [ids_subscribeAll]
  exact nodup_ids_distinct ps

theorem le_generation_sync (h : Hub) (ps : List Execution) (now : Int) :
    h.generation ≤ (h.sync ps now).generation :=
  h.le_subscribeAll now h.generation (distinct ps)

theorem mem_of_mem_distinct {p : Execution} {ps : List Execution} (member : p ∈ distinct ps) :
    p ∈ ps := by
  induction ps with
  | nil => cases member
  | cons q ps inductionHypothesis =>
      rcases List.mem_cons.mp member with first | later
      · exact first ▸ List.mem_cons_self
      · exact List.mem_cons_of_mem q (inductionHypothesis (List.mem_filter.mp later).1)

/-- The first of the processes with an identifier stands for all of them. -/
theorem exists_mem_distinct {p : Execution} {ps : List Execution} (member : p ∈ ps) :
    ∃ q ∈ distinct ps, q.id = p.id := by
  induction ps with
  | nil => cases member
  | cons q ps inductionHypothesis =>
      by_cases same : q.id = p.id
      · exact ⟨q, List.mem_cons_self, same⟩
      · rcases List.mem_cons.mp member with first | later
        · exact absurd (congrArg Execution.id first.symm) same
        · rcases inductionHypothesis later with ⟨r, listed, owner⟩
          have different : r.id ≠ q.id := fun equal => same (equal.symm.trans owner)
          exact ⟨r, List.mem_cons_of_mem q (List.mem_filter.mpr ⟨listed, decide_eq_true different⟩),
            owner⟩

/-- Every process that was asked for is followed. -/
theorem find?_sync_of_mem (h : Hub) {ps : List Execution} {p : Execution} (member : p ∈ ps)
    (now : Int) : ∃ t, (h.sync ps now).find? p.id = some t := by
  cases after : (h.sync ps now).find? p.id with
  | some t => exact ⟨t, rfl⟩
  | none =>
      rcases exists_mem_distinct member with ⟨q, listed, owner⟩
      have absent := findIn_eq_none_iff.mp after
      change p.id ∉ (h.subscribeAll now h.generation (distinct ps)).1.map Subscription.id at absent
      rw [ids_subscribeAll] at absent
      exact absurd (List.mem_map.mpr ⟨q, listed, owner⟩) absent

/-- Only processes that were asked for are followed. -/
theorem find?_sync_listed {ps : List Execution} {id : Uuid} {t : Subscription}
    (after : (h.sync ps now).find? id = some t) : ∃ p ∈ ps, p.id = id := by
  rcases mem_of_findIn after with ⟨listed, named⟩
  rcases mem_subscribeAll listed with ⟨p, member, generation, _bound, same, _upper⟩
  refine ⟨p, mem_of_mem_distinct member, ?_⟩
  rw [← named, same, id_keepOrSubscribe]

/-- A process that stays in the set keeps everything but its description. -/
theorem find?_sync_of_some {ps : List Execution} {id : Uuid} {s t : Subscription}
    (before : h.find? id = some s) (after : (h.sync ps now).find? id = some t) :
    ∃ p, p.id = id ∧ t = s.described p := by
  rcases mem_of_findIn after with ⟨listed, named⟩
  rcases mem_subscribeAll listed with ⟨p, _member, generation, _bound, same, _upper⟩
  have owner : p.id = id := by
    rw [← named, same, id_keepOrSubscribe]
  rw [keepOrSubscribe_of_some (owner ▸ before)] at same
  exact ⟨p, owner, same⟩

/-- A process that was not followed is opened, at some value of the generation
counter between its values before and after the synchronization. -/
theorem find?_sync_of_none {ps : List Execution} {id : Uuid} {t : Subscription}
    (before : h.find? id = none) (after : (h.sync ps now).find? id = some t) :
    ∃ p generation, p.id = id ∧ h.generation ≤ generation ∧
      t = (subscribe h.settings h.backend generation p now).1 ∧
      (subscribe h.settings h.backend generation p now).2 ≤ (h.sync ps now).generation := by
  rcases mem_of_findIn after with ⟨listed, named⟩
  rcases mem_subscribeAll listed with ⟨p, _member, generation, bound, same, upper⟩
  have owner : p.id = id := by
    rw [← named, same, id_keepOrSubscribe]
  rw [keepOrSubscribe_of_none (owner ▸ before)] at same upper
  exact ⟨p, generation, owner, bound, same, upper⟩

end Synchronizing

section Resubscribing

variable {h : Hub} {now : Int} {id : Uuid}

theorem resubscribe_of_none (missing : h.find? id = none) : h.resubscribe id now = h := by
  unfold resubscribe
  rw [missing]

theorem resubscribe_of_some {s : Subscription} (found : h.find? id = some s) :
    h.resubscribe id now = { h with
      subscriptions := h.subscriptions.map fun t =>
        if t.id = id then (subscribe h.settings h.backend h.generation s.feed.process now).1 else t
      generation := (subscribe h.settings h.backend h.generation s.feed.process now).2 } := by
  unfold resubscribe
  rw [found]

theorem le_generation_resubscribe (h : Hub) (id : Uuid) (now : Int) :
    h.generation ≤ (h.resubscribe id now).generation := by
  cases found : h.find? id with
  | none => exact Nat.le_of_eq (congrArg Hub.generation (resubscribe_of_none found)).symm
  | some s =>
      rw [resubscribe_of_some found]
      exact le_subscribe h.settings h.backend h.generation s.feed.process now

/-- Replacing the subscriptions of one process by one of the same process moves
no identifier. -/
theorem map_id_replace {fresh : Subscription} (owner : fresh.id = id) (ss : List Subscription) :
    (ss.map fun t => if t.id = id then fresh else t).map Subscription.id =
      ss.map Subscription.id := by
  rw [List.map_map]
  apply List.map_congr_left
  intro t _listed
  by_cases same : t.id = id
  · rw [Function.comp_apply, if_pos same, owner, same]
  · rw [Function.comp_apply, if_neg same]

theorem findIn_replace_self {fresh : Subscription} (owner : fresh.id = id)
    {ss : List Subscription} {s : Subscription} (found : findIn id ss = some s) :
    findIn id (ss.map fun t => if t.id = id then fresh else t) = some fresh := by
  induction ss with
  | nil => cases found
  | cons head rest inductionHypothesis =>
      rw [List.map_cons]
      by_cases same : head.id = id
      · rw [if_pos same]
        exact findIn_cons_of_eq owner _
      · rw [findIn_cons_of_ne same] at found
        rw [if_neg same, findIn_cons_of_ne same]
        exact inductionHypothesis found

theorem findIn_replace_of_ne {fresh : Subscription} (owner : fresh.id = id) {other : Uuid}
    (different : other ≠ id) (ss : List Subscription) :
    findIn other (ss.map fun t => if t.id = id then fresh else t) = findIn other ss := by
  induction ss with
  | nil => rfl
  | cons head rest inductionHypothesis =>
      rw [List.map_cons]
      by_cases same : head.id = id
      · have skipped : fresh.id ≠ other := fun equal => different (equal.symm.trans owner)
        have passed : head.id ≠ other := fun equal => different (equal.symm.trans same)
        rw [if_pos same, findIn_cons_of_ne skipped, findIn_cons_of_ne passed]
        exact inductionHypothesis
      · rw [if_neg same]
        by_cases reached : head.id = other
        · rw [findIn_cons_of_eq reached, findIn_cons_of_eq reached]
        · rw [findIn_cons_of_ne reached, findIn_cons_of_ne reached]
          exact inductionHypothesis

theorem find?_resubscribe_self {s : Subscription} (found : h.find? id = some s) :
    (h.resubscribe id now).find? id =
      some (subscribe h.settings h.backend h.generation s.feed.process now).1 := by
  have owner : (subscribe h.settings h.backend h.generation s.feed.process now).1.id = id :=
    (id_subscribe _ _ _ _ _).trans (mem_of_findIn found).2
  rw [resubscribe_of_some found]
  exact findIn_replace_self owner found

theorem find?_resubscribe_of_ne {other : Uuid} (different : other ≠ id) :
    (h.resubscribe id now).find? other = h.find? other := by
  cases found : h.find? id with
  | none => rw [resubscribe_of_none found]
  | some s =>
      have owner : (subscribe h.settings h.backend h.generation s.feed.process now).1.id = id :=
        (id_subscribe _ _ _ _ _).trans (mem_of_findIn found).2
      rw [resubscribe_of_some found]
      exact findIn_replace_of_ne owner different h.subscriptions

end Resubscribing

/-! ## The invariant -/

/-- No identifier is listed twice, every link leads to an endpoint of the
process that is listed with it, and no link is newer than the counter. -/
structure Sound (h : Hub) : Prop where
  nodup : h.ids.Nodup
  owned : ∀ s ∈ h.subscriptions, ∀ link, s.link = some link → link.endpoint.process = s.id
  bounded : ∀ s ∈ h.subscriptions, ∀ link, s.link = some link → link.generation ≤ h.generation

namespace Sound

variable {h : Hub}

theorem empty (settings : Settings) (backend : Backend) : (Hub.empty settings backend).Sound where
  nodup := List.nodup_nil
  owned := fun _s listed => absurd listed List.not_mem_nil
  bounded := fun _s listed => absurd listed List.not_mem_nil

theorem teardown (h : Hub) : h.teardown.Sound where
  nodup := List.nodup_nil
  owned := fun _s listed => absurd listed List.not_mem_nil
  bounded := fun _s listed => absurd listed List.not_mem_nil

/-- In a sound hub, to be listed is to be found. -/
theorem find?_of_mem (sound : h.Sound) {s : Subscription} (listed : s ∈ h.subscriptions) :
    h.find? s.id = some s :=
  (findIn_eq_some_iff sound.nodup).mpr ⟨listed, rfl⟩

theorem handle (sound : h.Sound) (e : Event) (now : Int) : (h.handle e now).1.Sound where
  nodup := by
    change ((deliver e now h.subscriptions).1.map Subscription.id).Nodup
    rw [map_id_deliver]
    exact sound.nodup
  owned := by
    intro t listed link linked
    rcases mem_deliver listed with same | ⟨s, member, received⟩
    · exact sound.owned t same link linked
    · rw [received] at linked ⊢
      rw [Subscription.id_receive]
      exact sound.owned s member link (Subscription.link_receive linked)
  bounded := by
    intro t listed link linked
    rcases mem_deliver listed with same | ⟨s, member, received⟩
    · exact sound.bounded t same link linked
    · rw [received] at linked
      exact sound.bounded s member link (Subscription.link_receive linked)

theorem handleAll (sound : h.Sound) (events : List (Event × Int)) :
    (h.handleAll events).1.Sound := by
  induction events generalizing h with
  | nil => exact sound
  | cons event rest inductionHypothesis => exact inductionHypothesis (sound.handle event.1 event.2)

/-- A subscription that was kept or opened owns its link, and the counter after
it bounds the link. -/
private theorem keepOrSubscribe (sound : h.Sound) {generation : Nat}
    (bound : h.generation ≤ generation) {p : Execution} {now : Int} {link : Link}
    (linked : (h.keepOrSubscribe generation p now).1.link = some link) :
    link.endpoint.process = p.id ∧
      link.generation ≤ (h.keepOrSubscribe generation p now).2 := by
  cases found : h.find? p.id with
  | none =>
      rw [keepOrSubscribe_of_none found] at linked ⊢
      rcases subscribe_link linked with ⟨resolved, next, after⟩
      rw [after, next]
      exact ⟨(Backend.resolve_eq_ok resolved).1, Nat.le_refl _⟩
  | some s =>
      rcases mem_of_findIn found with ⟨listed, named⟩
      rw [keepOrSubscribe_of_some found] at linked ⊢
      rw [← named]
      exact ⟨sound.owned s listed link linked,
        Nat.le_trans (sound.bounded s listed link linked) bound⟩

theorem sync (sound : h.Sound) (ps : List Execution) (now : Int) : (h.sync ps now).Sound where
  nodup := h.nodup_ids_sync ps now
  owned := by
    intro s listed link linked
    rcases mem_subscribeAll listed with ⟨p, _member, generation, bound, same, _upper⟩
    rw [same] at linked ⊢
    rw [id_keepOrSubscribe]
    exact (sound.keepOrSubscribe bound linked).1
  bounded := by
    intro s listed link linked
    rcases mem_subscribeAll listed with ⟨p, _member, generation, bound, same, upper⟩
    rw [same] at linked
    exact Nat.le_trans (sound.keepOrSubscribe bound linked).2 upper

theorem resubscribe (sound : h.Sound) (id : Uuid) (now : Int) :
    (h.resubscribe id now).Sound := by
  cases found : h.find? id with
  | none =>
      rw [resubscribe_of_none found]
      exact sound
  | some s =>
      have owner : (subscribe h.settings h.backend h.generation s.feed.process now).1.id = id :=
        (id_subscribe _ _ _ _ _).trans (mem_of_findIn found).2
      rw [resubscribe_of_some found]
      refine ⟨?_, ?_, ?_⟩
      · change (List.map Subscription.id (List.map _ h.subscriptions)).Nodup
        rw [map_id_replace owner]
        exact sound.nodup
      · intro t listed link linked
        rcases List.mem_map.mp listed with ⟨u, member, replaced⟩
        by_cases same : u.id = id
        · rw [if_pos same] at replaced
          rw [← replaced] at linked ⊢
          rw [id_subscribe]
          exact (Backend.resolve_eq_ok (subscribe_link linked).1).1
        · rw [if_neg same] at replaced
          rw [← replaced] at linked ⊢
          exact sound.owned u member link linked
      · intro t listed link linked
        rcases List.mem_map.mp listed with ⟨u, member, replaced⟩
        by_cases same : u.id = id
        · rw [if_pos same] at replaced
          rw [← replaced] at linked
          rcases subscribe_link linked with ⟨_resolved, next, after⟩
          exact Nat.le_of_eq (next.trans after.symm)
        · rw [if_neg same] at replaced
          rw [← replaced] at linked
          exact Nat.le_trans (sound.bounded u member link linked) (le_subscribe _ _ _ _ _)

end Sound

end Hub

end LiveLog
