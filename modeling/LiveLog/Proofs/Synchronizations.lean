import LiveLog.Proofs.HubRuns

namespace LiveLog

/-!
# What synchronizing and resubscribing come to

A synchronization walks over the distinct processes that are listed. Where all of them
are followed already it finds what it would leave, so doing it again does nothing. It
tries to connect to a process only if it gives the process a link that is newer than
the counter, which it does for those that are new and served somewhere.

A resubscription is a synchronization without the process and one with it. The
processes that a hub follows are the distinct ones of the list that was synchronized
last, whatever happened to their streams since. So in the first of the two
synchronizations all others are kept, and in the second the process is the only one
that is opened, at its old place among the others.
-/

namespace Hub

/-- The processes that are followed, each with its description. -/
def processes (h : Hub) : List Execution := h.subscriptions.map fun s => s.feed.process

section Listing

variable {ps : List Execution} {id : Uuid}

theorem id_of_first {q : Execution} (first : ps.find? (fun r => r.id = id) = some q) :
    q.id = id := by
  have selected := List.find?_some first
  exact of_decide_eq_true selected

/-- Of the processes with one identifier the first is the distinct one. -/
theorem find?_of_mem_distinct {p : Execution} (listed : p ∈ distinct ps) :
    ps.find? (fun q => q.id = p.id) = some p := by
  induction ps with
  | nil => cases listed
  | cons q ps inductionHypothesis =>
      rcases List.mem_cons.mp listed with first | later
      · rw [first]
        exact List.find?_cons_of_pos (decide_eq_true rfl)
      · rcases List.mem_filter.mp later with ⟨member, different⟩
        rw [List.find?_cons_of_neg]
        · exact inductionHypothesis member
        · intro same
          exact of_decide_eq_true different (of_decide_eq_true same).symm

theorem distinct_filter (ps : List Execution) (id : Uuid) :
    distinct (ps.filter fun q => q.id ≠ id) = (distinct ps).filter fun q => q.id ≠ id := by
  induction ps with
  | nil => rfl
  | cons q ps inductionHypothesis =>
      by_cases same : q.id = id
      · rw [List.filter_cons_of_neg (by simpa using same), inductionHypothesis, distinct,
          List.filter_cons_of_neg (by simpa using same), List.filter_filter, same]
        apply List.filter_congr
        intro r _listed
        exact (Bool.and_self _).symm
      · rw [List.filter_cons_of_pos (by simpa using same), distinct, inductionHypothesis, distinct,
          List.filter_cons_of_pos (by simpa using same), List.filter_filter, List.filter_filter]
        apply congrArg (q :: ·)
        apply List.filter_congr
        intro r _listed
        exact Bool.and_comm _ _

end Listing

/-! ## The processes of a hub -/

theorem process_keepOrSubscribe (h : Hub) (generation : Nat) (p : Execution) (now : Int) :
    (h.keepOrSubscribe generation p now).1.feed.process = p := by
  cases found : h.find? p.id with
  | some s =>
      rw [keepOrSubscribe_of_some found]
      rfl
  | none =>
      rcases feed_subscribe h.settings h.backend generation p now with ⟨error, feed⟩
      rw [keepOrSubscribe_of_none found, feed]
      rfl

theorem processes_sync (h : Hub) (ps : List Execution) (now : Int) :
    (h.sync ps now).processes = distinct ps := by
  change (h.subscribeAll now h.generation (distinct ps)).1.map (fun s => s.feed.process) = _
  generalize distinct ps = qs
  generalize h.generation = generation
  induction qs generalizing generation with
  | nil => rfl
  | cons q qs inductionHypothesis =>
      rw [subscribeAll_cons, List.map_cons, process_keepOrSubscribe, inductionHypothesis]

theorem processes_handleAll (h : Hub) (events : List (Event × Int)) :
    (h.handleAll events).1.processes = h.processes := by
  induction events generalizing h with
  | nil => rfl
  | cons event rest inductionHypothesis =>
      rw [handleAll_cons, inductionHypothesis]
      exact map_process_deliver event.1 event.2 h.subscriptions

theorem processes_resubscribe {h : Hub} (nodup : h.ids.Nodup) (id : Uuid) (now : Int) :
    (h.resubscribe id now).processes = h.processes := by
  cases found : h.find? id with
  | none => rw [resubscribe_of_none found]
  | some s =>
      rw [resubscribe_of_some found]
      unfold processes
      rw [List.map_map]
      apply List.map_congr_left
      intro t listed
      rw [Function.comp_apply]
      by_cases same : t.id = id
      · have equal : t = s := by
          have reached := (findIn_eq_some_iff nodup).mpr ⟨listed, same⟩
          exact Option.some.inj (reached.symm.trans found)
        rcases feed_subscribe h.settings h.backend h.generation s.feed.process now with
          ⟨error, feed⟩
        rw [if_pos same, feed, equal]
        rfl
      · rw [if_neg same]

/-! ## One synchronization -/

section Synchronizing

variable {h : Hub} {now : Int} {generation : Nat}

theorem subscribeAll_append (h : Hub) (now : Int) (generation : Nat) (ps qs : List Execution) :
    h.subscribeAll now generation (ps ++ qs) =
      ((h.subscribeAll now generation ps).1 ++
          (h.subscribeAll now (h.subscribeAll now generation ps).2 qs).1,
        (h.subscribeAll now (h.subscribeAll now generation ps).2 qs).2) := by
  induction ps generalizing generation with
  | nil => rfl
  | cons p ps inductionHypothesis =>
      rw [List.cons_append, subscribeAll_cons, inductionHypothesis, subscribeAll_cons]
      rfl

/-- Processes that are followed are left as they are. -/
theorem subscribeAll_of_followed {ss : List Subscription}
    (followed : ∀ s ∈ ss, h.find? s.id = some s) :
    h.subscribeAll now generation (ss.map fun s => s.feed.process) = (ss, generation) := by
  induction ss with
  | nil => rfl
  | cons s ss inductionHypothesis =>
      have kept : h.keepOrSubscribe generation s.feed.process now = (s, generation) :=
        keepOrSubscribe_of_some (followed s List.mem_cons_self)
      rw [List.map_cons, subscribeAll_cons, kept,
        inductionHypothesis fun t listed => followed t (List.mem_cons_of_mem s listed)]

/-- A synchronization with the processes that are followed does nothing. -/
theorem sync_of_processes {ps : List Execution} (nodup : h.ids.Nodup)
    (listed : h.processes = distinct ps) : h.sync ps now = h := by
  have nothing :
      h.subscribeAll now h.generation (distinct ps) = (h.subscriptions, h.generation) := by
    rw [← listed]
    exact subscribeAll_of_followed fun s member => (findIn_eq_some_iff nodup).mpr ⟨member, rfl⟩
  unfold sync
  rw [nothing]

theorem sync_sync (h : Hub) (ps : List Execution) (now later : Int) :
    (h.sync ps now).sync ps later = h.sync ps now :=
  sync_of_processes (h.nodup_ids_sync ps now) (h.processes_sync ps now)

/-- What a synchronization makes of a listed process: the one that was followed is
described anew, by the first of its descriptions, and one that was not is opened. -/
theorem find?_sync_first (h : Hub) {ps : List Execution} {id : Uuid} {q : Execution}
    (first : ps.find? (fun r => r.id = id) = some q) (now : Int) :
    ∃ generation, h.generation ≤ generation ∧
      (h.sync ps now).find? id = some (h.keepOrSubscribe generation q now).1 := by
  cases id_of_first first
  rcases h.find?_sync_of_mem (List.mem_of_find?_eq_some first) now with ⟨t, after⟩
  rcases mem_of_findIn after with ⟨listed, named⟩
  rcases mem_subscribeAll listed with ⟨p, member, generation, bound, same, _upper⟩
  have reached := find?_of_mem_distinct member
  rw [← id_keepOrSubscribe h generation p now, ← same, named, first] at reached
  cases reached
  exact ⟨generation, bound, after.trans (congrArg some same)⟩

theorem find?_sync_described {ps : List Execution} {id : Uuid} {q : Execution} {s : Subscription}
    (first : ps.find? (fun r => r.id = id) = some q) (found : h.find? id = some s) (now : Int) :
    (h.sync ps now).find? id = some (s.described q) := by
  rcases h.find?_sync_first first now with ⟨generation, _bound, after⟩
  rw [keepOrSubscribe_of_some (id_of_first first ▸ found)] at after
  exact after

theorem find?_sync_subscribed {ps : List Execution} {id : Uuid} {q : Execution}
    (first : ps.find? (fun r => r.id = id) = some q) (missing : h.find? id = none) (now : Int) :
    ∃ generation, h.generation ≤ generation ∧ (h.sync ps now).find? id =
      some (subscribe h.settings h.backend generation q now).1 := by
  rcases h.find?_sync_first first now with ⟨generation, bound, after⟩
  rw [keepOrSubscribe_of_none (id_of_first first ▸ missing)] at after
  exact ⟨generation, bound, after⟩

theorem find?_sync_eq_none_iff {ps : List Execution} {id : Uuid} :
    (h.sync ps now).find? id = none ↔ ∀ q ∈ ps, q.id ≠ id := by
  constructor
  · rintro missing q listed rfl
    rcases h.find?_sync_of_mem listed now with ⟨t, found⟩
    rw [missing] at found
    cases found
  · intro absent
    cases after : (h.sync ps now).find? id with
    | none => rfl
    | some t =>
        rcases find?_sync_listed after with ⟨q, listed, named⟩
        exact absurd named (absent q listed)

end Synchronizing

/-! ## A resubscription -/

/-- The hub without one of its processes. -/
def without (h : Hub) (id : Uuid) : Hub :=
  { h with subscriptions := h.subscriptions.filter fun t => t.id ≠ id }

section Resubscribing

variable {h : Hub} {ps : List Execution} {id : Uuid} {s : Subscription}

theorem find?_without_of_mem (nodup : h.ids.Nodup) {t : Subscription} (listed : t ∈ h.subscriptions)
    (other : t.id ≠ id) : (h.without id).find? t.id = some t := by
  refine (findIn_eq_some_iff ?_).mpr ⟨List.mem_filter.mpr ⟨listed, decide_eq_true other⟩, rfl⟩
  exact nodup.sublist (List.filter_sublist.map Subscription.id)

theorem find?_without_self (h : Hub) (id : Uuid) : (h.without id).find? id = none := by
  apply findIn_eq_none_iff.mpr
  intro listed
  rcases List.mem_map.mp listed with ⟨t, member, same⟩
  exact of_decide_eq_true (List.mem_filter.mp member).2 same

/-- A synchronization without a process of those that are followed only forgets it. -/
theorem sync_filter (nodup : h.ids.Nodup) (listed : h.processes = distinct ps) (id : Uuid)
    (now : Int) : h.sync (ps.filter fun q => q.id ≠ id) now = h.without id := by
  have remaining : distinct (ps.filter fun q => q.id ≠ id) =
      (h.subscriptions.filter fun t => t.id ≠ id).map fun t => t.feed.process := by
    rw [distinct_filter, ← listed, processes, List.filter_map]
    rfl
  have followed : ∀ t ∈ h.subscriptions.filter (fun t => t.id ≠ id), h.find? t.id = some t :=
    fun t member => (findIn_eq_some_iff nodup).mpr ⟨(List.mem_filter.mp member).1, rfl⟩
  unfold sync
  rw [remaining, subscribeAll_of_followed followed]
  rfl

section Split

variable {before after : List Subscription}

/-- The subscriptions around one of a hub are of other processes. -/
theorem ne_of_split (nodup : h.ids.Nodup) (split : h.subscriptions = before ++ s :: after) :
    ∀ t ∈ before ++ after, t.id ≠ s.id := by
  rw [ids, split, List.map_append, List.map_cons, List.nodup_middle, ← List.map_append] at nodup
  intro t shown same
  exact (List.nodup_cons.mp nodup).1 (List.mem_map.mpr ⟨t, shown, same⟩)

/-- What takes the place of a subscription stands between the same others. -/
theorem replace_of_split (others : ∀ t ∈ before ++ after, t.id ≠ s.id) (fresh : Subscription) :
    (before ++ s :: after).map (fun t => if t.id = s.id then fresh else t) =
      before ++ fresh :: after := by
  have kept {ss : List Subscription} (among : ss ⊆ before ++ after) :
      ss.map (fun t => if t.id = s.id then fresh else t) = ss := by
    rw [List.map_congr_left (g := fun t => t), List.map_id']
    intro t shown
    exact if_neg (others t (among shown))
  rw [List.map_append, List.map_cons, if_pos rfl, kept (List.subset_append_left before after),
    kept (List.subset_append_right before after)]

end Split

/-- A synchronization that gets the process back opens it at its old place. -/
theorem without_sync (nodup : h.ids.Nodup) (listed : h.processes = distinct ps)
    (found : h.find? id = some s) (now : Int) :
    (h.without id).sync ps now = h.resubscribe id now := by
  rcases mem_of_findIn found with ⟨member, rfl⟩
  rcases List.append_of_mem member with ⟨before, after, split⟩
  have others := ne_of_split nodup split
  have followed : ∀ t ∈ before ++ after, (h.without s.id).find? t.id = some t := by
    intro t shown
    apply find?_without_of_mem nodup _ (others t shown)
    rw [split]
    exact ((List.sublist_cons_self s after).append_left before).subset shown
  have missing : (h.without s.id).find? s.feed.process.id = none := h.find?_without_self s.id
  have parts : distinct ps = before.map (fun t => t.feed.process) ++
      s.feed.process :: after.map fun t => t.feed.process := by
    rw [← listed, processes, split, List.map_append, List.map_cons]
  rw [resubscribe_of_some found, split, replace_of_split others]
  unfold sync
  rw [parts, subscribeAll_append,
    subscribeAll_of_followed fun t shown => followed t (List.mem_append_left after shown),
    subscribeAll_cons, keepOrSubscribe_of_none missing,
    subscribeAll_of_followed fun t shown => followed t (List.mem_append_right before shown)]
  rfl

end Resubscribing

end Hub

namespace Loopback

/-- Each link that is opened is one attempt at its process. -/
theorem attemptsOf_connect_self {t : Loopback} {link : Link} {id : Uuid}
    (owner : link.endpoint.process = id) :
    (t.connect link).1.attemptsOf id = t.attemptsOf id + 1 := by
  subst owner
  cases refused : t.refusals.lookup link.endpoint.process with
  | some message =>
      rw [connect_of_refused refused, attemptsOf, Assoc.lookup_set_self, Option.getD_some]
  | none => rw [connect_of_accepted refused, attemptsOf, Assoc.lookup_set_self, Option.getD_some]

theorem attemptsOf_connectAll (t : Loopback) (links : List Link) (id : Uuid) :
    (t.connectAll links).1.attemptsOf id =
      t.attemptsOf id + (links.filter fun link => decide (link.endpoint.process = id)).length := by
  induction links generalizing t with
  | nil => rfl
  | cons link rest inductionHypothesis =>
      rw [connectAll_cons, inductionHypothesis]
      by_cases owner : link.endpoint.process = id
      · rw [attemptsOf_connect_self owner, List.filter_cons_of_pos (by simpa using owner),
          List.length_cons]
        omega
      · rw [attemptsOf_connect_other owner, List.filter_cons_of_neg (by simpa using owner)]

end Loopback

namespace Pipeline

variable {p : Pipeline} {h : Hub} {id : Uuid}

/-- The list that was synchronized last, after one more step. -/
def Step.synced (last : List Execution) : Step → List Execution
  | .sync ps => ps
  | _ => last

/-- The list that was synchronized last in some steps. -/
def lastSynced (steps : List Step) : List Execution := steps.foldl Step.synced []

/-- The hub follows nothing, or the distinct processes of a list. -/
def Lists (p : Pipeline) (ps : List Execution) : Prop :=
  p.hub.processes = [] ∨ p.hub.processes = Hub.distinct ps

/-- Whether a synchronization has to connect to a process: it is new, and the first of
its descriptions leads to an endpoint. -/
def connects (p : Pipeline) (ps : List Execution) (id : Uuid) : Bool :=
  match ps.find? fun q => q.id = id with
  | some q => (p.hub.find? id).isNone && (p.hub.backend.resolve q).isOk
  | none => false

/-- What a synchronization makes of a pipeline. -/
structure Synchronizes (p : Pipeline) (ps : List Execution) : Prop where
  /-- The processes are followed in the order in which they are first listed. -/
  processes : (p.sync ps).hub.processes = Hub.distinct ps
  forgotten : ∀ id, (p.sync ps).hub.find? id = none ↔ ∀ q ∈ ps, q.id ≠ id
  /-- Of a process that stays, the first description counts, and all else is kept. -/
  kept : ∀ id q s, ps.find? (fun r => r.id = id) = some q → p.hub.find? id = some s →
    (p.sync ps).hub.find? id = some (s.described q)
  opened : ∀ id q, ps.find? (fun r => r.id = id) = some q → p.hub.find? id = none →
    ∃ generation, p.hub.generation ≤ generation ∧ (p.sync ps).hub.find? id =
      some (Hub.subscribe p.hub.settings p.hub.backend generation q p.clock).1
  attempts : ∀ id, (p.sync ps).transport.attemptsOf id =
    p.transport.attemptsOf id + (p.connects ps id).toNat
  /-- The same synchronization does nothing the next time. -/
  again : ∀ now, ((p.sync ps).setClock now).sync ps = (p.sync ps).setClock now

/-! ## Attempts -/

theorem attemptsOf_adopt (sound : h.Sound) (id : Uuid) :
    (p.adopt h).transport.attemptsOf id = p.transport.attemptsOf id +
      ((h.link? id).toList.filter fun link =>
        decide (p.hub.generation < link.generation)).length := by
  rw [← opened_filter sound]
  exact p.transport.attemptsOf_connectAll _ id

/-- Going on with a hub that has no new links opens nothing. -/
theorem adopt_of_old (old : ∀ link ∈ h.links, link.generation ≤ p.hub.generation) :
    p.adopt h = { p with hub := h } := by
  have nothing : opened p.hub.generation h = [] := by
    unfold opened
    rw [List.filter_eq_nil_iff]
    intro link listed new
    exact Nat.not_lt_of_le (old link listed) (of_decide_eq_true new)
  unfold adopt
  rw [nothing]
  simp only [Loopback.connectAll, List.append_nil]

theorem attemptsOf_sync (sound : p.hub.Sound) (ps : List Execution) (id : Uuid) :
    (p.sync ps).transport.attemptsOf id =
      p.transport.attemptsOf id + (p.connects ps id).toNat := by
  unfold sync
  rw [attemptsOf_adopt (sound.sync ps p.clock)]
  apply congrArg
  unfold connects Hub.link?
  cases first : ps.find? fun q => q.id = id with
  | none =>
      have absent : ∀ q ∈ ps, q.id ≠ id := by
        simpa only [List.find?_eq_none, decide_eq_true_eq] using first
      rw [Hub.find?_sync_eq_none_iff.mpr absent]
      rfl
  | some q =>
      cases before : p.hub.find? id with
      | some s =>
          rw [Hub.find?_sync_described first before p.clock, Option.bind_some]
          change (s.link.toList.filter _).length = _
          cases linked : s.link with
          | none => rfl
          | some link =>
              have old := sound.bounded s (Hub.mem_of_findIn before).1 link linked
              rw [Option.toList_some, List.filter_cons_of_neg (by simpa using old)]
              rfl
      | none =>
          rcases Hub.find?_sync_subscribed first before p.clock with ⟨generation, bound, after⟩
          rw [after, Option.bind_some]
          cases resolved : p.hub.backend.resolve q with
          | error e =>
              simp only [Hub.subscribe, resolved]
              rfl
          | ok endpoint =>
              simp only [resolved]
              rw [Hub.subscribe_of_ok resolved, Option.toList_some, List.filter_cons_of_pos]
              · rfl
              · exact decide_eq_true (Nat.lt_succ_of_le bound)

theorem synchronizes (sound : p.hub.Sound) (ps : List Execution) : p.Synchronizes ps where
  processes := p.hub.processes_sync ps p.clock
  forgotten := fun _id => Hub.find?_sync_eq_none_iff
  kept := fun _id _q _s first found => Hub.find?_sync_described first found p.clock
  opened := fun _id _q first missing => Hub.find?_sync_subscribed first missing p.clock
  attempts := attemptsOf_sync sound ps
  again := by
    intro now
    change ((p.sync ps).setClock now).adopt ((p.hub.sync ps p.clock).sync ps now) = _
    rw [Hub.sync_sync]
    exact adopt_of_old fun link listed => (sound.sync ps p.clock).le_of_mem_links listed

/-! ## The list that was synchronized last -/

namespace Lists

variable {ps : List Execution}

theorem congr {q : Pipeline} (lists : p.Lists ps) (same : q.hub.processes = p.hub.processes) :
    q.Lists ps := by
  unfold Lists
  rw [same]
  exact lists

theorem perform (lists : p.Lists ps) (nodup : p.hub.ids.Nodup) (step : Step) :
    (p.perform step).1.Lists (step.synced ps) := by
  cases step with
  | sync qs => exact Or.inr (p.hub.processes_sync qs p.clock)
  | teardown => exact Or.inl rfl
  | setClock now => exact lists
  | refuseNext other message => exact lists
  | send other frame => exact lists.congr (congrArg Hub.processes (p.emit_hub other _))
  | fail other message => exact lists.congr (congrArg Hub.processes (p.emit_hub other _))
  | close other => exact lists.congr (congrArg Hub.processes (p.emit_hub other _))
  | resubscribe other => exact lists.congr (Hub.processes_resubscribe nodup other p.clock)
  | drain => exact lists.congr (p.hub.processes_handleAll _)
  | next =>
      rcases p.hub.next_eq p.clock p.queue with ⟨eaten, _parts, same⟩
      apply lists.congr
      rw [perform_next, ← p.hub.processes_handleAll (eaten.map fun e => (e, p.clock)), same]
      rfl

theorem run (lists : p.Lists ps) (orderly : p.Orderly) (steps : List Step) :
    (p.run steps).Lists (steps.foldl Step.synced ps) := by
  induction steps generalizing p ps with
  | nil => exact lists
  | cons step rest inductionHypothesis =>
      exact inductionHypothesis (lists.perform orderly.sound.nodup step) (orderly.perform step)

end Lists

/-! ## Resubscribing -/

theorem resubscribe_of_not_followed (sound : p.hub.Sound) (missing : p.hub.find? id = none) :
    p.resubscribe id = (p, false) := by
  unfold resubscribe
  rw [Hub.resubscribe_of_none missing, missing,
    adopt_of_old fun link listed => sound.le_of_mem_links listed]
  rfl

/-- A process that is followed is resubscribed by a synchronization that leaves it out
and one that gets it back. -/
theorem resubscribe_eq_sync_sync {ps : List Execution} (sound : p.hub.Sound) (lists : p.Lists ps)
    (followed : (p.hub.find? id).isSome = true) :
    p.resubscribe id = ((p.sync (ps.filter fun q => q.id ≠ id)).sync ps, true) := by
  rcases Option.isSome_iff_exists.mp followed with ⟨s, found⟩
  have listed : p.hub.processes = Hub.distinct ps := by
    rcases lists with none | all
    · have empty : p.hub.subscriptions = [] := List.map_eq_nil_iff.mp none
      have member := (Hub.mem_of_findIn found).1
      rw [empty] at member
      cases member
    · exact all
  have left : p.sync (ps.filter fun q => q.id ≠ id) = { p with hub := p.hub.without id } := by
    unfold sync
    rw [Hub.sync_filter sound.nodup listed]
    apply adopt_of_old
    intro link member
    rcases List.mem_filterMap.mp member with ⟨t, kept, linked⟩
    exact sound.bounded t (List.mem_filter.mp kept).1 link linked
  rw [left, resubscribe, ← Hub.without_sync sound.nodup listed found, followed]
  rfl

/-- In every state of a pipeline, and for every list: a synchronization follows exactly
the processes that are listed, keeps what is known of those that stay, tries exactly
once to connect to those that are new and served somewhere, and does nothing when it is
done again. To resubscribe a process that is followed is to synchronize the last list
without it and then the last list itself; to resubscribe any other does nothing. -/
theorem sync_and_resubscribe_exact (settings : Settings) (backend : Backend) (grouped : Bool)
    (now : Int) (steps : List Step) :
    let p := (start settings backend grouped now).run steps
    (∀ ps, p.Synchronizes ps) ∧ ∀ id,
      ((p.hub.find? id).isSome = true → p.resubscribe id =
        ((p.sync ((lastSynced steps).filter fun q => q.id ≠ id)).sync (lastSynced steps), true)) ∧
      ((p.hub.find? id).isSome = false → p.resubscribe id = (p, false)) := by
  intro p
  have started : (start settings backend grouped now).Orderly :=
    Orderly.start settings backend grouped now
  have sound : p.hub.Sound := (started.run steps).sound
  have lists : p.Lists (lastSynced steps) := Lists.run (Or.inl rfl) started steps
  refine ⟨p.synchronizes sound, ?_⟩
  intro id
  refine ⟨resubscribe_eq_sync_sync sound lists, ?_⟩
  intro missing
  exact resubscribe_of_not_followed sound
    (Option.isNone_iff_eq_none.mp (Option.isSome_eq_false_iff.mp missing))

/-- A script has finished and is listed twice, an agent is not listed any more, and a
new script is listed twice. -/
theorem synchronized_with_repeats :
    let backend := Backend.atHost "b"
    let script : Execution := ⟨default, .setupScript, .running, false⟩
    let agent : Execution := ⟨⟨List.replicate 32 1, by decide⟩, .codingAgent, .running, false⟩
    let other : Execution := ⟨⟨List.replicate 32 2, by decide⟩, .setupScript, .running, false⟩
    let steps : List Step :=
      [.sync [script, agent, script], .send script.id (.event "finished" ""), .drain]
    let p := (start Settings.default backend true 0).run steps
    let ps := [other, { script with status := .completed }, other, script]
    let q := p.sync ps
    (q.hub.subscriptions.map fun s => (s.feed.process, s.feed.isFinished, s.generation?)) =
        [(other, false, some 3), ({ script with status := .completed }, true, none)] ∧
      [script.id, agent.id, other.id].map q.transport.attemptsOf = [1, 1, 1] ∧
      (q.setClock 5).sync ps = q.setClock 5 ∧ p.Synchronizes ps ∧
      p.resubscribe script.id = ((p.sync [agent]).sync [script, agent, script], true) ∧
      p.resubscribe other.id = (p, false) := by
  intro backend script agent other steps p ps q
  rcases sync_and_resubscribe_exact Settings.default backend true 0 steps with ⟨exactly, again⟩
  have only : (lastSynced steps).filter (fun q => q.id ≠ script.id) = [agent] := by decide +kernel
  have anew := (again script.id).1 (by decide +kernel)
  rw [only] at anew
  exact ⟨by decide +kernel, by decide +kernel, (exactly ps).again 5, exactly ps, anew,
    (again other.id).2 (by decide +kernel)⟩

end Pipeline

end LiveLog
