import LiveLog.Proofs.Subscriptions
import Mathlib.Data.List.Nodup

namespace LiveLog

/-!
# Generations over a whole run

A run of a hub is any sequence of its operations, with any events in between.
Its history lists the connections that were opened on the way, in order. The
generation counter is a natural number, so it never wraps around.

What is carried along a run is the relation between the hub and its history:
each registered link is a connection of the history, no connection is newer
than the counter, and no two of them bear the same generation. Tearing a hub
down, or forgetting a process, takes links away but never takes the counter
back. A closed connection can therefore not be mistaken for a later one of the
same process, and what it still reports changes nothing.
-/

namespace Link

/-- A report of the connection behind a link. -/
def event (link : Link) (signal : Signal) : Event :=
  ⟨link.endpoint.process, link.generation, signal⟩

end Link

namespace Hub

/-- What can happen to a hub. Following nothing at all is `teardown`. -/
inductive Action
  | sync (ps : List Execution) (now : Int)
  | resubscribe (id : Uuid) (now : Int)
  | teardown
  | handle (e : Event) (now : Int)

/-- The hub after an action. -/
def perform (h : Hub) : Action → Hub
  | .sync ps now => h.sync ps now
  | .resubscribe id now => h.resubscribe id now
  | .teardown => h.teardown
  | .handle e now => (h.handle e now).1

/-- The hub after some actions. -/
def run (h : Hub) (actions : List Action) : Hub := actions.foldl perform h

/-- The links of the processes that are followed now and were not before. -/
def newcomers (h : Hub) (ss : List Subscription) : List Link :=
  (ss.filter fun s => (h.find? s.id).isNone).filterMap Subscription.link

/-- The connections that an action opens, in order: those of the processes that
a synchronization adds, and the one of a process that is resubscribed. -/
def openings (h : Hub) : Action → List Link
  | .sync ps now => h.newcomers (h.sync ps now).subscriptions
  | .resubscribe id now =>
    if (h.find? id).isSome then
      (((h.resubscribe id now).find? id).bind Subscription.link).toList
    else []
  | .teardown => []
  | .handle _ _ => []

/-- The connections that some actions open, in order. -/
def history (h : Hub) : List Action → List Link
  | [] => []
  | action :: rest => h.openings action ++ (h.perform action).history rest

/-- Whether a connection is the registered one of its process. -/
def Registers (h : Hub) (link : Link) : Prop :=
  ∃ s, h.find? link.endpoint.process = some s ∧ s.link = some link

instance (h : Hub) (link : Link) : Decidable (h.Registers link) :=
  decidable_of_iff ((h.find? link.endpoint.process).bind Subscription.link = some link)
    Option.bind_eq_some_iff

/-- What is known of a hub and of the connections that were opened so far. -/
structure Remembers (h : Hub) (past : List Link) : Prop where
  sound : h.Sound
  registered : ∀ s ∈ h.subscriptions, ∀ link, s.link = some link → link ∈ past
  bounded : ∀ link ∈ past, link.generation ≤ h.generation
  nodup : (past.map Link.generation).Nodup

/-! ## The connections that one action opens -/

theorem newcomers_cons_of_some {h : Hub} {s t : Subscription} (found : h.find? s.id = some t)
    (rest : List Subscription) : h.newcomers (s :: rest) = h.newcomers rest := by
  simp only [newcomers, List.filter_cons, found, Option.isNone_some, Bool.false_eq_true, if_false]

theorem newcomers_cons_of_none {h : Hub} {s : Subscription} (missing : h.find? s.id = none)
    (rest : List Subscription) :
    h.newcomers (s :: rest) = s.link.toList ++ h.newcomers rest := by
  simp only [newcomers, List.filter_cons, missing, Option.isNone_none, if_true]
  cases linked : s.link with
  | none => exact List.filterMap_cons_none linked
  | some link => exact List.filterMap_cons_some linked

/-- The newcomers of a synchronization have increasing generations, all between
the values of the counter before and after it. -/
theorem newcomers_subscribeAll (h : Hub) (now : Int) (generation : Nat) (ps : List Execution) :
    (∀ link ∈ h.newcomers (h.subscribeAll now generation ps).1,
        generation < link.generation ∧ link.generation ≤ (h.subscribeAll now generation ps).2) ∧
      ((h.newcomers (h.subscribeAll now generation ps).1).map Link.generation).Pairwise (· < ·) := by
  induction ps generalizing generation with
  | nil => exact ⟨fun link listed => absurd listed List.not_mem_nil, List.Pairwise.nil⟩
  | cons p ps inductionHypothesis =>
      rcases inductionHypothesis (h.keepOrSubscribe generation p now).2 with ⟨within, increasing⟩
      have owner := h.id_keepOrSubscribe generation p now
      rw [subscribeAll_cons]
      cases found : h.find? p.id with
      | some s =>
          rw [newcomers_cons_of_some (owner.symm ▸ found)]
          rw [keepOrSubscribe_of_some found] at within increasing ⊢
          exact ⟨within, increasing⟩
      | none =>
          rw [newcomers_cons_of_none (owner.symm ▸ found)]
          rw [keepOrSubscribe_of_none found] at within increasing ⊢
          have before := le_subscribe h.settings h.backend generation p now
          cases linked : (subscribe h.settings h.backend generation p now).1.link with
          | none =>
              refine ⟨?_, increasing⟩
              intro link listed
              exact ⟨Nat.lt_of_le_of_lt before (within link listed).1, (within link listed).2⟩
          | some link =>
              rcases subscribe_link linked with ⟨_resolved, next, after⟩
              have upper := h.le_subscribeAll now (generation + 1) ps
              rw [after] at within increasing ⊢
              refine ⟨?_, List.pairwise_cons.mpr ⟨?_, increasing⟩⟩
              · intro other listed
                rcases List.mem_cons.mp listed with first | later
                · rw [first, next]
                  exact ⟨Nat.lt_succ_self generation, upper⟩
                · exact ⟨Nat.lt_trans (Nat.lt_succ_self generation) (within other later).1,
                    (within other later).2⟩
              · intro number listed
                rcases List.mem_map.mp listed with ⟨other, member, same⟩
                rw [← same, next]
                exact (within other member).1

/-- A registered link is a connection of the past, or one that is opened now. -/
theorem mem_openings_of_sync {h : Hub} {ps : List Execution} {now : Int} {s : Subscription}
    (sound : h.Sound) (listed : s ∈ (h.sync ps now).subscriptions) {link : Link}
    (linked : s.link = some link) :
    (∃ t ∈ h.subscriptions, t.link = some link) ∨ link ∈ h.openings (.sync ps now) := by
  have after : (h.sync ps now).find? s.id = some s := (sound.sync ps now).find?_of_mem listed
  cases before : h.find? s.id with
  | some t =>
      rcases find?_sync_of_some before after with ⟨p, _owner, same⟩
      refine Or.inl ⟨t, (mem_of_findIn before).1, ?_⟩
      rw [same] at linked
      exact linked
  | none =>
      refine Or.inr (List.mem_filterMap.mpr ⟨s, ?_, linked⟩)
      refine List.mem_filter.mpr ⟨listed, ?_⟩
      rw [before]
      rfl

/-- The connection that a resubscription opens is the next one. -/
theorem openings_resubscribe {h : Hub} {id : Uuid} {now : Int} {s : Subscription}
    (found : h.find? id = some s) :
    h.openings (.resubscribe id now) =
      (subscribe h.settings h.backend h.generation s.feed.process now).1.link.toList := by
  simp only [openings, found, Option.isSome_some, if_true, find?_resubscribe_self found,
    Option.bind_some]

/-- Whatever an action opens is newer than the counter was, the counter covers
it, and no two of its connections bear the same generation. -/
theorem openings_generation (h : Hub) (action : Action) :
    (∀ link ∈ h.openings action,
        h.generation < link.generation ∧ link.generation ≤ (h.perform action).generation) ∧
      ((h.openings action).map Link.generation).Nodup := by
  cases action with
  | sync ps now =>
      rcases h.newcomers_subscribeAll now h.generation (distinct ps) with ⟨within, increasing⟩
      exact ⟨within, increasing.imp fun less => Nat.ne_of_lt less⟩
  | resubscribe id now =>
      cases found : h.find? id with
      | none =>
          have nothing : h.openings (.resubscribe id now) = [] := by
            simp only [openings, found, Option.isSome_none, Bool.false_eq_true, if_false]
          rw [nothing]
          exact ⟨fun link listed => absurd listed List.not_mem_nil, List.nodup_nil⟩
      | some s =>
          rw [openings_resubscribe found]
          have counted : (h.perform (.resubscribe id now)).generation =
              (subscribe h.settings h.backend h.generation s.feed.process now).2 := by
            change (h.resubscribe id now).generation = _
            rw [resubscribe_of_some found]
          cases linked : (subscribe h.settings h.backend h.generation s.feed.process now).1.link with
          | none => exact ⟨fun link listed => absurd listed List.not_mem_nil, List.nodup_nil⟩
          | some link =>
              rcases subscribe_link linked with ⟨_resolved, next, after⟩
              rw [counted, after]
              refine ⟨?_, List.nodup_singleton _⟩
              intro other listed
              rw [List.mem_singleton.mp listed, next]
              exact ⟨Nat.lt_succ_self _, Nat.le_refl _⟩
  | teardown => exact ⟨fun link listed => absurd listed List.not_mem_nil, List.nodup_nil⟩
  | handle e now => exact ⟨fun link listed => absurd listed List.not_mem_nil, List.nodup_nil⟩

/-! ## The invariant over a run -/

namespace Remembers

variable {h : Hub} {past : List Link}

theorem empty (settings : Settings) (backend : Backend) :
    (Hub.empty settings backend).Remembers [] where
  sound := Sound.empty settings backend
  registered := fun _s listed => absurd listed List.not_mem_nil
  bounded := fun _link listed => absurd listed List.not_mem_nil
  nodup := List.nodup_nil

/-- Every action keeps the hub sound. -/
theorem sound_perform (sound : h.Sound) (action : Action) : (h.perform action).Sound := by
  cases action with
  | sync ps now => exact sound.sync ps now
  | resubscribe id now => exact sound.resubscribe id now
  | teardown => exact Sound.teardown h
  | handle e now => exact sound.handle e now

/-- Every link that is registered after an action was registered before it, or
is opened by it. -/
theorem registered_perform (sound : h.Sound) (action : Action) {s : Subscription}
    (listed : s ∈ (h.perform action).subscriptions) {link : Link} (linked : s.link = some link) :
    (∃ t ∈ h.subscriptions, t.link = some link) ∨ link ∈ h.openings action := by
  cases action with
  | sync ps now => exact mem_openings_of_sync sound listed linked
  | teardown => cases listed
  | handle e now =>
      rcases mem_deliver listed with same | ⟨t, member, received⟩
      · exact Or.inl ⟨s, same, linked⟩
      · rw [received] at linked
        exact Or.inl ⟨t, member, Subscription.link_receive linked⟩
  | resubscribe id now =>
      change s ∈ (h.resubscribe id now).subscriptions at listed
      cases found : h.find? id with
      | none =>
          rw [resubscribe_of_none found] at listed
          exact Or.inl ⟨s, listed, linked⟩
      | some t =>
          rw [openings_resubscribe found]
          rw [resubscribe_of_some found] at listed
          rcases List.mem_map.mp listed with ⟨u, member, replaced⟩
          by_cases same : u.id = id
          · rw [if_pos same] at replaced
            rw [replaced, linked]
            exact Or.inr (List.mem_singleton.mpr rfl)
          · rw [if_neg same] at replaced
            rw [replaced] at member
            exact Or.inl ⟨s, member, linked⟩

/-- The counter never goes back. -/
theorem le_generation_perform (h : Hub) (action : Action) :
    h.generation ≤ (h.perform action).generation := by
  cases action with
  | sync ps now => exact h.le_generation_sync ps now
  | resubscribe id now => exact h.le_generation_resubscribe id now
  | teardown => exact Nat.le_refl _
  | handle e now => exact Nat.le_refl _

theorem perform (remembers : h.Remembers past) (action : Action) :
    (h.perform action).Remembers (past ++ h.openings action) := by
  rcases h.openings_generation action with ⟨within, distinct⟩
  refine ⟨sound_perform remembers.sound action, ?_, ?_, ?_⟩
  · intro s listed link linked
    rcases registered_perform remembers.sound action listed linked with ⟨t, member, same⟩ | opened
    · exact List.mem_append_left _ (remembers.registered t member link same)
    · exact List.mem_append_right _ opened
  · intro link listed
    rcases List.mem_append.mp listed with old | opened
    · exact Nat.le_trans (remembers.bounded link old) (le_generation_perform h action)
    · exact (within link opened).2
  · rw [List.map_append, List.nodup_append]
    refine ⟨remembers.nodup, distinct, ?_⟩
    intro number oldNumber other newNumber
    rcases List.mem_map.mp oldNumber with ⟨old, oldListed, oldSame⟩
    rcases List.mem_map.mp newNumber with ⟨opened, newListed, newSame⟩
    have lower := remembers.bounded old oldListed
    have upper := (within opened newListed).1
    rw [← oldSame, ← newSame]
    exact Nat.ne_of_lt (Nat.lt_of_le_of_lt lower upper)

theorem run (remembers : h.Remembers past) (actions : List Action) :
    (h.run actions).Remembers (past ++ h.history actions) := by
  induction actions generalizing h past with
  | nil =>
      rw [history, List.append_nil]
      exact remembers
  | cons action rest inductionHypothesis =>
      rw [history, ← List.append_assoc]
      exact inductionHypothesis (remembers.perform action)

/-- Two connections of the past with the same generation are the same. -/
theorem eq_of_generation (remembers : h.Remembers past) {first second : Link}
    (firstListed : first ∈ past) (secondListed : second ∈ past)
    (same : first.generation = second.generation) : first = second :=
  List.inj_on_of_nodup_map remembers.nodup firstListed secondListed same

/-- An event of a connection of the past that is not registered any more is
accepted by nobody. -/
theorem not_accepted (remembers : h.Remembers past) {link : Link} (opened : link ∈ past)
    (closed : ¬ h.Registers link) (signal : Signal) :
    ∀ s ∈ h.subscriptions, s.accepts (link.event signal) = false := by
  intro s listed
  rw [Bool.eq_false_iff]
  intro accepted
  rcases (s.accepts_eq_true_iff _).mp accepted with ⟨owner, generation⟩
  cases linked : s.link with
  | none =>
      rw [Subscription.generation?, linked] at generation
      cases generation
  | some other =>
      rw [Subscription.generation?, linked] at generation
      have equal : other = link :=
        remembers.eq_of_generation (remembers.registered s listed other linked) opened
          (Option.some.inj generation)
      apply closed
      refine ⟨s, ?_, linked.trans (congrArg some equal)⟩
      change h.find? (link.event signal).process = some s
      rw [← owner]
      exact remembers.sound.find?_of_mem listed

end Remembers

/-- Over any run, no two connections bear the same generation. What a connection
reports when it is not the registered one of its process any more reports no
change and leaves the whole hub as it is. -/
theorem late_events_ignored (settings : Settings) (backend : Backend) (actions : List Action) :
    (((empty settings backend).history actions).map Link.generation).Nodup ∧
      ∀ link ∈ (empty settings backend).history actions,
        ¬ ((empty settings backend).run actions).Registers link →
          ∀ (signal : Signal) (now : Int),
            ((empty settings backend).run actions).handle (link.event signal) now =
              ((empty settings backend).run actions, none) := by
  have remembers := (Remembers.empty settings backend).run actions
  rw [List.nil_append] at remembers
  refine ⟨remembers.nodup, ?_⟩
  intro link opened closed signal now
  have refused := remembers.not_accepted opened closed signal
  unfold handle
  rw [deliver_of_not_accepted refused]
  rfl

/-- A process is resubscribed, forgotten and followed again. The end of its
first connection arrives last, and the third connection does not notice. -/
theorem first_connection_ends_late :
    let backend := Backend.atHost "b"
    let agent : Execution := ⟨default, .codingAgent, .running, false⟩
    let actions : List Action :=
      [.sync [agent] 0, .resubscribe agent.id 1, .teardown, .sync [agent] 2]
    let past := (empty Settings.default backend).history actions
    let h := (empty Settings.default backend).run actions
    ∃ first third : Fin past.length, h.Registers (past.get third) ∧
      ¬ h.Registers (past.get first) ∧
      h.handle ((past.get first).event .ended) 3 = (h, none) := by
  intro backend agent actions past h
  have registered : h.Registers (past.get ⟨2, by decide +kernel⟩) := by decide +kernel
  have closed : ¬ h.Registers (past.get ⟨0, by decide +kernel⟩) := by decide +kernel
  exact ⟨_, _, registered, closed,
    (late_events_ignored Settings.default backend actions).2 _ (List.get_mem past _) closed
      .ended 3⟩

end Hub

end LiveLog
