import LiveLog.Follower
import LiveLog.Proofs.Gathering
import LiveLog.Proofs.MergedEntries
import LiveLog.Proofs.Subscriptions

namespace LiveLog

/-!
# What a follower presents

A follower presents the log of its hub after every change, and once more at the
end. The hubs that are presented are the moments of a run. All the printer ever sees
of a run are the views of its moments, so what is printed is what the printer makes
of these.

At every moment the hub follows the processes that were asked for and no others. Of
each process the hub of a later moment has the same description, and its lines are
those of the earlier moment with more lines given to them. In every view no
identifier is shown twice.
-/

namespace Feed

/-- What a feed can become when signals are taken. -/
structure Precedes (f g : Feed) : Prop where
  process : g.process = f.process
  lines : f.lines.Extends g.lines

namespace Precedes

variable {f g i : Feed}

theorem refl (f : Feed) : f.Precedes f := ⟨rfl, LineBuffer.Extends.refl f.lines⟩

theorem trans (first : f.Precedes g) (second : g.Precedes i) : f.Precedes i :=
  ⟨second.process.trans first.process, first.lines.trans second.lines⟩

theorem kind (precedes : f.Precedes g) : g.kind = f.kind :=
  congrArg Execution.kind precedes.process

theorem after (f : Feed) (s : Signal) (now : Int) : f.Precedes (f.after s now) :=
  ⟨f.process_after s now, f.extends_after s now⟩

end Precedes

end Feed

namespace Subscription

/-- The feed of a subscription takes the signal of an event, or stays as it is. -/
theorem feed_receive (s : Subscription) (e : Event) (now : Int) :
    (s.receive e now).feed = s.feed.after e.signal now ∨ (s.receive e now).feed = s.feed := by
  cases accepted : s.accepts e with
  | true =>
      rw [receive_of_accepts now accepted]
      exact Or.inl rfl
  | false =>
      rw [receive_of_not_accepts now accepted]
      exact Or.inr rfl

theorem precedes_receive (s : Subscription) (e : Event) (now : Int) :
    s.feed.Precedes (s.receive e now).feed := by
  rcases s.feed_receive e now with took | stayed
  · rw [took]
    exact Feed.Precedes.after s.feed e.signal now
  · rw [stayed]
    exact Feed.Precedes.refl s.feed

end Subscription

namespace Hub

/-- The hubs whose logs are presented while events are applied: one after each
change, and the last one when the log is complete. -/
def moments (h : Hub) : List (Event × Int) → List (Hub × Bool)
  | [] => [(h, true)]
  | (e, now) :: rest =>
    match h.handle e now with
    | (h', none) => h'.moments rest
    | (h', some _) => (h', false) :: h'.moments rest

section Moments

variable {h : Hub} {events : List (Event × Int)}

theorem moments_cons_of_ignored {e : Event} {now : Int} (ignored : (h.handle e now).2 = none)
    (rest : List (Event × Int)) :
    h.moments ((e, now) :: rest) = (h.handle e now).1.moments rest := by
  rcases handled : h.handle e now with ⟨h', update⟩
  rw [handled] at ignored
  change update = none at ignored
  rw [moments, handled, ignored]

theorem moments_cons_of_changed {e : Event} {now : Int} {u : Update}
    (changed : (h.handle e now).2 = some u) (rest : List (Event × Int)) :
    h.moments ((e, now) :: rest) =
      ((h.handle e now).1, false) :: (h.handle e now).1.moments rest := by
  rcases handled : h.handle e now with ⟨h', update⟩
  rw [handled] at changed
  change update = some u at changed
  rw [moments, handled, changed]

/-- What every event keeps holds at every moment. -/
theorem forall_moments {P : Hub → Prop} (start : P h)
    (kept : ∀ h e now, P h → P (h.handle e now).1) : ∀ m ∈ h.moments events, P m.1 := by
  induction events generalizing h with
  | nil =>
      intro m listed
      rw [List.mem_singleton.mp listed]
      exact start
  | cons event rest inductionHypothesis =>
      rcases event with ⟨e, now⟩
      have later := inductionHypothesis (kept h e now start)
      cases reported : (h.handle e now).2 with
      | none =>
          rw [moments_cons_of_ignored reported]
          exact later
      | some u =>
          rw [moments_cons_of_changed reported]
          exact List.forall_mem_cons.mpr ⟨kept h e now start, later⟩

/-- The last moment, and only this one, shows a complete log. -/
theorem moments_eq (h : Hub) (events : List (Event × Int)) :
    ∃ earlier, h.moments events = earlier ++ [((h.handleAll events).1, true)] ∧
      ∀ m ∈ earlier, m.2 = false := by
  induction events generalizing h with
  | nil => exact ⟨[], rfl, fun m listed => absurd listed List.not_mem_nil⟩
  | cons event rest inductionHypothesis =>
      rcases event with ⟨e, now⟩
      rcases inductionHypothesis (h.handle e now).1 with ⟨earlier, split, growing⟩
      rw [handleAll_cons]
      cases reported : (h.handle e now).2 with
      | none =>
          rw [moments_cons_of_ignored reported]
          exact ⟨earlier, split, growing⟩
      | some u =>
          rw [moments_cons_of_changed reported, split]
          exact ⟨((h.handle e now).1, false) :: earlier, rfl,
            List.forall_mem_cons.mpr ⟨rfl, growing⟩⟩

end Moments

/-! ## Moments in order -/

/-- Every feed of a hub goes on from a feed of an earlier one. -/
def Precedes (h h' : Hub) : Prop :=
  ∀ t ∈ h'.subscriptions, ∃ s ∈ h.subscriptions, s.feed.Precedes t.feed

namespace Precedes

variable {h h' h'' : Hub}

theorem refl (h : Hub) : h.Precedes h := fun s listed => ⟨s, listed, Feed.Precedes.refl s.feed⟩

theorem trans (first : h.Precedes h') (second : h'.Precedes h'') : h.Precedes h'' := by
  intro u listed
  rcases second u listed with ⟨t, member, later⟩
  rcases first t member with ⟨s, subscribed, earlier⟩
  exact ⟨s, subscribed, earlier.trans later⟩

theorem handle (h : Hub) (e : Event) (now : Int) : h.Precedes (h.handle e now).1 := by
  intro t listed
  rcases mem_deliver listed with same | ⟨s, member, received⟩
  · exact ⟨t, same, Feed.Precedes.refl t.feed⟩
  · refine ⟨s, member, ?_⟩
    rw [received]
    exact s.precedes_receive e now

end Precedes

theorem precedes_of_mem_moments {h : Hub} {events : List (Event × Int)} :
    ∀ m ∈ h.moments events, h.Precedes m.1 :=
  forall_moments (Precedes.refl h) fun g e now before => before.trans (Precedes.handle g e now)

theorem pairwise_moments (h : Hub) (events : List (Event × Int)) :
    (h.moments events).Pairwise fun m n => m.1.Precedes n.1 := by
  induction events generalizing h with
  | nil => exact List.pairwise_singleton _ _
  | cons event rest inductionHypothesis =>
      rcases event with ⟨e, now⟩
      cases reported : (h.handle e now).2 with
      | none =>
          rw [moments_cons_of_ignored reported]
          exact inductionHypothesis (h.handle e now).1
      | some u =>
          rw [moments_cons_of_changed reported]
          exact List.pairwise_cons.mpr
            ⟨precedes_of_mem_moments, inductionHypothesis (h.handle e now).1⟩

/-! ## The processes that are followed -/

/-- A hub follows the processes that were asked for, and what it knows of them is
in order. -/
structure Follows (h : Hub) (ps : List Execution) : Prop where
  processes : (h.subscriptions.map fun s => s.feed.process) = distinct ps
  inOrder : ∀ s ∈ h.subscriptions, s.feed.InOrder

theorem map_process_deliver (e : Event) (now : Int) (ss : List Subscription) :
    ((deliver e now ss).1.map fun s => s.feed.process) = ss.map fun s => s.feed.process := by
  induction ss with
  | nil => rfl
  | cons s rest inductionHypothesis =>
      unfold deliver
      split
      · rw [List.map_cons, List.map_cons, s.process_take]
      · rw [List.map_cons, List.map_cons, inductionHypothesis]

theorem feed_subscribe (settings : Settings) (backend : Backend) (generation : Nat) (p : Execution)
    (now : Int) : ∃ error, (subscribe settings backend generation p now).1.feed =
      { Feed.fresh settings p now with error := error } := by
  unfold subscribe
  cases backend.resolve p with
  | ok endpoint => exact ⟨none, rfl⟩
  | error e => exact ⟨some (Signal.failure (Backend.refusal e)), rfl⟩

/-- The feed of a process that is followed from the start on. -/
theorem feed_of_mem_start {settings : Settings} {backend : Backend} {ps : List Execution}
    {now : Int} {s : Subscription}
    (listed : s ∈ ((Hub.empty settings backend).sync ps now).subscriptions) :
    ∃ p error, s.feed = { Feed.fresh settings p now with error := error } := by
  rcases mem_subscribeAll listed with ⟨p, _member, generation, _bound, made, _upper⟩
  rcases feed_subscribe settings backend generation p now with ⟨error, feed⟩
  refine ⟨p, error, ?_⟩
  rw [made]
  exact feed

namespace Follows

variable {h : Hub} {ps : List Execution}

theorem start (settings : Settings) (backend : Backend) (ps : List Execution) (now : Int) :
    ((Hub.empty settings backend).sync ps now).Follows ps where
  processes := by
    change (((Hub.empty settings backend).subscribeAll now 0 (distinct ps)).1.map
      fun s => s.feed.process) = distinct ps
    generalize distinct ps = qs
    generalize 0 = generation
    induction qs generalizing generation with
    | nil => rfl
    | cons q qs inductionHypothesis =>
        rcases feed_subscribe settings backend generation q now with ⟨error, feed⟩
        rw [subscribeAll_cons, List.map_cons, inductionHypothesis]
        exact congrArg (· :: qs) (congrArg Feed.process feed)
  inOrder := by
    intro s listed
    rcases feed_of_mem_start listed with ⟨p, error, feed⟩
    rw [feed]
    exact ⟨LineBuffer.InOrder.empty settings, List.Pairwise.nil⟩

theorem handle (follows : h.Follows ps) (e : Event) (now : Int) :
    (h.handle e now).1.Follows ps where
  processes := (map_process_deliver e now h.subscriptions).trans follows.processes
  inOrder := by
    intro t listed
    rcases mem_deliver listed with same | ⟨s, member, received⟩
    · exact follows.inOrder t same
    · rw [received]
      rcases s.feed_receive e now with took | stayed
      · rw [took]
        exact (follows.inOrder s member).after e.signal now
      · rw [stayed]
        exact follows.inOrder s member

theorem moments (follows : h.Follows ps) {events : List (Event × Int)} :
    ∀ m ∈ h.moments events, m.1.Follows ps :=
  forall_moments (P := fun g => g.Follows ps) follows fun _ e now before => before.handle e now

theorem nodup_ids (follows : h.Follows ps) : h.ids.Nodup := by
  have ids : h.ids = (h.subscriptions.map fun s => s.feed.process).map Execution.id := by
    rw [List.map_map]
    rfl
  rw [ids, follows.processes]
  exact nodup_ids_distinct ps

theorem nodup_merged (follows : h.Follows ps) : (h.merged.map MergedEntry.id).Nodup :=
  Hub.nodup_merged follows.nodup_ids follows.inOrder

theorem process_mem (follows : h.Follows ps) {s : Subscription} (listed : s ∈ h.subscriptions) :
    s.feed.process ∈ distinct ps := by
  rw [← follows.processes]
  exact List.mem_map_of_mem listed

/-- An identifier tells the subscription. -/
theorem eq_of_id (follows : h.Follows ps) {s t : Subscription} (first : s ∈ h.subscriptions)
    (second : t ∈ h.subscriptions) (same : s.id = t.id) : s = t :=
  List.inj_on_of_nodup_map follows.nodup_ids first second same

end Follows

end Hub

/-! ## The follower -/

namespace Follower

/-- What the printer is shown at a moment. -/
def showing (grouped : Bool) (m : Hub × Bool) : Showing := ⟨(m.1.view grouped).rows, m.2⟩

/-- What the printer is shown while events are applied. -/
def showings (f : Follower) (events : List (Event × Int)) : List Showing :=
  (f.hub.moments events).map (showing f.grouped)

theorem entries_showing (grouped : Bool) (m : Hub × Bool) :
    (showing grouped m).entries = m.1.merged := Rows.flatten_view grouped m.1.merged

theorem follow_cons (f : Follower) (e : Event) (now : Int) (rest : List (Event × Int)) :
    (f.follow ((e, now) :: rest)).1 = (f.step e now).2 ++ ((f.step e now).1.follow rest).1 := by
  unfold follow
  exact List.append_assoc _ _ _

/-- An event that is ignored is not followed by a presentation. -/
theorem step_of_none {f : Follower} {e : Event} {now : Int}
    (ignored : (f.hub.handle e now).2 = none) :
    f.step e now = ({ f with hub := (f.hub.handle e now).1 }, []) := by
  rcases handled : f.hub.handle e now with ⟨h, update⟩
  rw [handled] at ignored
  change update = none at ignored
  rw [step, handled, ignored]

theorem step_of_some {f : Follower} {e : Event} {now : Int} {u : Update}
    (changed : (f.hub.handle e now).2 = some u) :
    f.step e now = ({ f with hub := (f.hub.handle e now).1 } : Follower).present false := by
  rcases handled : f.hub.handle e now with ⟨h, update⟩
  rw [handled] at changed
  change update = some u at changed
  rw [step, handled, changed]

/-- What a follower prints is what its printer makes of the moments. -/
theorem follow_lines (f : Follower) (events : List (Event × Int)) :
    (f.follow events).1 = (f.printer.settleAll (f.showings events)).flatten := by
  unfold showings
  induction events generalizing f with
  | nil => exact (List.append_nil _).symm
  | cons event rest inductionHypothesis =>
      rcases event with ⟨e, now⟩
      rw [follow_cons]
      cases reported : (f.hub.handle e now).2 with
      | none =>
          rw [step_of_none reported, Hub.moments_cons_of_ignored reported, List.nil_append]
          exact inductionHypothesis _
      | some u =>
          rw [step_of_some reported, Hub.moments_cons_of_changed reported, inductionHypothesis]
          rfl

/-- The rows that are printed over a run. -/
def rows (f : Follower) (events : List (Event × Int)) : List (Row MergedEntry) :=
  (f.printer.printedAll (f.showings events)).flatten

theorem follow_rows (f : Follower) (events : List (Event × Int)) :
    (f.follow events).1 = (f.rows events).map (Printer.render f.printer.json) := by
  rw [follow_lines]
  exact Printer.flatten_settleAll f.printer (f.showings events)

/-- No view of a run shows an identifier twice. -/
theorem nodup_ids_showings {f : Follower} {ps : List Execution} (follows : f.hub.Follows ps)
    {events : List (Event × Int)} : ∀ s ∈ f.showings events, s.ids.Nodup := by
  intro s listed
  rcases List.mem_map.mp listed with ⟨m, moment, rfl⟩
  unfold Showing.ids
  rw [entries_showing]
  exact (follows.moments m moment).nodup_merged

/-- Where all sources follow each other in time at every moment, what is shown can
be computed without sorting. -/
theorem showings_of_sorted {f : Follower} {events : List (Event × Int)}
    (sorted : ∀ m ∈ f.hub.moments events,
      ((m.1.sources.flatMap Source.merged).Pairwise fun d e => d.time ≤ e.time) ∧ m.1.IsRoomy) :
    f.showings events = (f.hub.moments events).map fun m =>
      ⟨Rows.view f.grouped (m.1.sources.flatMap Source.merged), m.2⟩ := by
  apply List.map_congr_left
  intro m moment
  rcases sorted m moment with ⟨ordered, roomy⟩
  unfold showing Hub.view Hub.merged
  rw [Timeline.compose_of_sorted ordered roomy]

end Follower

end LiveLog
