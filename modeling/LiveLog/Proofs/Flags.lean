import LiveLog.Proofs.Generations
import LiveLog.Proofs.Replay

namespace LiveLog

/-!
# The flags of a subscription

A link is given up by the very signals that conclude a stream or make it fail, and a
subscription that begins without a link has the error that says why.
`Subscription.Explained` says so, and events of any kind, in any order, keep it.
Whatever all subscriptions have in common holds over a whole run as soon as a new one
has it and events and new descriptions keep it.
-/

namespace Change

/-- Whether the stream goes on as it was. -/
def isPlain : Change → Bool
  | entries | session | updateFailed => true
  | _ => false

theorem isFinal_of_isPlain {change : Change} (plain : change.isPlain = true) :
    change.isFinal = false := by
  cases change with
  | connected => rfl
  | entries => rfl
  | session => rfl
  | updateFailed => rfl
  | finished => cases plain
  | disconnected => cases plain

end Change

namespace Feed

/-- What a signal that changes a feed makes of its flags. -/
inductive Turns (f : Feed) : Signal → Feed → Change → Prop
  | opens : Turns f .opened { f with error := none, isConnected := true } .connected
  | continues {frame : Frame} {g : Feed} {change : Change} (plain : change.isPlain = true)
      (connected : g.isConnected = f.isConnected) (finished : g.isFinished = f.isFinished) :
      Turns f (.frame frame) g change
  | concludes {s : Signal} (late : s ≠ .opened) (sound : ∀ message, s ≠ .failed message) :
      Turns f s f.concluded .finished
  | fails (message : String) :
      Turns f (.failed message) { f with isConnected := false, error := some message } .disconnected

variable {f g : Feed} {now : Int} {change : Change}

theorem turns_of_takeMessage {frame : Frame} {m : Message}
    (taken : f.takeMessage m now = some (g, change)) : f.Turns (.frame frame) g change := by
  have lines {units : List LogUnit} (pushed : f.takeLines units now = some (g, change)) :
      f.Turns (.frame frame) g change := by
    unfold takeLines at pushed
    split at pushed
    · cases pushed
    · cases pushed
      exact .continues rfl rfl rfl
  unfold takeMessage at taken
  split at taken
  · exact lines taken
  · exact lines taken
  · exact lines taken
  · cases taken
  · cases taken
  · unfold takePatch at taken
    simp only [Option.some.injEq] at taken
    split at taken <;> cases taken <;> exact .continues rfl rfl rfl
  · cases taken
    exact .continues rfl rfl rfl
  · cases taken
    exact .concludes Signal.noConfusion fun _message => Signal.noConfusion

theorem turns_of_take {s : Signal} (taken : f.take s now = some (g, change)) :
    f.Turns s g change := by
  cases s with
  | opened =>
      cases taken
      exact .opens
  | ended =>
      cases taken
      exact .concludes Signal.noConfusion fun _message => Signal.noConfusion
  | failed message =>
      cases taken
      exact .fails message
  | frame frame =>
      unfold take at taken
      cases decoded : Message.decode frame with
      | error e =>
          simp only [decoded] at taken
          cases taken
          exact .continues rfl rfl rfl
      | ok found =>
          cases found with
          | none =>
              simp only [decoded] at taken
              cases taken
          | some m =>
              simp only [decoded] at taken
              exact turns_of_takeMessage taken

end Feed

namespace Subscription

theorem isSome_link_of_accepts {s : Subscription} {e : Event} (accepted : s.accepts e = true) :
    s.link.isSome = true := by
  have generation := ((s.accepts_eq_true_iff e).mp accepted).2
  rw [← Option.isSome_map, ← generation?, generation]
  rfl

/-- The flags of a feed agree with the link, and that there is no link is
explained. -/
structure Explained (s : Subscription) : Prop where
  connected : s.feed.isConnected = true → s.link.isSome ∧ s.feed.isFinished = false
  finished : s.feed.isFinished = true → s.link = none
  closed : s.link = none → s.feed.isFinished = true ∨ s.feed.error.isSome

namespace Explained

variable {s : Subscription}

theorem of_idle (idle : s.feed.isConnected = false) (unfinished : s.feed.isFinished = false)
    (closed : s.link = none → s.feed.error.isSome) : s.Explained := by
  refine ⟨?_, ?_, fun gone => Or.inr (closed gone)⟩
  · intro connected
    exact absurd (idle.symm.trans connected) Bool.false_ne_true
  · intro past
    exact absurd (unfinished.symm.trans past) Bool.false_ne_true

theorem described (explained : s.Explained) (p : Execution) : (s.described p).Explained :=
  ⟨explained.connected, explained.finished, explained.closed⟩

theorem isFinished_of_link (explained : s.Explained) (registered : s.link.isSome) :
    s.feed.isFinished = false := by
  rw [Bool.eq_false_iff]
  intro past
  rw [explained.finished past] at registered
  cases registered

/-- A change keeps the link and leaves the feed unfinished, or it takes the link
away and gives the reason. -/
theorem turn (explained : s.Explained) (registered : s.link.isSome) {signal : Signal} {g : Feed}
    {change : Change} (turns : s.feed.Turns signal g change) :
    Explained ⟨g, if change.isFinal then none else s.link⟩ := by
  have going := explained.isFinished_of_link registered
  have linked {f : Feed} (unfinished : f.isFinished = false) : Explained ⟨f, s.link⟩ := by
    rcases Option.isSome_iff_exists.mp registered with ⟨link, same⟩
    rw [same]
    refine ⟨fun _on => ⟨rfl, unfinished⟩, ?_, nofun⟩
    intro past
    exact absurd (unfinished.symm.trans past) Bool.false_ne_true
  -- Only the last two sorts of signals are final, and each says why the link is gone.
  cases turns with
  | opens => exact linked going
  | continues plain connected finished =>
      rw [Change.isFinal_of_isPlain plain, if_neg Bool.false_ne_true]
      exact linked (finished.trans going)
  | concludes => exact ⟨nofun, fun _past => rfl, fun _gone => Or.inl rfl⟩
  | fails message => exact ⟨nofun, fun _past => rfl, fun _gone => Or.inr rfl⟩

theorem receive (explained : s.Explained) (e : Event) (now : Int) :
    (s.receive e now).Explained := by
  cases accepted : s.accepts e with
  | false =>
      rw [receive_of_not_accepts now accepted]
      exact explained
  | true =>
      rw [Subscription.receive, if_pos accepted, take]
      cases taken : s.feed.take e.signal now with
      | none => exact explained
      | some result =>
          exact explained.turn (isSome_link_of_accepts accepted) (Feed.turns_of_take taken)

end Explained

end Subscription

namespace Hub

/-- A new subscription has a link, or the error that its process is served
nowhere. -/
theorem explained_subscribe (settings : Settings) (backend : Backend) (generation : Nat)
    (p : Execution) (now : Int) :
    (subscribe settings backend generation p now).1.Explained := by
  cases resolved : backend.resolve p with
  | ok endpoint =>
      rw [subscribe_of_ok resolved]
      apply Subscription.Explained.of_idle rfl rfl
      intro gone
      cases gone
  | error e =>
      simp only [subscribe, resolved]
      apply Subscription.Explained.of_idle rfl rfl
      intro _gone
      rfl

section Everyone

variable {P : Subscription → Prop}

/-- What new subscriptions have, and events and descriptions keep, every action
keeps. -/
theorem forall_perform
    (opened : ∀ settings backend generation p now,
      P (subscribe settings backend generation p now).1)
    (described : ∀ s p, P s → P (s.described p))
    (received : ∀ s e now, P s → P (s.receive e now))
    {h : Hub} (everyone : ∀ s ∈ h.subscriptions, P s) (action : Action) :
    ∀ s ∈ (h.perform action).subscriptions, P s := by
  intro s listed
  cases action with
  | teardown => cases listed
  | handle e now =>
      rcases mem_deliver listed with same | ⟨t, member, after⟩
      · exact everyone s same
      · rw [after]
        exact received t e now (everyone t member)
  | sync ps now =>
      rcases mem_subscribeAll listed with ⟨p, -, generation, -, after, -⟩
      rw [after]
      cases found : h.find? p.id with
      | none =>
          rw [keepOrSubscribe_of_none found]
          exact opened h.settings h.backend generation p now
      | some t =>
          rw [keepOrSubscribe_of_some found]
          exact described t p (everyone t (mem_of_findIn found).1)
  | resubscribe id now =>
      change s ∈ (h.resubscribe id now).subscriptions at listed
      cases found : h.find? id with
      | none =>
          rw [resubscribe_of_none found] at listed
          exact everyone s listed
      | some t =>
          rw [resubscribe_of_some found] at listed
          rcases List.mem_map.mp listed with ⟨u, member, replaced⟩
          by_cases same : u.id = id
          · rw [if_pos same] at replaced
            rw [← replaced]
            exact opened h.settings h.backend h.generation t.feed.process now
          · rw [if_neg same] at replaced
            rw [← replaced]
            exact everyone u member

theorem forall_run
    (opened : ∀ settings backend generation p now,
      P (subscribe settings backend generation p now).1)
    (described : ∀ s p, P s → P (s.described p))
    (received : ∀ s e now, P s → P (s.receive e now))
    {h : Hub} (everyone : ∀ s ∈ h.subscriptions, P s) (actions : List Action) :
    ∀ s ∈ (h.run actions).subscriptions, P s := by
  induction actions generalizing h with
  | nil => exact everyone
  | cons action rest inductionHypothesis =>
      exact inductionHypothesis (forall_perform opened described received everyone action)

end Everyone

section Links

variable {h : Hub}

theorem mem_ids_iff (h : Hub) (id : Uuid) : id ∈ h.ids ↔ (h.find? id).isSome := by
  rw [Option.isSome_iff_ne_none, ne_eq]
  exact not_iff_not.mp (by rw [not_not]; exact findIn_eq_none_iff.symm)

theorem Sound.le_of_mem_links (sound : h.Sound) {link : Link} (listed : link ∈ h.links) :
    link.generation ≤ h.generation := by
  rcases List.mem_filterMap.mp listed with ⟨s, member, linked⟩
  exact sound.bounded s member link linked

end Links

/-- Whatever was synchronized, resubscribed and torn down, and whatever events were handed
over, the flags of every subscription are explained. -/
theorem explained_run (settings : Settings) (backend : Backend) (actions : List Action) :
    ∀ s ∈ ((empty settings backend).run actions).subscriptions, s.Explained :=
  forall_run explained_subscribe (fun _s p explained => explained.described p)
    (fun _s e now explained => explained.receive e now)
    (fun _s listed => absurd listed List.not_mem_nil) actions

end Hub

end LiveLog
