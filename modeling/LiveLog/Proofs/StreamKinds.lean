import LiveLog.Proofs.Synchronizations

namespace LiveLog

/-!
# The kind of a stream

A connection is opened where the process was served when it was opened, and that
depends on the kind of the process. What the connection reports is taken, and shown,
by the kind that the process has at present. A synchronization replaces the description
of a process that stays, the reason why it runs included, and the kind is read off the
reason. So the two kinds agree for as long as no synchronization gives a process another
kind while its connection is registered, and no longer.

Nothing that was received is lost with the kind. It is kept where it was and out of
sight, because a feed shows the lines of a script, or the conversation of an agent.
-/

namespace Hub

/-- Every registered connection leads to output of the kind that its process has. -/
def ReadsAsOpened (h : Hub) : Prop :=
  ∀ s ∈ h.subscriptions, ∀ link ∈ s.link, link.endpoint.kind = s.feed.kind

instance (h : Hub) : Decidable h.ReadsAsOpened :=
  inferInstanceAs (Decidable (∀ s ∈ h.subscriptions, ∀ link ∈ s.link,
    link.endpoint.kind = s.feed.kind))

/-- Whether an action leaves the kind of every process with a registered connection as
it is. -/
def KeepsKind (h : Hub) : Action → Prop
  | .sync ps _ => ∀ s ∈ h.subscriptions, s.link.isSome = true →
      ∀ q ∈ ps.find? fun r => r.id = s.id, q.kind = s.feed.kind
  | _ => True

instance (h : Hub) (action : Action) : Decidable (h.KeepsKind action) :=
  match action with
  | .sync ps _ => inferInstanceAs (Decidable (∀ s ∈ h.subscriptions, s.link.isSome = true →
      ∀ q ∈ ps.find? fun r => r.id = s.id, q.kind = s.feed.kind))
  | .resubscribe _ _ => isTrue trivial
  | .teardown => isTrue trivial
  | .handle _ _ => isTrue trivial

/-- Whether no action of a run changes the kind of a process with a registered
connection. -/
def KeepsKinds (h : Hub) : List Action → Prop
  | [] => True
  | action :: rest => h.KeepsKind action ∧ (h.perform action).KeepsKinds rest

instance decidableKeepsKinds (h : Hub) : (actions : List Action) → Decidable (h.KeepsKinds actions)
  | [] => isTrue trivial
  | action :: rest =>
    have := (h.perform action).decidableKeepsKinds rest
    inferInstanceAs (Decidable (h.KeepsKind action ∧ (h.perform action).KeepsKinds rest))

/-! ## One action -/

section Action

variable {h : Hub}

theorem kind_subscribe {settings : Settings} {backend : Backend} {generation : Nat} {p : Execution}
    {now : Int} {link : Link}
    (linked : (subscribe settings backend generation p now).1.link = some link) :
    link.endpoint.kind = (subscribe settings backend generation p now).1.feed.kind := by
  have resolved := (subscribe_link linked).1
  rw [(Backend.resolve_eq_ok resolved).2, subscribe_of_ok resolved]
  rfl

theorem readsAsOpened_resubscribe (reads : h.ReadsAsOpened) (id : Uuid) (now : Int) :
    (h.resubscribe id now).ReadsAsOpened := by
  cases found : h.find? id with
  | none =>
      rw [resubscribe_of_none found]
      exact reads
  | some t =>
      rw [resubscribe_of_some found]
      intro s listed link linked
      rcases List.mem_map.mp listed with ⟨u, member, replaced⟩
      by_cases same : u.id = id
      · rw [if_pos same] at replaced
        subst replaced
        exact kind_subscribe linked
      · rw [if_neg same] at replaced
        subst replaced
        exact reads u member link linked

theorem readsAsOpened_handle (reads : h.ReadsAsOpened) (e : Event) (now : Int) :
    (h.handle e now).1.ReadsAsOpened := by
  intro t listed link linked
  rcases mem_deliver listed with same | ⟨s, member, received⟩
  · exact reads t same link linked
  · rw [received] at linked
    rw [reads s member link (Subscription.link_receive linked), received]
    exact congrArg Execution.kind (s.process_receive e now).symm

/-- A synchronization lets every connection lead to output of the kind of its process
just in case it changes no kind under a connection. -/
theorem readsAsOpened_sync_iff (sound : h.Sound) (reads : h.ReadsAsOpened) (ps : List Execution)
    (now : Int) : (h.sync ps now).ReadsAsOpened ↔ h.KeepsKind (.sync ps now) := by
  constructor
  · intro after s listed registered q first
    rcases Option.isSome_iff_exists.mp registered with ⟨link, linked⟩
    have found := find?_sync_described first (sound.find?_of_mem listed) now
    have present := after (s.described q) (mem_of_findIn found).1 link linked
    exact present.symm.trans (reads s listed link linked)
  · intro keeps t listed link linked
    rcases mem_subscribeAll listed with ⟨q, member, generation, _bound, made, _upper⟩
    cases before : h.find? q.id with
    | none =>
        rw [keepOrSubscribe_of_none before] at made
        subst made
        exact kind_subscribe linked
    | some s =>
        rcases mem_of_findIn before with ⟨followed, named⟩
        rw [keepOrSubscribe_of_some before] at made
        subst made
        change s.link = some link at linked
        have first := find?_of_mem_distinct member
        rw [← named] at first
        have registered : s.link.isSome = true := by rw [linked]; rfl
        exact (reads s followed link linked).trans (keeps s followed registered q first).symm

theorem readsAsOpened_perform_iff (sound : h.Sound) (reads : h.ReadsAsOpened) (action : Action) :
    (h.perform action).ReadsAsOpened ↔ h.KeepsKind action := by
  cases action with
  | sync ps now => exact readsAsOpened_sync_iff sound reads ps now
  | resubscribe id now => exact iff_of_true (readsAsOpened_resubscribe reads id now) trivial
  | teardown => exact iff_of_true (fun s listed => absurd listed List.not_mem_nil) trivial
  | handle e now => exact iff_of_true (readsAsOpened_handle reads e now) trivial

/-- In every state of a run the connections lead to output of the kinds of their
processes, just in case no action changes a kind under a connection. -/
theorem readsAsOpened_run_iff (sound : h.Sound) (reads : h.ReadsAsOpened) (actions : List Action) :
    (∀ first, first <+: actions → (h.run first).ReadsAsOpened) ↔ h.KeepsKinds actions := by
  induction actions generalizing h with
  | nil =>
      refine iff_of_true ?_ trivial
      intro first beginning
      rw [List.prefix_nil.mp beginning]
      exact reads
  | cons action rest inductionHypothesis =>
      have step := readsAsOpened_perform_iff sound reads action
      constructor
      · intro always
        have next := always [action] (List.cons_prefix_cons.mpr ⟨rfl, List.nil_prefix⟩)
        refine ⟨step.mp next, ?_⟩
        rw [← inductionHypothesis (Remembers.sound_perform sound action) next]
        intro first beginning
        exact always (action :: first) (List.cons_prefix_cons.mpr ⟨rfl, beginning⟩)
      · rintro ⟨keeps, later⟩ first beginning
        have next := step.mpr keeps
        rcases List.prefix_cons_iff.mp beginning with none | ⟨tail, parts, shorter⟩
        · rw [none]
          exact reads
        · rw [parts]
          exact (inductionHypothesis (Remembers.sound_perform sound action) next).mpr later tail
            shorter

end Action

end Hub

/-! ## What is shown -/

namespace Feed

/-- Another description of the same kind does not change what a feed delivers. -/
theorem source_described {f : Feed} {q : Execution} (same : q.kind = f.kind) :
    (f.described q).source = { f.source with process := q } := by
  have kind : (f.described q).kind = f.kind := same
  unfold source
  rw [kind]
  cases f.kind with
  | raw => rfl
  | normalized => rfl

theorem units_described {f : Feed} {q : Execution} (same : q.kind = f.kind) :
    (f.described q).units = f.units := by
  have kind : (f.described q).kind = f.kind := same
  unfold units
  rw [kind]
  rfl

end Feed

namespace Source

/-- Another description of the same process and kind changes the name in its entries. -/
theorem mem_merged_described {s : Source} {q : Execution} (owner : q.id = s.process.id)
    (same : q.kind = s.process.kind) {e : MergedEntry} (listed : e ∈ s.merged) :
    { e with processName := q.displayName } ∈ ({ s with process := q } : Source).merged := by
  rcases mem_merged.mp listed with ⟨offset, unit, found, rfl⟩
  refine mem_merged.mpr ⟨offset, unit, found, ?_⟩
  unfold entryAt
  rw [owner, same]

end Source

namespace Hub

variable {h : Hub} {ps : List Execution} {now : Int} {id : Uuid} {q : Execution} {s : Subscription}

theorem viewOf?_sync (first : ps.find? (fun r => r.id = id) = some q)
    (found : h.find? id = some s) (same : q.kind = s.feed.kind) (grouped : Bool) :
    (h.sync ps now).viewOf? grouped id = h.viewOf? grouped id := by
  unfold viewOf?
  rw [find?_sync_described first found now, found, Option.map_some, Option.map_some]
  change some (⟨Rows.view grouped (s.feed.described q).units, _, _⟩ : View ConversationEntry) = _
  rw [Feed.units_described same]
  rfl

theorem mem_merged_sync (sound : h.Sound) (first : ps.find? (fun r => r.id = id) = some q)
    (found : h.find? id = some s) (same : q.kind = s.feed.kind)
    (roomy : (h.sync ps now).IsRoomy) {e : MergedEntry} (shown : e ∈ h.merged)
    (owned : e.processId = id) :
    { e with processName := q.displayName } ∈ (h.sync ps now).merged := by
  rcases mem_merged shown with ⟨t, member, delivered⟩
  have reached := sound.find?_of_mem member
  have named : t.id = id := by
    rw [← owned, Source.processId_of_mem delivered, Feed.process_source]
    rfl
  rw [named, found] at reached
  cases reached
  have kept := (mem_of_findIn (find?_sync_described first found now)).1
  unfold merged
  rw [Timeline.compose_of_le roomy]
  refine Timeline.mem_ordered.mpr ⟨(s.feed.described q).source, List.mem_map_of_mem kept, ?_⟩
  rw [Feed.source_described same]
  apply Source.mem_merged_described _ _ delivered
  · rw [Feed.process_source]
    exact (id_of_first first).trans named.symm
  · rw [Feed.process_source]
    exact same

/-- Throughout a run of a hub, every connection leads to output of the kind by which it
is taken and shown, if and only if no synchronization changes the kind of a process
whose connection is registered. A synchronization keeps all that was received of a
process that stays. If it leaves the kind alone, the view of the process stays the same,
and as long as the merged log is within its capacity, it still has every entry of the
process that it had. -/
theorem read_as_opened_iff (settings : Settings) (backend : Backend) (actions : List Action) :
    ((∀ first, first <+: actions → ((empty settings backend).run first).ReadsAsOpened) ↔
        (empty settings backend).KeepsKinds actions) ∧
      let h := (empty settings backend).run actions
      ∀ ps now id q s, ps.find? (fun r => r.id = id) = some q → h.find? id = some s →
        (h.sync ps now).find? id = some (s.described q) ∧
          (q.kind = s.feed.kind →
            (∀ grouped, (h.sync ps now).viewOf? grouped id = h.viewOf? grouped id) ∧
            ((h.sync ps now).IsRoomy → ∀ e ∈ h.merged, e.processId = id →
              { e with processName := q.displayName } ∈ (h.sync ps now).merged)) := by
  have nothing : (empty settings backend).ReadsAsOpened :=
    fun _s listed => absurd listed List.not_mem_nil
  refine ⟨readsAsOpened_run_iff (Sound.empty settings backend) nothing actions, ?_⟩
  intro h ps now id q s first found
  have sound : h.Sound := ((Remembers.empty settings backend).run actions).sound
  refine ⟨find?_sync_described first found now, ?_⟩
  intro same
  refine ⟨viewOf?_sync first found same, ?_⟩
  intro roomy e shown owned
  exact mem_merged_sync sound first found same roomy shown owned

/-- A setup script whose line was received goes on as a cleanup script. -/
theorem line_kept_under_new_name :
    let backend := Backend.atHost "b"
    let script : Execution := ⟨default, .setupScript, .running, false⟩
    let cleanup : Execution := { script with reason := .cleanupScript }
    let actions : List Action := [.sync [script] 0, .handle ⟨script.id, 1, .opened⟩ 1,
      .handle ⟨script.id, 1, .frame (.event "stdout" "hello")⟩ 2]
    let h := (empty Settings.default backend).run actions
    let line : MergedEntry :=
      ⟨MergedEntry.idOf default 0, 2, default, script.displayName, .raw, .text "hello"⟩
    (∀ first, first <+: actions → ((empty Settings.default backend).run first).ReadsAsOpened) ∧
      h.merged = [line] ∧ script.displayName ≠ cleanup.displayName ∧
      (h.sync [cleanup] 3).viewOf? true script.id = h.viewOf? true script.id ∧
      { line with processName := cleanup.displayName } ∈ (h.sync [cleanup] 3).merged := by
  intro backend script cleanup actions h line
  rcases read_as_opened_iff Settings.default backend actions with ⟨reads, keeps⟩
  have log : h.merged = [line] := by
    unfold merged
    rw [Timeline.compose_of_sorted (by decide +kernel) (by decide +kernel)]
    decide +kernel
  have followed : (h.find? script.id).map (fun s => s.feed.kind) = some .raw := by decide +kernel
  rcases Option.map_eq_some_iff.mp followed with ⟨s, found, raw⟩
  have same : cleanup.kind = s.feed.kind := raw.symm
  rcases (keeps [cleanup] 3 script.id cleanup s rfl found).2 same with ⟨view, entries⟩
  refine ⟨reads.mpr (by decide +kernel), log, by decide, view true, ?_⟩
  apply entries (by decide +kernel) line _ rfl
  rw [log]
  exact List.mem_singleton_self line

/-- A script whose line was received is described as an agent. Its connection leads to
the output of a script, and the line is not shown any more. -/
theorem line_hidden_by_new_kind :
    let backend := Backend.atHost "b"
    let script : Execution := ⟨default, .setupScript, .running, false⟩
    let agent : Execution := { script with reason := .codingAgent }
    let actions : List Action := [.sync [script] 0, .handle ⟨script.id, 1, .opened⟩ 1,
      .handle ⟨script.id, 1, .frame (.event "stdout" "hello")⟩ 2]
    let h := (empty Settings.default backend).run actions
    let after := (empty Settings.default backend).run (actions ++ [.sync [agent] 3])
    h.ReadsAsOpened ∧ ¬ after.ReadsAsOpened ∧
      (h.viewOf? true script.id).map View.rows = some [.entry ⟨0, .stdout "hello"⟩] ∧
      (after.viewOf? true script.id).map View.rows = some [] := by
  decide +kernel

end Hub

end LiveLog
