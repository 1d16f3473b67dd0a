import LiveLog.Proofs.Lifecycle
import LiveLog.Proofs.Retention
import LiveLog.Proofs.ScriptLines

namespace LiveLog

/-!
# What stays of the lines of a script

Of the lines that a script has taken since it was opened, a transcript is kept: each
line with its time, none of them ever let go. Two places forget lines on their own
account, the buffer of the process and the merged log, and each forgets the oldest
first. What the merged log still shows of the script is therefore an end of the
transcript.

The transcript only grows until the process is opened again, and the number and the
stamp of a line depend on the lines before it alone. So whatever is forgotten, an entry
that is still there is the entry that it always was.
-/

namespace Line

variable {pushes : List (LogUnit × Int)}

theorem prefix_history {earlier : List (LogUnit × Int)} (begun : earlier <+: pushes) :
    history earlier <+: history pushes := by
  rcases begun with ⟨later, rfl⟩
  induction later using List.reverseRecOn with
  | nil => rw [List.append_nil]
  | append_singleton later push inductionHypothesis =>
      rw [← List.append_assoc, history_concat]
      exact inductionHypothesis.trans (List.prefix_append _ _)

theorem map_position_history (pushes : List (LogUnit × Int)) :
    (history pushes).map position = List.range' 0 pushes.length := by
  apply List.ext_getElem
  · rw [List.length_map, length_history, List.length_range']
  · intro i within _within
    rw [List.getElem_map, List.getElem_range']
    unfold history
    rw [List.getElem_mapIdx, Nat.zero_add, Nat.one_mul]

/-- A position tells the line of a history. -/
theorem eq_of_mem_history {k l : Line} (first : k ∈ history pushes) (second : l ∈ history pushes)
    (same : k.position = l.position) : k = l := by
  have once : ((history pushes).map position).Nodup := by
    rw [map_position_history]
    exact List.nodup_range'
  exact List.inj_on_of_nodup_map once first second same

end Line

namespace Pipeline

/-- The lines that a process takes in a step, each with its time. Only a script takes
lines. -/
def arrivals (id : Uuid) (p : Pipeline) (step : Step) : List (LogUnit × Int) :=
  if (p.hub.find? id).any fun s => decide (s.feed.kind = .raw) then
    (p.hub.heard id ((p.consumed step).map fun e => (e, p.clock))).flatMap Signal.arrivals
  else []

theorem arrivals_of_silent {id : Uuid} {p : Pipeline} {step : Step}
    (nothing : p.consumed step = []) : p.arrivals id step = [] := by
  unfold arrivals
  rw [nothing]
  exact ite_self []

/-- The entries of a process in the merged log, in groups or not. -/
def entriesOf (p : Pipeline) (id : Uuid) : List MergedEntry :=
  (Rows.flatten p.view.rows).filter fun e => e.processId = id

theorem flatten_rows (p : Pipeline) : Rows.flatten p.view.rows = p.hub.merged :=
  Rows.flatten_view p.grouped p.hub.merged

end Pipeline

namespace Transcript

open Pipeline (Step)

/-- What a step makes of the lines that a process has taken since it was opened. There is
no transcript while the process is not followed. -/
def observe (id : Uuid) (p : Pipeline) (step : Step) (taken : Option (List (LogUnit × Int))) :
    Option (List (LogUnit × Int)) :=
  ((p.perform step).1.hub.find? id).bind fun _ =>
    if p.opens id step then some [] else taken.map fun lines => lines ++ p.arrivals id step

/-- The transcript of a process after some steps. -/
def watch (id : Uuid) (p : Pipeline) (taken : Option (List (LogUnit × Int))) :
    List Step → Option (List (LogUnit × Int))
  | [] => taken
  | step :: rest => watch id (p.perform step).1 (observe id p step taken) rest

/-- The transcript of a process that is watched from the start of a pipeline. -/
def ofRun (id : Uuid) (p : Pipeline) (steps : List Step) : Option (List (LogUnit × Int)) :=
  watch id p none steps

variable {id : Uuid} {p : Pipeline} {taken : Option (List (LogUnit × Int))}

theorem watch_append (first rest : List Step) :
    watch id p taken (first ++ rest) = watch id (p.run first) (watch id p taken first) rest := by
  induction first generalizing p taken with
  | nil => rfl
  | cons step first inductionHypothesis => exact inductionHypothesis

/-- Until a process is opened again its transcript only grows. -/
theorem prefix_watch {steps : List Step} (quiet : p.reopens id steps = false)
    {all : List (LogUnit × Int)} (watched : watch id p taken steps = some all) :
    ∃ earlier, taken = some earlier ∧ earlier <+: all := by
  induction steps generalizing p taken with
  | nil => exact ⟨all, watched, List.prefix_rfl⟩
  | cons step rest inductionHypothesis =>
      rw [Pipeline.reopens, Bool.or_eq_false_iff] at quiet
      rcases inductionHypothesis quiet.2 watched with ⟨next, observed, begun⟩
      unfold observe at observed
      rw [quiet.1] at observed
      rcases Option.bind_eq_some_iff.mp observed with ⟨_t, _after, grown⟩
      rw [if_neg Bool.false_ne_true] at grown
      rcases Option.map_eq_some_iff.mp grown with ⟨earlier, before, rfl⟩
      exact ⟨earlier, before, (List.prefix_append _ _).trans begun⟩

/-! ## The invariant -/

/-- There is a transcript exactly while the process is followed, and the lines that are
kept of the process are what a buffer keeps of the transcript. -/
def Covers (id : Uuid) (settings : Settings) (p : Pipeline) :
    Option (List (LogUnit × Int)) → Prop
  | none => p.hub.find? id = none
  | some taken => ∃ s, p.hub.find? id = some s ∧ s.feed.lines = .ofPushes settings taken

namespace Covers

variable {settings : Settings}

theorem perform (orderly : p.Orderly) (limits : p.hub.settings = settings)
    (covers : Covers id settings p taken) (step : Step) :
    Covers id settings (p.perform step).1 (observe id p step taken) := by
  unfold observe
  cases after : (p.perform step).1.hub.find? id with
  | none => exact after
  | some t =>
      rw [Option.bind_some]
      cases opening : p.opens id step with
      | true =>
          -- The buffer of a new subscription begins where the transcript begins.
          rcases Pipeline.opens_subscribes orderly opening after with
            ⟨_h, q, generation, _performed, _sound, _found, _bound, same⟩
          refine ⟨t, after, ?_⟩
          rw [same, limits]
          unfold Hub.subscribe
          cases p.hub.backend.resolve q <;> rfl
      | false =>
          rw [if_neg Bool.false_ne_true]
          rcases Pipeline.advances orderly opening after with ⟨s, before, advance⟩
          cases taken with
          | none => cases (show p.hub.find? id = none from covers).symm.trans before
          | some lines =>
              rcases covers with ⟨u, found, kept⟩
              have same : u = s := Option.some.inj (found.symm.trans before)
              subst same
              refine ⟨t, after, ?_⟩
              change t.feed.lines = .ofPushes settings (lines ++ p.arrivals id step)
              -- Only a step that hands events over brings lines.
              cases advance with
              | keeps description same events queue others fed delivered closed =>
                  rw [same, Pipeline.arrivals_of_silent (Pipeline.consumed_of_append queue),
                    List.append_nil]
                  exact kept
              | reports same generation signal queue registered open_before taken_down plain fed =>
                  rw [same, Pipeline.arrivals_of_silent (Pipeline.consumed_of_append queue),
                    List.append_nil]
                  exact kept
              | hears eaten queue hub transport delivered closed =>
                  rcases Hub.feed_handleAll found (eaten.map fun e => (e, p.clock)) with
                    ⟨v, handed, replayed⟩
                  rw [← hub, after] at handed
                  rw [Option.some.inj handed, replayed]
                  unfold Pipeline.arrivals
                  rw [Pipeline.consumed_of_eaten queue, found, Option.any_some]
                  cases kind : u.feed.kind with
                  | raw => exact Feed.lines_replay_of_raw kind kept _
                  | normalized =>
                      rw [Feed.lines_replay_of_normalized kind, kept]
                      exact congrArg (LineBuffer.ofPushes settings) (List.append_nil lines).symm

theorem watch (orderly : p.Orderly) (limits : p.hub.settings = settings)
    (covers : Covers id settings p taken) (steps : List Step) :
    Covers id settings (p.run steps) (watch id p taken steps) := by
  induction steps generalizing p taken with
  | nil => exact covers
  | cons step rest inductionHypothesis =>
      exact inductionHypothesis (orderly.perform step)
        ((p.settings_perform step).1.trans limits) (covers.perform orderly limits step)

end Covers

end Transcript

/-! ## What the merged log shows of a script -/

/-- The merged log shows an end of what a script has taken. -/
theorem Hub.filter_merged_suffix {h : Hub} (sound : h.Sound) {id : Uuid} {s : Subscription}
    (found : h.find? id = some s) (script : s.feed.kind = .raw) {settings : Settings}
    {taken : List (LogUnit × Int)} (kept : s.feed.lines = .ofPushes settings taken) :
    h.merged.filter (fun e => e.processId = id) <:+
      (Line.history taken).map (Line.entry s.feed.process) := by
  rcases mem_of_findIn found with ⟨listed, rfl⟩
  have inOrder : s.feed.lines.InOrder := kept ▸ LineBuffer.inOrder_ofPushes settings taken
  have shown : h.merged.filter (fun e => e.processId = s.id) <:+
      (Timeline.ordered h.sources).filter fun e => e.processId = s.id :=
    (Timeline.newest_suffix _ _).filter _
  rw [filter_ordered_of_raw sound.nodup listed script inOrder, kept] at shown
  exact shown.trans ((LineBuffer.retains_ofPushes settings taken).suffix.map _)

namespace Line

variable {owner : Execution} {taken : List (LogUnit × Int)}

/-- An end of the lines, counted: its positions follow each other up to the last line. -/
theorem eq_drop_of_suffix {entries : List MergedEntry}
    (shown : entries <:+ (history taken).map (Line.entry owner)) :
    ∃ m ≤ taken.length,
      entries = ((history taken).drop (taken.length - m)).map (Line.entry owner) ∧
        entries.map MergedEntry.id =
          (List.range' (taken.length - m) m).map (MergedEntry.idOf owner.id) := by
  have within := shown.length_le
  have last := List.suffix_iff_eq_drop.mp shown
  rw [List.length_map, length_history] at within last
  rw [← List.map_drop] at last
  refine ⟨entries.length, within, last, ?_⟩
  have positions : ((history taken).drop (taken.length - entries.length)).map position =
      List.range' (taken.length - entries.length) entries.length := by
    rw [List.map_drop, map_position_history, List.drop_range', Nat.zero_add, Nat.mul_one,
      Nat.sub_sub_self within]
  rw [← positions, List.map_map]
  have named := congrArg (List.map MergedEntry.id) last
  rw [List.map_map] at named
  exact named

/-- An entry of an earlier line and one of a later line with the same identifier are the
same entry. -/
theorem eq_of_id {earlier : List (LogUnit × Int)} (begun : earlier <+: taken) {d e : MergedEntry}
    (first : d ∈ (history earlier).map (Line.entry owner))
    (second : e ∈ (history taken).map (Line.entry owner)) (same : d.id = e.id) : d = e := by
  rcases List.mem_map.mp first with ⟨k, old, rfl⟩
  rcases List.mem_map.mp second with ⟨l, listed, rfl⟩
  have position := (MergedEntry.idOf_inj.mp same).2
  rw [eq_of_mem_history ((prefix_history begun).subset old) listed position]

end Line

namespace Pipeline

theorem suffix_entriesOf {p : Pipeline} {id : Uuid} {s : Subscription} (orderly : p.Orderly)
    (found : p.hub.find? id = some s) (script : s.feed.kind = .raw) {settings : Settings}
    {taken : List (LogUnit × Int)} (covers : Transcript.Covers id settings p (some taken)) :
    p.entriesOf id <:+ (Line.history taken).map (Line.entry s.feed.process) := by
  rcases covers with ⟨t, again, kept⟩
  rw [found, Option.some.injEq] at again
  subst again
  rw [entriesOf, flatten_rows]
  exact Hub.filter_merged_suffix orderly.sound found script kept

/-- An entry of the merged log with the identifier of a process's line belongs to the
process. -/
theorem mem_entriesOf {p : Pipeline} {owner : Execution} {line : Line} {e : MergedEntry}
    (listed : e ∈ Rows.flatten p.view.rows) (same : (line.entry owner).id = e.id) :
    e ∈ p.entriesOf owner.id := by
  refine List.mem_filter.mpr ⟨listed, decide_eq_true ?_⟩
  rw [flatten_rows] at listed
  rcases Hub.mem_merged listed with ⟨s, _subscribed, shown⟩
  rcases Source.id_of_mem shown with ⟨position, named⟩
  exact (MergedEntry.idOf_inj.mp (same.trans named)).1.symm

/-- The log of a script is contiguous and does not change. At every moment the merged log
shows the last lines that the script has taken since it was opened, in order and up to the
latest. And an entry that it showed at any moment since then, while the script had the same
description, is the only one that it shows under the same identifier now. -/
theorem script_entries_stable (settings : Settings) (backend : Backend) (grouped : Bool)
    (now : Int) (steps : List Step) (id : Uuid) (s : Subscription)
    (followed : ((start settings backend grouped now).run steps).hub.find? id = some s)
    (script : s.feed.kind = .raw) :
    let p := (start settings backend grouped now).run steps
    ∃ taken, Transcript.ofRun id (start settings backend grouped now) steps = some taken ∧
      (∃ m ≤ taken.length,
        p.entriesOf id =
            ((Line.history taken).drop (taken.length - m)).map (Line.entry s.feed.process) ∧
          (p.entriesOf id).map MergedEntry.id =
            (List.range' (taken.length - m) m).map (MergedEntry.idOf id)) ∧
      ∀ first rest, steps = first ++ rest →
        let q := (start settings backend grouped now).run first
        q.reopens id rest = false →
        (q.hub.find? id).map (fun t => t.feed.process) = some s.feed.process →
          (∃ earlier, Transcript.ofRun id (start settings backend grouped now) first =
            some earlier ∧ earlier <+: taken) ∧
          ∀ d ∈ q.entriesOf id, ∀ e ∈ Rows.flatten p.view.rows, d.id = e.id → d = e := by
  intro p
  have orderly := Orderly.start settings backend grouped now
  have nobody : Transcript.Covers id settings (start settings backend grouped now) none := rfl
  have covered (steps : List Step) : Transcript.Covers id settings
      ((start settings backend grouped now).run steps)
      (Transcript.ofRun id (start settings backend grouped now) steps) :=
    nobody.watch orderly rfl steps
  have named : s.feed.process.id = id := (Hub.mem_of_findIn followed).2
  cases transcript : Transcript.ofRun id (start settings backend grouped now) steps with
  | none =>
      have missing := covered steps
      rw [transcript] at missing
      cases (show _ = none from missing).symm.trans followed
  | some taken =>
      have last := suffix_entriesOf (orderly.run steps) followed script (transcript ▸ covered steps)
      rcases Line.eq_drop_of_suffix last with ⟨m, within, ending, numbered⟩
      rw [named] at numbered
      refine ⟨taken, rfl, ⟨m, within, ending, numbered⟩, ?_⟩
      rintro first rest rfl q quiet described
      -- What had been taken at the earlier moment is a beginning of what has been taken now.
      have watched := transcript
      rw [Transcript.ofRun, Transcript.watch_append] at watched
      rcases Transcript.prefix_watch quiet watched with ⟨earlier, before, begun⟩
      refine ⟨⟨earlier, before, begun⟩, ?_⟩
      rcases Option.map_eq_some_iff.mp described with ⟨t, found, same⟩
      have kind : t.feed.kind = .raw := (congrArg Execution.kind same).trans script
      have covers := covered first
      rw [Transcript.ofRun, before] at covers
      have shownThen := suffix_entriesOf (orderly.run first) found kind covers
      rw [same] at shownThen
      intro d shown e listed equal
      have old := shownThen.subset shown
      rcases List.mem_map.mp old with ⟨line, _kept, rfl⟩
      have own := mem_entriesOf listed equal
      rw [named] at own
      exact Line.eq_of_id begun old (last.subset own) equal

theorem entriesOf_of_sorted {p : Pipeline} (id : Uuid)
    (sorted : (p.hub.sources.flatMap Source.merged).Pairwise fun d e => d.time ≤ e.time) :
    p.entriesOf id = (Timeline.newest (Timeline.capacity p.hub.settings.mergedEntries)
      (p.hub.sources.flatMap Source.merged)).filter fun e => e.processId = id := by
  rw [entriesOf, flatten_rows, Hub.merged, Timeline.compose, Timeline.ordered_of_sorted sorted]

/-- A script is resubscribed, other output crowds it out of the merged log, its buffer lets
its first line go, and the clock goes back. -/
theorem script_entries_stable_under_eviction :
    let backend := Backend.atHost "b"
    let script : Execution := ⟨default, .setupScript, .running, false⟩
    let other : Execution := ⟨⟨List.replicate 32 1, by decide⟩, .devServer, .running, false⟩
    let line (text : String) : Frame := .event "stdout" text
    let begin := start ⟨3, 3, 1000⟩ backend true 0
    let first : List Step := [.sync [script], .send script.id (line "lost"), .drain,
      .resubscribe script.id, .setClock 9, .send script.id (line "one"),
      .send script.id (.event "stderr" "two"), .send script.id (line "three"), .drain]
    let rest : List Step := [.sync [script, other], .setClock 20, .send other.id (line "aside"),
      .drain, .setClock 4, .send script.id (line "four"), .drain]
    let q := begin.run first
    let p := begin.run (first ++ rest)
    let shown (e : MergedEntry) : String × Int × Channel × Payload :=
      (e.id, e.time, e.channel, e.payload)
    ∃ s, p.hub.find? script.id = some s ∧ s.feed.kind = .raw ∧
      Transcript.ofRun script.id begin (first ++ rest) = some [(.stdout "one", 9),
        (.stderr "two", 9), (.stdout "three", 9), (.stdout "four", 4)] ∧
      q.reopens script.id rest = false ∧
      (q.hub.find? script.id).map (fun t => t.feed.process) = some s.feed.process ∧
      (q.entriesOf script.id).map shown =
        [(MergedEntry.idOf script.id 0, 9, .raw, .text "one"),
          (MergedEntry.idOf script.id 1, 9, .stderr, .text "two"),
          (MergedEntry.idOf script.id 2, 9, .raw, .text "three")] ∧
      (p.entriesOf script.id).map shown =
        [(MergedEntry.idOf script.id 2, 9, .raw, .text "three"),
          (MergedEntry.idOf script.id 3, 9, .raw, .text "four")] ∧
      ∀ d ∈ q.entriesOf script.id, ∀ e ∈ Rows.flatten p.view.rows, d.id = e.id → d = e := by
  intro backend script other line begin first rest q p shown
  have state : (p.hub.find? script.id).map (fun s => (s.feed.kind, s.feed.process)) =
      some (.raw, script) := by decide +kernel
  rcases Option.map_eq_some_iff.mp state with ⟨s, followed, shape⟩
  rcases Prod.mk.inj shape with ⟨kind, described⟩
  have before : (q.hub.find? script.id).map (fun t => t.feed.process) = some script := by
    decide +kernel
  have quiet : q.reopens script.id rest = false := by decide +kernel
  have transcript : Transcript.ofRun script.id begin (first ++ rest) = some [(.stdout "one", 9),
      (.stderr "two", 9), (.stdout "three", 9), (.stdout "four", 4)] := by decide +kernel
  have shownThen : (q.entriesOf script.id).map shown =
      [(MergedEntry.idOf script.id 0, 9, .raw, .text "one"),
        (MergedEntry.idOf script.id 1, 9, .stderr, .text "two"),
        (MergedEntry.idOf script.id 2, 9, .raw, .text "three")] := by
    rw [entriesOf_of_sorted script.id (by decide +kernel)]
    decide +kernel
  have shownNow : (p.entriesOf script.id).map shown =
      [(MergedEntry.idOf script.id 2, 9, .raw, .text "three"),
        (MergedEntry.idOf script.id 3, 9, .raw, .text "four")] := by
    rw [entriesOf_of_sorted script.id (by decide +kernel)]
    decide +kernel
  rcases script_entries_stable ⟨3, 3, 1000⟩ backend true 0 (first ++ rest) script.id s followed
    kind with ⟨_taken, _transcribed, _end, stable⟩
  have same : (q.hub.find? script.id).map (fun t => t.feed.process) = some s.feed.process :=
    before.trans (congrArg some described.symm)
  exact ⟨s, followed, kind, transcript, quiet, same, shownThen, shownNow,
    (stable first rest rfl quiet same).2⟩

end Pipeline

end LiveLog
