import LiveLog.Proofs.Arrivals
import LiveLog.Proofs.Interleaving

namespace LiveLog

/-!
# What an event changes

An event that reports no change leaves the whole hub as it is. An event that reports
one changes a single subscription, and the change tells what becomes of every part of
it: `Subscription.Announces` has a case for each way in which a subscription can go on.

Only lines and patches are output, and nothing else touches what was received before.
A frame that cannot be read leaves its mark on the error of the feed, the end of a
connection on the flags and on the link, and the last good output stays.
-/

namespace Signal

/-- Whether a signal carries output: a line, or a patch. -/
def carriesOutput (s : Signal) : Bool :=
  match s.message? with
  | some (.stdout _) | some (.stderr _) | some (.patch _) => true
  | some (.sessionId _) | some .finished | none => false

/-- Whether a signal is a frame that should carry a message and does not. -/
def isUnreadable : Signal → Bool
  | opened => false
  | frame f => match Message.decode f with
    | .ok _ => false
    | .error _ => true
  | ended => false
  | failed _ => false

end Signal

namespace Feed

/-- What is not output leaves the output alone. -/
theorem after_of_no_output {s : Signal} (silent : s.carriesOutput = false) (f : Feed) (now : Int) :
    (f.after s now).lines = f.lines ∧ (f.after s now).conversation = f.conversation := by
  cases brought : s.message? with
  | none => exact f.after_of_no_message now brought
  | some m =>
      unfold Signal.carriesOutput at silent
      rw [brought] at silent
      rw [after_of_message brought]
      unfold hear takeMessage
      cases m with
      | stdout text => cases silent
      | stderr text => cases silent
      | patch operations => cases silent
      | sessionId text => cases f.kind <;> exact ⟨rfl, rfl⟩
      | finished => cases f.kind <;> exact ⟨rfl, rfl⟩

end Feed

namespace Subscription

/-- The same subscription with another error. -/
def withError (s : Subscription) (error : String) : Subscription :=
  { s with feed := { s.feed with error := some error } }

/-- How a subscription goes on when a change is reported. -/
inductive Announces (s : Subscription) : Change → Subscription → Prop
  | connected :
      Announces s .connected { s with feed := { s.feed with error := none, isConnected := true } }
  | lines (script : s.feed.kind = .raw) (units : List LogUnit) (brought : units ≠ []) (now : Int) :
      Announces s .entries { s with feed := s.feed.pushLines units now }
  | patched (agent : s.feed.kind = .normalized) (patch : Patch) (now : Int)
      (clean : (s.feed.conversation.applyBatch patch now).2.isClean = true) :
      Announces s .entries { s with feed := { s.feed with
        conversation := (s.feed.conversation.applyBatch patch now).1, updatedAt := now } }
  | partlyPatched (agent : s.feed.kind = .normalized) (patch : Patch) (now : Int)
      (faulty : (s.feed.conversation.applyBatch patch now).2.isClean = false) :
      Announces s .updateFailed { s with feed := { s.feed with
        conversation := (s.feed.conversation.applyBatch patch now).1, updatedAt := now
        error := some Feed.updateFailure } }
  | unreadable : Announces s .updateFailed (s.withError Feed.updateFailure)
  | session (text : String) :
      Announces s .session { s with feed := { s.feed with namedSession := some text } }
  | finished : Announces s .finished ⟨s.feed.concluded, none⟩
  | disconnected (message : String) :
      Announces s .disconnected
        ⟨{ s.feed with isConnected := false, error := some message }, none⟩

section Step

variable {s : Subscription} {g : Feed} {change : Change} {now : Int}

theorem announces_of_takeLines {units : List LogUnit} (script : s.feed.kind = .raw)
    (taken : s.feed.takeLines units now = some (g, change)) :
    s.Announces change ⟨g, if change.isFinal then none else s.link⟩ := by
  unfold Feed.takeLines at taken
  cases empty : units.isEmpty with
  | true =>
      rw [empty] at taken
      cases taken
  | false =>
      rw [empty] at taken
      cases taken
      exact .lines script units (List.isEmpty_eq_false_iff.mp empty) now

theorem announces_of_takePatch {patch : Patch} (agent : s.feed.kind = .normalized)
    (taken : s.feed.takePatch patch now = (g, change)) :
    s.Announces change ⟨g, if change.isFinal then none else s.link⟩ := by
  unfold Feed.takePatch at taken
  cases clean : (s.feed.conversation.applyBatch patch now).2.isClean with
  | true =>
      simp only [clean, if_true] at taken
      cases taken
      exact .patched agent patch now clean
  | false =>
      simp only [clean, Bool.false_eq_true, if_false] at taken
      cases taken
      exact .partlyPatched agent patch now clean

theorem announces_of_takeMessage {m : Message}
    (taken : s.feed.takeMessage m now = some (g, change)) :
    s.Announces change ⟨g, if change.isFinal then none else s.link⟩ := by
  cases kind : s.feed.kind with
  | raw =>
      unfold Feed.takeMessage at taken
      rw [kind] at taken
      cases m with
      | stdout text => exact announces_of_takeLines kind taken
      | stderr text => exact announces_of_takeLines kind taken
      | patch patch => exact announces_of_takeLines kind taken
      | sessionId text => cases taken; exact .session text
      | finished => cases taken; exact .finished
  | normalized =>
      unfold Feed.takeMessage at taken
      rw [kind] at taken
      cases m with
      | stdout text => cases taken
      | stderr text => cases taken
      | patch patch => exact announces_of_takePatch kind (Option.some.inj taken)
      | sessionId text => cases taken; exact .session text
      | finished => cases taken; exact .finished

theorem announces_of_take {signal : Signal} (taken : s.feed.take signal now = some (g, change)) :
    s.Announces change ⟨g, if change.isFinal then none else s.link⟩ := by
  cases signal with
  | opened => cases taken; exact .connected
  | ended => cases taken; exact .finished
  | failed message => cases taken; exact .disconnected message
  | frame frame =>
      unfold Feed.take at taken
      cases decoded : Message.decode frame with
      | error e =>
          simp only [decoded] at taken
          cases taken
          exact .unreadable
      | ok found =>
          cases found with
          | none =>
              simp only [decoded] at taken
              cases taken
          | some m =>
              simp only [decoded] at taken
              exact announces_of_takeMessage taken

variable {e : Event}

/-- An event that is reported is accepted, and the subscription goes on as its change
says. -/
theorem announces_of_report (reported : s.report e now = some change) :
    s.accepts e = true ∧ s.Announces change (s.receive e now) := by
  cases accepted : s.accepts e with
  | false =>
      rw [report_of_refused now accepted] at reported
      cases reported
  | true =>
      refine ⟨rfl, ?_⟩
      unfold report take at reported
      unfold receive take
      rw [if_pos accepted] at reported ⊢
      cases taken : s.feed.take e.signal now with
      | none =>
          rw [taken] at reported
          cases reported
      | some result =>
          rw [taken] at reported
          cases reported
          exact announces_of_take taken

/-- An event that is not reported changes nothing. -/
theorem receive_of_not_reported (quiet : s.report e now = none) : s.receive e now = s := by
  cases accepted : s.accepts e with
  | false => exact receive_of_not_accepts now accepted
  | true =>
      unfold report take at quiet
      unfold receive take
      rw [if_pos accepted] at quiet ⊢
      cases taken : s.feed.take e.signal now with
      | none => rfl
      | some result =>
          rw [taken] at quiet
          cases quiet

/-- A frame that cannot be read is reported, and only the error changes. -/
theorem take_of_unreadable {signal : Signal} (unreadable : signal.isUnreadable = true)
    (s : Subscription) (now : Int) :
    s.take signal now = (s.withError Feed.updateFailure, some .updateFailed) := by
  cases signal with
  | opened => cases unreadable
  | ended => cases unreadable
  | failed message => cases unreadable
  | frame frame =>
      cases decoded : Message.decode frame with
      | ok found =>
          simp only [Signal.isUnreadable, decoded] at unreadable
          cases unreadable
      | error e =>
          simp only [take, Feed.take, decoded]
          rfl

theorem output_receive (silent : e.signal.carriesOutput = false) (s : Subscription) (now : Int) :
    (s.receive e now).feed.lines = s.feed.lines ∧
      (s.receive e now).feed.conversation = s.feed.conversation := by
  cases accepted : s.accepts e with
  | false =>
      rw [receive_of_not_accepts now accepted]
      exact ⟨rfl, rfl⟩
  | true =>
      rw [receive_of_accepts now accepted]
      exact s.feed.after_of_no_output silent now

end Step

end Subscription

namespace Hub

/-- Whether an event comes from a registered connection. -/
def hears (h : Hub) (e : Event) : Bool := h.subscriptions.any fun s => s.accepts e

/-- The hub with another error of a process. -/
def withError (h : Hub) (id : Uuid) (error : String) : Hub :=
  { h with subscriptions := h.subscriptions.map fun s => if s.id = id then s.withError error else s }

/-- What has been received of each process: the conversation with its published
snapshot, and the lines. -/
def output (h : Hub) : List (Uuid × Conversation × LineBuffer) :=
  h.subscriptions.map fun s => (s.id, s.feed.conversation, s.feed.lines)

/-- An event changes what it reports, and nothing else. -/
structure ChangesAsReported (h : Hub) (e : Event) (now : Int) : Prop where
  quiet : (h.handle e now).2 = none → (h.handle e now).1 = h
  announced : ∀ u, (h.handle e now).2 = some u → u.process = e.process ∧ h.hears e = true ∧
    ∃ s t, h.find? e.process = some s ∧ (h.handle e now).1.find? e.process = some t ∧
      s.Announces u.change t
  unreadable : e.signal.isUnreadable = true → h.handle e now =
    if h.hears e then (h.withError e.process Feed.updateFailure, some ⟨e.process, .updateFailed⟩)
    else (h, none)
  silent : e.signal.carriesOutput = false → (h.handle e now).1.output = h.output
  others : ∀ id, id ≠ e.process → (h.handle e now).1.find? id = h.find? id
  registry : (h.handle e now).1.ids = h.ids ∧ (h.handle e now).1.generation = h.generation ∧
    (h.handle e now).1.settings = h.settings ∧ (h.handle e now).1.backend = h.backend

section Handle

variable {h : Hub} {e : Event} {now : Int}

theorem handle_eq (sound : h.Sound) (e : Event) (now : Int) :
    h.handle e now = ({ h with subscriptions := h.subscriptions.map fun s => s.receive e now },
      ((h.find? e.process).bind fun s => s.report e now).map (Update.mk e.process)) := by
  rw [handle, deliver_eq sound.nodup]
  rfl

theorem hears_eq_true_iff (sound : h.Sound) :
    h.hears e = true ↔ ∃ s, h.find? e.process = some s ∧ s.accepts e = true := by
  unfold hears
  rw [List.any_eq_true]
  constructor
  · rintro ⟨s, listed, accepted⟩
    have owner := ((s.accepts_eq_true_iff e).mp accepted).1
    exact ⟨s, owner ▸ sound.find?_of_mem listed, accepted⟩
  · rintro ⟨s, found, accepted⟩
    exact ⟨s, (mem_of_findIn found).1, accepted⟩

theorem handle_of_not_heard (unheard : h.hears e = false) (now : Int) :
    h.handle e now = (h, none) := by
  have refused : ∀ s ∈ h.subscriptions, s.accepts e = false := by
    intro s listed
    rw [Bool.eq_false_iff]
    exact List.any_eq_false.mp unheard s listed
  unfold handle
  rw [deliver_of_not_accepted refused]
  rfl

/-- Every subscription that an event does not name is passed by, and so is the one
that it names if there is nothing to report. -/
theorem handle_of_not_reported (sound : h.Sound) (quiet : (h.handle e now).2 = none) :
    (h.handle e now).1 = h := by
  rw [handle_eq sound, Option.map_eq_none_iff] at quiet
  have unchanged : (h.subscriptions.map fun s => s.receive e now) = h.subscriptions := by
    refine (List.map_congr_left ?_).trans (List.map_id' _)
    intro s listed
    by_cases owner : s.id = e.process
    · have found := sound.find?_of_mem listed
      rw [owner] at found
      rw [found, Option.bind_some] at quiet
      exact Subscription.receive_of_not_reported quiet
    · exact Subscription.receive_of_ne now owner
  rw [handle_eq sound, unchanged]

theorem handle_of_unreadable (sound : h.Sound) (unreadable : e.signal.isUnreadable = true)
    (heard : h.hears e = true) (now : Int) :
    h.handle e now =
      (h.withError e.process Feed.updateFailure, some ⟨e.process, .updateFailed⟩) := by
  rcases (hears_eq_true_iff sound).mp heard with ⟨s, found, accepted⟩
  have marked : (h.subscriptions.map fun t => t.receive e now) =
      h.subscriptions.map fun t =>
        if t.id = e.process then t.withError Feed.updateFailure else t := by
    apply List.map_congr_left
    intro t listed
    by_cases owner : t.id = e.process
    · have same := sound.find?_of_mem listed
      rw [owner, found] at same
      cases same
      rw [if_pos owner, Subscription.receive, if_pos accepted,
        Subscription.take_of_unreadable unreadable]
    · rw [if_neg owner, Subscription.receive_of_ne now owner]
  have reported : s.report e now = some .updateFailed := by
    rw [Subscription.report, if_pos accepted, Subscription.take_of_unreadable unreadable]
  rw [handle_eq sound, marked, found, Option.bind_some, reported]
  rfl

theorem changesAsReported (sound : h.Sound) (e : Event) (now : Int) :
    h.ChangesAsReported e now where
  quiet := handle_of_not_reported sound
  announced := by
    intro u reported
    rw [handle_eq sound, Option.map_eq_some_iff] at reported
    rcases reported with ⟨change, made, rfl⟩
    rcases Option.bind_eq_some_iff.mp made with ⟨s, found, report⟩
    rcases Subscription.announces_of_report report with ⟨accepted, announces⟩
    refine ⟨rfl, (hears_eq_true_iff sound).mpr ⟨s, found, accepted⟩, s, _, found, ?_, announces⟩
    rw [find?_handle, found, Option.map_some]
  unreadable := by
    intro unreadable
    cases heard : h.hears e with
    | true => exact handle_of_unreadable sound unreadable heard now
    | false => exact handle_of_not_heard heard now
  silent := by
    intro silent
    rw [handle_eq sound, output, List.map_map]
    apply List.map_congr_left
    intro s _listed
    rcases Subscription.output_receive silent s now with ⟨lines, conversation⟩
    rw [Function.comp_apply, Subscription.id_receive, lines, conversation]
  others := by
    intro id different
    rw [find?_handle]
    cases found : h.find? id with
    | none => rfl
    | some s =>
        have other : s.id ≠ e.process := fun owner =>
          different ((mem_of_findIn found).2.symm.trans owner)
        rw [Option.map_some, Subscription.receive_of_ne now other]
  registry := ⟨h.ids_handleAll [(e, now)], rfl, rfl, rfl⟩

end Handle

/-- Whatever state a run has led to, the next event changes what it reports and
nothing else: no report, no change; of the subscription that it names what the change
says; the error alone for a frame that cannot be read; no output where it carries none;
and never anything of another process. -/
theorem changes_as_reported (settings : Settings) (backend : Backend) (actions : List Action)
    (e : Event) (now : Int) : ((empty settings backend).run actions).ChangesAsReported e now :=
  changesAsReported ((Remembers.empty settings backend).run actions).sound e now

/-- A script whose line was received sends a patch that breaks off. The error is set, and
the line is still there. -/
theorem line_outlives_torn_patch :
    let backend := Backend.atHost "b"
    let script : Execution := ⟨default, .setupScript, .running, false⟩
    let actions : List Action := [.sync [script] 0, .handle ⟨script.id, 1, .opened⟩ 1,
      .handle ⟨script.id, 1, .frame (.event "stdout" "hello")⟩ 2]
    let h := (empty Settings.default backend).run actions
    let torn : Event := ⟨script.id, 1, .frame (.event "json_patch" "[")⟩
    torn.signal.isUnreadable = true ∧
      h.handle torn 3 =
        (h.withError script.id Feed.updateFailure, some ⟨script.id, .updateFailed⟩) ∧
      (h.handle torn 3).1.output = h.output ∧
      (h.output.map fun part => part.2.2.lines.map Line.unit) = [[.stdout "hello"]] := by
  intro backend script actions h torn
  have changes := changes_as_reported Settings.default backend actions torn 3
  have unreadable : torn.signal.isUnreadable = true := by decide +kernel
  have silent : torn.signal.carriesOutput = false := by decide +kernel
  have heard : h.hears torn = true := by decide +kernel
  have marked := changes.unreadable unreadable
  rw [if_pos heard] at marked
  exact ⟨unreadable, marked, changes.silent silent, by decide +kernel⟩

end Hub

end LiveLog
