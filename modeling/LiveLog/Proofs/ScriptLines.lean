import LiveLog.Proofs.GrowingParts
import LiveLog.Proofs.LosslessEntries
import LiveLog.Proofs.Presentations
import LiveLog.Proofs.Retention

namespace LiveLog

/-!
# The lines of a script, printed

While the limits are wide enough, the lines of a script form a part of the merged
log that only grows: nothing is let go, the arrival stamps do not go back even if
the clock does, and the order of time is stable. So they are printed once each, in
the order in which they came, whatever the other processes do. A line is of no
gathered kind, so it never becomes a part of a group.
-/

namespace Hub

variable {h : Hub} {id : Uuid}

/-- The reports that count for a process while events are applied, each with its
time. -/
def heard (h : Hub) (id : Uuid) : List (Event × Int) → List (Signal × Int)
  | [] => []
  | (e, now) :: rest =>
    (if (h.find? id).any fun s => s.accepts e then [(e.signal, now)] else []) ++
      (h.handle e now).1.heard id rest

/-- The lines that a script receives while events are applied, each with its time. -/
def received (h : Hub) (id : Uuid) (events : List (Event × Int)) : List (LogUnit × Int) :=
  (h.heard id events).flatMap Signal.arrivals

/-- The feed of a process is the replay of the reports that counted for it. -/
theorem feed_handleAll {s : Subscription} (found : h.find? id = some s)
    (events : List (Event × Int)) :
    ∃ t, (h.handleAll events).1.find? id = some t ∧ t.feed = s.feed.replay (h.heard id events) := by
  induction events generalizing h s with
  | nil => exact ⟨s, found, rfl⟩
  | cons event rest inductionHypothesis =>
      rcases event with ⟨e, now⟩
      have after : (h.handle e now).1.find? id = some (s.receive e now) := by
        rw [find?_handle, found]
        rfl
      rcases inductionHypothesis after with ⟨t, last, replayed⟩
      refine ⟨t, last, ?_⟩
      rw [replayed, heard, found, Option.any_some]
      cases accepted : s.accepts e with
      | true =>
          rw [Subscription.receive_of_accepts now accepted]
          rfl
      | false =>
          rw [Subscription.receive_of_not_accepts now accepted]
          rfl

end Hub

/-- The lines of a script hold text. -/
theorem Message.ne_entry_of_mem_lines {m : Message} {unit : LogUnit} (brought : unit ∈ m.lines)
    (e : Entry) : unit ≠ .entry e := by
  intro same
  cases m with
  | stdout text =>
      rw [List.mem_singleton.mp brought] at same
      cases same
  | stderr text =>
      rw [List.mem_singleton.mp brought] at same
      cases same
  | patch operations =>
      rcases List.mem_filterMap.mp brought with ⟨op, _listed, made⟩
      rw [same] at made
      split at made
      · split at made
        · cases made
        · rename_i other
          exact other e made
      · cases made
  | sessionId text => cases brought
  | finished => cases brought

theorem Signal.ne_entry_of_mem_lines {s : Signal} {unit : LogUnit} (brought : unit ∈ s.lines)
    (e : Entry) : unit ≠ .entry e := by
  unfold Signal.lines at brought
  cases message : s.message? with
  | none =>
      rw [message] at brought
      cases brought
  | some m =>
      rw [message] at brought
      exact Message.ne_entry_of_mem_lines brought e

namespace Hub

/-- The lines that are kept of a process. -/
def linesOf (h : Hub) (id : Uuid) : List Line :=
  ((h.find? id).map fun s => s.feed.lines.lines).getD []

/-- Whether no line of a process has been let go. -/
def Keeps (h : Hub) (id : Uuid) : Prop :=
  ∀ s, h.find? id = some s → s.feed.lines.evicted = false

section Scripts

variable {g h : Hub} {ps : List Execution} {p : Execution}

theorem Follows.exists_find (follows : h.Follows ps) (followed : p ∈ distinct ps) :
    ∃ s, h.find? p.id = some s ∧ s.feed.process = p := by
  rw [← follows.processes] at followed
  rcases List.mem_map.mp followed with ⟨s, listed, same⟩
  refine ⟨s, (findIn_eq_some_iff follows.nodup_ids).mpr ⟨listed, ?_⟩, same⟩
  exact congrArg Execution.id same

theorem Follows.precedes_find (follows : g.Follows ps) (precedes : g.Precedes h)
    {t : Subscription} (found : h.find? p.id = some t) :
    ∃ s, g.find? p.id = some s ∧ s.feed.Precedes t.feed := by
  rcases mem_of_findIn found with ⟨listed, named⟩
  rcases precedes t listed with ⟨r, member, before⟩
  refine ⟨r, (findIn_eq_some_iff follows.nodup_ids).mpr ⟨member, ?_⟩, before⟩
  rw [← named]
  exact (congrArg Execution.id before.process).symm

theorem Keeps.earlier (follows : g.Follows ps) (precedes : g.Precedes h) (later : h.Follows ps)
    (followed : p ∈ distinct ps) (keeps : h.Keeps p.id) : g.Keeps p.id := by
  intro s found
  rcases later.exists_find followed with ⟨t, last, _same⟩
  rcases follows.precedes_find precedes last with ⟨r, first, before⟩
  rw [found] at first
  cases first
  rw [← Bool.not_eq_true]
  intro evicted
  have gone := before.lines.evicted evicted
  rw [keeps t last] at gone
  cases gone

/-- The lines of a process that lets none go are a beginning of its later lines. -/
theorem Keeps.linesOf_prefix (keeps : h.Keeps p.id) (follows : g.Follows ps)
    (precedes : g.Precedes h) (later : h.Follows ps) (followed : p ∈ distinct ps) :
    g.linesOf p.id <+: h.linesOf p.id := by
  rcases later.exists_find followed with ⟨t, last, _same⟩
  rcases follows.precedes_find precedes last with ⟨s, first, before⟩
  unfold linesOf
  rw [first, last]
  exact before.lines.whole (keeps t last)

/-- In a log within its capacity a script is shown by its lines, in their order. -/
theorem Follows.filter_merged (follows : h.Follows ps) (followed : p ∈ distinct ps)
    (script : p.kind = .raw) (roomy : h.IsRoomy) :
    h.merged.filter (fun e => e.processId = p.id) = (h.linesOf p.id).map (Line.entry p) := by
  rcases follows.exists_find followed with ⟨s, found, rfl⟩
  have listed := (mem_of_findIn found).1
  have own := filter_ordered_of_raw follows.nodup_ids listed script (follows.inOrder s listed).lines
  unfold merged linesOf
  rw [Timeline.compose_of_le roomy, found]
  exact own

end Scripts

/-- A script that is followed from the start keeps the lines that it has received,
unless it has let some go. -/
theorem linesOf_of_start (settings : Settings) (backend : Backend) {ps : List Execution}
    (now : Int) (events : List (Event × Int)) {p : Execution} (followed : p ∈ distinct ps)
    (script : p.kind = .raw)
    (keeps : ((((Hub.empty settings backend).sync ps now).handleAll events).1).Keeps p.id) :
    ((((Hub.empty settings backend).sync ps now).handleAll events).1).linesOf p.id =
      Line.history (((Hub.empty settings backend).sync ps now).received p.id events) := by
  have follows := Follows.start settings backend ps now
  rcases follows.exists_find followed with ⟨s, found, same⟩
  rcases feed_of_mem_start (mem_of_findIn found).1 with ⟨q, error, fresh⟩
  have kind : s.feed.kind = .raw := by
    unfold Feed.kind
    rw [same]
    exact script
  have empty : s.feed.lines = .ofPushes settings [] := by
    rw [fresh]
    rfl
  rcases feed_handleAll found events with ⟨t, last, replayed⟩
  have all := Feed.lines_replay_of_raw kind empty
    (((Hub.empty settings backend).sync ps now).heard p.id events)
  rw [← replayed, List.nil_append] at all
  have whole := keeps t last
  rw [all] at whole
  unfold linesOf received
  rw [last, Option.map_some, Option.getD_some, all]
  exact LineBuffer.lines_ofPushes whole

/-- What a script receives is text. -/
theorem ne_entry_of_mem_received {h : Hub} {id : Uuid} {events : List (Event × Int)} {line : Line}
    (listed : line ∈ Line.history (h.received id events)) (e : Entry) : line.unit ≠ .entry e := by
  rcases List.mem_mapIdx.mp listed with ⟨k, within, rfl⟩
  have pushed := List.getElem_mem within
  rcases List.mem_flatMap.mp pushed with ⟨report, _heard, arrived⟩
  rcases List.mem_map.mp arrived with ⟨unit, brought, same⟩
  rw [← same]
  exact Signal.ne_entry_of_mem_lines brought e

end Hub

/-! ## What is printed of a script -/

/-- A line of text is of no gathered kind. -/
theorem Line.kind?_entry (p : Execution) {line : Line} (text : ∀ e, line.unit ≠ .entry e) :
    Rows.kind? (line.entry p) = none := by
  unfold Rows.kind? Showable.entry? instShowableMergedEntry MergedEntry.entry? Line.entry
  cases unit : line.unit with
  | stdout text => rfl
  | stderr text => rfl
  | entry e => exact absurd unit (text e)

namespace Follower

section Scripts

variable {f : Follower} {ps : List Execution} {p : Execution} {events : List (Event × Int)}

/-- Whether an entry belongs to a process. -/
def isOf (p : Execution) (e : MergedEntry) : Bool := decide (e.processId = p.id)

/-- At every moment the lines of a script are a beginning of its last ones. -/
theorem keeps_moments (follows : f.hub.Follows ps) (followed : p ∈ Hub.distinct ps)
    (keeps : ((f.hub.handleAll events).1).Keeps p.id) :
    ∀ m ∈ f.hub.moments events, m.1.Keeps p.id ∧
      m.1.linesOf p.id <+: ((f.hub.handleAll events).1).linesOf p.id := by
  rcases Hub.moments_eq f.hub events with ⟨earlier, split, _growing⟩
  have all : ∀ m ∈ f.hub.moments events, m.1.Follows ps := follows.moments
  have ordered := Hub.pairwise_moments f.hub events
  rw [split] at all ordered ⊢
  have last := all _ (List.mem_append_right earlier List.mem_cons_self)
  intro m listed
  have precedes : m.1.Precedes (f.hub.handleAll events).1 := by
    rcases List.mem_append.mp listed with before | same
    · exact (List.pairwise_append.mp ordered).2.2 m before _ List.mem_cons_self
    · rw [List.mem_singleton.mp same]
      exact Hub.Precedes.refl _
  exact ⟨keeps.earlier (all m listed) precedes last followed,
    keeps.linesOf_prefix (all m listed) precedes last followed⟩

/-- The entries of a script in a presentation. -/
theorem entries_of_script (follows : f.hub.Follows ps) (followed : p ∈ Hub.distinct ps)
    (script : p.kind = .raw) (roomy : ∀ m ∈ f.hub.moments events, m.1.IsRoomy)
    {m : Hub × Bool} (moment : m ∈ f.hub.moments events) :
    (showing f.grouped m).entries.filter (isOf p) = (m.1.linesOf p.id).map (Line.entry p) := by
  rw [entries_showing]
  exact (follows.moments m moment).filter_merged followed script (roomy m moment)

theorem showsPart_of_script (follows : f.hub.Follows ps) (followed : p ∈ Hub.distinct ps)
    (script : p.kind = .raw) (roomy : ∀ m ∈ f.hub.moments events, m.1.IsRoomy)
    (keeps : ((f.hub.handleAll events).1).Keeps p.id) {m : Hub × Bool}
    (moment : m ∈ f.hub.moments events) :
    Printer.ShowsPart (showing f.grouped m) (isOf p)
      ((((f.hub.handleAll events).1).linesOf p.id).map (Line.entry p)) where
  distinct := nodup_ids_showings follows _ (List.mem_map_of_mem moment)
  part := by
    rw [entries_of_script follows followed script roomy moment]
    exact (keeps_moments follows followed keeps m moment).2.map (Line.entry p)
  told := by
    intro d listed e member same
    rw [entries_showing] at listed
    rcases Hub.mem_merged listed with ⟨s, _subscribed, shown⟩
    rcases Source.id_of_mem shown with ⟨position, named⟩
    rcases List.mem_map.mp member with ⟨line, _kept, rfl⟩
    rw [named] at same
    exact decide_eq_true (MergedEntry.idOf_inj.mp same).1

/-- The entries of a script are printed once each and in order. -/
theorem printed_of_script (follows : f.hub.Follows ps) (followed : p ∈ Hub.distinct ps)
    (script : p.kind = .raw) (roomy : ∀ m ∈ f.hub.moments events, m.1.IsRoomy)
    (keeps : ((f.hub.handleAll events).1).Keeps p.id) (json : Bool) :
    (Rows.flatten ((Printer.fresh json).printedAll (f.showings events)).flatten).filter (isOf p) =
      (((f.hub.handleAll events).1).linesOf p.id).map (Line.entry p) := by
  rcases Hub.moments_eq f.hub events with ⟨earlier, split, _growing⟩
  have last : ((f.hub.handleAll events).1, true) ∈ f.hub.moments events := by
    rw [split]
    exact List.mem_append_right earlier List.mem_cons_self
  have complete := entries_of_script follows followed script roomy last
  have shown : f.showings events =
      earlier.map (showing f.grouped) ++
        [showing f.grouped ((f.hub.handleAll events).1, true)] := by
    unfold showings
    rw [split, List.map_append, List.map_singleton]
  have once : (((showing f.grouped ((f.hub.handleAll events).1, true)).entries.filter
      (isOf p)).map MergedEntry.id).Nodup := by
    have distinct := nodup_ids_showings follows _
      (List.mem_map_of_mem (f := showing f.grouped) last)
    exact distinct.sublist (List.filter_sublist.map MergedEntry.id)
  have parts : ∀ s ∈ f.showings events, Printer.ShowsPart s (isOf p)
      ((showing f.grouped ((f.hub.handleAll events).1, true)).entries.filter (isOf p)) := by
    intro s listed
    rcases List.mem_map.mp listed with ⟨m, moment, rfl⟩
    rw [complete]
    exact showsPart_of_script follows followed script roomy keeps moment
  have growing :
      ((f.showings events).map fun s => s.entries.filter (isOf p)).IsChain (· <+: ·) := by
    apply List.Pairwise.isChain
    unfold showings
    rw [List.map_map, List.pairwise_map]
    apply (Hub.pairwise_moments f.hub events).imp_of_mem
    intro m n before after precedes
    have later := (keeps_moments follows followed keeps n after).1
    change (showing f.grouped m).entries.filter (isOf p) <+:
      (showing f.grouped n).entries.filter (isOf p)
    rw [entries_of_script follows followed script roomy before,
      entries_of_script follows followed script roomy after]
    exact (later.linesOf_prefix (follows.moments m before) precedes (follows.moments n after)
      followed).map (Line.entry p)
  rw [shown] at parts growing ⊢
  have printed := (Printer.Progress.fresh json _).printedAll rfl once _ parts growing
    fun _ _ => List.nil_prefix
  rw [List.nil_append, complete] at printed
  exact printed

/-- Every printed row that shows a line of a script is a row of its own. -/
theorem row_of_script (follows : f.hub.Follows ps) (followed : p ∈ Hub.distinct ps)
    (script : p.kind = .raw) (roomy : ∀ m ∈ f.hub.moments events, m.1.IsRoomy)
    (keeps : ((f.hub.handleAll events).1).Keeps p.id)
    (text : ∀ line ∈ ((f.hub.handleAll events).1).linesOf p.id, ∀ e, line.unit ≠ .entry e)
    {q : Printer} : ∀ row ∈ (q.printedAll (f.showings events)).flatten,
      ∀ e ∈ row.entries, isOf p e = true → row = .entry e := by
  intro row listed e shown owned
  rcases Printer.exists_showing_of_mem listed with ⟨r, s, member, printed⟩
  rcases List.mem_map.mp member with ⟨m, moment, rfl⟩
  rcases Printer.exists_row_of_printed printed with ⟨viewed, inView, part, single⟩
  have entry := part.subset shown
  have own : e ∈ (showing f.grouped m).entries.filter (isOf p) :=
    List.mem_filter.mpr ⟨Rows.mem_flatten.mpr ⟨viewed, inView, entry⟩, owned⟩
  rw [entries_of_script follows followed script roomy moment] at own
  rcases List.mem_map.mp own with ⟨line, kept, rfl⟩
  have last := (keeps_moments follows followed keeps m moment).2.subset kept
  exact single _ (Rows.eq_entry_of_mem_view inView entry (line.kind?_entry p (text line last)))

/-- A script whose lines are all kept has its lines printed, each in one row. -/
theorem rows_of_script (follows : f.hub.Follows ps) (followed : p ∈ Hub.distinct ps)
    (script : p.kind = .raw) (roomy : ∀ m ∈ f.hub.moments events, m.1.IsRoomy)
    (keeps : ((f.hub.handleAll events).1).Keeps p.id)
    (text : ∀ line ∈ ((f.hub.handleAll events).1).linesOf p.id, ∀ e, line.unit ≠ .entry e)
    (json : Bool) :
    (((Printer.fresh json).printedAll (f.showings events)).flatten).filter
        (fun row => row.entries.any (isOf p)) =
      (((f.hub.handleAll events).1).linesOf p.id).map fun line => Row.entry (line.entry p) := by
  rw [Printer.filter_rows (row_of_script follows followed script roomy keeps text),
    printed_of_script follows followed script roomy keeps json, List.map_map]
  rfl

end Scripts

end Follower

/-! ## The printed text -/

/-- A unit of output tells a text, under the name of a channel of scripts. -/
inductive LogUnit.Tells : LogUnit → String → String → Prop
  | stdout (s : String) : Tells (.stdout s) "raw" s
  | stderr (s : String) : Tells (.stderr s) "stderr" s

namespace Line

variable {p : Execution} {line : Line}

/-- The value that is printed of a line of a script. -/
def value (p : Execution) (line : Line) (name channel said : String) : Json :=
  .obj [("kind", .str "entry"), ("id", .str (p.id.text ++ ":" ++ Count.text line.position)),
    ("ts", .ofInt line.arrivedAt), ("process_id", .str p.id.text),
    ("process_name", .str name), ("channel", .str channel),
    ("payload", .obj [("kind", .str "text"), ("value", .str said)])]

/-- Whether a text is what is printed of a line of a script: the time of the line, the name
of the process, the channel and what the line says; or the text of a value with these
fields. The value is read from its text if the time has 64 bits. -/
def IsPrinted (p : Execution) (json : Bool) (line : Line) (printed : String) : Prop :=
  ∃ name channel said, p.reason.IsCalled name ∧ line.unit.Tells channel said ∧
    if json then
      printed = (value p line name channel said).compact ∧
        (-9223372036854775808 ≤ line.arrivedAt → line.arrivedAt ≤ 9223372036854775807 →
          Json.ofText printed = .ok (value p line name channel said))
    else printed =
      Clock.text line.arrivedAt ++ " [" ++ name ++ "] " ++ channel ++ ": " ++ said

theorem ofText_value (least : -9223372036854775808 ≤ line.arrivedAt)
    (most : line.arrivedAt ≤ 9223372036854775807) (name channel said : String) :
    Json.ofText (value p line name channel said).compact =
      .ok (value p line name channel said) := by
  have number := Json.isLossless_ofInt least most
  have lossless : (value p line name channel said).IsLossless := by
    simp [value, number]
  have nesting : (value p line name channel said).nesting = 2 := rfl
  have shallow : (value p line name channel said).nesting ≤ Draft.deepest := by
    rw [nesting]
    decide
  exact Json.ofText_compact lossless.integral lossless.distinct shallow

/-- The row of a line of text is printed as the line. -/
theorem isPrinted_render (json : Bool) (text : ∀ e, line.unit ≠ .entry e) :
    line.IsPrinted p json (Printer.render json (.entry (line.entry p))) := by
  rcases line with ⟨position, unit, arrivedAt, size⟩
  have spoken : ∃ channel said, unit.Tells channel said ∧
      Printer.render true (.entry (Line.entry p ⟨position, unit, arrivedAt, size⟩)) =
        (value p ⟨position, unit, arrivedAt, size⟩ p.displayName channel said).compact ∧
      Printer.render false (.entry (Line.entry p ⟨position, unit, arrivedAt, size⟩)) =
        Clock.text arrivedAt ++ " [" ++ p.displayName ++ "] " ++ channel ++ ": " ++ said := by
    cases unit with
    | entry e => exact absurd rfl (text e)
    | stdout s => exact ⟨"raw", s, .stdout s, rfl, rfl⟩
    | stderr s => exact ⟨"stderr", s, .stderr s, rfl, rfl⟩
  rcases spoken with ⟨channel, said, tells, value, words⟩
  refine ⟨p.displayName, channel, said, RunReason.isCalled_iff.mpr rfl, tells, ?_⟩
  cases json with
  | false => exact words
  | true =>
      rw [if_pos rfl, value]
      exact ⟨rfl, fun least most => ofText_value least most p.displayName channel said⟩

end Line

namespace Follower

/-- While the merged log stays within its capacity and no line of a script is let
go, every line that the script receives is printed over the whole run, in one row that
shows nothing else, and these rows come in the order of the lines. What is printed of a
row is the time, the process, the channel and the text of its line, or the value that
says so. -/
theorem script_lines_printed (settings : Settings) (backend : Backend) (grouped json : Bool)
    (ps : List Execution) (now : Int) (events : List (Event × Int)) {p : Execution}
    (followed : p ∈ Hub.distinct ps) (script : p.kind = .raw)
    (roomy : ∀ m ∈ (start settings backend grouped json ps now).hub.moments events, m.1.IsRoomy)
    (keeps : (((start settings backend grouped json ps now).hub.handleAll events).1).Keeps p.id) :
    let f := start settings backend grouped json ps now
    let lines := Line.history (f.hub.received p.id events)
    (f.follow events).1 = (f.rows events).map (Printer.render json) ∧
      ((f.rows events).filter fun row => row.entries.any (isOf p)) =
        lines.map (fun line => Row.entry (line.entry p)) ∧
      ∀ line ∈ lines, line.IsPrinted p json (Printer.render json (.entry (line.entry p))) := by
  intro f lines
  have kept : ((f.hub.handleAll events).1).linesOf p.id = lines :=
    Hub.linesOf_of_start settings backend now events followed script keeps
  have text : ∀ line ∈ lines, ∀ e, line.unit ≠ .entry e :=
    fun line listed e => Hub.ne_entry_of_mem_received listed e
  have rows := rows_of_script (f := f) (Hub.Follows.start settings backend ps now) followed script
    roomy keeps (kept ▸ text) json
  rw [kept] at rows
  exact ⟨follow_rows _ events, rows,
    fun line listed => Line.isPrinted_render json (text line listed)⟩

/-- A script, an agent and a server are followed, and the clock goes back. The server
breaks off while the script still reports. What is printed of the script is shown as text,
and as what is read from the values. -/
theorem script_among_others :
    let backend := Backend.atHost "b"
    let process (digit : Fin 16) (reason : RunReason) : Execution :=
      ⟨⟨List.replicate 32 digit, List.length_replicate⟩, reason, .running, false⟩
    let script := process 1 .setupScript
    let agent := process 2 .codingAgent
    let server := process 3 .devServer
    let line (text : String) : Signal := .frame (.event "stdout" text)
    let events : List (Event × Int) :=
      [(⟨script.id, 1, .opened⟩, 10), (⟨server.id, 3, line "listening"⟩, 20),
        (⟨script.id, 1, line "one"⟩, 30), (⟨agent.id, 2, .frame (.event "session_id" "s")⟩, 30),
        (⟨server.id, 3, .failed "gone"⟩, 5), (⟨script.id, 1, .frame (.event "stderr" "two")⟩, 7),
        (⟨script.id, 1, .frame (.event "finished" "")⟩, 8), (⟨script.id, 1, line "late"⟩, 9)]
    let follower (json : Bool) :=
      start Settings.default backend true json [script, agent, server] 0
    let printed (json : Bool) : List String :=
      (((follower json).rows events).filter fun row => row.entries.any (isOf script)).map
        (Printer.render json)
    let owner := "11111111-1111-1111-1111-111111111111"
    let told (position channel said : String) : Json :=
      .obj [("kind", .str "entry"), ("id", .str (owner ++ ":" ++ position)), ("ts", .ofInt 30),
        ("process_id", .str owner), ("process_name", .str "Setup Script"),
        ("channel", .str channel), ("payload", .obj [("kind", .str "text"), ("value", .str said)])]
    printed false =
        ["00:00:00.030 [Setup Script] raw: one", "00:00:00.030 [Setup Script] stderr: two"] ∧
      (printed true).map (fun text => (Json.ofText text).toOption) =
        [some (told "0" "raw" "one"), some (told "1" "stderr" "two")] := by
  intro backend process script agent server line events follower printed owner told
  have roomy (json : Bool) : ∀ m ∈ (follower json).hub.moments events, m.1.IsRoomy := by
    cases json <;> decide +kernel
  have keeps (json : Bool) : (((follower json).hub.handleAll events).1).Keeps script.id := by
    intro s found
    have kept : ((((follower json).hub.handleAll events).1.find? script.id).map
        fun s => s.feed.lines.evicted) = some false := by cases json <;> decide +kernel
    rw [found] at kept
    exact Option.some.inj kept
  have lines (json : Bool) := script_lines_printed Settings.default backend true json
    [script, agent, server] 0 events (p := script) (by decide +kernel) rfl (roomy json) (keeps json)
  let one : Line := ⟨0, .stdout "one", 30, (LogUnit.stdout "one").size⟩
  let two : Line := ⟨1, .stderr "two", 30, (LogUnit.stderr "two").size⟩
  have received (json : Bool) :
      Line.history ((follower json).hub.received script.id events) = [one, two] := by
    cases json <;> decide +kernel
  have shown (json : Bool) : printed json =
      [one, two].map fun line => Printer.render json (.entry (line.entry script)) := by
    change List.map _ _ = _
    rw [(lines json).2.1, received, List.map_map]
    rfl
  have read (line : Line) (listed : line ∈ [one, two]) :
      line.IsPrinted script true (Printer.render true (.entry (line.entry script))) :=
    (lines true).2.2 line (received true ▸ listed)
  rw [shown, shown]
  refine ⟨by decide +kernel, ?_⟩
  rcases read one (by simp) with ⟨_, _, _, ⟨⟩, ⟨⟩, -, first⟩
  rcases read two (by simp) with ⟨_, _, _, ⟨⟩, ⟨⟩, -, second⟩
  have firstRead := first (by decide) (by decide)
  have secondRead := second (by decide) (by decide)
  simp only [List.map_cons, List.map_nil, firstRead, secondRead]
  decide +kernel

end Follower

end LiveLog
