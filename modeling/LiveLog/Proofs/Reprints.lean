import LiveLog.Proofs.Presentations

namespace LiveLog

/-!
# Why an entry is printed again

A printer repeats an entry that stays in view only when its line has changed. The
line of a script's entry never changes, because no other line takes its position.
The line of an agent's entry changes with what the entry shows, and with its time.
An entry that has a timestamp keeps its time. An entry without one is placed
relative to the end of the latest batch, so its time may change whenever the agent
has something to say, and the entry is printed again although it is the same.
-/

namespace Printer

/-- The showings of a run after one that leaves a line remembered: if the entry
stays in view and is printed again, then first with another line. -/
theorem exists_call_with_other_line {p : Printer} {rest : List Showing}
    (distinct : ∀ s ∈ rest, s.ids.Nodup) {id line : String}
    (remembered : p.shown.lookup id = some line) {j : Nat}
    {d : Showing × List (Row MergedEntry)} (found : (p.calls rest)[j]? = some d)
    (printed : id ∈ (Rows.flatten d.2).map MergedEntry.id)
    (kept : ∀ k < j, ∀ c, (p.calls rest)[k]? = some c → id ∈ c.1.ids) :
    ∃ k ≤ j, ∃ c z, (p.calls rest)[k]? = some c ∧ z ∈ Rows.flatten c.2 ∧ z.id = id ∧
      z.line ≠ line := by
  induction rest generalizing p j with
  | nil => cases found
  | cons s rest inductionHypothesis =>
      rw [calls_cons] at found kept ⊢
      -- Either this showing prints the entry, or it leaves the remembered line alone.
      by_cases now : id ∈ (Rows.flatten (p.printed s)).map MergedEntry.id
      · rcases List.mem_map.mp now with ⟨z, listed, named⟩
        refine ⟨0, Nat.zero_le j, _, z, rfl, listed, named, ?_⟩
        intro same
        apply ((mem_flatten_printed (distinct s List.mem_cons_self)).mp listed).2
        rw [named, same]
        exact remembered
      · cases j with
        | zero =>
            cases found
            exact absurd printed now
        | succ j =>
            have present := kept 0 (Nat.succ_pos j) _ rfl
            rw [← lookup_next_of_not_printed (distinct s List.mem_cons_self) present now]
              at remembered
            have later := inductionHypothesis
              (fun t listed => distinct t (List.mem_cons_of_mem s listed)) remembered found
              (fun k before c call => kept (k + 1) (Nat.succ_lt_succ before) c call)
            rcases later with ⟨k, upper, c, z, call, other⟩
            exact ⟨k + 1, Nat.succ_le_succ upper, c, z, call, other⟩

/-- Between two showings that print an entry, the later one included, the entry is
printed with another line, unless it was out of view. -/
theorem exists_other_line {p : Printer} {showings : List Showing}
    (distinct : ∀ s ∈ showings, s.ids.Nodup) {i j : Nat} (order : i < j)
    {c d : Showing × List (Row MergedEntry)} (earlier : (p.calls showings)[i]? = some c)
    (later : (p.calls showings)[j]? = some d) {x : MergedEntry} (first : x ∈ Rows.flatten c.2)
    (second : x.id ∈ (Rows.flatten d.2).map MergedEntry.id)
    (kept : ∀ k, i < k → k < j → ∀ e, (p.calls showings)[k]? = some e → x.id ∈ e.1.ids) :
    ∃ k, i < k ∧ k ≤ j ∧ ∃ e z, (p.calls showings)[k]? = some e ∧ z ∈ Rows.flatten e.2 ∧
      z.id = x.id ∧ z.line ≠ x.line := by
  induction showings generalizing p i j with
  | nil => cases earlier
  | cons s rest inductionHypothesis =>
      have others : ∀ t ∈ rest, t.ids.Nodup := fun t listed =>
        distinct t (List.mem_cons_of_mem s listed)
      rw [calls_cons] at earlier later kept ⊢
      cases j with
      | zero => exact absurd order (Nat.not_lt_zero i)
      | succ j =>
          cases i with
          | zero =>
              cases earlier
              have here := distinct s List.mem_cons_self
              have settled := ((mem_flatten_printed here).mp first).1
              have remembered := lookup_next_of_settled (p := p) here settled
              have again := exists_call_with_other_line others remembered later second
                (fun k before e call => kept (k + 1) (Nat.succ_pos k) (Nat.succ_lt_succ before) e call)
              rcases again with ⟨k, upper, e, z, call, other⟩
              exact ⟨k + 1, Nat.succ_pos k, Nat.succ_le_succ upper, e, z, call, other⟩
          | succ i =>
              have again := inductionHypothesis others (Nat.lt_of_succ_lt_succ order) earlier later
                (fun k lower upper e call =>
                  kept (k + 1) (Nat.succ_lt_succ lower) (Nat.succ_lt_succ upper) e call)
              rcases again with ⟨k, lower, upper, e, z, call, other⟩
              exact ⟨k + 1, Nat.succ_lt_succ lower, Nat.succ_le_succ upper, e, z, call, other⟩

/-- What a call prints has been shown to it. -/
theorem mem_entries_of_call {p : Printer} {showings : List Showing}
    (distinct : ∀ s ∈ showings, s.ids.Nodup) {k : Nat} {c : Showing × List (Row MergedEntry)}
    (call : (p.calls showings)[k]? = some c) :
    showings[k]? = some c.1 ∧ ∀ e ∈ Rows.flatten c.2, e ∈ c.1.entries := by
  induction showings generalizing p k with
  | nil => cases call
  | cons s rest inductionHypothesis =>
      rw [calls_cons] at call
      cases k with
      | zero =>
          cases call
          exact ⟨rfl, fun e listed => mem_entries_of_printed (distinct s List.mem_cons_self) listed⟩
      | succ k =>
          exact inductionHypothesis (fun t listed => distinct t (List.mem_cons_of_mem s listed))
            call

end Printer

/-! ## What changes a line -/

/-- The milliseconds of an entry's own timestamp. -/
def MergedEntry.millis? (e : MergedEntry) : Option Int := e.entry?.bind Entry.millis?

namespace Source

theorem processName_of_mem {s : Source} {e : MergedEntry} (listed : e ∈ s.merged) :
    e.processName = s.process.displayName := by
  rcases mem_merged.mp listed with ⟨offset, unit, _found, rfl⟩
  rfl

end Source

namespace Feed

variable {f g : Feed}

/-- An entry of a script stays the same. -/
theorem Precedes.eq_of_raw (precedes : f.Precedes g) (before : f.InOrder) (script : f.kind = .raw)
    {x z : MergedEntry} (first : x ∈ f.source.merged) (second : z ∈ g.source.merged)
    (same : z.id = x.id) : z = x := by
  rw [merged_of_raw script] at first
  rw [merged_of_raw (precedes.kind.trans script), precedes.process] at second
  rcases List.mem_map.mp first with ⟨k, kept, rfl⟩
  rcases List.mem_map.mp second with ⟨l, listed, rfl⟩
  have position : l.position = k.position := (MergedEntry.idOf_inj.mp same).2
  rcases precedes.lines.known l listed with old | new
  · rw [before.lines.eq_of_position old kept position]
  · rw [position] at new
    exact absurd (before.lines.bounded k kept) (Nat.not_lt_of_le new)

/-- An agent's entry that has a timestamp of its own has the time of it. -/
theorem time_of_timestamp (agent : f.kind = .normalized) {x : MergedEntry}
    (shown : x ∈ f.source.merged) {millis : Int}
    (stamped : x.millis? = some millis) : x.time = millis := by
  rcases Source.mem_merged.mp shown with ⟨offset, unit, found, rfl⟩
  have listed := List.mem_of_getElem? found
  unfold source at listed
  rw [agent] at listed
  rcases List.mem_map.mp listed with ⟨e, _member, rfl⟩
  rcases e with ⟨index, unit⟩
  cases unit with
  | stdout text => cases stamped
  | stderr text => cases stamped
  | entry entry =>
      change entry.millis? = some millis at stamped
      unfold Source.entryAt
      simp only [stamped, Option.getD_some]

/-- An entry of an agent whose line is another although it shows the same on the
same channel has no timestamp and another time. -/
theorem Precedes.time_ne_of_normalized (precedes : f.Precedes g) (agent : f.kind = .normalized)
    {x z : MergedEntry} (first : x ∈ f.source.merged) (second : z ∈ g.source.merged)
    (payload : z.payload = x.payload) (channel : z.channel = x.channel) (other : z.line ≠ x.line) :
    z.time ≠ x.time ∧ x.millis? = none := by
  have name : z.processName = x.processName := by
    rw [Source.processName_of_mem first, Source.processName_of_mem second, process_source,
      process_source, precedes.process]
  have time : z.time ≠ x.time := by
    intro same
    apply other
    unfold MergedEntry.line MergedEntry.heading
    rw [same, name, channel, payload]
  refine ⟨time, ?_⟩
  cases stamped : x.millis? with
  | none => rfl
  | some moment =>
      have millis : z.millis? = x.millis? := by
        unfold MergedEntry.millis? MergedEntry.entry?
        rw [payload]
      have stays := time_of_timestamp (precedes.kind.trans agent) second (millis.trans stamped)
      rw [← time_of_timestamp agent first stamped] at stays
      exact absurd stays time

end Feed

namespace MergedEntry

/-- Entries with one identifier belong to one process. -/
theorem processId_eq_of_id {s t : Source} {x z : MergedEntry} (first : x ∈ s.merged)
    (second : z ∈ t.merged) (same : z.id = x.id) : z.processId = x.processId := by
  rcases Source.id_of_mem first with ⟨i, named⟩
  rcases Source.id_of_mem second with ⟨j, other⟩
  rw [named, other] at same
  exact (idOf_inj.mp same).1

end MergedEntry

/-- Of two moments of a run, the feeds at both that an identifier leads to. -/
theorem Hub.Follows.feeds_of_id {g h : Hub} {ps : List Execution} (follows : g.Follows ps)
    (precedes : g.Precedes h) {x z : MergedEntry} (first : x ∈ g.merged) (second : z ∈ h.merged)
    (same : z.id = x.id) :
    ∃ s ∈ g.subscriptions, ∃ t ∈ h.subscriptions, s.feed.Precedes t.feed ∧
      x ∈ s.feed.source.merged ∧ z ∈ t.feed.source.merged := by
  rcases mem_merged first with ⟨r, listed, shown⟩
  rcases mem_merged second with ⟨t, subscribed, displayed⟩
  rcases precedes t subscribed with ⟨s, member, feeds⟩
  have owner : s.id = r.id := by
    have process := MergedEntry.processId_eq_of_id shown displayed same
    rw [Source.processId_of_mem shown, Source.processId_of_mem displayed, Feed.process_source,
      Feed.process_source, feeds.process] at process
    exact process
  rw [follows.eq_of_id member listed owner] at feeds
  exact ⟨r, listed, t, subscribed, feeds, shown, displayed⟩

namespace Follower

/-- The presentations of a run, each with the rows that it prints. -/
def calls (f : Follower) (events : List (Event × Int)) : List (Showing × List (Row MergedEntry)) :=
  f.printer.calls (f.showings events)

theorem exists_moment_of_call {f : Follower} {ps : List Execution} (follows : f.hub.Follows ps)
    {events : List (Event × Int)} {k : Nat} {c : Showing × List (Row MergedEntry)}
    (call : (f.calls events)[k]? = some c) :
    ∃ m, (f.hub.moments events)[k]? = some m ∧ ∀ e ∈ Rows.flatten c.2, e ∈ m.1.merged := by
  rcases Printer.mem_entries_of_call (nodup_ids_showings follows) call with ⟨shown, entries⟩
  unfold showings at shown
  rw [List.getElem?_map, Option.map_eq_some_iff] at shown
  rcases shown with ⟨m, moment, displayed⟩
  refine ⟨m, moment, ?_⟩
  intro e listed
  rw [← entries_showing f.grouped m, displayed]
  exact entries e listed

/-- An entry that is printed by two presentations of a run and stays in view between
them is printed, after the first of them and not after the second, with another
payload, on another channel, or else it is an agent's entry that has no timestamp
and another time than before. -/
theorem reprinted (settings : Settings) (backend : Backend) (grouped json : Bool)
    (ps : List Execution) (now : Int) (events : List (Event × Int)) {i j : Nat} (order : i < j)
    {c d : Showing × List (Row MergedEntry)}
    (earlier : ((start settings backend grouped json ps now).calls events)[i]? = some c)
    (later : ((start settings backend grouped json ps now).calls events)[j]? = some d)
    {x y : MergedEntry} (first : x ∈ Rows.flatten c.2) (second : y ∈ Rows.flatten d.2)
    (same : y.id = x.id)
    (kept : ∀ k, i < k → k < j → ∀ e,
      ((start settings backend grouped json ps now).calls events)[k]? = some e → x.id ∈ e.1.ids) :
    ∃ k, i < k ∧ k ≤ j ∧ ∃ e z,
      ((start settings backend grouped json ps now).calls events)[k]? = some e ∧
      z ∈ Rows.flatten e.2 ∧ z.id = x.id ∧ z.line ≠ x.line ∧
      (z.payload ≠ x.payload ∨ z.channel ≠ x.channel ∨
        z.time ≠ x.time ∧ x.millis? = none ∧
          ∃ p ∈ Hub.distinct ps, p.id = x.processId ∧ p.kind = .normalized) := by
  have follows : (start settings backend grouped json ps now).hub.Follows ps :=
    Hub.Follows.start settings backend ps now
  have again := Printer.exists_other_line (nodup_ids_showings follows) order earlier later first
    (same ▸ List.mem_map_of_mem second) kept
  rcases again with ⟨k, lower, upper, e, z, call, printed, named, other⟩
  refine ⟨k, lower, upper, e, z, call, printed, named, other, ?_⟩
  rcases exists_moment_of_call follows earlier with ⟨m, before, entries⟩
  rcases exists_moment_of_call follows call with ⟨n, after, entries'⟩
  have precedes : m.1.Precedes n.1 := by
    rcases List.getElem?_eq_some_iff.mp before with ⟨within, rfl⟩
    rcases List.getElem?_eq_some_iff.mp after with ⟨within', rfl⟩
    exact List.pairwise_iff_getElem.mp (Hub.pairwise_moments _ events) i k within within' lower
  have present := follows.moments m (List.mem_of_getElem? before)
  rcases present.feeds_of_id precedes (entries x first) (entries' z printed) named with
    ⟨s, listed, t, _subscribed, feeds, shown, displayed⟩
  -- A script's entry cannot change at all, so the entry is an agent's.
  cases kind : s.feed.kind with
  | raw =>
      have equal := feeds.eq_of_raw (present.inOrder s listed) kind shown displayed named
      exact absurd (congrArg MergedEntry.line equal) other
  | normalized =>
      by_cases payload : z.payload = x.payload
      · by_cases channel : z.channel = x.channel
        · rcases feeds.time_ne_of_normalized kind shown displayed payload channel other with
            ⟨time, unstamped⟩
          refine Or.inr (Or.inr ⟨time, unstamped, s.feed.process, present.process_mem listed, ?_, kind⟩)
          rw [Source.processId_of_mem shown, Feed.process_source]
        · exact Or.inr (Or.inl channel)
      · exact Or.inl payload

section TwoBatches

/-- An agent is followed. -/
def agentFollower : Follower :=
  start Settings.default (Backend.atHost "b") true false
    [⟨default, .codingAgent, .running, false⟩] 0

/-- The agent reports two lines, and then a third. The clock stands still. -/
def twoBatches : List (Event × Int) :=
  let batch (patch : Patch) : Signal :=
    .frame (.event (Message.patch patch).name (Message.patch patch).data)
  [.opened, batch (Patch.addUnit 0 (.stdout "one") ++ Patch.addUnit 1 (.stdout "two")),
    batch (Patch.addUnit 2 (.stdout "three"))].map fun signal => (⟨default, 1, signal⟩, 60000)

/-- A line of the agent, some milliseconds before the clock. -/
def agentLine (position : Nat) (text : String) (before : Nat) : MergedEntry where
  id := MergedEntry.idOf default position
  time := 60000 - before
  processId := default
  processName := RunReason.codingAgent.displayName
  channel := .stdout
  payload := .text text

theorem printed_twoBatches :
    (agentFollower.calls twoBatches).map Prod.snd =
      [[], [.entry (agentLine 0 "one" 2)],
        [.entry (agentLine 0 "one" 3), .entry (agentLine 1 "two" 2)],
        [.entry (agentLine 2 "three" 1)]] := by
  unfold calls
  rw [Printer.map_snd_calls, showings_of_sorted (by decide +kernel)]
  decide +kernel

theorem calls_twoBatches :
    ∃ c d, (agentFollower.calls twoBatches)[1]? = some c ∧
      (agentFollower.calls twoBatches)[2]? = some d ∧
      agentLine 0 "one" 2 ∈ Rows.flatten c.2 ∧ agentLine 0 "one" 3 ∈ Rows.flatten d.2 := by
  have call {k : Nat} {rows : List (Row MergedEntry)}
      (printed : ((agentFollower.calls twoBatches).map Prod.snd)[k]? = some rows) :
      ∃ c, (agentFollower.calls twoBatches)[k]? = some c ∧ c.2 = rows := by
    rw [List.getElem?_map, Option.map_eq_some_iff] at printed
    exact printed
  rcases call (congrArg (·[1]?) printed_twoBatches) with ⟨c, earlier, first⟩
  rcases call (congrArg (·[2]?) printed_twoBatches) with ⟨d, later, second⟩
  refine ⟨c, d, earlier, later, ?_, ?_⟩
  · rw [first]
    exact List.mem_cons_self
  · rw [second]
    exact List.mem_cons_self

/-- The second batch moves the first line, and the line is printed again. -/
theorem line_moved :
    ∃ k, 1 < k ∧ k ≤ 2 ∧ ∃ e z, (agentFollower.calls twoBatches)[k]? = some e ∧
      z ∈ Rows.flatten e.2 ∧ z.id = (agentLine 0 "one" 2).id ∧
      z.line ≠ (agentLine 0 "one" 2).line ∧
      (z.payload ≠ .text "one" ∨ z.channel ≠ .stdout ∨
        z.time ≠ 59998 ∧ (agentLine 0 "one" 2).millis? = none ∧
          ∃ p ∈ Hub.distinct [⟨default, .codingAgent, .running, false⟩],
            p.id = default ∧ p.kind = .normalized) := by
  rcases calls_twoBatches with ⟨c, d, earlier, later, first, second⟩
  exact reprinted Settings.default _ true false _ 0 twoBatches Nat.one_lt_two earlier later first
    second rfl fun k lower upper => absurd upper (Nat.not_lt_of_le lower)

/-- Two calls, one after the other, print one line with the same payload. -/
theorem line_printed_twice :
    (twoBatches.map Prod.snd).Pairwise (· ≤ ·) ∧
      ∃ c d x y, (agentFollower.calls twoBatches)[1]? = some c ∧
        (agentFollower.calls twoBatches)[2]? = some d ∧ x ∈ Rows.flatten c.2 ∧
        y ∈ Rows.flatten d.2 ∧ y.id = x.id ∧ y.payload = x.payload := by
  rcases calls_twoBatches with ⟨c, d, earlier, later, first, second⟩
  exact ⟨by decide, c, d, _, _, earlier, later, first, second, rfl, rfl⟩

end TwoBatches

end Follower

end LiveLog
