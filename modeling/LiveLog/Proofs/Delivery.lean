import LiveLog.Proofs.Advances

namespace LiveLog

/-!
# Delivery without loss, duplication or reordering

The feed of a process is compared with the journal that an observer keeps of its
present connection. The invariant ties three places together. What the
connection has reported is split in two: a part that was handed to the hub, each
report at its time, and a part that still waits in the queue, in this order and
with nothing between. The feed is the replay of the first part from a fresh
feed, up to the first final report. And the link is registered as long as no
final report was handed over.

Opening a process begins a new journal with a generation that occurs neither in
the queue nor at the transport, so nothing of an earlier connection can enter
the replay.
-/

open Event

/-! ## Handing reports to a subscription -/

/-- A subscription has replayed the reports that were handed to it since its
fresh feed was made. -/
structure Replays (fresh : Feed) (link : Link) (s : Subscription)
    (handled : List (Signal × Int)) : Prop where
  link_eq : s.link = if handled.any fun report => report.1.isFinal then none else some link
  reason : s.feed.process.reason = fresh.process.reason
  feed : s.feed = (fresh.replay (cutAfter (fun report => report.1.isFinal) handled)).described
    s.feed.process

namespace Replays

variable {fresh : Feed} {link : Link} {s : Subscription} {handled : List (Signal × Int)}

/-- A subscription that has a link has the link of the connection, and no report
was final. -/
theorem generation_of_registered (replays : Replays fresh link s handled) {generation : Nat}
    (registered : s.generation? = some generation) :
    handled.any (fun report => report.1.isFinal) = false ∧ generation = link.generation := by
  have link_eq := replays.link_eq
  cases past : handled.any fun report => report.1.isFinal with
  | true =>
      rw [past, if_pos rfl] at link_eq
      rw [Subscription.generation?, link_eq] at registered
      cases registered
  | false =>
      rw [past, if_neg Bool.false_ne_true] at link_eq
      rw [Subscription.generation?, link_eq] at registered
      exact ⟨rfl, (Option.some.inj registered).symm⟩

/-- One more report of the connection. After a final one it is not accepted, and
it does not count in the replay either. -/
theorem receive (replays : Replays fresh link s handled) {e : Event} (now : Int)
    (owner : e.process = s.id) (same : e.generation = link.generation) :
    Replays fresh link (s.receive e now) (handled ++ [(e.signal, now)]) := by
  have last : [(e.signal, now)].any (fun report => report.1.isFinal) = e.signal.isFinal :=
    Bool.or_false _
  cases past : handled.any fun report => report.1.isFinal with
  | true =>
      have link_eq := replays.link_eq
      rw [past, if_pos rfl] at link_eq
      have refused : s.accepts e = false := by
        rw [Bool.eq_false_iff]
        intro accepted
        have going := (replays.generation_of_registered
          ((s.accepts_eq_true_iff e).mp accepted).2).1
        rw [past] at going
        cases going
      rw [Subscription.receive_of_not_accepts now refused]
      refine ⟨?_, replays.reason, ?_⟩
      · rw [List.any_append, past, Bool.true_or, if_pos rfl, link_eq]
      · rw [cutAfter_append_of_any past]
        exact replays.feed
  | false =>
      have link_eq := replays.link_eq
      rw [past, if_neg Bool.false_ne_true] at link_eq
      have accepted : s.accepts e = true := by
        refine (s.accepts_eq_true_iff e).mpr ⟨owner.symm, ?_⟩
        rw [Subscription.generation?, link_eq, same]
        rfl
      rw [Subscription.receive_of_accepts now accepted]
      refine ⟨?_, ?_, ?_⟩
      · rw [List.any_append, past, Bool.false_or, last, link_eq]
      · rw [Feed.process_after]
        exact replays.reason
      · have reason : s.feed.process.reason = (fresh.replay handled).process.reason := by
          rw [Feed.process_replay]
          exact replays.reason
        have feed := replays.feed
        rw [cutAfter_of_not_any past] at feed
        rw [cutAfter_append_of_not_any past, cutAfter_singleton, Feed.replay_append,
          Feed.process_after, Feed.replay_cons, Feed.replay_nil, ← Feed.after_described reason,
          ← feed]

/-- A report of another connection is not accepted. -/
theorem receive_other (replays : Replays fresh link s handled) {e : Event} (now : Int)
    (other : ¬ (e.process = s.id ∧ e.generation = link.generation)) : s.receive e now = s := by
  apply Subscription.receive_of_not_accepts
  rw [Bool.eq_false_iff]
  intro accepted
  rcases (s.accepts_eq_true_iff e).mp accepted with ⟨owner, registered⟩
  exact other ⟨owner.symm, (replays.generation_of_registered registered).2⟩

/-- Any number of events, of whatever connections: those of this one are
handed over, the others are passed by. -/
theorem handleAll {h : Hub} {id : Uuid} (found : h.find? id = some s)
    (replays : Replays fresh link s handled) (events : List Event) (now : Int) :
    ∃ t, (h.handleAll (events.map fun e => (e, now))).1.find? id = some t ∧
      t.feed.process = s.feed.process ∧
      Replays fresh link t
        (handled ++ (reportsOf id (some link.generation) events).map fun signal => (signal, now)) := by
  induction events generalizing h s handled with
  | nil =>
      refine ⟨s, found, rfl, ?_⟩
      rw [reportsOf_eq_nil fun e listed => absurd listed List.not_mem_nil, List.map_nil,
        List.append_nil]
      exact replays
  | cons e events inductionHypothesis =>
      have named : s.id = id := (Hub.mem_of_findIn found).2
      have received : (h.handle e now).1.find? id = some (s.receive e now) := by
        rw [Hub.find?_handle, found, Option.map_some]
      by_cases mine : e.process = id ∧ some e.generation = some link.generation
      · have owner : e.process = s.id := mine.1.trans named.symm
        rcases inductionHypothesis received
          (replays.receive now owner (Option.some.inj mine.2)) with ⟨t, after, process, replayed⟩
        refine ⟨t, after, process.trans (s.process_receive e now), ?_⟩
        rw [reportsOf_cons_self mine.1 mine.2, List.map_cons]
        rw [List.append_assoc] at replayed
        exact replayed
      · have passed : s.receive e now = s := by
          apply replays.receive_other now
          rintro ⟨owner, same⟩
          exact mine ⟨owner.trans named, congrArg some same⟩
        rw [passed] at received
        rw [reportsOf_cons_other mine]
        exact inductionHypothesis received replays

end Replays

/-! ## The invariant -/

/-- The journal of a process covers its connection: what was handed to the hub
and what waits in the queue make up all that the connection reported, and the
feed has replayed what was handed over. -/
structure Covers (id : Uuid) (settings : Settings) (p : Pipeline) (s : Subscription) (j : Journal)
    (link : Link) (handled : List (Signal × Int)) : Prop where
  generation : j.generation = some link.generation
  signals : (if j.accepted then [.opened] else []) ++ j.reports =
    handled.map Prod.fst ++ reportsOf id j.generation p.queue
  times : j.times = (handled.filter fun report => decide (report.1 ≠ .opened)).map Prod.snd
  plain : j.closing ≠ some .opened
  fed : p.transport.fed.lookup id = some link.generation → j.accepted = true ∧ j.closing = none
  replays : Replays (Feed.fresh settings j.process j.openedAt) link s handled

namespace Pipeline

/-- A step that only adds to the queue takes nothing off it. -/
theorem consumed_of_append {p : Pipeline} {step : Step} {events : List Event}
    (queue : (p.perform step).1.queue = p.queue ++ events) : p.consumed step = [] := by
  unfold consumed
  rw [queue, List.length_append, Nat.sub_eq_zero_of_le (Nat.le_add_right _ _), List.take_zero]

theorem consumed_of_eaten {p : Pipeline} {step : Step} {eaten : List Event}
    (queue : p.queue = eaten ++ (p.perform step).1.queue) : p.consumed step = eaten := by
  unfold consumed
  rw [queue, List.length_append, Nat.add_sub_cancel, List.take_left]

end Pipeline

namespace Journal

variable {id : Uuid} {p : Pipeline} {step : Pipeline.Step} {t : Subscription} {j : Journal}

/-- A step that neither sends nor closes takes down no report. -/
theorem continued_silent (delivered : p.delivered id step = []) (closed : p.closed id step = none) :
    (j.continued p id step t).closing = j.closing ∧
      (j.continued p id step t).reports = j.reports := by
  have closing : (j.continued p id step t).closing = j.closing := by
    unfold continued
    rw [closed]
    cases j.closing <;> rfl
  refine ⟨closing, ?_⟩
  unfold reports
  rw [closing]
  change (j.frames ++ p.delivered id step).map Signal.frame ++ _ = _
  rw [delivered, List.append_nil]

theorem closing_continued (going : j.closing = none) :
    (j.continued p id step t).closing = p.closed id step := by
  unfold continued
  rw [going]
  rfl

/-- Where nothing is taken off the queue, no time is taken down. -/
theorem times_continued (nothing : p.consumed step = []) :
    (j.continued p id step t).times = j.times := by
  unfold continued
  rw [nothing, reportsOf_eq_nil fun e listed => absurd listed List.not_mem_nil]
  exact List.append_nil _

/-- Reports and their times, taken down apart, are the timed reports. -/
theorem cutAfter_reports {rest : List (Signal × Int)} (same : rest.map Prod.fst = j.reports)
    (times : j.times = rest.map Prod.snd) :
    j.times.length = j.reports.length ∧
      cutAfter (fun report => report.1.isFinal) rest =
        (cutAfter Signal.isFinal j.reports).zip j.times := by
  rw [times, ← same]
  exact ⟨by rw [List.length_map, List.length_map], cutAfter_zip rest⟩

end Journal

namespace Covers

variable {id : Uuid} {settings : Settings} {p : Pipeline} {step : Pipeline.Step}
  {s t : Subscription} {j : Journal} {link : Link} {handled : List (Signal × Int)}

/-- A silent step, with another description of the same reason. -/
theorem keeps (covers : Covers id settings p s j link handled) {description : Execution}
    (same : t = s.described description) {events : List Event}
    (queue : (p.perform step).1.queue = p.queue ++ events)
    (others : ∀ e ∈ events, e.process ≠ id)
    (fed : ∀ generation, (p.perform step).1.transport.fed.lookup id = some generation →
      p.transport.fed.lookup id = some generation)
    (delivered : p.delivered id step = []) (closed : p.closed id step = none)
    (reason : s.feed.process.reason = t.feed.process.reason) :
    Covers id settings (p.perform step).1 t (j.continued p id step t) link handled := by
  have nothing : p.consumed step = [] := Pipeline.consumed_of_append queue
  rcases Journal.continued_silent (j := j) (t := t) delivered closed with ⟨closing, reports⟩
  refine ⟨covers.generation, ?_, ?_, ?_, ?_, ?_⟩
  · have silent : reportsOf id j.generation events = [] :=
      reportsOf_eq_nil fun e listed mine => others e listed mine.1
    have signals := covers.signals
    rw [reports]
    change _ = _ ++ reportsOf id j.generation (p.perform step).1.queue
    rw [queue, reportsOf_append, silent, List.append_nil]
    exact signals
  · rw [Journal.times_continued nothing]
    exact covers.times
  · rw [closing]
    exact covers.plain
  · intro fedNow
    rw [closing]
    exact covers.fed (fed _ fedNow)
  · subst same
    refine ⟨covers.replays.link_eq, reason.symm.trans covers.replays.reason, ?_⟩
    change s.feed.described description = _
    rw [covers.replays.feed]
    rfl

/-- A step that adds a report of the connection. -/
theorem reports_one (covers : Covers id settings p s j link handled) {generation : Nat}
    {signal : Signal}
    (queue : (p.perform step).1.queue = p.queue ++ [⟨id, generation, signal⟩])
    (registered : s.generation? = some generation)
    (open_before : p.transport.fed.lookup id = some generation)
    (taken_down : (p.delivered id step).map Signal.frame ++ (p.closed id step).toList = [signal])
    (plain : signal ≠ .opened)
    (fed : ∀ other, (p.perform step).1.transport.fed.lookup id = some other →
      p.closed id step = none) :
    Covers id settings (p.perform step).1 s (j.continued p id step s) link handled := by
  have own := (covers.replays.generation_of_registered registered).2
  have before := covers.fed (own ▸ open_before)
  have nothing : p.consumed step = [] := Pipeline.consumed_of_append queue
  have closing : (j.continued p id step s).closing = p.closed id step :=
    Journal.closing_continued before.2
  refine ⟨covers.generation, ?_, ?_, ?_, ?_, covers.replays⟩
  · have added : (j.continued p id step s).reports = j.reports ++ [signal] := by
      unfold Journal.reports
      rw [closing, before.2, ← taken_down]
      change (j.frames ++ p.delivered id step).map Signal.frame ++ _ = _
      rw [List.map_append, Option.toList_none, List.append_nil, List.append_assoc]
    have signals := covers.signals
    rw [added, ← List.append_assoc]
    change _ = _ ++ reportsOf id j.generation (p.perform step).1.queue
    rw [queue, reportsOf_append, reportsOf_cons_self (e := ⟨id, generation, signal⟩) rfl
      ((congrArg some own).trans covers.generation.symm),
      reportsOf_eq_nil fun e listed => absurd listed List.not_mem_nil, ← List.append_assoc,
      ← signals]
    rfl
  · rw [Journal.times_continued nothing]
    exact covers.times
  · rw [closing]
    intro opened
    rw [opened] at taken_down
    cases frames : p.delivered id step with
    | nil =>
        rw [frames] at taken_down
        exact plain (List.cons.inj taken_down).1.symm
    | cons frame rest =>
        have lengths := congrArg List.length taken_down
        simp only [frames, List.map_cons, List.length_cons, List.length_append, List.length_map,
          Option.toList_some, List.length_nil] at lengths
        omega
  · intro fedNow
    rw [closing]
    exact ⟨before.1, fed _ fedNow⟩

/-- A step that hands events over. -/
theorem hears (covers : Covers id settings p s j link handled) (found : p.hub.find? id = some s)
    (after : (p.perform step).1.hub.find? id = some t) {eaten : List Event}
    (queue : p.queue = eaten ++ (p.perform step).1.queue)
    (hub : (p.perform step).1.hub = (p.hub.handleAll (eaten.map fun e => (e, p.clock))).1)
    (transport : (p.perform step).1.transport = p.transport)
    (delivered : p.delivered id step = []) (closed : p.closed id step = none) :
    ∃ more, Covers id settings (p.perform step).1 t (j.continued p id step t) link
      (handled ++ more) := by
  rcases covers.replays.handleAll found eaten p.clock with ⟨u, handed, _process, replays⟩
  rw [← hub, after] at handed
  have same : t = u := Option.some.inj handed
  subst same
  have eats : p.consumed step = eaten := Pipeline.consumed_of_eaten queue
  rcases Journal.continued_silent (j := j) (t := t) delivered closed with ⟨closing, reports⟩
  refine ⟨(reportsOf id j.generation eaten).map fun signal => (signal, p.clock), ?_⟩
  refine ⟨covers.generation, ?_, ?_, ?_, ?_, ?_⟩
  · have signals := covers.signals
    rw [queue, reportsOf_append] at signals
    rw [reports, List.map_append, List.map_map]
    change _ = handled.map Prod.fst ++ (reportsOf id j.generation eaten).map (fun s => s) ++
      reportsOf id j.generation (p.perform step).1.queue
    rw [List.map_id', List.append_assoc]
    exact signals
  · have times := covers.times
    change j.times ++ _ = _
    rw [eats, times, List.filter_append, List.map_append, List.filter_map, List.map_map]
    rfl
  · rw [closing]
    exact covers.plain
  · intro fedNow
    rw [closing]
    exact covers.fed (transport ▸ fedNow)
  · rw [covers.generation]
    exact replays

/-- A new connection has reported its greeting, and nothing was handed over. -/
theorem begun {backend : Backend} (orderly : p.Orderly) (limits : p.hub.settings = settings)
    (served : p.hub.backend = backend) (opening : p.opens id step = true)
    (after : (p.perform step).1.hub.find? id = some t) {endpoint : Endpoint}
    (resolved : backend.resolve t.feed.process = .ok endpoint) :
    ∃ link, Covers id settings (p.perform step).1 t (Journal.begun p t) link [] := by
  rcases Pipeline.opens_subscribes orderly opening after with
    ⟨h, q, generation, _performed, _sound, _found, _bound, same⟩
  have named : t.id = id := (Hub.mem_of_findIn after).2
  have process : t.feed.process = q := by
    rw [same]
    unfold Hub.subscribe
    cases p.hub.backend.resolve q <;> rfl
  rw [process, ← served] at resolved
  rw [Hub.subscribe_of_ok resolved, limits] at same
  have linked : t.link = some ⟨generation + 1, endpoint⟩ := by rw [same]
  have number : (Journal.begun p t).generation = some (generation + 1) := by
    rw [same]
    rfl
  rcases Pipeline.opens_greets orderly opening after linked with ⟨new, fed, reported⟩
  have stale : p.transport.fed.lookup id ≠ some (generation + 1) := by
    intro equal
    exact absurd (orderly.fed id _ equal) (Nat.not_le_of_lt new)
  refine ⟨⟨generation + 1, endpoint⟩, number, ?_, rfl, ?_, ?_, ?_⟩
  · rw [number, reported]
    unfold Journal.begun Journal.reports Loopback.greeting
    rw [named]
    cases p.transport.refusals.lookup id <;> rfl
  · unfold Journal.begun
    cases p.transport.refusals.lookup t.id with
    | none => intro equal; cases equal
    | some message => intro equal; cases equal
  · intro fedNow
    rw [fed] at fedNow
    unfold Journal.begun
    rw [named]
    cases refused : p.transport.refusals.lookup id with
    | none => exact ⟨rfl, rfl⟩
    | some message =>
        rw [refused] at fedNow
        exact absurd fedNow stale
  · refine ⟨linked, rfl, ?_⟩
    change t.feed = (Feed.fresh settings t.feed.process p.clock).described t.feed.process
    rw [process, same]
    rfl

theorem ne_opened_of_mem_reports (covers : Covers id settings p s j link handled)
    {report : Signal} (listed : report ∈ j.reports) : report ≠ .opened := by
  intro equal
  rcases List.mem_append.mp listed with frame | closing
  · rcases List.mem_map.mp frame with ⟨f, _member, same⟩
    rw [equal] at same
    cases same
  · rw [Option.mem_toList] at closing
    exact covers.plain (closing.trans (congrArg some equal))

/-- The greeting is not among the reports that the journal takes down. -/
theorem filter_reports (covers : Covers id settings p s j link handled)
    {rest : List (Signal × Int)} (same : rest.map Prod.fst = j.reports) :
    rest.filter (fun report => decide (report.1 ≠ .opened)) = rest := by
  rw [List.filter_eq_self]
  intro report listed
  exact decide_eq_true (covers.ne_opened_of_mem_reports (same ▸ List.mem_map_of_mem listed))

/-- Once no report waits, the feed is the one that the journal accounts for. -/
theorem settled (covers : Covers id settings p s j link handled)
    (quiet : ∀ e ∈ p.queue, e.process ≠ id) :
    j.times.length = j.reports.length ∧
      s.feed = (j.feed settings).described s.feed.process := by
  have nothing : reportsOf id j.generation p.queue = [] :=
    reportsOf_eq_nil fun e listed mine => quiet e listed mine.1
  have signals := covers.signals
  rw [nothing, List.append_nil] at signals
  have feed := covers.replays.feed
  have times := covers.times
  unfold Journal.feed Journal.blankFeed
  cases accepted : j.accepted with
  | false =>
      rw [accepted] at signals
      rw [covers.filter_reports signals.symm] at times
      rcases Journal.cutAfter_reports signals.symm times with ⟨lengths, cut⟩
      rw [cut] at feed
      exact ⟨lengths, feed⟩
  | true =>
      rw [accepted, if_pos rfl, List.singleton_append] at signals
      cases handled with
      | nil => cases signals
      | cons first rest =>
          rcases List.cons.inj signals with ⟨greeted, remaining⟩
          rw [List.filter_cons_of_neg (by rw [← greeted]; decide),
            covers.filter_reports remaining.symm] at times
          rcases Journal.cutAfter_reports remaining.symm times with ⟨lengths, cut⟩
          have going : first.1.isFinal = false := by
            rw [← greeted]
            rfl
          rw [cutAfter, going, if_neg Bool.false_ne_true, cut, Feed.replay_cons, ← greeted] at feed
          exact ⟨lengths, feed⟩

end Covers

/-! ## Over a whole run -/

/-- There is a journal exactly while the process is followed, and it covers the
connection of a process that is served somewhere and kept its reason. -/
def Tracked (id : Uuid) (settings : Settings) (backend : Backend) (p : Pipeline) :
    Option Journal → Prop
  | none => p.hub.find? id = none
  | some j => ∃ s, p.hub.find? id = some s ∧
      ∀ endpoint, backend.resolve j.process = .ok endpoint → j.steady = true →
        ∃ link handled, Covers id settings p s j link handled

namespace Tracked

variable {id : Uuid} {settings : Settings} {backend : Backend} {p : Pipeline}
  {journal : Option Journal}

theorem perform (orderly : p.Orderly) (limits : p.hub.settings = settings)
    (served : p.hub.backend = backend) (tracked : Tracked id settings backend p journal)
    (step : Pipeline.Step) :
    Tracked id settings backend (p.perform step).1 (Journal.observe id p step journal) := by
  cases after : (p.perform step).1.hub.find? id with
  | none =>
      unfold Journal.observe
      rw [after]
      exact after
  | some t =>
      unfold Journal.observe
      rw [after, Option.bind_some]
      cases opening : p.opens id step with
      | true =>
          refine ⟨t, after, ?_⟩
          intro endpoint resolved _steady
          rcases Covers.begun orderly limits served opening after resolved with ⟨link, covers⟩
          exact ⟨link, [], covers⟩
      | false =>
          rcases Pipeline.advances orderly opening after with ⟨s, before, advance⟩
          rw [if_neg Bool.false_ne_true]
          cases journal with
          | none =>
              have missing : p.hub.find? id = none := tracked
              rw [missing] at before
              cases before
          | some j =>
              rcases tracked with ⟨u, found, covered⟩
              have same : u = s := Option.some.inj (found.symm.trans before)
              subst same
              refine ⟨t, after, ?_⟩
              intro endpoint resolved steady
              have parts : j.steady = true ∧
                  (p.hub.find? id).map (fun t => t.feed.process.reason) =
                    some t.feed.process.reason := by
                simpa only [Journal.continued, Bool.and_eq_true, decide_eq_true_eq] using steady
              rw [found, Option.map_some] at parts
              rcases covered endpoint resolved parts.1 with ⟨link, handled, covers⟩
              cases advance with
              | keeps description same events queue others fed delivered closed =>
                  exact ⟨link, handled, covers.keeps same queue others fed delivered closed
                    (Option.some.inj parts.2)⟩
              | reports same generation signal queue registered open_before taken_down plain fed =>
                  subst same
                  exact ⟨link, handled, covers.reports_one queue registered open_before taken_down
                    plain fed⟩
              | hears eaten queue hub transport delivered closed =>
                  rcases covers.hears found after queue hub transport delivered closed with
                    ⟨more, heard⟩
                  exact ⟨link, handled ++ more, heard⟩

theorem watch (orderly : p.Orderly) (limits : p.hub.settings = settings)
    (served : p.hub.backend = backend) (tracked : Tracked id settings backend p journal)
    (steps : List Pipeline.Step) :
    Tracked id settings backend (p.run steps) (Journal.watch id p journal steps) := by
  induction steps generalizing p journal with
  | nil => exact tracked
  | cons step rest inductionHypothesis =>
      rcases p.settings_perform step with ⟨sameLimits, sameBackend⟩
      exact inductionHypothesis (orderly.perform step) (sameLimits.trans limits)
        (sameBackend.trans served) (tracked.perform orderly limits served step)

end Tracked

namespace Pipeline

/-- Delivery is exact. Of every process that is followed there is a journal; and
if the process is served somewhere, no synchronization has changed its reason
since its connection was opened, and no event of it is queued, then each report
of the connection was handed over once, and the feed is the one that the journal
accounts for: fresh, connected if the connection was accepted, and then changed
by the frames that were sent with success, up to the first that concludes the
stream, or else by all of them and by the end or the failure of the connection. -/
theorem delivery_exact (settings : Settings) (backend : Backend) (grouped : Bool) (now : Int)
    (steps : List Step) (id : Uuid) (s : Subscription)
    (followed : ((start settings backend grouped now).run steps).hub.find? id = some s) :
    ∃ j, Journal.ofRun id (start settings backend grouped now) steps = some j ∧
      ((∃ endpoint, backend.resolve j.process = .ok endpoint) → j.steady = true →
        (∀ e ∈ ((start settings backend grouped now).run steps).queue, e.process ≠ id) →
          j.times.length = j.reports.length ∧
            s.feed = (j.feed settings).described s.feed.process) := by
  have orderly := Orderly.start settings backend grouped now
  have nobody : Tracked id settings backend (start settings backend grouped now) none := rfl
  have tracked := nobody.watch orderly rfl rfl steps
  unfold Journal.ofRun
  cases watched : Journal.watch id (start settings backend grouped now) none steps with
  | none =>
      rw [watched] at tracked
      rw [show _ = none from tracked] at followed
      cases followed
  | some j =>
      rw [watched] at tracked
      rcases tracked with ⟨t, found, covered⟩
      have same : t = s := Option.some.inj (found.symm.trans followed)
      subst same
      refine ⟨j, rfl, ?_⟩
      rintro ⟨endpoint, resolved⟩ steady quiet
      rcases covered endpoint resolved steady with ⟨link, handled, covers⟩
      exact covers.settled quiet

/-- A line is lost with its connection. On the next one a line is sent after the
stream was said to be finished, with success, and does not count. -/
theorem delivery_after_resubscription :
    let backend := Backend.atHost "b"
    let script : Execution := ⟨default, .setupScript, .running, false⟩
    let line (text : String) : Frame := .event "stdout" text
    let steps : List Step := [.sync [script], .next, .send script.id (line "early"),
      .resubscribe script.id, .send script.id (line "kept"), .setClock 7, .next, .next,
      .send script.id (.event "finished" ""), .send script.id (line "late"), .close script.id,
      .drain]
    let p := (start Settings.default backend true 0).run steps
    ∃ s j, p.hub.find? script.id = some s ∧
      Journal.ofRun script.id (start Settings.default backend true 0) steps = some j ∧
      (backend.resolve j.process).toBool = true ∧ j.steady = true ∧
      (∀ e ∈ p.queue, e.process ≠ script.id) ∧
      j.frames = [line "kept", .event "finished" "", line "late"] ∧ j.times = [7, 7, 7, 7] ∧
      s.feed = (j.feed Settings.default).described s.feed.process := by
  intro backend script line steps p
  have present : (p.hub.find? script.id).isSome = true := by decide +kernel
  have quiet : ∀ e ∈ p.queue, e.process ≠ script.id := by decide +kernel
  have observed : ((Journal.ofRun script.id (start Settings.default backend true 0) steps).map
      fun j => ((backend.resolve j.process).toBool, j.steady, j.frames, j.times)) =
        some (true, true, [line "kept", .event "finished" "", line "late"], [7, 7, 7, 7]) := by
    decide +kernel
  rcases Option.isSome_iff_exists.mp present with ⟨s, followed⟩
  rcases delivery_exact Settings.default backend true 0 steps script.id s followed with
    ⟨j, recorded, exactly⟩
  rw [recorded, Option.map_some, Option.some.injEq, Prod.mk.injEq, Prod.mk.injEq, Prod.mk.injEq]
    at observed
  rcases observed with ⟨resolves, steady, frames, times⟩
  have resolved : ∃ endpoint, backend.resolve j.process = .ok endpoint := by
    cases served : backend.resolve j.process with
    | ok endpoint => exact ⟨endpoint, rfl⟩
    | error e =>
        rw [served] at resolves
        cases resolves
  exact ⟨s, j, followed, recorded, resolves, steady, quiet, frames, times,
    (exactly resolved steady quiet).2⟩

end Pipeline

end LiveLog
