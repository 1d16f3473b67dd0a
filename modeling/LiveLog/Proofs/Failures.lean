import LiveLog.CommandLine
import LiveLog.Proofs.Lifecycle
import LiveLog.Proofs.Presentations
import Mathlib.Data.List.Infix

namespace LiveLog

/-!
# Failures are not forgotten

A feed has room for one error, which every new one overwrites and which the opening
of a connection clears. That nothing is forgotten all the same is said here without
any feed: `Failure.ofReports` lists what goes wrong while a connection reports, and
depends on nothing but these reports and the kind of the process. Later reports only
make the list longer.

A connection is opened before anything else is reported of it, so the opening finds
no error to clear, and the error of the feed is the last failure of the list. A
command therefore fails if something went wrong with one of its processes, however
the reports of the connections follow each other.
-/

/-- What can go wrong with a process that is followed. -/
inductive Failure
  /-- It is served nowhere. -/
  | unresolved (e : UrlError)
  /-- Its connection could not be opened, or broke. -/
  | broken (message : String)
  /-- A frame should carry a message and does not. -/
  | unreadable (e : FrameError)
  /-- A patch had operations that were dropped. -/
  | incomplete (dropped : List Dropped)
deriving DecidableEq

namespace Signal

/-- The patch of the conversation that a signal brings. -/
def patch? (kind : StreamKind) (s : Signal) : Option Patch :=
  match kind, s.message? with
  | .normalized, some (.patch patch) => some patch
  | _, _ => none

end Signal

/-- The last report of a connection is final. -/
theorem Course.any_isFinal_signals (c : Course) : c.signals.any Signal.isFinal = true := by
  rw [List.any_eq_true]
  cases c with
  | refused e => exact ⟨_, List.mem_cons_self, rfl⟩
  | accepted frames broken =>
      refine ⟨(broken.map .ofError).getD .ended, List.mem_concat_self, ?_⟩
      cases broken <;> rfl

namespace Failure

/-- The wording of a failure. -/
def message : Failure → String
  | unresolved e => Signal.failure (Backend.refusal e)
  | broken message => message
  | unreadable _ | incomplete _ => Feed.updateFailure

/-- The wording of the last of some failures. -/
def last (failures : List Failure) : Option String := failures.getLast?.map message

theorem last_append (first rest : List Failure) :
    last (first ++ rest) = (last rest).or (last first) := by
  rw [last, List.getLast?_append, Option.map_or, last, last]

@[simp] theorem last_toList (failure : Option Failure) :
    last failure.toList = failure.map message := by
  cases failure <;> rfl

theorem last_eq_none_iff {failures : List Failure} : last failures = none ↔ failures = [] := by
  rw [last, Option.map_eq_none_iff, List.getLast?_eq_none_iff]

theorem isSome_last {failures : List Failure} : (last failures).isSome ↔ failures ≠ [] := by
  rw [Option.isSome_iff_ne_none, ne_eq, last_eq_none_iff]

/-- What goes wrong with a patch. -/
def ofPatch (document : Json) (patch : Patch) : Option Failure :=
  match (Conversation.applyFrom 0 document patch).2.dropped with
  | [] => none
  | dropped => some (incomplete dropped)

/-- What goes wrong when a signal comes that counts. -/
def ofSignal (kind : StreamKind) (document : Json) (s : Signal) : Option Failure :=
  match s with
  | .opened | .ended => none
  | .failed message => some (broken message)
  | .frame frame =>
    match Message.decode frame with
    | .error e => some (unreadable e)
    | .ok _ => (s.patch? kind).bind (ofPatch document)

/-- The document of the conversation after a signal that counts. -/
def documentAfter (kind : StreamKind) (document : Json) (s : Signal) : Json :=
  match s.patch? kind with
  | none => document
  | some patch => (Conversation.applyFrom 0 document patch).1

/-- What goes wrong while a connection reports, in order. No report counts after a
final one. -/
def ofReports (kind : StreamKind) (document : Json) : List Signal → List Failure
  | [] => []
  | s :: rest =>
    (ofSignal kind document s).toList ++
      if s.isFinal then [] else ofReports kind (documentAfter kind document s) rest

section OfReports

variable {kind : StreamKind} {document : Json}

theorem ofReports_cons_of_final {s : Signal} (final : s.isFinal = true) (rest : List Signal) :
    ofReports kind document (s :: rest) = (ofSignal kind document s).toList := by
  rw [ofReports, final, if_pos rfl, List.append_nil]

theorem ofReports_cons_of_going {s : Signal} (going : s.isFinal = false) (rest : List Signal) :
    ofReports kind document (s :: rest) =
      (ofSignal kind document s).toList ++ ofReports kind (documentAfter kind document s) rest := by
  rw [ofReports, going, if_neg Bool.false_ne_true]

/-- Later reports take no failure back. -/
theorem ofReports_prefix {first all : List Signal} (begins : first <+: all) :
    ofReports kind document first <+: ofReports kind document all := by
  induction first generalizing document all with
  | nil => exact List.nil_prefix
  | cons s rest inductionHypothesis =>
      rcases begins with ⟨later, rfl⟩
      rw [List.cons_append]
      cases final : s.isFinal with
      | true =>
          rw [ofReports_cons_of_final final, ofReports_cons_of_final final]
      | false =>
          rw [ofReports_cons_of_going final, ofReports_cons_of_going final]
          exact (List.prefix_append_right_inj _).mpr
            (inductionHypothesis (List.prefix_append rest later))

/-- After a final report nothing more goes wrong. -/
theorem ofReports_eq_of_final {first all : List Signal} (begins : first <+: all)
    (final : first.any Signal.isFinal = true) :
    ofReports kind document all = ofReports kind document first := by
  induction first generalizing document all with
  | nil => cases final
  | cons s rest inductionHypothesis =>
      rcases begins with ⟨later, rfl⟩
      rw [List.cons_append]
      cases last : s.isFinal with
      | true => rw [ofReports_cons_of_final last, ofReports_cons_of_final last]
      | false =>
          rw [List.any_cons, last, Bool.false_or] at final
          rw [ofReports_cons_of_going last, ofReports_cons_of_going last,
            inductionHypothesis (List.prefix_append rest later) final]

end OfReports

end Failure

namespace Feed

/-! ## One signal -/

section Step

variable {f : Feed}

theorem error_takeLines (f : Feed) (units : List LogUnit) (now : Int) :
    (((f.takeLines units now).map Prod.fst).getD f).error = f.error := by
  cases units <;> rfl

theorem error_takePatch (f : Feed) (patch : Patch) (now : Int) :
    (f.takePatch patch now).1.error =
      ((Failure.ofPatch f.conversation.document patch).map Failure.message).or f.error := by
  have outcome : (f.conversation.applyBatch patch now).2 =
      (Conversation.applyFrom 0 f.conversation.document patch).2 := rfl
  unfold takePatch Failure.ofPatch
  simp only [outcome, BatchOutcome.isClean]
  cases (Conversation.applyFrom 0 f.conversation.document patch).2.dropped <;> rfl

theorem document_takePatch (f : Feed) (patch : Patch) (now : Int) :
    (f.takePatch patch now).1.conversation.document =
      (Conversation.applyFrom 0 f.conversation.document patch).1 := by
  unfold takePatch
  simp only
  split <;> rfl

/-- A message is no failure, unless it is a patch of the conversation with dropped
operations. -/
theorem error_hear (f : Feed) (m : Message) (now : Int) :
    (f.hear m now).error = ((match f.kind, m with
      | .normalized, .patch patch => Failure.ofPatch f.conversation.document patch
      | _, _ => none).map Failure.message).or f.error := by
  unfold hear takeMessage
  cases f.kind with
  | raw =>
      cases m with
      | stdout text => exact error_takeLines f _ now
      | stderr text => exact error_takeLines f _ now
      | patch operations => exact error_takeLines f _ now
      | sessionId text => rfl
      | finished => rfl
  | normalized =>
      cases m with
      | patch operations => exact error_takePatch f operations now
      | _ => rfl

/-- What goes wrong with a signal becomes the error. Only the opening of a connection
could clear one. -/
theorem error_after (now : Int) {s : Signal} (clear : s = .opened → f.error = none) :
    (f.after s now).error =
      ((Failure.ofSignal f.kind f.conversation.document s).map Failure.message).or f.error := by
  cases s with
  | opened => exact (clear rfl).symm
  | ended => rfl
  | failed message => rfl
  | frame frame =>
      cases decoded : Message.decode frame with
      | error e => simp [after, take, Failure.ofSignal, decoded, Failure.message]
      | ok found =>
          have brought : (Signal.frame frame).message? = found := by
            simp [Signal.message?, decoded, Except.toOption]
          cases found with
          | none => simp [after, take, Failure.ofSignal, Signal.patch?, brought, decoded]
          | some m =>
              rw [after_of_message brought, error_hear]
              simp only [Failure.ofSignal, decoded, Signal.patch?, brought]
              cases f.kind <;> cases m <;> rfl

theorem document_after (f : Feed) (s : Signal) (now : Int) :
    (f.after s now).conversation.document =
      Failure.documentAfter f.kind f.conversation.document s := by
  unfold Failure.documentAfter Signal.patch?
  cases brought : s.message? with
  | none =>
      rw [(f.after_of_no_message now brought).2]
      cases f.kind <;> rfl
  | some m =>
      rw [after_of_message brought]
      cases kind : f.kind with
      | raw => rw [(hear_of_raw kind m).2]
      | normalized =>
          unfold hear takeMessage
          rw [kind]
          cases m with
          | patch operations => exact document_takePatch f operations now
          | _ => rfl

end Step

end Feed

namespace Subscription

/-! ## The reports of one connection -/

theorem waiting_of_unlinked {s : Subscription} (unlinked : s.link = none) (queue : List Event) :
    s.waiting queue = [] := by
  apply Event.reportsOf_eq_nil
  rintro e _listed ⟨_owner, same⟩
  rw [generation?, unlinked] at same
  cases same

/-- The error after some events is that of the last failure among the reports that
count, and the link is gone if a final one is among them. -/
theorem receiveAll_failures {s : Subscription} (queue : List (Event × Int))
    (clear : .opened ∈ s.waiting (queue.map Prod.fst) → s.feed.error = none)
    (once : .opened ∉ (s.waiting (queue.map Prod.fst)).tail) :
    let reports := s.waiting (queue.map Prod.fst)
    (s.receiveAll queue).1.feed.error =
        (Failure.last (Failure.ofReports s.feed.kind s.feed.conversation.document reports)).or
          s.feed.error ∧
      (s.receiveAll queue).1.link = if reports.any Signal.isFinal then none else s.link := by
  induction queue generalizing s with
  | nil => exact ⟨rfl, rfl⟩
  | cons x rest inductionHypothesis =>
      obtain ⟨e, now⟩ := x
      rw [List.map_cons, receiveAll_cons]
      cases accepted : s.accepts e with
      | false =>
          rw [List.map_cons, waiting_cons_of_refuses accepted] at clear once
          rw [receive_of_not_accepts now accepted, waiting_cons_of_refuses accepted]
          exact inductionHypothesis clear once
      | true =>
          rw [List.map_cons, waiting_cons_of_accepts accepted] at clear once
          rw [receive_of_accepts now accepted, waiting_cons_of_accepts accepted]
          have error := Feed.error_after now
            fun opened : e.signal = .opened => clear (opened ▸ List.mem_cons_self)
          cases final : e.signal.isFinal with
          | true =>
              -- The link is gone, so nothing that follows counts.
              have silent : waiting ⟨s.feed.after e.signal now, none⟩ (rest.map Prod.fst) = [] :=
                waiting_of_unlinked rfl _
              have later := inductionHypothesis (s := ⟨s.feed.after e.signal now, none⟩)
                (by rw [silent]; nofun) (by rw [silent]; exact List.not_mem_nil)
              rw [silent] at later
              simp only [if_true, later, Failure.ofReports_cons_of_final final,
                Failure.last_toList, List.any_cons, final, Bool.true_or]
              exact ⟨error, ite_self _⟩
          | false =>
              -- Only the first report opens the connection.
              have same : waiting ⟨s.feed.after e.signal now, s.link⟩ (rest.map Prod.fst) =
                  s.waiting (rest.map Prod.fst) := by
                unfold waiting id
                rw [Feed.process_after]
                rfl
              have later := inductionHypothesis (s := ⟨s.feed.after e.signal now, s.link⟩)
                (by rw [same]; exact fun listed => absurd listed once)
                (by rw [same]; exact fun listed => once (List.mem_of_mem_tail listed))
              rw [same, Feed.kind_after, Feed.document_after, error] at later
              simp only [Bool.false_eq_true, if_false, later,
                Failure.ofReports_cons_of_going final, Failure.last_append, Failure.last_toList,
                List.any_cons, final, Bool.false_or, Option.or_assoc, and_self]

end Subscription

/-! ## One process -/

/-- What goes wrong with a process, when this is heard from the endpoints. -/
def Execution.failures (backend : Backend) (heard : Endpoint → List Signal) (p : Execution) :
    List Failure :=
  match backend.resolve p with
  | .error e => [.unresolved e]
  | .ok endpoint => Failure.ofReports p.kind Conversation.blank (heard endpoint)

namespace Subscription

/-- A subscription of which nothing has been heard yet: its process is served and
nothing is wrong with it, or that it is not served is its error. -/
inductive Begins (backend : Backend) (s : Subscription) : Prop
  | served (link : Link) (linked : s.link = some link)
      (resolved : backend.resolve s.feed.process = .ok link.endpoint)
      (clear : s.feed.error = none)
      (blank : s.feed.conversation.document = Conversation.blank)
  | unserved (e : UrlError) (unlinked : s.link = none)
      (resolved : backend.resolve s.feed.process = .error e)
      (wrong : s.feed.error = some (Failure.unresolved e).message)

/-- What a subscription hears is the beginning of what its connection reports. -/
def Hears (s : Subscription) (course : Endpoint → Course) (events : List (Event × Int)) : Prop :=
  ∀ link, s.link = some link →
    s.waiting (events.map Prod.fst) <+: (course link.endpoint).signals

namespace Begins

variable {backend : Backend} {s : Subscription} {course : Endpoint → Course}
  {events : List (Event × Int)}

theorem subscribe (settings : Settings) (backend : Backend) (generation : Nat) (p : Execution)
    (now : Int) : (Hub.subscribe settings backend generation p now).1.Begins backend := by
  cases resolved : backend.resolve p with
  | ok endpoint =>
      rw [Hub.subscribe_of_ok resolved]
      exact .served ⟨generation + 1, endpoint⟩ rfl resolved rfl rfl
  | error e =>
      simp only [Hub.subscribe, resolved]
      exact .unserved e rfl resolved rfl

theorem receiveAll (begins : s.Begins backend) (hears : s.Hears course events) :
    let reports := s.waiting (events.map Prod.fst)
    (s.receiveAll events).1.feed.error =
        (Failure.last (Failure.ofReports s.feed.kind s.feed.conversation.document reports)).or
          s.feed.error ∧
      (s.receiveAll events).1.link = if reports.any Signal.isFinal then none else s.link := by
  cases begins with
  | served link linked resolved clear blank =>
      apply receiveAll_failures events fun _opened => clear
      intro again
      exact (course link.endpoint).opened_not_mem_tail_signals
        ((hears link linked).sublist.tail.subset again)
  | unserved e unlinked resolved wrong =>
      have silent := waiting_of_unlinked unlinked (events.map Prod.fst)
      apply receiveAll_failures events
      · rw [silent]
        nofun
      · rw [silent]
        exact List.not_mem_nil

/-- When its connection is not open any more, the error of a process is what went
wrong with it last. -/
theorem error_of_closed (begins : s.Begins backend) (hears : s.Hears course events)
    (closed : (s.receiveAll events).1.link = none) :
    (s.receiveAll events).1.feed.error =
      Failure.last (s.feed.process.failures backend fun endpoint => (course endpoint).signals) := by
  rcases begins.receiveAll hears with ⟨error, after⟩
  rw [error, Execution.failures]
  cases begins with
  | served link linked resolved clear blank =>
      have final : (s.waiting (events.map Prod.fst)).any Signal.isFinal = true := by
        by_contra going
        rw [after, if_neg going, linked] at closed
        cases closed
      rw [resolved, clear, blank, Option.or_none]
      exact congrArg Failure.last (Failure.ofReports_eq_of_final (hears link linked) final).symm
  | unserved e unlinked resolved wrong =>
      rw [resolved, wrong, waiting_of_unlinked unlinked]
      rfl

/-- The error of a feed does not go away. -/
theorem isSome_error_mono {earlier : List (Event × Int)} (begins : s.Begins backend)
    (hears : s.Hears course events) (part : earlier <+: events)
    (failed : (s.receiveAll earlier).1.feed.error.isSome) :
    (s.receiveAll events).1.feed.error.isSome := by
  have reports : s.waiting (earlier.map Prod.fst) <+: s.waiting (events.map Prod.fst) :=
    ((part.map Prod.fst).filter _).map Event.signal
  have before := (begins.receiveAll fun link linked => reports.trans (hears link linked)).1
  rw [before, Option.isSome_or, Bool.or_eq_true, Failure.isSome_last] at failed
  rw [(begins.receiveAll hears).1, Option.isSome_or, Bool.or_eq_true, Failure.isSome_last]
  refine failed.imp_left fun some none => some ?_
  exact List.prefix_nil.mp (none ▸ Failure.ofReports_prefix reports)

end Begins

end Subscription

/-! ## All processes -/

namespace Event

variable {id : Uuid} {generation : Option Nat}

theorem reportsOf_map (link : Link) (signals : List Signal) :
    reportsOf id generation (signals.map fun s => ⟨link.endpoint.process, link.generation, s⟩) =
      if link.endpoint.process = id ∧ some link.generation = generation then signals else [] := by
  induction signals with
  | nil => simp [reportsOf]
  | cons s signals inductionHypothesis =>
      rw [List.map_cons]
      split
      · rename_i same
        rw [reportsOf_cons_self same.1 same.2, inductionHypothesis, if_pos same]
      · rename_i other
        rw [reportsOf_cons_other other, inductionHypothesis, if_neg other]

/-- Where connections report one after another, the reports of one connection are
those of its links. -/
theorem reportsOf_flatMap (report : Link → List Signal) (links : List Link) :
    reportsOf id generation (links.flatMap fun l =>
        (report l).map fun s => ⟨l.endpoint.process, l.generation, s⟩) =
      (links.filter fun l =>
        decide (l.endpoint.process = id ∧ some l.generation = generation)).flatMap report := by
  induction links with
  | nil => rfl
  | cons link rest inductionHypothesis =>
      rw [List.flatMap_cons, reportsOf_append, reportsOf_map, inductionHypothesis,
        List.filter_cons]
      split
      · rename_i same
        rw [if_pos (decide_eq_true same), List.flatMap_cons]
      · rename_i other
        rw [if_neg fun same => other (of_decide_eq_true same), List.nil_append]

end Event

namespace Hub

/-- Of every registered connection the events bring the beginning of what it reports.
How the reports of several connections follow each other is left open. -/
def Hears (h : Hub) (course : Endpoint → Course) (events : List (Event × Int)) : Prop :=
  ∀ link ∈ h.links,
    Event.reportsOf link.endpoint.process (some link.generation) (events.map Prod.fst) <+:
      (course link.endpoint).signals

instance (h : Hub) (course : Endpoint → Course) (events : List (Event × Int)) :
    Decidable (h.Hears course events) :=
  inferInstanceAs (Decidable (∀ link ∈ h.links, _ <+: _))

/-- Of every registered connection the events bring all that it reports. -/
def HearsAll (h : Hub) (course : Endpoint → Course) (events : List (Event × Int)) : Prop :=
  ∀ link ∈ h.links,
    Event.reportsOf link.endpoint.process (some link.generation) (events.map Prod.fst) =
      (course link.endpoint).signals

/-- A hub that follows some processes, of which nothing has been heard yet. -/
structure Begins (h : Hub) (ps : List Execution) : Prop where
  sound : h.Sound
  processes : (h.subscriptions.map fun s => s.feed.process) = distinct ps
  begins : ∀ s ∈ h.subscriptions, s.Begins h.backend

section Sound

variable {h : Hub} {s : Subscription} {link : Link}

theorem Sound.waiting_eq (sound : h.Sound) (listed : s ∈ h.subscriptions)
    (linked : s.link = some link) (queue : List Event) :
    s.waiting queue = Event.reportsOf link.endpoint.process (some link.generation) queue := by
  rw [sound.owned s listed link linked, Subscription.waiting, Subscription.generation?, linked]
  rfl

/-- A registered link is told by its process and its generation. -/
theorem Sound.filter_links (sound : h.Sound) (listed : link ∈ h.links) :
    h.links.filter (fun l => decide (l.endpoint.process = link.endpoint.process ∧
      some l.generation = some link.generation)) = [link] := by
  have found : link ∈ h.links.filter
      fun l => decide (l.endpoint.process = link.endpoint.process) :=
    List.mem_filter.mpr ⟨listed, decide_eq_true rfl⟩
  have alone := sound.links_filter link.endpoint.process
  rw [alone, Option.mem_toList] at found
  rw [found, Option.toList_some] at alone
  have both (l : Link) : decide (l.endpoint.process = link.endpoint.process ∧
      some l.generation = some link.generation) =
        (decide (some l.generation = some link.generation) &&
          decide (l.endpoint.process = link.endpoint.process)) := by
    rw [Bool.decide_and, Bool.and_comm]
  simp only [both]
  rw [← List.filter_filter, alone]
  exact List.filter_cons_of_pos (decide_eq_true rfl)

theorem hasLinks_eq_false_iff : h.hasLinks = false ↔ ∀ s ∈ h.subscriptions, s.link = none := by
  rw [hasLinks, links, Bool.not_eq_false', List.isEmpty_iff, List.filterMap_eq_nil_iff]

theorem Sound.hasLinks_handleAll (sound : h.Sound) (events : List (Event × Int)) :
    (h.handleAll events).1.hasLinks = false ↔
      ∀ s ∈ h.subscriptions, (s.receiveAll events).1.link = none := by
  rw [hasLinks_eq_false_iff, handleAll_eq sound, List.forall_mem_map]

theorem Sound.error?_handleAll (sound : h.Sound) (events : List (Event × Int)) :
    (h.handleAll events).1.error? =
      h.subscriptions.findSome? fun s => (s.receiveAll events).1.feed.error := by
  rw [handleAll_eq sound, error?, List.findSome?_map]
  rfl

end Sound

theorem HearsAll.hears {h : Hub} {course : Endpoint → Course} {events : List (Event × Int)}
    (all : h.HearsAll course events) : h.Hears course events := by
  intro link listed
  rw [all link listed]

theorem Hears.subscription {h : Hub} {course : Endpoint → Course} {events : List (Event × Int)}
    (hears : h.Hears course events) (sound : h.Sound) {s : Subscription}
    (listed : s ∈ h.subscriptions) : s.Hears course events := by
  intro link linked
  rw [sound.waiting_eq listed linked]
  exact hears link (List.mem_filterMap.mpr ⟨s, listed, linked⟩)

namespace Begins

variable {h : Hub} {ps : List Execution} {course : Endpoint → Course}
  {events : List (Event × Int)}

theorem start (settings : Settings) (backend : Backend) (ps : List Execution) (now : Int) :
    ((Hub.empty settings backend).sync ps now).Begins ps where
  sound := (Sound.empty settings backend).sync ps now
  processes := (Follows.start settings backend ps now).processes
  begins := by
    intro s listed
    rcases mem_subscribeAll listed with ⟨p, -, generation, -, made, -⟩
    rw [keepOrSubscribe_of_none rfl] at made
    rw [made]
    exact Subscription.Begins.subscribe settings backend generation p now

/-- Once every connection has reported all that it has to, no connection is open. -/
theorem hasLinks_of_hearsAll (begins : h.Begins ps) (all : h.HearsAll course events) :
    (h.handleAll events).1.hasLinks = false := by
  rw [begins.sound.hasLinks_handleAll]
  intro s listed
  rw [((begins.begins s listed).receiveAll (all.hears.subscription begins.sound listed)).2]
  cases linked : s.link with
  | none => exact ite_self _
  | some link =>
      rw [begins.sound.waiting_eq listed linked,
        all link (List.mem_filterMap.mpr ⟨s, listed, linked⟩),
        (course link.endpoint).any_isFinal_signals, if_pos rfl]

/-- When no connection is open any more, the error of the hub is the last failure of
the first process with which something went wrong. -/
theorem error?_of_closed (begins : h.Begins ps) (hears : h.Hears course events)
    (closed : (h.handleAll events).1.hasLinks = false) :
    (h.handleAll events).1.error? = (distinct ps).findSome? fun p =>
      Failure.last (p.failures h.backend fun endpoint => (course endpoint).signals) := by
  have unlinked := (begins.sound.hasLinks_handleAll events).mp closed
  have errors := List.map_congr_left fun s listed =>
    (begins.begins s listed).error_of_closed (hears.subscription begins.sound listed)
      (unlinked s listed)
  calc (h.handleAll events).1.error?
    _ = (h.subscriptions.map fun s => (s.receiveAll events).1.feed.error).findSome? id := by
        rw [begins.sound.error?_handleAll, List.findSome?_map]
        rfl
    _ = _ := by
        rw [errors, ← begins.processes, List.findSome?_map, List.findSome?_map]
        rfl

/-- The error of a whole hub does not go away. -/
theorem isSome_error?_mono {earlier : List (Event × Int)} (begins : h.Begins ps)
    (hears : h.Hears course events) (part : earlier <+: events)
    (failed : (h.handleAll earlier).1.error?.isSome) : (h.handleAll events).1.error?.isSome := by
  rw [begins.sound.error?_handleAll, List.findSome?_isSome_iff] at failed ⊢
  rcases failed with ⟨s, listed, wrong⟩
  exact ⟨s, listed, (begins.begins s listed).isSome_error_mono
    (hears.subscription begins.sound listed) part wrong⟩

end Begins

end Hub

/-! ## The command -/

namespace Follower

theorem hub_run (f : Follower) (events : List (Event × Int)) :
    (f.run events).1.hub = (f.hub.handleAll events).1 := by
  induction events generalizing f with
  | nil => rfl
  | cons event rest inductionHypothesis =>
      obtain ⟨e, now⟩ := event
      have stepped : (f.step e now).1.hub = (f.hub.handle e now).1 := by
        cases reported : (f.hub.handle e now).2 with
        | none => rw [step_of_none reported]
        | some u => rw [step_of_some reported, present]
      rw [run, Hub.handleAll_cons, ← stepped, ← inductionHypothesis]

/-- The error of a run is the error of its hub. -/
theorem error_follow (f : Follower) (events : List (Event × Int)) :
    (f.follow events).2 = (f.hub.handleAll events).1.error? :=
  congrArg Hub.error? (f.hub_run events)

end Follower

/-- What a run to the end tells of failures. -/
structure Outcome.Tells (outcome : Outcome) (ps : List Execution)
    (failures : Execution → List Failure) : Prop where
  fails : outcome.exitCode = 1 ↔ ∃ p ∈ Hub.distinct ps, failures p ≠ []
  succeeds : outcome.exitCode = 0 ↔ ∀ p ∈ Hub.distinct ps, failures p = []
  error : outcome.error = ((Hub.distinct ps).findSome? fun p => Failure.last (failures p)).map
    fun e => "log stream ended with an error: " ++ e

namespace CommandLine

/-- Where the connections report one after another, each reports all that it has to. -/
theorem hearsAll_events {h : Hub} (sound : h.Sound) (network : Url → Reply) (now : Int) :
    h.HearsAll (fun endpoint => (network endpoint.url).course endpoint.url)
      (events h network now) := by
  intro link listed
  unfold events
  rw [List.map_flatMap]
  simp only [List.map_map, Function.comp_def]
  rw [Event.reportsOf_flatMap, sound.filter_links listed, List.flatMap_singleton]

theorem exitCode_conclude (followed : List String × Option String) (asked : List String) :
    (conclude followed asked).exitCode = if followed.2 = none then 0 else 1 := by
  unfold conclude
  cases followed.2 <;> rfl

theorem error_conclude (followed : List String × Option String) (asked : List String) :
    (conclude followed asked).error =
      followed.2.map fun e => "log stream ended with an error: " ++ e := by
  unfold conclude
  cases followed.2 <;> rfl

theorem tells_conclude {ps : List Execution} {failures : Execution → List Failure}
    {followed : List String × Option String}
    (error : followed.2 = (Hub.distinct ps).findSome? fun p => Failure.last (failures p))
    (asked : List String) : (conclude followed asked).Tells ps failures := by
  have sound : followed.2 = none ↔ ∀ p ∈ Hub.distinct ps, failures p = [] := by
    rw [error, List.findSome?_eq_none_iff]
    simp only [Failure.last_eq_none_iff]
  refine ⟨?_, ?_, ?_⟩
  · rw [exitCode_conclude]
    by_cases none : followed.2 = none
    · simpa [none] using sound.mp none
    · simpa [none] using fun every => none (sound.mpr every)
  · rw [exitCode_conclude, ← sound]
    simp
  · rw [error_conclude, error]

section Run

variable (o : Options) (settings : Settings) (backend : Backend) (now : Int)

/-- Whatever a network answers, all that goes wrong is told. -/
theorem tells_follow (network : Url → Reply) :
    (follow o settings backend network now).Tells o.processes fun p =>
      p.failures backend fun endpoint => ((network endpoint.url).course endpoint.url).signals := by
  have begins := Hub.Begins.start settings backend o.processes now
  have all := hearsAll_events begins.sound network now
  apply tells_conclude
  rw [Follower.error_follow]
  exact begins.error?_of_closed all.hears (begins.hasLinks_of_hearsAll all)

/-- A run to the end fails if and only if something went wrong with a process that is
followed: it could not be served, its connection was refused or broke before it had
finished, or a frame or a part of a patch was of no use. What is told is the last
failure of the first such process. This does not depend on how the reports of several
connections follow each other, and nothing that comes later takes a failure back. -/
theorem failures_not_forgotten (course : Endpoint → Course) (events : List (Event × Int))
    (asked : List String) :
    let f := Follower.start settings backend (!o.plain) o.json o.processes now
    let outcome := conclude (f.follow events) asked
    f.hub.Hears course events → (f.run events).1.hub.hasLinks = false →
      outcome.Tells o.processes
          (fun p => p.failures backend fun endpoint => (course endpoint).signals) ∧
        ∀ earlier, earlier <+: events → (conclude (f.follow earlier) asked).exitCode = 1 →
          outcome.exitCode = 1 := by
  intro f outcome hears closed
  have begins : f.hub.Begins o.processes := .start settings backend o.processes now
  rw [f.hub_run] at closed
  have error := (f.error_follow events).trans (begins.error?_of_closed hears closed)
  refine ⟨tells_conclude error asked, ?_⟩
  intro earlier part failed
  have before : (f.follow earlier).2 ≠ none := by
    intro none
    rw [exitCode_conclude, if_pos none] at failed
    cases failed
  rw [f.error_follow, ← Option.isSome_iff_ne_none] at before
  have after : (f.follow events).2 ≠ none := by
    rw [f.error_follow, ← Option.isSome_iff_ne_none]
    exact begins.isSome_error?_mono hears part before
  rw [exitCode_conclude, if_neg after]

/-- The script was asked for first and breaks last, so its failure is told. Of the agent
two patches were bad before, and neither a good one nor its end takes that back. -/
theorem broken_script_and_torn_patch :
    let backend := Backend.atHost "b"
    let script : Execution := ⟨default, .setupScript, .running, false⟩
    let agent : Execution := ⟨⟨List.replicate 32 1, rfl⟩, .codingAgent, .running, false⟩
    let o : Options := ⟨none, [script, agent, script], false, false⟩
    let line : Frame := .event "stdout" "a"
    let torn : Frame := .event "json_patch" "[\x7b"
    let lost : Frame := .event "json_patch" "[\x7b\"op\": \"remove\", \"path\": \"/a\"\x7d]"
    let good : Frame := .event "json_patch" "[]"
    let finished : Frame := .event "finished" ""
    let course (endpoint : Endpoint) : Course :=
      if endpoint.process = script.id then .accepted [line] (some (.stream "gone"))
      else .accepted [torn, lost, good, finished, torn] none
    let ofScript (s : Signal) : Event := ⟨script.id, 1, s⟩
    let ofAgent (s : Signal) : Event := ⟨agent.id, 2, s⟩
    let events : List (Event × Int) := [(ofAgent .opened, 1), (ofAgent (.frame torn), 2),
      (ofScript .opened, 3), (ofAgent (.frame lost), 4), (ofAgent (.frame good), 5),
      (ofAgent (.frame finished), 6), (ofAgent (.frame torn), 7), (ofScript (.frame line), 8),
      (ofScript (.ofError (.stream "gone")), 9)]
    let f := Follower.start Settings.default backend (!o.plain) o.json o.processes 0
    let outcome := conclude (f.follow events) []
    (agent.failures backend fun endpoint => (course endpoint).signals).length = 2 ∧
      outcome.exitCode = 1 ∧
      outcome.error = some
        "log stream ended with an error: Connection failed: event stream error: gone" := by
  intro backend script agent o line torn lost good finished course ofScript ofAgent events f outcome
  have told := failures_not_forgotten o Settings.default backend 0 course events []
    (by decide +kernel) (by decide +kernel)
  rcases told with ⟨⟨fails, -, error⟩, -⟩
  have wrong : script.failures backend (fun endpoint => (course endpoint).signals) =
      [.broken "Connection failed: event stream error: gone"] := by decide +kernel
  refine ⟨by decide +kernel, fails.mpr ⟨script, List.mem_cons_self, ?_⟩, ?_⟩
  · rw [wrong]
    exact List.cons_ne_nil _ _
  · rw [error]
    decide +kernel

end Run

end CommandLine

end LiveLog
