import LiveLog.Expansion
import Mathlib.Data.List.DropRight

namespace LiveLog

/-!
# What decides whether a row is open

The table of decisions holds one decision for each row, the latest. What is said here is
about the whole history of calls: since everything was forgotten for the last time, a
row shows what its reader chose last, and if nothing was chosen, the default that came
with the first question about it. A default that comes later, or after a choice, is not
even computed.

The history is a list of moments, each a call with the decisions before it, so that an
answer can be read off the moment at which it was given. One step is
`Moment.state_after`: a choice goes before the decision that was there, and that one
before an offered default. The law of a run follows, because `decided` puts the choices
and the defaults of a history together in the same way.
-/

namespace Expansion

/-- What can be asked of the decisions, or told them. -/
inductive Call
  | setContext (context : String)
  | isExpanded (key : String) (entry : Entry)
  | resolve (key : String) (fallback : Bool)
  | toggle (key : String) (entry : Entry)
  | setExpanded (key : String) (expanded : Bool)
  | clear

/-- A call, with the decisions before it. -/
structure Moment where
  before : Expansion
  call : Call

namespace Call

/-- The context that a call enters. -/
def context? : Call → Option String
  | setContext context => some context
  | _ => none

/-- Whether a call has nothing to do with a row: it is about another one, or enters the
context that is there. -/
def Spares (key : String) (x : Expansion) : Call → Prop
  | setContext context => x.context = some context
  | isExpanded other _ | resolve other _ | toggle other _ | setExpanded other _ => other ≠ key
  | clear => False

end Call

namespace Moment

/-- The decisions after the call of a moment. -/
def after (m : Moment) : Expansion :=
  match m.call with
  | .setContext context => (m.before.setContext context).1
  | .isExpanded key e => (m.before.isExpanded key e).1
  | .resolve key fallback => (m.before.resolve key fallback).1
  | .toggle key e => (m.before.toggle key e).1
  | .setExpanded key b => m.before.setExpanded key b
  | .clear => m.before.clear

/-- Whether every decision is forgotten: another context is entered, or the table is
cleared. -/
def forgets (m : Moment) : Bool :=
  match m.call with
  | .setContext context => decide (m.before.context ≠ some context)
  | .clear => true
  | _ => false

/-- What the reader of a row chooses. A row that is turned over is chosen to be as it is
then. -/
def chosen? (key : String) (m : Moment) : Option Bool :=
  match m.call with
  | .toggle other e => if other = key then some (m.before.toggle other e).2 else none
  | .setExpanded other b => if other = key then some b else none
  | _ => none

/-- The default that comes with a question about a row. -/
def offered? (key : String) (m : Moment) : Option Bool :=
  match m.call with
  | .isExpanded other e => if other = key then some e.isExpandedByDefault else none
  | .resolve other fallback => if other = key then some fallback else none
  | _ => none

/-- What is answered about a row. -/
def answer? (key : String) (m : Moment) : Option Bool :=
  match m.call with
  | .isExpanded other e => if other = key then some (m.before.isExpanded other e).2 else none
  | .resolve other fallback =>
    if other = key then some (m.before.resolve other fallback).2.1 else none
  | .toggle other e => if other = key then some (m.before.toggle other e).2 else none
  | _ => none

/-- Whether a default for a row is computed. -/
def evaluates (key : String) (m : Moment) : Bool :=
  match m.call with
  | .isExpanded other e | .toggle other e =>
    decide (other = key) && (m.before.resolve other e.isExpandedByDefault).2.2
  | .resolve other fallback => decide (other = key) && (m.before.resolve other fallback).2.2
  | _ => false

/-- All that a call has to do with a row: the decision after it, the answer, and whether
a default was computed. -/
def seen (key : String) (m : Moment) : Option Decision × Option Bool × Bool :=
  (m.after.state key, m.answer? key, m.evaluates key)

end Moment

/-- Answer one call. -/
def perform (x : Expansion) (call : Call) : Expansion := (Moment.mk x call).after

/-- The decisions after some calls. -/
def run (x : Expansion) (calls : List Call) : Expansion := calls.foldl perform x

/-- The moments of some calls. -/
def moments (x : Expansion) : List Call → List Moment
  | [] => []
  | call :: calls => ⟨x, call⟩ :: moments (x.perform call) calls

/-- The moments since everything was forgotten for the last time. -/
def recent (calls : List Call) : List Moment :=
  (moments empty calls).rtakeWhile fun m => !m.forgets

/-- What the reader of a row chose last. -/
def choice? (key : String) (ms : List Moment) : Option Bool :=
  (ms.filterMap (Moment.chosen? key)).getLast?

/-- The default that came with the first question about a row. -/
def default? (key : String) (ms : List Moment) : Option Bool :=
  (ms.filterMap (Moment.offered? key)).head?

/-- The decision that some moments lead to: a choice, or else a default. -/
def decided (key : String) (ms : List Moment) : Option Decision :=
  ((choice? key ms).map .byUser).or ((default? key ms).map .byDefault)

/-- How the rows of a history are decided, said of one row after some calls. -/
structure Obeys (calls : List Call) (key : String) : Prop where
  /-- The context is the one that was entered last. -/
  context : (run empty calls).context = (calls.filterMap Call.context?).getLast?
  /-- A question is answered by the last choice, or else by the first default. -/
  resolved : ∀ fallback, ((run empty calls).resolve key fallback).2.1 =
    ((choice? key (recent calls)).or (default? key (recent calls))).getD fallback
  /-- So is a question that comes with an entry. -/
  expanded : ∀ e, ((run empty calls).isExpanded key e).2 =
    ((choice? key (recent calls)).or (default? key (recent calls))).getD e.isExpandedByDefault
  /-- A default is computed at the first question, unless a choice was made before. -/
  evaluated : ∀ past m future, recent calls = past ++ m :: future →
    (m.evaluates key = true ↔
      (m.answer? key).isSome = true ∧ choice? key past = none ∧ default? key past = none)
  /-- No default is computed twice. -/
  once : ((recent calls).countP (Moment.evaluates key)) ≤ 1
  /-- A row that is turned over shows the opposite of what it showed, and goes on to. -/
  toggled : ∀ e fallback,
    let turned := (run empty calls).toggle key e
    turned.2 = !((run empty calls).isExpanded key e).2 ∧
      (turned.1.resolve key fallback).2.1 = turned.2
  /-- What has nothing to do with the row might as well not have been called. -/
  spared : ∀ call : Call, call.Spares key (run empty calls) → ∀ later,
    (moments ((run empty calls).perform call) later).map (Moment.seen key) =
      (moments (run empty calls) later).map (Moment.seen key)

/-! ## One call -/

section Resolve

variable {x : Expansion} {key other : String}

/-- What is answered is the decision, or the default where there is none. -/
theorem resolve_answer (x : Expansion) (key : String) (fallback : Bool) :
    (x.resolve key fallback).2.1 = ((x.state key).map Decision.expanded).getD fallback := by
  unfold resolve
  cases x.state key <;> rfl

/-- A default is needed where nothing is decided. -/
theorem resolve_needed (x : Expansion) (key : String) (fallback : Bool) :
    (x.resolve key fallback).2.2 = (x.state key).isNone := by
  unfold resolve
  cases x.state key <;> rfl

/-- A question decides the row by its default, where nothing else does. -/
theorem state_resolve (x : Expansion) (key other : String) (fallback : Bool) :
    (x.resolve other fallback).1.state key =
      (x.state key).or ((if other = key then some fallback else none).map .byDefault) := by
  unfold resolve
  by_cases same : other = key
  · rw [if_pos same, same]
    cases decision : x.state key with
    | some d => exact decision
    | none =>
        change (x.decisions ++ [(key, Decision.byDefault fallback)]).lookup key = _
        rw [List.lookup_append, List.lookup_cons, beq_self_eq_true,
          show x.decisions.lookup key = none from decision]
        rfl
  · rw [if_neg same, Option.map_none, Option.or_none]
    cases x.state other with
    | some d => rfl
    | none =>
        change (x.decisions ++ [(other, Decision.byDefault fallback)]).lookup key = _
        rw [List.lookup_append, List.lookup_cons, beq_false_of_ne (Ne.symm same)]
        exact Option.or_none

/-- A choice decides the row, and no other one. -/
theorem state_choose (x : Expansion) (key other : String) (b : Bool) :
    (x.setExpanded other b).state key =
      ((if other = key then some b else none).map .byUser).or (x.state key) := by
  by_cases same : other = key
  · rw [if_pos same, same, state_setExpanded]
    rfl
  · rw [if_neg same, state_setExpanded_of_ne (Ne.symm same)]
    rfl

end Resolve

namespace Moment

variable {m : Moment} {key : String}

theorem context_after (m : Moment) :
    m.after.context = (m.call.context?).or m.before.context := by
  rcases m with ⟨x, call⟩
  have resolved (key : String) (fallback : Bool) :
      (x.resolve key fallback).1.context = x.context := by
    unfold resolve
    cases x.state key <;> rfl
  cases call with
  | setContext context =>
      by_cases same : x.context = some context
      · simp only [after, setContext, if_pos same, Call.context?, Option.some_or]
        exact same
      · simp only [after, setContext, if_neg same, Call.context?, Option.some_or]
  | isExpanded key e => exact resolved key e.isExpandedByDefault
  | resolve key fallback => exact resolved key fallback
  | toggle key e => exact resolved key e.isExpandedByDefault
  | setExpanded key b => rfl
  | clear => rfl

theorem state_after_of_forgets (forgets : m.forgets = true) (key : String) :
    m.after.state key = none := by
  rcases m with ⟨x, call⟩
  cases call with
  | setContext context =>
      have other : x.context ≠ some context := of_decide_eq_true forgets
      simp only [after, setContext, if_neg other]
      rfl
  | clear => rfl
  | isExpanded key e => cases forgets
  | resolve key fallback => cases forgets
  | toggle key e => cases forgets
  | setExpanded key b => cases forgets

/-- A choice goes before the decision that was there, and that before a default. -/
theorem state_after (kept : m.forgets = false) (key : String) :
    m.after.state key = ((m.chosen? key).map .byUser).or
      ((m.before.state key).or ((m.offered? key).map .byDefault)) := by
  rcases m with ⟨x, call⟩
  cases call with
  | setContext context =>
      have same : x.context = some context := not_not.mp (of_decide_eq_false kept)
      simp only [after, setContext, if_pos same, chosen?, offered?, Option.map_none, Option.none_or,
        Option.or_none]
  | isExpanded other e => exact state_resolve x key other e.isExpandedByDefault
  | resolve other fallback => exact state_resolve x key other fallback
  | toggle other e =>
      change ((x.resolve other e.isExpandedByDefault).1.setExpanded other _).state key = _
      rw [state_choose, state_resolve]
      -- The default that a toggle asks for is covered by the choice it makes.
      by_cases same : other = key
      · simp only [chosen?, if_pos same]
        rfl
      · simp only [chosen?, offered?, if_neg same, Option.map_none]
  | setExpanded other b =>
      change (x.setExpanded other b).state key = _
      rw [state_choose, offered?, Option.map_none, Option.or_none]
      rfl
  | clear => cases kept

/-- A default is computed for a question about a row that nothing decides. -/
theorem evaluates_iff (m : Moment) (key : String) :
    m.evaluates key = true ↔ (m.answer? key).isSome = true ∧ m.before.state key = none := by
  rcases m with ⟨x, call⟩
  cases call with
  | setContext context => simp [evaluates, answer?]
  | isExpanded other e =>
      by_cases same : other = key <;> simp [evaluates, answer?, resolve_needed, same]
  | resolve other fallback =>
      by_cases same : other = key <;> simp [evaluates, answer?, resolve_needed, same]
  | toggle other e =>
      by_cases same : other = key <;> simp [evaluates, answer?, resolve_needed, same]
  | setExpanded other b => simp [evaluates, answer?]
  | clear => simp [evaluates, answer?]

/-- Whoever gets an answer about a row has made a choice or brought a default. -/
theorem isSome_of_answer? (answered : (m.answer? key).isSome = true) :
    (m.chosen? key).isSome = true ∨ (m.offered? key).isSome = true := by
  rcases m with ⟨x, call⟩
  cases call with
  | setContext context => cases answered
  | isExpanded other e =>
      by_cases same : other = key <;> simp_all [answer?, offered?]
  | resolve other fallback =>
      by_cases same : other = key <;> simp_all [answer?, offered?]
  | toggle other e =>
      by_cases same : other = key <;> simp_all [answer?, chosen?]
  | setExpanded other b => cases answered
  | clear => cases answered

end Moment

/-! ## A history of calls -/

section History

variable {calls : List Call} {call : Call} {key : String}

theorem run_concat (calls : List Call) (call : Call) :
    run empty (calls ++ [call]) = (run empty calls).perform call := List.foldl_concat ..

theorem moments_concat (x : Expansion) (calls : List Call) (call : Call) :
    moments x (calls ++ [call]) = moments x calls ++ [⟨run x calls, call⟩] := by
  induction calls generalizing x with
  | nil => rfl
  | cons first rest inductionHypothesis =>
      exact congrArg (List.cons ⟨x, first⟩) (inductionHypothesis (x.perform first))

theorem recent_of_forgets (forgets : (Moment.mk (run empty calls) call).forgets = true) :
    recent (calls ++ [call]) = [] := by
  rw [recent, moments_concat]
  exact List.rtakeWhile_concat_neg _ _ _ (by rw [forgets]; decide)

theorem recent_of_kept (kept : (Moment.mk (run empty calls) call).forgets = false) :
    recent (calls ++ [call]) = recent calls ++ [⟨run empty calls, call⟩] := by
  rw [recent, moments_concat]
  exact List.rtakeWhile_concat_pos _ _ _ (by rw [kept]; rfl)

theorem decided_concat (key : String) (ms : List Moment) (m : Moment) :
    decided key (ms ++ [m]) = ((m.chosen? key).map .byUser).or
      ((decided key ms).or ((m.offered? key).map .byDefault)) := by
  have choice : choice? key (ms ++ [m]) = (m.chosen? key).or (choice? key ms) := by
    simp only [choice?, List.filterMap_append, List.getLast?_append, List.filterMap_cons,
      List.filterMap_nil]
    cases m.chosen? key <;> rfl
  have default : default? key (ms ++ [m]) = (default? key ms).or (m.offered? key) := by
    simp only [default?, List.filterMap_append, List.head?_append, List.filterMap_cons,
      List.filterMap_nil]
    cases m.offered? key <;> rfl
  rw [decided, decided, choice, default, Option.map_or, Option.map_or, Option.or_assoc,
    Option.or_assoc]

/-- The decision on a row is the one that the moments lead to since everything was
forgotten. -/
theorem state_run (calls : List Call) (key : String) :
    (run empty calls).state key = decided key (recent calls) := by
  induction calls using List.reverseRecOn with
  | nil => rfl
  | append_singleton calls call inductionHypothesis =>
      rw [run_concat]
      cases forgets : (Moment.mk (run empty calls) call).forgets with
      | true =>
          rw [recent_of_forgets forgets]
          exact Moment.state_after_of_forgets forgets key
      | false =>
          rw [recent_of_kept forgets, decided_concat, ← inductionHypothesis]
          exact Moment.state_after forgets key

/-- At each moment the decision is the one that the moments before it lead to. -/
theorem state_before {past future : List Moment} {m : Moment}
    (split : recent calls = past ++ m :: future) (key : String) :
    m.before.state key = decided key past := by
  induction calls using List.reverseRecOn generalizing future with
  | nil =>
      cases past <;> cases split
  | append_singleton calls call inductionHypothesis =>
      cases forgets : (Moment.mk (run empty calls) call).forgets with
      | true =>
          rw [recent_of_forgets forgets] at split
          cases past <;> cases split
      | false =>
          rw [recent_of_kept forgets] at split
          rcases List.eq_nil_or_concat' future with rfl | ⟨between, last, rfl⟩
          · rcases List.append_inj' split rfl with ⟨rfl, same⟩
            cases same
            exact state_run calls key
          · rw [← List.cons_append, ← List.append_assoc] at split
            exact inductionHypothesis (List.append_inj' split rfl).1

/-- While nothing is decided no default has been computed, and afterwards none is. -/
theorem countP_evaluates (calls : List Call) (key : String) :
    (recent calls).countP (Moment.evaluates key) ≤ (decided key (recent calls)).isSome.toNat := by
  induction calls using List.reverseRecOn with
  | nil => exact Nat.le_refl 0
  | append_singleton calls call inductionHypothesis =>
      cases forgets : (Moment.mk (run empty calls) call).forgets with
      | true =>
          rw [recent_of_forgets forgets]
          exact Nat.le_refl 0
      | false =>
          have needed := Moment.evaluates_iff ⟨run empty calls, call⟩ key
          rw [← state_run] at inductionHypothesis
          rw [recent_of_kept forgets, decided_concat, ← state_run, List.countP_append,
            List.countP_singleton]
          simp only [Option.isSome_or, Option.isSome_map]
          by_cases evaluates : (Moment.mk (run empty calls) call).evaluates key = true
          · rcases needed.mp evaluates with ⟨answered, undecided⟩
            rw [show (run empty calls).state key = none from undecided] at inductionHypothesis
            rw [if_pos evaluates, Nat.le_zero.mp inductionHypothesis]
            rcases Moment.isSome_of_answer? answered with chosen | offered
            · rw [chosen, Bool.true_or]
              exact Nat.le_refl 1
            · rw [offered, Bool.or_true, Bool.or_true]
              exact Nat.le_refl 1
          · rw [if_neg evaluates, Nat.add_zero]
            apply Nat.le_trans inductionHypothesis
            cases ((run empty calls).state key).isSome with
            | false => exact Nat.zero_le _
            | true =>
                rw [Bool.true_or, Bool.or_true]

theorem context_run (calls : List Call) :
    (run empty calls).context = (calls.filterMap Call.context?).getLast? := by
  induction calls using List.reverseRecOn with
  | nil => rfl
  | append_singleton calls call inductionHypothesis =>
      have entered := Moment.context_after ⟨run empty calls, call⟩
      simp only [List.filterMap_append, List.getLast?_append, List.filterMap_cons,
        List.filterMap_nil, ← inductionHypothesis]
      rw [run_concat]
      apply entered.trans
      cases call.context? <;> rfl

end History

/-! ## Calls that have nothing to do with a row -/

/-- Two tables that are the same as far as a row is concerned. -/
structure Agrees (key : String) (x y : Expansion) : Prop where
  context : x.context = y.context
  state : x.state key = y.state key

namespace Agrees

variable {key : String} {x y : Expansion}

theorem resolve (agrees : Agrees key x y) (fallback : Bool) :
    (x.resolve key fallback).2 = (y.resolve key fallback).2 := by
  unfold Expansion.resolve
  rw [agrees.state]
  cases y.state key <;> rfl

/-- Whatever a call makes of the answer to a question, it makes the same of it. -/
theorem asked (agrees : Agrees key x y) (f : Bool → Bool) (other : String) (fallback : Bool) :
    ((if other = key then some (f (x.resolve other fallback).2.1) else none) =
        if other = key then some (f (y.resolve other fallback).2.1) else none) ∧
      (decide (other = key) && (x.resolve other fallback).2.2) =
        (decide (other = key) && (y.resolve other fallback).2.2) := by
  by_cases same : other = key
  · rw [same, agrees.resolve fallback]
    exact ⟨rfl, rfl⟩
  · rw [if_neg same, if_neg same, decide_eq_false same]
    exact ⟨rfl, rfl⟩

/-- What a call answers about the row, and what it decides, is the same. -/
theorem call (agrees : Agrees key x y) (call : Call) :
    (Moment.mk x call).chosen? key = (Moment.mk y call).chosen? key ∧
      (Moment.mk x call).answer? key = (Moment.mk y call).answer? key ∧
      (Moment.mk x call).evaluates key = (Moment.mk y call).evaluates key := by
  cases call with
  | setContext context => exact ⟨rfl, rfl, rfl⟩
  | isExpanded other e => exact ⟨rfl, agrees.asked id other e.isExpandedByDefault⟩
  | resolve other fallback => exact ⟨rfl, agrees.asked id other fallback⟩
  | toggle other e =>
      have turned := agrees.asked not other e.isExpandedByDefault
      exact ⟨turned.1, turned⟩
  | setExpanded other b => exact ⟨rfl, rfl, rfl⟩
  | clear => exact ⟨rfl, rfl, rfl⟩

theorem perform (agrees : Agrees key x y) (call : Call) :
    Agrees key (x.perform call) (y.perform call) where
  context := by
    rw [Expansion.perform, Expansion.perform, Moment.context_after, Moment.context_after,
      agrees.context]
  state := by
    have forgets : (Moment.mk x call).forgets = (Moment.mk y call).forgets := by
      cases call with
      | setContext context => simp only [Moment.forgets, agrees.context]
      | _ => rfl
    have offered : (Moment.mk x call).offered? key = (Moment.mk y call).offered? key := rfl
    rw [Expansion.perform, Expansion.perform]
    cases decision : (Moment.mk y call).forgets with
    | true =>
        rw [Moment.state_after_of_forgets decision,
          Moment.state_after_of_forgets (forgets.trans decision)]
    | false =>
        rw [Moment.state_after decision, Moment.state_after (forgets.trans decision),
          (agrees.call call).1, offered, agrees.state]

/-- Calls see the same of the row, however many follow. -/
theorem seen (agrees : Agrees key x y) (calls : List Call) :
    (moments x calls).map (Moment.seen key) = (moments y calls).map (Moment.seen key) := by
  induction calls generalizing x y with
  | nil => rfl
  | cons call rest inductionHypothesis =>
      have next := agrees.perform call
      have first : Moment.seen key ⟨x, call⟩ = Moment.seen key ⟨y, call⟩ :=
        Prod.ext next.state (Prod.ext (agrees.call call).2.1 (agrees.call call).2.2)
      rw [moments, moments, List.map_cons, List.map_cons, first, inductionHypothesis next]

/-- A call that spares the row leaves everything about it as it was. -/
theorem of_spares {call : Call} (spares : call.Spares key x) : Agrees key (x.perform call) x := by
  have kept : (Moment.mk x call).forgets = false := by
    cases call with
    | setContext context => exact decide_eq_false (not_not.mpr spares)
    | clear => cases spares
    | _ => rfl
  have undecided :
      (Moment.mk x call).chosen? key = none ∧ (Moment.mk x call).offered? key = none := by
    cases call with
    | setContext context => exact ⟨rfl, rfl⟩
    | isExpanded other e => exact ⟨rfl, if_neg spares⟩
    | resolve other fallback => exact ⟨rfl, if_neg spares⟩
    | toggle other e => exact ⟨if_neg spares, rfl⟩
    | setExpanded other b => exact ⟨if_neg spares, rfl⟩
    | clear => cases spares
  constructor
  case context =>
    rw [Expansion.perform, Moment.context_after]
    cases call with
    | setContext context => exact (show x.context = some context from spares).symm
    | _ => rfl
  case state =>
    rw [Expansion.perform, Moment.state_after kept, undecided.1, undecided.2, Option.map_none,
      Option.map_none, Option.none_or, Option.or_none]

end Agrees

/-- Whatever is called on a fresh table, and for whichever row: since everything was
forgotten for the last time, the last choice counts, or else the default of the first
question, which is computed once and not after a choice; a row that is turned over shows
the opposite of what it showed; and what does not concern the row does not change what
is seen of it. -/
theorem decided_once (calls : List Call) (key : String) : Obeys calls key := by
  have shown (fallback : Bool) : ((run empty calls).resolve key fallback).2.1 =
      ((choice? key (recent calls)).or (default? key (recent calls))).getD fallback := by
    rw [resolve_answer, state_run, decided]
    cases choice? key (recent calls) with
    | some b => rfl
    | none => cases default? key (recent calls) <;> rfl
  constructor
  case context => exact context_run calls
  case resolved => exact shown
  case expanded => exact fun e => shown e.isExpandedByDefault
  case evaluated =>
    intro past m future split
    rw [Moment.evaluates_iff, state_before split key, decided, Option.or_eq_none_iff,
      Option.map_eq_none_iff, Option.map_eq_none_iff]
  case once =>
    exact Nat.le_trans (countP_evaluates calls key) (Bool.toNat_le _)
  case toggled =>
    intro e fallback turned
    refine ⟨rfl, ?_⟩
    have pinned : turned.1.state key = some (.byUser turned.2) := state_setExpanded key _ _
    rw [resolve_answer, pinned]
    rfl
  case spared =>
    intro call spares later
    exact (Agrees.of_spares spares).seen later

/-- A default sticks, a row is turned over, and another context begins anew. -/
example :
    let answers (calls : List Call) := (moments empty calls).map (Moment.seen "a")
    answers [.resolve "a" true, .setContext "x", .resolve "a" false, .resolve "b" true,
        .resolve "a" true, .setExpanded "a" true, .setContext "x", .resolve "a" false] =
      [(some (.byDefault true), some true, true), (none, none, false),
        (some (.byDefault false), some false, true), (some (.byDefault false), none, false),
        (some (.byDefault false), some false, false), (some (.byUser true), none, false),
        (some (.byUser true), none, false), (some (.byUser true), some true, false)] := by
  decide +kernel

end Expansion

end LiveLog
