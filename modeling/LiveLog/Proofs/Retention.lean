import LiveLog.Proofs.Arrivals
import Mathlib.Algebra.Ring.Nat
import Mathlib.Data.List.Induction
import Mathlib.Data.List.Infix

namespace LiveLog

/-!
# Which lines a buffer keeps

A buffer lets its oldest lines go one at a time, whenever a new line comes, and it
knows nothing of the lines that went before. What it keeps can still be told from
everything that was pushed and from the limits alone: it is the longest end of all
lines that stays within both limits, and if not even the last line by itself does so,
it is the last line.

Two things make this independent of the history. Whatever end of the longer list
stays within the limits did so without the new line, so none of its lines can have
been let go before. And because the last line is never let go, the latest stamp so
far can always be read off the buffer.

The buffer of a script is given the lines that its reports bring, and nothing else; the
buffer of an agent is given nothing.
-/

theorem Line.total_le_of_sublist {some all : List Line} (part : some.Sublist all) :
    total some ≤ total all := by
  induction part with
  | slnil => exact Nat.le_refl 0
  | cons line part inductionHypothesis => exact Nat.le_add_left_of_le inductionHypothesis
  | cons_cons line part inductionHypothesis => exact Nat.add_le_add_left inductionHypothesis _

namespace Settings

/-- Whether the lines of one process stay within both limits. -/
def Affords (s : Settings) (lines : List Line) : Prop :=
  lines.length ≤ s.rawEntries ∧ Line.total lines ≤ s.rawBytes

instance (s : Settings) (lines : List Line) : Decidable (s.Affords lines) :=
  inferInstanceAs (Decidable (_ ∧ _))

theorem affords_nil (s : Settings) : s.Affords [] := ⟨Nat.zero_le _, Nat.zero_le _⟩

theorem Affords.of_sublist {s : Settings} {some all : List Line} (affords : s.Affords all)
    (part : some.Sublist all) : s.Affords some :=
  ⟨Nat.le_trans part.length_le affords.1, Nat.le_trans (Line.total_le_of_sublist part) affords.2⟩

end Settings

namespace Line

/-- The lines that pushed units become. A line bears the latest time so far, its own
included. -/
def history (pushes : List (LogUnit × Int)) : List Line :=
  pushes.mapIdx fun k push =>
    ⟨k, push.1, ((pushes.take k).map Prod.snd).foldl max push.2, push.1.size⟩

theorem history_concat (pushes : List (LogUnit × Int)) (unit : LogUnit) (now : Int) :
    history (pushes ++ [(unit, now)]) =
      history pushes ++ [⟨pushes.length, unit, (pushes.map Prod.snd).foldl max now, unit.size⟩] := by
  unfold history
  rw [List.mapIdx_concat, List.take_left']
  · congr 1
    apply List.mapIdx_eq_mapIdx_iff.mpr
    intro k within
    rw [List.take_append_of_le_length (Nat.le_of_lt within)]
  · rfl

@[simp] theorem length_history (pushes : List (LogUnit × Int)) :
    (history pushes).length = pushes.length := List.length_mapIdx

theorem size_of_mem_history {pushes : List (LogUnit × Int)} {line : Line}
    (listed : line ∈ history pushes) : line.size = line.unit.size := by
  rcases List.mem_mapIdx.mp listed with ⟨k, within, rfl⟩
  rfl

theorem total_eq_sum {lines : List Line} (sized : ∀ line ∈ lines, line.size = line.unit.size) :
    total lines = (lines.map fun line => line.unit.size).sum := by
  induction lines with
  | nil => rfl
  | cons line rest inductionHypothesis =>
      rcases List.forall_mem_cons.mp sized with ⟨first, others⟩
      rw [total, List.map_cons, List.sum_cons, first, inductionHypothesis others]

/-- The longest end of a list of lines that has a property. -/
structure IsLongestEnd (P : List Line → Prop) (kept all : List Line) : Prop where
  suffix : kept <:+ all
  holds : P kept
  longest : ∀ other, other <:+ all → P other → other <:+ kept

end Line

namespace LineBuffer

/-! ## Letting lines go -/

/-- Trimming lets no line go that an affordable end contains, and stops as soon as
the lines are affordable or a single one is left. -/
theorem trim_keeps (s : Settings) {lines : List Line} {count bytes : Nat}
    (counted : count = lines.length) (measured : bytes = Line.total lines) :
    let kept := (trim s.rawEntries s.rawBytes lines count bytes).1
    (∀ other, other <:+ lines → s.Affords other → other <:+ kept) ∧
      (s.Affords kept ∨ kept.length = 1) := by
  induction lines generalizing count bytes with
  | nil => exact ⟨fun other ending _affords => ending, Or.inl s.affords_nil⟩
  | cons line rest inductionHypothesis =>
      cases rest with
      | nil => exact ⟨fun other ending _affords => ending, Or.inr rfl⟩
      | cons next rest =>
          unfold trim
          split
          · -- The whole list exceeds a limit, so no affordable end contains its first line.
            rename_i exceeded
            have fewer : count - 1 = (next :: rest).length := by
              rw [counted, List.length_cons, Nat.add_sub_cancel]
            have less : bytes - line.size = Line.total (next :: rest) := by
              rw [measured, Line.total, Nat.add_sub_cancel_left]
            rcases inductionHypothesis fewer less with ⟨keeps, stops⟩
            refine ⟨?_, stops⟩
            intro other ending affords
            rcases List.suffix_cons_iff.mp ending with rfl | later
            · rw [Settings.Affords, ← counted, ← measured] at affords
              omega
            · exact keeps other later affords
          · rename_i within
            refine ⟨fun other ending _affords => ending, Or.inl ?_⟩
            rw [Settings.Affords, ← counted, ← measured]
            omega

theorem trim_ne_nil (maxEntries maxBytes : Nat) {lines : List Line} (filled : lines ≠ [])
    (count bytes : Nat) : (trim maxEntries maxBytes lines count bytes).1 ≠ [] := by
  induction lines generalizing count bytes with
  | nil => exact absurd rfl filled
  | cons line rest inductionHypothesis =>
      cases rest with
      | nil => exact List.cons_ne_nil line []
      | cons next rest =>
          unfold trim
          split
          · exact inductionHypothesis (List.cons_ne_nil next rest) _ _
          · exact List.cons_ne_nil line _

theorem push_ne_nil (b : LineBuffer) (unit : LogUnit) (now : Int) :
    (b.push unit now).lines ≠ [] :=
  trim_ne_nil b.maxEntries b.maxBytes
    (List.append_ne_nil_of_right_ne_nil _ (List.cons_ne_nil _ _)) _ _

/-! ## What is kept of all lines -/

/-- What a buffer holds after all these lines. -/
structure Retains (s : Settings) (b : LineBuffer) (all : List Line) : Prop where
  maxEntries : b.maxEntries = s.rawEntries
  maxBytes : b.maxBytes = s.rawBytes
  next_eq : b.next = all.length
  suffix : b.lines <:+ all
  longest : ∀ other, other <:+ all → s.Affords other → other <:+ b.lines
  affordable : s.Affords b.lines ∨ b.lines.length = 1
  filled : all ≠ [] → b.lines ≠ []
  evicted : b.evicted = true ↔ b.lines.length < all.length

namespace Retains

variable {s : Settings} {b : LineBuffer} {all : List Line}

theorem empty (s : Settings) : Retains s (LineBuffer.empty s) [] where
  maxEntries := rfl
  maxBytes := rfl
  next_eq := rfl
  suffix := List.suffix_rfl
  longest := fun _other ending _affords => ending
  affordable := Or.inl s.affords_nil
  filled := fun nothing => absurd rfl nothing
  evicted := by simp [LineBuffer.empty]

theorem push (retains : Retains s b all) (unit : LogUnit) (now : Int) :
    Retains s (b.push unit now) (all ++ [b.arriving unit now]) := by
  have held := b.lines_push_suffix unit now
  have counted : b.count + 1 = (b.lines ++ [b.arriving unit now]).length := by
    rw [List.length_append, List.length_singleton, b.count_eq]
  have measured : b.bytes + unit.size = Line.total (b.lines ++ [b.arriving unit now]) := by
    rw [Line.total_append, b.bytes_eq]
    rfl
  rcases trim_keeps s counted measured with ⟨keeps, stops⟩
  rw [← retains.maxEntries, ← retains.maxBytes] at keeps stops
  refine ⟨retains.maxEntries, retains.maxBytes, ?_, ?_, ?_, stops, ?_, ?_⟩
  · rw [next_push, retains.next_eq, List.length_append, List.length_singleton]
  · exact held.trans ((List.suffix_append_inj_of_length_eq rfl).mpr ⟨retains.suffix, rfl⟩)
  · -- Without the new line the end was affordable as well, so its lines are still there.
    intro other ending affords
    apply keeps other _ affords
    rcases List.suffix_concat_iff.mp ending with rfl | ⟨before, rfl, earlier⟩
    · exact List.nil_suffix
    · exact (List.suffix_append_inj_of_length_eq rfl).mpr
        ⟨retains.longest before earlier (affords.of_sublist (List.sublist_append_left _ _)), rfl⟩
  · exact fun _ => b.push_ne_nil unit now
  · have fewer := held.length_le
    have before := retains.suffix.length_le
    have flag : (b.push unit now).evicted =
        (b.evicted || decide ((b.push unit now).count < b.count + 1)) := rfl
    have evicted := retains.evicted
    rw [flag, Bool.or_eq_true, decide_eq_true_eq, evicted, b.count_eq,
      (b.push unit now).count_eq]
    rw [List.length_append, List.length_singleton] at fewer ⊢
    omega

/-- The last line that was pushed is the last one that is held. -/
theorem getLast? (retains : Retains s b all) : b.lines.getLast? = all.getLast? := by
  by_cases nothing : all = []
  · have none : b.lines = [] := List.suffix_nil.mp (nothing ▸ retains.suffix)
    rw [none, nothing]
  · have filled := retains.filled nothing
    rw [List.getLast?_eq_some_getLast filled, List.getLast?_eq_some_getLast nothing,
      retains.suffix.getLast filled]

/-- The next line is the next one of the history. -/
theorem arriving {pushes : List (LogUnit × Int)} (retains : Retains s b (Line.history pushes))
    (unit : LogUnit) (now : Int) :
    b.arriving unit now =
      ⟨pushes.length, unit, (pushes.map Prod.snd).foldl max now, unit.size⟩ := by
  have moved (times : List Int) (x y : Int) : times.foldl max (max x y) = max x (times.foldl max y) :=
    List.foldl_assoc
  have stamp : b.stamp now = (pushes.map Prod.snd).foldl max now := by
    rw [stamp, retains.getLast?]
    rcases List.eq_nil_or_concat' pushes with rfl | ⟨earlier, ⟨last, time⟩, rfl⟩
    · rfl
    · rw [Line.history_concat, List.getLast?_concat, List.map_append, List.foldl_append]
      change max now ((earlier.map Prod.snd).foldl max time) =
        max ((earlier.map Prod.snd).foldl max now) time
      rw [← moved, Int.max_comm now time, moved, Int.max_comm]
  rw [LineBuffer.arriving, stamp, retains.next_eq, Line.length_history]

end Retains

/-- The buffer after some pushes, each at its time. -/
def ofPushes (s : Settings) (pushes : List (LogUnit × Int)) : LineBuffer :=
  pushes.foldl (fun b push => b.push push.1 push.2) (LineBuffer.empty s)

theorem retains_ofPushes (s : Settings) (pushes : List (LogUnit × Int)) :
    Retains s (ofPushes s pushes) (Line.history pushes) := by
  induction pushes using List.reverseRecOn with
  | nil => exact Retains.empty s
  | append_singleton pushes push inductionHypothesis =>
      have pushed := inductionHypothesis.push push.1 push.2
      rw [inductionHypothesis.arriving, ← Line.history_concat] at pushed
      rw [ofPushes, List.foldl_append]
      exact pushed

theorem ofPushes_append (s : Settings) (pushes : List (LogUnit × Int)) (units : List LogUnit)
    (now : Int) : ofPushes s (pushes ++ units.map fun unit => (unit, now)) =
      (ofPushes s pushes).pushAll units now := by
  unfold ofPushes pushAll
  rw [List.foldl_append, List.foldl_map]

theorem inOrder_ofPushes (s : Settings) (pushes : List (LogUnit × Int)) :
    (ofPushes s pushes).InOrder := by
  induction pushes using List.reverseRecOn with
  | nil => exact InOrder.empty s
  | append_singleton pushes push inductionHypothesis =>
      rw [ofPushes, List.foldl_append]
      exact inductionHypothesis.push push.1 push.2

/-- A buffer that has let nothing go holds everything. -/
theorem lines_ofPushes {s : Settings} {pushes : List (LogUnit × Int)}
    (kept : (ofPushes s pushes).evicted = false) :
    (ofPushes s pushes).lines = Line.history pushes := by
  have retains := retains_ofPushes s pushes
  apply retains.suffix.eq_of_length_le
  rw [← not_lt, ← retains.evicted, kept]
  exact Bool.false_ne_true

/-- A buffer that was given some lines holds the longest end of them that stays
within both limits, or the last line alone if that one does not. It takes as many
bytes as the units that it holds, and it says that lines were let go if and only if
it holds fewer than it was given. -/
theorem holds_longest_end (s : Settings) (pushes : List (LogUnit × Int)) (given : pushes ≠ []) :
    let b := ofPushes s pushes
    let all := Line.history pushes
    (∃ last, all.getLast? = some last ∧
        (s.Affords [last] → Line.IsLongestEnd s.Affords b.lines all) ∧
        (¬ s.Affords [last] → b.lines = [last])) ∧
      b.count = b.lines.length ∧
      b.bytes = (b.lines.map fun line => line.unit.size).sum ∧
      (b.evicted = true ↔ b.lines.length < pushes.length) := by
  intro b all
  have retains : Retains s b all := retains_ofPushes s pushes
  have nonempty : all ≠ [] := by
    apply List.ne_nil_of_length_pos
    rw [Line.length_history]
    exact List.length_pos_iff.mpr given
  have filled := retains.filled nonempty
  have ending : b.lines.getLast? = some (all.getLast nonempty) := by
    rw [retains.getLast?, List.getLast?_eq_some_getLast nonempty]
  have lastHeld : [all.getLast nonempty] <:+ b.lines :=
    List.singleton_suffix_iff_getLast?_eq_some.mpr ending
  refine ⟨⟨all.getLast nonempty, List.getLast?_eq_some_getLast nonempty, ?_, ?_⟩,
    b.count_eq, ?_, ?_⟩
  · intro affords
    refine ⟨retains.suffix, ?_, retains.longest⟩
    rcases retains.affordable with within | single
    · exact within
    · rw [← lastHeld.eq_of_length single.symm]
      exact affords
  · intro exceeded
    rcases retains.affordable with within | single
    · exact absurd (within.of_sublist lastHeld.sublist) exceeded
    · exact (lastHeld.eq_of_length single.symm).symm
  · rw [b.bytes_eq]
    apply Line.total_eq_sum
    intro line listed
    exact Line.size_of_mem_history (retains.suffix.subset listed)
  · rw [retains.evicted, Line.length_history]

/-- Of four lines two are kept. The second one takes more than the whole limit by
itself and was alone for a while; the clock went back after it. -/
theorem holds_two_of_four :
    let s : Settings := ⟨5000, 3, 30⟩
    let pushes : List (LogUnit × Int) :=
      [(.stdout "made", 5), (.stderr "a line that is longer than all the limit", 9),
        (.stdout "cc", 2), (.stdout "0123456789", 3)]
    let b := ofPushes s pushes
    Line.IsLongestEnd s.Affords b.lines (Line.history pushes) ∧
      b.lines = [⟨2, .stdout "cc", 9, 10⟩, ⟨3, .stdout "0123456789", 9, 18⟩] ∧
      b.bytes = 28 ∧ b.evicted = true := by
  intro s pushes b
  have held : b.lines = [⟨2, .stdout "cc", 9, 10⟩, ⟨3, .stdout "0123456789", 9, 18⟩] := by
    decide +kernel
  rcases holds_longest_end s pushes (List.cons_ne_nil _ _) with
    ⟨⟨last, ending, fits, _⟩, _, bytes, evicted⟩
  have newest : last = ⟨3, .stdout "0123456789", 9, 18⟩ := by
    rw [show (Line.history pushes).getLast? = some ⟨3, .stdout "0123456789", 9, 18⟩ by
      decide +kernel] at ending
    exact (Option.some.inj ending).symm
  subst newest
  refine ⟨fits (by decide +kernel), held, ?_, ?_⟩
  · rw [bytes, held]
    decide +kernel
  · rw [evicted, held]
    decide

end LineBuffer

/-! ## The lines of a script -/

/-- The lines that a report brings to a script, each with the time of the report. -/
def Signal.arrivals (report : Signal × Int) : List (LogUnit × Int) :=
  report.1.lines.map fun unit => (unit, report.2)

namespace Feed

variable {f : Feed} {settings : Settings}

theorem lines_replay_of_normalized (agent : f.kind = .normalized) (reports : List (Signal × Int)) :
    (f.replay reports).lines = f.lines := by
  induction reports generalizing f with
  | nil => rfl
  | cons report rest inductionHypothesis =>
      rw [replay_cons, inductionHypothesis ((f.kind_after report.1 report.2).trans agent),
        (after_of_normalized agent report.1 report.2).1]

/-- The lines of a script are those of a buffer that is given what the reports bring. -/
theorem lines_replay_of_raw (script : f.kind = .raw) {before : List (LogUnit × Int)}
    (kept : f.lines = .ofPushes settings before) (reports : List (Signal × Int)) :
    (f.replay reports).lines = .ofPushes settings (before ++ reports.flatMap Signal.arrivals) := by
  induction reports generalizing f before with
  | nil =>
      rw [List.flatMap_nil, List.append_nil]
      exact kept
  | cons report rest inductionHypothesis =>
      have next : (f.after report.1 report.2).lines =
          .ofPushes settings (before ++ Signal.arrivals report) := by
        rw [(after_of_raw script report.1 report.2).1, kept, Signal.arrivals,
          LineBuffer.ofPushes_append]
      rw [replay_cons, inductionHypothesis ((f.kind_after report.1 report.2).trans script) next,
        List.flatMap_cons, List.append_assoc]

end Feed

end LiveLog
