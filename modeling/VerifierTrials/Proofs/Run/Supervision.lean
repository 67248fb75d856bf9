import Mathlib.Data.List.Induction
import VerifierTrials.Run.Supervision

/-!
# Supervision in every order of events

A supervised run is a race of four things: the end of the tool, the end of its output, the
watchdog and the operator. Nothing says in which order they come, so that what supervision
promises is an invariant over all orders (`Supervision.Tracks`): the state is the account of
what has occurred. The exit and the output are those that occurred, the watchdog is armed as
long as the CPU time is limited and neither of the two that kill has occurred, and the tool
has been killed once for each of them. Whatever is reported of a tool, in whatever order, leads to
such a state, since what can no longer occur is passed over (`Supervision.exists_reached`).

From the invariant everything else is read off. A run that is answered has been reaped and
drained, and its answer is an outcome exactly if the operator has not interrupted it
(`Supervision.answer_of_reached`). The watchdog and the operator kill at most once each, and
the operator may do so after the watchdog, as long as the run is not over
(`Supervision.kills_of_reached`).
-/

namespace VerifierTrials

namespace Supervision

variable {limits : Limits} {passed : List Occurrence} {state next : Supervision}

/-! ### What a step can do -/

theorem step?_reaped {exit : Exit} :
    state.step? (.reaped exit) = some next ↔
      state.exit? = none ∧ next = { state with exit? := some exit } := by
  simp only [step?, Option.isNone_iff_eq_none, Option.ite_none_right_eq_some, Option.some.injEq,
    @eq_comm _ next]

theorem step?_drained {output : Bytes} :
    state.step? (.drained output) = some next ↔
      state.output? = none ∧ next = { state with output? := some output } := by
  simp only [step?, Option.isNone_iff_eq_none, Option.ite_none_right_eq_some, Option.some.injEq,
    @eq_comm _ next]

theorem step?_expired :
    state.step? .expired = some next ↔
      (state.armed = true ∧ state.stopping = false ∧ state.isOver = false) ∧
        next = { state with armed := false, kills := state.kills + 1 } := by
  simp only [step?, Bool.and_eq_true, Bool.not_eq_true', Option.ite_none_right_eq_some,
    Option.some.injEq, @eq_comm _ next, and_assoc]

theorem step?_interrupted :
    state.step? .interrupted = some next ↔
      (state.stopping = false ∧ state.isOver = false) ∧
        next = { state with armed := false, stopping := true, kills := state.kills + 1 } := by
  simp only [step?, Bool.and_eq_true, Bool.not_eq_true', Option.ite_none_right_eq_some,
    Option.some.injEq, @eq_comm _ next]

/-! ### The states of a run -/

/-- **How far a run gets**: under these limits these have occurred, in this order, and have
led to this state. -/
inductive Reached (limits : Limits) : List Occurrence → Supervision → Prop where
  | start : Reached limits [] (start limits)
  | next {passed : List Occurrence} {occurrence : Occurrence} {state next : Supervision} :
      Reached limits passed state → state.step? occurrence = some next →
        Reached limits (passed ++ [occurrence]) next

/-- **The account of a run**: what its state says of all that has occurred. -/
structure Tracks (limits : Limits) (passed : List Occurrence) (state : Supervision) : Prop where
  reaped : ∀ exit, .reaped exit ∈ passed ↔ state.exit? = some exit
  drained : ∀ output, .drained output ∈ passed ↔ state.output? = some output
  interrupted : .interrupted ∈ passed ↔ state.stopping = true
  armed : state.armed = true ↔
    limits.cpuSeconds.isSome ∧ .expired ∉ passed ∧ .interrupted ∉ passed
  limited : .expired ∈ passed → limits.cpuSeconds.isSome
  kills : state.kills = passed.count .expired + passed.count .interrupted
  expiredOnce : passed.count .expired ≤ 1
  interruptedOnce : passed.count .interrupted ≤ 1

theorem Tracks.start (limits : Limits) : Tracks limits [] (start limits) := by
  constructor <;> simp [Supervision.start]

/-- **One step keeps the account.** What occurs is new to it: the tool has not been reaped
before, the output has not ended, and neither killer has come twice. -/
theorem Tracks.step {occurrence : Occurrence} (tracks : Tracks limits passed state)
    (step : state.step? occurrence = some next) :
    Tracks limits (passed ++ [occurrence]) next := by
  obtain ⟨reaping, draining, interrupting, arming, limiting, killing, expiring, once⟩ := tracks
  cases occurrence with
  | reaped exit =>
    obtain ⟨notYet, rfl⟩ := step?_reaped.mp step
    refine ⟨fun other => ?_, ?_, ?_, ?_, ?_, ?_, ?_, ?_⟩
    · have before : .reaped other ∉ passed := by simp [reaping other, notYet]
      simp [before, eq_comm]
    all_goals simpa
  | drained output =>
    obtain ⟨notYet, rfl⟩ := step?_drained.mp step
    refine ⟨?_, fun other => ?_, ?_, ?_, ?_, ?_, ?_, ?_⟩
    · simpa using reaping
    · have before : .drained other ∉ passed := by simp [draining other, notYet]
      simp [before, eq_comm]
    all_goals simpa
  | expired =>
    obtain ⟨⟨armed, goesOn, -⟩, rfl⟩ := step?_expired.mp step
    obtain ⟨limited, before, -⟩ := arming.mp armed
    have none : passed.count .expired = 0 := List.count_eq_zero.mpr before
    refine ⟨?_, ?_, ?_, ?_, fun _ => limited, ?_, ?_, ?_⟩
    · simpa using reaping
    · simpa using draining
    · simpa using interrupting
    · simp
    · simp [killing, none, Nat.add_comm]
    · simp [none]
    · simpa using once
  | interrupted =>
    obtain ⟨⟨goesOn, -⟩, rfl⟩ := step?_interrupted.mp step
    have before : .interrupted ∉ passed := by simp [interrupting, goesOn]
    have none : passed.count .interrupted = 0 := List.count_eq_zero.mpr before
    refine ⟨?_, ?_, ?_, ?_, ?_, ?_, ?_, ?_⟩
    · simpa using reaping
    · simpa using draining
    · simp
    · simp
    · simpa using limiting
    · simp [killing, none]
    · simpa using expiring
    · simp [none]

/-- **Every state of a run is the account of what has occurred.** -/
theorem Reached.tracks (reached : Reached limits passed state) : Tracks limits passed state := by
  induction reached with
  | start => exact Tracks.start limits
  | next _ step ih => exact ih.step step

/-- A state is reached exactly when each of the occurrences is possible where it comes. -/
theorem reached_iff :
    Reached limits passed state ↔ passed.foldlM step? (Supervision.start limits) = some state := by
  constructor
  · intro reaching
    induction reaching with
    | start => rfl
    | next _ step ih => simp [List.foldlM_append, ih, step]
  · intro reaching
    induction passed using List.reverseRecOn generalizing state with
    | nil =>
      obtain rfl : Supervision.start limits = state := by simpa using reaching
      exact .start
    | append_singleton passed occurrence ih =>
      rw [List.foldlM_append] at reaching
      obtain ⟨before, reached, step⟩ := Option.bind_eq_some_iff.mp reaching
      exact (ih reached).next (by simpa using step)

/-- What has occurred takes supervision to the state. -/
theorem Reached.after_eq (reached : Reached limits passed state) :
    (Supervision.start limits).after passed = state := by
  induction reached with
  | start => rfl
  | next _ step ih =>
    rw [after] at ih ⊢
    rw [List.foldl_append, ih]
    simp [step]

/-- Any list of occurrences leads to a state that is reached by those of them that can
occur. -/
theorem exists_reached (limits : Limits) (occurrences : List Occurrence) :
    ∃ passed, passed.Sublist occurrences ∧
      Reached limits passed ((start limits).after occurrences) := by
  induction occurrences using List.reverseRecOn with
  | nil => exact ⟨[], List.Sublist.refl _, .start⟩
  | append_singleton occurrences occurrence ih =>
    obtain ⟨passed, sublist, reached⟩ := ih
    rw [after, List.foldl_append, List.foldl_cons, List.foldl_nil, ← after]
    rcases step : ((start limits).after occurrences).step? occurrence with _ | next
    · exact ⟨passed, sublist.trans (List.sublist_append_left _ _), reached⟩
    · exact ⟨passed ++ [occurrence], sublist.append (List.Sublist.refl _), reached.next step⟩

/-- A run has been at each point of what it has passed, and has gone on from there. -/
theorem Reached.before {earlier later : List Occurrence} {occurrence : Occurrence}
    (whole : Reached limits (earlier ++ occurrence :: later) state) :
    ∃ before next, Reached limits earlier before ∧ before.step? occurrence = some next ∧
      Reached limits (earlier ++ [occurrence]) next := by
  rw [reached_iff, List.foldlM_append] at whole
  obtain ⟨before, reached, whole⟩ := Option.bind_eq_some_iff.mp whole
  obtain ⟨next, step, -⟩ := Option.bind_eq_some_iff.mp whole
  have reached := reached_iff.mpr reached
  exact ⟨before, next, reached, step, reached.next step⟩

/-! ### The answer -/

theorem isOver_eq_true : state.isOver = true ↔
    (∃ exit, state.exit? = some exit) ∧ ∃ output, state.output? = some output := by
  simp [isOver, Option.isSome_iff_exists]

theorem result?_eq_ok {outcome : Outcome} :
    state.result? = some (.ok outcome) ↔
      state.stopping = false ∧ ∃ exit output, state.exit? = some exit ∧
        state.output? = some output ∧
        outcome = ⟨exit.code, Utf8.decodeLossy output, exit.cpuTime, exit.wallTime⟩ := by
  obtain ⟨_ | exit, _ | output, armed, _ | _, kills⟩ := state <;>
    simp [result?, isOver, answer, eq_comm]

/-- The loop is left only when the tool has been reaped, so that the one error that an answer
could have beside the interrupt does not occur. -/
theorem result?_eq_error {cause : BenchmarkError} :
    state.result? = some (.error cause) ↔
      cause = .interrupted ∧ state.stopping = true ∧ state.isOver = true := by
  obtain ⟨_ | exit, _ | output, armed, _ | _, kills⟩ := state <;>
    simp [result?, isOver, answer, eq_comm]

/-- As long as the tool has not been reaped it can be: no order of events is in the way. -/
theorem Reached.reap (reached : Reached limits passed state)
    (notYet : ∀ exit, .reaped exit ∉ passed)
    (exit : Exit) : ∃ next, Reached limits (passed ++ [.reaped exit]) next := by
  have running : state.exit? = none := by
    rcases found : state.exit? with _ | other
    · rfl
    · exact absurd ((reached.tracks.reaped other).mpr found) (notYet other)
  exact ⟨_, reached.next (step?_reaped.mpr ⟨running, rfl⟩)⟩

/-- As long as the output has not ended it can end. -/
theorem Reached.drain (reached : Reached limits passed state)
    (notYet : ∀ output, .drained output ∉ passed) (output : Bytes) :
    ∃ next, Reached limits (passed ++ [.drained output]) next := by
  have writing : state.output? = none := by
    rcases found : state.output? with _ | other
    · rfl
    · exact absurd ((reached.tracks.drained other).mpr found) (notYet other)
  exact ⟨_, reached.next (step?_drained.mpr ⟨writing, rfl⟩)⟩

/-- **The answer of a supervised run**, in whatever order things occur. It is an outcome
exactly when the tool has been reaped and its output drained and nobody has interrupted, and
then it tells the exit and the times of the reaping and the bytes of the draining. It is the
interrupt exactly when the operator has interrupted and both have occurred; nothing else is
ever answered, and what is missing can still occur. The watchdog expires once at most, and
never without a limit on the CPU time; it kills, and so does an interrupt. -/
theorem answer_of_reached (reached : Reached limits passed state) :
    (start limits).after passed = state ∧
      (∀ outcome, state.result? = some (.ok outcome) ↔
        .interrupted ∉ passed ∧ ∃ exit output,
          .reaped exit ∈ passed ∧ .drained output ∈ passed ∧
          outcome = ⟨exit.code, Utf8.decodeLossy output, exit.cpuTime, exit.wallTime⟩) ∧
      (∀ cause, state.result? = some (.error cause) ↔
        cause = .interrupted ∧ .interrupted ∈ passed ∧
          (∃ exit, .reaped exit ∈ passed) ∧ ∃ output, .drained output ∈ passed) ∧
      ((∀ exit, .reaped exit ∉ passed) →
        ∀ exit, ∃ next, Reached limits (passed ++ [.reaped exit]) next) ∧
      ((∀ output, .drained output ∉ passed) →
        ∀ output, ∃ next, Reached limits (passed ++ [.drained output]) next) ∧
      passed.count .expired ≤ 1 ∧ (limits.cpuSeconds = none → .expired ∉ passed) ∧
      state.kills = passed.count .expired + passed.count .interrupted := by
  have tracks := reached.tracks
  refine ⟨reached.after_eq, fun outcome => ?_, fun cause => ?_, reached.reap, reached.drain,
    tracks.expiredOnce, fun unlimited expired => ?_, tracks.kills⟩
  · simp only [result?_eq_ok, tracks.reaped, tracks.drained, tracks.interrupted,
      Bool.not_eq_true]
  · simp only [result?_eq_error, isOver_eq_true, tracks.reaped, tracks.drained,
      tracks.interrupted]
  · have limited := tracks.limited expired
    simp [unlimited] at limited

/-- The watchdog expires, and the operator interrupts what is left of the run. -/
def lateInterrupt : List Occurrence :=
  [.expired, .reaped ⟨-9, {}, ⟨1, 0⟩⟩, .interrupted, .drained []]

/-- The state after `lateInterrupt`. -/
def afterLateInterrupt : Supervision :=
  ⟨some ⟨-9, {}, ⟨1, 0⟩⟩, some [], false, true, 2⟩

theorem reached_lateInterrupt :
    Reached ⟨some (.both 1), none⟩ lateInterrupt afterLateInterrupt :=
  reached_iff.mpr rfl

/-- A run that the operator interrupts after the watchdog has expired. -/
theorem answer_of_lateInterrupt :
    Reached ⟨some (.both 1), none⟩ lateInterrupt afterLateInterrupt ∧
      afterLateInterrupt.result? = some (.error .interrupted) ∧
      afterLateInterrupt.kills = 2 := by
  obtain ⟨-, -, interrupted, -, -, -, -, kills⟩ := answer_of_reached reached_lateInterrupt
  have reaped : .reaped ⟨-9, {}, ⟨1, 0⟩⟩ ∈ lateInterrupt := by decide
  have drained : .drained [] ∈ lateInterrupt := by decide
  have stopped : .interrupted ∈ lateInterrupt := by decide
  exact ⟨reached_lateInterrupt,
    (interrupted .interrupted).mpr ⟨rfl, stopped, ⟨_, reaped⟩, _, drained⟩, kills⟩

/-! ### How often the tool is killed -/

/-- The watchdog expires only while neither it nor the operator has killed. -/
theorem Reached.not_before_expired {earlier later : List Occurrence}
    (whole : Reached limits (earlier ++ .expired :: later) state) :
    .expired ∉ earlier ∧ .interrupted ∉ earlier := by
  obtain ⟨before, next, reached, step, -⟩ := whole.before
  exact (reached.tracks.armed.mp (step?_expired.mp step).1.1).2

/-- The operator interrupts once, and only a run that is not over. -/
theorem Reached.not_before_interrupted {earlier later : List Occurrence}
    (whole : Reached limits (earlier ++ .interrupted :: later) state) :
    .interrupted ∉ earlier ∧
      ¬((∃ exit, .reaped exit ∈ earlier) ∧ ∃ output, .drained output ∈ earlier) := by
  obtain ⟨before, next, reached, step, -⟩ := whole.before
  obtain ⟨⟨goesOn, running⟩, -⟩ := step?_interrupted.mp step
  have tracks := reached.tracks
  constructor
  · simp [tracks.interrupted, goesOn]
  · simp only [tracks.reaped, tracks.drained, ← isOver_eq_true, running]
    simp

/-- After an interrupt neither the watchdog nor the operator is heeded any more. -/
theorem Reached.not_after_interrupted {earlier later : List Occurrence}
    (reached : Reached limits (earlier ++ .interrupted :: later) state) :
    .expired ∉ later ∧ .interrupted ∉ later := by
  constructor <;> intro again <;> obtain ⟨between, rest, rfl⟩ := List.append_of_mem again
  · rw [← List.cons_append, ← List.append_assoc] at reached
    exact reached.not_before_expired.2 (by simp)
  · rw [← List.cons_append, ← List.append_assoc] at reached
    exact reached.not_before_interrupted.1 (by simp)

/-- **How often the tool of a supervised run is killed**, in whatever order things occur: once
by the watchdog at most, once by the operator at most, and by nobody after the operator has
done so. It is killed twice exactly when the operator interrupts after the watchdog has expired,
which takes a run that is not over by then. -/
theorem kills_of_reached (reached : Reached limits passed state) :
    state.kills = passed.count .expired + passed.count .interrupted ∧
      passed.count .expired ≤ 1 ∧ passed.count .interrupted ≤ 1 ∧
      (∀ earlier later, passed = earlier ++ .interrupted :: later →
        .expired ∉ later ∧ .interrupted ∉ later) ∧
      (state.kills = 2 ↔ ∃ earlier later, passed = earlier ++ .interrupted :: later ∧
        .expired ∈ earlier ∧
        ¬((∃ exit, .reaped exit ∈ earlier) ∧ ∃ output, .drained output ∈ earlier)) := by
  have tracks := reached.tracks
  have expiredOnce := tracks.expiredOnce
  have interruptedOnce := tracks.interruptedOnce
  refine ⟨tracks.kills, expiredOnce, interruptedOnce, ?_, ?_, ?_⟩
  · rintro earlier later rfl
    exact reached.not_after_interrupted
  · intro twice
    rw [tracks.kills] at twice
    have expired : .expired ∈ passed := List.count_pos_iff.mp (by omega)
    have interrupted : .interrupted ∈ passed := List.count_pos_iff.mp (by omega)
    obtain ⟨earlier, later, rfl⟩ := List.append_of_mem interrupted
    have notLater := reached.not_after_interrupted.1
    exact ⟨earlier, later, rfl, by simpa [notLater] using expired,
      reached.not_before_interrupted.2⟩
  · rintro ⟨earlier, later, rfl, expired, -⟩
    have expired : 0 < (earlier ++ .interrupted :: later).count .expired :=
      List.count_pos_iff.mpr (List.mem_append_left _ expired)
    have interrupted : 0 < (earlier ++ .interrupted :: later).count .interrupted :=
      List.count_pos_iff.mpr (by simp)
    rw [tracks.kills]
    omega

/-- A run whose tool is killed twice. -/
theorem kills_of_lateInterrupt :
    Reached ⟨some (.both 1), none⟩ lateInterrupt afterLateInterrupt ∧
      afterLateInterrupt.kills = 2 ∧ ∃ earlier later,
        lateInterrupt = earlier ++ .interrupted :: later ∧ .expired ∈ earlier := by
  obtain ⟨-, -, -, -, twice⟩ := kills_of_reached reached_lateInterrupt
  obtain ⟨earlier, later, split, expired, -⟩ := twice.mp rfl
  exact ⟨reached_lateInterrupt, rfl, earlier, later, split, expired⟩

/-- Not every tool is killed once at most: the operator may interrupt a run whose watchdog has
expired, as long as something may still write to its output. -/
theorem not_forall_killed_once :
    ¬∀ (limits : Limits) (passed : List Occurrence) (state : Supervision),
      Reached limits passed state → state.kills ≤ 1 :=
  fun once => absurd (once _ _ _ reached_lateInterrupt) (by decide)

end Supervision

end VerifierTrials
