import Mathlib
import VerifierTrials.Definition.FromXml
import VerifierTrials.Proofs.Run.Supervision
import VerifierTrials.Trial.Host

/-!
# Deadlines that the clock can show

The deadline of a run is taken from the clock when its tool has been started already: the limit
on the CPU time is added to what the clock shows, and then the grace. Each of the two additions
may leave the range of the clock. Since nothing is taken away, it is enough to look at the end
(`Supervision.deadline?_of_limited`): the deadline is found exactly if the clock can show it.

Nothing before that keeps the three numbers small. A definition may give any time limit that fits
a word of 64 bits, and none of them is cut to what is left of the clock, as sizes are cut to the
largest limit (`Limits.ofDefinition_addressSpace_le`). So there are definitions whose runs end
with the start of the tool (`not_forall_deadline`). A run that gets beyond this point
never comes back to it (`Host.supervised_ne_outOfRange`), and waits for the limit and the grace
together.
-/

namespace VerifierTrials

/-! ### The clock -/

namespace Instant

/-- **Whole seconds later**: the moment is there as long as its seconds fit. -/
theorem after?_seconds (moment : Instant) (n : Nat) :
    moment.after? ⟨n, 0⟩ =
      if moment.seconds.toInt + n ≤ Int64.maxValue.toInt then
        some { moment with seconds := Int64.ofInt (moment.seconds.toInt + n) }
      else none := by
  have carry : moment.nanoseconds.val / 1000000000 = 0 := Nat.div_eq_of_lt moment.nanoseconds.isLt
  have same : Fin.ofNat 1000000000 moment.nanoseconds.val = moment.nanoseconds :=
    Fin.ext (Nat.mod_eq_of_lt moment.nanoseconds.isLt)
  simp only [after?, Nat.add_zero, carry, same]

/-- Seconds that fit are kept as they are. -/
theorem toInt_ofInt_add {moment : Instant} {n : Nat}
    (fits : moment.seconds.toInt + n ≤ Int64.maxValue.toInt) :
    (Int64.ofInt (moment.seconds.toInt + n)).toInt = moment.seconds.toInt + n := by
  have least := moment.seconds.le_toInt
  have greatest : Int64.maxValue.toInt < 2 ^ 63 := Int64.toInt_lt _
  exact Int64.toInt_ofInt_of_le (by omega) (by omega)

/-- A moment is told by its seconds and its nanoseconds. -/
theorem eq_of_toInt {moment other : Instant}
    (seconds : moment.seconds.toInt = other.seconds.toInt)
    (nanoseconds : moment.nanoseconds = other.nanoseconds) : moment = other := by
  cases moment
  cases other
  cases Int64.toInt_inj.mp seconds
  cases nanoseconds
  rfl

end Instant

/-- Sizes are cut to the largest limit. -/
theorem Limits.ofDefinition_addressSpace_le {mebibytes seconds : Option Nat} {limit : Limit}
    (limited : (Limits.ofDefinition mebibytes seconds).addressSpace = some limit) :
    limit.soft ≤ limitBound ∧ limit.hard ≤ limitBound := by
  obtain ⟨n, -, rfl⟩ := Option.map_eq_some_iff.mp limited
  exact ⟨Nat.min_le_right _ _, Nat.min_le_right _ _⟩

theorem Limits.cpuSeconds_ofDefinition (mebibytes seconds : Option Nat) :
    (Limits.ofDefinition mebibytes seconds).cpuSeconds = seconds := by
  cases seconds <;> rfl

/-! ### The watchdog -/

namespace Supervision

variable {now deadline : Instant} {limits : Limits} {grace n : Nat}

/-- **The deadline of a limited run** is there exactly if its seconds fit: the first of the two
additions is never the only one to fail. -/
theorem deadline?_of_limited (limited : limits.cpuSeconds = some n) :
    deadline? now limits grace =
      if now.seconds.toInt + n + grace ≤ Int64.maxValue.toInt then
        .ok (some { now with seconds := Int64.ofInt (now.seconds.toInt + n + grace) })
      else .error .deadlineOutOfRange := by
  simp only [deadline?, limited, Instant.after?_seconds]
  by_cases exhausted : now.seconds.toInt + n ≤ Int64.maxValue.toInt
  · simp only [if_pos exhausted, Option.bind_some, Instant.toInt_ofInt_add exhausted]
    by_cases fits : now.seconds.toInt + n + grace ≤ Int64.maxValue.toInt
    · simp only [if_pos fits]
    · simp only [if_neg fits]
  · have beyond : ¬now.seconds.toInt + n + grace ≤ Int64.maxValue.toInt := by omega
    simp only [if_neg exhausted, if_neg beyond, Option.bind_none]

theorem deadline?_of_unlimited (unlimited : limits.cpuSeconds = none) :
    deadline? now limits grace = .ok none := by
  simp only [deadline?, unlimited]

/-- A deadline that is there lies the limit and the grace behind the start. -/
theorem deadline?_eq_ok_some_iff (limited : limits.cpuSeconds = some n) :
    deadline? now limits grace = .ok (some deadline) ↔
      deadline.seconds.toInt = now.seconds.toInt + n + grace ∧
        deadline.nanoseconds = now.nanoseconds := by
  have whole : now.seconds.toInt + n + grace = now.seconds.toInt + (n + grace : Nat) := by
    rw [Int.natCast_add, Int.add_assoc]
  rw [deadline?_of_limited limited, whole]
  constructor
  · intro found
    split at found
    next fits =>
      cases found
      exact ⟨Instant.toInt_ofInt_add fits, rfl⟩
    next => cases found
  · rintro ⟨seconds, nanoseconds⟩
    have fits : now.seconds.toInt + (n + grace : Nat) ≤ Int64.maxValue.toInt :=
      seconds ▸ deadline.seconds.toInt_le
    rw [if_pos fits]
    congr 2
    exact Instant.eq_of_toInt ((Instant.toInt_ofInt_add fits).trans seconds.symm) nanoseconds.symm

theorem deadline?_eq_error_iff (limited : limits.cpuSeconds = some n) :
    deadline? now limits grace = .error .deadlineOutOfRange ↔
      Int64.maxValue.toInt < now.seconds.toInt + n + grace := by
  rw [deadline?_of_limited limited]
  split
  next fits => simpa using fits
  next beyond => simpa using beyond

end Supervision

/-! ### The run -/

namespace Host

/-- A supervised run answers with an outcome or with the interrupt. -/
theorem supervised_ne_outOfRange (env : Environment) (start : Start) (limits : Limits)
    (deadline : Option Shell.Time) (tree : FileTree) (interrupted : Bool) :
    (supervised env start limits deadline tree interrupted).1 ≠ .error .deadlineOutOfRange := by
  simp only [supervised]
  generalize Supervision.after _ _ = state
  rcases answer : state.result? with _ | _ | outcome
  · simp
  · obtain ⟨rfl, -⟩ := Supervision.result?_eq_error.mp answer
    simp
  · simp

variable {env : Environment} {now : Instant} {limits : Limits} {grace n : Nat} {tree : FileTree}
  {interrupted : Bool} {program : String} {arguments : List String} {start : Start}

/-- A run without a deadline is supervised without one. -/
theorem run_of_unlimited (started : Start.ofCommand tree env true program arguments = .ok start)
    (unlimited : limits.cpuSeconds = none) :
    (scripted env now).run (program :: arguments) limits grace tree interrupted =
      supervised env start limits none tree interrupted := by
  simp only [scripted, runScript, List.headD_cons, List.tail_cons, started,
    Supervision.deadline?_of_unlimited unlimited, Option.map_none]

/-- A run whose deadline is there waits for the limit and the grace. -/
theorem run_of_fits (started : Start.ofCommand tree env true program arguments = .ok start)
    (limited : limits.cpuSeconds = some n)
    (fits : now.seconds.toInt + n + grace ≤ Int64.maxValue.toInt) :
    ∃ deadline : Instant, Supervision.deadline? now limits grace = .ok (some deadline) ∧
      deadline.seconds.toInt = now.seconds.toInt + n + grace ∧
      deadline.nanoseconds = now.nanoseconds ∧
      (scripted env now).run (program :: arguments) limits grace tree interrupted =
        supervised env start limits (some ((n + grace) * Course.second)) tree interrupted := by
  have found : Supervision.deadline? now limits grace =
      .ok (some { now with seconds := Int64.ofInt (now.seconds.toInt + n + grace) }) := by
    rw [Supervision.deadline?_of_limited limited, if_pos fits]
  obtain ⟨seconds, nanoseconds⟩ := (Supervision.deadline?_eq_ok_some_iff limited).mp found
  refine ⟨_, found, seconds, nanoseconds, ?_⟩
  have waited : Instant.secondsAfter
      { now with seconds := Int64.ofInt (now.seconds.toInt + n + grace) } now = n + grace := by
    rw [Instant.secondsAfter, seconds]
    omega
  simp only [scripted, runScript, List.headD_cons, List.tail_cons, started, found,
    Option.map_some, waited]

/-- A run whose deadline is out of range ends with the start of its tool. -/
theorem run_of_beyond (started : Start.ofCommand tree env true program arguments = .ok start)
    (limited : limits.cpuSeconds = some n)
    (beyond : Int64.maxValue.toInt < now.seconds.toInt + n + grace) :
    (scripted env now).run (program :: arguments) limits grace tree interrupted =
      (.error .deadlineOutOfRange, tree, interrupted) := by
  simp only [scripted, runScript, List.headD_cons, List.tail_cons, started,
    (Supervision.deadline?_eq_error_iff limited).mpr beyond]

theorem run_outOfRange_iff (started : Start.ofCommand tree env true program arguments = .ok start) :
    ((scripted env now).run (program :: arguments) limits grace tree interrupted).1 =
        .error .deadlineOutOfRange ↔
      ∃ n, limits.cpuSeconds = some n ∧
        Int64.maxValue.toInt < now.seconds.toInt + n + grace := by
  rcases given : limits.cpuSeconds with _ | n
  · rw [run_of_unlimited started given]
    simp [supervised_ne_outOfRange]
  · by_cases fits : now.seconds.toInt + n + grace ≤ Int64.maxValue.toInt
    · obtain ⟨-, -, -, -, answer⟩ := run_of_fits started given fits
      rw [answer]
      simp [supervised_ne_outOfRange, fits]
    · have beyond := Int.not_le.mp fits
      rw [run_of_beyond started given beyond]
      simp [beyond]

/-- **What comes of the deadline of a run** whose tool has been started, for every definition,
grace and reading of the clock. Without a time limit there is none. With one, the deadline is found
and is exact, and the run waits for the limit and the grace, as long as the clock can show what
lies so far behind the present; otherwise the run ends at once, for that cause, and for it only in
this case. A size, in contrast, is never out of range. -/
theorem run_deadline (env : Environment) (now : Instant) (mebibytes seconds : Option Nat)
    (grace : Nat) (tree : FileTree) (interrupted : Bool) (program : String)
    (arguments : List String) (start : Start)
    (started : Start.ofCommand tree env true program arguments = .ok start) :
    let limits := Limits.ofDefinition mebibytes seconds
    let answer := (scripted env now).run (program :: arguments) limits grace tree interrupted
    (seconds = none → answer = supervised env start limits none tree interrupted) ∧
      (∀ n, seconds = some n → now.seconds.toInt + n + grace ≤ Int64.maxValue.toInt →
        ∃ deadline : Instant, Supervision.deadline? now limits grace = .ok (some deadline) ∧
          deadline.seconds.toInt = now.seconds.toInt + n + grace ∧
          deadline.nanoseconds = now.nanoseconds ∧
          answer =
            supervised env start limits (some ((n + grace) * Course.second)) tree interrupted) ∧
      (answer.1 = .error .deadlineOutOfRange ↔
        ∃ n, seconds = some n ∧ Int64.maxValue.toInt < now.seconds.toInt + n + grace) ∧
      ∀ limit, limits.addressSpace = some limit →
        limit.soft ≤ limitBound ∧ limit.hard ≤ limitBound := by
  intro limits answer
  have given : limits.cpuSeconds = seconds := Limits.cpuSeconds_ofDefinition mebibytes seconds
  refine ⟨fun unlimited => run_of_unlimited started (given.trans unlimited),
    fun n limited fits => run_of_fits started (given.trans limited) fits, ?_,
    fun limit found => Limits.ofDefinition_addressSpace_le found⟩
  rw [← given]
  exact run_outOfRange_iff started

/-- A tree with one program in it. -/
def oneProgram : FileTree := ⟨[(["t"], .file 0o755 (Image.nativeFile "true"))], []⟩

/-- A run that is over in time, and one with the largest limit that there is. -/
theorem run_deadline_largest :
    Start.ofCommand oneProgram ⟨[]⟩ true "/t" [] = .ok ⟨"true", "/t", []⟩ ∧
      (∃ deadline, Supervision.deadline? ⟨1000, 7⟩ (.ofDefinition none (some 60)) 10 =
        .ok (some deadline) ∧ deadline.seconds.toInt = 1070 ∧ deadline.nanoseconds = 7) ∧
      ((scripted ⟨[]⟩ ⟨1000, 7⟩).run ["/t"] (.ofDefinition none (some limitBound)) 10
        oneProgram false).1 = .error .deadlineOutOfRange := by
  have started : Start.ofCommand oneProgram ⟨[]⟩ true "/t" [] = .ok ⟨"true", "/t", []⟩ := by cbv
  obtain ⟨-, inTime, -⟩ :=
    run_deadline ⟨[]⟩ ⟨1000, 7⟩ none (some 60) 10 oneProgram false "/t" [] _ started
  obtain ⟨deadline, found, seconds, nanoseconds, -⟩ := inTime 60 rfl (by decide)
  obtain ⟨-, -, outOfRange, -⟩ :=
    run_deadline ⟨[]⟩ ⟨1000, 7⟩ none (some limitBound) 10 oneProgram false "/t" [] _ started
  exact ⟨started, ⟨deadline, found, seconds, nanoseconds⟩,
    outOfRange.mpr ⟨limitBound, rfl, by decide⟩⟩

end Host

/-! ### A definition without a deadline -/

/-- A definition with the largest time limit that there is. -/
def largestDocument : String := "<benchmark tool=\"satabs\" timelimit=\"18446744073709551615\"/>"

/-- The element of this definition. -/
def largestElement : Xml.Element where
  name := "benchmark"
  attributes := [("tool", "satabs"), ("timelimit", "18446744073709551615")]

/-- The definition is one that is accepted. -/
theorem ofXml_largestDocument :
    DeclaredBenchmark.ofXml largestDocument =
      .ok { tool := .satabs, timeLimit := some limitBound } := by
  have read : Xml.tree largestDocument = .ok largestElement := by cbv
  have tool : largestElement.attribute? "tool" = some "satabs" := by cbv
  have noSize : DeclaredBenchmark.numberIn largestElement "memlimit" = .ok none := by cbv
  have limit : DeclaredBenchmark.numberIn largestElement "timelimit" = .ok (some limitBound) := by
    have given : largestElement.attribute? "timelimit" = some "18446744073709551615" := by cbv
    have number : Text.unsigned? (limitBound + 1) (Text.trim "18446744073709551615".toList) =
        some limitBound := by decide
    simp only [DeclaredBenchmark.numberIn, given, number]
  rw [DeclaredBenchmark.ofXml, read]
  change DeclaredBenchmark.ofElement largestElement = _
  rw [DeclaredBenchmark.ofElement, tool, noSize, limit]
  rfl

/-- Not every definition that is accepted has a deadline that the clock can show. -/
theorem not_forall_deadline :
    ¬∀ (document : String) (declared : DeclaredBenchmark) (now : Instant) (grace : Nat),
      DeclaredBenchmark.ofXml document = .ok declared → grace ≤ limitBound →
        ∃ deadline, Supervision.deadline? now
          (Limits.ofDefinition declared.memoryLimit declared.timeLimit) grace = .ok deadline := by
  intro always
  obtain ⟨deadline, found⟩ := always _ _ Instant.origin 10 ofXml_largestDocument (by decide)
  have beyond : Supervision.deadline? .origin (.ofDefinition none (some limitBound)) 10 =
      .error .deadlineOutOfRange := (Supervision.deadline?_eq_error_iff rfl).mpr (by decide)
  rw [beyond] at found
  cases found

end VerifierTrials
