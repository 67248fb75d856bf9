import VerifierTrials.Proofs.Text.Basic
import VerifierTrials.Proofs.Verifier.Exhaustion
import VerifierTrials.Proofs.Verifier.Killed

/-!
# What the lines of CPAchecker come to

The status of a run of CPAchecker is kept while its lines are read one after the other. A line that
**overrides** sets it whatever has been found before, and so the last such line counts; a line
that **decides** sets it only where nothing has been found, and so the first such line counts,
and none at all if the exit code has said something already. Put together this is a reading of all
lines at once (`Verifier.Reading`), which does not mention any state. The state after some lines
is the last overriding status among them, or else what was there before them, or else the first
status that has been decided (`Verifier.foldl_readLine`), and from this the two agree
(`Verifier.foldl_readLine_iff`).

No reading is a timeout, so that a run times out only by the time that it has used up
(`Verifier.classify_timeout_iff`).
-/

namespace VerifierTrials.Verifier

open VerifierTrials.Text

variable {exitCode : Int} {line : String} {lines : List String} {status : Status}

/-! ### Lines that override -/

/-- **A line that tells of exhausted memory.** -/
def ShowsOutOfMemory (line : String) : Prop :=
  "java.lang.OutOfMemoryError".toList <:+: line.toList ∨
    "std::bad_alloc".toList <:+: line.toList ∨
    "Cannot allocate memory".toList <:+: line.toList ∨
    "out of memory".toList <+: line.toList

/-- A line that tells of a signal. -/
def ShowsSignal (line : String) : Prop := "SIGSEGV".toList <:+: line.toList

/-- A line that tells of an exception, which counts with two exit codes only. -/
def ShowsException (exitCode : Int) (line : String) : Prop :=
  (exitCode = 0 ∨ exitCode = 1) ∧ "Exception".toList <:+: line.toList

/-- **A line that overrides** whatever has been found. -/
def IsOverriding (exitCode : Int) (line : String) : Prop :=
  ShowsOutOfMemory line ∨ ShowsSignal line ∨ ShowsException exitCode line

/-- The status that a line overrides with: the first one that it tells of. -/
inductive Overrides (exitCode : Int) (line : String) : Status → Prop where
  | outOfMemory (memory : ShowsOutOfMemory line) : Overrides exitCode line .outOfMemory
  | segmentationFault (noMemory : ¬ShowsOutOfMemory line) (signal : ShowsSignal line) :
      Overrides exitCode line .segmentationFault
  | exception (noMemory : ¬ShowsOutOfMemory line) (noSignal : ¬ShowsSignal line)
      (thrown : ShowsException exitCode line) : Overrides exitCode line .exception

theorem tellsOutOfMemory_iff : tellsOutOfMemory line = true ↔ ShowsOutOfMemory line := by
  simp only [tellsOutOfMemory, ShowsOutOfMemory, Bool.or_eq_true, contains_iff, startsWith_iff,
    or_assoc]

theorem overridingStatus?_eq_some_iff :
    overridingStatus? exitCode line = some status ↔ Overrides exitCode line status := by
  have thrown : ((exitCode = 0 || exitCode = 1) && contains "Exception" line) = true ↔
      ShowsException exitCode line := by
    simp only [ShowsException, Bool.and_eq_true, Bool.or_eq_true, decide_eq_true_eq, contains_iff]
  rw [overridingStatus?]
  constructor
  · intro found
    split_ifs at found with memory signal exception <;> cases found
    · exact .outOfMemory (tellsOutOfMemory_iff.mp memory)
    · exact .segmentationFault (mt tellsOutOfMemory_iff.mpr memory) (contains_iff.mp signal)
    · exact .exception (mt tellsOutOfMemory_iff.mpr memory) (mt contains_iff.mpr signal)
        (thrown.mp exception)
  · rintro (memory | ⟨noMemory, signal⟩ | ⟨noMemory, noSignal, exception⟩)
    · rw [if_pos (tellsOutOfMemory_iff.mpr memory)]
    · rw [if_neg (mt tellsOutOfMemory_iff.mp noMemory), if_pos (contains_iff.mpr signal)]
    · rw [if_neg (mt tellsOutOfMemory_iff.mp noMemory), if_neg (mt contains_iff.mp noSignal),
        if_pos (thrown.mpr exception)]

theorem isOverriding_iff :
    IsOverriding exitCode line ↔ ∃ status, Overrides exitCode line status := by
  constructor
  · intro overriding
    by_cases memory : ShowsOutOfMemory line
    · exact ⟨_, .outOfMemory memory⟩
    · by_cases signal : ShowsSignal line
      · exact ⟨_, .segmentationFault memory signal⟩
      · exact ⟨_, .exception memory signal ((overriding.resolve_left memory).resolve_left signal)⟩
  · rintro ⟨_, memory | ⟨-, signal⟩ | ⟨-, -, exception⟩⟩
    · exact .inl memory
    · exact .inr (.inl signal)
    · exact .inr (.inr exception)

theorem overridingStatus?_eq_none_iff :
    overridingStatus? exitCode line = none ↔ ¬IsOverriding exitCode line := by
  rw [isOverriding_iff, Option.eq_none_iff_forall_ne_some, not_exists]
  exact forall_congr' fun status => not_congr overridingStatus?_eq_some_iff

/-! ### Lines that decide -/

/-- What stands before a verdict. -/
def verdictKey : String := "Verification result: "

/-- What stands before the number of test cases that have been computed. -/
def testCasesKey : String := "#Test cases computed:"

/-- **A line that decides**, where nothing has been found yet. -/
def IsDeciding (line : String) : Prop :=
  verdictKey.toList <+: line.toList ∨ testCasesKey.toList <+: line.toList

/-- The status that a line decides on. -/
inductive Decides (line : String) : Status → Prop where
  | safe {rest : String} (verdict : line = verdictKey ++ rest)
      (said : "SAFE".toList <+: trim rest.toList) : Decides line .safe
  | violated {rest : String} (verdict : line = verdictKey ++ rest)
      (said : "UNSAFE".toList <+: trim rest.toList) : Decides line .violated
  | unknown {rest : String} (verdict : line = verdictKey ++ rest)
      (notSafe : ¬"SAFE".toList <+: trim rest.toList)
      (notViolated : ¬"UNSAFE".toList <+: trim rest.toList) : Decides line .unknown
  | ok (count : testCasesKey.toList <+: line.toList) : Decides line .ok

theorem not_safe_of_violated {said : List Char} (violated : "UNSAFE".toList <+: said) :
    ¬"SAFE".toList <+: said := fun safe =>
  absurd (List.prefix_of_prefix_length_le safe violated (by decide)) (by decide)

/-- No line has both keys. -/
theorem not_verdict_of_count (count : testCasesKey.toList <+: line.toList) :
    dropKey? verdictKey line = none := by
  refine Option.eq_none_iff_forall_ne_some.mpr fun rest verdict => ?_
  rw [dropKey?_eq_some_iff.mp verdict, String.toList_append] at count
  exact absurd (List.prefix_of_prefix_length_le (List.prefix_append _ _) count (by decide))
    (by decide)

theorem startsWith_trimmed_iff {key rest : String} :
    startsWith key (trimmed rest) = true ↔ key.toList <+: trim rest.toList := by
  rw [startsWith_iff, trimmed, String.toList_ofList]

theorem verdictLine?_of_verdict (rest : String) :
    verdictLine? (verdictKey ++ rest) =
      some (if startsWith "SAFE" (trimmed rest) then .safe
        else if startsWith "UNSAFE" (trimmed rest) then .violated
        else .unknown) := by
  have found : dropKey? "Verification result: " (verdictKey ++ rest) = some rest :=
    dropKey?_eq_some_iff.mpr rfl
  rw [verdictLine?, found]

theorem verdictLine?_of_not_verdict (noVerdict : dropKey? verdictKey line = none) :
    verdictLine? line = if startsWith testCasesKey line then some .ok else none := by
  rw [verdictKey] at noVerdict
  rw [verdictLine?, noVerdict, testCasesKey]

theorem verdictLine?_eq_some_iff : verdictLine? line = some status ↔ Decides line status := by
  constructor
  · intro decided
    rcases found : dropKey? verdictKey line with _ | rest
    · rw [verdictLine?_of_not_verdict found] at decided
      split_ifs at decided with count
      cases decided
      exact .ok (startsWith_iff.mp count)
    · obtain rfl : line = verdictKey ++ rest := dropKey?_eq_some_iff.mp found
      rw [verdictLine?_of_verdict, Option.some.injEq] at decided
      split_ifs at decided with safe violated <;> cases decided
      · exact .safe rfl (startsWith_trimmed_iff.mp safe)
      · exact .violated rfl (startsWith_trimmed_iff.mp violated)
      · exact .unknown rfl (mt startsWith_trimmed_iff.mpr safe)
          (mt startsWith_trimmed_iff.mpr violated)
  · rintro (⟨rfl, safe⟩ | ⟨rfl, violated⟩ | ⟨rfl, notSafe, notViolated⟩ | count)
    · rw [verdictLine?_of_verdict, if_pos (startsWith_trimmed_iff.mpr safe)]
    · have notSafe := not_safe_of_violated violated
      rw [verdictLine?_of_verdict, if_neg (mt startsWith_trimmed_iff.mp notSafe),
        if_pos (startsWith_trimmed_iff.mpr violated)]
    · rw [verdictLine?_of_verdict, if_neg (mt startsWith_trimmed_iff.mp notSafe),
        if_neg (mt startsWith_trimmed_iff.mp notViolated)]
    · rw [verdictLine?_of_not_verdict (not_verdict_of_count count),
        if_pos (startsWith_iff.mpr count)]

theorem isDeciding_iff : IsDeciding line ↔ ∃ status, Decides line status := by
  constructor
  · rintro (⟨rest, verdict⟩ | count)
    · have verdict : line = verdictKey ++ String.ofList rest := by
        rw [← String.toList_inj, String.toList_append, String.toList_ofList, verdict]
      exact ⟨_, verdictLine?_eq_some_iff.mp (verdict ▸ verdictLine?_of_verdict _)⟩
    · exact ⟨_, .ok count⟩
  · have begins (rest : String) : verdictKey.toList <+: (verdictKey ++ rest).toList := by
      rw [String.toList_append]
      exact List.prefix_append _ _
    rintro ⟨_, rfl | rfl | rfl | count⟩
    · exact .inl (begins _)
    · exact .inl (begins _)
    · exact .inl (begins _)
    · exact .inr count

theorem verdictLine?_eq_none_iff : verdictLine? line = none ↔ ¬IsDeciding line := by
  rw [isDeciding_iff, Option.eq_none_iff_forall_ne_some, not_exists]
  exact forall_congr' fun status => not_congr verdictLine?_eq_some_iff

/-! ### Exit codes -/

/-- The status that an exit code other than zero stands for. -/
inductive Ends : Int → Status → Prop where
  | abortedByMathsat : Ends (-6) .abortedByMathsat
  | killedBySignal9 : Ends (-9) .killedBySignal9
  | killed : Ends 143 .killed
  | error {exitCode : Int} (other : exitCode ∉ [0, -6, -9, 143]) :
      Ends exitCode (.error (some exitCode))

theorem exitStatus?_eq_some_iff : exitStatus? exitCode = some status ↔ Ends exitCode status := by
  constructor
  · intro found
    rw [exitStatus?] at found
    split_ifs at found with returned aborted signalled killed <;> cases found
    · exact aborted ▸ .abortedByMathsat
    · exact signalled ▸ .killedBySignal9
    · exact killed ▸ .killed
    · exact .error (by simp [returned, aborted, signalled, killed])
  · rintro (_ | _ | _ | other)
    · rfl
    · rfl
    · rfl
    · simp only [List.mem_cons, List.not_mem_nil, or_false, not_or] at other
      obtain ⟨returned, aborted, signalled, killed⟩ := other
      rw [exitStatus?, if_neg returned, if_neg aborted, if_neg signalled, if_neg killed]

theorem exitStatus?_eq_none_iff : exitStatus? exitCode = none ↔ exitCode = 0 := by
  rw [exitStatus?]
  split_ifs <;> simp_all

/-! ### One line after the other -/

/-- **What there is after some lines**: the last status that overrides, or else what was there
before, or else the first status that has been decided. -/
theorem foldl_readLine (lines : List String) (before : Option Status) :
    lines.foldl (readLine exitCode) before =
      (lines.reverse.findSome? (overridingStatus? exitCode)).or
        (before.or (lines.findSome? verdictLine?)) := by
  induction lines generalizing before with
  | nil => simp
  | cons line lines ih =>
    rw [List.foldl_cons, ih, List.reverse_cons, List.findSome?_append, List.findSome?_cons,
      List.findSome?_cons, readLine.eq_def]
    rcases overridingStatus? exitCode line with _ | overriding
    · rcases before with _ | status
      · rcases verdictLine? line <;> simp
      · simp
    · simp

/-! ### All lines at once -/

/-- **The reading of all lines at once**, with an exit code: the last line that overrides counts;
without one, the exit code if it is not zero; and if it is, the first line that decides. -/
inductive Reading (exitCode : Int) (lines : List String) : Status → Prop where
  | overridden {before after : List String} {line : String} {status : Status}
      (place : lines = before ++ line :: after) (overrides : Overrides exitCode line status)
      (last : ∀ later ∈ after, ¬IsOverriding exitCode later) : Reading exitCode lines status
  | ended {status : Status} (plain : ∀ line ∈ lines, ¬IsOverriding exitCode line)
      (ends : Ends exitCode status) : Reading exitCode lines status
  | decided {before after : List String} {line : String} {status : Status}
      (plain : ∀ line ∈ lines, ¬IsOverriding exitCode line) (returned : exitCode = 0)
      (place : lines = before ++ line :: after) (decides : Decides line status)
      (first : ∀ earlier ∈ before, ¬IsDeciding earlier) : Reading exitCode lines status
  | silent (plain : ∀ line ∈ lines, ¬IsOverriding exitCode line) (returned : exitCode = 0)
      (undecided : ∀ line ∈ lines, ¬IsDeciding line) : Reading exitCode lines .unknown

theorem lastOverriding_eq_some_iff :
    lines.reverse.findSome? (overridingStatus? exitCode) = some status ↔
      ∃ before line after, lines = before ++ line :: after ∧ Overrides exitCode line status ∧
        ∀ later ∈ after, ¬IsOverriding exitCode later := by
  simp only [List.findSome?_eq_some_iff, overridingStatus?_eq_some_iff,
    overridingStatus?_eq_none_iff]
  constructor
  · rintro ⟨after, line, before, place, overrides, last⟩
    refine ⟨before.reverse, line, after.reverse, ?_, overrides,
      fun later among => last later (List.mem_reverse.mp among)⟩
    rw [← List.reverse_inj, place]
    simp
  · rintro ⟨before, line, after, rfl, overrides, last⟩
    exact ⟨after.reverse, line, before.reverse, by simp, overrides,
      fun later among => last later (List.mem_reverse.mp among)⟩

theorem lastOverriding_eq_none_iff :
    lines.reverse.findSome? (overridingStatus? exitCode) = none ↔
      ∀ line ∈ lines, ¬IsOverriding exitCode line := by
  simp only [List.findSome?_eq_none_iff, List.mem_reverse, overridingStatus?_eq_none_iff]

theorem firstDeciding_eq_some_iff :
    lines.findSome? verdictLine? = some status ↔
      ∃ before line after, lines = before ++ line :: after ∧ Decides line status ∧
        ∀ earlier ∈ before, ¬IsDeciding earlier := by
  simp only [List.findSome?_eq_some_iff, verdictLine?_eq_some_iff, verdictLine?_eq_none_iff]

theorem firstDeciding_eq_none_iff :
    lines.findSome? verdictLine? = none ↔ ∀ line ∈ lines, ¬IsDeciding line := by
  simp only [List.findSome?_eq_none_iff, verdictLine?_eq_none_iff]

/-- **Line after line or all at once**: the state after the last line is what the reading says. -/
theorem foldl_readLine_iff :
    (lines.foldl (readLine exitCode) (exitStatus? exitCode)).getD .unknown = status ↔
      Reading exitCode lines status := by
  rw [foldl_readLine]
  constructor
  · rintro rfl
    rcases overriding : lines.reverse.findSome? (overridingStatus? exitCode) with _ | status
    · have plain := lastOverriding_eq_none_iff.mp overriding
      rcases ended : exitStatus? exitCode with _ | status
      · have returned := exitStatus?_eq_none_iff.mp ended
        rcases deciding : lines.findSome? verdictLine? with _ | status
        · exact .silent plain returned (firstDeciding_eq_none_iff.mp deciding)
        · obtain ⟨before, line, after, place, decides, first⟩ :=
            firstDeciding_eq_some_iff.mp deciding
          exact .decided plain returned place decides first
      · exact .ended plain (exitStatus?_eq_some_iff.mp ended)
    · obtain ⟨before, line, after, place, overrides, last⟩ :=
        lastOverriding_eq_some_iff.mp overriding
      exact .overridden place overrides last
  · rintro (⟨place, overrides, last⟩ | ⟨plain, ends⟩ | ⟨plain, returned, place, decides, first⟩ |
      ⟨plain, returned, undecided⟩)
    · rw [lastOverriding_eq_some_iff.mpr ⟨_, _, _, place, overrides, last⟩]
      rfl
    · rw [lastOverriding_eq_none_iff.mpr plain, exitStatus?_eq_some_iff.mpr ends]
      rfl
    · rw [lastOverriding_eq_none_iff.mpr plain, exitStatus?_eq_none_iff.mpr returned,
        firstDeciding_eq_some_iff.mpr ⟨_, _, _, place, decides, first⟩]
      rfl
    · rw [lastOverriding_eq_none_iff.mpr plain, exitStatus?_eq_none_iff.mpr returned,
        firstDeciding_eq_none_iff.mpr undecided]
      rfl

/-! ### What no reading is -/

theorem Reading.ne_timeout (reading : Reading exitCode lines status) : status ≠ .timeout := by
  rintro rfl
  obtain ⟨-, overrides, -⟩ | ⟨-, ends⟩ | ⟨-, -, -, decides, -⟩ | _ := reading
  · cases overrides
  · cases ends
  · cases decides

/-- **A verdict is given only to a run that has returned zero**, without a line that overrides. -/
theorem Reading.of_isVerdict (reading : Reading exitCode lines status)
    (verdict : status.IsVerdict) :
    exitCode = 0 ∧ ∀ line ∈ lines, ¬IsOverriding exitCode line := by
  obtain ⟨-, overrides, -⟩ | ⟨-, ends⟩ | ⟨plain, returned⟩ | ⟨plain, returned⟩ := reading
  · rcases verdict with rfl | rfl <;> cases overrides
  · rcases verdict with rfl | rfl <;> cases ends
  · exact ⟨returned, plain⟩
  · exact ⟨returned, plain⟩

/-! ### Runs of CPAchecker -/

variable {outcome : Outcome} {limits : Limits}

theorem classifyCpachecker_of_usedUp
    (usedUp : outcome.exitCode = -9 ∧ HasUsedUp outcome.cpuTime limits) :
    classifyCpachecker outcome limits = .timeout := by
  rw [classifyCpachecker, if_pos]
  simpa [isExhausted_iff] using usedUp

theorem classifyCpachecker_eq_iff
    (inTime : ¬(outcome.exitCode = -9 ∧ HasUsedUp outcome.cpuTime limits)) :
    classifyCpachecker outcome limits = status ↔
      Reading outcome.exitCode (linesOf outcome.output) status := by
  rw [classifyCpachecker, if_neg, foldl_readLine_iff]
  simpa [isExhausted_iff] using inTime

/-- **The status of a run that has not used up its time is the reading of its lines**, there is
nothing to warn about, and whatever the run, a verdict needs the exit code zero and lines that do
not override. -/
theorem classify_eq_iff_reading (outcome : Outcome) (options : List String) (limits : Limits) :
    (¬(outcome.exitCode = -9 ∧ HasUsedUp outcome.cpuTime limits) →
      ∀ result : Status × List Warning, cpachecker.classify outcome options limits = result ↔
        Reading outcome.exitCode (linesOf outcome.output) result.1 ∧ result.2 = []) ∧
      ((cpachecker.classify outcome options limits).1.IsVerdict →
        outcome.exitCode = 0 ∧
          ∀ line ∈ linesOf outcome.output, ¬IsOverriding outcome.exitCode line) := by
  have classified : cpachecker.classify outcome options limits =
      (classifyCpachecker outcome limits, []) := rfl
  rw [classified]
  refine ⟨fun inTime result => ?_, fun verdict => ?_⟩
  · rw [Prod.ext_iff, classifyCpachecker_eq_iff inTime]
    exact and_congr_right fun _ => eq_comm
  · by_cases usedUp : outcome.exitCode = -9 ∧ HasUsedUp outcome.cpuTime limits
    · rw [classifyCpachecker_of_usedUp usedUp] at verdict
      rcases verdict with same | same <;> cases same
    · exact ((classifyCpachecker_eq_iff usedUp).mp rfl).of_isVerdict verdict

/-- A run with a verdict, which an exception overrides, and a signal after it. -/
def lateSignal : Outcome :=
  ⟨0, "Verification result: SAFE\nException\nSIGSEGV\n", {}, {}⟩

/-- A run with two verdicts. -/
def firstVerdict : Outcome :=
  ⟨0, "Verification result: UNSAFE\nVerification result: SAFE\n", {}, {}⟩

theorem reading_of_lateSignal :
    ¬(lateSignal.exitCode = -9 ∧ HasUsedUp lateSignal.cpuTime {}) ∧
      Reading 0 (linesOf lateSignal.output) .segmentationFault ∧
      (cpachecker.classify firstVerdict [] {}).1.IsVerdict ∧
      ∀ line ∈ linesOf firstVerdict.output, ¬IsOverriding 0 line := by
  have inTime : ¬(lateSignal.exitCode = -9 ∧ HasUsedUp lateSignal.cpuTime {}) :=
    fun usedUp => absurd usedUp.1 (by decide)
  have verdict : (cpachecker.classify firstVerdict [] {}).1.IsVerdict := .inr (by decide)
  have signal : cpachecker.classify lateSignal [] {} = (.segmentationFault, []) := by decide
  exact ⟨inTime, (((classify_eq_iff_reading lateSignal [] {}).1 inTime _).mp signal).1, verdict,
    ((classify_eq_iff_reading firstVerdict [] {}).2 verdict).2⟩

/-- **A run times out exactly when it was killed and has used up its CPU time**, to the
nanosecond: cutting off the rest of a millisecond changes nothing, and the comparison fits words of
128 bits whatever has been measured and whatever is the limit. -/
theorem classify_timeout_iff (outcome : Outcome) (options : List String) (limits : Limits) :
    ((cpachecker.classify outcome options limits).1 = .timeout ↔
        outcome.exitCode = -9 ∧ HasUsedUp outcome.cpuTime limits) ∧
      (∀ seconds : Nat, 99 / 100 * (seconds : ℚ) ≤ outcome.cpuTime.milliseconds / 1000 ↔
        99 / 100 * (seconds : ℚ) ≤ outcome.cpuTime.exact) ∧
      (outcome.cpuTime.IsMeasured →
        (∀ seconds, limits.cpuSeconds = some seconds → seconds ≤ limitBound) →
          isExhaustedInWords? outcome.cpuTime limits =
            some (isExhausted outcome.cpuTime limits)) := by
  refine ⟨⟨fun timedOut => ?_, classifyCpachecker_of_usedUp⟩,
    threshold_le_milliseconds_iff outcome.cpuTime, isExhaustedInWords?_eq⟩
  by_contra inTime
  exact ((classifyCpachecker_eq_iff inTime).mp timedOut).ne_timeout rfl

/-- One nanosecond less than ninety-nine hundredths of the limit. -/
example : (cpachecker.classify ⟨-9, "", ⟨989, 999999999⟩, {}⟩ [] ⟨some (.both 1000), none⟩).1 =
    .killedBySignal9 := by decide +kernel

/-- The longest time that can be measured. -/
def longestTime : Span := ⟨limitBound, 999999999⟩

/-- The largest limit that can be set. -/
def largestLimits : Limits := ⟨some (.both limitBound), none⟩

theorem hasUsedUp_longestTime : HasUsedUp longestTime largestLimits := by
  refine ⟨limitBound, rfl, (threshold_le_iff _ _).mpr ?_⟩
  have whole : longestTime.milliseconds = limitBound * 1000 + 999 := rfl
  omega

theorem timeout_of_longestTime :
    longestTime.IsMeasured ∧
      (∀ seconds, largestLimits.cpuSeconds = some seconds → seconds ≤ limitBound) ∧
      (cpachecker.classify ⟨-9, "", longestTime, {}⟩ [] largestLimits).1 = .timeout ∧
      isExhaustedInWords? longestTime largestLimits = some true := by
  have measured : longestTime.IsMeasured := ⟨by decide, by decide⟩
  have limited : ∀ seconds, largestLimits.cpuSeconds = some seconds → seconds ≤ limitBound :=
    fun seconds same => Nat.le_of_eq (Option.some.inj same).symm
  obtain ⟨timeout, -, words⟩ := classify_timeout_iff ⟨-9, "", longestTime, {}⟩ [] largestLimits
  have exhausted : isExhausted longestTime largestLimits = true :=
    (isExhausted_iff _ _).mpr hasUsedUp_longestTime
  have fits : isExhaustedInWords? longestTime largestLimits = some true := by
    rw [words measured limited, exhausted]
  exact ⟨measured, limited, timeout.mpr ⟨rfl, hasUsedUp_longestTime⟩, fits⟩

end VerifierTrials.Verifier
