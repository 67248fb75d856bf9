import Mathlib.Tactic.SplitIfs
import VerifierTrials.Verifier.Classification

/-!
# The verdicts of killed runs

A run that a signal has killed has a negative exit code, and its output stops anywhere. As
long as the tool has not shown one of its **verdict texts** (`Verifier.showsVerdict`), such
a run should count as neither safe nor unsafe.

Five of the tools keep to this. CBMC and CPAchecker begin with the exit code, which settles
everything that is not an overriding line; SatAbs, Wolverine and BLAST give a verdict for a
verdict text only, and something else without one. ACSAR looks at its output alone and takes
silence for safety, so that a killed run of it is safe exactly when it has told of no trouble
(`classify_killed`).
-/

namespace VerifierTrials

open VerifierTrials.Text

/-- A status that answers the question of the benchmark. -/
def Status.IsVerdict (status : Status) : Prop := status = .safe ∨ status = .violated

namespace Verifier

/-- The text by which ACSAR tells that the error location can be reached. -/
def reachedText : String := "Error Location <<ERROR_LOCATION>> is reachable via the following path"

/-- **Whether an output shows a verdict text** of a tool: the element with the status for
CBMC, a line for CPAchecker and BLAST, a text anywhere for the others. -/
def showsVerdict (tool : Verifier) (output : String) : Bool :=
  match tool with
  | cbmc => contains "<cprover-status" output
  | satabs | wolverine =>
    contains "VERIFICATION SUCCESSFUL" output || contains "VERIFICATION FAILED" output
  | acsar => contains reachedText output
  | cpachecker => (linesOf output).any (startsWith "Verification result: ")
  | blast =>
    (linesOf output).any fun line =>
      startsWith "Error found! The system is unsafe :-(" line ||
        startsWith "No error found.  The system is safe :-)" line

/-! ### One tool after the other -/

variable {outcome : Outcome}

theorem not_isVerdict_classifyCbmc (options : List String) (killed : outcome.exitCode < 0) :
    ¬(classifyCbmc outcome options).1.IsVerdict := by
  have noReport : (outcome.exitCode = 0 || outcome.exitCode = 10) = false := by
    simp only [Bool.or_eq_false_iff, decide_eq_false_iff_not]
    omega
  rw [classifyCbmc, if_neg (by simp [noReport])]
  split_ifs <;> simp [Status.IsVerdict]

theorem not_isVerdict_classifySatAbs (codes : SatAbsCodes)
    (silent : (contains "VERIFICATION SUCCESSFUL" outcome.output ||
      contains "VERIFICATION FAILED" outcome.output) = false) :
    ¬(classifySatAbs codes outcome).1.IsVerdict := by
  obtain ⟨noSuccess, noFailure⟩ := Bool.or_eq_false_iff.mp silent
  simp only [classifySatAbs, noSuccess, noFailure, Bool.false_eq_true, if_false]
  split_ifs <;> simp [Status.IsVerdict]

/-- The status of the first marker of ACSAR in an output is no verdict, unless it is that of
the verdict text. -/
theorem not_isVerdict_of_find_marker (silent : contains reachedText outcome.output = false)
    {marker : String × Status}
    (found : (acsarMarkers.find? fun marker => contains marker.1 outcome.output) = some marker) :
    ¬marker.2.IsVerdict := by
  have shown : contains marker.1 outcome.output = true := by simpa using List.find?_some found
  have member : marker ∈ acsarMarkers := List.mem_of_find?_eq_some found
  have others : ∀ other ∈ acsarMarkers, other.1 = reachedText ∨ ¬other.2.IsVerdict := by
    simp [acsarMarkers, reachedText, Status.IsVerdict]
  refine (others marker member).resolve_left fun same => ?_
  rw [same, silent] at shown
  exact Bool.false_ne_true shown

theorem classifyAcsar_ne_violated (silent : contains reachedText outcome.output = false) :
    classifyAcsar outcome ≠ .violated := by
  rcases found : acsarMarkers.find? fun marker => contains marker.1 outcome.output with _ | marker
  · simp [classifyAcsar, found]
  · simp only [classifyAcsar, found]
    exact fun same => not_isVerdict_of_find_marker silent found (Or.inr same)

theorem classifyAcsar_eq_safe_iff (silent : contains reachedText outcome.output = false) :
    classifyAcsar outcome = .safe ↔
      ∀ marker ∈ acsarMarkers, contains marker.1 outcome.output = false := by
  rcases found : acsarMarkers.find? fun marker => contains marker.1 outcome.output with _ | marker
  · simp only [classifyAcsar, found, true_iff]
    simpa using List.find?_eq_none.mp found
  · simp only [classifyAcsar, found]
    refine ⟨fun same => absurd (Or.inl same) (not_isVerdict_of_find_marker silent found),
      fun quiet => ?_⟩
    have shown : contains marker.1 outcome.output = true := by simpa using List.find?_some found
    rw [quiet _ (List.mem_of_find?_eq_some found)] at shown
    exact absurd shown Bool.false_ne_true

theorem not_isVerdict_overridingStatus? {exitCode : Int} {line : String} {status : Status}
    (overriding : overridingStatus? exitCode line = some status) : ¬status.IsVerdict := by
  rw [overridingStatus?] at overriding
  split_ifs at overriding <;> cases overriding <;> simp [Status.IsVerdict]

/-- What one more line leaves as it is: a status that is there and is no verdict. -/
theorem readLine_eq_some {exitCode : Int} {status : Status} (line : String)
    (noVerdict : ¬status.IsVerdict) :
    ∃ next, readLine exitCode (some status) line = some next ∧ ¬next.IsVerdict := by
  rw [readLine]
  rcases found : overridingStatus? exitCode line with _ | overriding
  · exact ⟨status, rfl, noVerdict⟩
  · exact ⟨overriding, rfl, not_isVerdict_overridingStatus? found⟩

theorem foldl_readLine_eq_some {exitCode : Int} (lines : List String) {status : Status}
    (noVerdict : ¬status.IsVerdict) :
    ∃ last, lines.foldl (readLine exitCode) (some status) = some last ∧ ¬last.IsVerdict := by
  induction lines generalizing status with
  | nil => exact ⟨status, rfl, noVerdict⟩
  | cons line lines ih =>
    obtain ⟨next, next_eq, noVerdict'⟩ := readLine_eq_some line noVerdict
    rw [List.foldl_cons, next_eq]
    exact ih noVerdict'

theorem exitStatus?_of_neg {exitCode : Int} (killed : exitCode < 0) :
    ∃ status, exitStatus? exitCode = some status ∧ ¬status.IsVerdict := by
  rw [exitStatus?, if_neg (by omega)]
  split_ifs <;> simp [Status.IsVerdict]

/-- A killed run of CPAchecker has a status from its exit code, and a line can only override
it by one that is no verdict. -/
theorem not_isVerdict_classifyCpachecker (limits : Limits) (killed : outcome.exitCode < 0) :
    ¬(classifyCpachecker outcome limits).IsVerdict := by
  rw [classifyCpachecker]
  split_ifs
  · simp [Status.IsVerdict]
  · obtain ⟨status, exit_eq, noVerdict⟩ := exitStatus?_of_neg killed
    obtain ⟨last, last_eq, noVerdict⟩ := foldl_readLine_eq_some (linesOf outcome.output) noVerdict
    rw [exit_eq, last_eq]
    exact noVerdict

theorem not_isVerdict_blastLine? {exitCode : Int} {line : String} {status : Status}
    (silent : (startsWith "Error found! The system is unsafe :-(" line ||
      startsWith "No error found.  The system is safe :-)" line) = false)
    (read : blastLine? exitCode line = some status) : ¬status.IsVerdict := by
  obtain ⟨noError, noSuccess⟩ := Bool.or_eq_false_iff.mp silent
  rw [blastLine?, if_neg (by simp [noError]), if_neg (by simp [noSuccess])] at read
  split_ifs at read <;> cases read <;> simp [Status.IsVerdict]

theorem not_isVerdict_classifyBlast (silent : blast.showsVerdict outcome.output = false) :
    ¬(classifyBlast outcome).IsVerdict := by
  rw [classifyBlast]
  rcases last : ((linesOf outcome.output).filterMap (blastLine? outcome.exitCode)).getLast? with
    _ | status
  · simp [Status.IsVerdict]
  · obtain ⟨line, among, read⟩ := List.mem_filterMap.mp (List.mem_of_getLast? last)
    rw [showsVerdict, List.any_eq_false] at silent
    exact not_isVerdict_blastLine? (by simpa using silent line among) read

/-! ### All tools -/

/-- **A killed run that shows no verdict text has no verdict**, whatever the tool, its options
and its limits, but for one case: it is never unsafe, and it is safe exactly when the tool is
ACSAR and its output has none of the texts that tell of trouble. -/
theorem classify_killed (tool : Verifier) (outcome : Outcome) (options : List String)
    (limits : Limits) (killed : outcome.exitCode < 0)
    (silent : tool.showsVerdict outcome.output = false) :
    (tool.classify outcome options limits).1 ≠ .violated ∧
      ((tool.classify outcome options limits).1 = .safe ↔
        tool = .acsar ∧
          ∀ marker ∈ acsarMarkers, contains marker.1 outcome.output = false) := by
  have plain : ∀ status : Status, tool ≠ .acsar → ¬status.IsVerdict →
      status ≠ .violated ∧ (status = .safe ↔ tool = .acsar ∧
        ∀ marker ∈ acsarMarkers, contains marker.1 outcome.output = false) :=
    fun status other verdict => ⟨fun given => verdict (Or.inr given),
      fun given => absurd (Or.inl given) verdict, fun given => absurd given.1 other⟩
  cases tool with
  | cbmc => exact plain _ (by simp) (not_isVerdict_classifyCbmc options killed)
  | satabs => exact plain _ (by simp) (not_isVerdict_classifySatAbs satabsCodes silent)
  | wolverine => exact plain _ (by simp) (not_isVerdict_classifySatAbs wolverineCodes silent)
  | acsar =>
    refine ⟨classifyAcsar_ne_violated silent, ?_⟩
    rw [classify, classifyAcsar_eq_safe_iff silent]
    exact ⟨fun given => ⟨rfl, given⟩, fun given => given.2⟩
  | cpachecker => exact plain _ (by simp) (not_isVerdict_classifyCpachecker limits killed)
  | blast => exact plain _ (by simp) (not_isVerdict_classifyBlast silent)

/-- A run of ACSAR that is killed, and tells so. -/
theorem classify_killed_of_signal :
    (-9 : Int) < 0 ∧ acsar.showsVerdict "searching\nreceived signal 15" = false ∧
      (acsar.classify ⟨-9, "searching\nreceived signal 15", {}, {}⟩ [] {}).1 ≠ .violated ∧
      (acsar.classify ⟨-9, "searching\nreceived signal 15", {}, {}⟩ [] {}).1 ≠ .safe := by
  have silent : acsar.showsVerdict "searching\nreceived signal 15" = false := by decide
  obtain ⟨notViolated, safe⟩ :=
    classify_killed .acsar ⟨-9, "searching\nreceived signal 15", {}, {}⟩ [] {} (by decide) silent
  refine ⟨by decide, silent, notViolated, fun isSafe => ?_⟩
  exact absurd ((safe.mp isSafe).2 ("received signal 15", .killed) (by decide)) (by decide)

/-- Not every killed run without a verdict text is without a verdict: ACSAR takes an output
that says nothing for safety, also when its run was killed at once. -/
theorem not_forall_killed_no_verdict :
    ¬∀ (tool : Verifier) (outcome : Outcome) (options : List String) (limits : Limits),
      outcome.exitCode < 0 → tool.showsVerdict outcome.output = false →
        (tool.classify outcome options limits).1 ≠ .safe ∧
          (tool.classify outcome options limits).1 ≠ .violated := by
  intro all
  exact (all .acsar ⟨-9, "", {}, {}⟩ [] {} (by decide) (by decide)).1 (by decide)

end Verifier

end VerifierTrials
