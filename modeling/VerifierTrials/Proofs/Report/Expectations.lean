import VerifierTrials.Proofs.Report.Counts
import VerifierTrials.Proofs.Text.Basic
import VerifierTrials.Proofs.Text.LowerCase

/-!
# What the directory of a file promises

Whether a file promises a bug is looked up in its whole path name. A slash keeps the lower case of
what stands on its two sides apart, and so a mark is found in the directory, or in the rest of the
path name, or it has a slash itself and lies across this one (`Tally.expectsBug_slash`).

A directory with a mark in its own name therefore makes every file below it promise a bug. What this
does to a tally is said of results under other names (`Tally.renamed`): names that promise the same
are counted the same (`Tally.after_renamed_congr`), and where all of them promise a bug, every safe
verdict is a wrong one and every other verdict a right one (`Tally.counter_after_renamed`). The main
statement, `Tally.expectsBug_within`, is about a source tree that is moved into a directory.
-/

namespace VerifierTrials

open VerifierTrials.Text

namespace Tally

variable {tally : Tally} {directory file : String}

theorem expectsBug_iff : tally.expectsBug file = true ↔
    ∃ mark ∈ tally.marks, mark.toList <:+: (lowerCase file).toList := by
  simp only [expectsBug, List.any_eq_true, contains_iff]

/-- **A mark across the slash** that a file has its directory in front of. -/
def Straddles (tally : Tally) (directory file : String) : Prop :=
  ∃ mark ∈ tally.marks, ∃ before after, mark.toList = before ++ '/' :: after ∧
    before <:+ (lowerCase directory).toList ∧ after <+: (lowerCase file).toList

/-- **What a file in a directory promises**: what the directory does, and what the file does, and
no more than that unless a mark has a slash in it. -/
theorem expectsBug_slash : tally.expectsBug (directory ++ "/" ++ file) = true ↔
    tally.expectsBug directory = true ∨ tally.expectsBug file = true ∨
      tally.Straddles directory file := by
  simp only [expectsBug_iff, Straddles, toList_lowerCase_slash, infix_separator_iff]
  constructor
  · rintro ⟨mark, among, left | right | across⟩
    · exact .inl ⟨mark, among, left⟩
    · exact .inr (.inl ⟨mark, among, right⟩)
    · exact .inr (.inr ⟨mark, among, across⟩)
  · rintro (⟨mark, among, left⟩ | ⟨mark, among, right⟩ | ⟨mark, among, across⟩)
    · exact ⟨mark, among, .inl left⟩
    · exact ⟨mark, among, .inr (.inl right)⟩
    · exact ⟨mark, among, .inr (.inr across)⟩

/-- A mark without a slash does not reach across one. -/
theorem not_straddles {marks : List String} (plain : ∀ mark ∈ marks, '/' ∉ mark.toList)
    (directory file : String) : ¬(ofMarks marks).Straddles directory file := by
  rintro ⟨lower, among, before, after, parts, -⟩
  obtain ⟨mark, given, rfl⟩ := List.mem_map.mp among
  refine plain mark given ((mem_lowerCase_slash mark).mp ?_)
  rw [parts]
  simp

/-- **Without slashes in marks**, directory and file are searched by themselves. -/
theorem expectsBug_slash_of_plain {marks : List String} (plain : ∀ mark ∈ marks, '/' ∉ mark.toList)
    (directory file : String) : (ofMarks marks).expectsBug (directory ++ "/" ++ file) =
      ((ofMarks marks).expectsBug directory || (ofMarks marks).expectsBug file) := by
  have across : ¬(ofMarks marks).Straddles directory file := not_straddles plain directory file
  rw [Bool.eq_iff_iff, expectsBug_slash, Bool.or_eq_true]
  simp only [across, or_false]

/-! ### Results of files that are moved -/

/-- **Results under other names.** -/
def renamed (name : String → String) (results : List (String × Status)) :
    List (String × Status) :=
  results.map fun result => (name result.1, result.2)

/-- The results of a source tree that has been moved into a directory. -/
def moved (directory : String) : List (String × Status) → List (String × Status) :=
  renamed (directory ++ "/" ++ ·)

/-- Names that promise the same are counted the same. -/
theorem after_renamed_congr {name other : String → String} {results : List (String × Status)}
    (same : ∀ result ∈ results,
      tally.expectsBug (name result.1) = tally.expectsBug (other result.1)) :
    tally.after (renamed name results) = tally.after (renamed other results) := by
  refine ext_counter ?_ ?_ fun cls => ?_
  · rw [marks_after, marks_after]
  · rw [total_after, total_after, renamed, renamed, List.length_map, List.length_map]
  · rw [counter_after, counter_after, renamed, renamed, List.countP_map, List.countP_map]
    refine congrArg _ (List.countP_congr fun result among => ?_)
    rw [Function.comp, Function.comp, classOf, classOf, same result among]

/-- Names that all promise a bug. -/
theorem counter_after_renamed {name : String → String}
    (promised : ∀ file, tally.expectsBug (name file) = true) (results : List (String × Status))
    (cls : Class) :
    (tally.after (renamed name results)).counter cls =
      tally.counter cls + results.countP fun result => Class.of result.2 true = cls := by
  rw [counter_after, renamed, List.countP_map]
  refine congrArg _ (congrArg (List.countP · results) (funext fun result => ?_))
  rw [Function.comp, classOf, promised]

/-- A file that promises a bug is counted by its verdict alone. -/
theorem of_promised_iff {status : Status} :
    (Class.of status true = .wrongSafe ↔ status = .safe) ∧
      (Class.of status true = .correctViolated ↔ status = .violated) ∧
      Class.of status true ≠ .correctSafe ∧ Class.of status true ≠ .wrongViolated := by
  by_cases safe : status = .safe
  · subst safe
    decide
  · by_cases violated : status = .violated
    · subst violated
      decide
    · simp [Class.of, safe, violated]

/-- **Below a directory that promises a bug**, no safe verdict is right, and no verdict of a
violation is wrong. -/
theorem after_moved_of_promised {marks : List String}
    (promised : (ofMarks marks).expectsBug directory = true) (results : List (String × Status)) :
    let after := (ofMarks marks).after (moved directory results)
    after.correctSafe = 0 ∧ after.wrongViolated = 0 ∧
      after.wrongSafe = results.countP (fun result => result.2 = .safe) ∧
      after.correctViolated = results.countP fun result => result.2 = .violated := by
  have counted : ∀ cls, ((ofMarks marks).after (moved directory results)).counter cls =
      results.countP fun result => Class.of result.2 true = cls := fun cls => by
    rw [moved, counter_after_renamed fun file => expectsBug_slash.mpr (.inl promised)]
    cases cls <;> exact Nat.zero_add _
  refine ⟨(counted .correctSafe).trans ?_, (counted .wrongViolated).trans ?_,
    (counted .wrongSafe).trans ?_, (counted .correctViolated).trans ?_⟩
  · exact List.countP_eq_zero.mpr fun result _ => by simp [of_promised_iff.2.2.1]
  · exact List.countP_eq_zero.mpr fun result _ => by simp [of_promised_iff.2.2.2]
  · exact List.countP_congr fun result _ => by simp [of_promised_iff.1]
  · exact List.countP_congr fun result _ => by simp [of_promised_iff.2.1]

/-- **What moving a source tree into a directory does to a tally.** A file promises a bug there if
the directory does, or if it does by itself, or if a mark lies across the slash between them. The
tally stays the same if no file promises a bug that does not do so by itself; but if the directory
does, each safe verdict is counted as wrong and each verdict of a violation as right, whatever the
files are called. Among directories, as long as no mark has a slash, it only matters whether they
promise a bug. -/
theorem expectsBug_within (marks : List String) (directory : String) :
    let tally : Tally := ofMarks marks
    (∀ file, tally.expectsBug (directory ++ "/" ++ file) = true ↔
      tally.expectsBug directory = true ∨ tally.expectsBug file = true ∨
        tally.Straddles directory file) ∧
    (∀ results : List (String × Status),
      (∀ result ∈ results, tally.expectsBug (directory ++ "/" ++ result.1) = true →
        tally.expectsBug result.1 = true) →
      tally.after (moved directory results) = tally.after results) ∧
    (tally.expectsBug directory = true → ∀ results,
      let after := tally.after (moved directory results)
      after.correctSafe = 0 ∧ after.wrongViolated = 0 ∧
        after.wrongSafe = results.countP (fun result => result.2 = .safe) ∧
        after.correctViolated = results.countP fun result => result.2 = .violated) ∧
    ((∀ mark ∈ marks, '/' ∉ mark.toList) →
      (∀ file, tally.expectsBug (directory ++ "/" ++ file) =
        (tally.expectsBug directory || tally.expectsBug file)) ∧
      ∀ other, tally.expectsBug other = tally.expectsBug directory → ∀ results,
        tally.after (moved other results) = tally.after (moved directory results)) := by
  intro tally
  have unnamed : ∀ results, renamed id results = results := fun results => List.map_id _
  refine ⟨fun file => expectsBug_slash, fun results kept => ?_, after_moved_of_promised,
    fun plain => ⟨expectsBug_slash_of_plain plain directory, fun other same results => ?_⟩⟩
  · rw [moved, ← unnamed results, after_renamed_congr, unnamed]
    intro result among
    rw [unnamed] at among
    exact Bool.eq_iff_iff.mpr
      ⟨kept result among, fun own => expectsBug_slash.mpr (.inr (.inl own))⟩
  · refine after_renamed_congr fun result _ => ?_
    rw [expectsBug_slash_of_plain plain, expectsBug_slash_of_plain plain]
    exact congrArg (· || _) same

/-- Two files of which neither promises a bug, below a directory that does and below two that do
not. -/
theorem expectsBug_within_debug :
    let tally := ofMarks ["bug", "unsafe"]
    let results := [("a.c", Status.safe), ("b.c", Status.violated)]
    (tally.after (moved "debug" results)).wrongSafe = 1 ∧
      (tally.after (moved "debug" results)).correctViolated = 1 ∧
      tally.after (moved "src" results) = tally.after results ∧
      tally.after (moved "lib" results) = tally.after (moved "src" results) := by
  intro tally results
  obtain ⟨-, -, promised, -⟩ := expectsBug_within ["bug", "unsafe"] "debug"
  obtain ⟨-, -, wrong, right⟩ := promised (by decide) results
  obtain ⟨-, kept, -, plain⟩ := expectsBug_within ["bug", "unsafe"] "src"
  obtain ⟨-, same⟩ := plain (by decide)
  exact ⟨wrong, right, kept results (by decide), same "lib" (by decide) results⟩

/-- A file is not judged by its name alone: below a directory for debugging, every file promises a
bug. -/
theorem not_forall_expectsBug_name : ¬∀ (marks : List String) (directory file : String),
    '/' ∉ file.toList → (ofMarks marks).expectsBug (directory ++ "/" ++ file) =
      (ofMarks marks).expectsBug file := by
  intro all
  exact absurd (all ["bug", "unsafe"] "debug" "a.c" (by decide)) (by decide)

end Tally

end VerifierTrials
