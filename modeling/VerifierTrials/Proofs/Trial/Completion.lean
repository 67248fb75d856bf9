import VerifierTrials.Proofs.Trial.Beginning
import VerifierTrials.Proofs.Trial.Parts

/-!
# Benchmarks that come to their end

A benchmark that comes to its end has filed what each of its tests has filed, one test after the
other, whatever their names are (`Trial.exists_completed`). From this its reports are read off: the
text report has the blocks of all tests, and a test with a name of its own finds in its other
reports what its own part has put there.
-/

namespace VerifierTrials.Trial

open FileTree

variable {σ : Type} {setup : Setup σ} {machine : Machine} {desk : Desk} {state : σ}

/-- **A benchmark that has been completed**, and what has been filed there. -/
structure Completed (setup : Setup σ) (journal : Journal) (q : List String) (header : String)
    (tests : List FinishedTest) (made files : FileTree) : Prop where
  tests_eq : tests.map FinishedTest.test = setup.benchmark.tests
  filings : journal.Filed q made files
    (startFilings setup journal q header ++ tests.flatMap (testFilings setup journal q))
  reported : ∀ test ∈ tests, TestReported setup journal q made test
  writable : ∀ test ∈ setup.benchmark.tests, setup.settings.selects test.name = true →
    journal.Writable test.name "csv"

/-- **A benchmark that comes to its end** is complete, and its tally is that of all runs. -/
theorem exists_completed {tally : Tally} (calm : Calm setup machine desk state)
    (ran : (run setup machine desk state).tally = .ok tally) :
    ∃ made q start tests final, BeginsIn setup machine desk state made q ∧
      Begun setup machine desk state start ∧ Went setup start tests final ∧
      Completed setup (journalOf setup machine desk state) q (headerOf setup machine desk state)
        tests made (run setup machine desk state).desk.tree ∧
      tests.map FinishedTest.number = List.range' 1 setup.benchmark.tests.length ∧
      tally = tallyAfter (Tally.ofMarks setup.settings.bugMarks)
        (tests.flatMap FinishedTest.runs) := by
  obtain ⟨start, final, begun, ranTests, files_eq, rfl⟩ := run_eq_ok ran
  obtain ⟨tests, tests_eq, numbers, went⟩ := runTests_went ranTests
  obtain ⟨journal_eq, made, q, begins, startFiled, writable⟩ := begun.filed_of_calm calm
  have state_eq : start.session.journal = (journalOf setup machine desk state).during none
      (Tally.ofMarks setup.settings.bugMarks) := journal_eq
  obtain ⟨final_eq, testsFiled, reported⟩ :=
    went.filed (calm.alone made q begins) state_eq startFiled.orderly
  refine ⟨made, q, start, tests, final, begins, begun, went, ⟨tests_eq, ?_,
    fun test within => (reported test within).of_alike startFiled.alike, writable⟩, numbers, ?_⟩
  · rw [files_eq]
    exact startFiled.append testsFiled
  · rw [final_eq]
    rfl

namespace Completed

variable {journal : Journal} {q : List String} {header : String} {tests : List FinishedTest}
  {made files : FileTree} {test : FinishedTest}

theorem mem_tests (completed : Completed setup journal q header tests made files)
    (within : test ∈ tests) : test.test ∈ setup.benchmark.tests := by
  rw [← completed.tests_eq]
  exact List.mem_map_of_mem within

/-- **A benchmark that is complete is in parts.** -/
theorem parted (completed : Completed setup journal q header tests made files) :
    Parted setup journal q header (tests.map (FinishedTest.part setup journal q)) made files where
  tests_eq := by
    rw [List.map_map]
    exact completed.tests_eq
  filings := by
    rw [List.flatMap_map]
    exact completed.filings
  parts := List.forall_mem_map.mpr fun test within => (completed.reported test within).isPart
  writable := completed.writable

/-- **The text report** has the blocks of all tests behind its header. -/
theorem text (completed : Completed setup journal q header tests made files) :
    files.read journal.textPath =
      .ok (Utf8.encode (header ++ String.join (tests.map (textOf setup journal)))) := by
  have orderly := completed.filings.orderly
  refine orderly.read (orderly.locate_iff.mp orderly.way).1 ?_
  rw [completed.filings.report, filed_append, filed_start_text,
    filed_tests_text completed.reported, Utf8.encode_append]

/-- The tab-separated report of a test with a name of its own. -/
theorem csv (completed : Completed setup journal q header tests made files)
    (within : test ∈ tests) (selected : setup.settings.selects test.test.name = true)
    (once : (setup.benchmark.tests.map Test.name).count test.test.name ≤ 1) :
    Lists journal files test.test test.runs := by
  have mem : test.part setup journal q ∈ tests.map (FinishedTest.part setup journal q) :=
    List.mem_map_of_mem within
  have lists := completed.parted.lists mem selected once rfl
  exact lists

/-- The XML report of a test with a name of its own. -/
theorem xml (completed : Completed setup journal q header tests made files)
    (within : test ∈ tests) (selected : setup.settings.selects test.test.name = true)
    (once : (setup.benchmark.tests.map Test.name).count test.test.name ≤ 1) :
    Documents journal files test.test test.runs test.times :=
  completed.parted.documents (List.mem_map_of_mem within) selected once

/-- The log of a run that no later run replaces. -/
theorem log (completed : Completed setup journal q header tests made files)
    {earlier after : List FinishedRun} {run : FinishedRun}
    (runs : tests.flatMap FinishedTest.runs = earlier ++ run :: after)
    (final : ∀ other ∈ after, other.log ≠ run.log) (inside : q <+: run.log) :
    files.contentAt run.log = some (Utf8.encode (Journal.logText run.report)) := by
  obtain ⟨test, within, among⟩ : ∃ test ∈ tests, run ∈ test.runs :=
    List.mem_flatMap.mp (runs ▸ by simp)
  have apart := ((completed.reported test within).runs run among).placeOf_ne
  rw [completed.filings.contents _ inside, filed_append,
    filed_tests_logs completed.reported apart, runs]
  exact filed_logs final

end Completed

end VerifierTrials.Trial
