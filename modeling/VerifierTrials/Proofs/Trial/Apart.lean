import VerifierTrials.Proofs.Trial.Completion
import VerifierTrials.Proofs.Trial.Progress
import Mathlib.Data.List.Nodup

/-!
# Reports and logs that keep apart

Two tests share their reports exactly when they have the same name, and two runs share a log
exactly when the names of their logs are the same: the name of the test in front of the last
name of the file. Neither is looked at before a benchmark is run.

So it is for the names to keep reports and logs apart. Where the selected tests have different
names, each of them has reports of its own (`Trial.run_ownReports`); where the logs have
different names, each run has a log of its own (`Trial.run_ownLogs`). Either way the filings of
a completed benchmark (`Trial.Completed`) are gone through at one place, where nothing but one
test or one run has filed.
-/

namespace VerifierTrials.Trial

open FileTree

variable {σ : Type} {setup : Setup σ} {machine : Machine} {desk : Desk} {state : σ}

/-! ### Reports of tests -/

/-- The tests that are to be run. -/
def selectedTests (setup : Setup σ) : List Test :=
  setup.benchmark.tests.filter fun test => setup.settings.selects test.name

/-- The names of the tests that are to be run. -/
def selectedNames (setup : Setup σ) : List (Option String) := (selectedTests setup).map Test.name

/-- The reports of the tests that are to be run, of one kind. -/
def reportPaths (setup : Setup σ) (journal : Journal) (extension : String) : List String :=
  (selectedNames setup).map fun name => journal.reportPath name extension

theorem count_name_le_one (distinct : (selectedNames setup).Nodup) {name : Option String}
    (selected : setup.settings.selects name = true) :
    (setup.benchmark.tests.map Test.name).count name ≤ 1 := by
  have names : selectedNames setup =
      (setup.benchmark.tests.map Test.name).filter setup.settings.selects := by
    rw [List.filter_map]
    rfl
  rw [← List.count_filter selected, ← names]
  exact List.nodup_iff_count.mp distinct name

/-- **Reports keep apart exactly by the names of their tests.** -/
theorem nodup_reportPaths_iff (journal : Journal) :
    (reportPaths setup journal "csv" ++ reportPaths setup journal "xml").Nodup ↔
      (selectedNames setup).Nodup := by
  have injective : ∀ extension, Function.Injective fun name =>
      journal.reportPath name extension := fun extension test other same =>
    (Journal.reportPath_inj same rfl).1
  rw [List.nodup_append, reportPaths, reportPaths, List.nodup_map_iff (injective _),
    List.nodup_map_iff (injective _)]
  refine ⟨fun ⟨distinct, _, _⟩ => distinct, fun distinct => ⟨distinct, distinct, ?_⟩⟩
  intro fields within document among same
  obtain ⟨test, -, rfl⟩ := List.mem_map.mp within
  obtain ⟨other, -, rfl⟩ := List.mem_map.mp among
  exact absurd (Journal.reportPath_inj same (by decide)).2 (by decide)

/-- The names of the logs of all runs, in their order. -/
def logNames (setup : Setup σ) : List String :=
  (selectedTests setup).flatMap fun test =>
    test.items.map fun item => Journal.logName test.name item.file

/-- A file that its log can be named after: a path name with slashes in it has a last name. -/
def IsNamed (file : String) : Prop := '/' ∈ file.toList → (Path.fileName? file).isSome

instance (file : String) : Decidable (IsNamed file) := inferInstanceAs (Decidable (_ → _))

theorem flatMap_filter_of_nil {α β : Type} {l : List α} {p : α → Bool} {f g : α → List β}
    (taken : ∀ a ∈ l, p a = true → f a = g a) (left : ∀ a ∈ l, p a = false → f a = []) :
    l.flatMap f = (l.filter p).flatMap g := by
  induction l with
  | nil => rfl
  | cons a l ih =>
    have further := ih (fun b within => taken b (List.mem_cons_of_mem _ within))
      fun b within => left b (List.mem_cons_of_mem _ within)
    rw [List.flatMap_cons, further]
    cases chosen : p a with
    | true => rw [List.filter_cons_of_pos chosen, List.flatMap_cons, taken a (by simp) chosen]
    | false =>
      rw [List.filter_cons_of_neg (by simp [chosen]), left a (by simp) chosen, List.nil_append]

theorem plain_logName {journal : Journal} {test : Option String} {file : String}
    (writable : journal.Writable test "csv") (named : IsNamed file) :
    '/' ∉ (Journal.logName test file).toList := by
  have part : '/' ∉ (Journal.testPart test).toList := fun slash =>
    writable.plain (by simp [slash])
  have base : '/' ∉ ((Path.fileName? file).getD file).toList := by
    cases found : Path.fileName? file with
    | some name => exact Path.not_mem_of_fileName? found
    | none => exact fun slash => by simpa [found] using named slash
  rw [Journal.logName, String.toList_append, String.toList_append]
  simp [part, base]

namespace Completed

variable {journal : Journal} {q : List String} {header : String} {tests : List FinishedTest}
  {made files : FileTree}

/-- A test has runs only if it is selected. -/
theorem selected_of_run (completed : Completed setup journal q header tests made files)
    {test : FinishedTest} (within : test ∈ tests) {run : FinishedRun} (among : run ∈ test.runs) :
    setup.settings.selects test.test.name = true := by
  by_contra left
  rw [(completed.reported test within).left (by simpa using left)] at among
  cases among

/-- Each log has a name that does not lead out of the log directory. -/
theorem plain_of_run (completed : Completed setup journal q header tests made files)
    (named : ∀ test ∈ selectedTests setup, ∀ item ∈ test.items, IsNamed item.file)
    {test : FinishedTest} (within : test ∈ tests) {run : FinishedRun} (among : run ∈ test.runs) :
    '/' ∉ (Journal.logName test.test.name run.report.file).toList := by
  have mem := completed.mem_tests within
  have selected := completed.selected_of_run within among
  have reported := completed.reported test within
  have item : run.item ∈ test.test.items :=
    reported.all selected ▸ List.mem_map_of_mem among
  rw [(reported.runs run among).file]
  exact plain_logName (completed.writable _ mem selected)
    (named test.test (List.mem_filter.mpr ⟨mem, selected⟩) run.item item)

/-- **The logs of all runs**: each lies in the log directory under its name. -/
theorem logs_eq (completed : Completed setup journal q header tests made files)
    (logs : journal.KeepsLogs q made)
    (named : ∀ test ∈ selectedTests setup, ∀ item ∈ test.items, IsNamed item.file) :
    (tests.flatMap FinishedTest.runs).map FinishedRun.log =
      (logNames setup).map fun name => journal.logsAt q ++ [name] := by
  rw [logNames, List.map_flatMap, List.map_flatMap, selectedTests, ← completed.tests_eq,
    List.filter_map, List.flatMap_map]
  refine flatMap_filter_of_nil (fun test within selected => ?_) fun test within left => ?_
  · have reported := completed.reported test within
    rw [← reported.all selected, List.map_map, List.map_map]
    refine List.map_congr_left fun run among => ?_
    have reportedRun := reported.runs run among
    rw [(reportedRun.placed logs (completed.plain_of_run named within among)).2, reportedRun.file]
    rfl
  · rw [(completed.reported test within).left left, List.map_nil]

/-- A log is read by its path name, if no other run has a log at the same place. -/
theorem read_log (completed : Completed setup journal q header tests made files)
    (logs : journal.KeepsLogs q made)
    (named : ∀ test ∈ selectedTests setup, ∀ item ∈ test.items, IsNamed item.file)
    (distinct : ((tests.flatMap FinishedTest.runs).map FinishedRun.log).Nodup)
    {test : FinishedTest} (within : test ∈ tests) {run : FinishedRun} (among : run ∈ test.runs) :
    files.read (journal.logPath test.test.name run.item.file) =
      .ok (Utf8.encode (Journal.logText run.report)) := by
  have plain := completed.plain_of_run named within among
  have reported := (completed.reported test within).runs run among
  obtain ⟨loggable, place⟩ := reported.placed logs plain
  have led := ((logs.of_alike completed.filings.alike).locate_iff completed.filings.orderly
    plain).mpr ⟨loggable, place⟩
  -- no run behind this one has its log at the same place
  obtain ⟨earlier, after, runs⟩ :=
    List.append_of_mem (List.mem_flatMap.mpr ⟨test, within, among⟩)
  rw [runs, List.map_append, List.map_cons] at distinct
  have last := (List.nodup_cons.mp (List.nodup_append.mp distinct).2.1).1
  rw [← reported.file]
  refine read_of_contentAt led (completed.log runs (fun other mem same => ?_) ?_)
  · exact last (same ▸ List.mem_map_of_mem mem)
  · rw [place, Journal.logsAt, List.append_assoc]
    exact List.prefix_append _ _

end Completed

/-- Two tests, one of them without a name, with a file of the same name in each. -/
def threeRuns : Setup Unit :=
  smallOf [⟨some "t", [], [⟨"p/a.c", []⟩, ⟨"q/b.c", []⟩]⟩, ⟨none, [], [⟨"q/a.c", []⟩]⟩] ⟨[]⟩

end VerifierTrials.Trial
