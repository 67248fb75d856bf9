import VerifierTrials.Proofs.Trial.Agreement
import VerifierTrials.Proofs.Trial.Completion
import VerifierTrials.Proofs.Trial.Progress

/-!
# The reports of a benchmark

When an undisturbed benchmark comes to its end, its reports tell what it has done
(`Trial.run_reports`). The course of the benchmark gives a list of tests with their runs, the
same for all reports, and each report is a text made from that list: the text report of all
tests, the tab-separated and the XML report of each selected test, and the tally of all runs. What
the three reports show of a run is the same.
-/

namespace VerifierTrials.Trial

open FileTree

variable {σ : Type} {setup : Setup σ} {machine : Machine} {desk : Desk} {state : σ}

/-- **The reports of a benchmark.** The times of a test are those that the clocks of the host have
shown for it (`Went`), and each run is shown alike in all of its reports. -/
theorem run_reports {tally : Tally} (undisturbed : Undisturbed setup machine desk state)
    (ran : (run setup machine desk state).tally = .ok tally) :
    ∃ start tests final, Begun setup machine desk state start ∧ Went setup start tests final ∧
      tests.map FinishedTest.test = setup.benchmark.tests ∧
      tests.map FinishedTest.number = List.range' 1 setup.benchmark.tests.length ∧
      let journal := journalOf setup machine desk state
      let files := (run setup machine desk state).desk.tree
      files.read journal.textPath = .ok (Utf8.encode (headerOf setup machine desk state ++
        String.join (tests.map (textOf setup journal)))) ∧
      (∀ test ∈ tests, setup.settings.selects test.test.name = true →
        test.runs.map FinishedRun.item = test.test.items ∧
        files.read (journal.reportPath test.test.name "csv") =
          .ok (Utf8.encode (Separated.header journal.titles ++ linesOf journal test.runs)) ∧
        files.read (journal.reportPath test.test.name "xml") =
          .ok (Utf8.encode (documentAfter journal test.test test.runs test.times).text) ∧
        ∃ root, Xml.tree (documentAfter journal test.test test.runs test.times).text = .ok root ∧
          List.Forall₂ (fun run element =>
              ShownAlike journal (journal.tableOf test.test) run.report element)
            test.runs (root.childrenNamed "sourcefile")) ∧
      (∀ test ∈ tests, ∀ run ∈ test.runs, run.report.file = run.item.file ∧
        run.report.cells.map Cell.title = journal.titles) ∧
      tally = tallyAfter (Tally.ofMarks setup.settings.bugMarks)
        (tests.flatMap FinishedTest.runs) := by
  obtain ⟨made, q, start, tests, final, -, begun, went, completed, numbers, tally_eq⟩ :=
    exists_completed undisturbed.calm ran
  have once := List.nodup_iff_count.mp undisturbed.distinct
  have reported : ∀ test ∈ tests, ∀ run ∈ test.runs, run.report.file = run.item.file ∧
      run.report.cells.map Cell.title = (journalOf setup machine desk state).titles := by
    intro test within run among
    have shown := (completed.reported test within).runs run among
    exact ⟨shown.file, shown.titles⟩
  refine ⟨start, tests, final, begun, went, completed.tests_eq, numbers, completed.text,
    fun test within selected => ?_, reported, tally_eq⟩
  exact ⟨(completed.reported test within).all selected, completed.csv within selected (once _),
    completed.xml within selected (once _),
    exists_shownAlike test.times fun run among => (reported test within run among).2⟩

/-! ### Two tests on a host whose clocks go on -/

/-- Clocks that go on whenever they are read, by one second on the CPU and by two by the clock. -/
def ticking : Nat → Times × Nat := fun n => (⟨⟨n, 0⟩, ⟨2 * n, 0⟩⟩, n + 1)

/-- What goes by from one reading to the next one. -/
def tick : Times := ⟨⟨1, 0⟩, ⟨2, 0⟩⟩

theorem since_ticking (n : Nat) : (ticking (n + 1)).1.since (ticking n).1 = tick := by
  have cpu : (Span.mk (n + 1) 0).inNanoseconds - (Span.mk n 0).inNanoseconds = 1000000000 := by
    simp only [Span.inNanoseconds]
    omega
  have wall : (Span.mk (2 * (n + 1)) 0).inNanoseconds - (Span.mk (2 * n) 0).inNanoseconds =
      2000000000 := by
    simp only [Span.inNanoseconds]
    omega
  simp only [ticking, Times.since, Span.since, cpu, wall]
  rfl

section Ticking

variable {result : List String → Except BenchmarkError Outcome} {tests : List Test}
  {only : Option String} {environment : Environment} {test : Test} {trial final : Trial Nat}

/-- The runs of a test do not read the clocks. -/
theorem Ran.state_eq {runs : List FinishedRun}
    (ran : Ran (smallOn result ticking tests only environment) test trial runs final) :
    final.state = trial.state := by
  induction ran with
  | nil => rfl
  | next beginning running _ telling _ ih =>
    rw [ih, state_report telling, state_of_runItem running, state_report beginning]

/-- Each test takes as long as it is between two readings. -/
theorem Went.times_eq {finished : List FinishedTest}
    (went : Went (smallOn result ticking tests only environment) trial finished final)
    {test : FinishedTest} (within : test ∈ finished)
    (selected : Settings.selects { only } test.test.name = true) : test.times = tick := by
  induction went with
  | nil => cases within
  | skipped leaving _ _ ih =>
    rcases List.mem_cons.mp within with rfl | within
    · cases selected.symm.trans leaving
    · exact ih within
  | @tested trial opened ended _ _ _ _ _ _ _ opening running _ _ _ ih =>
    rcases List.mem_cons.mp within with rfl | within
    · have next : ended.state = trial.state + 1 := running.state_eq.trans (state_report opening)
      change (ticking ended.state).1.since (ticking trial.state).1 = tick
      rw [next, since_ticking]
    · exact ih within

end Ticking

/-- Two tests with two sources each. -/
def pairTests : List Test :=
  [⟨some "t", [], [⟨"p/a.c", []⟩, ⟨"p/b.c", []⟩]⟩, ⟨none, [], [⟨"p/c.c", []⟩, ⟨"p/d.c", []⟩]⟩]

/-- What a tool comes to that fails on one of the sources. -/
def verdictOn (words : List String) : Except BenchmarkError Outcome :=
  .ok { exitCode := 0
        output := if words.getLast? = some "p/b.c" then "VERIFICATION FAILED"
          else "VERIFICATION SUCCESSFUL" }

/-- Both tests are run, or one of them is left out; the clocks go on by a tick for each test. -/
theorem run_reports_small :
    (∃ (tally : Tally) (tests : List FinishedTest),
      let setup := smallOn verdictOn ticking pairTests none ⟨[]⟩
      let journal := journalOf setup smallMachine smallDesk 0
      let result := run setup smallMachine smallDesk 0
      Undisturbed setup smallMachine smallDesk 0 ∧ result.tally = .ok tally ∧
        tests.map FinishedTest.test = pairTests ∧
        result.desk.tree.read journal.textPath = .ok (Utf8.encode
          (headerOf setup smallMachine smallDesk 0 ++
            String.join (tests.map (textOf setup journal)))) ∧
        ∀ test ∈ tests, test.times = tick ∧ test.runs.map FinishedRun.item = test.test.items ∧
          result.desk.tree.read (journal.reportPath test.test.name "csv") =
            .ok (Utf8.encode (Separated.header journal.titles ++ linesOf journal test.runs)) ∧
          result.desk.tree.read (journal.reportPath test.test.name "xml") =
            .ok (Utf8.encode (documentAfter journal test.test test.runs tick).text)) ∧
    ∃ (tally : Tally) (test : FinishedTest),
      let setup := smallOn verdictOn ticking pairTests (some "t") ⟨[]⟩
      let journal := journalOf setup smallMachine smallDesk 0
      let result := run setup smallMachine smallDesk 0
      Undisturbed setup smallMachine smallDesk 0 ∧ result.tally = .ok tally ∧
        test.times = tick ∧ test.runs.map FinishedRun.item = [⟨"p/a.c", []⟩, ⟨"p/b.c", []⟩] ∧
        result.desk.tree.read journal.textPath = .ok (Utf8.encode
          (headerOf setup smallMachine smallDesk 0 ++
            (textOf setup journal test ++ Table.skipped none 2 2))) := by
  have short : ∀ test ∈ pairTests, isShort test = true := by decide
  have clean : ∀ test ∈ pairTests, isClean ⟨[]⟩ test = true := by decide
  have distinct : (pairTests.map Test.name).Nodup := by decide
  constructor
  · obtain ⟨tally, done⟩ := @run_smallOn_ok Nat 0 verdictOn ticking pairTests none ⟨[]⟩ short clean
      fun _ _ _ _ => rfl
    obtain ⟨start, tests, final, -, went, tests_eq, -, text, reports, -, -⟩ :=
      run_reports (undisturbed_smallOn distinct) done
    refine ⟨tally, tests, undisturbed_smallOn distinct, done, tests_eq, text,
      fun test within => ?_⟩
    have times := went.times_eq within rfl
    obtain ⟨items, fields, document, -⟩ := reports test within rfl
    exact ⟨times, items, fields, times ▸ document⟩
  · obtain ⟨tally, done⟩ := @run_smallOn_ok Nat 0 verdictOn ticking pairTests (some "t") ⟨[]⟩ short
      clean fun _ _ _ _ => rfl
    obtain ⟨start, tests, final, -, went, tests_eq, numbers, text, reports, -, -⟩ :=
      run_reports (undisturbed_smallOn distinct) done
    -- one test is over, and the other one has been left out
    obtain ⟨first, rest, rfl, first_eq, rest_eq⟩ := List.map_eq_cons_iff.mp tests_eq
    obtain ⟨second, rest, rfl, second_eq, rest_eq⟩ := List.map_eq_cons_iff.mp rest_eq
    obtain rfl := List.map_eq_nil_iff.mp rest_eq
    obtain ⟨-, second_number⟩ : first.number = 1 ∧ second.number = 2 := by
      simpa [smallOn, pairTests, List.range'] using numbers
    have selected : Settings.selects { only := some "t" } first.test.name = true := by
      rw [first_eq]
      decide
    obtain ⟨items, -⟩ := reports first List.mem_cons_self selected
    refine ⟨tally, first, undisturbed_smallOn distinct, done,
      went.times_eq List.mem_cons_self selected, ?_, ?_⟩
    · rw [items, first_eq]
    · have skipped : textOf (smallOn verdictOn ticking pairTests (some "t") ⟨[]⟩)
          (journalOf (smallOn verdictOn ticking pairTests (some "t") ⟨[]⟩) smallMachine smallDesk 0)
          second = Table.skipped none 2 2 := by
        rw [textOf, second_eq, second_number]
        rfl
      rw [text, List.map_cons, List.map_cons, List.map_nil, skipped, String.join_cons,
        String.join_cons, String.join_nil, String.append_empty]

end VerifierTrials.Trial
