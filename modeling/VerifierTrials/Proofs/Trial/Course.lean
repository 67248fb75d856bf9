import VerifierTrials.Proofs.Report.Steps
import VerifierTrials.Trial.Benchmark

/-!
# The course of a benchmark

What a benchmark has done, as data: the runs of a test that are over (`FinishedRun`), and the
tests that are over or have been left out (`FinishedTest`), with the times that the clocks have
shown for them. That they have been done, one after the other, is told by two relations, `Ran` for
runs and `Went` for tests, with a constructor for each thing that the loops over runs and tests may
do.

A loop that comes to its end has gone through all of its list (`runTests_went`). One that fails has
gone through the list up to one test, which fails at one of its steps (`TestFailed`,
`runTests_failed`). If the benchmark is stopped, this step is a run (`runTests_stopped`).
-/

namespace VerifierTrials.Trial

variable {σ : Type}

/-! ### Runs -/

/-- **A run that is over.** -/
structure FinishedRun where
  item : WorkItem
  report : RunReport
  /-- The place of its log. -/
  log : List String

/-- Where the log of a run goes. -/
def LogsAt (trial : Trial σ) (run : RunReport) (place : List String) : Prop :=
  ∃ test, trial.session.journal.openTest? = some test ∧
    trial.tree.locate true (trial.session.journal.logPath test.name run.file) = .ok place

/-- **Runs of a test, one after the other**, from a trial to another one. -/
inductive Ran (setup : Setup σ) (test : Test) : Trial σ → List FinishedRun → Trial σ → Prop
  | nil {trial : Trial σ} : Ran setup test trial [] trial
  | next {trial begun ended told final : Trial σ} {run : FinishedRun} {runs : List FinishedRun}
      (beginning : (report (Journal.beforeRun run.item.file)).run trial = .ok () begun)
      (running : (runItem setup test run.item).run begun = .ok run.report ended)
      (logging : LogsAt ended run.report run.log)
      (telling : (report (Journal.afterRun run.report run.item.options)).run ended = .ok () told)
      (further : Ran setup test told runs final) :
      Ran setup test trial (run :: runs) final

/-- **A run that stops the benchmark.** -/
def StopsAt (setup : Setup σ) (test : Test) (item : WorkItem) (cause : BenchmarkError)
    (trial final : Trial σ) : Prop :=
  ∃ begun, (report (Journal.beforeRun item.file)).run trial = .ok () begun ∧
    (runItem setup test item).run begun = .error (.stopped cause) final

/-- **A run at which a test fails**: it stops the benchmark, or it is over and cannot be written
down. -/
inductive FailsAt (setup : Setup σ) (test : Test) (item : WorkItem) (failure : Failure)
    (trial final : Trial σ) : Prop
  | stopped {begun : Trial σ}
    (beginning : (report (Journal.beforeRun item.file)).run trial = .ok () begun)
    (failed : (runItem setup test item).run begun = .error failure final) :
    FailsAt setup test item failure trial final
  | unwritten {begun ended : Trial σ} {run : RunReport}
    (beginning : (report (Journal.beforeRun item.file)).run trial = .ok () begun)
    (running : (runItem setup test item).run begun = .ok run ended)
    (failed : (report (Journal.afterRun run item.options)).run ended = .error failure final) :
    FailsAt setup test item failure trial final

/-! ### Clocks -/

/-- What the clocks show. -/
def clocksAt (setup : Setup σ) (trial : Trial σ) : Times := (setup.host.clocks trial.state).1

/-- A trial in which the clocks have been read. -/
def afterClocks (setup : Setup σ) (trial : Trial σ) : Trial σ :=
  { trial with state := (setup.host.clocks trial.state).2 }

theorem readClocks_run (setup : Setup σ) (trial : Trial σ) :
    (readClocks setup).run trial = .ok (clocksAt setup trial) (afterClocks setup trial) :=
  rfl

/-- **The times of a test**: those between the reading of the clocks before it and the one behind
its last run. -/
def timesOf (setup : Setup σ) (trial ended : Trial σ) : Times :=
  (clocksAt setup ended).since (clocksAt setup trial)

/-! ### Tests -/

/-- **A test that is over**, or has been left out. -/
structure FinishedTest where
  number : Nat
  test : Test
  runs : List FinishedRun := []
  /-- The times that it is reported with, if it is over. -/
  times : Times := {}

/-- The step that closes a test. -/
def closeTest (times : Times) : Reporting Unit := Journal.afterTest times.cpuTime times.wallTime

/-- **Tests, one after the other**, from a trial to another one. -/
inductive Went (setup : Setup σ) : Trial σ → List FinishedTest → Trial σ → Prop
  | nil {trial : Trial σ} : Went setup trial [] trial
  | skipped {trial left final : Trial σ} {number : Nat} {test : Test} {tests : List FinishedTest}
      (leaving : setup.settings.selects test.name = false)
      (skipping : (report (Journal.skipTest number test)).run trial = .ok () left)
      (further : Went setup left tests final) :
      Went setup trial (⟨number, test, [], {}⟩ :: tests) final
  | tested {trial opened ended closed final : Trial σ} {number : Nat} {test : Test}
      {runs : List FinishedRun} {tests : List FinishedTest}
      (selecting : setup.settings.selects test.name = true)
      (opening : (report (Journal.beforeTest number test)).run (afterClocks setup trial) =
        .ok () opened)
      (running : Ran setup test opened runs ended)
      (all : runs.map FinishedRun.item = test.items)
      (closing : (report (closeTest (timesOf setup trial ended))).run (afterClocks setup ended) =
        .ok () closed)
      (further : Went setup closed tests final) :
      Went setup trial (⟨number, test, runs, timesOf setup trial ended⟩ :: tests) final

/-! ### Inversion -/

variable {setup : Setup σ} {test : Test} {trial final : Trial σ}

theorem report_run {α : Type} (action : Reporting α) (trial : Trial σ) :
    (report action).run trial =
      match action.run trial.session with
      | .ok value session => .ok value { trial with session }
      | .error cause session => .error (.unreported cause) { trial with session } :=
  rfl

theorem report_eq_ok {α : Type} {action : Reporting α} {a : α}
    (ran : (report action).run trial = .ok a final) :
    action.run trial.session = .ok a final.session := by
  rw [report_run] at ran
  split at ran
  next value session done => cases ran; exact done
  next => cases ran

/-- A report changes nothing on the host. -/
theorem state_report {α : Type} {action : Reporting α} {a : α}
    (ran : (report action).run trial = .ok a final) : final.state = trial.state := by
  rw [report_run] at ran
  split at ran
  next value session done => cases ran; rfl
  next => cases ran

theorem report_eq_error {α : Type} {action : Reporting α} {failure : Failure}
    (ran : (report action).run trial = .error failure final) :
    ∃ cause, failure = .unreported cause ∧
      action.run trial.session = .error cause final.session := by
  rw [report_run] at ran
  split at ran
  next => cases ran
  next cause session failed => cases ran; exact ⟨cause, rfl, failed⟩

/-- A report that cannot be written does not stop the tool. -/
theorem report_ne_stopped {α : Type} {action : Reporting α} {cause : BenchmarkError} :
    (report action).run trial ≠ .error (.stopped cause) final := by
  intro ran
  obtain ⟨_, impossible, -⟩ := report_eq_error ran
  cases impossible

/-- The beginning of a run is only shown, which does not fail. -/
theorem report_beforeRun_ne {file : String} {failure : Failure} :
    (report (Journal.beforeRun file)).run trial ≠ .error failure final := by
  intro ran
  obtain ⟨_, -, impossible⟩ := report_eq_error ran
  cases impossible

/-- A run that has been written down has a log. -/
theorem exists_logsAt {run : RunReport} {options : List ToolOption}
    (telling : (report (Journal.afterRun run options)).run trial = .ok () final) :
    ∃ log, LogsAt trial run log := by
  obtain ⟨test, current, log, led⟩ := Journal.afterRun_located (report_eq_ok telling)
  exact ⟨log, test, current, led⟩

theorem runItems_ran {items : List WorkItem}
    (ran : (runItems setup test items).run trial = .ok () final) :
    ∃ runs, runs.map FinishedRun.item = items ∧ Ran setup test trial runs final := by
  induction items generalizing trial with
  | nil => cases ran; exact ⟨[], rfl, .nil⟩
  | cons item items ih =>
    rw [runItems] at ran
    obtain ⟨_, begun, beginning, ran⟩ := run_bind_eq_ok ran
    obtain ⟨run, ended, running, ran⟩ := run_bind_eq_ok ran
    obtain ⟨_, told, telling, further⟩ := run_bind_eq_ok ran
    have ⟨log, logging⟩ := exists_logsAt telling
    obtain ⟨runs, rfl, rest⟩ := ih further
    exact ⟨⟨item, run, log⟩ :: runs, rfl, .next beginning running logging telling rest⟩

theorem runItems_failed {items : List WorkItem} {failure : Failure}
    (ran : (runItems setup test items).run trial = .error failure final) :
    ∃ runs item rest middle, items = runs.map FinishedRun.item ++ item :: rest ∧
      Ran setup test trial runs middle ∧ FailsAt setup test item failure middle final := by
  induction items generalizing trial with
  | nil => cases ran
  | cons item items ih =>
    rw [runItems] at ran
    rcases run_bind_eq_error ran with failed | ⟨_, begun, beginning, ran⟩
    · exact absurd failed report_beforeRun_ne
    rcases run_bind_eq_error ran with failed | ⟨run, ended, running, ran⟩
    · exact ⟨[], item, items, trial, rfl, .nil, .stopped beginning failed⟩
    rcases run_bind_eq_error ran with failed | ⟨_, told, telling, further⟩
    · exact ⟨[], item, items, trial, rfl, .nil, .unwritten beginning running failed⟩
    have ⟨log, logging⟩ := exists_logsAt telling
    obtain ⟨runs, last, left, middle, rfl, rest, fails⟩ := ih further
    exact ⟨⟨item, run, log⟩ :: runs, last, left, middle, rfl,
      .next beginning running logging telling rest, fails⟩

theorem runTest_went {number : Nat} (selected : setup.settings.selects test.name = true)
    (ran : (runTest setup number test).run trial = .ok () final) :
    ∃ runs times, runs.map FinishedRun.item = test.items ∧
      ∀ {tests last}, Went setup final tests last →
        Went setup trial (⟨number, test, runs, times⟩ :: tests) last := by
  rw [runTest] at ran
  obtain ⟨_, _, before, ran⟩ := run_bind_eq_ok ran
  cases before
  obtain ⟨_, opened, opening, ran⟩ := run_bind_eq_ok ran
  obtain ⟨_, ended, running, ran⟩ := run_bind_eq_ok ran
  obtain ⟨_, _, after, closing⟩ := run_bind_eq_ok ran
  cases after
  obtain ⟨runs, all, went⟩ := runItems_ran running
  exact ⟨runs, timesOf setup trial ended, all,
    fun further => .tested selected opening went all closing further⟩

theorem runTests_went {tests : List Test} {number : Nat}
    (ran : (runTests setup number tests).run trial = .ok () final) :
    ∃ finished, finished.map FinishedTest.test = tests ∧
      finished.map FinishedTest.number = List.range' number tests.length ∧
      Went setup trial finished final := by
  induction tests generalizing trial number with
  | nil => cases ran; exact ⟨[], rfl, rfl, .nil⟩
  | cons test tests ih =>
    rw [runTests] at ran
    split at ran
    next selected =>
      obtain ⟨_, middle, first, ran⟩ := run_bind_eq_ok ran
      obtain ⟨runs, times, all, went⟩ := runTest_went selected first
      obtain ⟨finished, rfl, numbers, further⟩ := ih ran
      refine ⟨⟨number, test, runs, times⟩ :: finished, rfl, ?_, went further⟩
      rw [List.map_cons, numbers, List.length_cons, List.range'_succ]
    next left =>
      obtain ⟨_, middle, first, ran⟩ := run_bind_eq_ok ran
      obtain ⟨finished, rfl, numbers, further⟩ := ih ran
      refine ⟨⟨number, test, [], {}⟩ :: finished, rfl, ?_,
        .skipped (by simpa using left) first further⟩
      rw [List.map_cons, numbers, List.length_cons, List.range'_succ]

theorem Ran.exists_runItem {runs : List FinishedRun} (ran : Ran setup test trial runs final)
    {run : FinishedRun} (among : run ∈ runs) :
    ∃ begun ended, (runItem setup test run.item).run begun = .ok run.report ended := by
  induction ran with
  | nil => cases among
  | next _ running _ _ _ ih =>
    rcases List.mem_cons.mp among with rfl | among
    · exact ⟨_, _, running⟩
    · exact ih among

/-- A run of a test that is over has come to its end. -/
theorem Went.exists_runItem {tests : List FinishedTest} (went : Went setup trial tests final)
    {test : FinishedTest} (within : test ∈ tests) {run : FinishedRun} (among : run ∈ test.runs) :
    ∃ begun ended, (runItem setup test.test run.item).run begun = .ok run.report ended := by
  induction went with
  | nil => cases within
  | skipped _ _ _ ih =>
    rcases List.mem_cons.mp within with rfl | within
    · cases among
    · exact ih within
  | tested _ _ running _ _ _ ih =>
    rcases List.mem_cons.mp within with rfl | within
    · exact running.exists_runItem among
    · exact ih within

/-- A test that is over has run all its work items. -/
theorem Went.items {tests : List FinishedTest} (went : Went setup trial tests final)
    {test : FinishedTest} (within : test ∈ tests)
    (selected : setup.settings.selects test.test.name = true) :
    test.runs.map FinishedRun.item = test.test.items := by
  induction went with
  | nil => cases within
  | skipped leaving _ _ ih =>
    rcases List.mem_cons.mp within with rfl | within
    · cases selected.symm.trans leaving
    · exact ih within
  | tested _ _ _ all _ _ ih =>
    rcases List.mem_cons.mp within with rfl | within
    · exact all
    · exact ih within

/-- **A test that fails**, with the runs of it that are over by then: it cannot be left out, not be
opened, one of its runs fails, or it cannot be closed. Only then it has come to its times. -/
inductive TestFailed (setup : Setup σ) (number : Nat) (test : Test) (failure : Failure)
    (trial final : Trial σ) : List FinishedRun → Times → Prop
  | unskipped (left : setup.settings.selects test.name = false)
    (failed : (report (Journal.skipTest number test)).run trial = .error failure final) :
    TestFailed setup number test failure trial final [] {}
  | unopened (selected : setup.settings.selects test.name = true)
    (failed : (report (Journal.beforeTest number test)).run (afterClocks setup trial) =
      .error failure final) :
    TestFailed setup number test failure trial final [] {}
  | running {opened middle : Trial σ} {item : WorkItem} {rest : List WorkItem}
    {runs : List FinishedRun} (selected : setup.settings.selects test.name = true)
    (opening : (report (Journal.beforeTest number test)).run (afterClocks setup trial) =
      .ok () opened)
    (ran : Ran setup test opened runs middle)
    (items : test.items = runs.map FinishedRun.item ++ item :: rest)
    (fails : FailsAt setup test item failure middle final) :
    TestFailed setup number test failure trial final runs {}
  | unclosed {opened ended : Trial σ} {runs : List FinishedRun}
    (selected : setup.settings.selects test.name = true)
    (opening : (report (Journal.beforeTest number test)).run (afterClocks setup trial) =
      .ok () opened)
    (ran : Ran setup test opened runs ended) (all : runs.map FinishedRun.item = test.items)
    (failed : (report (closeTest (timesOf setup trial ended))).run (afterClocks setup ended) =
      .error failure final) :
    TestFailed setup number test failure trial final runs (timesOf setup trial ended)

theorem runTest_failed {number : Nat} {failure : Failure}
    (selected : setup.settings.selects test.name = true)
    (ran : (runTest setup number test).run trial = .error failure final) :
    ∃ runs times, TestFailed setup number test failure trial final runs times := by
  rw [runTest] at ran
  -- reading the clocks does not fail
  rcases run_bind_eq_error ran with failed | ⟨_, _, before, ran⟩
  · cases failed
  cases before
  rcases run_bind_eq_error ran with failed | ⟨_, opened, opening, ran⟩
  · exact ⟨[], _, .unopened selected failed⟩
  rcases run_bind_eq_error ran with failed | ⟨_, ended, running, ran⟩
  · obtain ⟨runs, item, rest, middle, items, went, fails⟩ := runItems_failed failed
    exact ⟨runs, _, .running selected opening went items fails⟩
  obtain ⟨runs, all, went⟩ := runItems_ran running
  rcases run_bind_eq_error ran with failed | ⟨_, _, after, failed⟩
  · cases failed
  cases after
  exact ⟨runs, _, .unclosed selected opening went all failed⟩

theorem runTests_failed {tests : List Test} {number : Nat} {failure : Failure}
    (ran : (runTests setup number tests).run trial = .error failure final) :
    ∃ finished test later runs times middle,
      tests = finished.map FinishedTest.test ++ test :: later ∧
      finished.map FinishedTest.number = List.range' number finished.length ∧
      Went setup trial finished middle ∧
      TestFailed setup (number + finished.length) test failure middle final runs times := by
  induction tests generalizing trial number with
  | nil => cases ran
  | cons test tests ih =>
    rw [runTests] at ran
    -- if the first test is over, the failure is in one of those behind it
    have further : ∀ {middle : Trial σ} {runs : List FinishedRun} {times : Times},
        (runTests setup (number + 1) tests).run middle = .error failure final →
        (∀ {tests last}, Went setup middle tests last →
          Went setup trial (⟨number, test, runs, times⟩ :: tests) last) →
        ∃ finished other later runs times middle,
          test :: tests = finished.map FinishedTest.test ++ other :: later ∧
          finished.map FinishedTest.number = List.range' number finished.length ∧
          Went setup trial finished middle ∧
          TestFailed setup (number + finished.length) other failure middle final runs times := by
      intro middle runs times failed went
      obtain ⟨finished, last, later, done, shown, further, rfl, numbers, course, fails⟩ :=
        ih failed
      refine ⟨⟨number, test, runs, times⟩ :: finished, last, later, done, shown, further, rfl, ?_,
        went course, ?_⟩
      · rw [List.map_cons, numbers, List.length_cons, List.range'_succ]
      · rw [List.length_cons, Nat.add_comm finished.length, ← Nat.add_assoc]
        exact fails
    split at ran
    next selected =>
      rcases run_bind_eq_error ran with failed | ⟨_, middle, first, ran⟩
      · obtain ⟨runs, times, fails⟩ := runTest_failed selected failed
        exact ⟨[], test, tests, runs, times, trial, rfl, rfl, .nil, fails⟩
      · obtain ⟨runs, times, all, went⟩ := runTest_went selected first
        exact further ran went
    next left =>
      have left : setup.settings.selects test.name = false := by simpa using left
      rcases run_bind_eq_error ran with failed | ⟨_, middle, first, ran⟩
      · exact ⟨[], test, tests, [], {}, trial, rfl, rfl, .nil, .unskipped left failed⟩
      · exact further ran fun course => .skipped left first course

/-! ### Tests that are stopped -/

/-- **A test that is stopped** while the run behind its finished ones is executed. -/
structure TestStopped (setup : Setup σ) (number : Nat) (test : Test) (runs : List FinishedRun)
    (cause : BenchmarkError) (trial final : Trial σ) : Prop where
  selected : setup.settings.selects test.name = true
  course : ∃ opened middle item rest,
    (report (Journal.beforeTest number test)).run (afterClocks setup trial) = .ok () opened ∧
      Ran setup test opened runs middle ∧ StopsAt setup test item cause middle final ∧
      test.items = runs.map FinishedRun.item ++ item :: rest

/-- A test that fails since its tool stops has been stopped in a run: no report stops it. -/
theorem TestFailed.stopped {number : Nat} {cause : BenchmarkError} {runs : List FinishedRun}
    {times : Times} (fails : TestFailed setup number test (.stopped cause) trial final runs times) :
    TestStopped setup number test runs cause trial final := by
  cases fails with
  | unskipped left failed => exact absurd failed report_ne_stopped
  | unopened selected failed => exact absurd failed report_ne_stopped
  | @running opened middle item rest runs selected opening ran items fails =>
    refine ⟨selected, opened, middle, item, rest, opening, ran, ?_, items⟩
    cases fails with
    | @stopped begun beginning failed => exact ⟨begun, beginning, failed⟩
    | unwritten beginning running failed => exact absurd failed report_ne_stopped
  | unclosed selected opening ran all failed => exact absurd failed report_ne_stopped

theorem runTests_stopped {tests : List Test} {number : Nat} {cause : BenchmarkError}
    (ran : (runTests setup number tests).run trial = .error (.stopped cause) final) :
    ∃ finished test later runs middle,
      tests = finished.map FinishedTest.test ++ test :: later ∧
      finished.map FinishedTest.number = List.range' number finished.length ∧
      Went setup trial finished middle ∧
      TestStopped setup (number + finished.length) test runs cause middle final := by
  obtain ⟨finished, test, later, runs, times, middle, tests_eq, numbers, went, fails⟩ :=
    runTests_failed ran
  exact ⟨finished, test, later, runs, middle, tests_eq, numbers, went, fails.stopped⟩

end VerifierTrials.Trial
