import VerifierTrials.Proofs.Text.Encoding
import VerifierTrials.Proofs.Trial.Runs

/-!
# What a benchmark files

The filings of a run, of a test, and of tests one after the other, found by induction on their
course. Each of these statements carries three things along: the state of the journal, the
list of filings, and for each run how it has been reported (`Reported`).
-/

namespace VerifierTrials

open FileTree

namespace Trial

variable {σ : Type} {setup : Setup σ} {test : Test} {trial final : Trial σ} {journal : Journal}
  {q : List String} {tally : Tally}

/-! ### Filings of runs -/

/-- What a run files. -/
def runFilings (journal : Journal) (q : List String) (table : Table) (name : Option String)
    (run : FinishedRun) : List Filing :=
  [⟨run.log, Utf8.encode (Journal.logText run.report), true⟩,
    ⟨journal.placeOf q none "txt", Utf8.encode (journal.rowOf table run.report), false⟩,
    ⟨journal.placeOf q name "csv", Utf8.encode (journal.fieldsOf run.report), false⟩]

/-- The elements of runs in the document of their test. -/
def elementsOf (journal : Journal) (runs : List FinishedRun) : List RunElement :=
  runs.map fun run => journal.elementFor run.report run.item.options

/-- A test that is open, after runs. -/
def withRuns (journal : Journal) (open_ : OpenTest) (runs : List FinishedRun) : OpenTest :=
  { open_ with
    document :=
      { open_.document with runs := open_.document.runs ++ elementsOf journal runs } }

/-- The tally after runs. -/
def tallyAfter (tally : Tally) (runs : List FinishedRun) : Tally :=
  runs.foldl (fun tally run => tally.add run.report.file run.report.status) tally

/-- **A run as it is reported**: with the file of its work item, with a value for each column,
and with its log where the path name of the log led at that time. -/
structure Reported (setup : Setup σ) (journal : Journal) (q : List String) (start : FileTree)
    (name : Option String) (run : FinishedRun) : Prop where
  file : run.report.file = run.item.file
  titles : run.report.cells.map Cell.title = setup.benchmark.columns.map Column.title
  log : ∃ tree, journal.Orderly q tree ∧ Alike q start tree ∧
    tree.locate true (journal.logPath name run.report.file) = .ok run.log

theorem Reported.log_ne {start : FileTree} {name : Option String} {run : FinishedRun}
    (reported : Reported setup journal q start name run) (other : Option String)
    {extension : String} (kind : extension ∈ ["txt", "csv", "xml"]) :
    run.log ≠ journal.placeOf q other extension := by
  obtain ⟨tree, orderly, -, led⟩ := reported.log
  exact orderly.log_ne led other kind

theorem Reported.placeOf_ne {start : FileTree} {name : Option String} {run : FinishedRun}
    (reported : Reported setup journal q start name run) (other : Option String)
    (extension : String) (kind : extension ∈ ["txt", "csv", "xml"]) :
    journal.placeOf q other extension ≠ run.log :=
  (reported.log_ne other kind).symm

theorem Reported.of_alike {start later : FileTree} {name : Option String} {run : FinishedRun}
    (alike : Alike q start later) (reported : Reported setup journal q later name run) :
    Reported setup journal q start name run := by
  obtain ⟨file, titles, tree, orderly, alike', led⟩ := reported
  exact ⟨file, titles, tree, orderly, alike.trans alike', led⟩

/-- **What runs file**: step by step, each run is over with the reports left alone, and then
it is written down. -/
theorem Ran.filed {open_ : OpenTest} {runs : List FinishedRun}
    (alone : LeavesAlone setup journal q) (ran : Ran setup test trial runs final)
    (state : trial.session.journal = journal.during (some open_) tally)
    (orderly : journal.Orderly q trial.tree) :
    final.session.journal =
        journal.during (some (withRuns journal open_ runs)) (tallyAfter tally runs) ∧
      journal.Filed q trial.tree final.tree
        (runs.flatMap (runFilings journal q open_.table open_.name)) ∧
      ∀ run ∈ runs, Reported setup journal q trial.tree open_.name run := by
  induction ran generalizing open_ tally with
  | @nil trial =>
    refine ⟨?_, .nil orderly, by simp⟩
    rw [state]
    simp [withRuns, elementsOf, tallyAfter]
  | @next trial begun ended told final run runs beginning running logging telling further ih =>
    obtain ⟨same, tree⟩ := Journal.tell_eq_ok (report_eq_ok beginning)
    have begunTree : begun.tree = trial.tree := tree
    -- the run itself files nothing, and the journal is in the same state behind it
    obtain ⟨kept, file, titles⟩ := runItem_eq_ok alone (begunTree ▸ orderly) running
    have state' : ended.session.journal = journal.during (some open_) tally := by
      rw [kept.sameJournal, same, state]
    obtain ⟨open', current, led⟩ := logging
    obtain rfl : open_ = open' := by
      rw [state'] at current
      exact Option.some.inj current
    obtain ⟨told_eq, log, led', filed⟩ :=
      Journal.afterRun_filed state' kept.filed.orderly (report_eq_ok telling)
    -- the log has been written where its path name led when the run was over
    obtain rfl : run.log = log := by
      rw [state'] at led
      exact Except.ok.inj (led.symm.trans led')
    have toldFiled : journal.Filed q trial.tree told.tree
        (runFilings journal q open_.table open_.name run) := begunTree ▸ kept.filed.append filed
    obtain ⟨final_eq, restFiled, reported⟩ := ih told_eq toldFiled.orderly
    refine ⟨?_, ?_, ?_⟩
    · rw [final_eq]
      simp [withRuns, elementsOf, tallyAfter, Journal.recorded, TestDocument.addRun]
    · rw [List.flatMap_cons]
      exact toldFiled.append restFiled
    · intro other within
      rcases List.mem_cons.mp within with rfl | within
      · exact ⟨file, titles, ended.tree, kept.filed.orderly, begunTree ▸ kept.filed.alike, led'⟩
      · exact (reported other within).of_alike toldFiled.alike

/-! ### Filings of tests -/

/-- What stands before the lines of a test. -/
def openingOf (journal : Journal) (number : Nat) (test : Test) : String :=
  (journal.tableOf test).opening test.name number journal.testCount (journal.optionsOf test)

/-- What stands after the lines of a test. -/
def closingOf (journal : Journal) (number : Nat) (test : Test) (times : Times) : String :=
  (journal.tableOf test).closing number test.items.length (times.cpuTime.text journal.places)
    (times.wallTime.text journal.places)

/-- **The document of a test that is over**: an element for each run, and the times of the test. -/
def documentAfter (journal : Journal) (test : Test) (runs : List FinishedRun) (times : Times) :
    TestDocument :=
  { journal.documentOf test with
    runs := elementsOf journal runs
    times := some (times.cpuTime.text journal.places, times.wallTime.text journal.places) }

/-- What a test files. -/
def testFilings (setup : Setup σ) (journal : Journal) (q : List String) (test : FinishedTest) :
    List Filing :=
  if setup.settings.selects test.test.name then
    [⟨journal.placeOf q none "txt", Utf8.encode (openingOf journal test.number test.test),
        false⟩] ++
      test.runs.flatMap (runFilings journal q (journal.tableOf test.test) test.test.name) ++
      [⟨journal.placeOf q test.test.name "xml",
          Utf8.encode (documentAfter journal test.test test.runs test.times).text, true⟩,
        ⟨journal.placeOf q none "txt",
          Utf8.encode (closingOf journal test.number test.test test.times), false⟩]
  else
    [⟨journal.placeOf q none "txt",
      Utf8.encode (Table.skipped test.test.name test.number journal.testCount), false⟩]

/-- **A test as it is reported**: a run for each work item if it is selected, and none if it
is not. -/
structure TestReported (setup : Setup σ) (journal : Journal) (q : List String) (start : FileTree)
    (test : FinishedTest) : Prop where
  runs : ∀ run ∈ test.runs, Reported setup journal q start test.test.name run
  all : setup.settings.selects test.test.name = true →
    test.runs.map FinishedRun.item = test.test.items
  left : setup.settings.selects test.test.name = false → test.runs = []

theorem TestReported.of_alike {start later : FileTree} {test : FinishedTest}
    (alike : Alike q start later) (reported : TestReported setup journal q later test) :
    TestReported setup journal q start test :=
  ⟨fun run within => (reported.runs run within).of_alike alike, reported.all, reported.left⟩

/-- The opening of a test and its runs. -/
theorem opening_filed {number : Nat} {opened ended : Trial σ} {runs : List FinishedRun}
    (alone : LeavesAlone setup journal q)
    (state : trial.session.journal = journal.during none tally)
    (orderly : journal.Orderly q trial.tree)
    (opening : (report (Journal.beforeTest number test)).run (afterClocks setup trial) =
      .ok () opened)
    (running : Ran setup test opened runs ended) :
    ended.session.journal =
        journal.during (some (withRuns journal (journal.opened number test) runs))
          (tallyAfter tally runs) ∧
      journal.Filed q trial.tree ended.tree
        ([⟨journal.placeOf q none "txt", Utf8.encode (openingOf journal number test), false⟩] ++
          runs.flatMap (runFilings journal q (journal.tableOf test) test.name)) ∧
      ∀ run ∈ runs, Reported setup journal q trial.tree test.name run := by
  have opening := report_eq_ok opening
  obtain ⟨opened_eq, openingFiled⟩ := Journal.beforeTest_filed state orderly opening
  obtain ⟨over_eq, runsFiled, reported⟩ := running.filed alone opened_eq openingFiled.orderly
  exact ⟨over_eq, openingFiled.append runsFiled,
    fun run within => (reported run within).of_alike openingFiled.alike⟩

/-- **What tests file.** -/
theorem Went.filed {tests : List FinishedTest} (alone : LeavesAlone setup journal q)
    (went : Went setup trial tests final)
    (state : trial.session.journal = journal.during none tally)
    (orderly : journal.Orderly q trial.tree) :
    final.session.journal =
        journal.during none (tallyAfter tally (tests.flatMap FinishedTest.runs)) ∧
      journal.Filed q trial.tree final.tree (tests.flatMap (testFilings setup journal q)) ∧
      ∀ test ∈ tests, TestReported setup journal q trial.tree test := by
  induction went generalizing tally with
  | @nil trial => exact ⟨state, .nil orderly, by simp⟩
  | @skipped trial left final number test tests leaving skipping further ih =>
    obtain ⟨left_eq, filed⟩ := Journal.skipTest_filed state orderly (report_eq_ok skipping)
    obtain ⟨final_eq, restFiled, reported⟩ := ih (left_eq.trans state) filed.orderly
    refine ⟨final_eq, ?_, ?_⟩
    · rw [List.flatMap_cons, testFilings, leaving]
      exact filed.append restFiled
    · intro other within
      rcases List.mem_cons.mp within with rfl | within
      · exact ⟨by simp, by simp [leaving], fun _ => rfl⟩
      · exact (reported other within).of_alike filed.alike
  | @tested trial opened ended closed final number test runs tests selecting opening running all
      closing further ih =>
    obtain ⟨over_eq, runsFiled, runsReported⟩ := opening_filed alone state orderly opening running
    have closing := report_eq_ok closing
    obtain ⟨closed_eq, closingFiled⟩ :=
      Journal.afterTest_filed over_eq runsFiled.orderly closing
    have filed : journal.Filed q trial.tree closed.tree
        (testFilings setup journal q ⟨number, test, runs, timesOf setup trial ended⟩) := by
      rw [testFilings, if_pos selecting]
      exact runsFiled.append closingFiled
    obtain ⟨final_eq, restFiled, reported⟩ := ih closed_eq filed.orderly
    refine ⟨?_, ?_, ?_⟩
    · rw [final_eq, List.flatMap_cons, tallyAfter, tallyAfter, tallyAfter, List.foldl_append]
    · rw [List.flatMap_cons]
      exact filed.append restFiled
    · intro other within
      rcases List.mem_cons.mp within with rfl | within
      · exact ⟨runsReported, fun _ => all, by simp [selecting]⟩
      · exact (reported other within).of_alike filed.alike

end Trial

end VerifierTrials
