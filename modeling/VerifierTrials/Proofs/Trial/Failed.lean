import VerifierTrials.Proofs.Report.Failures
import VerifierTrials.Proofs.Report.Records
import VerifierTrials.Proofs.Trial.Agreement
import VerifierTrials.Proofs.Trial.Completion
import VerifierTrials.Proofs.Trial.Progress

/-!
# What a failed benchmark leaves behind

A benchmark that has begun may fail in any of its tests (`Trial.TestFailed`): a run is stopped, or a
report is refused. The tests before that one are over and those behind it have not begun, so the
benchmark is in parts (`Trial.Begun.exists_hasFailed`), and each test finds in its reports what its
own part has put there (`Trial.run_failed`).

The tab-separated reports are begun anew with the benchmark, while the document of a test is only
written when the test is closed. A document that this benchmark has written lists the runs of the
tab-separated report beside it. One that it has not come to write is what was there before, for
instance the document of an earlier benchmark on the same day, with runs that the report beside it
does not list (`Trial.not_sourcesOf_eq`).
-/

namespace VerifierTrials.Trial

open FileTree

variable {σ : Type} {setup : Setup σ} {machine : Machine} {desk : Desk} {state : σ}
  {journal : Journal} {q : List String} {tally : Tally} {test : Test} {trial final : Trial σ}
  {failure : Failure}

/-! ### The test that fails -/

/-- **A run at which a test fails** leaves the reports of tests as they are, but that its line may
have been begun, if it is this line that could not be appended. -/
theorem FailsAt.filed {item : WorkItem} {open_ : OpenTest} (alone : LeavesAlone setup journal q)
    (fails : FailsAt setup test item failure trial final)
    (state : trial.session.journal = journal.during (some open_) tally)
    (orderly : journal.Orderly q trial.tree) :
    ∃ others fields, journal.Filed q trial.tree final.tree (others ++ fields) ∧
      journal.Spares q others ∧ (fields = [] ∨ ∃ run cause, run.file = item.file ∧
        failure = .unreported cause ∧
        cause.isAppending (journal.reportPath open_.name "csv") = true ∧
        (journal.fieldsFiling q open_.name run).CutShort fields) := by
  cases fails with
  | @stopped begun beginning failed =>
    obtain ⟨-, tree⟩ := Journal.tell_eq_ok (report_eq_ok beginning)
    have begunTree : begun.tree = trial.tree := tree
    have kept := runItem_eq_error alone (begunTree ▸ orderly) failed
    exact ⟨[], [], begunTree ▸ kept.filed, .nil, .inl rfl⟩
  | @unwritten begun ended run beginning running failed =>
    obtain ⟨same, tree⟩ := Journal.tell_eq_ok (report_eq_ok beginning)
    have begunTree : begun.tree = trial.tree := tree
    obtain ⟨kept, file, -⟩ := runItem_eq_ok alone (begunTree ▸ orderly) running
    have state' : ended.session.journal = journal.during (some open_) tally := by
      rw [kept.sameJournal, same, state]
    obtain ⟨cause, rfl, refused⟩ := report_eq_error failed
    obtain ⟨others, fields, filed, spares, begun⟩ :=
      Journal.afterRun_failed state' kept.filed.orderly refused
    refine ⟨others, fields, begunTree ▸ kept.filed.append filed, spares, ?_⟩
    rcases begun with rfl | ⟨named, short⟩
    · exact .inl rfl
    · exact .inr ⟨run, cause, file, rfl, named, short⟩

/-- **What a test that fails leaves in its own reports**, behind the lines of its runs and as its
document. There is nothing further, unless the report that could not be written is one of them, and
then a beginning of what was to be written; or only the last line of the text report is missing. -/
inductive Remains (journal : Journal) (test : Test) (runs : List FinishedRun) (times : Times) :
    Failure → Bytes → Option Bytes → Prop
  | nothing {failure : Failure} : Remains journal test runs times failure [] none
  | line {item : WorkItem} {further : List WorkItem} {run : RunReport} {cause : ReportError}
    {taken : Bytes} (items : test.items = runs.map FinishedRun.item ++ item :: further)
    (file : run.file = item.file)
    (named : cause.isAppending (journal.reportPath test.name "csv") = true)
    (begins : taken <+: Utf8.encode (journal.fieldsOf run))
    (short : taken ≠ Utf8.encode (journal.fieldsOf run)) :
    Remains journal test runs times (.unreported cause) taken none
  | beginning {taken : Bytes} (all : runs.map FinishedRun.item = test.items)
    (begins : taken <+: Utf8.encode (documentAfter journal test runs times).text)
    (short : taken ≠ Utf8.encode (documentAfter journal test runs times).text) :
    Remains journal test runs times (.unreported (.notWritten (journal.reportPath test.name "xml")))
      [] (some taken)
  | whole {cause : ReportError} (all : runs.map FinishedRun.item = test.items)
    (named : cause.isAppending journal.textPath = true) :
    Remains journal test runs times (.unreported cause) []
      (some (Utf8.encode (documentAfter journal test runs times).text))

/-- A test that is stopped leaves nothing further. -/
theorem Remains.of_stopped {runs : List FinishedRun} {times : Times} {cause : BenchmarkError}
    {rest : Bytes} {document? : Option Bytes}
    (remains : Remains journal test runs times (.stopped cause) rest document?) :
    rest = [] ∧ document? = none := by
  cases remains with
  | nothing => exact ⟨rfl, rfl⟩

/-- **The part of a test that fails.** -/
theorem TestFailed.isPart {number : Nat} {runs : List FinishedRun} {times : Times}
    (alone : LeavesAlone setup journal q)
    (fails : TestFailed setup number test failure trial final runs times)
    (state : trial.session.journal = journal.during none tally)
    (orderly : journal.Orderly q trial.tree) :
    ∃ rest document? filings, journal.Filed q trial.tree final.tree filings ∧
      IsPart journal q test runs rest document? filings ∧
      Remains journal test runs times failure rest document? ∧
      ∀ run ∈ runs, Reported setup journal q trial.tree test.name run := by
  cases fails with
  | unskipped left failed =>
    obtain ⟨cause, -, failed⟩ := report_eq_error failed
    obtain ⟨filings, filed, spares⟩ := Journal.skipTest_failed state orderly failed
    exact ⟨[], none, filings, filed, .of_spares spares, .nothing, by simp⟩
  | unopened selected failed =>
    obtain ⟨cause, -, failed⟩ := report_eq_error failed
    obtain ⟨filings, filed, spares⟩ := Journal.beforeTest_failed state orderly failed
    exact ⟨[], none, filings, filed, .of_spares spares, .nothing, by simp⟩
  | running selected opening ran items fails =>
    obtain ⟨middle_eq, filed, reported⟩ := opening_filed alone state orderly opening ran
    obtain ⟨others, fields, failed, spares, begun⟩ := fails.filed alone middle_eq filed.orderly
    have filed := filed.append failed
    have part := (IsPart.of_opening number reported).before spares
    rw [← List.append_assoc] at filed
    rcases begun with rfl | ⟨run, cause, file, rfl, named, rfl | ⟨taken, begins, short, rfl⟩⟩
    · exact ⟨[], none, _, filed, by rwa [List.append_nil], .nothing, reported⟩
    · exact ⟨[], none, _, filed, by rwa [List.append_nil], .nothing, reported⟩
    · exact ⟨taken, none, _, filed, part.begin_line taken, .line items file named begins short,
        reported⟩
  | unclosed selected opening ran all failed =>
    obtain ⟨over_eq, filed, reported⟩ := opening_filed alone state orderly opening ran
    have opened := IsPart.of_opening number reported
    obtain ⟨cause, rfl, refused⟩ := report_eq_error failed
    obtain ⟨document, others, closed, spares, come⟩ :=
      Journal.afterTest_failed over_eq filed.orderly refused
    have filed := filed.append closed
    rw [← List.append_assoc] at filed
    rcases come with ⟨named, rfl | ⟨taken, begins, short, rfl⟩⟩ | ⟨named, rfl⟩
    · exact ⟨[], none, _, filed, by simpa using opened.before spares, .nothing, reported⟩
    · exact ⟨[], some taken, _, filed, (opened.close taken).before spares,
        named ▸ .beginning all begins short, reported⟩
    · exact ⟨[], some _, _, filed, (opened.close _).before spares, .whole all named, reported⟩

/-! ### The reports of a benchmark that fails -/

/-- **The reports of a benchmark up to one of its tests.** -/
theorem Parted.reports {header : String} {tests : List FinishedTest} {last : TestPart}
    {later : List Test} {start made files : FileTree}
    (parted : Parted setup journal q header (partsOf setup journal q tests last later) made files)
    (distinct : (setup.benchmark.tests.map Test.name).Nodup) (orderly : journal.Orderly q made)
    (reported : ∀ test ∈ tests, TestReported setup journal q start test) :
    (∀ test ∈ tests, setup.settings.selects test.test.name = true →
      test.runs.map FinishedRun.item = test.test.items ∧
      Lists journal files test.test test.runs ∧
      Documents journal files test.test test.runs test.times) ∧
    (setup.settings.selects last.test.name = true →
      files.read (journal.reportPath last.test.name "csv") =
        .ok (Utf8.encode (Separated.header journal.titles ++ linesOf journal last.runs) ++
          last.rest) ∧
      files.read (journal.reportPath last.test.name "xml") =
        last.document?.elim (made.read (journal.reportPath last.test.name "xml")) .ok) ∧
    ∀ test ∈ later, setup.settings.selects test.name = true →
      Lists journal files test [] ∧ KeepsDocument journal made files test := by
  have once : ∀ name, (setup.benchmark.tests.map Test.name).count name ≤ 1 :=
    List.nodup_iff_count.mp distinct
  refine ⟨fun test within selected => ?_, fun selected => ?_, fun test within selected => ?_⟩
  · have mem : test.part setup journal q ∈ partsOf setup journal q tests last later :=
      part_mem_partsOf within
    have lists := parted.lists mem selected (once _) rfl
    exact ⟨(reported test within).all selected, lists, parted.documents mem selected (once _)⟩
  · have mem : last ∈ partsOf setup journal q tests last later := last_mem_partsOf
    refine ⟨parted.csv mem selected (once _), ?_⟩
    cases come : last.document? with
    | some content => exact parted.read_document mem selected (once _) come
    | none => exact parted.keepsDocument orderly mem selected (once _) come
  · have mem : unbegun test ∈ partsOf setup journal q tests last later :=
      unbegun_mem_partsOf within
    have lists := parted.lists mem selected (once _) rfl
    have keeps := parted.keepsDocument orderly mem selected (once _) rfl
    exact ⟨lists, keeps⟩

/-- **A benchmark that has failed**, in one of its tests: those before it are over, those behind it
have not begun, and each has filed its part. -/
structure HasFailed (setup : Setup σ) (machine : Machine) (desk : Desk) (state : σ)
    (start : Trial σ) (failure : Failure) (made : FileTree) (q : List String)
    (tests : List FinishedTest) (last : TestPart) (times : Times) (later : List Test)
    (middle final : Trial σ) : Prop where
  begins : BeginsIn setup machine desk state made q
  tests_eq : setup.benchmark.tests = tests.map FinishedTest.test ++ last.test :: later
  numbers : tests.map FinishedTest.number = List.range' 1 tests.length
  went : Went setup start tests middle
  fails : TestFailed setup (1 + tests.length) last.test failure middle final last.runs times
  remains : Remains (journalOf setup machine desk state) last.test last.runs times failure last.rest
    last.document?
  reported : ∀ test ∈ tests,
    TestReported setup (journalOf setup machine desk state) q start.tree test
  lastReported : ∀ run ∈ last.runs,
    Reported setup (journalOf setup machine desk state) q middle.tree last.test.name run
  parted : Parted setup (journalOf setup machine desk state) q (headerOf setup machine desk state)
    (partsOf setup (journalOf setup machine desk state) q tests last later) made
    (run setup machine desk state).desk.tree

/-- **A test that has been stopped** lists its runs, and its document is the one before. -/
theorem HasFailed.stopped {start middle final : Trial σ} {made : FileTree}
    {tests : List FinishedTest} {last : TestPart} {times : Times} {later : List Test}
    {cause : BenchmarkError}
    (failed : HasFailed setup machine desk state start (.stopped cause) made q tests last times
      later middle final)
    (undisturbed : Undisturbed setup machine desk state)
    (selected : setup.settings.selects last.test.name = true) :
    Lists (journalOf setup machine desk state) (run setup machine desk state).desk.tree last.test
        last.runs ∧
      KeepsDocument (journalOf setup machine desk state) made
        (run setup machine desk state).desk.tree last.test := by
  have orderly := undisturbed.orderly made q failed.begins
  have once := List.nodup_iff_count.mp undisturbed.distinct last.test.name
  obtain ⟨whole, none_⟩ := failed.remains.of_stopped
  exact ⟨failed.parted.lists last_mem_partsOf selected once whole,
    failed.parted.keepsDocument orderly last_mem_partsOf selected once none_⟩

/-- A benchmark that fails once it has begun has failed in one of its tests. -/
theorem Begun.exists_hasFailed {start : Trial σ}
    (undisturbed : Undisturbed setup machine desk state)
    (begun : Begun setup machine desk state start)
    (ran : (run setup machine desk state).tally = .error failure) :
    ∃ made q tests last times later middle final,
      HasFailed setup machine desk state start failure made q tests last times later middle
        final := by
  obtain ⟨final, ranTests, files_eq, -⟩ := begun.failed ran
  obtain ⟨tests, test, later, runs, times, middle, tests_eq, numbers, went, fails⟩ :=
    runTests_failed ranTests
  obtain ⟨journal_eq, made, q, begins, startFiled, writable⟩ := begun.filed undisturbed
  have state_eq : start.session.journal = (journalOf setup machine desk state).during none
      (Tally.ofMarks setup.settings.bugMarks) := journal_eq
  have alone := undisturbed.alone made q begins
  -- three lists of filings, one behind the other: the beginning, the tests, the test that fails
  obtain ⟨middle_eq, testsFiled, reported⟩ := went.filed alone state_eq startFiled.orderly
  obtain ⟨rest, document?, filings, lastFiled, part, remains, lastReported⟩ :=
    fails.isPart alone middle_eq testsFiled.orderly
  have filed := (startFiled.append testsFiled).append lastFiled
  rw [← files_eq] at filed
  exact ⟨made, q, tests, ⟨test, runs, rest, document?, filings⟩, times, later, middle, final,
    { begins, tests_eq, numbers, went, fails, remains, reported, lastReported
      parted := parted_partsOf tests_eq filed reported part writable }⟩

/-! ### A small benchmark run again -/

theorem probed_small {result : Except BenchmarkError Outcome} (desk : Desk) :
    probed (small result) desk () = ("", desk.tree, ()) := by
  rw [probed, Host.version]
  split
  · rfl
  · split <;> rfl

/-- The desk of a small benchmark among given files. -/
def deskWith (tree : FileTree) : Desk := { smallDesk with tree }

/-- The journal of a small benchmark. -/
def smallJournal : Journal := journalOf (small (.error .interrupted)) smallMachine smallDesk ()

/-- The test of a small benchmark that is selected. -/
def smallTest : Test := ⟨some "t", [], [⟨"a.c", []⟩]⟩

/-- A small benchmark that is stopped has not run its source, and has not closed its test. -/
theorem HasFailed.of_small {result : Except BenchmarkError Outcome} {cause : BenchmarkError}
    {start middle final : Trial Unit} {made : FileTree} {tests : List FinishedTest}
    {last : TestPart} {times : Times} {later : List Test}
    (failed : HasFailed (small result) smallMachine desk () start (.stopped cause) made q tests last
      times later middle final)
    (undisturbed : Undisturbed (small result) smallMachine desk ())
    (same : journalOf (small result) smallMachine desk () = smallJournal) :
    Lists smallJournal (run (small result) smallMachine desk ()).desk.tree smallTest [] ∧
      KeepsDocument smallJournal made (run (small result) smallMachine desk ()).desk.tree
        smallTest := by
  obtain ⟨-, test_eq, runs_eq⟩ := stopped_small failed.tests_eq failed.fails.stopped
  have kept := failed.stopped undisturbed failed.fails.stopped.selected
  rw [same, test_eq, runs_eq] at kept
  exact kept

/-- **Files that a small benchmark has left**: its directory is in order, and its document tells of
runs of its source. -/
structure IsUsed (tree : FileTree) (runs : List FinishedRun) (times : Times) : Prop where
  orderly : smallJournal.Orderly [] tree
  alike : Alike [] smallTree tree
  files : runs.map (fun run => run.report.file) = ["a.c"]
  documents : Documents smallJournal tree smallTest runs times

variable {result : Except BenchmarkError Outcome} {tree : FileTree}

/-- The journal of a small benchmark depends neither on its runs nor on the files. -/
theorem journalOf_small :
    journalOf (small result) smallMachine (deskWith tree) () = smallJournal := by
  rw [smallJournal, journalOf, journalOf, probed_small, probed_small]
  rfl

/-- A small benchmark that comes to its end leaves such files. -/
theorem exists_isUsed : ∃ tree runs times, IsUsed tree runs times := by
  let outcome : Outcome := { exitCode := 0, output := "VERIFICATION SUCCESSFUL" }
  obtain ⟨tally, done⟩ := run_small_ok outcome
  obtain ⟨made, q, start, tests, final, begins, -, -, completed, -⟩ :=
    exists_completed isSmall_small.calm done
  obtain ⟨rfl, rfl⟩ := isSmall_small.eq_of_begins begins
  have journal : journalOf (small (.ok outcome)) smallMachine smallDesk () = smallJournal :=
    journalOf_small
  rw [journal] at completed
  generalize (run (small (.ok outcome)) smallMachine smallDesk ()).desk.tree = tree at completed ⊢
  have tests_eq : tests.map FinishedTest.test = [smallTest, ⟨none, [], []⟩] := completed.tests_eq
  obtain ⟨⟨number, test, runs, times⟩, within, rfl⟩ : ∃ finished ∈ tests,
      finished.test = smallTest :=
    List.mem_map.mp (tests_eq ▸ List.mem_cons_self)
  have selected : (small (.ok outcome)).settings.selects (some "t") = true := rfl
  have once : ((small (.ok outcome)).benchmark.tests.map Test.name).count (some "t") ≤ 1 :=
    List.nodup_iff_count.mp undisturbed_small.distinct _
  have reported := completed.reported _ within
  have items : runs.map FinishedRun.item = [⟨"a.c", []⟩] := reported.all selected
  have document := completed.xml within selected once
  have same : runs.map (fun run => run.report.file) = runs.map fun run => run.item.file :=
    List.map_congr_left fun run among => (reported.runs run among).file
  have files := congrArg (List.map WorkItem.file) items
  rw [List.map_map] at files
  exact ⟨tree, runs, times, completed.filings.orderly, completed.filings.alike, same.trans files,
    document⟩

namespace IsUsed

variable {runs : List FinishedRun} {times : Times}

theorem workingDirectory (used : IsUsed tree runs times) : tree.workingDirectory = [] := by
  have way := used.orderly.way
  have path : smallJournal.textPath = "b.0001-02-03.results.txt" := isSmall_small.report none "txt"
  rw [path, locate_eq_ok_iff] at way
  obtain ⟨-, -, leads⟩ := way
  -- a name leads from the working directory to its own place
  rw [Path.isAbsolute_of_not_mem (by decide), Path.components_of_not_mem (by decide)] at leads
  have ended := follow_of_leads leads
  rw [if_neg (by decide), follow_false_name (by decide)] at ended
  exact (List.append_inj' (Except.ok.inj ended) rfl).1

theorem making (used : IsUsed tree runs times) :
    tree.makeDirectories "b.0001-02-03.logfiles" = .ok tree := by
  have logs : tree.entry? (tree.workingDirectory ++ ["b.0001-02-03.logfiles"]) =
      some .directory := by
    rw [used.workingDirectory]
    exact (used.alike.directory _ List.nil_prefix).mpr rfl
  have led : tree.locate true "b.0001-02-03.logfiles" =
      .ok (tree.workingDirectory ++ ["b.0001-02-03.logfiles"]) :=
    locate_directory (by decide) (by decide) (by decide) logs
  have around : around "b.0001-02-03.logfiles" "b.0001-02-03.logfiles".length = [] := by decide
  have there : tree.isDirectory "b.0001-02-03.logfiles" = true := by
    rw [isDirectory, find_eq_ok_iff.mpr ⟨_, led, logs⟩]
  rw [makeDirectories, if_neg (by decide), around, makeWithin, if_pos there]

theorem begins (used : IsUsed tree runs times) :
    BeginsIn (small result) smallMachine (deskWith tree) () tree [] := by
  have logs : smallJournal.logDirectory = "b.0001-02-03.logfiles" := by
    rw [smallJournal, logDirectory_eq, isSmall_small.base]
    rfl
  constructor
  · rw [probed_small, journalOf_small, logs]
    exact used.making
  · rw [journalOf_small]
    exact used.orderly.way

theorem eq_of_begins (used : IsUsed tree runs times) {made : FileTree} {q : List String}
    (begins : BeginsIn (small result) smallMachine (deskWith tree) () made q) :
    made = tree ∧ q = [] := by
  obtain rfl : made = tree := Except.ok.inj (begins.making.symm.trans used.begins.making)
  have same := Except.ok.inj (begins.way.symm.trans used.begins.way)
  exact ⟨rfl, (List.append_inj' same rfl).1⟩

/-- **A small benchmark can be run again**, with its reports left alone. -/
theorem undisturbed (used : IsUsed tree runs times) :
    Undisturbed (small result) smallMachine (deskWith tree) () where
  distinct := show [some "t", none].Nodup by decide
  orderly made q begins := by
    obtain ⟨rfl, rfl⟩ := used.eq_of_begins begins
    rw [journalOf_small]
    exact used.orderly
  alone made q _ := leavesAlone_of_still isSmall_small.still

theorem room (used : IsUsed tree runs times) :
    HasRoom (small result) smallMachine (deskWith tree) () tree [] where
  willing := rfl
  begins := used.begins
  text := by
    rw [journalOf_small]
    exact isSmall_small.writable (by decide)
  fits test within selected := by
    have fits : Fits (journalOf (small result) smallMachine smallDesk ()) [] smallTree test :=
      room_small.fits test within selected
    have journal : journalOf (small result) smallMachine smallDesk () = smallJournal :=
      journalOf_small
    rw [journal] at fits
    rw [journalOf_small]
    exact ⟨fits.text, fits.fields, fits.logs.of_alike used.alike, fits.plain, fits.loggable⟩

/-- A small benchmark that is run again and interrupted. -/
theorem ran (used : IsUsed tree runs times) {cause : BenchmarkError} :
    (run (small (.error cause)) smallMachine (deskWith tree) ()).tally =
      .error (.stopped cause) :=
  run_small_stopped used.undisturbed.calm used.room

theorem exists_start (used : IsUsed tree runs times) :
    ∃ start, Begun (small result) smallMachine (deskWith tree) () start :=
  used.room.exists_start used.undisturbed.calm

/-- A small benchmark that is stopped where an earlier one has been: its source has not been run,
and its document is the earlier one. -/
theorem stopped (used : IsUsed tree runs times) {cause : BenchmarkError} {start : Trial Unit}
    (begun : Begun (small (.error cause)) smallMachine (deskWith tree) () start) :
    Lists smallJournal
        (run (small (.error cause)) smallMachine (deskWith tree) ()).desk.tree smallTest [] ∧
      KeepsDocument smallJournal tree
        (run (small (.error cause)) smallMachine (deskWith tree) ()).desk.tree smallTest := by
  obtain ⟨made, q, tests, last, times, later, middle, final, failed⟩ :=
    begun.exists_hasFailed used.undisturbed used.ran
  obtain ⟨rfl, rfl⟩ := used.eq_of_begins failed.begins
  have kept := failed.of_small used.undisturbed journalOf_small
  exact kept

end IsUsed

/-! ### What is left behind -/

end VerifierTrials.Trial
