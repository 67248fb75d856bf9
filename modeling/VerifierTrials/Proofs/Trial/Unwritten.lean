import VerifierTrials.Proofs.Report.Failures
import VerifierTrials.Proofs.Trial.Progress

/-!
# Runs that are not written down

Writing down a run is not one step: five things are changed one after the other, three of them
files, and the device may fail to take any of these. The tally comes last, so it never counts a run
that has not been written down, and the line of the tab-separated report comes last of the files, so
it is never there as a whole (`Journal.afterRun_unwritten`).

What comes before them stays. A log may be there, the document of the test may have the run, and
so may the text report: the steps are not taken back (`Journal.not_afterRun_takenBack`). Neither is
the beginning of a line that has been cut, so that a report may be torn (`Journal.IsTorn`). A journal
can still be used behind a step that has failed, so the states that it comes to
(`Journal.Reached`) are more than those of a benchmark in which nothing fails.
-/

namespace VerifierTrials

open FileTree

namespace Journal

/-! ### The states of a journal -/

/-- **The steps of a journal.** -/
inductive IsStep : Reporting Unit → Prop
  | skipTest (number : Nat) (test : Test) : IsStep (skipTest number test)
  | beforeTest (number : Nat) (test : Test) : IsStep (beforeTest number test)
  | beforeRun (file : String) : IsStep (beforeRun file)
  | afterRun (run : RunReport) (options : List ToolOption) : IsStep (afterRun run options)
  | afterTest (cpuTime wallTime : Span) : IsStep (afterTest cpuTime wallTime)
  | afterBenchmark : IsStep afterBenchmark

/-- **The states that a journal comes to**: it has begun, and steps have been taken since, each
at any desk. A step that fails is one of them. -/
inductive Reached : Journal → Prop
  | begun {benchmark : Benchmark} {version : String} {machine : Machine} {settings : Settings}
    {tally : Tally} {journal : Journal} {desk desk' : Desk}
    (beginning : (start benchmark version machine settings tally).run desk = .ok journal desk') :
    Reached journal
  | step {journal : Journal} {desk : Desk} {action : Reporting Unit} {final : Session}
    (reached : Reached journal) (isStep : IsStep action)
    (ends : Ends action ⟨journal, desk⟩ final) : Reached final.journal

/-! ### A line that is cut -/

section Cut

variable {journal : Journal} {desk : Desk} {test : OpenTest} {run : RunReport}
  {options : List ToolOption}

/-- A run whose log is written and whose line is cut stays in the document of its test, and the
beginning of the line stays in the text report. -/
theorem afterRun_of_cut {taken : Nat} {why : FileError} {logged shown : FileTree}
    (current : journal.openTest? = some test)
    (failing : desk.faults = [none, some (.cut taken why)])
    (short : taken < (Utf8.encode (journal.rowOf test.table run)).length)
    (logging : desk.tree.write (journal.logPath test.name run.file)
      (Utf8.encode (logText run)) = .ok logged)
    (showing : logged.append journal.textPath
      ((Utf8.encode (journal.rowOf test.table run)).take taken) = .ok shown) :
    ∃ final, (afterRun run options).run ⟨journal, desk⟩ =
        .error (.notAppended journal.textPath) final ∧
      final.journal = journal.withRun test run options ∧ final.desk.tree = shown := by
  let text := Text.left 8 run.status.text ++ Text.right 8 (run.cpuTime.text journal.places) ++
    Text.right 8 (run.wallTime.text journal.places) ++ "\n"
  let told := (desk.afterWrite logged).display text
  let further := journal.withRun test run options
  -- the log is taken as a whole, and the line is the next write
  have accepted : desk.write (journal.logPath test.name run.file) (logText run) =
      (.ok (), desk.afterWrite logged) :=
    Desk.put_of_accepted (by rw [Desk.fault?, failing]; rfl) logging
  have next : told.fault? = some (.cut taken why) := by
    change desk.faults.tail.headD none = some (.cut taken why)
    rw [failing]
    rfl
  have cut : told.append journal.textPath (journal.rowOf test.table run) =
      (.error (.notAppended journal.textPath), told.afterWrite shown) :=
    Desk.append_of_cut next short showing
  have telling : (tell fun _ _ => text).run ⟨journal, desk.afterWrite logged⟩ =
      .ok () ⟨journal, told⟩ := rfl
  have altering : (alter fun state =>
      { state with openTest? := some (journal.recorded test run options) }).run ⟨journal, told⟩ =
        .ok () ⟨further, told⟩ := rfl
  have stopping : (perform fun state desk => desk.append state.textPath
      (journal.rowOf test.table run)).run ⟨further, told⟩ =
        .error (.notAppended journal.textPath) ⟨further, told.afterWrite shown⟩ :=
    perform_of_error cut
  refine ⟨⟨further, told.afterWrite shown⟩, ?_, rfl, rfl⟩
  rw [afterRun, run_bind_of_ok (currentTest_of_open current), EStateM.run_bind, EStateM.run_get]
  dsimp only
  refine (run_bind_of_ok (perform_of_step accepted)).trans ?_
  refine (run_bind_of_ok telling).trans ?_
  refine (run_bind_of_ok altering).trans ?_
  exact run_bind_of_error stopping

/-- **At a desk at which a run would be written down** the run stays in the document of its test,
and the beginning of its line in the text report, if the device cuts the second write. -/
theorem Able.exists_cut {q : List String} {made : FileTree} {tally : Tally} {session : Session}
    (able : journal.Able q made (some test) tally session) (logs : journal.KeepsLogs q made)
    (writable : journal.Writable none "txt") (run : RunReport) (options : List ToolOption)
    (plain : '/' ∉ (logName test.name run.file).toList)
    (loggable : journal.Loggable test.name run.file) {taken : Nat}
    (short : taken < (Utf8.encode (journal.rowOf test.table run)).length) :
    ∃ final, (Journal.afterRun run options).run
        ⟨session.journal, { session.desk with faults := [none, some (.cut taken .noSpace)] }⟩ =
          .error (.notAppended session.journal.textPath) final ∧
      final.journal = session.journal.withRun test run options ∧
      final.desk.tree.contentAt (journal.placeOf q none "txt") =
        some ((session.desk.tree.contentAt (journal.placeOf q none "txt")).getD [] ++
          (Utf8.encode (journal.rowOf test.table run)).take taken) := by
  have current : session.journal.openTest? = some test := by rw [able.state]; rfl
  have log : session.journal.logPath test.name run.file = journal.logPath test.name run.file := by
    rw [able.state]
    rfl
  have text : session.journal.textPath = journal.reportPath none "txt" := by
    rw [able.state]
    rfl
  have row : session.journal.rowOf test.table run = journal.rowOf test.table run := by
    rw [able.state]
    rfl
  obtain ⟨led, ends⟩ := able.log logs plain loggable
  obtain ⟨logged, logging⟩ := write_of_locate led ends (Utf8.encode (logText run))
  obtain ⟨place, logLed, filed⟩ := able.ready.orderly.filed_write logging
  obtain ⟨shown, showing⟩ := append_of_locate
    (filed.orderly.locate_iff.mpr ⟨writable, rfl⟩) (filed.orderly.files _)
    ((Utf8.encode (journal.rowOf test.table run)).take taken)
  obtain ⟨textPlace, textLed, appended⟩ := filed.orderly.filed_append showing
  obtain ⟨-, rfl⟩ := filed.orderly.locate_iff.mp textLed
  have held := (filed.append appended).report none "txt"
  rw [← log] at logging
  rw [← text, ← row] at showing
  rw [← row] at short
  obtain ⟨final, failing, left, rfl⟩ := @afterRun_of_cut _
    { session.desk with faults := [none, some (.cut taken .noSpace)] } _ run options taken .noSpace
    _ _ current rfl short logging showing
  refine ⟨final, failing, left, held.trans ?_⟩
  simp only [VerifierTrials.filed_append, filed_cons, filed_nil]
  rw [Filing.on_other (able.ready.orderly.log_ne logLed none (by decide)), Filing.on_appended]

/-- A run of the small benchmark. -/
def smallRun : RunReport :=
  { file := "a.c", status := .error none, output := "", arguments := [] }

open Trial in
/-- A test of the small benchmark is open, and three bytes of the line of its run are taken. -/
theorem exists_cut_small : ∃ journal desk test final, Reached journal ∧
    journal.Orderly [] desk.tree ∧ journal.openTest? = some test ∧
    (afterRun smallRun []).run ⟨journal, desk⟩ = .error (.notAppended journal.textPath) final ∧
    final.journal = journal.withRun test smallRun [] ∧
    final.desk.tree.contentAt (journal.placeOf [] none "txt") =
      some ((desk.tree.contentAt (journal.placeOf [] none "txt")).getD [] ++ Utf8.encode "a.c") := by
  let setup := small (.error .interrupted)
  let test : Test := ⟨some "t", [], [⟨"a.c", []⟩]⟩
  have room : HasRoom setup smallMachine smallDesk () smallTree [] := room_small
  have logs : (journalOf setup smallMachine smallDesk ()).KeepsLogs [] smallTree :=
    isSmall_small.keepsLogs
  have plain : '/' ∉ (logName (some "t") "a.c").toList := by decide
  have loggable : (journalOf setup smallMachine smallDesk ()).Loggable (some "t") "a.c" :=
    isSmall_small.loggable (by decide)
  have short : 3 < (Utf8.encode ((journalOf setup smallMachine smallDesk ()).rowOf
      ((journalOf setup smallMachine smallDesk ()).tableOf test) smallRun)).length := by decide
  have begins : (Utf8.encode ((journalOf setup smallMachine smallDesk ()).rowOf
      ((journalOf setup smallMachine smallDesk ()).tableOf test) smallRun)).take 3 =
        Utf8.encode "a.c" := by decide
  obtain ⟨begun, beginning, able⟩ :=
    room.exists_begun (undisturbed_small.orderly _ _ room.begins)
  have text := room.text
  generalize journalOf setup smallMachine smallDesk () = journal
    at beginning able text logs loggable short begins
  obtain ⟨session, opening, able⟩ := able.beforeTest text 1 test
  have reached : Reached session.journal :=
    .step (.begun beginning) (.beforeTest 1 test) (.inl ⟨(), opening⟩)
  obtain ⟨final, failing, left, held⟩ := able.exists_cut logs text smallRun [] plain loggable short
  have orderly : session.journal.Orderly [] session.desk.tree :=
    able.state ▸ able.ready.orderly.during
  have current : session.journal.openTest? = some (journal.opened 1 test) :=
    congrArg Journal.openTest? able.state
  have place : session.journal.placeOf [] none "txt" = journal.placeOf [] none "txt" := by
    rw [able.state]
    rfl
  refine ⟨_, { session.desk with faults := [none, some (.cut 3 .noSpace)] }, _, final, reached,
    orderly, current, failing, left, ?_⟩
  rw [place, ← begins]
  exact held

end Cut

/-! ### What is left behind -/

/-- **A report at whose end a line was to go** that could not be appended: it is as before, or has a
beginning of the line behind what it held. -/
def IsTorn (line : Bytes) (before after : Option Bytes) : Prop :=
  after = before ∨
    ∃ taken, taken <+: line ∧ taken ≠ line ∧ after = some (before.getD [] ++ taken)

/-- A line that has been cut short tears its report. -/
theorem isTorn_of_cutShort {p : List String} {line : Bytes} {filings : List Filing}
    (short : Filing.CutShort ⟨p, line, false⟩ filings) (held : Option Bytes) :
    IsTorn line held (filed filings p held) := by
  rcases short with rfl | ⟨taken, begins, short, rfl⟩
  · exact .inl rfl
  · exact .inr ⟨taken, begins, short, Filing.on_appended taken held⟩

/-- **What a run that is not written down leaves behind.** The tally does not count it, and the
steps before the one that has failed stay. Where the directory of the reports is in order, no
document of a test has changed in it. Each tab-separated report is as before, or it is the one of
the test and its line could not be appended: then it may be torn. The text report is as before, or
its line could not be appended and it may be torn, or it has its line since the one that could not
be appended is that of the tab-separated report. -/
theorem afterRun_unwritten {run : RunReport} {options : List ToolOption}
    {session session' : Session} {cause : ReportError}
    (failed : (afterRun run options).run session = .error cause session') :
    session'.journal.tally = session.journal.tally ∧
      Abandoned run options session session' cause ∧
      ∀ q, session.journal.Orderly q session.desk.tree →
        let journal := session.journal
        let content (tree : FileTree) (test : Option String) (extension : String) :=
          tree.contentAt (journal.placeOf q test extension)
        let before := content session.desk.tree
        let after := content session'.desk.tree
        (∀ test, after test "xml" = before test "xml") ∧
        (∀ name, after name "csv" = before name "csv" ∨
          ∃ test, journal.openTest? = some test ∧ test.name = name ∧
            cause.isAppending (journal.reportPath name "csv") = true ∧
            IsTorn (Utf8.encode (journal.fieldsOf run)) (before name "csv") (after name "csv")) ∧
        (after none "txt" = before none "txt" ∨
          ∃ test, journal.openTest? = some test ∧
            (cause.isAppending journal.textPath = true ∧
                IsTorn (Utf8.encode (journal.rowOf test.table run)) (before none "txt")
                  (after none "txt") ∨
              cause.isAppending (journal.reportPath test.name "csv") = true ∧
                after none "txt" = some ((before none "txt").getD [] ++
                  Utf8.encode (journal.rowOf test.table run)))) := by
  have abandoned := afterRun_abandoned failed
  refine ⟨abandoned.tally_eq, abandoned, fun q orderly => ?_⟩
  dsimp only
  obtain ⟨logs, rows, fields, filed, beside, begun⟩ := abandoned.filed rfl orderly
  have logged : ∀ test, ∀ extension ∈ ["txt", "csv", "xml"], ∀ held,
      VerifierTrials.filed logs (session.journal.placeOf q test extension) held = held :=
    fun test extension kind held =>
      filed_of_forall_ne fun log within => beside log within test extension kind
  simp only [filed.report, VerifierTrials.filed_append]
  cases begun with
  | nothing =>
    simp only [filed_nil]
    exact ⟨fun test => logged test "xml" (by decide) _,
      fun test => .inl (logged test "csv" (by decide) _), .inl (logged none "txt" (by decide) _)⟩
  | @text test _ current named short =>
    have spared := spares_of_text short.place_eq
    simp only [filed_nil]
    refine ⟨fun test => ?_, fun test => .inl ?_, .inr ⟨test, current, .inl ⟨named, ?_⟩⟩⟩
    · rw [logged test "xml" (by decide), spared.filed_eq test (by decide)]
    · rw [logged test "csv" (by decide), spared.filed_eq test (by decide)]
    · rw [logged none "txt" (by decide)]
      exact isTorn_of_cutShort short _
  | @fields test _ current named short =>
    -- the line of the text report has been appended, and that of the other report is torn
    have row : session.journal.Spares q [session.journal.rowFiling q test.table run] :=
      spares_text _ _
    have elsewhere : ∀ {p held}, session.journal.placeOf q test.name "csv" ≠ p →
        VerifierTrials.filed fields p held = held := fun other =>
      filed_of_forall_ne fun filing within => short.place_eq filing within ▸ other
    refine ⟨fun other => ?_, fun name => ?_, .inr ⟨test, current, .inr ⟨named, ?_⟩⟩⟩
    · rw [logged other "xml" (by decide), row.filed_eq other (by decide),
        elsewhere (Trial.xml_ne_csv _ _).symm]
    · rw [logged name "csv" (by decide), row.filed_eq name (by decide)]
      by_cases same : test.name = name
      · subst same
        exact .inr ⟨test, current, rfl, named, isTorn_of_cutShort short _⟩
      · exact .inl (elsewhere (Trial.placeOf_ne_of_test same))
    · rw [logged none "txt" (by decide), elsewhere (Trial.csv_ne_text _ _), filed_cons, filed_nil,
        rowFiling, Filing.on_appended]

/-- Three bytes of the line of a run have been taken, and that is all that the reports have of the
run; its document has it. -/
theorem afterRun_unwritten_small : ∃ journal desk test final,
    (afterRun smallRun []).run ⟨journal, desk⟩ = .error (.notAppended journal.textPath) final ∧
    journal.Orderly [] desk.tree ∧ journal.openTest? = some test ∧
    final.journal = journal.withRun test smallRun [] ∧
    final.journal.tally = journal.tally ∧
    final.desk.tree.contentAt (journal.placeOf [] (some "t") "csv") =
      desk.tree.contentAt (journal.placeOf [] (some "t") "csv") ∧
    final.desk.tree.contentAt (journal.placeOf [] none "txt") =
      some ((desk.tree.contentAt (journal.placeOf [] none "txt")).getD [] ++ Utf8.encode "a.c") ∧
    IsTorn (Utf8.encode (journal.rowOf test.table smallRun))
      (desk.tree.contentAt (journal.placeOf [] none "txt"))
      (final.desk.tree.contentAt (journal.placeOf [] none "txt")) := by
  obtain ⟨journal, desk, test, final, -, orderly, current, failed, left, held⟩ := exists_cut_small
  obtain ⟨tally, -, reports⟩ := afterRun_unwritten failed
  obtain ⟨-, fields, text⟩ := reports [] orderly
  -- the line that could not be appended is that of the text report
  have other : ∀ name, (ReportError.notAppended journal.textPath).isAppending
      (journal.reportPath name "csv") ≠ true := by
    intro name named
    have paths : journal.textPath = journal.reportPath name "csv" := of_decide_eq_true named
    exact absurd (reportPath_inj paths rfl).2 (by decide)
  refine ⟨journal, desk, test, final, failed, orderly, current, left, tally, ?_, held, ?_⟩
  · rcases fields (some "t") with same | ⟨_, -, -, named, -⟩
    · exact same
    · exact absurd named (other _)
  · rcases text with same | ⟨open_, current', ⟨-, torn⟩ | ⟨named, -⟩⟩
    · exact .inl same
    · obtain rfl := Option.some.inj (current.symm.trans current')
      exact torn
    · exact absurd named (other _)

/-- **A run that is not written down may be in the document of its test**, so that not all is as it
was before. -/
theorem not_afterRun_takenBack :
    ¬ ∀ (journal : Journal) (desk : Desk) (run : RunReport) (options : List ToolOption)
      (cause : ReportError) (final : Session), Reached journal →
      (afterRun run options).run ⟨journal, desk⟩ = .error cause final →
        final.journal.tally = journal.tally ∧
        final.journal.openTest?.map OpenTest.document =
          journal.openTest?.map OpenTest.document ∧
        final.desk.tree.read journal.textPath = desk.tree.read journal.textPath ∧
        ∀ test, final.desk.tree.read (journal.reportPath test "csv") =
          desk.tree.read (journal.reportPath test "csv") := by
  intro takenBack
  obtain ⟨journal, desk, test, final, reached, -, current, failed, left, -⟩ := exists_cut_small
  obtain ⟨-, document, -⟩ := takenBack _ _ _ _ _ _ reached failed
  rw [left, current] at document
  -- the document has one run more
  have runs := congrArg (fun document? => (document?.map fun document =>
    document.runs.length).getD 0) document
  simp [withRun, recorded, TestDocument.addRun] at runs

end Journal

end VerifierTrials
