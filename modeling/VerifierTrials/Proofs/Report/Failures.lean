import VerifierTrials.Proofs.Report.Steps

/-!
# Steps of a journal that fail

A step that fails has done what stands before the write that failed, nothing behind it, and of that
write perhaps the beginning (`Unfinished`). For writing down a run there are four points where this
can be (`Journal.Abandoned`): there is no test that is open, the log cannot be written, or one of
the two lines cannot be appended. The run is put into the document of its test before the lines
are appended, and into the tally behind them.

What a step that fails has filed is what it files otherwise, up to one filing that has been cut
short (`Journal.Abandoned.filed`). So it spares the reports of all tests (`Journal.Spares`) but for
two: the line of a run in the tab-separated report may have been begun (`Journal.afterRun_failed`),
and so may the document of a test, which stands there as a whole if only the last line of the text
report is missing (`Journal.afterTest_failed`).
-/

namespace VerifierTrials

open FileTree

/-! ### At a desk -/

/-- Whether a text could not be appended to a file. -/
def ReportError.isAppending (path : String) : ReportError → Bool
  | notOpened other | notAppended other => other = path
  | _ => false

/-- **What a write leaves behind that fails**: everything as it was, or a beginning of its text
where all of it was to go. -/
def Unfinished (change : FileTree → Bytes → Except FileError FileTree) (text : String)
    (before after : FileTree) : Prop :=
  after = before ∨ ∃ taken, taken <+: Utf8.encode text ∧ taken ≠ Utf8.encode text ∧
    change before taken = .ok after

namespace Desk

variable {desk desk' : Desk} {path text : String} {cause : ReportError}

theorem put_eq_error {change : FileTree → Bytes → Except FileError FileTree}
    {unopened unwritten : ReportError}
    (failed : desk.put change text unopened unwritten = (.error cause, desk')) :
    (cause = unopened ∨ cause = unwritten) ∧ Unfinished change text desk.tree desk'.tree := by
  rw [put] at failed
  split at failed
  next => cases failed; exact ⟨.inl rfl, .inl rfl⟩
  next taken cut? taking =>
    split at failed
    next => cases failed; exact ⟨.inl rfl, .inl rfl⟩
    next => cases failed
    next tree cause changed =>
      cases failed
      rcases WriteFault.taken_cases taking with ⟨impossible, -⟩ | ⟨_, -, begins, short⟩
      · cases impossible
      · exact ⟨.inr rfl, .inr ⟨taken, begins, short, changed⟩⟩

theorem write_eq_error (failed : desk.write path text = (.error cause, desk')) :
    cause = .notWritten path ∧ Unfinished (·.write path ·) text desk.tree desk'.tree := by
  obtain ⟨named, left⟩ := put_eq_error failed
  exact ⟨or_self_iff.mp named, left⟩

theorem append_eq_error (failed : desk.append path text = (.error cause, desk')) :
    cause.isAppending path = true ∧ Unfinished (·.append path ·) text desk.tree desk'.tree := by
  obtain ⟨rfl | rfl, left⟩ := put_eq_error failed
  · exact ⟨decide_eq_true rfl, left⟩
  · exact ⟨decide_eq_true rfl, left⟩

/-- A text that is cut leaves its beginning behind. -/
theorem append_of_cut {taken : Nat} {why : FileError} {after : FileTree}
    (fails : desk.fault? = some (.cut taken why)) (short : taken < (Utf8.encode text).length)
    (appended : desk.tree.append path ((Utf8.encode text).take taken) = .ok after) :
    desk.append path text = (.error (.notAppended path), desk.afterWrite after) := by
  rw [append, put, fails, WriteFault.taken, if_pos short]
  dsimp only
  rw [appended]

end Desk

namespace Journal

variable {journal : Journal} {q : List String} {session session' : Session} {cause : ReportError}

/-! ### Filings that have been cut short -/

section CutShort

variable {path text : String} {tree after : FileTree}

/-- What a write leaves behind that fails is a filing that has been cut short. -/
theorem Orderly.filed_unfinished {change : FileTree → Bytes → Except FileError FileTree}
    {anew : Bool} (orderly : journal.Orderly q tree)
    (files : ∀ {taken after}, change tree taken = .ok after →
      ∃ place, tree.locate true path = .ok place ∧
        journal.Filed q tree after [⟨place, taken, anew⟩])
    (unfinished : Unfinished change text tree after) :
    ∃ filings, journal.Filed q tree after filings ∧
      (filings = [] ∨ ∃ place, tree.locate true path = .ok place ∧
        Filing.CutShort ⟨place, Utf8.encode text, anew⟩ filings) := by
  rcases unfinished with rfl | ⟨taken, begins, short, changed⟩
  · exact ⟨[], .nil orderly, .inl rfl⟩
  · obtain ⟨place, led, filed⟩ := files changed
    exact ⟨_, filed, .inr ⟨place, led, .inr ⟨taken, begins, short, rfl⟩⟩⟩

/-- Where this is a report, it is known where the filing goes. -/
theorem Orderly.cutShort_of_report {anew : Bool} {filings : List Filing}
    (orderly : journal.Orderly q tree) {test : Option String} {extension : String}
    (left : filings = [] ∨ ∃ place,
      tree.locate true (journal.reportPath test extension) = .ok place ∧
        Filing.CutShort ⟨place, Utf8.encode text, anew⟩ filings) :
    Filing.CutShort ⟨journal.placeOf q test extension, Utf8.encode text, anew⟩ filings := by
  rcases left with rfl | ⟨place, led, short⟩
  · exact .inl rfl
  · obtain ⟨-, rfl⟩ := orderly.locate_iff.mp led
    exact short

end CutShort

theorem perform_eq_error {step : Journal → Desk → Except ReportError Unit × Desk}
    (failed : (perform step).run session = .error cause session') :
    step session.journal session.desk = (.error cause, session'.desk) ∧
      session'.journal = session.journal := by
  rw [perform_run] at failed
  split at failed
  next => cases failed
  next desk done => cases failed; exact ⟨done, rfl⟩

/-- A text that could not be appended to a report. -/
theorem perform_append_eq_error {path text : Journal → String} (test : Option String)
    (extension : String) (orderly : journal.Orderly q session.desk.tree)
    (named : path session.journal = journal.reportPath test extension)
    (failed : (perform fun journal desk => desk.append (path journal) (text journal)).run session =
      .error cause session') :
    cause.isAppending (journal.reportPath test extension) = true ∧
      session'.journal = session.journal ∧
      ∃ filings, journal.Filed q session.desk.tree session'.desk.tree filings ∧
        Filing.CutShort
          ⟨journal.placeOf q test extension, Utf8.encode (text session.journal), false⟩
          filings := by
  obtain ⟨failed, same⟩ := perform_eq_error failed
  obtain ⟨appending, unfinished⟩ := Desk.append_eq_error failed
  rw [named] at appending unfinished
  obtain ⟨filings, filed, left⟩ := orderly.filed_unfinished orderly.filed_append unfinished
  exact ⟨appending, same, filings, filed, orderly.cutShort_of_report left⟩

/-- A report that could not be written. -/
theorem perform_write_eq_error {path text : Journal → String} (test : Option String)
    (extension : String) (orderly : journal.Orderly q session.desk.tree)
    (named : path session.journal = journal.reportPath test extension)
    (failed : (perform fun journal desk => desk.write (path journal) (text journal)).run session =
      .error cause session') :
    cause = .notWritten (journal.reportPath test extension) ∧
      ∃ filings, journal.Filed q session.desk.tree session'.desk.tree filings ∧
        Filing.CutShort
          ⟨journal.placeOf q test extension, Utf8.encode (text session.journal), true⟩ filings := by
  obtain ⟨failed, same⟩ := perform_eq_error failed
  obtain ⟨writing, unfinished⟩ := Desk.write_eq_error failed
  rw [named] at writing unfinished
  obtain ⟨filings, filed, left⟩ := orderly.filed_unfinished orderly.filed_write unfinished
  exact ⟨writing, filings, filed, orderly.cutShort_of_report left⟩

/-! ### A run that is not written down -/

/-- The journal once a run is in the document of its test. -/
def withRun (journal : Journal) (test : OpenTest) (run : RunReport) (options : List ToolOption) :
    Journal :=
  { journal with openTest? := some (journal.recorded test run options) }

/-- **The points where writing down a run can fail**, with what has been done up to there. -/
inductive Abandoned (run : RunReport) (options : List ToolOption) (session session' : Session) :
    ReportError → Prop
  | outside (closed : session.journal.openTest? = none) (same : session' = session) :
    Abandoned run options session session' .outsideTest
  | log {test : OpenTest} (current : session.journal.openTest? = some test)
    (journal : session'.journal = session.journal)
    (logging : Unfinished (·.write (session.journal.logPath test.name run.file) ·) (logText run)
      session.desk.tree session'.desk.tree) :
    Abandoned run options session session'
      (.notWritten (session.journal.logPath test.name run.file))
  | text {test : OpenTest} {cause : ReportError} {logged : FileTree}
    (current : session.journal.openTest? = some test)
    (named : cause.isAppending session.journal.textPath = true)
    (journal : session'.journal = session.journal.withRun test run options)
    (logging : session.desk.tree.write (session.journal.logPath test.name run.file)
      (Utf8.encode (logText run)) = .ok logged)
    (showing : Unfinished (·.append session.journal.textPath ·)
      (session.journal.rowOf test.table run) logged session'.desk.tree) :
    Abandoned run options session session' cause
  | fields {test : OpenTest} {cause : ReportError} {logged shown : FileTree}
    (current : session.journal.openTest? = some test)
    (named : cause.isAppending (session.journal.reportPath test.name "csv") = true)
    (journal : session'.journal = session.journal.withRun test run options)
    (logging : session.desk.tree.write (session.journal.logPath test.name run.file)
      (Utf8.encode (logText run)) = .ok logged)
    (showing : logged.append session.journal.textPath
      (Utf8.encode (session.journal.rowOf test.table run)) = .ok shown)
    (listing : Unfinished (·.append (session.journal.reportPath test.name "csv") ·)
      (session.journal.fieldsOf run) shown session'.desk.tree) :
    Abandoned run options session session' cause

theorem currentTest_eq_error (failed : currentTest.run session = .error cause session') :
    session.journal.openTest? = none ∧ cause = .outsideTest ∧ session' = session := by
  rw [currentTest] at failed
  rcases run_bind_eq_error failed with reading | ⟨read, _, reading, failed⟩
  · cases reading
  · cases reading
    split at failed
    next => cases failed
    next closed => cases failed; exact ⟨closed, rfl, rfl⟩

/-- **A run that is not written down has been abandoned at one of these points.** -/
theorem afterRun_abandoned {run : RunReport} {options : List ToolOption}
    (failed : (afterRun run options).run session = .error cause session') :
    Abandoned run options session session' cause := by
  rw [afterRun] at failed
  rcases run_bind_eq_error failed with finding | ⟨test, found, finding, failed⟩
  · obtain ⟨closed, rfl, same⟩ := currentTest_eq_error finding
    exact .outside closed same
  obtain ⟨current, same⟩ := currentTest_eq_ok finding
  subst found
  rcases run_bind_eq_error failed with reading | ⟨_, _, reading, failed⟩
  · cases reading
  cases reading
  -- the log
  rcases run_bind_eq_error failed with logging | ⟨_, logged, logging, failed⟩
  · obtain ⟨logging, same⟩ := perform_eq_error logging
    obtain ⟨rfl, left⟩ := Desk.write_eq_error logging
    exact .log current same left
  obtain ⟨logging, kept⟩ := perform_eq_ok logging
  have logging := Desk.write_eq_ok logging
  rcases run_bind_eq_error failed with telling | ⟨_, told, telling, failed⟩
  · cases telling
  obtain ⟨same, tree⟩ := tell_eq_ok telling
  rcases run_bind_eq_error failed with altering | ⟨_, altered, altering, failed⟩
  · cases altering
  obtain ⟨changed, desk⟩ := alter_eq_ok altering
  have journal : altered.journal = session.journal.withRun test run options := by
    rw [changed, same, kept]
    rfl
  rw [← tree, ← desk] at logging
  -- the line of the text report
  rcases run_bind_eq_error failed with showing | ⟨_, shown, showing, failed⟩
  · obtain ⟨showing, same⟩ := perform_eq_error showing
    obtain ⟨named, left⟩ := Desk.append_eq_error showing
    rw [journal] at named left
    exact .text current named (same.trans journal) logging left
  obtain ⟨showing, kept⟩ := perform_eq_ok showing
  have showing := Desk.append_eq_ok showing
  rw [journal] at showing
  -- the line of the tab-separated report
  rcases run_bind_eq_error failed with listing | ⟨_, listed, listing, failed⟩
  · obtain ⟨listing, same⟩ := perform_eq_error listing
    obtain ⟨named, left⟩ := Desk.append_eq_error listing
    rw [kept, journal] at named left
    exact .fields current named (same.trans (kept.trans journal)) logging showing left
  · cases failed

/-- A run that is not written down is not counted. -/
theorem Abandoned.tally_eq {run : RunReport} {options : List ToolOption}
    (abandoned : Abandoned run options session session' cause) :
    session'.journal.tally = session.journal.tally := by
  cases abandoned with
  | outside closed same => rw [same]
  | log current journal logging => rw [journal]
  | text current named journal logging showing => rw [journal]; rfl
  | fields current named journal logging showing listing => rw [journal]; rfl

/-! ### What has been filed by then -/

variable {openTest? : Option OpenTest} {tally : Tally}

/-- The filing of a line in the text report. -/
def rowFiling (journal : Journal) (q : List String) (table : Table) (run : RunReport) : Filing :=
  ⟨journal.placeOf q none "txt", Utf8.encode (journal.rowOf table run), false⟩

/-- The filing of a line in a tab-separated report. -/
def fieldsFiling (journal : Journal) (q : List String) (test : Option String) (run : RunReport) :
    Filing :=
  ⟨journal.placeOf q test "csv", Utf8.encode (journal.fieldsOf run), false⟩

/-- **The lines that have been filed for a run** when it is given up: nothing, the line of the text
report cut short, or that line and the one of the tab-separated report cut short. It is the line
that has been cut short that could not be appended. -/
inductive LinesBegun (journal : Journal) (q : List String) (openTest? : Option OpenTest)
    (run : RunReport) (cause : ReportError) : List Filing → List Filing → Prop
  | nothing : LinesBegun journal q openTest? run cause [] []
  | text {test : OpenTest} {rows : List Filing} (current : openTest? = some test)
    (named : cause.isAppending journal.textPath = true)
    (short : (journal.rowFiling q test.table run).CutShort rows) :
    LinesBegun journal q openTest? run cause rows []
  | fields {test : OpenTest} {fields : List Filing} (current : openTest? = some test)
    (named : cause.isAppending (journal.reportPath test.name "csv") = true)
    (short : (journal.fieldsFiling q test.name run).CutShort fields) :
    LinesBegun journal q openTest? run cause [journal.rowFiling q test.table run] fields

/-- **What has been filed for a run that is not written down**: a log or a beginning of it, and
behind it the lines that have been begun. -/
theorem Abandoned.filed {run : RunReport} {options : List ToolOption}
    (abandoned : Abandoned run options session session' cause)
    (state : session.journal = journal.during openTest? tally)
    (orderly : journal.Orderly q session.desk.tree) :
    ∃ logs rows fields, journal.Filed q session.desk.tree session'.desk.tree
        (logs ++ rows ++ fields) ∧
      (∀ log ∈ logs, ∀ test, ∀ extension ∈ ["txt", "csv", "xml"],
        log.place ≠ journal.placeOf q test extension) ∧
      LinesBegun journal q openTest? run cause rows fields := by
  -- paths and lines are those of the journal that the benchmark has begun with
  have logPath : ∀ name, session.journal.logPath name run.file = journal.logPath name run.file := by
    intro name
    rw [state]
    rfl
  have textPath : session.journal.textPath = journal.reportPath none "txt" := by rw [state]; rfl
  have reportPath : ∀ name,
      session.journal.reportPath name "csv" = journal.reportPath name "csv" := by
    intro name
    rw [state]
    rfl
  have rowOf : ∀ table, session.journal.rowOf table run = journal.rowOf table run := by
    intro table
    rw [state]
    rfl
  have fieldsOf : session.journal.fieldsOf run = journal.fieldsOf run := by rw [state]; rfl
  -- a log that has been written lies at the place of no report
  have logged : ∀ {test : OpenTest} {after : FileTree},
      session.desk.tree.write (session.journal.logPath test.name run.file)
        (Utf8.encode (logText run)) = .ok after →
      ∃ log, journal.Filed q session.desk.tree after [log] ∧
        ∀ other ∈ [log], ∀ test, ∀ extension ∈ ["txt", "csv", "xml"],
          other.place ≠ journal.placeOf q test extension := by
    intro test after logging
    rw [logPath] at logging
    obtain ⟨place, led, filed⟩ := orderly.filed_write logging
    refine ⟨_, filed, fun other within name extension kind => ?_⟩
    obtain rfl := List.mem_singleton.mp within
    exact orderly.log_ne led name kind
  cases abandoned with
  | outside closed same =>
    subst same
    exact ⟨[], [], [], .nil orderly, by simp, .nothing⟩
  | log current journal' logging =>
    rw [logPath] at logging
    obtain ⟨logs, filed, left⟩ := orderly.filed_unfinished orderly.filed_write logging
    refine ⟨logs, [], [], by simpa using filed, fun log within name extension kind => ?_, .nothing⟩
    rcases left with rfl | ⟨place, led, short⟩
    · cases within
    · rw [short.place_eq log within]
      exact orderly.log_ne led name kind
  | text current named journal' logging showing =>
    obtain ⟨log, filed, beside⟩ := logged logging
    rw [textPath, rowOf] at showing
    rw [textPath] at named
    rw [state] at current
    obtain ⟨rows, shown, left⟩ := filed.orderly.filed_unfinished filed.orderly.filed_append showing
    exact ⟨[log], rows, [], by simpa using filed.append shown, beside,
      .text current named (filed.orderly.cutShort_of_report left)⟩
  | fields current named journal' logging showing listing =>
    obtain ⟨log, filed, beside⟩ := logged logging
    rw [textPath, rowOf] at showing
    rw [reportPath] at named
    rw [reportPath, fieldsOf] at listing
    rw [state] at current
    obtain ⟨place, led, shown⟩ := filed.orderly.filed_append showing
    obtain ⟨-, rfl⟩ := filed.orderly.locate_iff.mp led
    have filed := filed.append shown
    obtain ⟨fields, listed, left⟩ := filed.orderly.filed_unfinished filed.orderly.filed_append listing
    exact ⟨[log], _, fields, filed.append listed, beside,
      .fields current named (filed.orderly.cutShort_of_report left)⟩

/-- **A run that is not written down** spares the reports of all tests, but that its line may have
been begun in the tab-separated report of its own, if this is the line that is missing. -/
theorem afterRun_failed {open_ : OpenTest} {run : RunReport} {options : List ToolOption}
    (state : session.journal = journal.during (some open_) tally)
    (orderly : journal.Orderly q session.desk.tree)
    (failed : (afterRun run options).run session = .error cause session') :
    ∃ others fields, journal.Filed q session.desk.tree session'.desk.tree (others ++ fields) ∧
      journal.Spares q others ∧ (fields = [] ∨
        cause.isAppending (journal.reportPath open_.name "csv") = true ∧
          (journal.fieldsFiling q open_.name run).CutShort fields) := by
  obtain ⟨logs, rows, fields, filed, beside, begun⟩ :=
    (afterRun_abandoned failed).filed state orderly
  have spared : journal.Spares q logs := fun log within test extension kind =>
    beside log within test extension (List.mem_cons_of_mem _ kind)
  cases begun with
  | nothing => exact ⟨_, [], filed, spared.append .nil, .inl rfl⟩
  | text _ _ short => exact ⟨_, [], filed, spared.append (spares_of_text short.place_eq), .inl rfl⟩
  | fields current named short =>
    obtain rfl := Option.some.inj current
    exact ⟨_, fields, filed, spared.append (spares_of_text (by simp [rowFiling])),
      .inr ⟨named, short⟩⟩

/-! ### Tests that are not written down -/

theorem skipTest_failed {number : Nat} {test : Test}
    (state : session.journal = journal.during openTest? tally)
    (orderly : journal.Orderly q session.desk.tree)
    (failed : (skipTest number test).run session = .error cause session') :
    ∃ filings, journal.Filed q session.desk.tree session'.desk.tree filings ∧
      journal.Spares q filings := by
  rw [skipTest] at failed
  rcases run_bind_eq_error failed with telling | ⟨_, told, telling, appending⟩
  · cases telling
  obtain ⟨same, tree⟩ := tell_eq_ok telling
  rw [← tree] at orderly ⊢
  rw [← same] at state
  obtain ⟨-, -, filings, filed, short⟩ :=
    perform_append_eq_error none "txt" orderly (by rw [state]; rfl) appending
  exact ⟨filings, filed, spares_of_text short.place_eq⟩

theorem beforeTest_failed {number : Nat} {test : Test}
    (state : session.journal = journal.during openTest? tally)
    (orderly : journal.Orderly q session.desk.tree)
    (failed : (beforeTest number test).run session = .error cause session') :
    ∃ filings, journal.Filed q session.desk.tree session'.desk.tree filings ∧
      journal.Spares q filings := by
  rw [beforeTest] at failed
  rcases run_bind_eq_error failed with telling | ⟨_, told, telling, failed⟩
  · cases telling
  obtain ⟨same, tree⟩ := tell_eq_ok telling
  rw [← tree] at orderly ⊢
  rw [← same] at state
  rcases run_bind_eq_error failed with appending | ⟨_, appended, -, altering⟩
  · obtain ⟨-, -, filings, filed, short⟩ :=
      perform_append_eq_error none "txt" orderly (by rw [state]; rfl) appending
    exact ⟨filings, filed, spares_of_text short.place_eq⟩
  · cases altering

/-- **A test that is not closed**: its document has not been written, or not as a whole, or only its
last line is missing. -/
theorem afterTest_failed {open_ : OpenTest} {cpuTime wallTime : Span}
    (state : session.journal = journal.during (some open_) tally)
    (orderly : journal.Orderly q session.desk.tree)
    (failed : (afterTest cpuTime wallTime).run session = .error cause session') :
    ∃ document others, journal.Filed q session.desk.tree session'.desk.tree (document ++ others) ∧
      journal.Spares q others ∧
      let filing : Filing := ⟨journal.placeOf q open_.name "xml",
        Utf8.encode (open_.document.setTimes (cpuTime.text journal.places)
          (wallTime.text journal.places)).text, true⟩
      (cause = .notWritten (journal.reportPath open_.name "xml") ∧ filing.CutShort document ∨
        cause.isAppending journal.textPath = true ∧ document = [filing]) := by
  rw [afterTest] at failed
  rcases run_bind_eq_error failed with reading | ⟨_, _, reading, failed⟩
  · cases reading
  cases reading
  dsimp only at failed
  split at failed
  next closed =>
    rw [state] at closed
    cases closed
  next test current =>
    obtain rfl : open_ = test := by rw [state] at current; exact Option.some.inj current
    have places : session.journal.places = journal.places := by rw [state]; rfl
    rcases run_bind_eq_error failed with altering | ⟨_, altered, altering, failed⟩
    · cases altering
    obtain ⟨changed, desk⟩ := alter_eq_ok altering
    have state' : altered.journal = journal.during none tally := by
      rw [changed, state]
      rfl
    rw [← desk] at orderly ⊢
    -- the document
    rcases run_bind_eq_error failed with writing | ⟨_, written, writing, appending⟩
    · obtain ⟨named, filings, filed, short⟩ :=
        perform_write_eq_error open_.name "xml" orderly (by rw [state']; rfl) writing
      rw [places] at short
      exact ⟨filings, [], by simpa using filed, .nil, .inl ⟨named, short⟩⟩
    · obtain ⟨kept, place, led, filed⟩ := perform_write orderly writing
      rw [state'] at led
      obtain ⟨-, rfl⟩ := orderly.locate_iff.mp led
      obtain ⟨named, -, others, ended, short⟩ := perform_append_eq_error none "txt" filed.orderly
        (by rw [kept, state']; rfl) appending
      rw [places] at filed
      exact ⟨_, others, filed.append ended, spares_of_text short.place_eq, .inr ⟨named, rfl⟩⟩

end Journal

end VerifierTrials
