import VerifierTrials.Proofs.Report.Filings

/-!
# What the steps of a journal file

For each step of a journal: the state that the journal is in afterwards, and what has been
filed. The state of a journal is known from the test that is open and from the tally
(`Journal.during`); everything else in it stays as it was when the benchmark began.
-/

namespace VerifierTrials

open FileTree

/-! ### Actions one after the other -/

section Actions

variable {ε σ α β : Type} {first : EStateM ε σ α} {rest : α → EStateM ε σ β} {s s' : σ}

theorem run_bind_eq_ok {b : β} (ran : (first >>= rest).run s = .ok b s') :
    ∃ a middle, first.run s = .ok a middle ∧ (rest a).run middle = .ok b s' := by
  rw [EStateM.run_bind] at ran
  split at ran
  next a middle done => exact ⟨a, middle, done, ran⟩
  next => cases ran

theorem run_bind_eq_error {e : ε} (ran : (first >>= rest).run s = .error e s') :
    first.run s = .error e s' ∨
      ∃ a middle, first.run s = .ok a middle ∧ (rest a).run middle = .error e s' := by
  rw [EStateM.run_bind] at ran
  split at ran
  next a middle done => exact .inr ⟨a, middle, done, ran⟩
  next e middle failed => cases ran; exact .inl failed

/-- **What an action leaves in the end**, whether it fails or not. -/
def Ends (action : EStateM ε σ α) (s final : σ) : Prop :=
  (∃ value, action.run s = .ok value final) ∨ ∃ cause, action.run s = .error cause final

theorem exists_ends (action : EStateM ε σ α) (s : σ) : ∃ final, Ends action s final := by
  cases ran : action.run s with
  | ok value final => exact ⟨final, .inl ⟨value, ran⟩⟩
  | error cause final => exact ⟨final, .inr ⟨cause, ran⟩⟩

end Actions

namespace Journal

variable {journal : Journal} {q : List String} {session session' : Session}

theorem perform_run (step : Journal → Desk → Except ReportError Unit × Desk) (session : Session) :
    (perform step).run session =
      match step session.journal session.desk with
      | (.ok (), desk) => .ok () { session with desk }
      | (.error cause, desk) => .error cause { session with desk } :=
  rfl

theorem perform_eq_ok {step : Journal → Desk → Except ReportError Unit × Desk}
    (ran : (perform step).run session = .ok () session') :
    step session.journal session.desk = (.ok (), session'.desk) ∧
      session'.journal = session.journal := by
  rw [perform_run] at ran
  split at ran
  next desk done => cases ran; exact ⟨done, rfl⟩
  next => cases ran

theorem tell_eq_ok {text : Journal → Desk → String}
    (ran : (tell text).run session = .ok () session') :
    session'.journal = session.journal ∧ session'.desk.tree = session.desk.tree := by
  cases ran
  exact ⟨rfl, rfl⟩

theorem alter_eq_ok {change : Journal → Journal}
    (ran : (alter change).run session = .ok () session') :
    session'.journal = change session.journal ∧ session'.desk = session.desk := by
  cases ran
  exact ⟨rfl, rfl⟩

/-! ### The state of a journal -/

/-- **The journal while a test is open**, or none, with the tally at that time. -/
def during (journal : Journal) (openTest? : Option OpenTest) (tally : Tally) : Journal :=
  { journal with openTest?, tally }

/-- A test that has just been opened. -/
def opened (journal : Journal) (number : Nat) (test : Test) : OpenTest :=
  { number
    name := test.name
    files := test.items.length
    table := journal.tableOf test
    document := journal.documentOf test }

variable {openTest? : Option OpenTest} {tally : Tally}

/-- Where the reports go does not depend on the test that is open. -/
theorem Orderly.during {tree : FileTree} (orderly : journal.Orderly q tree) :
    (journal.during openTest? tally).Orderly q tree :=
  ⟨orderly.way, orderly.files, orderly.unlinked⟩

/-- The line of a run in the text report. -/
def rowOf (journal : Journal) (table : Table) (run : RunReport) : String :=
  table.row run.file run.status.text (run.cpuTime.text journal.places)
    (run.wallTime.text journal.places) (run.cells.map Cell.value) ++ "\n"

/-- The line of a run in the tab-separated report. -/
def fieldsOf (journal : Journal) (run : RunReport) : String :=
  Separated.row run.file run.status.text (run.cpuTime.text journal.places)
    (run.wallTime.text journal.places) (run.cells.map Cell.value)

/-- The element of a run in the document of its test. -/
def elementFor (journal : Journal) (run : RunReport) (options : List ToolOption) : RunElement :=
  elementOf run options (run.cpuTime.text journal.places) (run.wallTime.text journal.places)

/-- A text appended to a report. -/
theorem perform_append {path text : Journal → String} (test : Option String) (extension : String)
    (orderly : journal.Orderly q session.desk.tree)
    (named : path session.journal = journal.reportPath test extension)
    (ran : (perform fun journal desk => desk.append (path journal) (text journal)).run session =
      .ok () session') :
    session'.journal = session.journal ∧
      journal.Filed q session.desk.tree session'.desk.tree
        [⟨journal.placeOf q test extension, Utf8.encode (text session.journal), false⟩] := by
  obtain ⟨done, same⟩ := perform_eq_ok ran
  obtain ⟨place, led, filed⟩ := filed_of_append orderly done
  rw [named] at led
  obtain ⟨-, rfl⟩ := orderly.locate_iff.mp led
  exact ⟨same, filed⟩

/-- A text written to a file. -/
theorem perform_write {path text : Journal → String} (orderly : journal.Orderly q session.desk.tree)
    (ran : (perform fun journal desk => desk.write (path journal) (text journal)).run session =
      .ok () session') :
    session'.journal = session.journal ∧
      ∃ place, session.desk.tree.locate true (path session.journal) = .ok place ∧
        journal.Filed q session.desk.tree session'.desk.tree
          [⟨place, Utf8.encode (text session.journal), true⟩] := by
  obtain ⟨done, same⟩ := perform_eq_ok ran
  exact ⟨same, filed_of_write orderly done⟩

theorem skipTest_filed {number : Nat} {test : Test}
    (state : session.journal = journal.during openTest? tally)
    (orderly : journal.Orderly q session.desk.tree)
    (ran : (skipTest number test).run session = .ok () session') :
    session'.journal = session.journal ∧
      journal.Filed q session.desk.tree session'.desk.tree
        [⟨journal.placeOf q none "txt",
          Utf8.encode (Table.skipped test.name number journal.testCount), false⟩] := by
  rw [skipTest] at ran
  obtain ⟨_, told, telling, appending⟩ := run_bind_eq_ok ran
  obtain ⟨same, tree⟩ := tell_eq_ok telling
  rw [← tree] at orderly ⊢
  rw [← same] at state ⊢
  obtain ⟨kept, filed⟩ := perform_append none "txt" orderly (by rw [state]; rfl) appending
  rw [state] at filed
  exact ⟨kept, filed⟩

theorem beforeTest_filed {number : Nat} {test : Test}
    (state : session.journal = journal.during openTest? tally)
    (orderly : journal.Orderly q session.desk.tree)
    (ran : (beforeTest number test).run session = .ok () session') :
    session'.journal = journal.during (some (journal.opened number test)) tally ∧
      journal.Filed q session.desk.tree session'.desk.tree
        [⟨journal.placeOf q none "txt",
          Utf8.encode ((journal.tableOf test).opening test.name number journal.testCount
            (journal.optionsOf test)), false⟩] := by
  rw [beforeTest] at ran
  obtain ⟨_, told, telling, ran⟩ := run_bind_eq_ok ran
  obtain ⟨same, tree⟩ := tell_eq_ok telling
  rw [← tree] at orderly ⊢
  rw [← same] at state
  obtain ⟨_, appended, appending, altering⟩ := run_bind_eq_ok ran
  obtain ⟨kept, filed⟩ := perform_append none "txt" orderly (by rw [state]; rfl) appending
  obtain ⟨changed, desk⟩ := alter_eq_ok altering
  rw [state] at filed
  rw [changed, kept, state, desk]
  exact ⟨rfl, filed⟩

theorem currentTest_eq_ok {test : OpenTest} (ran : currentTest.run session = .ok test session') :
    session.journal.openTest? = some test ∧ session' = session := by
  rw [currentTest] at ran
  obtain ⟨read, _, reading, ran⟩ := run_bind_eq_ok ran
  cases reading
  split at ran
  next current => cases ran; exact ⟨current, rfl⟩
  next => cases ran

theorem currentTest_of_open {test : OpenTest} (current : session.journal.openTest? = some test) :
    currentTest.run session = .ok test session := by
  rw [currentTest, EStateM.run_bind, EStateM.run_get]
  dsimp only
  rw [current]
  rfl

/-- A run that has been written down has a log. -/
theorem afterRun_located {run : RunReport} {options : List ToolOption}
    (ran : (afterRun run options).run session = .ok () session') :
    ∃ test, session.journal.openTest? = some test ∧
      ∃ log, session.desk.tree.locate true (session.journal.logPath test.name run.file) =
        .ok log := by
  rw [afterRun] at ran
  obtain ⟨test, found, finding, ran⟩ := run_bind_eq_ok ran
  obtain ⟨current, same⟩ := currentTest_eq_ok finding
  subst found
  obtain ⟨_, _, reading, ran⟩ := run_bind_eq_ok ran
  cases reading
  obtain ⟨_, logged, logging, -⟩ := run_bind_eq_ok ran
  obtain ⟨log, led, -⟩ := write_eq_ok (Desk.write_eq_ok (perform_eq_ok logging).1)
  exact ⟨test, current, log, led⟩

/-- The journal once a run has been written down. -/
def recorded (journal : Journal) (open_ : OpenTest) (run : RunReport) (options : List ToolOption) :
    OpenTest :=
  { open_ with document := open_.document.addRun (journal.elementFor run options) }

theorem afterRun_filed {open_ : OpenTest} {run : RunReport} {options : List ToolOption}
    (state : session.journal = journal.during (some open_) tally)
    (orderly : journal.Orderly q session.desk.tree)
    (ran : (afterRun run options).run session = .ok () session') :
    session'.journal =
        journal.during (some (journal.recorded open_ run options)) (tally.add run.file run.status) ∧
      ∃ log, session.desk.tree.locate true (journal.logPath open_.name run.file) = .ok log ∧
        journal.Filed q session.desk.tree session'.desk.tree
          [⟨log, Utf8.encode (logText run), true⟩,
            ⟨journal.placeOf q none "txt", Utf8.encode (journal.rowOf open_.table run), false⟩,
            ⟨journal.placeOf q open_.name "csv", Utf8.encode (journal.fieldsOf run), false⟩] := by
  rw [afterRun] at ran
  obtain ⟨test, found, finding, ran⟩ := run_bind_eq_ok ran
  obtain ⟨current, same⟩ := currentTest_eq_ok finding
  subst found
  obtain rfl : open_ = test := by rw [state] at current; exact Option.some.inj current
  obtain ⟨_, _, reading, ran⟩ := run_bind_eq_ok ran
  cases reading
  have places : session.journal.places = journal.places := by rw [state]; rfl
  -- the log
  obtain ⟨_, logged, logging, ran⟩ := run_bind_eq_ok ran
  obtain ⟨kept, log, led, filedLog⟩ := perform_write orderly logging
  rw [state] at led
  obtain ⟨_, told, telling, ran⟩ := run_bind_eq_ok ran
  obtain ⟨same, tree⟩ := tell_eq_ok telling
  obtain ⟨_, altered, altering, ran⟩ := run_bind_eq_ok ran
  obtain ⟨changed, desk⟩ := alter_eq_ok altering
  have state' : altered.journal =
      journal.during (some (journal.recorded open_ run options)) tally := by
    rw [changed, same, kept, state]
    rfl
  have orderly' : journal.Orderly q altered.desk.tree := by
    rw [desk, tree]
    exact filedLog.orderly
  -- the line of the text report
  obtain ⟨_, shown, showing, ran⟩ := run_bind_eq_ok ran
  obtain ⟨kept', filedText⟩ := perform_append none "txt" orderly' (by rw [state']; rfl) showing
  -- the line of the tab-separated report
  obtain ⟨_, listed, listing, ran⟩ := run_bind_eq_ok ran
  obtain ⟨kept'', filedFields⟩ := perform_append open_.name "csv" filedText.orderly
    (by rw [kept', state']; rfl) listing
  obtain ⟨counted, desk'⟩ := alter_eq_ok ran
  refine ⟨?_, log, led, ?_⟩
  · rw [counted, kept'', kept', state']
    rfl
  · rw [desk, tree, places] at filedText
    rw [places] at filedFields
    rw [desk']
    exact filedLog.append (filedText.append filedFields)

/-- The document of a test that is over. -/
theorem afterTest_filed {open_ : OpenTest} {cpuTime wallTime : Span}
    (state : session.journal = journal.during (some open_) tally)
    (orderly : journal.Orderly q session.desk.tree)
    (ran : (afterTest cpuTime wallTime).run session = .ok () session') :
    session'.journal = journal.during none tally ∧
      journal.Filed q session.desk.tree session'.desk.tree
        [⟨journal.placeOf q open_.name "xml",
            Utf8.encode (open_.document.setTimes (cpuTime.text journal.places)
              (wallTime.text journal.places)).text, true⟩,
          ⟨journal.placeOf q none "txt",
            Utf8.encode (open_.table.closing open_.number open_.files
              (cpuTime.text journal.places) (wallTime.text journal.places)), false⟩] := by
  rw [afterTest] at ran
  obtain ⟨_, _, reading, ran⟩ := run_bind_eq_ok ran
  cases reading
  dsimp only at ran
  split at ran
  next => cases ran
  next test current =>
    obtain rfl : open_ = test := by rw [state] at current; exact Option.some.inj current
    have places : session.journal.places = journal.places := by rw [state]; rfl
    obtain ⟨_, altered, altering, ran⟩ := run_bind_eq_ok ran
    obtain ⟨changed, desk⟩ := alter_eq_ok altering
    have state' : altered.journal = journal.during none tally := by
      rw [changed, state]
      rfl
    rw [← desk] at orderly ⊢
    obtain ⟨_, written, writing, ran⟩ := run_bind_eq_ok ran
    obtain ⟨kept, place, led, filedDocument⟩ := perform_write orderly writing
    rw [state'] at led
    obtain ⟨-, rfl⟩ := orderly.locate_iff.mp led
    obtain ⟨kept', filedText⟩ := perform_append none "txt" filedDocument.orderly
      (by rw [kept, state']; rfl) ran
    rw [places] at filedDocument filedText
    exact ⟨by rw [kept', kept, state'], filedDocument.append filedText⟩

/-! ### The beginning -/

theorem atDesk_run (step : Desk → Except ReportError Unit × Desk) (desk : Desk) :
    (atDesk step).run desk =
      match step desk with
      | (.ok (), desk) => .ok () desk
      | (.error cause, desk) => .error cause desk :=
  rfl

theorem atDesk_eq_ok {step : Desk → Except ReportError Unit × Desk} {desk desk' : Desk}
    (ran : (atDesk step).run desk = .ok () desk') : step desk = (.ok (), desk') := by
  rw [atDesk_run] at ran
  split at ran
  next desk done => cases ran; exact done
  next => cases ran

/-- What is filed for a test when the journal begins: the titles of its tab-separated report. -/
def titleFilings (journal : Journal) (q : List String) (settings : Settings) (test : Test) :
    List Filing :=
  if settings.selects test.name then
    [⟨journal.placeOf q test.name "csv", Utf8.encode (Separated.header journal.titles), true⟩]
  else []

/-- The titles of the tab-separated reports written, one report after the other. -/
theorem titles_filed {settings : Settings} {tests : List Test} {desk desk' : Desk} {u : PUnit}
    (orderly : journal.Orderly q desk.tree)
    (ran : EStateM.run (forIn tests PUnit.unit fun (test : Test) _ =>
        if settings.selects test.name then do
          atDesk fun desk =>
            desk.write (journal.reportPath test.name "csv") (Separated.header journal.titles)
          pure (ForInStep.yield PUnit.unit)
        else pure (ForInStep.yield PUnit.unit)) desk = .ok u desk') :
    journal.Filed q desk.tree desk'.tree (tests.flatMap (journal.titleFilings q settings)) ∧
      ∀ test ∈ tests, settings.selects test.name → journal.Writable test.name "csv" := by
  -- each report that is written leaves the directory in order for those behind it
  induction tests generalizing desk with
  | nil => cases ran; exact ⟨.nil orderly, by simp⟩
  | cons test tests ih =>
    rw [List.forIn_cons] at ran
    obtain ⟨_, titled, titling, further⟩ := run_bind_eq_ok ran
    split at titling
    next selected =>
      obtain ⟨_, written, writing, going⟩ := run_bind_eq_ok titling
      cases going
      obtain ⟨place, led, filed⟩ := filed_of_write orderly (atDesk_eq_ok writing)
      obtain ⟨writable, rfl⟩ := orderly.locate_iff.mp led
      obtain ⟨rest, writables⟩ := ih filed.orderly further
      refine ⟨?_, ?_⟩
      · rw [List.flatMap_cons, titleFilings, if_pos selected]
        exact filed.append rest
      · intro other within chosen
        rcases List.mem_cons.mp within with rfl | within
        · exact writable
        · exact writables other within chosen
    next left =>
      cases titling
      obtain ⟨rest, writables⟩ := ih orderly further
      refine ⟨?_, ?_⟩
      · rw [List.flatMap_cons, titleFilings, if_neg left]
        exact rest
      · intro other within chosen
        rcases List.mem_cons.mp within with rfl | within
        · exact absurd chosen left
        · exact writables other within chosen

/-- **The beginning of a journal**: once the directory of the logs is there, the header of the
text report is filed, and the titles of the selected tests. -/
theorem start_filed {benchmark : Benchmark} {version : String} {machine : Machine}
    {settings : Settings} {tally : Tally} {desk desk' : Desk}
    (ran : (start benchmark version machine settings tally).run desk = .ok journal desk') :
    journal = blank benchmark version machine settings tally desk.now ∧
      ∃ made q, desk.tree.makeDirectories journal.logDirectory = .ok made ∧
        made.locate false journal.textPath = .ok (journal.placeOf q none "txt") ∧
        (journal.Orderly q made →
          journal.Filed q made desk'.tree
            (⟨journal.placeOf q none "txt",
                Utf8.encode (journal.header benchmark version).text, true⟩ ::
              benchmark.tests.flatMap (journal.titleFilings q settings)) ∧
          ∀ test ∈ benchmark.tests, settings.selects test.name →
            journal.Writable test.name "csv") := by
  rw [start] at ran
  obtain ⟨_, _, reading, ran⟩ := run_bind_eq_ok ran
  cases reading
  dsimp only at ran
  obtain ⟨_, made, making, ran⟩ := run_bind_eq_ok ran
  obtain ⟨_, headed, heading, ran⟩ := run_bind_eq_ok ran
  obtain ⟨_, titled, titling, ran⟩ := run_bind_eq_ok ran
  cases ran
  have writing := atDesk_eq_ok heading
  obtain ⟨p, led, -⟩ := write_eq_ok (Desk.write_eq_ok writing)
  obtain ⟨q, way⟩ := exists_way led
  refine ⟨rfl, made.tree, q, Desk.makeDirectories_eq_ok (atDesk_eq_ok making), way,
    fun orderly => ?_⟩
  obtain ⟨place, led, headerFiled⟩ := filed_of_write orderly writing
  obtain ⟨-, rfl⟩ := orderly.locate_iff.mp led
  obtain ⟨titlesFiled, writable⟩ := titles_filed headerFiled.orderly titling
  exact ⟨headerFiled.append titlesFiled, writable⟩

end Journal

end VerifierTrials
