import VerifierTrials.Proofs.Report.Steps

/-!
# Steps of a journal that do not fail

A desk is **ready** when no write fails and the directory of the reports is in order
(`Journal.Ready`). At such a desk no step of a journal fails, as long as the names of the
reports and of the logs can be names of files, and the desk is ready after it again.
-/

namespace VerifierTrials

open FileTree

theorem run_bind_of_ok {ε σ α β : Type} {first : EStateM ε σ α} {rest : α → EStateM ε σ β}
    {s middle : σ} {a : α} (done : first.run s = .ok a middle) :
    (first >>= rest).run s = (rest a).run middle := by
  rw [EStateM.run_bind, done]

theorem run_bind_of_error {ε σ α β : Type} {first : EStateM ε σ α} {rest : α → EStateM ε σ β}
    {s final : σ} {cause : ε} (failed : first.run s = .error cause final) :
    (first >>= rest).run s = .error cause final := by
  rw [EStateM.run_bind, failed]

/-! ### At a desk -/

namespace Desk

variable {desk : Desk} {path : String} {place : List String}

/-- A text that the device takes is put into its file. -/
theorem put_of_accepted {text : String} {change : FileTree → Bytes → Except FileError FileTree}
    {unopened unwritten : ReportError} {after : FileTree} (accepted : desk.fault? = none)
    (changed : change desk.tree (Utf8.encode text) = .ok after) :
    desk.put change text unopened unwritten = (.ok (), desk.afterWrite after) := by
  rw [put, accepted, WriteFault.taken]
  dsimp only
  rw [changed]

theorem fault?_of_willing (willing : desk.faults = []) : desk.fault? = none := by
  rw [fault?, willing]
  rfl

theorem write_of_locate (willing : desk.faults = []) (led : desk.tree.locate true path = .ok place)
    (ends : AtMostFile desk.tree place) (text : String) :
    ∃ desk', desk.write path text = (.ok (), desk') ∧ desk'.faults = [] := by
  obtain ⟨after, written⟩ := FileTree.write_of_locate led ends (Utf8.encode text)
  exact ⟨desk.afterWrite after, put_of_accepted (fault?_of_willing willing) written,
    faults_afterWrite willing after⟩

theorem append_of_locate (willing : desk.faults = []) (led : desk.tree.locate true path = .ok place)
    (ends : AtMostFile desk.tree place) (text : String) :
    ∃ desk', desk.append path text = (.ok (), desk') ∧ desk'.faults = [] := by
  obtain ⟨after, appended⟩ := FileTree.append_of_locate led ends (Utf8.encode text)
  exact ⟨desk.afterWrite after, put_of_accepted (fault?_of_willing willing) appended,
    faults_afterWrite willing after⟩

end Desk

namespace Journal

variable {journal : Journal} {q : List String} {made : FileTree} {desk : Desk} {session : Session}
  {openTest? : Option OpenTest} {tally : Tally}

/-- **A desk at which reports are written**: no write fails, and the directory of the
reports is in order, with the same directories and links in it as when the benchmark began. -/
structure Ready (journal : Journal) (q : List String) (made : FileTree) (desk : Desk) : Prop where
  willing : desk.faults = []
  orderly : journal.Orderly q desk.tree
  alike : Alike q made desk.tree

theorem Ready.write (ready : journal.Ready q made desk) {path : String} {place : List String}
    (led : desk.tree.locate true path = .ok place) (ends : AtMostFile desk.tree place)
    (text : String) :
    ∃ desk', desk.write path text = (.ok (), desk') ∧ journal.Ready q made desk' := by
  obtain ⟨desk', done, willing⟩ := Desk.write_of_locate ready.willing led ends text
  obtain ⟨_, -, filed⟩ := filed_of_write ready.orderly done
  exact ⟨desk', done, willing, filed.orderly, ready.alike.trans filed.alike⟩

theorem Ready.append (ready : journal.Ready q made desk) {path : String} {place : List String}
    (led : desk.tree.locate true path = .ok place) (ends : AtMostFile desk.tree place)
    (text : String) :
    ∃ desk', desk.append path text = (.ok (), desk') ∧ journal.Ready q made desk' := by
  obtain ⟨desk', done, willing⟩ := Desk.append_of_locate ready.willing led ends text
  obtain ⟨_, -, filed⟩ := filed_of_append ready.orderly done
  exact ⟨desk', done, willing, filed.orderly, ready.alike.trans filed.alike⟩

/-! ### In a session -/

/-- **A session in which reports are written**, with the journal at a known state. -/
structure Able (journal : Journal) (q : List String) (made : FileTree)
    (openTest? : Option OpenTest) (tally : Tally) (session : Session) : Prop where
  state : session.journal = journal.during openTest? tally
  ready : journal.Ready q made session.desk

theorem perform_of_step {step : Journal → Desk → Except ReportError Unit × Desk}
    (done : step session.journal session.desk = (.ok (), desk)) :
    (perform step).run session = .ok () { session with desk } := by
  rw [perform_run, done]

theorem perform_of_error {step : Journal → Desk → Except ReportError Unit × Desk}
    {cause : ReportError} (failed : step session.journal session.desk = (.error cause, desk)) :
    (perform step).run session = .error cause { session with desk } := by
  rw [perform_run, failed]

theorem Able.write (able : journal.Able q made openTest? tally session)
    (path text : Journal → String) {place : List String}
    (led : session.desk.tree.locate true (path session.journal) = .ok place)
    (ends : AtMostFile session.desk.tree place) :
    ∃ session',
      (perform fun journal desk => desk.write (path journal) (text journal)).run session =
        .ok () session' ∧ journal.Able q made openTest? tally session' := by
  obtain ⟨desk, done, ready⟩ := able.ready.write led ends (text session.journal)
  exact ⟨_, perform_of_step done, able.state, ready⟩

theorem Able.append (able : journal.Able q made openTest? tally session)
    (path text : Journal → String) {test : Option String} {extension : String}
    (named : path session.journal = journal.reportPath test extension)
    (writable : journal.Writable test extension) :
    ∃ session',
      (perform fun journal desk => desk.append (path journal) (text journal)).run session =
        .ok () session' ∧ journal.Able q made openTest? tally session' := by
  have led : session.desk.tree.locate true (path session.journal) =
      .ok (journal.placeOf q test extension) := by
    rw [named]
    exact able.ready.orderly.locate_iff.mpr ⟨writable, rfl⟩
  obtain ⟨desk, done, ready⟩ :=
    able.ready.append led (able.ready.orderly.files _) (text session.journal)
  exact ⟨_, perform_of_step done, able.state, ready⟩

theorem Able.tell (able : journal.Able q made openTest? tally session)
    (text : Journal → Desk → String) :
    ∃ session', (tell text).run session = .ok () session' ∧
      journal.Able q made openTest? tally session' :=
  ⟨_, rfl, able.state, able.ready.willing, able.ready.orderly, able.ready.alike⟩

theorem Able.alter (able : journal.Able q made openTest? tally session)
    (change : Journal → Journal) (further? : Option OpenTest) (counted : Tally)
    (changed : change (journal.during openTest? tally) = journal.during further? counted) :
    ∃ session', (alter change).run session = .ok () session' ∧
      journal.Able q made further? counted session' :=
  ⟨_, rfl, by rw [← changed, ← able.state], able.ready⟩

/-! ### Steps that do not fail -/

/-- A test left out is written down. -/
theorem Able.skipTest (able : journal.Able q made openTest? tally session)
    (writable : journal.Writable none "txt") (number : Nat) (test : Test) :
    ∃ session', (skipTest number test).run session = .ok () session' ∧
      journal.Able q made openTest? tally session' := by
  obtain ⟨told, telling, able⟩ :=
    able.tell fun _ _ => "\nskipping test" ++ shownName test.name ++ "\n"
  obtain ⟨last, appending, able⟩ := able.append textPath
    (fun journal => Table.skipped test.name number journal.testCount)
    (by rw [able.state]; rfl) writable
  refine ⟨last, ?_, able⟩
  rw [Journal.skipTest, run_bind_of_ok telling]
  exact appending

/-- A test opened is written down. -/
theorem Able.beforeTest (able : journal.Able q made openTest? tally session)
    (writable : journal.Writable none "txt") (number : Nat) (test : Test) :
    ∃ session', (beforeTest number test).run session = .ok () session' ∧
      journal.Able q made (some (journal.opened number test)) tally session' := by
  obtain ⟨told, telling, able⟩ :=
    able.tell fun _ _ => "\nrunning test" ++ shownName test.name ++ "\n"
  obtain ⟨shown, appending, able⟩ := able.append textPath
    (fun journal => (journal.tableOf test).opening test.name number journal.testCount
      (journal.optionsOf test)) (by rw [able.state]; rfl) writable
  obtain ⟨last, altering, able⟩ := able.alter (fun journal =>
    { journal with
      openTest? := some
        { number
          name := test.name
          files := test.items.length
          table := journal.tableOf test
          document := journal.documentOf test } })
    (some (journal.opened number test)) tally rfl
  refine ⟨last, ?_, able⟩
  rw [Journal.beforeTest, run_bind_of_ok telling, run_bind_of_ok appending]
  exact altering

/-- A run begun is shown. -/
theorem Able.beforeRun (able : journal.Able q made openTest? tally session) (file : String) :
    ∃ session', (beforeRun file).run session = .ok () session' ∧
      journal.Able q made openTest? tally session' :=
  able.tell _

theorem Able.currentTest {test : OpenTest} (able : journal.Able q made (some test) tally session) :
    currentTest.run session = .ok test session :=
  currentTest_of_open (by rw [able.state]; rfl)

/-- **A place for logs**: the log directory stands beside the reports, and there are only
files in it. -/
structure KeepsLogs (journal : Journal) (q : List String) (made : FileTree) : Prop where
  named : journal.logDirectory = journal.base ++ "logfiles"
  directory : made.entry? (journal.logsAt q) = some .directory
  files : ∀ name, AtMostFile made (journal.logsAt q ++ [name])

theorem KeepsLogs.of_alike {after : FileTree} (logs : journal.KeepsLogs q made)
    (alike : Alike q made after) : journal.KeepsLogs q after := by
  have inside : q <+: journal.logsAt q := List.prefix_append _ _
  exact ⟨logs.named, (alike.directory _ inside).mpr logs.directory,
    fun name => alike.atMostFile (inside.trans (List.prefix_append _ _)) (logs.files name)⟩

theorem KeepsLogs.locate_iff (logs : journal.KeepsLogs q made) (orderly : journal.Orderly q made)
    {test : Option String} {source : String} (plain : '/' ∉ (logName test source).toList)
    {place : List String} :
    made.locate true (journal.logPath test source) = .ok place ↔
      journal.Loggable test source ∧ place = journal.logsAt q ++ [logName test source] :=
  orderly.locate_log_iff logs.named logs.directory plain (logs.files _)

/-- A log that can be written has a place. -/
theorem Able.log (able : journal.Able q made openTest? tally session)
    (logs : journal.KeepsLogs q made) {test : Option String} {source : String}
    (plain : '/' ∉ (logName test source).toList) (loggable : journal.Loggable test source) :
    session.desk.tree.locate true (journal.logPath test source) =
        .ok (journal.logsAt q ++ [logName test source]) ∧
      AtMostFile session.desk.tree (journal.logsAt q ++ [logName test source]) := by
  have logs := logs.of_alike able.ready.alike
  exact ⟨(logs.locate_iff able.ready.orderly plain).mpr ⟨loggable, rfl⟩, logs.files _⟩

/-- **A run that is over is written down.** -/
theorem Able.afterRun {open_ : OpenTest} (able : journal.Able q made (some open_) tally session)
    (logs : journal.KeepsLogs q made) (writable : journal.Writable none "txt")
    (listed : journal.Writable open_.name "csv") {run : RunReport}
    (plain : '/' ∉ (logName open_.name run.file).toList)
    (loggable : journal.Loggable open_.name run.file) (options : List ToolOption) :
    ∃ session', (afterRun run options).run session = .ok () session' ∧
      journal.Able q made (some (journal.recorded open_ run options))
        (tally.add run.file run.status) session' := by
  obtain ⟨led, ends⟩ := able.log logs plain loggable
  have current := able.currentTest
  have places : session.journal.places = journal.places := by rw [able.state]; rfl
  obtain ⟨logged, logging, able⟩ := able.write
    (fun journal => journal.logPath open_.name run.file) (fun _ => logText run)
    (by rw [able.state]; exact led) ends
  obtain ⟨told, telling, able⟩ := able.tell fun _ _ =>
    Text.left 8 run.status.text ++ Text.right 8 (run.cpuTime.text journal.places) ++
      Text.right 8 (run.wallTime.text journal.places) ++ "\n"
  obtain ⟨altered, altering, able⟩ := able.alter
    (fun state => { state with openTest? := some (journal.recorded open_ run options) })
    (some (journal.recorded open_ run options)) tally rfl
  obtain ⟨shown, showing, able⟩ := able.append textPath
    (fun _ => journal.rowOf open_.table run) (by rw [able.state]; rfl) writable
  obtain ⟨fields, listing, able⟩ := able.append
    (fun state => state.reportPath open_.name "csv") (fun _ => journal.fieldsOf run)
    (by rw [able.state]; rfl) listed
  obtain ⟨last, counting, able⟩ := able.alter
    (fun state => { state with tally := state.tally.add run.file run.status })
    (some (journal.recorded open_ run options)) (tally.add run.file run.status) rfl
  refine ⟨last, ?_, able⟩
  rw [Journal.afterRun, run_bind_of_ok current, EStateM.run_bind, EStateM.run_get]
  dsimp only
  rw [places]
  refine (run_bind_of_ok logging).trans ?_
  refine (run_bind_of_ok telling).trans ?_
  refine (run_bind_of_ok altering).trans ?_
  refine (run_bind_of_ok showing).trans ?_
  exact (run_bind_of_ok listing).trans counting

/-- **A test that is over is written down.** -/
theorem Able.afterTest {open_ : OpenTest} (able : journal.Able q made (some open_) tally session)
    (writable : journal.Writable none "txt") (documented : journal.Writable open_.name "xml")
    (cpuTime wallTime : Span) :
    ∃ session', (afterTest cpuTime wallTime).run session = .ok () session' ∧
      journal.Able q made none tally session' := by
  have current : session.journal.openTest? = some open_ := by rw [able.state]; rfl
  have places : session.journal.places = journal.places := by rw [able.state]; rfl
  obtain ⟨altered, altering, able⟩ := able.alter
    (fun state => { state with openTest? := none }) none tally rfl
  obtain ⟨written, writing, able⟩ := able.write
    (fun state => state.reportPath open_.name "xml")
    (fun _ => (open_.document.setTimes (cpuTime.text journal.places)
      (wallTime.text journal.places)).text)
    (by rw [able.state]; exact able.ready.orderly.locate_iff.mpr ⟨documented, rfl⟩)
    (able.ready.orderly.files _)
  obtain ⟨last, appending, able⟩ := able.append textPath
    (fun _ => open_.table.closing open_.number open_.files (cpuTime.text journal.places)
      (wallTime.text journal.places)) (by rw [able.state]; rfl) writable
  refine ⟨last, ?_, able⟩
  rw [Journal.afterTest, EStateM.run_bind, EStateM.run_get]
  dsimp only
  rw [current, places]
  refine (run_bind_of_ok altering).trans ?_
  exact (run_bind_of_ok writing).trans appending

/-! ### The beginning -/

theorem atDesk_of_step {step : Desk → Except ReportError Unit × Desk} {desk' : Desk}
    (done : step desk = (.ok (), desk')) : (atDesk step).run desk = .ok () desk' := by
  rw [atDesk_run, done]

/-- A report written when the journal begins. -/
theorem Ready.writeReport (ready : journal.Ready q made desk) {test : Option String}
    {extension : String} (writable : journal.Writable test extension) (text : String) :
    ∃ desk', (atDesk fun desk => desk.write (journal.reportPath test extension) text).run desk =
        .ok () desk' ∧ journal.Ready q made desk' := by
  obtain ⟨desk', done, ready'⟩ :=
    ready.write (ready.orderly.locate_iff.mpr ⟨writable, rfl⟩) (ready.orderly.files _) text
  exact ⟨desk', atDesk_of_step done, ready'⟩

/-- The titles of the tab-separated reports are written. -/
theorem Ready.writeTitles {settings : Settings} {tests : List Test}
    (ready : journal.Ready q made desk)
    (writable : ∀ test ∈ tests, settings.selects test.name → journal.Writable test.name "csv") :
    ∃ desk', EStateM.run (forIn tests PUnit.unit fun (test : Test) _ =>
        if settings.selects test.name then do
          atDesk fun desk =>
            desk.write (journal.reportPath test.name "csv") (Separated.header journal.titles)
          pure (ForInStep.yield PUnit.unit)
        else pure (ForInStep.yield PUnit.unit)) desk = .ok PUnit.unit desk' ∧
      journal.Ready q made desk' := by
  induction tests generalizing desk with
  | nil => exact ⟨desk, rfl, ready⟩
  | cons test tests ih =>
    have later := fun other within => writable other (List.mem_cons_of_mem test within)
    rw [List.forIn_cons]
    by_cases selected : settings.selects test.name = true
    · obtain ⟨titled, titling, ready⟩ := ready.writeReport
        (writable test (by simp) selected) (Separated.header journal.titles)
      obtain ⟨last, further, ready⟩ := ih ready later
      refine ⟨last, ?_, ready⟩
      rw [if_pos selected, EStateM.run_bind, run_bind_of_ok titling]
      exact further
    · obtain ⟨last, further, ready⟩ := ih ready later
      refine ⟨last, ?_, ready⟩
      rw [if_neg selected]
      exact further

/-- **A journal begins**, once the directory of the logs can be made. -/
theorem start_able {benchmark : Benchmark} {version : String} {machine : Machine}
    {settings : Settings} (willing : desk.faults = [])
    (begun : journal = blank benchmark version machine settings tally desk.now)
    (making : desk.tree.makeDirectories journal.logDirectory = .ok made)
    (orderly : journal.Orderly q made) (text : journal.Writable none "txt")
    (fields : ∀ test ∈ benchmark.tests, settings.selects test.name →
      journal.Writable test.name "csv") :
    ∃ desk', (start benchmark version machine settings tally).run desk = .ok journal desk' ∧
      journal.Able q made none tally ⟨journal, desk'⟩ := by
  have ready : journal.Ready q made { desk with tree := made } :=
    ⟨willing, orderly, .refl q made⟩
  have makingDone : (atDesk fun desk => desk.makeDirectories journal.logDirectory).run desk =
      .ok () { desk with tree := made } := by
    refine atDesk_of_step ?_
    rw [Desk.makeDirectories, making]
  obtain ⟨headed, heading, ready⟩ :=
    ready.writeReport text (journal.header benchmark version).text
  obtain ⟨titled, titling, ready⟩ := ready.writeTitles fields
  refine ⟨titled, ?_, by rw [begun]; rfl, ready⟩
  rw [start, EStateM.run_bind, EStateM.run_get]
  dsimp only
  rw [← begun]
  refine (run_bind_of_ok makingDone).trans ?_
  refine (run_bind_of_ok heading).trans ?_
  exact run_bind_of_ok titling

end Journal

end VerifierTrials
