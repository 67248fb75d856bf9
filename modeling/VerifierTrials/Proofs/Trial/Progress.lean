import VerifierTrials.Proofs.Report.Progress
import VerifierTrials.Proofs.Trial.Beginning

/-!
# A benchmark that comes to its end

A benchmark whose reports are left alone and have **room** (`Trial.HasRoom`) never fails
because of a report: it comes to its end, unless the host refuses one of its runs
(`Trial.run_progress`), be it that the tool is stopped, or that a value of it cannot be written. The
invariant is that the journal is at a ready desk, in a known
state, before each run and before each test.

Small benchmarks (`Trial.IsSmall`) show that the assumptions can be met: they begin in an empty
directory, and have room as soon as the names of their tests and files are short enough
(`Trial.IsSmall.run_ok`). One of them has the result that its only run has on the host as a
parameter.
-/

namespace VerifierTrials.Trial

open FileTree

variable {σ : Type} {setup : Setup σ} {test : Test} {trial final : Trial σ} {journal : Journal}
  {q : List String} {made : FileTree} {tally : Tally}

/-- What a journal has written down in its session it has written down in the trial. -/
theorem exists_reported {α : Type} {action : Reporting α} {a : α} {session : Session}
    {openTest? : Option OpenTest} (done : action.run trial.session = .ok a session)
    (able : journal.Able q made openTest? tally session) :
    ∃ next, (report action).run trial = .ok a next ∧
      journal.Able q made openTest? tally next.session := by
  exact ⟨{ trial with session }, by rw [report_run, done], able⟩

/-- Why a run cannot be reported that has had a result. -/
def refusal? (benchmark : Benchmark) : Except BenchmarkError Outcome → Option BenchmarkError
  | .error cause => some cause
  | .ok outcome => if areWritable benchmark outcome.output then none else some .placesOutOfRange

/-- **The host refuses a run** that has been made ready, in some state of the files and of its
own. -/
def Refuses (setup : Setup σ) (test : Test) (item : WorkItem) (cause : BenchmarkError) : Prop :=
  ∃ trial invocation made state,
    readying setup test item trial = (.ok invocation, made, state) ∧
    refusal? setup.benchmark (resultOn setup invocation made state) = some cause

/-- **What the reports of a test need**: a text report, a tab-separated one, and logs. -/
structure Fits (journal : Journal) (q : List String) (made : FileTree) (test : Test) : Prop where
  text : journal.Writable none "txt"
  fields : journal.Writable test.name "csv"
  logs : journal.KeepsLogs q made
  plain : ∀ item ∈ test.items, '/' ∉ (Journal.logName test.name item.file).toList
  loggable : ∀ item ∈ test.items, journal.Loggable test.name item.file

/-- **The log of a run lies in the log directory**, under its own name, if this is a name at
all. -/
theorem Reported.placed {name : Option String} {run : FinishedRun}
    (reported : Reported setup journal q made name run) (logs : journal.KeepsLogs q made)
    (plain : '/' ∉ (Journal.logName name run.report.file).toList) :
    journal.Loggable name run.report.file ∧
      run.log = journal.logsAt q ++ [Journal.logName name run.report.file] := by
  obtain ⟨tree, orderly, alike, led⟩ := reported.log
  exact ((logs.of_alike alike).locate_iff orderly plain).mp led

/-! ### Runs -/

/-- A run that the host does not refuse comes to its end. -/
theorem runItem_of_accepted {item : WorkItem} {invocation : Invocation} {left : FileTree}
    {state : σ} (preparing : readying setup test item trial = (.ok invocation, left, state))
    (accepted : refusal? setup.benchmark (resultOn setup invocation left state) = none) :
    ∃ run final, (runItem setup test item).run trial = .ok run final := by
  rw [runItem_of_ok preparing, runInvocation_eq, resultOn_afterReadying]
  cases result : resultOn setup invocation left state with
  | error cause =>
    rw [result] at accepted
    cases accepted
  | ok outcome =>
    rw [result, refusal?] at accepted
    split at accepted
    next writable =>
      simp only [if_pos writable]
      exact ⟨_, _, rfl⟩
    next => cases accepted

/-- A run that the host refuses stops the benchmark. -/
theorem runItem_of_refused {item : WorkItem} {invocation : Invocation} {left : FileTree}
    {state : σ} {cause : BenchmarkError}
    (preparing : readying setup test item trial = (.ok invocation, left, state))
    (refused : refusal? setup.benchmark (resultOn setup invocation left state) = some cause) :
    ∃ final, (runItem setup test item).run trial = .error (.stopped cause) final := by
  rw [runItem_of_ok preparing, runInvocation_eq, resultOn_afterReadying]
  cases result : resultOn setup invocation left state with
  | error other =>
    rw [result] at refused
    cases refused
    exact ⟨_, rfl⟩
  | ok outcome =>
    rw [result, refusal?] at refused
    split at refused
    next => cases refused
    next unwritable =>
      cases refused
      simp only [if_neg unwritable]
      exact ⟨_, rfl⟩

theorem runItem_stopped {item : WorkItem} {cause : BenchmarkError}
    (ran : (runItem setup test item).run trial = .error (.stopped cause) final) :
    Refuses setup test item cause := by
  obtain ⟨prepared, left, state, preparing⟩ : ∃ prepared left state,
      readying setup test item trial = (prepared, left, state) := ⟨_, _, _, rfl⟩
  cases prepared with
  | error failure => cases ran.symm.trans (runItem_of_error preparing)
  | ok invocation =>
    refine ⟨trial, invocation, left, state, preparing, ?_⟩
    cases refusal : refusal? setup.benchmark (resultOn setup invocation left state) with
    | none =>
      obtain ⟨run, ended, done⟩ := runItem_of_accepted preparing refusal
      cases ran.symm.trans done
    | some other =>
      obtain ⟨ended, stopped⟩ := runItem_of_refused preparing refusal
      cases ran.symm.trans stopped
      rfl

theorem able_of_kept {openTest? : Option OpenTest}
    (able : journal.Able q made openTest? tally trial.session)
    (kept : Kept journal q trial final) :
    journal.Able q made openTest? tally final.session :=
  ⟨kept.sameJournal.trans able.state, kept.willing able.ready.willing, kept.filed.orderly,
    able.ready.alike.trans kept.filed.alike⟩

/-- **Runs are written down**, unless the host refuses one of them. -/
theorem runItems_progress {open_ : OpenTest} (alone : LeavesAlone setup journal q)
    (fits : Fits journal q made test) (named : open_.name = test.name)
    (able : journal.Able q made (some open_) tally trial.session) {items : List WorkItem}
    (within : ∀ item ∈ items, item ∈ test.items) :
    (∃ final further counted, (runItems setup test items).run trial = .ok () final ∧
        further.name = test.name ∧
        journal.Able q made (some further) counted final.session) ∨
    ∃ cause final, (runItems setup test items).run trial = .error (.stopped cause) final ∧
      ∃ item ∈ items, Refuses setup test item cause := by
  -- the test that is open changes with each run, but not its name, which the paths depend on
  induction items generalizing trial open_ tally with
  | nil => exact .inl ⟨trial, open_, tally, rfl, named, able⟩
  | cons item items ih =>
    obtain ⟨_, beginning, able⟩ := able.beforeRun item.file
    obtain ⟨begun, beginning, able⟩ := exists_reported beginning able
    rw [runItems, run_bind_of_ok beginning]
    rcases runItem_cases alone able.ready.orderly test item with
      ⟨run, ended, running, kept, file, -⟩ | ⟨cause, final, failing, -⟩
    · have able := able_of_kept able kept
      have plain := fits.plain item (within item (by simp))
      have loggable := fits.loggable item (within item (by simp))
      rw [← named, ← file] at plain loggable
      obtain ⟨_, telling, able⟩ :=
        able.afterRun fits.logs fits.text (named ▸ fits.fields) plain loggable item.options
      obtain ⟨told, telling, able⟩ := exists_reported telling able
      rw [run_bind_of_ok running, run_bind_of_ok telling]
      have named : (journal.recorded open_ run item.options).name = test.name := named
      rcases ih named able (fun other among => within other (by simp [among])) with
        done | ⟨cause, final, failed, item, among, refuses⟩
      · exact .inl done
      · exact .inr ⟨cause, final, failed, item, by simp [among], refuses⟩
    · refine .inr ⟨cause, final, ?_, item, by simp, runItem_stopped failing⟩
      exact run_bind_of_error failing

/-! ### Tests -/

theorem runTest_progress (alone : LeavesAlone setup journal q) (fits : Fits journal q made test)
    (able : journal.Able q made none tally trial.session) (number : Nat) :
    (∃ final counted, (runTest setup number test).run trial = .ok () final ∧
      journal.Able q made none counted final.session) ∨
    ∃ cause final, (runTest setup number test).run trial = .error (.stopped cause) final ∧
      ∃ item ∈ test.items, Refuses setup test item cause := by
  -- the clocks are read before the test and behind its runs, which changes nothing but the host
  have able : journal.Able q made none tally (afterClocks setup trial).session := able
  obtain ⟨_, opening, able⟩ := able.beforeTest fits.text number test
  obtain ⟨opened, opening, able⟩ := exists_reported opening able
  rw [runTest, run_bind_of_ok (readClocks_run setup trial), run_bind_of_ok opening]
  rcases runItems_progress alone fits rfl able (fun _ within => within) with
    ⟨ended, further, counted, running, named, able⟩ | ⟨cause, final, failing, refuses⟩
  · have able : journal.Able q made (some further) counted (afterClocks setup ended).session := able
    let times := timesOf setup trial ended
    obtain ⟨_, closing, able⟩ :=
      able.afterTest fits.text (named ▸ fits.fields.xml_of_csv) times.cpuTime times.wallTime
    obtain ⟨closed, closing, able⟩ := exists_reported closing able
    refine .inl ⟨closed, counted, ?_, able⟩
    rw [run_bind_of_ok running, run_bind_of_ok (readClocks_run setup ended)]
    exact closing
  · refine .inr ⟨cause, final, ?_, refuses⟩
    exact run_bind_of_error failing

/-- **Tests are written down**, unless the host refuses one of their runs. -/
theorem runTests_progress (alone : LeavesAlone setup journal q)
    (text : journal.Writable none "txt") {tests : List Test}
    (fits : ∀ test ∈ tests, setup.settings.selects test.name = true → Fits journal q made test)
    (able : journal.Able q made none tally trial.session) (number : Nat) :
    (∃ final, (runTests setup number tests).run trial = .ok () final) ∨
    ∃ cause final, (runTests setup number tests).run trial = .error (.stopped cause) final ∧
      ∃ test ∈ tests, ∃ item ∈ test.items, Refuses setup test item cause := by
  induction tests generalizing trial tally number with
  | nil => exact .inl ⟨trial, rfl⟩
  | cons test tests ih =>
    have later := fun other within => fits other (List.mem_cons_of_mem test within)
    rw [runTests]
    by_cases selected : setup.settings.selects test.name = true
    · rw [if_pos selected]
      rcases runTest_progress alone (fits test (by simp) selected) able number with
        ⟨middle, counted, first, able⟩ | ⟨cause, final, failing, item, within, refuses⟩
      · rw [run_bind_of_ok first]
        rcases ih later able (number + 1) with
          done | ⟨cause, final, failed, other, within, refuses⟩
        · exact .inl done
        · exact .inr ⟨cause, final, failed, other, by simp [within], refuses⟩
      · refine .inr ⟨cause, final, ?_, test, by simp, item, within, refuses⟩
        exact run_bind_of_error failing
    · rw [if_neg selected]
      obtain ⟨_, skipping, able⟩ := able.skipTest text number test
      obtain ⟨left, skipping, able⟩ := exists_reported skipping able
      rw [run_bind_of_ok skipping]
      rcases ih later able (number + 1) with
        done | ⟨cause, final, failed, other, within, refuses⟩
      · exact .inl done
      · exact .inr ⟨cause, final, failed, other, by simp [within], refuses⟩

/-! ### The whole -/

variable {machine : Machine} {desk : Desk} {state : σ}

/-- **A benchmark whose reports have room**: no write fails at its desk, and the names of its
reports and logs can be names of files. -/
structure HasRoom (setup : Setup σ) (machine : Machine) (desk : Desk) (state : σ)
    (made : FileTree) (q : List String) : Prop where
  willing : desk.faults = []
  begins : BeginsIn setup machine desk state made q
  text : (journalOf setup machine desk state).Writable none "txt"
  fits : ∀ test ∈ setup.benchmark.tests, setup.settings.selects test.name = true →
    Fits (journalOf setup machine desk state) q made test

/-- A benchmark whose reports have room begins. -/
theorem HasRoom.exists_begun {made : FileTree} {q : List String}
    (room : HasRoom setup machine desk state made q)
    (orderly : (journalOf setup machine desk state).Orderly q made) :
    ∃ begun,
      (Journal.start setup.benchmark (probed setup desk state).1 machine setup.settings
        (Tally.ofMarks setup.settings.bugMarks)).run
          { desk with tree := (probed setup desk state).2.1 } =
        .ok (journalOf setup machine desk state) begun ∧
      (journalOf setup machine desk state).Able q made none
        (Tally.ofMarks setup.settings.bugMarks) ⟨journalOf setup machine desk state, begun⟩ :=
  Journal.start_able room.willing rfl room.begins.making orderly room.text
    fun test within selected => (room.fits test within selected).fields

theorem HasRoom.exists_start {made : FileTree} {q : List String}
    (room : HasRoom setup machine desk state made q) (calm : Calm setup machine desk state) :
    ∃ start, Begun setup machine desk state start := by
  obtain ⟨begun, started, -⟩ := room.exists_begun (calm.orderly made q room.begins)
  exact ⟨⟨⟨journalOf setup machine desk state, begun⟩, (probed setup desk state).2.2⟩, started, rfl⟩

/-- **A benchmark whose reports are left alone and have room comes to its end**, unless the host
refuses one of its runs. -/
theorem run_progress (calm : Calm setup machine desk state)
    {made : FileTree} {q : List String} (room : HasRoom setup machine desk state made q) :
    (∃ tally, (run setup machine desk state).tally = .ok tally) ∨
    ∃ cause, (run setup machine desk state).tally = .error (.stopped cause) ∧
      ∃ test ∈ setup.benchmark.tests, ∃ item ∈ test.items, Refuses setup test item cause := by
  have orderly := calm.orderly made q room.begins
  obtain ⟨begun, started, able⟩ := room.exists_begun orderly
  obtain ⟨start, able, result⟩ : ∃ start : Trial σ,
      (journalOf setup machine desk state).Able q made none
        (Tally.ofMarks setup.settings.bugMarks) start.session ∧
      run setup machine desk state = resultOf (runAll setup) start := by
    refine ⟨⟨⟨journalOf setup machine desk state, begun⟩, (probed setup desk state).2.2⟩, able, ?_⟩
    rw [run_eq, started]
  rw [result, resultOf, runAll]
  rcases runTests_progress (calm.alone made q room.begins) room.text room.fits able 1 with
    ⟨final, done⟩ | ⟨cause, final, failing, refuses⟩
  · left
    rw [run_bind_of_ok done]
    exact ⟨_, rfl⟩
  · right
    refine ⟨cause, ?_, refuses⟩
    rw [run_bind_of_error failing]

/-! ### Small benchmarks -/

/-- A desk without files. -/
def smallDesk : Desk := { tree := { entries := [] }, now := ⟨1, 2, 3, 4, 5, 6⟩ }

/-- A machine nothing is known of. -/
def smallMachine : Machine := ⟨"", "", "", "", ""⟩

/-- The files once the log directory of a small benchmark has been made. -/
def smallTree : FileTree := { entries := [(["b.0001-02-03.logfiles"], .directory)] }

/-- **A small benchmark**: its reports go to the working directory, where nothing is, they are
named by the day, and its host leaves no trace. -/
structure IsSmall (setup : Setup σ) (state : σ) : Prop where
  named : setup.benchmark.name = "b"
  here : setup.settings.outputDirectory = ""
  daily : setup.settings.dayOnly = true
  asked : (probed setup smallDesk state).2.1 = smallDesk.tree
  still : ∀ invocation tree state, executed setup invocation tree state = tree

theorem making_small : smallDesk.tree.makeDirectories "b.0001-02-03.logfiles" = .ok smallTree := by
  have ends : AtMostFile smallDesk.tree ["b.0001-02-03.logfiles"] := .of_none rfl
  have led : ∀ takeLast, smallDesk.tree.locate takeLast "b.0001-02-03.logfiles" =
      .ok ["b.0001-02-03.logfiles"] := fun takeLast =>
    locate_name (by decide) (by decide) (by decide) ends
  have around : around "b.0001-02-03.logfiles" "b.0001-02-03.logfiles".length = [] := by decide
  have notThere : smallDesk.tree.isDirectory "b.0001-02-03.logfiles" = false := by
    rw [isDirectory, find, led]
    rfl
  have slashes : withoutSlashes "b.0001-02-03.logfiles" = "b.0001-02-03.logfiles" := by decide
  rw [makeDirectories, if_neg (by decide), around, makeWithin, notThere, makeDirectory, slashes,
    led]
  rfl

theorem entry_small (p : List String) :
    smallTree.entry? p =
      if p = [] ∨ p = ["b.0001-02-03.logfiles"] then some .directory else none := by
  by_cases root : p = []
  · rw [if_pos (.inl root), root, entry_root]
  · by_cases logs : p = ["b.0001-02-03.logfiles"]
    · rw [if_pos (.inr logs), logs]
      rfl
    · rw [if_neg (by simp [root, logs]), entry?, if_neg root, smallTree]
      simp [logs]

theorem noLink_small (p : List String) (target : String) :
    smallTree.entry? p ≠ some (.link target) := by
  rw [entry_small]
  split <;> simp

theorem ends_small (rest : String) :
    AtMostFile smallTree ["b.0001-02-03." ++ ("results." ++ rest)] := by
  refine .of_none ?_
  rw [entry_small, if_neg ?_]
  rintro (root | same)
  · cases root
  · have lists := congrArg String.toList (List.singleton_inj.mp same)
    simp at lists

/-- A name that a file can have, of one component. -/
def isName (name : String) : Bool :=
  !name.toList.contains '\x00' && !name.toList.contains '/' && decide (Names name)

theorem isName_iff {name : String} :
    isName name = true ↔
      name.toList.contains '\x00' = false ∧ '/' ∉ name.toList ∧ Names name := by
  simp [isName, and_assoc]

/-- Whether the reports and logs of a test can have their names, in a small benchmark. -/
def isShort (test : Test) : Bool :=
  isName ("b.0001-02-03." ++ ("results." ++ (Journal.testPart test.name ++ "csv"))) &&
    test.items.all fun item => isName (Journal.logName test.name item.file)

namespace IsSmall

variable (small : IsSmall setup state)
include small

theorem base : (journalOf setup smallMachine smallDesk state).base = "b.0001-02-03." := by
  change Path.join setup.settings.outputDirectory (setup.benchmark.name ++ "." ++
    Moment.stamp setup.settings.dayOnly smallDesk.now ++ ".") = "b.0001-02-03."
  rw [small.named, small.here, small.daily]
  decide

theorem stem : (journalOf setup smallMachine smallDesk state).stem = "b.0001-02-03." := by
  rw [Journal.stem, small.base]
  decide

theorem report (test : Option String) (extension : String) :
    (journalOf setup smallMachine smallDesk state).reportPath test extension =
      "b.0001-02-03." ++ ("results." ++ (Journal.testPart test ++ extension)) := by
  rw [Journal.reportPath_eq, small.base]

theorem begins : BeginsIn setup smallMachine smallDesk state smallTree [] := by
  constructor
  · rw [small.asked, logDirectory_eq, small.base]
    exact making_small
  · rw [Journal.textPath, small.report, Journal.placeOf, small.stem]
    exact locate_name (by decide) (by decide) (by decide) (ends_small _)

/-- A small benchmark begins in only one way. -/
theorem eq_of_begins {made : FileTree} {q : List String}
    (begins : BeginsIn setup smallMachine smallDesk state made q) : made = smallTree ∧ q = [] := by
  obtain rfl : made = smallTree := Except.ok.inj (begins.making.symm.trans small.begins.making)
  have same := Except.ok.inj (begins.way.symm.trans small.begins.way)
  exact ⟨rfl, (List.append_inj' same rfl).1⟩

theorem calm : Calm setup smallMachine smallDesk state where
  orderly made q begins := by
    obtain ⟨rfl, rfl⟩ := small.eq_of_begins begins
    refine ⟨begins.way, fun rest => ?_, fun path rest led => locate_notTaken noLink_small led⟩
    rw [small.stem]
    exact ends_small rest
  alone made q begins := leavesAlone_of_still small.still

theorem writable {test : Option String} {extension : String}
    (short : isName ("b.0001-02-03." ++ ("results." ++ (Journal.testPart test ++ extension)))) :
    (journalOf setup smallMachine smallDesk state).Writable test extension := by
  obtain ⟨noNull, plain, names⟩ := isName_iff.mp short
  refine ⟨by rw [small.report]; exact noNull, ?_, by rw [small.stem]; exact names⟩
  rw [String.toList_append, String.toList_append] at plain
  exact fun slash => plain (List.mem_append_right _ (List.mem_append_right _ slash))

theorem keepsLogs :
    (journalOf setup smallMachine smallDesk state).KeepsLogs [] smallTree where
  named := logDirectory_eq _ _ _ _
  directory := by
    rw [Journal.logsAt, small.stem, entry_small]
    rfl
  files name := by
    refine .of_none ?_
    rw [Journal.logsAt, small.stem, entry_small, if_neg (by simp)]

theorem keepsLogs_of_begins {made : FileTree} {q : List String}
    (begins : BeginsIn setup smallMachine smallDesk state made q) :
    (journalOf setup smallMachine smallDesk state).KeepsLogs q made := by
  obtain ⟨rfl, rfl⟩ := small.eq_of_begins begins
  exact small.keepsLogs

theorem loggable {test : Option String} {source : String}
    (short : isName (Journal.logName test source)) :
    (journalOf setup smallMachine smallDesk state).Loggable test source := by
  obtain ⟨noNull, plain, names⟩ := isName_iff.mp short
  refine ⟨?_, by rw [small.stem]; decide, names⟩
  rw [Journal.logPath_eq, logDirectory_eq, small.base,
    Path.join_of_relative (by decide) (by decide) (Path.isAbsolute_of_not_mem plain)]
  simpa using noNull

/-- **A small benchmark has room** for short names. -/
theorem room (short : ∀ test ∈ setup.benchmark.tests,
      setup.settings.selects test.name = true → isShort test = true) :
    HasRoom setup smallMachine smallDesk state smallTree [] where
  willing := rfl
  begins := small.begins
  text := small.writable (by decide)
  fits test within selected := by
    obtain ⟨fields, logs⟩ : isName _ = true ∧ _ = true :=
      Bool.and_eq_true_iff.mp (short test within selected)
    have log := List.all_eq_true.mp logs
    exact
      { text := small.writable (by decide)
        fields := small.writable fields
        logs := small.keepsLogs
        plain := fun item among => (isName_iff.mp (log item among)).2.1
        loggable := fun item among => small.loggable (log item among) }

/-- **A small benchmark with short names comes to its end**, if the host refuses none of its
runs. -/
theorem run_ok (short : ∀ test ∈ setup.benchmark.tests,
      setup.settings.selects test.name = true → isShort test = true)
    (accepts : ∀ test ∈ setup.benchmark.tests, ∀ item ∈ test.items, ∀ cause,
      ¬Refuses setup test item cause) :
    ∃ tally, (run setup smallMachine smallDesk state).tally = .ok tally := by
  rcases run_progress small.calm (small.room short) with
    done | ⟨cause, -, test, within, item, among, refuses⟩
  · exact done
  · exact absurd refuses (accepts test within item among cause)

end IsSmall

/-! ### Benchmarks on a steady host -/

/-- A host on which the result of a run depends on its command line alone, and which leaves no
trace in the files. Its clocks may show anything. -/
def steadyHost (result : List String → Except BenchmarkError Outcome) (clocks : σ → Times × σ) :
    Host σ where
  run words _ _ tree state := (result words, tree, state)
  ask _ tree state := (none, tree, state)
  clocks
  fresh := Verifier.always "a1B2c3"

/-- A small benchmark with given tests on such a host, all of them or those with one name. -/
def smallOn (result : List String → Except BenchmarkError Outcome) (clocks : σ → Times × σ)
    (tests : List Test) (only : Option String) (environment : Environment) : Setup σ where
  benchmark := { name := "b", tool := .satabs, tests }
  settings := { outputDirectory := "", only, bugMarks := [] }
  environment
  executable := "satabs"
  host := steadyHost result clocks

/-- The command line that a run of it comes to. -/
def smallWords (environment : Environment) (test : Test) (item : WorkItem) : List String :=
  Host.commandLine environment ("satabs" ::
    ToolOption.words (ToolOption.merge [] test.options item.options) ++ [item.file])

/-- Whether the words of all runs of a test can be handed over. -/
def isClean (environment : Environment) (test : Test) : Bool :=
  test.items.all fun item => !(smallWords environment test item).any Host.hasNull

section Steady

variable {result : List String → Except BenchmarkError Outcome} {clocks : σ → Times × σ}
  {tests : List Test} {only : Option String} {environment : Environment} {item : WorkItem}

theorem isSmall_smallOn : IsSmall (smallOn result clocks tests only environment) state := by
  refine ⟨rfl, rfl, rfl, ?_, fun invocation tree state => ?_⟩
  · rw [probed, Host.version]
    split
    · rfl
    · split <;> rfl
  · exact congrArg Prod.fst (execute_of_still (fun _ _ _ _ _ => rfl) _ _ _ _ tree state)

theorem undisturbed_smallOn (distinct : (tests.map Test.name).Nodup) :
    Undisturbed (smallOn result clocks tests only environment) smallMachine smallDesk state where
  distinct
  orderly := isSmall_smallOn.calm.orderly
  alone := isSmall_smallOn.calm.alone

theorem room_smallOn (short : ∀ test ∈ tests, isShort test = true) :
    HasRoom (smallOn result clocks tests only environment) smallMachine smallDesk state smallTree
      [] :=
  isSmall_smallOn.room fun test within _ => short test within

theorem hasNull_of_isClean (clean : isClean environment test = true) (among : item ∈ test.items) :
    (smallWords environment test item).any Host.hasNull = false := by
  have words := List.all_eq_true.mp clean item among
  exact (Bool.not_eq_true' _).mp words

/-- What a run of a small benchmark is started with. -/
def smallInvocation (test : Test) (item : WorkItem) : Invocation :=
  { arguments := "satabs" ::
      ToolOption.words (ToolOption.merge [] test.options item.options) ++ [item.file]
    options := ToolOption.words (ToolOption.merge [] test.options item.options) }

theorem readying_smallOn (trial : Trial σ) :
    readying (smallOn result clocks tests only environment) test item trial =
      (.ok (smallInvocation test item), trial.tree, trial.state) :=
  Verifier.prepare_of_ne (show Verifier.satabs ≠ .acsar by decide)

theorem execute_smallOn (clean : (smallWords environment test item).any Host.hasNull = false)
    (tree : FileTree) (state : σ) :
    let setup := smallOn result clocks tests only environment
    setup.host.execute setup.environment setup.settings.graceSeconds
        (smallInvocation test item).arguments setup.benchmark.limits tree state =
      (result (smallWords environment test item), tree, state) := by
  change Host.execute (steadyHost result clocks) environment _ _ _ tree state = _
  rw [Host.execute]
  split
  next empty => exact absurd (List.map_eq_nil_iff.mp empty) (by simp [smallInvocation])
  next program rest words =>
    have words : smallWords environment test item = program :: rest := words
    rw [words] at clean ⊢
    rw [if_neg (by simp [clean])]
    rfl

theorem resultOn_smallOn (clean : (smallWords environment test item).any Host.hasNull = false)
    (tree : FileTree) (state : σ) :
    resultOn (smallOn result clocks tests only environment) (smallInvocation test item) tree state =
      result (smallWords environment test item) :=
  congrArg Prod.fst (execute_smallOn clean tree state)

/-- A run of a small benchmark leaves the host as it is. -/
theorem state_of_runItem {trial final : Trial σ} {run : RunReport}
    (ran : (runItem (smallOn result clocks tests only environment) test item).run trial =
      .ok run final) : final.state = trial.state := by
  rw [(left_of_ready (readying_smallOn trial) (.inl ⟨run, ran⟩)).2]
  exact congrArg Prod.snd (execute_of_still (fun _ _ _ _ _ => rfl) _ _ _ _ trial.tree trial.state)

/-- A run of a small benchmark is refused as its command line is. -/
theorem result_of_refuses {cause : BenchmarkError}
    (clean : (smallWords environment test item).any Host.hasNull = false)
    (refuses : Refuses (smallOn result clocks tests only environment) test item cause) :
    result (smallWords environment test item) = .error cause := by
  obtain ⟨trial, invocation, made, state, preparing, refused⟩ := refuses
  cases (readying_smallOn trial).symm.trans preparing
  rw [resultOn_smallOn clean] at refused
  cases answer : result (smallWords environment test item) with
  | error other =>
    rw [answer] at refused
    exact congrArg Except.error (Option.some.inj refused)
  | ok outcome =>
    -- there are no columns, so that every value can be written
    rw [answer] at refused
    cases refused

/-- A run of a small benchmark whose command line has an outcome comes to its end. -/
theorem runItem_smallOn_ok {outcome : Outcome}
    (clean : (smallWords environment test item).any Host.hasNull = false)
    (well : result (smallWords environment test item) = .ok outcome) (trial : Trial σ) :
    ∃ run final, (runItem (smallOn result clocks tests only environment) test item).run trial =
      .ok run final := by
  refine runItem_of_accepted (readying_smallOn trial) ?_
  rw [resultOn_smallOn clean, well]
  rfl

/-- A run whose command line has none stops the benchmark. -/
theorem runItem_smallOn_error {cause : BenchmarkError}
    (clean : (smallWords environment test item).any Host.hasNull = false)
    (ill : result (smallWords environment test item) = .error cause) (trial : Trial σ) :
    ∃ final, (runItem (smallOn result clocks tests only environment) test item).run trial =
      .error (.stopped cause) final := by
  refine runItem_of_refused (readying_smallOn trial) ?_
  rw [resultOn_smallOn clean, ill]
  rfl

/-- **A small benchmark comes to its end** if all its runs do. -/
theorem run_smallOn_ok (short : ∀ test ∈ tests, isShort test = true)
    (clean : ∀ test ∈ tests, isClean environment test = true)
    (well : ∀ test ∈ tests, ∀ item ∈ test.items,
      (result (smallWords environment test item)).isOk = true) :
    ∃ tally, (run (smallOn result clocks tests only environment) smallMachine smallDesk state).tally
      = .ok tally := by
  refine isSmall_smallOn.run_ok (fun test within _ => short test within)
    fun test within item among cause refuses => ?_
  have done := well test within item among
  rw [result_of_refuses (hasNull_of_isClean (clean test within) among) refuses] at done
  cases done

/-- **A small benchmark that has room is stopped** if one of its runs has no outcome. -/
theorem run_smallOn_stopped {desk : Desk} {made : FileTree} {q : List String}
    (calm : Calm (smallOn result clocks tests only environment) smallMachine desk state)
    (room : HasRoom (smallOn result clocks tests only environment) smallMachine desk state made q)
    (clean : ∀ test ∈ tests, isClean environment test = true) (within : test ∈ tests)
    (selected : Settings.selects { only } test.name = true) (among : item ∈ test.items)
    {cause : BenchmarkError} (ill : result (smallWords environment test item) = .error cause) :
    ∃ cause',
      (run (smallOn result clocks tests only environment) smallMachine desk state).tally =
        .error (.stopped cause') ∧
      ∃ test ∈ tests, ∃ item ∈ test.items,
        result (smallWords environment test item) = .error cause' := by
  rcases run_progress calm room with
    ⟨tally, done⟩ | ⟨cause', stopped, other, inside, last, mem, refuses⟩
  · -- then the run would have come to its end
    obtain ⟨start, final, -, ran, -⟩ := run_eq_ok done
    obtain ⟨finished, tests_eq, -, went⟩ := runTests_went ran
    obtain ⟨test, inside, rfl⟩ : ∃ ended ∈ finished, ended.test = test :=
      List.mem_map.mp (tests_eq ▸ within : test ∈ finished.map FinishedTest.test)
    obtain ⟨run, inRuns, rfl⟩ := List.mem_map.mp (went.items inside selected ▸ among)
    obtain ⟨begun, ended, running⟩ := went.exists_runItem inside inRuns
    obtain ⟨_, failing⟩ :=
      runItem_smallOn_error (hasNull_of_isClean (clean _ within) among) ill begun
    cases running.symm.trans failing
  · exact ⟨cause', stopped, other, inside, last, mem,
      result_of_refuses (hasNull_of_isClean (clean other inside) mem) refuses⟩

end Steady

/-! ### Two small benchmarks -/

/-- Clocks that stand still. -/
def standing : σ → Times × σ := fun state => ({}, state)

/-- A small benchmark with given tests, in which every tool ends well. -/
def smallOf (tests : List Test) (environment : Environment) : Setup Unit :=
  smallOn (fun _ => .ok { exitCode := 0, output := "" }) standing tests none environment

theorem isSmall_smallOf (tests : List Test) (environment : Environment) :
    IsSmall (smallOf tests environment) () :=
  isSmall_smallOn

theorem run_smallOf_ok {tests : List Test} {environment : Environment}
    (short : ∀ test ∈ tests, isShort test = true)
    (clean : ∀ test ∈ tests, isClean environment test = true) :
    ∃ tally, (run (smallOf tests environment) smallMachine smallDesk ()).tally = .ok tally :=
  run_smallOn_ok short clean fun _ _ _ _ => rfl

/-- The tests of a small benchmark, the first of which has one source. -/
def smallTests : List Test := [⟨some "t", [], [⟨"a.c", []⟩]⟩, ⟨none, [], []⟩]

/-- A small benchmark with two tests, the first of which is selected. -/
def small (result : Except BenchmarkError Outcome) : Setup Unit :=
  smallOn (fun _ => result) standing smallTests (some "t") ⟨[]⟩

variable {result : Except BenchmarkError Outcome}

theorem isSmall_small : IsSmall (small result) () := isSmall_smallOn

theorem undisturbed_small : Undisturbed (small result) smallMachine smallDesk () :=
  undisturbed_smallOn (by decide)

theorem short_small : ∀ test ∈ smallTests, isShort test = true := by decide

theorem clean_small : ∀ test ∈ smallTests, isClean ⟨[]⟩ test = true := by decide

theorem room_small : HasRoom (small result) smallMachine smallDesk () smallTree [] :=
  room_smallOn short_small

/-- A small benchmark that is stopped has been running its only source. -/
theorem stopped_small {number : Nat} {tests : List FinishedTest} {later : List Test}
    {runs : List FinishedRun} {cause : BenchmarkError} {trial final : Trial Unit}
    (tests_eq : (small result).benchmark.tests = tests.map FinishedTest.test ++ test :: later)
    (stopped : TestStopped (small result) number test runs cause trial final) :
    tests = [] ∧ test = ⟨some "t", [], [⟨"a.c", []⟩]⟩ ∧ runs = [] := by
  -- only the first test is selected
  obtain ⟨rfl, rfl⟩ : tests = [] ∧ test = ⟨some "t", [], [⟨"a.c", []⟩]⟩ := by
    cases tests with
    | nil => exact ⟨rfl, (List.cons.inj tests_eq).1.symm⟩
    | cons first tests =>
      have selected := stopped.selected
      cases tests with
      | nil =>
        obtain rfl := (List.cons.inj (List.cons.inj tests_eq).2).1
        cases selected
      | cons second tests => simp [small, smallOn, smallTests] at tests_eq
  obtain ⟨opened, reached, item, rest, -, -, -, items⟩ := stopped.course
  cases runs with
  | nil => exact ⟨rfl, rfl, rfl⟩
  | cons run runs => simp at items

theorem run_small_ok (outcome : Outcome) :
    ∃ tally, (run (small (.ok outcome)) smallMachine smallDesk ()).tally = .ok tally :=
  run_smallOn_ok short_small clean_small fun _ _ _ _ => rfl

/-- A small benchmark that has room is stopped if its tool is, wherever it is run. -/
theorem run_small_stopped {desk : Desk} {cause : BenchmarkError}
    (calm : Calm (small (.error cause)) smallMachine desk ()) {made : FileTree} {q : List String}
    (room : HasRoom (small (.error cause)) smallMachine desk () made q) :
    (run (small (.error cause)) smallMachine desk ()).tally = .error (.stopped cause) := by
  obtain ⟨cause', stopped, _, -, _, -, same⟩ := run_smallOn_stopped calm room clean_small
    List.mem_cons_self (by decide) List.mem_cons_self rfl
  obtain rfl : cause = cause' := Except.error.inj same
  exact stopped

end VerifierTrials.Trial
