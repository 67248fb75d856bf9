import VerifierTrials.Report.Journal
import VerifierTrials.Trial.Host
import VerifierTrials.Verifier.Classification
import VerifierTrials.Verifier.Executable
import VerifierTrials.Verifier.Preparation

/-!
# Running a benchmark

The tests of a benchmark are run in order, and the work items of a test one after the
other. Each run is prepared, executed and judged (`runItem`), and the journal writes it
down. The times of a test are not those of its runs, added up: the clocks are read before its
first run and after its last one (`runTest`).

A source that cannot be prepared is reported as a run with an error; a tool that cannot be
started and an interrupt end the benchmark, and so do a value that cannot be written and a report
that cannot be written. Whatever comes of a run, its scratch file is gone afterwards.
-/

namespace VerifierTrials

/-- **Why a benchmark ends early.** -/
inductive Failure where
  | stopped (cause : BenchmarkError)
  | unreported (cause : ReportError)
  deriving DecidableEq, Repr

/-- Whether the operator has ended the benchmark. -/
def Failure.isInterrupt : Failure → Bool
  | stopped .interrupted => true
  | _ => false

/-- **What a benchmark is run with.** -/
structure Setup (σ : Type) where
  benchmark : Benchmark
  settings : Settings
  environment : Environment
  executable : String
  host : Host σ

/-- A journal at its desk, and the state of the host. -/
structure Trial (σ : Type) where
  session : Session
  state : σ

/-- **An action of a benchmark that is being run.** -/
abbrev Trying (σ : Type) := EStateM Failure (Trial σ)

namespace Trial

variable {σ : Type}

/-- The files. -/
def tree (trial : Trial σ) : FileTree := trial.session.desk.tree

/-- A change of the desk. -/
def onDesk (change : Desk → Desk) (trial : Trial σ) : Trial σ :=
  { trial with session := { trial.session with desk := change trial.session.desk } }

/-- An action of the journal as one of the benchmark. -/
def report {α : Type} (action : Reporting α) : Trying σ α := fun trial =>
  match action.run trial.session with
  | .ok value session => .ok value { trial with session }
  | .error cause session => .error (.unreported cause) { trial with session }

/-- The clocks read. -/
def readClocks (setup : Setup σ) : Trying σ Times := fun trial =>
  let (times, state) := setup.host.clocks trial.state
  .ok times { trial with state }

/-! ### One run -/

/-- The options of a run: those of the benchmark, of the test and of the work item. -/
def optionsOf (benchmark : Benchmark) (test : Test) (item : WorkItem) : List String :=
  ToolOption.words (ToolOption.merge benchmark.options test.options item.options)

/-- What is reported of a source that cannot be prepared. -/
def unprepared (benchmark : Benchmark) (item : WorkItem) (failure : PreparationError) :
    RunReport :=
  { file := item.file
    status := .error none
    output := failure.message
    arguments := []
    cells := Column.missingCells benchmark.columns }

/-- The cells of a run: only a tool that prints metrics has any values. -/
def cellsOf (benchmark : Benchmark) (output : String) : List Cell :=
  if benchmark.tool.printsMetrics then Column.cells benchmark.columns output
  else Column.missingCells benchmark.columns

/-- What is reported of a run, and the warnings that come up when it is judged. -/
def judged (benchmark : Benchmark) (item : WorkItem) (invocation : Invocation)
    (outcome : Outcome) : Warned RunReport :=
  let (status, warnings) :=
    benchmark.tool.classify outcome invocation.options benchmark.limits
  ({ file := item.file
     status
     cpuTime := outcome.cpuTime
     wallTime := outcome.wallTime
     output := outcome.output
     arguments := invocation.arguments
     cells := cellsOf benchmark outcome.output }, warnings)

/-- Whether the values of a run can be written. -/
def areWritable (benchmark : Benchmark) (output : String) : Bool :=
  !benchmark.tool.printsMetrics || benchmark.columns.all (·.isWritable output)

/-- **A source made ready** for its run, with what the host and the device under the files bring
to it. -/
def readying (setup : Setup σ) (test : Test) (item : WorkItem) (trial : Trial σ) :
    HostAnswer σ (Except PreparationError Invocation) :=
  setup.benchmark.tool.prepare setup.host.fresh trial.session.desk.fault? setup.executable
    (optionsOf setup.benchmark test item) item.file trial.tree trial.state

/-- The desk once a source has been prepared: a scratch file counts as a write. -/
def afterPreparation (tool : Verifier) (tree : FileTree) (desk : Desk) : Desk :=
  if tool = .acsar then desk.afterWrite tree else { desk with tree }

/-- **A run executed** under the limits of the benchmark, and its scratch file removed. -/
def runInvocation (setup : Setup σ) (invocation : Invocation) : Trying σ Outcome := fun trial =>
  let (result, tree, state) :=
    setup.host.execute setup.environment setup.settings.graceSeconds invocation.arguments
      setup.benchmark.limits trial.tree trial.state
  let after := { trial.onDesk fun desk => { desk with tree := invocation.release tree } with state }
  match result with
  | .ok outcome => .ok outcome after
  | .error cause => .error (.stopped cause) after

/-- **One run**: prepared, executed and judged. -/
def runItem (setup : Setup σ) (test : Test) (item : WorkItem) : Trying σ RunReport := do
  let benchmark := setup.benchmark
  let trial ← get
  let (prepared, tree, state) := readying setup test item trial
  set { trial.onDesk (afterPreparation benchmark.tool tree) with state }
  match prepared with
  | .error failure =>
    let warning := .unpreparedSource item.file benchmark.tool.displayName failure.message
    modify (onDesk fun desk => desk.warn [warning])
    return unprepared benchmark item failure
  | .ok invocation =>
    let outcome ← runInvocation setup invocation
    let (run, warnings) := judged benchmark item invocation outcome
    modify (onDesk fun desk => desk.warn warnings)
    if areWritable benchmark outcome.output then return run
    else throw (.stopped .placesOutOfRange)

/-! ### Tests -/

/-- **Runs one after the other.** -/
def runItems (setup : Setup σ) (test : Test) : List WorkItem → Trying σ Unit
  | [] => return ()
  | item :: items => do
    report (Journal.beforeRun item.file)
    let run ← runItem setup test item
    report (Journal.afterRun run item.options)
    runItems setup test items

/-- **A test**, from its opening to its closing, with the times between two readings of the
clocks. -/
def runTest (setup : Setup σ) (number : Nat) (test : Test) : Trying σ Unit := do
  let before ← readClocks setup
  report (Journal.beforeTest number test)
  runItems setup test test.items
  let after ← readClocks setup
  let times := after.since before
  report (Journal.afterTest times.cpuTime times.wallTime)

/-- **Tests one after the other**, those that are not selected being left out. -/
def runTests (setup : Setup σ) : Nat → List Test → Trying σ Unit
  | _, [] => return ()
  | number, test :: tests => do
    if setup.settings.selects test.name then runTest setup number test
    else report (Journal.skipTest number test)
    runTests setup (number + 1) tests

/-! ### The whole -/

/-- What comes of a benchmark: its tally, unless it ends early, with the desk and the
state of the host at that time. -/
structure Result (σ : Type) where
  tally : Except Failure Tally
  desk : Desk
  state : σ

/-- The result of an action that a benchmark ends with. -/
def resultOf (action : Trying σ Unit) (trial : Trial σ) : Result σ :=
  match action.run trial with
  | .ok () trial => ⟨.ok trial.session.journal.tally, trial.session.desk, trial.state⟩
  | .error failure trial => ⟨.error failure, trial.session.desk, trial.state⟩

/-- All tests of a benchmark, and its summary. -/
def runAll (setup : Setup σ) : Trying σ Unit := do
  runTests setup 1 setup.benchmark.tests
  report Journal.afterBenchmark

/-- **A benchmark run**: the version of the tool is found out, the journal begun, and all
tests are run. -/
def run (setup : Setup σ) (machine : Machine) (desk : Desk) (state : σ) : Result σ :=
  let benchmark := setup.benchmark
  let (version, tree, state) :=
    setup.host.version benchmark.tool setup.executable desk.tree state
  let begun := Journal.start benchmark version machine setup.settings
    (Tally.ofMarks setup.settings.bugMarks)
  match begun.run { desk with tree } with
  | .error cause desk => ⟨.error (.unreported cause), desk, state⟩
  | .ok journal desk => resultOf (runAll setup) ⟨⟨journal, desk⟩, state⟩

end Trial

end VerifierTrials
