import VerifierTrials.Definition.Declared
import VerifierTrials.Report.Desk
import VerifierTrials.Report.Document
import VerifierTrials.Report.Separated
import VerifierTrials.Report.Table
import VerifierTrials.Report.Tally
import VerifierTrials.Run.Outcome
import VerifierTrials.Settings

/-!
# The journal of a benchmark

While a benchmark runs, its **journal** writes down what happens: the text report of the
benchmark, the tab-separated and the XML report of each test, a log for each run, lines
on the terminal, and the tally. The reports are written step by step, so that a benchmark
that stops leaves behind what was finished; only the XML report of a test waits for its
end.

Each step is an action that may fail at any of its writes. What it has done up to there
stays done.
-/

namespace VerifierTrials

open VerifierTrials.Text

/-- **What is reported of a finished run.** -/
structure RunReport where
  file : String
  status : Status
  cpuTime : Span := {}
  wallTime : Span := {}
  /-- What the tool has printed. -/
  output : String
  /-- The command line. -/
  arguments : List String
  cells : List Cell := []
  deriving DecidableEq, Repr

/-- The test that is being reported. -/
structure OpenTest where
  number : Nat
  name : Option String
  files : Nat
  table : Table
  document : TestDocument
  deriving DecidableEq, Repr

/-- **The journal of a benchmark.** -/
structure Journal where
  directory : String
  logDirectory : String
  name : String
  date : String
  options : List ToolOption
  columns : List Column
  testCount : Nat
  places : Nat
  attributes : List (String × String)
  machine : Machine
  openTest? : Option OpenTest := none
  tally : Tally
  deriving DecidableEq, Repr

namespace Journal

/-- The path of a report: the benchmark, its date, the test, and the kind of report. -/
def reportPath (journal : Journal) (test : Option String) (extension : String) : String :=
  let testPart := match test with
    | some name => name ++ "."
    | none => ""
  Path.join journal.directory
    (journal.name ++ "." ++ journal.date ++ ".results." ++ testPart ++ extension)

/-- The path of the text report. -/
def textPath (journal : Journal) : String := journal.reportPath none "txt"

/-- The path of the log of a run: the test and the name of the source file. -/
def logPath (journal : Journal) (test : Option String) (source : String) : String :=
  let base := (Path.fileName? source).getD source
  Path.join journal.logDirectory
    (match test with
      | some name => name ++ "." ++ base ++ ".log"
      | none => base ++ ".log")

/-- The log of a run: its command line, a rule, and its output. -/
def logText (run : RunReport) : String :=
  " ".intercalate run.arguments ++ "\n\n\n" ++ line '-' 80 ++ "\n\n\n" ++ run.output

/-- The titles of the metric columns. -/
def titles (journal : Journal) : List String := journal.columns.map Column.title

/-- The name of a test as the terminal shows it. -/
def shownName (name : Option String) : String :=
  match name with
  | some name => " '" ++ name ++ "'"
  | none => ""

/-- The memory limit as reports show it. -/
def memoryText? (limits : Limits) : Option String :=
  limits.memoryMebibytes.map fun n => Text.ofNat n ++ " MB"

/-- The time limit as reports show it. -/
def timeText? (limits : Limits) : Option String :=
  limits.cpuSeconds.map fun n => Text.ofNat n ++ " s"

/-- The journal of a benchmark before anything is written. -/
def blank (benchmark : Benchmark) (version : String) (machine : Machine) (settings : Settings)
    (tally : Tally) (now : Moment) : Journal :=
  let date := now.stamp settings.dayOnly
  { directory := settings.outputDirectory
    logDirectory :=
      Path.join settings.outputDirectory (benchmark.name ++ "." ++ date ++ ".logfiles")
    name := benchmark.name
    date
    options := benchmark.options
    columns := benchmark.columns
    testCount := benchmark.tests.length
    places := settings.timePlaces
    attributes :=
      [("benchmarkname", benchmark.name), ("date", date), ("tool", benchmark.tool.displayName),
        ("version", version)] ++
      (memoryText? benchmark.limits).toList.map (fun text => ("memlimit", text)) ++
      (timeText? benchmark.limits).toList.map (fun text => ("timelimit", text))
    machine
    tally }

/-- The header of the text report. -/
def header (journal : Journal) (benchmark : Benchmark) (version : String) : Header :=
  { name := journal.name
    date := journal.date
    tool := benchmark.tool.displayName
    version
    memoryLimit := memoryText? benchmark.limits
    timeLimit := timeText? benchmark.limits
    machine := journal.machine }

end Journal

/-! ### Writing down -/

/-- A journal at a desk. -/
structure Session where
  journal : Journal
  desk : Desk
  deriving Repr

/-- An action at a desk, which may fail. -/
abbrev AtDesk := EStateM ReportError Desk

/-- **An action of a journal**, which may fail. -/
abbrev Reporting := EStateM ReportError Session

namespace Journal

/-- One step of the desk as an action. -/
def atDesk (step : Desk → Except ReportError Unit × Desk) : AtDesk Unit := fun desk =>
  match step desk with
  | (.ok (), desk) => .ok () desk
  | (.error cause, desk) => .error cause desk

/-- One step of the desk as an action of the journal. -/
def perform (step : Journal → Desk → Except ReportError Unit × Desk) : Reporting Unit :=
  fun session =>
    match step session.journal session.desk with
    | (.ok (), desk) => .ok () { session with desk }
    | (.error cause, desk) => .error cause { session with desk }

/-- A text on the terminal. -/
def tell (text : Journal → Desk → String) : Reporting Unit :=
  modify fun session =>
    { session with desk := session.desk.display (text session.journal session.desk) }

/-- The journal changed. -/
def alter (change : Journal → Journal) : Reporting Unit :=
  modify fun session => { session with journal := change session.journal }

/-- **The journal begun**: the directory of the logs, the header of the text report, and
the titles of the tab-separated report of each selected test, instead of what was there
before. -/
def start (benchmark : Benchmark) (version : String) (machine : Machine) (settings : Settings)
    (tally : Tally) : AtDesk Journal := do
  let desk ← get
  let journal := blank benchmark version machine settings tally desk.now
  atDesk (·.makeDirectories journal.logDirectory)
  atDesk (·.write journal.textPath (journal.header benchmark version).text)
  for test in benchmark.tests do
    if settings.selects test.name then
      atDesk (·.write (journal.reportPath test.name "csv") (Separated.header journal.titles))
  return journal

/-- **A test left out.** -/
def skipTest (number : Nat) (test : Test) : Reporting Unit := do
  tell fun _ _ => "\nskipping test" ++ shownName test.name ++ "\n"
  perform fun journal desk =>
    desk.append journal.textPath (Table.skipped test.name number journal.testCount)

/-- The layout of the table of a test. -/
def tableOf (journal : Journal) (test : Test) : Table :=
  Table.layout (test.items.map WorkItem.file) journal.titles

/-- The options of a test as reports show them. -/
def optionsOf (journal : Journal) (test : Test) : String :=
  ToolOption.line (ToolOption.merge journal.options test.options [])

/-- The document of a test before its first run. -/
def documentOf (journal : Journal) (test : Test) : TestDocument :=
  TestDocument.begin
    (journal.attributes ++ [("options", journal.optionsOf test)] ++
      test.name.toList.map fun name => ("name", name))
    journal.machine journal.titles

/-- **A test opened.** -/
def beforeTest (number : Nat) (test : Test) : Reporting Unit := do
  tell fun _ _ => "\nrunning test" ++ shownName test.name ++ "\n"
  perform fun journal desk =>
    desk.append journal.textPath
      ((journal.tableOf test).opening test.name number journal.testCount (journal.optionsOf test))
  alter fun journal =>
    { journal with
      openTest? := some
        { number
          name := test.name
          files := test.items.length
          table := journal.tableOf test
          document := journal.documentOf test } }

/-- **A run begun**: the time and the file, on a line that its result will end. -/
def beforeRun (file : String) : Reporting Unit :=
  tell fun journal desk =>
    let width := match journal.openTest? with
      | some test => test.table.fileWidth
      | none => 0
    desk.now.clockText ++ "   " ++ left width file

/-- The test that is open. -/
def currentTest : Reporting OpenTest := do
  match (← get).journal.openTest? with
  | some test => return test
  | none => throw .outsideTest

/-- The element of a run in the document of its test. -/
def elementOf (run : RunReport) (options : List ToolOption) (cpu wall : String) : RunElement :=
  { name := run.file
    options := if options.isEmpty then none else some (ToolOption.line options)
    cells :=
      [⟨"status", run.status.text⟩, ⟨"cputime", cpu⟩, ⟨"walltime", wall⟩] ++ run.cells }

/-- **A run finished**: its log, the rest of its line on the terminal, its element in the
document of the test, its lines in the other reports, and the tally. -/
def afterRun (run : RunReport) (options : List ToolOption) : Reporting Unit := do
  let test ← currentTest
  let places := (← get).journal.places
  let cpu := run.cpuTime.text places
  let wall := run.wallTime.text places
  let values := run.cells.map Cell.value
  perform fun journal desk => desk.write (journal.logPath test.name run.file) (logText run)
  tell fun _ _ => left 8 run.status.text ++ right 8 cpu ++ right 8 wall ++ "\n"
  let document := test.document.addRun (elementOf run options cpu wall)
  alter fun journal => { journal with openTest? := some { test with document } }
  perform fun journal desk =>
    desk.append journal.textPath (test.table.row run.file run.status.text cpu wall values ++ "\n")
  perform fun journal desk =>
    desk.append (journal.reportPath test.name "csv")
      (Separated.row run.file run.status.text cpu wall values)
  alter fun journal => { journal with tally := journal.tally.add run.file run.status }

/-- **A test closed**: its document is written, and its table ended. -/
def afterTest (cpuTime wallTime : Span) : Reporting Unit := do
  let journal := (← get).journal
  match journal.openTest? with
  | none => throw .notStarted
  | some test =>
    let cpu := cpuTime.text journal.places
    let wall := wallTime.text journal.places
    alter fun journal => { journal with openTest? := none }
    perform fun journal desk =>
      desk.write (journal.reportPath test.name "xml") (test.document.setTimes cpu wall).text
    perform fun journal desk =>
      desk.append journal.textPath (test.table.closing test.number test.files cpu wall)

/-- **The benchmark finished**: the summary on the terminal. -/
def afterBenchmark : Reporting Unit :=
  tell fun journal _ => journal.tally.summary ++ "\n"

end Journal

end VerifierTrials
