import VerifierTrials.Machine
import VerifierTrials.Report.Column
import VerifierTrials.Xml.Printer

/-!
# The XML report

One document for each test: the benchmark in the attributes of the root, the machine,
the titles of all columns, an element for each run with its cells, and the times of the
whole test once it is over.
-/

namespace VerifierTrials

open VerifierTrials.Xml

/-- A run in the document. -/
structure RunElement where
  name : String
  options : Option String := none
  cells : List Cell := []
  deriving DecidableEq, Repr

/-- **The document of a test.** -/
structure TestDocument where
  attributes : List (String × String)
  machine : Machine
  titles : List String
  runs : List RunElement := []
  times : Option (String × String) := none
  deriving DecidableEq, Repr

namespace TestDocument

/-- The titles of the columns that every run has. -/
def fixedTitles : List String := ["status", "cputime", "walltime"]

/-- A document without runs, given the titles of the further columns. -/
def begin (attributes : List (String × String)) (machine : Machine) (titles : List String) :
    TestDocument :=
  { attributes, machine, titles := fixedTitles ++ titles }

/-- The document with one more run. -/
def addRun (document : TestDocument) (run : RunElement) : TestDocument :=
  { document with runs := document.runs ++ [run] }

/-- The document with the times of the test. -/
def setTimes (document : TestDocument) (cpu wall : String) : TestDocument :=
  { document with times := some (cpu, wall) }

/-- The machine as an element. -/
def machineNode (machine : Machine) : Node :=
  .branch "systeminfo" []
    [.leaf "os" [("name", machine.system)],
      .leaf "cpu" [("model", machine.processor), ("cores", machine.cores),
        ("frequency", machine.frequency)],
      .leaf "ram" [("size", machine.memory)]]

/-- The titles as an element. -/
def columnsNode (titles : List String) : Node :=
  .branch "columns" [] (titles.map fun title => .leaf "column" [("title", title)])

/-- A run as an element. -/
def runNode (run : RunElement) : Node :=
  .branch "sourcefile"
    (("name", run.name) :: run.options.toList.map fun options => ("options", options))
    (run.cells.map fun cell => .leaf "column" [("title", cell.title), ("value", cell.value)])

/-- **The document as a tree.** -/
def toNode (document : TestDocument) : Node :=
  .branch "test" document.attributes
    ([machineNode document.machine, columnsNode document.titles] ++
      document.runs.map runNode ++
      document.times.toList.map fun (cpu, wall) =>
        .leaf "time" [("cputime", cpu), ("walltime", wall)])

/-- **The text of the document.** -/
def text (document : TestDocument) : String := renderDocument document.toNode

end TestDocument

end VerifierTrials
