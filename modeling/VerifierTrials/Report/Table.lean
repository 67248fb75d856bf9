import VerifierTrials.Definition.Basic
import VerifierTrials.Machine
import VerifierTrials.Text.Basic

/-!
# The text report

One file for the whole benchmark: a header with the benchmark and the machine, and for
each test a **table** with a line for each run. The columns of a table are as wide as
its longest file name and its titles ask for; times and values stand at the right.
-/

namespace VerifierTrials

open VerifierTrials.Text

/-- **What the header of a report says of the benchmark.** -/
structure Header where
  name : String
  date : String
  tool : String
  version : String
  memoryLimit : Option String := none
  timeLimit : Option String := none
  machine : Machine
  deriving DecidableEq, Repr

namespace Header

/-- A line with a key and its value. -/
def entry (key value : String) : String := left 20 key ++ value ++ "\n"

/-- A line with a key and its value, if there is one. -/
def entry? (key : String) (value : Option String) : String :=
  match value with
  | some value => entry key value
  | none => ""

/-- The end of a block. -/
def blockEnd : String := line '-' 60 ++ "\n\n"

/-- **The header as text.** -/
def text (header : Header) : String :=
  "   BENCHMARK INFORMATION\n" ++
  entry "benchmark:" header.name ++
  entry "date:" header.date ++
  entry "tool:" (header.tool ++ " " ++ header.version) ++
  entry? "memlimit:" header.memoryLimit ++
  entry? "timelimit:" header.timeLimit ++
  blockEnd ++
  "   SYSTEM INFORMATION\n" ++
  entry "os:" header.machine.system ++
  entry "cpu:" header.machine.processor ++
  entry "- cores:" header.machine.cores ++
  entry "- max frequency:" header.machine.frequency ++
  entry "ram:" header.machine.memory ++
  blockEnd

end Header

/-- **The layout of the table of a test.** -/
structure Table where
  fileWidth : Nat
  widths : List Nat
  titles : List String
  deriving DecidableEq, Repr

namespace Table

/-- The layout for the files and the titles of a test. -/
def layout (files titles : List String) : Table :=
  { fileWidth := files.foldl (fun width file => max width file.length) 20 + 4
    widths := titles.map fun title => max title.length 8 + 2
    titles }

/-- A line with a status, two times, and values in the further columns. -/
def row (table : Table) (file status cpu wall : String) (values : List String) : String :=
  left table.fileWidth file ++ left 8 status ++ right 11 cpu ++ right 11 wall ++
    String.join (List.zipWith (fun value width => right width value) values table.widths)

/-- The line with the titles. -/
def titleRow (table : Table) : String :=
  table.row "sourcefile" "status" "cpu time" "wall time" table.titles

/-- A rule as long as the line with the titles. -/
def rule (table : Table) : String := line '-' table.titleRow.length ++ "\n"

/-- The name of a test on a line of its own, if it has one. -/
def nameLine (name : Option String) : String :=
  match name with
  | some name => name ++ "\n"
  | none => ""

/-- Which test it is. -/
def position (number total : Nat) : String :=
  "test " ++ Text.ofNat number ++ " of " ++ Text.ofNat total

/-- **What stands before the lines of a test.** -/
def opening (table : Table) (name : Option String) (number total : Nat) (options : String) :
    String :=
  "\n\n" ++ nameLine name ++ position number total ++ " with options: " ++ options ++ "\n\n" ++
    table.titleRow ++ "\n" ++ table.rule

/-- **What stands for a test that is left out.** -/
def skipped (name : Option String) (number total : Nat) : String :=
  "\n\n" ++ nameLine name ++ position number total ++ ": skipped\n"

/-- **What stands after the lines of a test.** -/
def closing (table : Table) (number files : Nat) (cpu wall : String) : String :=
  let extent :=
    if files = 1 then "1 sourcefile." else Text.ofNat files ++ " sourcefiles."
  table.rule ++
    table.row ("test " ++ Text.ofNat number ++ " consisted of " ++ extent) "done" cpu wall [] ++
    "\n"

end Table

end VerifierTrials
