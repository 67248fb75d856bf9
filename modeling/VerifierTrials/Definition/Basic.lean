/-!
# Benchmark definitions

A **definition** says which tool to run on which files, with which options and under
which limits. It is read as declared (`DeclaredBenchmark`), with patterns for files,
and then resolved to concrete **work items** (`Benchmark`), one for each run.

Options come in three layers, those of the benchmark, of the test and of the file set,
and are handed to the tool one after the other in this order (`Option.flatten`).
-/

namespace VerifierTrials

/-- **A command-line option** of a tool, with the value behind it, if it takes one. -/
structure ToolOption where
  name : String
  value : Option String := none
  deriving DecidableEq, Repr

namespace ToolOption

/-- The words that options contribute to a command line. -/
def words (options : List ToolOption) : List String :=
  options.flatMap fun o => o.name :: o.value.toList

/-- The options of the three layers as one list. -/
def merge (benchmark test file : List ToolOption) : List ToolOption := benchmark ++ test ++ file

/-- The options as one line of text. -/
def line (options : List ToolOption) : String := " ".intercalate (words options)

end ToolOption

/-- **A set of files as declared**: patterns to include, patterns of list files with
further patterns, patterns to exclude, and the options for these files. -/
structure FileSet where
  included : List String := []
  lists : List String := []
  excluded : List String := []
  options : List ToolOption := []
  deriving DecidableEq, Repr

/-- A metric column as declared: the text that it is found by, its title if that is
another one, and the number of places to round to. -/
structure DeclaredColumn where
  text : String
  title : Option String := none
  digits : Option Nat := none
  deriving DecidableEq, Repr

/-- A metric column of the reports. -/
structure Column where
  text : String
  title : String
  digits : Option Nat := none
  deriving DecidableEq, Repr

/-- A column whose title is not declared is titled by its text. -/
def DeclaredColumn.toColumn (column : DeclaredColumn) : Column :=
  ⟨column.text, column.title.getD column.text, column.digits⟩

/-- A test as declared. -/
structure DeclaredTest where
  name : Option String := none
  options : List ToolOption := []
  fileSets : List FileSet := []
  deriving DecidableEq, Repr

/-- One run to be made: a file and the options of its file set. -/
structure WorkItem where
  file : String
  options : List ToolOption := []
  deriving DecidableEq, Repr

/-- A test with its work items. -/
structure Test where
  name : Option String := none
  options : List ToolOption := []
  items : List WorkItem := []
  deriving DecidableEq, Repr

end VerifierTrials
