import VerifierTrials.Definition.Resolution
import VerifierTrials.Run.Limits
import VerifierTrials.Verifier.Basic

/-!
# Declared and resolved benchmarks

A definition file declares a benchmark; resolving it looks for the files. The file
sets of the benchmark itself belong to every test and come before its own.
-/

namespace VerifierTrials

/-- **A benchmark as declared.** -/
structure DeclaredBenchmark where
  tool : Verifier
  memoryLimit : Option Nat := none
  timeLimit : Option Nat := none
  options : List ToolOption := []
  fileSets : List FileSet := []
  tests : List DeclaredTest := []
  columns : List DeclaredColumn := []
  deriving DecidableEq, Repr

/-- **A benchmark with its work items.** -/
structure Benchmark where
  name : String
  tool : Verifier
  limits : Limits := {}
  options : List ToolOption := []
  tests : List Test := []
  columns : List Column := []
  deriving DecidableEq, Repr

namespace DeclaredBenchmark

/-- A test resolved, given the work items that all tests share. -/
def resolveTest (tree : FileTree) (env : Environment) (shared : List WorkItem)
    (test : DeclaredTest) : Warned Test :=
  let (own, warnings) := FileSet.resolve tree env test.fileSets
  (⟨test.name, test.options, shared ++ own⟩, warnings)

/-- **The benchmark resolved.** -/
def resolve (declared : DeclaredBenchmark) (tree : FileTree) (env : Environment) (name : String) :
    Warned Benchmark :=
  let (shared, warnings) := FileSet.resolve tree env declared.fileSets
  let tests := declared.tests.map (resolveTest tree env shared)
  ({ name
     tool := declared.tool
     limits := Limits.ofDefinition declared.memoryLimit declared.timeLimit
     options := declared.options
     tests := tests.map Prod.fst
     columns := declared.columns.map DeclaredColumn.toColumn },
    warnings ++ tests.flatMap Prod.snd)

end DeclaredBenchmark

end VerifierTrials
