import VerifierTrials.Definition.FromToml
import VerifierTrials.Definition.FromXml
import VerifierTrials.Error

/-!
# Loading a definition

A definition is read from its file, in the layout that the extension of the file tells,
and resolved. The benchmark is named after the file.
-/

namespace VerifierTrials

namespace BenchmarkError

/-- The text of a failure. The description of a definition that is malformed in itself
is left out. -/
def message? : BenchmarkError → Option String
  | unreadableDefinition path cause =>
    some ("Failed to read benchmark definition " ++ path ++ ": " ++ cause.message)
  | malformedDefinition _ => none
  | malformedDocument path cause =>
    cause.message?.map fun text => "Invalid XML benchmark definition " ++ path ++ ": " ++ text
  | toolNotFound program => some ("Could not find " ++ program ++ " executable")
  | notLaunched program cause =>
    some ("Failed to launch " ++ program ++ ": " ++ cause.message ++
      ". Make sure the directory containing the tool to be benchmarked is included in " ++
      "the PATH environment variable")
  | deadlineOutOfRange => some "overflow when adding duration to instant"
  | neverReaped => some "IO error: tool was never reaped"
  | placesOutOfRange => some "Formatting argument out of range"
  | interrupted => some "Interrupted by user"

end BenchmarkError

namespace Benchmark

/-- Whether a definition has the classic layout. -/
def isClassic (path : String) : Bool :=
  match Path.extension? path with
  | some extension => String.ofList (extension.toList.map Char.toLower) = "xml"
  | none => false

/-- What a definition file declares. -/
def declared (tree : FileTree) (path : String) : Except BenchmarkError DeclaredBenchmark :=
  match tree.readText path with
  | .error cause => .error (.unreadableDefinition path cause)
  | .ok text =>
    if isClassic path then
      (DeclaredBenchmark.ofXml text).mapError (.malformedDocument path)
    else
      match DeclaredBenchmark.ofToml? text with
      | some declared => .ok declared
      | none => .error (.malformedDefinition path)

/-- **The benchmark that a file defines.** -/
def load (tree : FileTree) (env : Environment) (path : String) :
    Except BenchmarkError (Warned Benchmark) := do
  let found ← declared tree path
  .ok (found.resolve tree env ((Path.stem? path).getD ""))

end Benchmark

end VerifierTrials
