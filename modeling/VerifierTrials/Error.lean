import VerifierTrials.FileTree.Basic
import VerifierTrials.Xml.Tree

/-!
# Why a benchmark stops

Loading a definition and running a tool fail for one of a few causes. A failure ends
the benchmark, unlike what is told in a warning.
-/

namespace VerifierTrials

/-- Why a tool cannot be started. -/
inductive LaunchError where
  | emptyCommand
  | nullInCommand
  | refused (cause : FileError)
  deriving DecidableEq, Repr

/-- The text of a refused start. -/
def LaunchError.message : LaunchError → String
  | emptyCommand => "empty command line"
  | nullInCommand => "nul byte found in provided data"
  | refused cause => cause.message

/-- **Why a benchmark stops.** -/
inductive BenchmarkError where
  | unreadableDefinition (path : String) (cause : FileError)
  | malformedDefinition (path : String)
  | malformedDocument (path : String) (cause : Xml.DocumentError)
  | toolNotFound (program : String)
  | notLaunched (program : String) (cause : LaunchError)
  /-- The deadline of a run is no moment that the clock can show. -/
  | deadlineOutOfRange
  /-- A run is over and its tool has not ended. -/
  | neverReaped
  /-- A value is to be written with more places than a number can have. -/
  | placesOutOfRange
  | interrupted
  deriving DecidableEq, Repr

end VerifierTrials
