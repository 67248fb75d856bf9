import VerifierTrials.Text.Quoted
import VerifierTrials.Text.Basic

/-!
# Warnings

What goes wrong without stopping a benchmark is told in a warning: patterns that
match nothing, list files that cannot be read, tools whose report contradicts their
exit code, sources that cannot be prepared.
-/

namespace VerifierTrials

/-- What a warning is about. -/
inductive Warning where
  /-- A pattern matches no file. -/
  | nothingMatches (pattern : String)
  /-- A pattern of a list file matches nothing beside that file. -/
  | triedBesideList (pattern : String)
  /-- The same pattern matches something from the working directory. -/
  | foundWithoutList (pattern : String)
  /-- A list file cannot be read. -/
  | unreadableList (path : String)
  /-- A verdict comes with an exit code that belongs to another one. -/
  | verdictAgainstExit (actual expected : Int)
  /-- A tool's report is no well-formed document. -/
  | unreadableReport
  /-- A tool reports a failure of the property with an unexpected exit code. -/
  | failureReported (exitCode : Int)
  /-- A tool reports success with an unexpected exit code. -/
  | successReported (exitCode : Int)
  /-- A source file cannot be made ready for a tool. -/
  | unpreparedSource (file tool cause : String)
  deriving DecidableEq, Repr

namespace Warning

open VerifierTrials.Text

/-- The text of a warning. -/
def message : Warning → String
  | nothingMatches pattern => "No files found matching " ++ quoted pattern ++ "."
  | triedBesideList pattern =>
    "Perhaps old or invalid test-set. Trying fallback for " ++ quoted pattern ++ "."
  | foundWithoutList pattern => "Fallback has found some files for " ++ quoted pattern ++ "."
  | unreadableList path => "Cannot read file list " ++ quoted path
  | verdictAgainstExit actual expected =>
    "Verdict in tool output does not match exit code " ++ ofInt actual ++
      " (expected " ++ ofInt expected ++ ")."
  | unreadableReport => "Error parsing CBMC output"
  | failureReported exitCode => "CBMC reported FAILURE but exited with code " ++ ofInt exitCode ++ "."
  | successReported exitCode => "CBMC reported SUCCESS but exited with code " ++ ofInt exitCode ++ "."
  | unpreparedSource file tool cause =>
    "Cannot prepare " ++ file ++ " for " ++ tool ++ ": " ++ cause

end Warning

end VerifierTrials
