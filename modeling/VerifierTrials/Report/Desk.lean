import VerifierTrials.FileTree.Basic
import VerifierTrials.Moment
import VerifierTrials.Warning

/-!
# Where reports are written

A **desk** is what the reporting of a benchmark works on: the files, the terminal, the
warnings, and the clock. The device under the files may fail any single write (`faults`). A
write that fails may leave the beginning of its text in the file, which has then been emptied
or made anew, if that is what the write does to the file it opens.
-/

namespace VerifierTrials

/-- Why a report cannot be written. -/
inductive ReportError where
  | notCreated (path : String)
  | notWritten (path : String)
  | notOpened (path : String)
  | notAppended (path : String)
  /-- A run is reported while no test is open. -/
  | outsideTest
  /-- A test is closed that was never opened. -/
  | notStarted
  deriving DecidableEq, Repr

/-- The text of a failure. -/
def ReportError.message : ReportError → String
  | notCreated path => "Failed to create " ++ path
  | notWritten path => "Failed to write " ++ path
  | notOpened path => "Failed to open " ++ path
  | notAppended path => "Failed to append to " ++ path
  | outsideTest => "Run reported outside of a test"
  | notStarted => "Test finished without being started"

/-- **Files, terminal, warnings and clock.** -/
structure Desk where
  tree : FileTree
  now : Moment
  shown : String := ""
  warnings : List Warning := []
  /-- How the device fails the next writes, if it does; none of those after them. -/
  faults : List (Option WriteFault) := []
  deriving Repr

namespace Desk

/-- A text on the terminal. -/
def display (desk : Desk) (text : String) : Desk := { desk with shown := desk.shown ++ text }

/-- More warnings. -/
def warn (desk : Desk) (warnings : List Warning) : Desk :=
  { desk with warnings := desk.warnings ++ warnings }

/-- How the device fails the next write, if it does. -/
def fault? (desk : Desk) : Option WriteFault := desk.faults.headD none

/-- The desk once a write has been tried. -/
def afterWrite (desk : Desk) (tree : FileTree) : Desk :=
  { desk with tree, faults := desk.faults.tail }

/-- **A text put into a file**, as far as the device takes it. It makes a difference whether the
file could not be opened or its text not be written. -/
def put (desk : Desk) (change : FileTree → Bytes → Except FileError FileTree) (text : String)
    (unopened unwritten : ReportError) : Except ReportError Unit × Desk :=
  match WriteFault.taken desk.fault? (Utf8.encode text) with
  | .error _ => (.error unopened, desk.afterWrite desk.tree)
  | .ok (taken, cut?) =>
    match change desk.tree taken, cut? with
    | .error _, _ => (.error unopened, desk.afterWrite desk.tree)
    | .ok tree, none => (.ok (), desk.afterWrite tree)
    | .ok tree, some _ => (.error unwritten, desk.afterWrite tree)

/-- A file replaced by a text. -/
def write (desk : Desk) (path text : String) : Except ReportError Unit × Desk :=
  desk.put (·.write path ·) text (.notWritten path) (.notWritten path)

/-- A text appended to a file. -/
def append (desk : Desk) (path text : String) : Except ReportError Unit × Desk :=
  desk.put (·.append path ·) text (.notOpened path) (.notAppended path)

/-- A directory made, with those around it. -/
def makeDirectories (desk : Desk) (path : String) : Except ReportError Unit × Desk :=
  match desk.tree.makeDirectories path with
  | .ok tree => (.ok (), { desk with tree })
  | .error _ => (.error (.notCreated path), desk)

end Desk

end VerifierTrials
