import VerifierTrials.FileTree.Basic
import VerifierTrials.Toml.Decoding

/-!
# Settings

What a benchmark run can be set to do otherwise: which test to run, how long a tool may
outlive its CPU limit, which names of source files promise a bug, where the reports go
and how they show times and dates. Every setting has a value when it is not given.
-/

namespace VerifierTrials

/-- **The settings of a benchmark run.** -/
structure Settings where
  /-- The one test to be run. -/
  only : Option String := none
  /-- Seconds that a tool may outlive its CPU limit by the clock. -/
  graceSeconds : Nat := 10
  /-- What in the name of a source file promises a bug. -/
  bugMarks : List String := ["bug", "unsafe"]
  /-- Where the reports go. -/
  outputDirectory : String := "./test/results/"
  /-- The number of places of times. -/
  timePlaces : Nat := 2
  /-- Whether reports are named by the day alone. -/
  dayOnly : Bool := true
  deriving DecidableEq, Repr

namespace Settings

/-- **Whether a test is to be run.** -/
def selects (settings : Settings) (test : Option String) : Bool :=
  match settings.only with
  | none => true
  | some wanted => test = some wanted

open VerifierTrials.Toml

/-- The settings of one run, put over given ones. -/
def runRecord (base : Settings) : Decoder Settings := fun value => do
  let entries ← record ["test_filter", "watchdog_grace_secs", "bug_substrings"] value
  some
    { base with
      only := ← maybe entries "test_filter" string
      graceSeconds := ← optional entries "watchdog_grace_secs" base.graceSeconds natural
      bugMarks := ← optional entries "bug_substrings" base.bugMarks (list string) }

/-- The settings of the reports, put over given ones. -/
def outputRecord (base : Settings) : Decoder Settings := fun value => do
  let entries ← record ["output_dir", "time_precision", "use_only_date"] value
  some
    { base with
      outputDirectory := ← optional entries "output_dir" base.outputDirectory string
      timePlaces := ← optional entries "time_precision" base.timePlaces natural
      dayOnly := ← optional entries "use_only_date" base.dayOnly boolean }

/-- **The settings that a document gives.** -/
def ofToml? (document : String) : Option Settings := do
  let entries ← readDocument? document
  let settings ← optional entries "run" {} (runRecord {})
  optional entries "output" settings (outputRecord settings)

/-- Why settings cannot be had. -/
inductive Fault where
  | unreadable (cause : FileError)
  | malformed
  deriving DecidableEq, Repr

/-- **The settings in a file.** -/
def load (tree : FileTree) (path : String) : Except Fault Settings :=
  match tree.readText path with
  | .error cause => .error (.unreadable cause)
  | .ok text =>
    match ofToml? text with
    | some settings => .ok settings
    | none => .error .malformed

end Settings

end VerifierTrials
