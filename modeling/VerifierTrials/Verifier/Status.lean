import VerifierTrials.Text.Basic

/-!
# The status of a run

A run ends in a verdict, in a category of failure, or in neither. Reports show the
status as a fixed text; a plain error may carry the exit code that it came with.
-/

namespace VerifierTrials

/-- **How a run ended.** -/
inductive Status where
  | safe
  | violated
  | unknown
  | timeout
  | outOfMemory
  /-- An error of no particular kind, with the exit code if that is all there is. -/
  | error (exitCode : Option Int)
  | aborted
  | abortedByMathsat
  | abort
  | killed
  | killedBySignal9
  | parsingError
  | syntaxError
  | runtimeError
  | noMain
  | segfault
  | segmentationFault
  | exception
  | failure
  | ok
  deriving DecidableEq, Repr

namespace Status

/-- The text of a status in reports. -/
def text : Status → String
  | safe => "SAFE"
  | violated => "UNSAFE"
  | unknown => "UNKNOWN"
  | timeout => "TIMEOUT"
  | outOfMemory => "OUT OF MEMORY"
  | error none => "ERROR"
  | error (some code) => "ERROR (" ++ Text.ofInt code ++ ")"
  | aborted => "ABORTED"
  | abortedByMathsat => "ABORTED (probably by Mathsat)"
  | abort => "ABORT"
  | killed => "KILLED"
  | killedBySignal9 => "KILLED BY SIGNAL 9"
  | parsingError => "PARSING ERROR"
  | syntaxError => "SYNTAX ERROR"
  | runtimeError => "RUNTIME ERROR"
  | noMain => "NO MAIN"
  | segfault => "SEGFAULT"
  | segmentationFault => "SEGMENTATION FAULT"
  | exception => "EXCEPTION"
  | failure => "FAILURE"
  | ok => "OK"

/-- The statuses without an exit code. -/
def plain : List Status :=
  [safe, violated, unknown, timeout, outOfMemory, error none, aborted, abortedByMathsat, abort,
    killed, killedBySignal9, parsingError, syntaxError, runtimeError, noMain, segfault,
    segmentationFault, exception, failure, ok]

/-- The exit code in the text of an error. -/
def exitCodeIn? (s : String) : Option Int := do
  let rest ← Text.dropKey? "ERROR (" s
  let (digits, tail) ← Text.cut? ")" rest
  if tail ≠ "" then none
  else
    match digits.toList with
    | '-' :: digits => (Text.digitsValue? digits).map fun n => -(n : Int)
    | digits => (Text.digitsValue? digits).map fun n => (n : Int)

/-- The status that a text shows. -/
def ofText? (s : String) : Option Status :=
  match plain.find? fun status => status.text = s with
  | some status => some status
  | none => (exitCodeIn? s).map fun code => error (some code)

end Status

end VerifierTrials
