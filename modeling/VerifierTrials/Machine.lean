import VerifierTrials.Text.Basic

/-!
# The machine of a benchmark

Reports say which machine the benchmark ran on. What they say is found in texts that
the operating system gives: lines with a name, a colon and a value.
-/

namespace VerifierTrials

open VerifierTrials.Text

/-- **What reports say of the machine.** -/
structure Machine where
  system : String
  processor : String
  cores : String
  frequency : String
  memory : String
  deriving DecidableEq, Repr

namespace Machine

/-- The value behind the separator on the first line whose name is the key. -/
def valueOf? (separator : String) (content key : String) : Option String :=
  (linesOf content).findSome? fun line =>
    match cut? separator line with
    | some (name, value) => if trimmed name = key then some (trimmed value) else none
    | none => none

/-- A value in the description of the processors. -/
def processorValue? : String → String → Option String := valueOf? ":"

/-- A value in the description of the memory. -/
def memoryValue? : String → String → Option String := valueOf? ": "

/-- A frequency in megahertz, its fraction cut off. -/
def megahertz (text : String) : String :=
  trimmed (String.ofList (cutAt (· = '.') text.toList)) ++ " MHz"

/-- A frequency given in kilohertz, in megahertz. -/
def ofKilohertz? (text : String) : Option String :=
  (unsigned? (Nat.pow 2 64) (trim text.toList)).map fun n => Text.ofNat (n / 1000) ++ " MHz"

/-- What is said of a machine where nothing is known. -/
def unknown : String := "unknown"

/-- **The machine that texts describe**: the name of the system, the descriptions of the
processors and of the memory, and the largest frequency, if it is known. The largest
frequency is preferred to the present one. -/
def ofTexts (system processors memory : String) (largest : Option String) : Machine :=
  { system
    processor := (processorValue? processors "model name").getD unknown
    cores := (processorValue? processors "cpu cores").getD unknown
    frequency := ((largest.bind ofKilohertz?).or
      ((processorValue? processors "cpu MHz").map megahertz)).getD unknown
    memory := (memoryValue? memory "MemTotal").getD unknown }

end Machine

end VerifierTrials
