import VerifierTrials.Text.Quoted

/-!
# The tools that are benchmarked

A closed list of software verifiers. Each has a **key**, by which definitions name it,
a display name for reports, and the name of its program; some are also looked for at a
place inside their own distribution. One of them prints metrics from which the columns
of a report are filled.
-/

namespace VerifierTrials

/-- **A software verifier.** -/
inductive Verifier where
  | cbmc
  | satabs
  | wolverine
  | acsar
  | cpachecker
  | blast
  deriving DecidableEq, Repr

namespace Verifier

/-- All of them. -/
def all : List Verifier := [cbmc, satabs, wolverine, acsar, cpachecker, blast]

/-- The key that definitions name a tool by. -/
def key : Verifier → String
  | cbmc => "cbmc"
  | satabs => "satabs"
  | wolverine => "wolverine"
  | acsar => "acsar"
  | cpachecker => "cpachecker"
  | blast => "blast"

/-- The tool with a key. -/
def ofKey? (name : String) : Option Verifier := all.find? fun tool => tool.key = name

/-- What a name that is no key is answered. -/
def unknownMessage (name : String) : String := "unknown tool " ++ Text.quoted name

/-- The name of a tool in reports. -/
def displayName : Verifier → String
  | cbmc => "CBMC"
  | satabs => "SatAbs"
  | wolverine => "WOLVERINE"
  | acsar => "ACSAR"
  | cpachecker => "CPAchecker"
  | blast => "BLAST"

/-- The program that runs a tool. -/
def program : Verifier → String
  | cbmc => "cbmc"
  | satabs => "satabs"
  | wolverine => "wolverine"
  | acsar => "acsar"
  | cpachecker => "cpachecker"
  | blast => "pblast.opt"

/-- Where the program lies in a tool's own distribution, if it is looked for there. -/
def fallback? : Verifier → Option String
  | cbmc => some "lib/native/x86_64-linux/cbmc"
  | cpachecker => some "scripts/cpa.sh"
  | _ => none

/-- Whether a tool prints the metrics that columns ask for. -/
def printsMetrics : Verifier → Bool
  | cpachecker => true
  | _ => false

end Verifier

end VerifierTrials
