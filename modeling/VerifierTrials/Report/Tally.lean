import VerifierTrials.Text.LowerCase
import VerifierTrials.Verifier.Status

/-!
# The tally of verdicts

Whether a verdict is right is judged by the name of the source file: it promises a bug
when it contains one of the marks, in any case of letters. The tally counts right and
wrong verdicts of either kind, and the runs that gave none.
-/

namespace VerifierTrials

open VerifierTrials.Text

/-- **The counts of a benchmark.** -/
structure Tally where
  /-- The marks of a promised bug, in lower case. -/
  marks : List String
  total : Nat := 0
  correctSafe : Nat := 0
  correctViolated : Nat := 0
  unknown : Nat := 0
  /-- Found safe although a bug is promised. -/
  wrongSafe : Nat := 0
  /-- Found unsafe although no bug is promised. -/
  wrongViolated : Nat := 0
  deriving DecidableEq, Repr

namespace Tally

/-- Empty counts, for marks in any case of letters. -/
def ofMarks (marks : List String) : Tally := { marks := marks.map lowerCase }

/-- **Whether a file promises a bug.** -/
def expectsBug (tally : Tally) (file : String) : Bool :=
  let name := lowerCase file
  tally.marks.any fun mark => contains mark name

/-- **One more result.** -/
def add (tally : Tally) (file : String) (status : Status) : Tally :=
  let counted := { tally with total := tally.total + 1 }
  match status, tally.expectsBug file with
  | .safe, false => { counted with correctSafe := tally.correctSafe + 1 }
  | .safe, true => { counted with wrongSafe := tally.wrongSafe + 1 }
  | .violated, true => { counted with correctViolated := tally.correctViolated + 1 }
  | .violated, false => { counted with wrongViolated := tally.wrongViolated + 1 }
  | _, _ => { counted with unknown := tally.unknown + 1 }

/-- How many verdicts are right. -/
def correct (tally : Tally) : Nat := tally.correctSafe + tally.correctViolated

/-- A count in its column. -/
def count (width n : Nat) : String := right width (Text.ofNat n)

/-- **The summary** at the end of a benchmark. -/
def summary (tally : Tally) : String :=
  "\nStatistics:" ++ count 13 tally.total ++ " Files\n" ++
  "    correct:        " ++ count 4 tally.correct ++ "\n" ++
  "    unknown:        " ++ count 4 tally.unknown ++ "\n" ++
  "    false negatives:" ++ count 4 tally.wrongSafe ++
    "        (file is unsafe, result is safe)\n" ++
  "    false positives:" ++ count 4 tally.wrongViolated ++
    "        (file is safe, result is unsafe)\n"

end Tally

end VerifierTrials
