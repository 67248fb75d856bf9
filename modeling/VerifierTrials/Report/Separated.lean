import VerifierTrials.Text.Basic

/-!
# The tab-separated report

One file for each test: a line of titles, then a line for each run, the fields divided
by tabs.
-/

namespace VerifierTrials.Separated

/-- The titles of the fields that every run has. -/
def fixedTitles : List String := ["sourcefile", "status", "cputime", "walltime"]

/-- A line of fields. -/
def line (fields : List String) : String := Text.join "\t" fields ++ "\n"

/-- **The line of titles.** -/
def header (titles : List String) : String := line (fixedTitles ++ titles)

/-- **The line of a run.** -/
def row (file status cpu wall : String) (values : List String) : String :=
  line ([file, status, cpu, wall] ++ values)

end VerifierTrials.Separated
