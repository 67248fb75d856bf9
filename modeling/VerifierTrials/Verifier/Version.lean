import VerifierTrials.Text.Utf8
import VerifierTrials.Verifier.Basic
import VerifierTrials.Text.Basic

/-!
# The version of a tool

Reports name the version of the tool, as far as it can be found out: most tools print it
on demand, one only with its usage, and one is known by the revision of its working copy.
-/

namespace VerifierTrials

open VerifierTrials.Text

/-- **What a program has printed**: its standard output and its standard error. -/
structure Printed where
  output : Bytes
  errors : Bytes
  deriving DecidableEq, Repr

namespace Verifier

/-- The command line that makes a tool tell its version, if there is one. -/
def versionCommand? (executable : String) : Verifier → Option (List String)
  | cbmc | satabs | wolverine => some [executable, "--version"]
  | blast => some [executable]
  | cpachecker => some ["svn", "info", executable]
  | acsar => none

/-- The revision in the description of a working copy. -/
def revisionIn? (text : String) : Option String :=
  ((linesOf text).findSome? (dropKey? "Revision: ")).map fun number => "r" ++ trimmed number

/-- **The version in what a tool has printed**, if it is there. -/
def versionIn? (printed : Printed) : Verifier → Option String
  | cbmc | satabs => some (trimmed (Utf8.decodeLossy printed.output))
  | wolverine => (wordsOf (Utf8.decodeLossy printed.output))[1]?
  | blast =>
    let text := Utf8.decodeLossy printed.output ++ Utf8.decodeLossy printed.errors
    some (String.ofList ((text.toList.drop 6).take 3))
  | cpachecker => revisionIn? (Utf8.decodeLossy printed.output)
  | acsar => none

end Verifier

end VerifierTrials
