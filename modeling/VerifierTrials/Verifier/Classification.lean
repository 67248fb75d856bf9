import VerifierTrials.Run.Limits
import VerifierTrials.Run.Outcome
import VerifierTrials.Verifier.Basic
import VerifierTrials.Verifier.Status
import VerifierTrials.Verifier.TraceReport
import VerifierTrials.Warning

/-!
# From outcomes to statuses

Each tool has its own way of telling how a run ended: exit codes, sentences on lines of
their own, texts anywhere in the output, or a report in markup. **Classification**
(`Verifier.classify`) reads the outcome of a run accordingly; it never fails, and what
it finds contradictory it tells in a warning.
-/

namespace VerifierTrials.Verifier

open VerifierTrials.Text

/-! ### CBMC: a report in markup -/

/-- Tags without a name, which are no markup, given one. -/
def nameEmptyTags (output : String) : String :=
  replace "</>" "</emptyTag>" (replace "<>" "<emptyTag>" output)

/-- The status that a report gives, for an exit code and options. Without the check that
loops were unwound far enough, neither a success nor a failure of that very check is a
verdict. -/
def statusOfReport (report : TraceReport) (exitCode : Int) (options : List String) :
    Status × List Warning :=
  match report.status.map trimmed with
  | some "FAILURE" =>
    (if contains "unwinding assertion" (report.reason.getD "") then .unknown else .violated,
      if exitCode ≠ 10 then [.failureReported exitCode] else [])
  | some "SUCCESS" =>
    (if options.contains "--no-unwinding-assertions" then .unknown else .safe,
      if exitCode ≠ 0 then [.successReported exitCode] else [])
  | _ => (.error none, [])

/-- The status of a run of CBMC. -/
def classifyCbmc (outcome : Outcome) (options : List String) : Status × List Warning :=
  if outcome.exitCode = 0 || outcome.exitCode = 10 then
    match TraceReport.read? (nameEmptyTags outcome.output) with
    | some report => statusOfReport report outcome.exitCode options
    | none => (.error none, [.unreadableReport])
  else if outcome.exitCode = -9 then (.timeout, [])
  else if outcome.exitCode = 134 then (.aborted, [])
  else if outcome.exitCode = 137 then (.killedBySignal9, [])
  else if outcome.exitCode = 143 then (.killed, [])
  else (.error (some outcome.exitCode), [])

/-! ### SatAbs and Wolverine: a text anywhere in the output -/

/-- The exit codes by which the two tools differ. -/
structure SatAbsCodes where
  /-- The exit code of a source file that cannot be parsed. -/
  parsing : Int
  /-- The exit code of a run that is out of memory and says so. -/
  outOfMemory : Option Int
  deriving DecidableEq, Repr

/-- The exit codes of SatAbs. -/
def satabsCodes : SatAbsCodes := ⟨1, none⟩

/-- The exit codes of Wolverine. -/
def wolverineCodes : SatAbsCodes := ⟨6, some 6⟩

/-- What there is to say about a verdict's exit code. -/
def expectExit (actual expected : Int) : List Warning :=
  if actual = expected then [] else [.verdictAgainstExit actual expected]

/-- The status of a run of SatAbs or Wolverine. -/
def classifySatAbs (codes : SatAbsCodes) (outcome : Outcome) : Status × List Warning :=
  let code := outcome.exitCode
  if contains "VERIFICATION SUCCESSFUL" outcome.output then (.safe, expectExit code 0)
  else if contains "VERIFICATION FAILED" outcome.output then (.violated, expectExit code 10)
  else if code = -9 then (.timeout, [])
  else if code = -6 || (codes.outOfMemory = some code && contains "Out of memory" outcome.output)
  then (.outOfMemory, [])
  else if code = codes.parsing && contains "PARSING ERROR" outcome.output then (.parsingError, [])
  else (.failure, [])

/-! ### ACSAR: the first of a list of texts -/

/-- The texts that decide, in the order of their weight. -/
def acsarMarkers : List (String × Status) :=
  [("syntax error", .syntaxError),
    ("runtime error", .runtimeError),
    ("can not be used as a root procedure because it is not defined", .noMain),
    ("For Error Location <<ERROR_LOCATION>>: I don't Know ", .timeout),
    ("received signal 6", .abort),
    ("received signal 11", .segfault),
    ("received signal 15", .killed),
    ("Error Location <<ERROR_LOCATION>> is reachable via the following path", .violated)]

/-- The status of a run of ACSAR: safe, unless a text says otherwise. -/
def classifyAcsar (outcome : Outcome) : Status :=
  match acsarMarkers.find? fun marker => contains marker.1 outcome.output with
  | some (_, status) => status
  | none => .safe

/-! ### BLAST: the last line that says something -/

/-- What a line of BLAST says, for an exit code. -/
def blastLine? (exitCode : Int) (line : String) : Option Status :=
  if startsWith "Error found! The system is unsafe :-(" line then some .violated
  else if startsWith "No error found.  The system is safe :-)" line then some .safe
  else if exitCode = 2 && startsWith "Fatal error: out of memory." line then some .outOfMemory
  else if exitCode = 2 && startsWith "Ack! The gremlins again!: Sys_error(\"Broken pipe\")" line
  then some .timeout
  else none

/-- The status of a run of BLAST. -/
def classifyBlast (outcome : Outcome) : Status :=
  ((linesOf outcome.output).filterMap (blastLine? outcome.exitCode)).getLast?.getD .unknown

/-! ### CPAchecker: the first verdict, unless a line overrides it -/

/-- Whether a run has used up its CPU time, to one in a hundred. -/
def isExhausted (cpuTime : Span) (limits : Limits) : Bool :=
  match limits.cpuSeconds with
  | some seconds => seconds * 1000 * 99 ≤ cpuTime.milliseconds * 100
  | none => false

/-- A line that tells of exhausted memory. -/
def tellsOutOfMemory (line : String) : Bool :=
  contains "java.lang.OutOfMemoryError" line || contains "std::bad_alloc" line ||
    contains "Cannot allocate memory" line || startsWith "out of memory" line

/-- The status that a line gives whatever has been found before. -/
def overridingStatus? (exitCode : Int) (line : String) : Option Status :=
  if tellsOutOfMemory line then some .outOfMemory
  else if contains "SIGSEGV" line then some .segmentationFault
  else if (exitCode = 0 || exitCode = 1) && contains "Exception" line then some .exception
  else none

/-- The status that a line gives when nothing has been found before. -/
def verdictLine? (line : String) : Option Status :=
  match dropKey? "Verification result: " line with
  | some rest =>
    let result := trimmed rest
    some (if startsWith "SAFE" result then .safe
      else if startsWith "UNSAFE" result then .violated
      else .unknown)
  | none => if startsWith "#Test cases computed:" line then some .ok else none

/-- The status that an exit code gives by itself. -/
def exitStatus? (exitCode : Int) : Option Status :=
  if exitCode = 0 then none
  else if exitCode = -6 then some .abortedByMathsat
  else if exitCode = -9 then some .killedBySignal9
  else if exitCode = 143 then some .killed
  else some (.error (some exitCode))

/-- The status after one more line. -/
def readLine (exitCode : Int) (status : Option Status) (line : String) : Option Status :=
  match overridingStatus? exitCode line with
  | some overriding => some overriding
  | none =>
    match status with
    | some found => some found
    | none => verdictLine? line

/-- The status of a run of CPAchecker. -/
def classifyCpachecker (outcome : Outcome) (limits : Limits) : Status :=
  if outcome.exitCode = -9 && isExhausted outcome.cpuTime limits then .timeout
  else
    ((linesOf outcome.output).foldl (readLine outcome.exitCode)
      (exitStatus? outcome.exitCode)).getD .unknown

/-! ### All tools -/

/-- **The status of a run**, with what there is to warn about. -/
def classify (tool : Verifier) (outcome : Outcome) (options : List String) (limits : Limits) :
    Status × List Warning :=
  match tool with
  | cbmc => classifyCbmc outcome options
  | satabs => classifySatAbs satabsCodes outcome
  | wolverine => classifySatAbs wolverineCodes outcome
  | acsar => (classifyAcsar outcome, [])
  | cpachecker => (classifyCpachecker outcome limits, [])
  | blast => (classifyBlast outcome, [])

end VerifierTrials.Verifier
