import VerifierTrials.Moment
import VerifierTrials.Run.Schedule
import VerifierTrials.Verifier.Preparation
import VerifierTrials.Verifier.Version

/-!
# Where tools are run

A benchmark meets its tools through a **host**, which runs a command line under limits and
tells what came of it. The clocks and the names of new files are the host's, too. The reports of a
benchmark depend on the tools only in this way, so that what is said of them holds for tools of
any behaviour: a host may keep a state of any kind, and it may change the files.

The `scripted` host is the one that is used here. It follows tools that are scripts of the
shell; its state is whether the operator has interrupted. Its clocks stand still: how long a tool
takes is counted from its start. So that the time of a whole test can be read off, they are put
forward by what each run has taken (`timed`).
-/

namespace VerifierTrials

open VerifierTrials.Shell

/-- What a run comes to: its outcome, the files, and the state of the host. -/
abbrev HostAnswer (σ α : Type) : Type := α × FileTree × σ

/-- **Where tools are run.** -/
structure Host (σ : Type) where
  /-- A command line run under limits, with the seconds of grace that it is given. -/
  run : List String → Limits → Nat → FileTree → σ →
    HostAnswer σ (Except BenchmarkError Outcome)
  /-- What a command line prints, if it ends in good time. -/
  ask : List String → FileTree → σ → HostAnswer σ (Option Printed)
  /-- What the clocks show: the time that all tools so far have spent on the CPU, and the
  time by the clock. -/
  clocks : σ → Times × σ
  /-- The names of new files. -/
  fresh : Verifier.NewNames σ

namespace Host

variable {σ : Type} (host : Host σ)

/-! ### Running -/

/-- **The command line that is started**: home directory and variables are put in. -/
def commandLine (env : Environment) (arguments : List String) : List String :=
  arguments.map (Path.expand env)

/-- Whether a word cannot be handed to a program. -/
def hasNull (word : String) : Bool := word.toList.contains '\x00'

/-- **A run on a host.** No tool is started without a program, or with a word that cannot
be handed over. -/
def execute (env : Environment) (grace : Nat) (arguments : List String) (limits : Limits)
    (tree : FileTree) (state : σ) : HostAnswer σ (Except BenchmarkError Outcome) :=
  match commandLine env arguments with
  | [] => (.error (.notLaunched "" .emptyCommand), tree, state)
  | program :: rest =>
    if (program :: rest).any hasNull then
      (.error (.notLaunched program .nullInCommand), tree, state)
    else host.run (program :: rest) limits grace tree state

/-- **The version of a tool**, empty when it cannot be found out. -/
def version (tool : Verifier) (executable : String) (tree : FileTree) (state : σ) :
    HostAnswer σ String :=
  match tool.versionCommand? executable with
  | none => ("", tree, state)
  | some command =>
    if command.any hasNull then ("", tree, state)
    else
      let (printed?, tree, state) := host.ask command tree state
      ((printed?.bind fun printed => tool.versionIn? printed).getD "", tree, state)

/-! ### Tools that are scripts -/

/-- How long a tool may take to tell its version. -/
def askBound : Time := 10 * Course.second

/-- Whether the operator is asked to interrupt while a tool runs that may be killed at a
time. -/
def interruptedIn (course : Course) (killed : Option Time) : Bool :=
  let ended := killed.bind course.lingering
  (course.interrupts (killed.map (· + 1))).any fun time => ended.all (time ≤ ·)

/-- A tool that has been started, followed and supervised until the watchdog expires. -/
def supervised (env : Environment) (start : Start) (limits : Limits) (deadline : Option Time)
    (tree : FileTree) (interrupted : Bool) :
    HostAnswer Bool (Except BenchmarkError Outcome) :=
  let course := Course.ofStart tree env limits start
  let interrupt := course.interruptOf interrupted
  let state := (Supervision.start limits).after (course.occurrences deadline interrupt)
  (state.result?.getD (.error .interrupted),
    course.filesLeft tree deadline interrupt,
    interrupted || interruptedIn course (course.killed deadline interrupt))

/-- A tool started, followed and supervised. The deadline is taken once the tool has been
started; if the clock cannot show it, the tool is killed before it has done anything. -/
def runScript (env : Environment) (now : Instant) (arguments : List String) (limits : Limits)
    (grace : Nat) (tree : FileTree) (interrupted : Bool) :
    HostAnswer Bool (Except BenchmarkError Outcome) :=
  let program := arguments.headD ""
  match Start.ofCommand tree env true program arguments.tail with
  | .error cause => (.error (.notLaunched program (.refused cause)), tree, interrupted)
  | .ok start =>
    match Supervision.deadline? now limits grace with
    | .error cause => (.error cause, tree, interrupted)
    | .ok deadline =>
      supervised env start limits
        (deadline.map fun moment => moment.secondsAfter now * Course.second) tree interrupted

/-- A tool followed for what it prints. -/
def askScript (env : Environment) (arguments : List String) (tree : FileTree)
    (interrupted : Bool) : HostAnswer Bool (Option Printed) :=
  match Start.ofCommand tree env false (arguments.headD "") arguments.tail with
  | .error _ => (none, tree, interrupted)
  | .ok start =>
    let course := Course.ofStart tree env {} start
    let inTime := course.finish.any (· ≤ askBound)
    let before := if inTime then none else some askBound
    (if inTime then
        some ⟨course.written [.output] none, course.written [.errors] none⟩
      else none,
      course.filesAt tree before,
      interrupted || interruptedIn course before)

/-- The directory of programs, and the link to it under its other name. -/
def programDirectory : List String := ["usr", "bin"]

/-- **Files with the programs that can be followed**, in their usual places. -/
def equipped (tree : FileTree) : FileTree :=
  let places := [["usr"], programDirectory, ["dev"]]
  let tree := places.foldl (fun tree place => tree.put place .directory) tree
  let tree := (tree.put ["bin"] (.link "usr/bin")).put ["dev", "null"] (.file 0o666 [])
  Evaluation.programNames.foldl (fun tree name =>
    tree.put (programDirectory ++ [name]) (.file 0o755 (Image.nativeFile name))) tree

/-- New names that are numbers: the first one that is not taken. There are more of them than
there are files. -/
def numbered : Verifier.NewNames σ := fun pathOf tree state =>
  let names := (List.range (tree.entries.length + 1)).map (Moment.padded 6)
  match names.find? fun name => !tree.pathExists (pathOf name) with
  | some name => (.ok name, state)
  | none => (.error ⟨.alreadyExists, none⟩, state)

/-- **The host of tools that are scripts**, with what its clock shows. -/
def scripted (env : Environment) (now : Instant) : Host Bool where
  run := runScript env now
  ask := askScript env
  clocks interrupted := ({}, interrupted)
  fresh := numbered

end Host

/-! ### Clocks that are put forward -/

/-- A state of a host, with what its clocks show. -/
structure Timed (σ : Type) where
  times : Times := {}
  state : σ

/-- **A host whose clocks are put forward** by the time that each of its runs has taken. -/
def Host.timed {σ : Type} (host : Host σ) : Host (Timed σ) where
  run arguments limits grace tree timed :=
    let (result, tree, state) := host.run arguments limits grace tree timed.state
    match result with
    | .ok outcome =>
      (.ok outcome, tree, ⟨timed.times.add ⟨outcome.cpuTime, outcome.wallTime⟩, state⟩)
    | .error cause => (.error cause, tree, { timed with state })
  ask command tree timed :=
    let (printed?, tree, state) := host.ask command tree timed.state
    (printed?, tree, { timed with state })
  clocks timed := (timed.times, timed)
  fresh pathOf tree timed :=
    let (name, state) := host.fresh pathOf tree timed.state
    (name, { timed with state })

end VerifierTrials
