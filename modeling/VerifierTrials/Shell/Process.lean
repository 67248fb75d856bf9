import VerifierTrials.FileTree.Basic
import VerifierTrials.Path.Expand
import VerifierTrials.Run.Limits
import VerifierTrials.Shell.Command

/-!
# Processes

A tool is a process that writes, waits, sends signals and starts further processes. All
processes of a run share a **scene**: the files, the clock, and what has been written and
signalled so far, each with its time. What belongs to one process alone, such as its
variables and where its streams lead, is copied for a process that it starts (`fork`).

The clock counts microseconds since the start of the run and moves on only when a process
waits. A process in the background is followed to its end at once, and the clock is put
back for the process that goes on beside it.

Processes belong to **groups**, named by the process that began them. A process stays in the
group of the one that has started it unless it begins a group of its own; what is noted of a
run says from which group it comes, since whoever kills the tool kills its group.
-/

namespace VerifierTrials.Shell

/-- A time since the start of a run, in microseconds. -/
abbrev Time := Nat

/-- Where a stream leads. -/
inductive Sink where
  /-- To the outside, by the standard output. -/
  | output
  /-- To the outside, by the standard error. -/
  | errors
  /-- To a process or a substitution that reads it. -/
  | pipe (number : Nat)
  /-- To the end of a file. -/
  | file (path : String)
  | nowhere
  deriving DecidableEq, Repr

/-- Something written. -/
structure Writing where
  time : Time
  /-- The process in the foreground or background to which the writer belongs. -/
  job : Nat
  group : Nat
  sink : Sink
  content : Bytes
  deriving Repr

/-- A signal sent to a process. -/
structure Sent where
  time : Time
  /-- The group of the process that sends it. -/
  group : Nat
  process : Nat
  signal : Nat
  deriving DecidableEq, Repr

/-- A change of the files. -/
structure Change where
  time : Time
  group : Nat
  /-- The files after it. -/
  tree : FileTree

/-- **How a process ends.** -/
inductive Ending where
  | exited (status : Nat)
  | killed (signal : Nat)
  deriving DecidableEq, Repr

/-- The status by which the shell knows an ending. -/
def Ending.status : Ending → Nat
  | exited status => status
  | killed signal => 128 + signal

/-- A process in the background, or one that has begun a group of its own. -/
structure Job where
  number : Nat
  group : Nat
  /-- When it ends, if it does. -/
  ended : Option Time
  ending : Ending
  /-- Whether it may write to the outside. -/
  holdsOutput : Bool
  deriving Repr

/-- The beginning of a group: its number, the group that it is begun from, and when. -/
structure Branching where
  group : Nat
  origin : Nat
  time : Time
  deriving DecidableEq, Repr

/-- **What the processes of a run share.** -/
structure Scene where
  tree : FileTree
  now : Time := 0
  /-- What has been written, last first. -/
  writings : List Writing := []
  /-- The signals sent and not yet received, last first. -/
  signals : List Sent := []
  jobs : List Job := []
  /-- The groups that have been begun beside that of the tool, last first. -/
  branchings : List Branching := []
  /-- The number of the latest process. -/
  latest : Nat
  /-- The number of the latest pipe. -/
  pipes : Nat := 0
  /-- The changes of the files, last first. -/
  changes : List Change := []

/-- What a process does on a signal. -/
inductive Reaction where
  | ignored
  | script (text : String)
  deriving DecidableEq, Repr

/-- **A process.** -/
structure Process where
  scene : Scene
  number : Nat
  parent : Nat
  /-- The process that the shell began as, and the one that has started it. -/
  shell : Nat
  shellParent : Nat
  job : Nat
  /-- The group that it belongs to. -/
  group : Nat
  /-- The working directory, as names from the root. -/
  directory : List String
  environment : Environment
  /-- The variables that are not handed on. -/
  own : Environment := ⟨[]⟩
  /-- The variables that are to be handed on once they are set. -/
  shared : List String := []
  functions : List (String × Command) := []
  name : String := ""
  arguments : List String := []
  status : Nat := 0
  /-- The latest process in the background. -/
  background : Option Nat := none
  line : Nat := 1
  input : Bytes := []
  sinks : List (Nat × Sink) := [(1, .output), (2, .errors)]
  limits : Limits := {}
  /-- What it does on signals; zero stands for its exit. -/
  reactions : List (Nat × Reaction) := []
  /-- The letters of the options that are set. -/
  options : List Char := []
  /-- The variables that may not be set any more. -/
  readOnly : List String := []
  /-- Inside a function, what its own variables have been before. -/
  locals : Option (List (String × Option String)) := none
  /-- How many loops are going on. -/
  loops : Nat := 0
  /-- The part of the shell that is at work. -/
  within : Option String := none

/-- **What takes a process out of its course.** -/
inductive Departure where
  | leave (status : Nat)
  | killed (signal : Nat)
  | leaveLoop (levels : Nat)
  | nextRound (levels : Nat)
  | giveBack (status : Nat)
  /-- It does not end within the bound on its steps. -/
  | endless
  deriving DecidableEq, Repr

/-- **An action of a process.** -/
abbrev Action := EStateM Departure Process

namespace Process

/-- The process number of what started the run. -/
def starter : Nat := 4000

/-- The process number of the tool. -/
def leader : Nat := 4001

/-! ### Files and variables -/

/-- The files as the process names them. -/
def files (process : Process) : FileTree :=
  { process.scene.tree with workingDirectory := process.directory }

/-- The value of a variable. -/
def valueOf? (process : Process) (name : String) : Option String :=
  (process.own.get? name).or (process.environment.get? name)

/-- A variable set, where it is. -/
def assign (name value : String) (process : Process) : Process :=
  if (process.environment.get? name).isSome || process.shared.contains name then
    { process with environment := process.environment.set name value }
  else
    { process with own := process.own.set name value }

/-- A variable handed on to further processes, as soon as it has a value. -/
def share (name : String) (value? : Option String) (process : Process) : Process :=
  match value? with
  | some value =>
    { process with
      environment := process.environment.set name value
      own := process.own.unset name }
  | none => { process with shared := name :: process.shared }

/-- Whether an option is set. -/
def isSet (option : Char) (process : Process) : Bool := process.options.contains option

/-- A variable taken away. -/
def discard (name : String) (process : Process) : Process :=
  { process with
    environment := process.environment.unset name
    own := process.own.unset name }

/-- Where a stream leads. -/
def sink (process : Process) (stream : Nat) : Sink := (process.sinks.lookup stream).getD .nowhere

/-- A stream led elsewhere. -/
def lead (stream : Nat) (sink : Sink) (process : Process) : Process :=
  { process with sinks := (stream, sink) :: process.sinks.filter fun s => s.1 != stream }

/-- Whether the process may write to the outside. -/
def holdsOutput (process : Process) : Bool :=
  process.sinks.any fun s => s.2 = .output || s.2 = .errors

/-- The files changed. -/
def change (tree : FileTree) (process : Process) : Process :=
  let tree := { tree with workingDirectory := process.scene.tree.workingDirectory }
  { process with
    scene :=
      { process.scene with
        tree
        changes := ⟨process.scene.now, process.group, tree⟩ :: process.scene.changes } }

end Process

namespace Action

/-! ### Writing -/

/-- **Bytes written to a stream.** -/
def write (stream : Nat) (content : Bytes) : Action Unit := modify fun process =>
  match process.sink stream with
  | .nowhere => process
  | .file path =>
    match process.files.append path content with
    | .ok tree => process.change tree
    | .error _ => process
  | sink =>
    let writing : Writing := ⟨process.scene.now, process.job, process.group, sink, content⟩
    { process with scene := { process.scene with writings := writing :: process.scene.writings } }

/-- A text on the standard output. -/
def print (text : String) : Action Unit := write 1 (Utf8.encode text)

/-- A text on the standard error. -/
def printError (text : String) : Action Unit := write 2 (Utf8.encode text)

/-- A complaint of the shell about a line of its script. -/
def complain (text : String) : Action Unit := do
  let process ← get
  let part := process.within.elim "" (· ++ ": ")
  printError (process.name ++ ": " ++ Text.ofNat process.line ++ ": " ++ part ++ text ++ "\n")

/-- A complaint that ends the process. -/
def giveUp {α : Type} (text : String) : Action α := do
  complain text
  throw (.leave 2)

/-- A variable set, unless it may not be. -/
def assign (name value : String) : Action Unit := do
  if (← get).readOnly.contains name then giveUp (name ++ ": is read only")
  else modify (Process.assign name value)

/-- What has been written to a pipe. -/
def readPipe (number : Nat) : Action Bytes := do
  let found := (← get).scene.writings.filter fun w => w.sink = .pipe number
  return (found.reverse.map Writing.content).flatten

/-- A new pipe. -/
def newPipe : Action Nat :=
  modifyGet fun process =>
    let number := process.scene.pipes + 1
    (number, { process with scene := { process.scene with pipes := number } })

/-! ### Time and signals -/

/-- The clock moved on. -/
def pause (duration : Time) : Action Unit :=
  modify fun process =>
    { process with scene := { process.scene with now := process.scene.now + duration } }

/-- The signals that are ignored unless a process reacts to them. -/
def harmless : List Nat := [17, 18, 23, 28]

/-- The end of the process by a signal at a time. What it has been waiting for since then
goes on without it. -/
def dieOf (time : Time) (signal : Nat) : Action Unit := do
  let process ← get
  let scene := process.scene
  if time < scene.now then
    let orphan : Job := ⟨0, process.group, some scene.now, .exited 0, process.holdsOutput⟩
    set { process with scene := { scene with now := time, jobs := orphan :: scene.jobs } }
  throw (.killed signal)

/-- A signal received, to which a process may react by a script. -/
def receive (react : String → Action Unit) (time : Time) (signal : Nat) : Action Unit := do
  let process ← get
  match process.reactions.lookup signal, decide (signal = 9) with
  | some .ignored, false => return ()
  | some (.script text), false => react text
  | _, _ => unless harmless.contains signal do dieOf time signal

/-- The signals that have been sent to the process and not yet been received. -/
def takeSignals : Action (List Sent) :=
  modifyGet fun process =>
    let scene := process.scene
    let (mine, others) := scene.signals.partition fun s =>
      s.process = process.number && s.time ≤ scene.now
    (mine.reverse, { process with scene := { scene with signals := others } })

/-- A job that is cut short by a signal. -/
def cutJob (number signal : Nat) : Action Unit := modify fun process =>
  let scene := process.scene
  let now := scene.now
  { process with
    scene :=
      { scene with
        jobs := scene.jobs.map fun job =>
          if job.number = number && job.ended.all (now < ·) then
            { job with ended := some now, ending := .killed signal }
          else job
        writings := scene.writings.filter fun w => w.job != number || w.time ≤ now } }

/-- **A signal sent** to a process, which may be the one that sends it. Zero asks only
whether it is there. -/
def send (react : String → Action Unit) (target signal : Nat) : Action Unit := do
  let process ← get
  if signal = 0 then return ()
  if target = process.number then
    receive react process.scene.now signal
  else if process.scene.jobs.any (·.number = target) then
    unless harmless.contains signal do cutJob target signal
  else
    set { process with
      scene :=
        { process.scene with
          signals :=
            ⟨process.scene.now, process.group, target, signal⟩ :: process.scene.signals } }

/-! ### Further processes -/

/-- How an action ended for the process that performed it. -/
def endingOf : EStateM.Result Departure Process Nat → Option Ending × Scene
  | .ok status process => (some (.exited (status % 256)), process.scene)
  | .error (.leave status) process => (some (.exited (status % 256)), process.scene)
  | .error (.giveBack status) process => (some (.exited (status % 256)), process.scene)
  | .error (.killed signal) process => (some (.killed signal), process.scene)
  | .error .endless process => (none, process.scene)
  | .error _ process => (some (.exited process.status), process.scene)

/-- The process that another one starts. -/
def child (process : Process) (number : Nat) : Process :=
  { process with
    scene := { process.scene with latest := number }
    number
    parent := process.number
    reactions := process.reactions.filter fun r => r.2 = .ignored }

/-- An action performed by a process of its own, and followed as far as it goes. -/
def follow (action : Action Nat) : Action (Option Ending) := do
  let process ← get
  let (ending?, scene) := endingOf (action.run (child process (process.scene.latest + 1)))
  set { process with scene }
  return ending?

/-- **An action performed by a process of its own**, and waited for. -/
def fork (action : Action Nat) : Action Ending := do
  match ← follow action with
  | some ending => return ending
  | none => throw .endless

/-- **An action performed by a process in the background.** -/
def forkAside (action : Action Nat) : Action Unit := do
  let process ← get
  let number := process.scene.latest + 1
  let aside := { child process number with job := number, input := [] }
  let (ending?, scene) := endingOf (action.run aside)
  let job : Job :=
    ⟨number, aside.group, ending?.map fun _ => scene.now, ending?.getD (.killed 9),
      aside.holdsOutput⟩
  set { process with
    scene := { scene with now := process.scene.now, jobs := job :: scene.jobs }
    background := some number }

/-- The process at the beginning of a group of its own. -/
def branchOff (process : Process) : Process :=
  let branching : Branching := ⟨process.number, process.group, process.scene.now⟩
  { process with
    group := process.number
    scene := { process.scene with branchings := branching :: process.scene.branchings } }

/-- **An action in a group of its own**, which the process begins. It is noted as a job. -/
def inOwnGroup (action : Action Nat) : Action Nat := do
  let own := branchOff (← get)
  let (ending?, scene) := endingOf (action.run own)
  let job : Job :=
    ⟨own.number, own.group, ending?.map fun _ => scene.now, ending?.getD (.killed 9),
      own.holdsOutput⟩
  set { own with scene := { scene with jobs := job :: scene.jobs } }
  match ending? with
  | some (.exited status) => return status
  | some (.killed signal) => throw (.killed signal)
  | none => throw .endless

/-- Waiting for a process in the background. -/
def waitFor (job : Job) : Action Ending := do
  match job.ended with
  | none => throw .endless
  | some ended =>
    modify fun process =>
      { process with scene := { process.scene with now := max process.scene.now ended } }
    return job.ending

end Action

end VerifierTrials.Shell
