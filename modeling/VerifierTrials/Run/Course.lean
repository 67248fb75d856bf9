import VerifierTrials.Shell.Evaluation

/-!
# The course of a run

What a tool does when nothing stops it: when and how it ends, what it writes and when,
until when anything that it has started may still write, and which signals it sends to
whoever started it. The tool is followed as a process of the shell.

Killing the tool kills its group with it. What has left the group goes on, so that the course
also tells until when such processes may write, and of everything that happens from which
group it comes.
-/

namespace VerifierTrials

open VerifierTrials.Shell

/-- **What a tool does when nothing stops it.** -/
structure Course where
  /-- When and how it ends, if it does. -/
  ended : Option (Time × Ending)
  /-- When nothing is left that may write, if there is such a time. -/
  released : Option Time
  /-- What may write and does not belong to the group of the tool. -/
  outsiders : List Job := []
  /-- The groups that are begun beside that of the tool, last first. -/
  branchings : List Branching := []
  /-- What is written to the outside, in the order of time. -/
  writings : List Writing
  /-- The signals to whoever started it, in the order of time. -/
  signals : List Sent
  /-- The changes of the files, in the order of time. -/
  changes : List Change
  /-- The time that it spends on the CPU. -/
  cpuTime : Time := 0

namespace Course

/-- The bound on the steps of a tool. -/
def stepBound : Nat := 100000

/-- Microseconds in a second. -/
def second : Time := 1000000

/-- A tool about to be followed. -/
def leader (tree : FileTree) (env : Environment) (limits : Limits) : Process :=
  { scene := { tree, latest := Process.leader }
    number := Process.leader
    parent := Process.starter
    shell := Process.leader
    shellParent := Process.starter
    job := Process.leader
    group := Process.leader
    directory := tree.workingDirectory
    environment := env
    limits }

/-- How a tool ends that would never end by itself: its CPU time runs out, if that is
limited. -/
def exhaustion? (limits : Limits) : Option (Time × Ending) :=
  limits.cpuTime.map fun limit =>
    if limit.soft < limit.hard then (limit.soft * second, .killed 24)
    else (limit.hard * second, .killed 9)

/-- The latest of some times, unless one of them never comes. -/
def latest (first : Option Time) (times : List (Option Time)) : Option Time :=
  times.foldl (fun a b => a.bind fun s => b.map fun t => max s t) first

/-- The course of a process that has been followed to its end, or as far as it goes. -/
def ofScene (limits : Limits) (ending? : Option Ending) (scene : Scene) : Course :=
  let ended := match ending? with
    | some ending => some (scene.now, ending)
    | none => exhaustion? limits
  let holders := scene.jobs.filter Job.holdsOutput
  { ended
    released := latest (ended.map Prod.fst) (holders.map Job.ended)
    outsiders := holders.filter fun job => job.group != Process.leader
    branchings := scene.branchings
    writings :=
      (scene.writings.reverse.filter fun w => w.sink = .output || w.sink = .errors).mergeSort
        fun a b => decide (a.time ≤ b.time)
    signals := (scene.signals.reverse.filter fun s => s.process = Process.starter).mergeSort
      fun a b => decide (a.time ≤ b.time)
    changes := scene.changes.reverse.mergeSort fun a b => decide (a.time ≤ b.time)
    cpuTime := match ending? with
      | some _ => 0
      | none => (ended.map Prod.fst).getD 0 }

/-- **The course of a program** from its start. -/
def ofStart (tree : FileTree) (env : Environment) (limits : Limits) (start : Start) : Course :=
  let result := (Evaluation.become stepBound start).run (leader tree env limits)
  let (ending?, scene) := Action.endingOf result
  ofScene limits ending? scene

/-- **Whether what a group does at a time comes about**, if the tool is killed at another one:
always, once the group has been begun, unless it is the group of the tool. -/
def comesAbout (killed : Option Time) : List Branching → Nat → Time → Bool
  | [], _, time => killed.all (time < ·)
  | branching :: earlier, group, time =>
    if branching.group = group then comesAbout killed earlier branching.origin branching.time
    else comesAbout killed earlier group time

/-- What is written to any of some sinks, if the tool is killed at a time. -/
def written (course : Course) (sinks : List Sink) (killed : Option Time) : Bytes :=
  ((course.writings.filter fun w =>
      sinks.contains w.sink && comesAbout killed course.branchings w.group w.time).map
    Writing.content).flatten

/-- The files that are left, if the tool is killed at a time. -/
def filesAt (course : Course) (tree : FileTree) (killed : Option Time) : FileTree :=
  (((course.changes.filter fun c => comesAbout killed course.branchings c.group c.time).getLast?).map
    Change.tree).getD tree

/-- When nothing is left that may write, if the tool is killed at a time. -/
def lingering (course : Course) (killed : Time) : Option Time :=
  latest (some killed) ((course.outsiders.filter fun job =>
    comesAbout (some killed) course.branchings job.group killed).map Job.ended)

/-- The times at which the operator is asked to interrupt, if the tool is killed at a time. -/
def interrupts (course : Course) (killed : Option Time) : List Time :=
  (course.signals.filter fun s =>
    s.signal = 2 && comesAbout killed course.branchings s.group s.time).map Sent.time

end Course

end VerifierTrials
