import VerifierTrials.Run.Course
import VerifierTrials.Run.Supervision

/-!
# The order of what occurs

The course of a tool, the deadline of the watchdog and the interrupt of the operator
settle what occurs during a run, and in which order. The first of the deadline and the
interrupt that comes before the end of the run kills the group of the tool, so that the tool
has ended at that time. Only what has left the group may still write, and as long as it does,
an interrupt may follow the deadline.
-/

namespace VerifierTrials

open VerifierTrials.Shell

namespace Course

/-- A time as a span. -/
def span (time : Time) : Span := ⟨time / second, time % second * 1000⟩

/-- The exit code of an ending. -/
def exitCode : Ending → Int
  | .exited status => status
  | .killed signal => -(signal : Int)

/-- The earlier one of two times, either of which may never come. -/
def earlier : Option Time → Option Time → Option Time
  | some a, some b => some (min a b)
  | some a, none => some a
  | none, b => b

/-- When the run is over by itself, if it ever is. -/
def finish (course : Course) : Option Time :=
  match course.ended, course.released with
  | some (ended, _), some released => some (max ended released)
  | _, _ => none

/-- When the tool is killed, if it is: at the first of the deadline and the interrupt,
unless the run is over by then. -/
def killed (course : Course) (deadline interrupt : Option Time) : Option Time :=
  (earlier deadline interrupt).filter fun time => course.finish.all (time ≤ ·)

/-- The end of the tool in a run. -/
def reaping (course : Course) (killed : Option Time) : List Occurrence :=
  match course.ended, killed with
  | some (ended, ending), some time =>
    if ended < time then [.reaped ⟨exitCode ending, span course.cpuTime, span ended⟩]
    else [.reaped ⟨-9, {}, span time⟩]
  | some (ended, ending), none =>
    [.reaped ⟨exitCode ending, span course.cpuTime, span ended⟩]
  | none, some time => [.reaped ⟨-9, {}, span time⟩]
  | none, none => []

/-- The end of the output in a run. -/
def draining (course : Course) (killed : Option Time) : List Occurrence :=
  let comes := match killed with
    | some time => (course.lingering time).isSome
    | none => course.released.isSome
  if comes then [.drained (course.written [.output, .errors] killed)] else []

/-- An interrupt that comes when the watchdog has expired at a time, while something outside
the group of the tool still may write. -/
def lateInterrupt (course : Course) (expired : Time) : List Occurrence :=
  if (course.interrupts (some expired)).any fun time =>
      expired < time && (course.lingering expired).all (time < ·) then [.interrupted]
  else []

/-- **What occurs in a run**, in the order of time. -/
def occurrences (course : Course) (deadline interrupt : Option Time) : List Occurrence :=
  let killed := course.killed deadline interrupt
  let reaping := course.reaping killed
  let draining := course.draining killed
  match killed with
  | none => reaping ++ draining
  | some time =>
    let endsBefore := (course.ended.map fun e => decide (e.1 < time)).getD false
    let kill : List Occurrence := if interrupt = some time then [.interrupted] else [.expired]
    let late := if interrupt = some time then [] else course.lateInterrupt time
    (if endsBefore then reaping ++ kill else kill ++ reaping) ++ late ++ draining

/-- What is left of the run: the files once it is over. -/
def filesLeft (course : Course) (tree : FileTree) (deadline interrupt : Option Time) : FileTree :=
  course.filesAt tree (course.killed deadline interrupt)

/-- When the operator interrupts: at once, if that is asked for already, or when the tool
makes it so. -/
def interruptOf (course : Course) (already : Bool) : Option Time :=
  if already then some 0 else (course.interrupts none).head?

end Course

end VerifierTrials
