import VerifierTrials.Error
import VerifierTrials.Run.Clock
import VerifierTrials.Run.Limits

/-!
# Supervision of a run

Whoever starts a tool waits for two things: that the tool has ended, and that nothing is
left that may write to its output. Meanwhile the **watchdog** may expire, which is armed
when the CPU time is limited, and the operator may interrupt. Either of them kills the
tool with everything that it has started; after an interrupt the run counts for nothing.

The four things that can occur come in any order. Supervision is a step function on them
(`step?`), which also says what cannot occur any more. After the watchdog has expired the run
goes on until it is over, and the operator may still interrupt it.
-/

namespace VerifierTrials

/-- How the tool has ended. -/
structure Exit where
  code : Int
  cpuTime : Span
  wallTime : Span
  deriving DecidableEq, Repr

/-- **What occurs during a run.** -/
inductive Occurrence where
  /-- The tool has ended, with this exit code and these times. -/
  | reaped (exit : Exit)
  /-- Nothing is left that may write, and this has been written. -/
  | drained (output : Bytes)
  /-- The watchdog expires. -/
  | expired
  /-- The operator interrupts. -/
  | interrupted
  deriving DecidableEq, Repr

/-- **The state of a supervised run.** -/
structure Supervision where
  exit? : Option Exit := none
  output? : Option Bytes := none
  /-- Whether the watchdog may still expire. -/
  armed : Bool
  /-- Whether the operator has interrupted. -/
  stopping : Bool := false
  /-- How often the tool has been killed. -/
  kills : Nat := 0
  deriving DecidableEq, Repr

namespace Supervision

/-- The state at the start of a run: the watchdog is armed if the CPU time is limited. -/
def start (limits : Limits) : Supervision := { armed := limits.cpuSeconds.isSome }

/-- Whether the tool has ended and nothing is left that may write. -/
def isOver (state : Supervision) : Bool := state.exit?.isSome && state.output?.isSome

/-- **One step.** The tool ends once, its output ends once, and neither the watchdog nor
the operator is heeded after an interrupt or at the end. -/
def step? (state : Supervision) : Occurrence → Option Supervision
  | .reaped exit =>
    if state.exit?.isNone then some { state with exit? := some exit } else none
  | .drained output =>
    if state.output?.isNone then some { state with output? := some output } else none
  | .expired =>
    if state.armed && !state.stopping && !state.isOver then
      some { state with armed := false, kills := state.kills + 1 }
    else none
  | .interrupted =>
    if !state.stopping && !state.isOver then
      some { state with armed := false, stopping := true, kills := state.kills + 1 }
    else none

/-- The state after occurrences; one that cannot occur is passed over. -/
def after (state : Supervision) (occurrences : List Occurrence) : Supervision :=
  occurrences.foldl (fun state occurrence => (state.step? occurrence).getD state) state

/-- What a run that has not been interrupted comes to: there is an exit code for it if the
tool has ended. -/
def answer (state : Supervision) : Except BenchmarkError Outcome :=
  match state.exit? with
  | some exit =>
    .ok ⟨exit.code, Utf8.decodeLossy (state.output?.getD []), exit.cpuTime, exit.wallTime⟩
  | none => .error .neverReaped

/-- **What comes of a run**, once it is over. -/
def result? (state : Supervision) : Option (Except BenchmarkError Outcome) :=
  if state.isOver then some (if state.stopping then .error .interrupted else state.answer)
  else none

/-- **When the watchdog expires**, for a tool that has been started by now: if the CPU time is
limited, when the limit and the seconds of grace have gone by. A deadline that the clock cannot
show ends everything. -/
def deadline? (now : Instant) (limits : Limits) (grace : Nat) :
    Except BenchmarkError (Option Instant) :=
  match limits.cpuSeconds with
  | none => .ok none
  | some seconds =>
    match (now.after? ⟨seconds, 0⟩).bind fun exhausted => exhausted.after? ⟨grace, 0⟩ with
    | some deadline => .ok (some deadline)
    | none => .error .deadlineOutOfRange

end Supervision

end VerifierTrials
