import VerifierTrials.Shell.Process

/-!
# Signals

Signals have numbers and most of them names, by which scripts send them and react to them.
When a signal has ended a process that the shell waits for, the shell says so.
-/

namespace VerifierTrials.Shell.Signal

open VerifierTrials.Text

/-- The signals that have names. -/
def names : List (String × Nat) :=
  [("HUP", 1), ("INT", 2), ("QUIT", 3), ("ILL", 4), ("TRAP", 5), ("ABRT", 6), ("BUS", 7),
    ("FPE", 8), ("KILL", 9), ("USR1", 10), ("SEGV", 11), ("USR2", 12), ("PIPE", 13),
    ("ALRM", 14), ("TERM", 15), ("CHLD", 17), ("CONT", 18), ("STOP", 19), ("TSTP", 20),
    ("TTIN", 21), ("TTOU", 22), ("URG", 23), ("XCPU", 24), ("XFSZ", 25), ("VTALRM", 26),
    ("PROF", 27), ("WINCH", 28), ("IO", 29), ("PWR", 30), ("SYS", 31)]

/-- There are fewer signals than this. -/
def bound : Nat := 65

/-- The signal of a name, in any case of letters, or of a number. -/
def ofText? (text : String) : Option Nat :=
  match digitsValue? text.toList with
  | some n => if n < bound then some n else none
  | none => names.lookup (String.ofList (text.toList.map Char.toUpper))

/-- The signal to which a script reacts: its exit counts as one. -/
def ofReaction? (text : String) : Option Nat :=
  if text.toList.map Char.toUpper = "EXIT".toList then some 0 else ofText? text

/-- What a signal is called. -/
def name (signal : Nat) : String :=
  match names.find? fun s => s.2 = signal with
  | some (name, _) => name
  | none => if signal = 0 then "EXIT" else ofNat signal

/-- What the shell says of a process that a signal has ended. -/
def obituary? : Nat → Option String
  | 1 => some "Hangup"
  | 2 | 13 => none
  | 3 => some "Quit"
  | 4 => some "Illegal instruction"
  | 5 => some "Trace/breakpoint trap"
  | 6 => some "Aborted"
  | 7 => some "Bus error"
  | 8 => some "Floating point exception"
  | 9 => some "Killed"
  | 10 => some "User defined signal 1"
  | 11 => some "Segmentation fault"
  | 12 => some "User defined signal 2"
  | 14 => some "Alarm clock"
  | 15 => some "Terminated"
  | 16 => some "Stack fault"
  | 24 => some "CPU time limit exceeded"
  | 25 => some "File size limit exceeded"
  | 26 => some "Virtual timer expired"
  | 27 => some "Profiling timer expired"
  | 29 => some "I/O possible"
  | 30 => some "Power failure"
  | 31 => some "Bad system call"
  | n => if 34 ≤ n then some ("Real-time signal " ++ ofNat (n - 34)) else none

/-- The ending of a process that the shell has waited for, as a status. -/
def statusOf (ending : Ending) : Action Nat := do
  match ending with
  | .exited status => return status
  | .killed signal =>
    match obituary? signal with
    | some text => Action.printError (text ++ "\n")
    | none => pure ()
    return 128 + signal

end VerifierTrials.Shell.Signal
