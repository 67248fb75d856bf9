import VerifierTrials.Shell.Utility.Files
import VerifierTrials.Shell.Utility.Streams

/-!
# Utilities by name

Utilities that wait or test a condition, and the tables of all of them: those that the shell
has itself, and those that are programs.
-/

namespace VerifierTrials.Shell.Utility

open VerifierTrials.Text

/-! ### Waiting -/

/-- How many microseconds a unit of time has. -/
def unitOf? : List Char → Option Nat
  | [] | ['s'] => some 1000000
  | ['m'] => some 60000000
  | ['h'] => some 3600000000
  | ['d'] => some 86400000000
  | _ => none

/-- A duration in microseconds. -/
def duration? (word : String) : Option Time := do
  let isPart := fun c : Char => c.isDigit || c = '.'
  let number := word.toList.takeWhile isPart
  let unit ← unitOf? (word.toList.dropWhile isPart)
  let (whole, places) := (split? ['.'] number).getD (number, [])
  if whole.isEmpty && places.isEmpty then none
  let whole ← if whole.isEmpty then some 0 else digitsValue? whole
  let fraction ← if places.isEmpty then some 0 else digitsValue? places
  return whole * unit + fraction * unit / Nat.pow 10 places.length

/-- A pause. -/
def sleep : Utility := fun words => do
  match words.mapM duration? with
  | some (d :: durations) =>
    Action.pause (durations.foldl (· + ·) d)
    return 0
  | some [] => missingOperand "sleep"
  | none =>
    for word in words do
      if (duration? word).isNone then
        complain "sleep" ("invalid time interval '" ++ word ++ "'")
    Action.printError "Try 'sleep --help' for more information.\n"
    return 1

/-! ### Conditions -/

/-- Nothing, with success. -/
def succeed : Utility := fun _ => return 0

/-- Nothing, with a failure. -/
def fail : Utility := fun _ => return 1

/-- A condition. -/
def test : Utility := fun words => do
  match Condition.answer (← get).files words with
  | .ok holds => return if holds then 0 else 1
  | .error reason =>
    Action.complain reason
    return 2

/-- A condition in brackets. -/
def bracket : Utility := fun words => do
  if words.getLast? != some "]" then
    Action.complain "missing ]"
    return 2
  test words.dropLast

/-- The working directory. -/
def pwd : Utility := fun _ => do
  Action.print ("/" ++ Text.join "/" (← get).directory ++ "\n")
  return 0

/-! ### By name -/

/-- The utilities that the shell has itself. -/
def inShell? : String → Option Utility
  | "echo" => some echo
  | "printf" => some printf
  | "true" | ":" => some succeed
  | "false" => some fail
  | "test" => some test
  | "[" => some bracket
  | "pwd" => some pwd
  | _ => none

/-- **The utilities that are programs**, by their names. -/
def programs : List (String × Utility) :=
  [("[", bracket), ("basename", basename), ("cat", cat), ("cp", cp), ("cut", cut),
    ("dirname", dirname), ("echo", plainEcho), ("false", fail), ("grep", grep), ("head", head),
    ("ls", ls), ("mkdir", mkdir), ("mv", mv), ("printf", printf), ("pwd", pwd), ("rm", rm),
    ("rmdir", rmdir), ("seq", seq), ("sleep", sleep), ("sort", sort), ("tail", tail),
    ("tee", tee), ("test", test), ("touch", touch), ("tr", tr), ("true", succeed), ("wc", wc),
    ("yes", yes)]

/-- The utility that is a program of a name. -/
def program? (name : String) : Option Utility := programs.lookup name

/-- The names of the utilities that are programs. -/
def programNames : List String := programs.map Prod.fst

end VerifierTrials.Shell.Utility
