import VerifierTrials.Text.Basic

/-!
# Commands of the shell

Tools under trial may be shell scripts. A script is a **command** in the sense of the
POSIX shell, built up from simple commands by pipes, lists, conditions, loops and
redirections. Its words are kept as they are written, quotes included, because what they
stand for depends on the moment at which they are used.
-/

namespace VerifierTrials.Shell

/-- A word as it is written. -/
abbrev Word := List Char

/-- Where a redirection leads a stream. -/
inductive Direction where
  /-- From a file. -/
  | read
  /-- Into a file, instead of what it held. -/
  | write
  /-- To the end of a file. -/
  | append
  /-- To where another stream leads. -/
  | copy
  /-- From the text given in the script itself; a quoted one is taken as it is. -/
  | document (quoted : Bool)
  deriving DecidableEq, Repr

/-- A stream led elsewhere. -/
structure Redirection where
  stream : Nat
  direction : Direction
  target : Word
  deriving DecidableEq, Repr

/-- **A command of the shell.** -/
inductive Command where
  | nothing
  /-- Assignments and the words of a command, on a line of the script. -/
  | simple (line : Nat) (assignments : List (String × Word)) (words : List Word)
      (redirections : List Redirection)
  /-- The output of the first is the input of the second. -/
  | pipe (first second : Command)
  /-- The opposite status. -/
  | negation (body : Command)
  | sequence (first second : Command)
  /-- The second if the first succeeds. -/
  | both (first second : Command)
  /-- The second if the first fails. -/
  | either (first second : Command)
  /-- Not waited for. -/
  | background (body : Command)
  | conditional (test yes no : Command)
  /-- As long as the test succeeds, or until it does. -/
  | loop (untilTrue : Bool) (test body : Command)
  /-- Once for each word, or for each argument of the script. -/
  | each (name : String) (values : Option (List Word)) (body : Command)
  /-- The first branch with a pattern that the subject matches. -/
  | choice (subject : Word) (branches : List (List Word × Command))
  | subshell (body : Command)
  | redirected (body : Command) (redirections : List Redirection)
  | define (name : String) (body : Command)
  deriving Inhabited

end VerifierTrials.Shell
