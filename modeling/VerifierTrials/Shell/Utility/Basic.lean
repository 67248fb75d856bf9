import VerifierTrials.Shell.Process

/-!
# Utilities

The small programs that scripts are made of: they print, read, count, wait, and look
after files. Each takes the words of its command line and ends with a status. Those that
start or signal other processes are not among them.
-/

namespace VerifierTrials.Shell

open VerifierTrials.Text

/-- **A utility**: what it does with its words, and the status it ends with. -/
abbrev Utility := List String → Action Nat

namespace Utility

/-- A failure of the files as utilities word it. -/
def reason (cause : FileError) : String :=
  ((Text.cut? " (os error" cause.message).map Prod.fst).getD cause.message

/-- A complaint of a utility. -/
def complain (program text : String) : Action Unit :=
  Action.printError (program ++ ": " ++ text ++ "\n")

/-- A complaint about how a utility is called. -/
def complainOfUse (program text : String) : Action Unit := do
  complain program text
  Action.printError ("Try '" ++ program ++ " --help' for more information.\n")

/-- A complaint about a file. -/
def complainOf (program path : String) (cause : FileError) : Action Unit :=
  complain program (path ++ ": " ++ reason cause)

/-! ### Options -/

/-- Whether a word gives options: a dash alone does not. -/
def isOption (word : String) : Bool := startsWith "-" word && word != "-"

/-- The letters of the options among words, and the other words, in order. -/
def splitOptions (words : List String) : List Char × List String :=
  let options := words.takeWhile (· != "--")
  ((options.filter isOption).flatMap fun w => w.toList.filter (· != '-'),
    options.filter (fun w => !isOption w) ++ (words.drop (options.length + 1)))

/-- The value of an option with a letter, which may stand in a word of its own, and the words
without them. -/
def optionValue (letter : Char) : List String → Option String × List String
  | [] => (none, [])
  | word :: rest =>
    match word.toList with
    | '-' :: c :: value =>
      if c = letter then
        match value, rest with
        | [], next :: rest => (some next, rest)
        | _, _ => (some (String.ofList value), rest)
      else
        let (found, left) := optionValue letter rest
        (found, word :: left)
    | _ =>
      let (found, left) := optionValue letter rest
      (found, word :: left)

/-! ### Contents -/

/-- A file without content, and one of zeros that has no end. -/
def emptyDevice : String := "/dev/null"

@[inherit_doc emptyDevice]
def zeroDevice : String := "/dev/zero"

/-- The bytes that a name on a command line stands for: those of a file, or the input. Of a
file without an end as many are read as are wanted. -/
def content (wanted : Option Nat) (path : String) : Action (Except FileError Bytes) := do
  let process ← get
  if path = "-" then
    set { process with input := [] }
    return .ok process.input
  else if path = emptyDevice then return .ok []
  else if path = zeroDevice then
    match wanted with
    | some n => return .ok (List.replicate n 0)
    | none => throw .endless
  else return process.files.read path

/-- The named files, or the input if none is named, one after the other. -/
def eachContent (wanted : Option Nat) (paths : List String)
    (complaint : String → FileError → Action Unit) (use : String → Bytes → Action Unit) :
    Action Bool := do
  let mut fine := true
  for path in (if paths.isEmpty then ["-"] else paths) do
    match ← content wanted path with
    | .ok bytes => use path bytes
    | .error cause =>
      complaint path cause
      fine := false
  return fine

/-- The lines of bytes, each with its line feed. -/
def byteLines : Bytes → List Bytes
  | [] => []
  | b :: bs =>
    match byteLines bs with
    | [] => [[b]]
    | line :: lines => if b = 10 then [b] :: line :: lines else (b :: line) :: lines

/-- A line without its line feed. -/
def bareLine (line : Bytes) : Bytes := if line.getLast? = some 10 then line.dropLast else line

end Utility

end VerifierTrials.Shell
