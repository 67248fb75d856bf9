import VerifierTrials.Shell.Grammar
import VerifierTrials.Shell.Parameter
import VerifierTrials.Shell.Signal
import VerifierTrials.Shell.Utility
import VerifierTrials.Verifier.Executable

/-!
# The parts of the shell

What the shell does itself, without starting anything: it leaves, sets variables and options,
moves to another directory, reads a line, and prepares for signals. The parts that perform
further commands belong to the evaluation of commands.
-/

namespace VerifierTrials.Shell.Builtin

open VerifierTrials.Text

/-! ### Leaving -/

/-- The number that the first word asks for, or a default. -/
def numberOr (default : Nat) : List String → Action Nat
  | [] => return default
  | word :: _ =>
    match digitsValue? word.toList with
    | some n => return n
    | none => Action.giveUp ("Illegal number: " ++ word)

/-- The levels of loops that the first word asks for: none outside of loops. -/
def levels (words : List String) : Action Nat := do
  let n ← numberOr 1 words
  if n = 0 then Action.giveUp ("Illegal number: " ++ words.headD "")
  return min n (← get).loops

/-- Leaving the shell. -/
def exit : Utility := fun words => do
  throw (.leave (← numberOr (← get).status words))

/-- Leaving a function or a script that is read in. -/
def giveBack : Utility := fun words => do
  throw (.giveBack (← numberOr (← get).status words))

/-- Leaving loops. -/
def leaveLoops : Utility := fun words => do
  let n ← levels words
  if n = 0 then return 0 else throw (.leaveLoop n)

/-- Going on with the next round of a loop. -/
def nextRound : Utility := fun words => do
  let n ← levels words
  if n = 0 then return 0 else throw (.nextRound n)

/-- The first arguments taken away. -/
def shift : Utility := fun words => do
  let n ← numberOr 1 words
  let process ← get
  if process.arguments.length < n then Action.giveUp "can't shift that many"
  else
    set { process with arguments := process.arguments.drop n }
    return 0

/-! ### Variables and options -/

/-- A name and the value that a word assigns to it. -/
def bindingOf (word : String) : String × Option String :=
  match cut? "=" word with
  | some (name, value) => (name, some value)
  | none => (word, none)

/-- A name that a word has to be. -/
def checkName (name : String) : Action Unit := do
  unless isName name.toList do Action.giveUp (name ++ ": bad variable name")

/-- A text in single quotes, as the shell shows values. -/
def shown (text : String) : String := "'" ++ Text.replace "'" "'\"'\"'" text ++ "'"

/-- Variables handed on to further processes, or shown. -/
def exportNames : Utility := fun words => do
  let names := words.filter (· != "-p")
  if names.isEmpty then
    let sorted := (← get).environment.bindings.mergeSort fun a b => decide (a.1 ≤ b.1)
    for (name, value) in sorted do
      Action.print ("export " ++ name ++ "=" ++ shown value ++ "\n")
  for word in names do
    let (name, value?) := bindingOf word
    checkName name
    match value? with
    | some value => Action.assign name value
    | none => pure ()
    modify (Process.share name ((← get).valueOf? name))
  return 0

/-- Variables that may not be set any more. -/
def readonly : Utility := fun words => do
  for word in words.filter (· != "-p") do
    let (name, value?) := bindingOf word
    checkName name
    match value? with
    | some value => Action.assign name value
    | none => pure ()
    modify fun process => { process with readOnly := name :: process.readOnly }
  return 0

/-- Variables of a function alone: they begin with the value outside of it. -/
def localNames : Utility := fun words => do
  for word in words do
    let process ← get
    match process.locals with
    | none => Action.giveUp "not in a function"
    | some saved =>
      let (name, value?) := bindingOf word
      checkName name
      set { process with locals := some ((name, process.valueOf? name) :: saved) }
      match value? with
      | some value => Action.assign name value
      | none => pure ()
  return 0

/-- Variables or functions taken away. -/
def unset : Utility := fun words => do
  let functions := words.contains "-f"
  for name in words.filter fun w => !startsWith "-" w do
    if functions then
      modify fun process =>
        { process with functions := process.functions.filter fun f => f.1 != name }
    else
      checkName name
      if (← get).readOnly.contains name then Action.giveUp (name ++ ": is read only")
      else modify (Process.discard name)
  return 0

/-- The options that have a name. -/
def optionNames : List (String × Char) :=
  [("errexit", 'e'), ("noglob", 'f'), ("noexec", 'n'), ("xtrace", 'x'), ("verbose", 'v'),
    ("noclobber", 'C'), ("allexport", 'a'), ("notify", 'b'), ("nounset", 'u')]

/-- An option set or not. -/
def turn (on : Bool) (option : Char) : Action Unit := do
  if optionNames.any fun o => o.2 = option then
    modify fun process =>
      let others := process.options.filter (· != option)
      { process with options := if on then option :: others else others }
  else Action.giveUp ("Illegal option -" ++ String.singleton option)

/-- The settings that letters stand for, each with the name that comes with an `o`. -/
def settingsOf : List Char → List String → List (Char × Option String)
  | [], _ => []
  | c :: letters, names =>
    if c = 'o' then (c, names.head?) :: settingsOf letters names.tail
    else (c, none) :: settingsOf letters names

/-- The settings of options at the start of words, and the arguments after them. -/
def optionsOf : List String → List (Bool × Char × Option String) × Option (List String)
  | [] => ([], none)
  | word :: rest =>
    match word.toList with
    | ['-', '-'] => ([], some rest)
    | sign :: letter :: letters =>
      if sign = '-' || sign = '+' then
        let settings := (settingsOf (letter :: letters) rest).map fun s => (sign == '-', s)
        let named := ((letter :: letters).filter (· = 'o')).length
        let (others, arguments) := optionsOf (rest.drop named)
        (settings ++ others, arguments)
      else ([], some (word :: rest))
    | _ => ([], some (word :: rest))
  termination_by words => words.length

/-- Options and arguments set. -/
def setOptions : Utility := fun words => do
  let (settings, arguments?) := optionsOf words
  for (on, letter, name?) in settings do
    match decide (letter = 'o'), name? with
    | true, some name =>
      match optionNames.lookup name with
      | some option => turn on option
      | none => Action.giveUp ("Illegal option -o " ++ name)
    | true, none => pure ()
    | false, _ => turn on letter
  match arguments? with
  | some arguments => modify fun process => { process with arguments }
  | none => pure ()
  return 0

/-! ### Signals -/

/-- The reaction to a signal set, or taken away. -/
def setReaction (signal : Nat) (action : Option String) : Action Unit := modify fun process =>
  let others := process.reactions.filter fun r => r.1 != signal
  { process with
    reactions := match action with
      | none => others
      | some "" => (signal, .ignored) :: others
      | some text => (signal, .script text) :: others }

/-- Reactions to signals, set or shown. -/
def trap : Utility := fun words => do
  match words.filter (· != "--") with
  | [] =>
    for (signal, reaction) in (← get).reactions.mergeSort fun a b => decide (a.1 ≤ b.1) do
      let text := match reaction with
        | .ignored => ""
        | .script text => text
      Action.print ("trap -- " ++ shown text ++ " " ++ Signal.name signal ++ "\n")
    return 0
  | first :: rest =>
    let (action, names) :=
      if rest.isEmpty || (digitsValue? first.toList).isSome then (none, first :: rest)
      else (if first = "-" then none else some first, rest)
    for name in names do
      match Signal.ofReaction? name with
      | some signal => setReaction signal action
      | none =>
        Action.printError ("trap: " ++ name ++ ": bad trap\n")
        return 1
    return 0

/-- How `kill` is to be called. -/
def killUse : String :=
  "Usage: kill [-s sigspec | -signum | -sigspec] [pid | job]... or\nkill -l [exitstatus]"

/-- The names of all signals, or of the one that a status tells. -/
def listSignals : Utility
  | [] => do
    Action.print (String.join ((List.range 32).map fun n =>
      (if n = 0 then "0" else Signal.name n) ++ "\n"))
    return 0
  | word :: _ =>
    match digitsValue? word.toList with
    | some n => do
      Action.print (Signal.name (if 128 < n then n - 128 else n) ++ "\n")
      return 0
    | none => Action.giveUp ("Illegal number: " ++ word)

/-- **The signal and the processes on a command line**, or why it is none. -/
def killWords : List String → Except String (Nat × List String)
  | [] => .error killUse
  | ["-s"] => .error "No arg for -s option"
  | "-s" :: name :: targets =>
    match Signal.ofText? name with
    | some signal => if targets.isEmpty then .error killUse else .ok (signal, targets)
    | none => .error ("invalid signal number or name: " ++ name)
  | "--" :: targets => if targets.isEmpty then .error killUse else .ok (15, targets)
  | first :: targets =>
    match first.toList with
    | '-' :: c :: name =>
      match Signal.ofText? (String.ofList (c :: name)) with
      | some signal =>
        let targets := targets.filter (· != "--")
        if targets.isEmpty then .error killUse else .ok (signal, targets)
      | none => .error ("Illegal option -" ++ String.singleton c)
    | _ => .ok (15, first :: targets)

/-! ### Limits -/

/-- The limit that letters stand for, and the unit that it is shown in. -/
def limitOf? (letters : List Char) : Option (Resource × Nat) :=
  if letters.contains 't' then some (.cpuTime, 1)
  else if letters.contains 'v' then some (.addressSpace, 1024)
  else none

/-- The letters that ask for a limit, or for its soft or hard half. -/
def limitLetters : List Char := "tfdscmlpnvwrHSa".toList

/-- The limits of the process, shown or set. -/
def ulimit : Utility := fun words => do
  let letters := (words.filter (startsWith "-")).flatMap fun w => w.toList.tail
  let values := words.filter fun w => !startsWith "-" w
  let process ← get
  match letters.find? fun c => !limitLetters.contains c with
  | some c =>
    Action.complain ("Illegal option -" ++ String.singleton c)
    return 2
  | none =>
    match limitOf? letters, values with
    | _, _ :: _ :: _ =>
      Action.complain "too many arguments"
      return 2
    | some (resource, unit), value =>
      let limit := match resource with
        | .cpuTime => process.limits.cpuTime
        | .addressSpace => process.limits.addressSpace
      match value with
      | [] =>
        let value := limit.map fun l => if letters.contains 'H' then l.hard else l.soft
        Action.print ((match value with
          | some n => if n = limitBound then "unlimited" else ofNat (n / unit)
          | none => "unlimited") ++ "\n")
        return 0
      | word :: _ =>
        match if word = "unlimited" then some limitBound
          else (digitsValue? word.toList).map (· * unit) with
        | none =>
          Action.complain "bad number"
          return 2
        | some n =>
          let old := limit.getD (.both limitBound)
          let both := !letters.contains 'H' && !letters.contains 'S'
          let limit : Limit :=
            ⟨if both || letters.contains 'S' then n else old.soft,
              if both || letters.contains 'H' then n else old.hard⟩
          set { process with limits := process.limits.set resource limit }
          return 0
    | none, [] =>
      Action.print "unlimited\n"
      return 0
    | none, _ => return 0

/-! ### Directories -/

/-- A directory as a path. -/
def directoryText (place : List String) : String := "/" ++ Text.join "/" place

/-- The working directory changed. -/
def cd : Utility := fun words => do
  let process ← get
  let here := directoryText process.directory
  let target := match words with
    | "-" :: _ => (process.valueOf? "OLDPWD").getD here
    | target :: _ => target
    | [] => (process.valueOf? "HOME").getD ""
  let refuse : Action Nat := do
    Action.complain ("can't cd to " ++ target)
    return 2
  match process.files.locate true (if target = "" then "." else target) with
  | .ok place =>
    if process.scene.tree.entry? place = some .directory then
      set { process with directory := place }
      modify (Process.share "OLDPWD" (some here))
      modify (Process.share "PWD" (some (directoryText place)))
      if words.head? = some "-" then Action.print (directoryText place ++ "\n")
      return 0
    else refuse
  | .error _ => refuse

/-- The permissions that new files lack. -/
def umask : Utility
  | [] => do
    Action.print "0022\n"
    return 0
  | "-S" :: _ => do
    Action.print "u=rwx,g=rx,o=rx\n"
    return 0
  | word :: _ =>
    if word.toList.all (Numeral.isDigitIn 8) then return 0
    else do
      Action.complain ("Illegal mode: " ++ word)
      return 2

/-! ### Reading -/

/-- The first line of an input as glyphs, whether a line feed ends it, and what comes after
it. A backslash keeps the meaning of the next character away, and a line feed behind one
disappears. -/
def lineGlyphs (escapes : Bool) : List Char → List Glyph × Bool × List Char
  | [] => ([], false, [])
  | '\\' :: c :: s =>
    if escapes then
      let (glyphs, ended, rest) := lineGlyphs escapes s
      (if c = '\n' then glyphs else .quoted c :: glyphs, ended, rest)
    else
      let (glyphs, ended, rest) := lineGlyphs escapes (c :: s)
      (.value '\\' :: glyphs, ended, rest)
  | c :: s =>
    if c = '\n' then ([], true, s)
    else
      let (glyphs, ended, rest) := lineGlyphs escapes s
      (.value c :: glyphs, ended, rest)
  termination_by s => s.length

/-- The variables that a line is read into, and whether backslashes have a meaning. -/
def readWords : Bool → List String → Bool × List String
  | escapes, "-r" :: rest => let _ := escapes; readWords false rest
  | escapes, "-p" :: _ :: rest => readWords escapes rest
  | escapes, names => (escapes, names)

/-- One line of the input, put into variables. -/
def read : Utility := fun words => do
  let (escapes, names) := readWords true words
  if names.isEmpty then
    Action.complain "arg count"
    return 2
  match names.find? fun name => !isName name.toList with
  | some name =>
    Action.complain (name ++ ": bad variable name")
    return 2
  | none =>
    let process ← get
    let (glyphs, ended, rest) := lineGlyphs escapes (Utf8.decodeLossy process.input).toList
    set { process with input := Utf8.encode (String.ofList rest) }
    let fields := leadingFields process.separators names.length glyphs
    for (name, i) in names.zipIdx do
      Action.assign name (textOf (fields[i]?.getD []))
    return if ended then 0 else 1

/-! ### By name -/

/-- Time that has been used: too little to show. -/
def times : Utility := fun _ => do
  Action.print "0m0.00s 0m0.00s\n0m0.00s 0m0.00s\n"
  return 0

/-- **The parts of the shell that perform no further commands.** -/
def ofName? : String → Option Utility
  | "exit" => some exit
  | "return" => some giveBack
  | "break" => some leaveLoops
  | "continue" => some nextRound
  | "shift" => some shift
  | "export" => some exportNames
  | "readonly" => some readonly
  | "local" => some localNames
  | "unset" => some unset
  | "set" => some setOptions
  | "trap" => some trap
  | "cd" | "chdir" => some cd
  | "ulimit" => some ulimit
  | "umask" => some umask
  | "read" => some read
  | "times" => some times
  | "hash" | "jobs" | "alias" | "unalias" => some Utility.succeed
  | name => Utility.inShell? name

/-- The parts of the shell that perform further commands. -/
def performing : List String := [".", "command", "eval", "exec", "kill", "type", "wait"]

/-- Whether a name is that of a part of the shell. -/
def isName (name : String) : Bool := (ofName? name).isSome || performing.contains name

/-- **What the shell finds under a name**: a reserved word, a function, a part of the shell,
or the path of a program. -/
inductive Finding where
  | reserved
  | function
  | builtin
  | program (path : String)
  | nothing
  deriving DecidableEq, Repr

/-- What the shell finds under a name. -/
def find (process : Process) (name : String) : Finding :=
  if Grammar.reservedWords.contains name then .reserved
  else if process.functions.any fun f => f.1 = name then .function
  else if isName name then .builtin
  else
    let paths := if name.toList.contains '/' then [name]
      else process.environment.searchPath.map fun directory => Path.join directory name
    match paths.find? process.files.isExecutable with
    | some path => .program path
    | none => .nothing

/-- What a name stands for, in a sentence. -/
def describe (name : String) : Finding → String
  | .reserved => name ++ " is a shell keyword"
  | .function => name ++ " is a shell function"
  | .builtin => name ++ " is a shell builtin"
  | .program path => name ++ " is " ++ path
  | .nothing => name ++ ": not found"

/-- What names stand for. -/
def type : Utility := fun words => do
  let mut status := 0
  for name in words do
    let finding := find (← get) name
    Action.print (describe name finding ++ "\n")
    if finding = .nothing then status := 127
  return status

/-- What one name stands for, as it would be called. -/
def callOf (name : String) : Action Nat := do
  match find (← get) name with
  | .nothing => return 127
  | .program path =>
    Action.print (path ++ "\n")
    return 0
  | _ =>
    Action.print (name ++ "\n")
    return 0

end VerifierTrials.Shell.Builtin
