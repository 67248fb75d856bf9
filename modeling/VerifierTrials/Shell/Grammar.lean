import VerifierTrials.Shell.Token

/-!
# The grammar of the shell

Commands out of tokens, by recursive descent: a **list** of and-or chains of pipelines of
single commands, each of which is compound, a definition, or simple. Reserved words count
only where a command may begin. Each function takes a bound on its recursion, which the
number of tokens gives.

A script is read line by line (`Grammar.line`): the commands of one line, and of the lines
that they go on for, are performed before the next line is looked at.
-/

namespace VerifierTrials.Shell

/-- Reading commands off tokens. A fault is found on a line. -/
abbrev Grammar := StateT (List Token) (Except (SyntaxFault × Nat))

namespace Grammar

/-- The words that have a meaning where a command may begin. -/
def reservedWords : List String :=
  ["!", "case", "do", "done", "elif", "else", "esac", "fi", "for", "if", "in", "then", "until",
    "while", "\x7b", "\x7d"]

/-- The words that end a list of commands. -/
def closers : List String := ["do", "done", "elif", "else", "esac", "fi", "then", "\x7d"]

/-- The next token, unless the script is at fault there. -/
def peek : Grammar Token := do
  match ← get with
  | .broken fault line :: _ => throw (fault, line)
  | token :: _ => return token
  | [] => return .finish 0

/-- The next token passed over. The end is always there. -/
def pass : Grammar Unit := do
  match ← peek with
  | .finish _ => return ()
  | _ => modify List.tail

/-- How a token is called, where reserved words count or not, and the line it is on. -/
def description (reserving : Bool) : Token → String × Nat
  | .word text line =>
    let text := String.ofList text
    (if reserving && reservedWords.contains text then inQuotes text else "word", line)
  | .operator text line => (if text = "\n" then "newline" else inQuotes text, line)
  | .redirect _ _ line => ("redirection", line)
  | .document _ => ("word", 0)
  | .finish line => (endOfScript, line)
  | .broken _ line => ("word", line)

/-- The fault of the next token, which stands where something else is wanted. -/
def unexpected {α : Type} (wanted : Option String) (reserving : Bool := true) : Grammar α := do
  let (found, line) := description reserving (← peek)
  throw (.unexpected found wanted, line)

/-- A fault at the next token. -/
def fault {α : Type} (cause : SyntaxFault) : Grammar α := do
  throw (cause, (description true (← peek)).2)

/-- Whether the next token is an operator. -/
def atOperator (text : String) : Grammar Bool := do
  match ← peek with
  | .operator found _ => return found = text
  | _ => return false

/-- Whether the next token is a word. -/
def atWord (text : String) : Grammar Bool := do
  match ← peek with
  | .word found _ => return String.ofList found = text
  | _ => return false

/-- An operator passed over, if it comes next. -/
def operator? (text : String) : Grammar Bool := do
  let found ← atOperator text
  if found then pass
  return found

/-- An operator that has to come next. -/
def operator (text : String) : Grammar Unit := do
  unless ← operator? text do unexpected (some text)

/-- A reserved word passed over, if it comes next. -/
def reserved? (text : String) : Grammar Bool := do
  let found ← atWord text
  if found then pass
  return found

/-- A reserved word that has to come next. -/
def reserved (text : String) : Grammar Unit := do
  unless ← reserved? text do unexpected (some text)

/-- A word passed over, if one comes next. -/
def word? : Grammar (Option Word) := do
  match ← peek with
  | .word text _ =>
    pass
    return some text
  | _ => return none

/-- Line ends passed over. -/
def passLines : Grammar Unit :=
  modify fun tokens => tokens.dropWhile fun token =>
    match token with
    | .operator text _ => text = "\n"
    | _ => false

/-- Whether the script ends here. -/
def atFinish : Grammar Bool := do
  match ← peek with
  | .finish _ => return true
  | _ => return false

/-- Whether a list of commands is closed here. -/
def atCloser : Grammar Bool := do
  match ← peek with
  | .operator text _ => return text = ")" || text = ";;"
  | .word text _ => return closers.contains (String.ofList text)
  | _ => return false

/-- What separates two commands, if it comes next. -/
def separator? : Grammar (Option String) := do
  for text in [";", "&", "\n"] do
    if ← operator? text then return some text
  return none

/-! ### Simple commands -/

/-- A redirection, if one comes next. -/
def redirection? : Grammar (Option Redirection) := do
  match ← peek with
  | .redirect stream direction line =>
    pass
    match ← get with
    | .word target _ :: rest | .document target :: rest =>
      let isStream := (Text.digitsValue? target).isSome || target = ['-'] || target.contains '$'
      if direction = .copy && !isStream then throw (.streamNumber, line)
      set rest
      return some ⟨stream, direction, target⟩
    | _ => unexpected none
  | _ => return none

/-- The redirections that come next, with a bound on their number. -/
def redirections : Nat → Grammar (List Redirection)
  | 0 => return []
  | n + 1 => do
    match ← redirection? with
    | some r => return r :: (← redirections n)
    | none => return []

/-- The name and the value of a word that is an assignment. -/
def assignment? (text : Word) : Option (String × Word) :=
  match Text.split? ['='] text with
  | some (name, value) => if isName name then some (String.ofList name, value) else none
  | none => none

/-- The parts of a simple command, each list last first. -/
structure Parts where
  line : Option Nat := none
  assignments : List (String × Word) := []
  words : List Word := []
  redirections : List Redirection := []

/-- The simple command of its parts. -/
def Parts.command (parts : Parts) : Command :=
  .simple (parts.line.getD 1) parts.assignments.reverse parts.words.reverse
    parts.redirections.reverse

/-- The parts of a simple command that come next, with a bound on their number. -/
def parts : Nat → Parts → Grammar Parts
  | 0, found => return found
  | n + 1, found => do
    match ← peek with
    | .word text line =>
      pass
      let found := { found with line := found.line.or (some line) }
      match found.words, assignment? text with
      | [], some binding => parts n { found with assignments := binding :: found.assignments }
      | _, _ => parts n { found with words := text :: found.words }
    | _ =>
      match ← redirection? with
      | some r => parts n { found with redirections := r :: found.redirections }
      | none => return found

/-- The name that the parts of a command give a function, if they are one word. -/
def Parts.functionName? (parts : Parts) : Option Word :=
  match parts.words, parts.assignments, parts.redirections with
  | [name], [], [] => some name
  | _, _, _ => none

/-- The parts of the shell that are no functions, whatever is defined. -/
def specialNames : List String :=
  [".", ":", "break", "continue", "eval", "exec", "exit", "export", "readonly", "return", "set",
    "shift", "times", "trap", "unset"]

/-! ### Compound commands -/

/-- Words as far as there are any, with a bound on their number. -/
def wordList : Nat → Grammar (List Word)
  | 0 => return []
  | n + 1 => do
    match ← word? with
    | some text => return text :: (← wordList n)
    | none => return []

/-- The patterns of a branch, with a bound on their number. Whatever stands in the place of a
pattern is taken for one. -/
def patterns : Nat → Grammar (List Word)
  | 0 => return []
  | n + 1 => do
    let first ← match ← word? with
      | some text => pure text
      | none => do
        pass
        pure []
    if ← operator? "|" then return first :: (← patterns n)
    else
      unless ← operator? ")" do unexpected (some ")") false
      return [first]

/-- The variable that a loop sets. -/
def loopVariable : Grammar String := do
  match ← peek with
  | .word text _ =>
    if isName text then
      pass
      return String.ofList text
    else fault .loopVariable
  | _ => fault .loopVariable

/-- The words of a loop, up to the end of their line: none are given if `in` does not
follow. -/
def loopWords (bound : Nat) : Grammar (Option (List Word)) := do
  passLines
  if ← reserved? "in" then
    let found ← wordList bound
    if ← operator? ";" then return some found
    else if ← atOperator "\n" then return some found
    else if ← atFinish then unexpected (some "do")
    else unexpected none
  else
    let _ ← operator? ";"
    return none

/-- The bound on recursion has been reached, which tokens that are read one by one never do. -/
def tooDeep {α : Type} : Grammar α := unexpected none

mutual

/-- **A list of commands**, up to what ends it. It may be empty only on demand. -/
def list : Nat → Bool → Grammar Command
  | 0, _ => tooDeep
  | n + 1, mayBeEmpty => do
    passLines
    if ← atFinish then return .nothing
    if mayBeEmpty then
      if ← atCloser then return .nothing
    let first ← chain n
    match ← separator? with
    | none => return first
    | some text => do
      let first := if text = "&" then .background first else first
      match ← list n true with
      | .nothing => return first
      | rest => return .sequence first rest

/-- Pipelines joined by what depends on their success. -/
def chain : Nat → Grammar Command
  | 0 => tooDeep
  | n + 1 => do
    let first ← pipeline n
    chainAfter n first

/-- The rest of a chain, given what comes before it. -/
def chainAfter : Nat → Command → Grammar Command
  | 0, _ => tooDeep
  | n + 1, first => do
    if ← operator? "&&" then
      passLines
      let second ← pipeline n
      chainAfter n (.both first second)
    else if ← operator? "||" then
      passLines
      let second ← pipeline n
      chainAfter n (.either first second)
    else
      return first

/-- Commands joined by pipes, with the opposite status on demand. -/
def pipeline : Nat → Grammar Command
  | 0 => tooDeep
  | n + 1 => do
    if ← reserved? "!" then return .negation (← pipes n)
    else pipes n

/-- Commands joined by pipes. -/
def pipes : Nat → Grammar Command
  | 0 => tooDeep
  | n + 1 => do
    let first ← command n
    if ← operator? "|" then
      passLines
      return .pipe first (← pipes n)
    else
      return first

/-- A single command. -/
def command : Nat → Grammar Command
  | 0 => tooDeep
  | n + 1 => do
    match ← compound? n with
    | some body => do
      match ← redirections n with
      | [] => return body
      | found => return .redirected body found
    | none => do
      match ← peek with
      | .word text _ =>
        if reservedWords.contains (String.ofList text) then unexpected none
        else simple n
      | .redirect _ _ _ => simple n
      | _ => unexpected none

/-- A simple command, or the definition of a function. -/
def simple : Nat → Grammar Command
  | 0 => tooDeep
  | n + 1 => do
    let found ← parts n {}
    match found.functionName? with
    | none => return found.command
    | some name =>
      if ← operator? "(" then
        operator ")"
        let text := String.ofList name
        if !isName name || specialNames.contains text then fault .functionName
        else
          passLines
          return .define text (← command n)
      else return found.command

/-- A command that begins with a reserved word or a parenthesis. -/
def compound? : Nat → Grammar (Option Command)
  | 0 => tooDeep
  | n + 1 => do
    if ← operator? "(" then
      let body ← list n false
      operator ")"
      return some (.subshell body)
    else if ← reserved? "\x7b" then
      let body ← list n false
      reserved "\x7d"
      return some body
    else if ← reserved? "if" then
      return some (← condition n)
    else if ← reserved? "while" then
      return some (← loopBody n false)
    else if ← reserved? "until" then
      return some (← loopBody n true)
    else if ← reserved? "for" then
      let name ← loopVariable
      let values ← loopWords n
      passLines
      reserved "do"
      let body ← list n false
      reserved "done"
      return some (.each name values body)
    else if ← reserved? "case" then
      match ← word? with
      | none => unexpected (some "word")
      | some subject =>
        passLines
        reserved "in"
        return some (.choice subject (← caseBranches n))
    else
      return none

/-- A condition, after its first word. -/
def condition : Nat → Grammar Command
  | 0 => tooDeep
  | n + 1 => do
    let test ← list n false
    reserved "then"
    let yes ← list n false
    if ← reserved? "elif" then
      return .conditional test yes (← condition n)
    else if ← reserved? "else" then
      let no ← list n false
      reserved "fi"
      return .conditional test yes no
    else
      reserved "fi"
      return .conditional test yes .nothing

/-- A loop, after its first word. -/
def loopBody : Nat → Bool → Grammar Command
  | 0, _ => tooDeep
  | n + 1, untilTrue => do
    let test ← list n false
    reserved "do"
    let body ← list n false
    reserved "done"
    return .loop untilTrue test body

/-- The branches of a choice, up to its end. -/
def caseBranches : Nat → Grammar (List (List Word × Command))
  | 0 => tooDeep
  | n + 1 => do
    passLines
    if ← reserved? "esac" then return []
    let _ ← operator? "("
    let found ← patterns n
    let body ← list n true
    passLines
    if ← reserved? "esac" then return [(found, body)]
    else
      operator ";;"
      return (found, body) :: (← caseBranches n)

end

/-- The commands of a line from here on, up to its end. -/
def lineFrom : Nat → Grammar Command
  | 0 => tooDeep
  | n + 1 => do
    let first ← chain n
    let ended := do return (← operator? "\n") || (← atFinish)
    if ← ended then return first
    let aside ← operator? "&"
    unless aside do
      unless ← operator? ";" do unexpected none
    let first := if aside then .background first else first
    if ← ended then return first
    return .sequence first (← lineFrom n)

/-- **The commands of the next line** that has any, and of the lines that they go on for;
none at the end of the script. -/
def line (bound : Nat) : Grammar (Option Command) := do
  passLines
  if ← atFinish then return none
  return some (← lineFrom bound)

end Grammar

/-- **The next commands of a script**, and the tokens after them. -/
def nextCommand? (tokens : List Token) :
    Except (SyntaxFault × Nat) (Option (Command × List Token)) := do
  let (command?, rest) ← (Grammar.line (8 * tokens.length + 8)).run tokens
  return command?.map fun command => (command, rest)

end VerifierTrials.Shell
