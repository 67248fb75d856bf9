import VerifierTrials.Run.Program
import VerifierTrials.Shell.Builtin
import VerifierTrials.Shell.PathName
import VerifierTrials.Verifier.Executable

/-!
# Evaluation

Commands are actions of a process. Evaluation follows their structure; words are expanded
when they are used, and a command that is no part of the shell is started as a program of
its own, which may be a script again. Everything takes a bound on the depth of its
recursion, loops included; a process that exceeds it is taken for one that never ends.
-/

namespace VerifierTrials.Shell

open VerifierTrials.Text

/-- **The circumstances of a command**: whether it is the last one of its process, which
may then become what it starts, and whether its failure is looked at. -/
structure Mode where
  last : Bool := false
  tested : Bool := false

namespace Evaluation

/-! ### Programs -/

/-- The names of the shell. -/
def shellNames : List String := ["bash", "dash", "sh"]

/-- The names of the programs that can be followed. -/
def programNames : List String := shellNames ++ ["env", "kill", "setsid"] ++ Utility.programNames

/-- The state of a process once it has become a shell. -/
def shellState (calledAs : String) (process : Process) : Process :=
  let fresh : Process :=
    { process with
      shell := process.number
      shellParent := process.parent
      name := calledAs
      arguments := []
      own := ⟨Process.standing⟩
      shared := []
      functions := []
      background := none
      options := []
      readOnly := []
      locals := none
      loops := 0
      within := none
      reactions := process.reactions.filter fun r => r.2 = .ignored }
  fresh.share "PWD" (some (Builtin.directoryText process.directory))

/-- What the shell says of a program that cannot be started, and the status it comes to. -/
def startFailure (name : String) (cause : FileError) : String × Nat :=
  if name = "" || cause = .permissionDenied then
    ("Permission denied", if name.toList.contains '/' then 126 else 127)
  else ("not found", 127)

/-- The variables of a function put back to what they have been before, the latest first. -/
def restoreLocals (process : Process) : Process :=
  (process.locals.getD []).foldl
    (fun process (name, value?) =>
      match value? with
      | some value => process.assign name value
      | none => process.discard name)
    process

/-- A variable put back to what it has been in another state of the process. -/
def reinstated (outer : Process) (name : String) (process : Process) : Process :=
  let restored := fun (before now : Environment) =>
    match before.get? name with
    | some value => now.set name value
    | none => now.unset name
  { process with
    environment := restored outer.environment process.environment
    own := restored outer.own process.own }

/-- How the environment of a program is changed on its command line, and the rest of it. -/
def environmentChange : Environment → List String → Environment × List String
  | env, [] => (env, [])
  | env, "--" :: rest => (env, rest)
  | env, "-u" :: name :: rest => environmentChange (env.unset name) rest
  | env, word :: rest =>
    if word = "-i" || word = "-" then environmentChange ⟨[]⟩ rest
    else
      match Builtin.bindingOf word with
      | (name, some value) => environmentChange (env.set name value) rest
      | (_, none) => (env, word :: rest)

/-- Where the script of a shell comes from. -/
inductive ScriptSource where
  | file
  | word
  | input
  deriving DecidableEq, Repr

/-- The options of a shell set, and where its script comes from. -/
def shellOptions : ScriptSource → List String → Action (ScriptSource × List String)
  | source, [] => return (source, [])
  | source, word :: rest => do
    match word.toList with
    | ['-', '-'] | ['-'] => return (source, rest)
    | '-' :: letters =>
      let source := if letters.contains 'c' then .word else if letters.contains 's' then .input
        else source
      for letter in letters do
        unless "csil".toList.contains letter do Builtin.turn true letter
      shellOptions source rest
    | '+' :: letters =>
      for letter in letters do
        Builtin.turn false letter
      shellOptions source rest
    | _ => return (source, word :: rest)

/-- Whether nothing but line ends is left of a script. -/
def isDone (tokens : List Token) : Bool :=
  tokens.all fun token =>
    match token with
    | .operator text _ => text = "\n"
    | .finish _ => true
    | _ => false

/-- A failure that ends the process, if the options say so. -/
def checked (mode : Mode) (status : Nat) : Action Nat := do
  modify fun process => { process with status }
  if status != 0 && !mode.tested && (← get).isSet 'e' then throw (.leave status)
  return status

/-- What is traced of a command. -/
def trace (assignments : List (String × String)) (words : List String) : Action Unit := do
  if (← get).isSet 'x' then
    let shown := assignments.map (fun (name, value) => name ++ "=" ++ value) ++ words
    Action.printError ("+ " ++ " ".intercalate shown ++ "\n")

/-! ### Commands -/

mutual

/-- The output of a script, as a substitution takes it. -/
def outputOf : Nat → List Char → Action String
  | 0, _ => throw .endless
  | n + 1, text => do
    let number ← Action.newPipe
    let ending ← Action.fork do
      modify (Process.lead 1 (.pipe number))
      concluded n (evaluateText n { last := true } text)
    let status ← Signal.statusOf ending
    modify fun process => { process with status }
    let bytes ← Action.readPipe number
    return Utf8.decodeLossy ((bytes.reverse.dropWhile (· = 10)).reverse)

/-- The glyphs of a parameter that may be changed on its way. -/
def parameterGlyphs : Nat → Bool → List Char → Action (List Glyph)
  | 0, _, _ => throw .endless
  | n + 1, quoted, text => do
    match Adaptation.read? text with
    | none => Action.giveUp "Bad substitution"
    | some (name, change) =>
      let process ← get
      let value? := process.parameter? name
      if value?.isNone && change.needsValue && process.isSet 'u' && name != ['@'] &&
          name != ['*'] then
        Action.giveUp (String.ofList name ++ ": parameter not set")
      else
        let whole := fun (_ : Unit) =>
          if name = ['@'] || (name = ['*'] && !quoted) then argumentGlyphs quoted process.arguments
          else glyphsOf quoted (value?.getD "")
        let wordGlyphs := fun word => do
          let glyphs ← pieceGlyphs n (if quoted then piecesOfText word else piecesOf word)
          return if quoted then .void :: glyphs else glyphs
        let isMissing := fun alsoEmpty => value?.isNone || (alsoEmpty && value? = some "")
        match change with
        | .asIs => return whole ()
        | .length => return glyphsOf quoted (ofNat (value?.getD "").utf8ByteSize)
        | .default alsoEmpty word =>
          if isMissing alsoEmpty then wordGlyphs word else return whole ()
        | .assigned alsoEmpty word =>
          if isMissing alsoEmpty then
            let text := textOf (← wordGlyphs word)
            Action.assign (String.ofList name) text
            return glyphsOf quoted text
          else return whole ()
        | .required alsoEmpty word =>
          if isMissing alsoEmpty then
            let text := textOf (← wordGlyphs word)
            Action.giveUp (String.ofList name ++ ": " ++
              if text != "" then text
              else if alsoEmpty then "parameter not set or null" else "parameter not set")
          else return whole ()
        | .alternative alsoEmpty word => if isMissing alsoEmpty then return [] else wordGlyphs word
        | .withoutStart longest word =>
          let pattern := Pattern.ofGlyphs (← pieceGlyphs n (piecesOf word))
          return glyphsOf quoted
            (String.ofList (pattern.withoutStart longest (value?.getD "").toList))
        | .withoutEnd longest word =>
          let pattern := Pattern.ofGlyphs (← pieceGlyphs n (piecesOf word))
          return glyphsOf quoted
            (String.ofList (pattern.withoutEnd longest (value?.getD "").toList))

/-- The value of a formula as a text. -/
def formulaText : Nat → List Char → Action String
  | 0, _ => throw .endless
  | n + 1, formula => do
    let text := textOf (← pieceGlyphs n (piecesOfText formula))
    match Formula.compute (← get).variableNumber text.toList with
    | .error fault => Action.giveUp (fault.message text)
    | .ok (value, assigned) =>
      for (name, value) in assigned.reverse do
        Action.assign name (ofInt value)
      return ofInt value

/-- The glyphs of pieces. -/
def pieceGlyphs : Nat → List Piece → Action (List Glyph)
  | 0, _ => throw .endless
  | _, [] => return []
  | n + 1, piece :: pieces => do
    let first ← match piece with
      | .plain c => pure [.plain c]
      | .quoted c => pure [.quoted c]
      | .void => pure [.void]
      | .parameter quoted text => parameterGlyphs n quoted text
      | .output quoted script => do pure (glyphsOf quoted (← outputOf n script))
      | .number quoted formula => do pure (glyphsOf quoted (← formulaText n formula))
    return first ++ (← pieceGlyphs n pieces)

/-- The glyphs of a word, a tilde at its front being the home directory. -/
def wordGlyphs : Nat → Word → Action (List Glyph)
  | 0, _ => throw .endless
  | n + 1, word => do
    match word with
    | '~' :: rest =>
      if rest.isEmpty || rest.head? = some '/' then
        let home := ((← get).valueOf? "HOME").getD "~"
        return home.toList.map .quoted ++ (← pieceGlyphs n (piecesOf rest))
      else pieceGlyphs n (piecesOf word)
    | _ => pieceGlyphs n (piecesOf word)

/-- **The words that a word stands for.** -/
def expanded : Nat → List Word → Action (List String)
  | 0, _ => throw .endless
  | _, [] => return []
  | n + 1, word :: further => do
    let glyphs ← wordGlyphs n word
    let process ← get
    let fields := fieldsOf process.separators glyphs
    let words := if process.isSet 'f' then fields.map textOf
      else fields.flatMap (pathNames process.files)
    return words ++ (← expanded n further)

/-- The value of an assignment, where a tilde may also stand behind a colon. -/
def assignedText : Nat → Word → Action String
  | 0, _ => throw .endless
  | n + 1, word => do
    let parts ← (splitOn ':' word).mapM fun part =>
      if part.head? = some '~' then wordGlyphs n part else pure []
    if parts.all List.isEmpty then return textOf (← wordGlyphs n word)
    else
      let pieces ← (splitOn ':' word).mapM (wordGlyphs n)
      return ":".intercalate (pieces.map textOf)

/-- A stream led to a file, or the input taken from one; whether it could be. -/
def openFile : Nat → Redirection → String → Action Bool
  | 0, _, _ => throw .endless
  | _ + 1, r, target => do
    let process ← get
    if r.direction = .read then
      match if target = Utility.emptyDevice then .ok [] else process.files.read target with
      | .ok bytes =>
        set { process with input := bytes }
        return true
      | .error cause =>
        Action.complain ("cannot open " ++ target ++ ": " ++
          if cause = .notFound then "No such file" else Utility.reason cause)
        return false
    else if target = Utility.emptyDevice then
      set (process.lead r.stream .nowhere)
      return true
    else if r.direction = .write && process.isSet 'C' && process.files.isFile target then
      Action.complain ("cannot create " ++ target ++ ": File exists")
      return false
    else
      let opened := if r.direction = .write then process.files.write target []
        else process.files.append target []
      match opened with
      | .ok tree =>
        set ((process.change tree).lead r.stream (.file target))
        return true
      | .error cause =>
        Action.complain ("cannot create " ++ target ++ ": " ++
          if cause = .notFound then "Directory nonexistent" else Utility.reason cause)
        return false

/-- Streams led elsewhere, one after the other; whether all of them could be. -/
def redirect : Nat → List Redirection → Action Bool
  | 0, _ => throw .endless
  | _, [] => return true
  | n + 1, r :: further => do
    let done ← match r.direction with
      | .document quoted => do
        let text ← if quoted then pure (String.ofList r.target)
          else do pure (textOf (← pieceGlyphs n (piecesOfText r.target)))
        modify fun process => { process with input := Utf8.encode text }
        pure true
      | .copy => do
        let target := textOf (← wordGlyphs n r.target)
        let process ← get
        match digitsValue? target.toList with
        | some stream =>
          if r.stream = 0 || (process.sinks.lookup stream).isSome then
            set (process.lead r.stream (process.sink stream))
            pure true
          else
            Action.complain (target ++ ": Bad file descriptor")
            pure false
        | none =>
          set (process.lead r.stream .nowhere)
          pure true
      | _ => do openFile n r (textOf (← wordGlyphs n r.target))
    if done then redirect n further else return false

/-- What a process does once it has received signals. -/
def heed : Nat → Action Unit
  | 0 => throw .endless
  | n + 1 => do
    for sent in ← Action.takeSignals do
      Action.receive (fun text => do
        let _ ← evaluateText n {} text.toList) sent.time sent.signal

/-- A program run by the process, which it thereby becomes. -/
def become : Nat → Start → Action Nat
  | 0, _ => throw .endless
  | n + 1, start => do
    if shellNames.contains start.program then
      modify (shellState start.calledAs)
      interpret n start.arguments
    else if start.program = "env" then
      let process ← get
      let (environment, words) := environmentChange process.environment start.arguments
      set { process with environment }
      match words with
      | [] =>
        for (name, value) in environment.bindings.reverse do
          Action.print (name ++ "=" ++ value ++ "\n")
        return 0
      | name :: arguments =>
        match Start.ofCommand process.files environment true name arguments with
        | .ok start => become n start
        | .error cause =>
          Utility.complain "env" ("'" ++ name ++ "': " ++ Utility.reason cause)
          return if cause = .notFound then 127 else 126
    else if start.program = "kill" then
      kill n start.arguments
    else if start.program = "setsid" then
      beginGroup n start.arguments
    else
      let status ← match Utility.program? start.program with
        | some utility => utility start.arguments
        | none => pure 0
      heed n
      return status

/-- A program in a group of its own, after the options. A process that its group is named by
cannot leave it, and has another one do so; the options may ask for the same. -/
def beginGroup : Nat → List String → Action Nat
  | 0, _ => throw .endless
  | n + 1, words => do
    let options := words.takeWhile Utility.isOption
    let (letters, _) := Utility.splitOptions options
    match (words.drop options.length) with
    | [] =>
      Utility.complainOfUse "setsid" "no command specified"
      return 1
    | name :: arguments =>
      let body : Action Nat := Action.inOwnGroup do
        let process ← get
        match Start.ofCommand process.files process.environment true name arguments with
        | .ok start => become n start
        | .error cause =>
          Utility.complain "setsid" ("failed to execute " ++ name ++ ": " ++ Utility.reason cause)
          return if cause = .notFound then 127 else 126
      let process ← get
      if process.group = process.number || letters.contains 'f' then
        if letters.contains 'w' then return (← Action.fork body).status
        else
          Action.forkAside body
          return 0
      else body

/-- A shell with its words: a script in a word, in a file, or on the input. -/
def interpret : Nat → List String → Action Nat
  | 0, _ => throw .endless
  | n + 1, words => do
    let (source, words) ← shellOptions .file words
    let process ← get
    match source, words with
    | .word, script :: rest =>
      match rest with
      | name :: arguments => set { process with name, arguments }
      | [] => pure ()
      concluded n (evaluateText n {} script.toList)
    | .word, [] =>
      Action.printError (process.name ++ ": 0: -c requires an argument\n")
      return 2
    | .file, path :: arguments =>
      match process.files.read path with
      | .ok bytes =>
        set { process with name := path, arguments }
        concluded n (evaluateText n {} (Utf8.decodeLossy bytes).toList)
      | .error cause =>
        Action.printError (process.name ++ ": 0: cannot open " ++ path ++ ": " ++
          (if cause = .notFound then "No such file" else Utility.reason cause) ++ "\n")
        return 2
    | _, arguments =>
      set { process with arguments, input := [] }
      concluded n (evaluateText n {} (Utf8.decodeLossy process.input).toList)

/-- A script to its end, with what the process does on its exit. -/
def concluded : Nat → Action Nat → Action Nat
  | 0, _ => throw .endless
  | n + 1, body => do
    let orLeaving := fun action : Action Nat => tryCatch action fun departure =>
      match departure with
      | .leave status => pure (status % 256)
      | .giveBack status => pure (status % 256)
      | departure => throw departure
    let status ← orLeaving body
    match (← get).reactions.lookup 0 with
    | some (.script reaction) =>
      modify fun process =>
        { process with reactions := process.reactions.filter fun r => r.1 != 0, status }
      orLeaving do
        let _ ← evaluateText n {} reaction.toList
        return status
    | _ => return status

/-- The commands in a text. -/
def evaluateText : Nat → Mode → List Char → Action Nat
  | 0, _, _ => throw .endless
  | n + 1, mode, text => evaluateLines n mode (tokensOf text) 0

/-- The commands of tokens, line by line, given the status of the latest line. -/
def evaluateLines : Nat → Mode → List Token → Nat → Action Nat
  | 0, _, _, _ => throw .endless
  | n + 1, mode, tokens, latest => do
    match nextCommand? tokens with
    | .error (fault, line) =>
      modify fun process => { process with line }
      Action.giveUp ("Syntax error: " ++ fault.message)
    | .ok none => return latest
    | .ok (some (command, rest)) =>
      if isDone rest then evaluate n mode command
      else
        let status ← evaluate n { mode with last := false } command
        evaluateLines n mode rest status

/-- Signals sent to processes. -/
def kill : Nat → List String → Action Nat
  | 0, _ => throw .endless
  | _, "-l" :: words => Builtin.listSignals words
  | n + 1, words => do
    match Builtin.killWords words with
    | .error reason =>
      Action.complain reason
      return 2
    | .ok (signal, targets) =>
      let react := fun (text : String) => do
        let _ ← evaluateText n {} text.toList
      let mut status := 0
      for target in targets do
        let process ← get
        match digitsValue? ((dropKey? "-" target).getD target).toList with
        | some number =>
          let known := [0, process.number, process.shell, Process.starter, Process.leader]
          if known.contains number || number ≤ process.scene.latest then
            Action.send react (if number = 0 then process.number else number) signal
          else
            Action.complain "No such process\n"
            status := 1
        | none => Action.giveUp ("Illegal number: " ++ target)
      return status

/-- A function called. -/
def callFunction : Nat → Mode → Command → List String → Action Nat
  | 0, _, _, _ => throw .endless
  | n + 1, mode, body, words => do
    let outer ← get
    set { outer with arguments := words, locals := some [], loops := 0 }
    let status ← tryCatch (evaluate n { mode with last := false } body) fun departure =>
      match departure with
      | .giveBack status => pure status
      | departure => throw departure
    modify fun process =>
      { restoreLocals process with
        arguments := outer.arguments
        locals := outer.locals
        loops := outer.loops
        within := outer.within }
    return status

/-- A part of the shell at work. -/
def part : Nat → Mode → String → List String → Action Nat
  | 0, _, _, _ => throw .endless
  | n + 1, mode, name, words => do
    match name, words with
    | "eval", words => evaluateText n { mode with last := false } (" ".intercalate words).toList
    | ".", path :: _ =>
      match (← get).files.read path with
      | .ok bytes =>
        tryCatch (evaluateText n { mode with last := false } (Utf8.decodeLossy bytes).toList)
          fun departure =>
            match departure with
            | .giveBack status => pure status
            | departure => throw departure
      | .error _ => Action.giveUp ("cannot open " ++ path ++ ": No such file")
    | ".", [] => return 0
    | "command", "-v" :: found :: _ => Builtin.callOf found
    | "command", "-V" :: names => Builtin.type names
    | "command", "-p" :: found :: rest | "command", found :: rest => do
      modify fun process => { process with within := none }
      call n { mode with last := false } false found rest
    | "type", names => Builtin.type names
    | "exec", found :: rest => do
      let process ← get
      match Start.ofCommand process.files process.environment true found rest with
      | .ok start => do
        let status ← become n start
        throw (.leave status)
      | .error cause =>
        let (text, _) := startFailure found cause
        Action.complain (found ++ ": " ++ text)
        throw (.leave (if cause = .permissionDenied then 126 else 127))
    | "wait", words => do
      let mut status := 0
      if words.isEmpty then
        for job in (← get).scene.jobs do
          let _ ← Action.waitFor job
      for word in words do
        match digitsValue? word.toList with
        | none =>
          Action.complain ("No such job: " ++ word)
          return 2
        | some number =>
          match (← get).scene.jobs.find? fun job => job.number = number with
          | some job => status ← Signal.statusOf (← Action.waitFor job)
          | none => status := 127
      return status
    | "kill", words => kill n words
    | _, _ =>
      match Builtin.ofName? name with
      | some part => part words
      | none => return 0

/-- A command by its words, which may be a function on demand. -/
def call : Nat → Mode → Bool → String → List String → Action Nat
  | 0, _, _, _, _ => throw .endless
  | n + 1, mode, functions, name, words => do
    let process ← get
    match if functions then process.functions.lookup name else none with
    | some body => callFunction n mode body words
    | none =>
      if Builtin.isName name then
        set { process with within := some name }
        let status ← part n mode name words
        modify fun after => { after with within := process.within }
        return status
      else startProgram n mode name words

/-- A program started under its name. -/
def startProgram : Nat → Mode → String → List String → Action Nat
  | 0, _, _, _ => throw .endless
  | n + 1, mode, name, words => do
    let process ← get
    match Start.ofCommand process.files process.environment true name words with
    | .error cause =>
      let (text, status) := startFailure name cause
      Action.complain (name ++ ": " ++ text)
      return status
    | .ok start =>
      let reacts := process.reactions.any fun r => r.2 != .ignored
      if mode.last && !reacts then
        let status ← become n start
        throw (.leave status)
      else
        Signal.statusOf (← Action.fork (become n start))

/-- Variables set, one after the other, and what they are set to. -/
def assignAll : Nat → Bool → List (String × Word) → Action (List (String × String))
  | 0, _, _ => throw .endless
  | _, _, [] => return []
  | n + 1, persists, (name, word) :: further => do
    let value ← assignedText n word
    if persists then Action.assign name value
    else if (← get).readOnly.contains name then Action.giveUp (name ++ ": is read only")
    else modify (Process.share name (some value))
    return (name, value) :: (← assignAll n persists further)

/-- A simple command: redirections and assignments hold for it alone, unless it has no
words. -/
def simple : Nat → Mode → List (String × Word) → List Word → List Redirection → Action Nat
  | 0, _, _, _, _ => throw .endless
  | n + 1, mode, assignments, words, redirections => do
    let before := (← get).status
    let fields ← expanded n words
    let outer ← get
    let name := fields.headD ""
    let isSpecial := fields.isEmpty || Grammar.specialNames.contains name
    if words.isEmpty then set { outer with status := 0 }
    unless ← redirect n redirections do
      modify fun process => { process with sinks := outer.sinks, input := outer.input }
      if isSpecial && !fields.isEmpty then throw (.leave 2) else return 2
    let assigned ← assignAll n isSpecial assignments
    trace assigned fields
    let status ← match fields with
      | [] => do
        let status := (← get).status
        modify fun process => { process with status := before }
        pure status
      | name :: rest => call n mode true name rest
    modify fun process =>
      let process := if fields = ["exec"] then process
        else
          { process with
            sinks := outer.sinks
            input := if redirections.isEmpty then process.input else outer.input }
      if isSpecial then process
      else assigned.foldr (fun (name, _) process => reinstated outer name process) process
    return status

/-- Rounds of a loop, given the status of the latest one. -/
def rounds : Nat → Mode → Bool → Command → Command → Nat → Action Nat
  | 0, _, _, _, _, _ => throw .endless
  | n + 1, mode, untilTrue, test, body, latest => do
    match ← oneRound n { tested := true } test with
    | none => return 0
    | some tested =>
      if (tested = 0) = untilTrue then return latest
      match ← oneRound n mode body with
      | some status => rounds n mode untilTrue test body status
      | none => return 0

/-- One round of a loop: its status, unless it leaves the loop. -/
def oneRound : Nat → Mode → Command → Action (Option Nat)
  | 0, _, _ => throw .endless
  | n + 1, mode, body => do
    let outer ← get
    set { outer with loops := outer.loops + 1 }
    let status? ← tryCatch (do return some (← evaluate n { mode with last := false } body))
      fun departure =>
        match departure with
        | .leaveLoop levels => if levels > 1 then throw (.leaveLoop (levels - 1)) else pure none
        | .nextRound levels =>
          if levels > 1 then throw (.nextRound (levels - 1)) else pure (some 0)
        | departure => throw departure
    modify fun process => { process with loops := outer.loops, within := outer.within }
    return status?

/-- A round for each value. -/
def roundsFor : Nat → Mode → String → Command → List String → Nat → Action Nat
  | 0, _, _, _, _, _ => throw .endless
  | _, _, _, _, [], latest => return latest
  | n + 1, mode, name, body, value :: further, _ => do
    Action.assign name value
    match ← oneRound n mode body with
    | some status => roundsFor n mode name body further status
    | none => return 0

/-- Whether a text matches one of some patterns. -/
def matchesAny : Nat → String → List Word → Action Bool
  | 0, _, _ => throw .endless
  | _, _, [] => return false
  | n + 1, subject, word :: further => do
    let pattern := Pattern.ofGlyphs (← wordGlyphs n word)
    if pattern.accepts subject.toList then return true else matchesAny n subject further

/-- The first branch that a text matches. -/
def branch : Nat → Mode → String → List (List Word × Command) → Action Nat
  | 0, _, _, _ => throw .endless
  | _, _, _, [] => return 0
  | n + 1, mode, subject, (patterns, body) :: further => do
    if ← matchesAny n subject patterns then evaluate n mode body
    else branch n mode subject further

/-- **A command performed**, with the status that it ends with. -/
def evaluate : Nat → Mode → Command → Action Nat
  | 0, _, _ => throw .endless
  | n + 1, mode, command => do
    if (← get).isSet 'n' then return 0
    let status ← evaluateForm n mode command
    modify fun process => { process with status }
    return status

/-- A command performed according to its form. -/
def evaluateForm : Nat → Mode → Command → Action Nat
  | 0, _, _ => throw .endless
  | n + 1, mode, command => do
    match command with
    | .nothing => return 0
    | .simple line assignments words redirections => do
      modify fun process => { process with line }
      let status ← simple n mode assignments words redirections
      modify fun process => { process with status }
      heed n
      checked mode status
    | .sequence first second => do
      let _ ← evaluate n { mode with last := false } first
      evaluate n mode second
    | .both first second => do
      let status ← evaluate n { tested := true } first
      if status = 0 then evaluate n mode second else return status
    | .either first second => do
      let status ← evaluate n { tested := true } first
      if status = 0 then return status else evaluate n mode second
    | .negation body => do
      return if (← evaluate n { tested := true } body) = 0 then 1 else 0
    | .background body => do
      Action.forkAside (concluded n (evaluate n { last := true } body))
      return 0
    | .pipe first second => do
      let number ← Action.newPipe
      let started := (← get).scene.now
      let wrote? ← Action.follow do
        modify (Process.lead 1 (.pipe number))
        concluded n (evaluate n { last := true } first)
      let bytes ← Action.readPipe number
      let finished ← match wrote? with
        | some ending => do
          let _ ← Signal.statusOf ending
          pure (← get).scene.now
        | none => if bytes.isEmpty then throw .endless else pure started
      modify fun process => { process with scene := { process.scene with now := started } }
      let ending ← Action.fork do
        modify fun process => { process with input := bytes }
        concluded n (evaluate n { last := true } second)
      let status ← Signal.statusOf ending
      modify fun process =>
        { process with
          status
          scene := { process.scene with now := max finished process.scene.now } }
      heed n
      checked mode status
    | .conditional test yes no => do
      let tested ← evaluate n { tested := true } test
      evaluate n mode (if tested = 0 then yes else no)
    | .loop untilTrue test body => rounds n mode untilTrue test body 0
    | .each name values? body => do
      let values ← match values? with
        | some words => expanded n words
        | none => pure (← get).arguments
      roundsFor n mode name body values 0
    | .choice subject branches => do
      let text := textOf (← wordGlyphs n subject)
      branch n mode text branches
    | .subshell body => do
      let ending ← Action.fork (concluded n (evaluate n { mode with last := true } body))
      let status ← Signal.statusOf ending
      modify fun process => { process with status }
      heed n
      checked mode status
    | .redirected body redirections => do
      let outer ← get
      let restore := modify fun process =>
        { process with sinks := outer.sinks, input := outer.input }
      if ← redirect n redirections then
        let status ← evaluate n { mode with last := false } body
        restore
        return status
      else
        restore
        return 2
    | .define name body => do
      modify fun process =>
        { process with
          functions := (name, body) :: process.functions.filter fun f => f.1 != name }
      return 0

end

end Evaluation

end VerifierTrials.Shell
