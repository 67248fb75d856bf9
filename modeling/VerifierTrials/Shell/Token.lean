import VerifierTrials.Shell.Command

/-!
# Tokens of a script

A script falls into **words** and **operators**; a redirection operator takes along the
number that may stand before it. A word ends at a blank or an operator character that
stands outside of quotes and of the brackets of a substitution, so that the extent of a
word is found with a stack of what is open (`extent`). The text of a document given in
the script follows on the lines after the one that asks for it.

The tokens of a text end with a mark of its end, or with the fault in a word that is never
closed (`SyntaxFault`). As commands are read and performed line by line, such a fault does
no harm to the lines before it.
-/

namespace VerifierTrials.Shell

/-- What is open around a character of a word. -/
inductive Enclosure where
  | bare
  | single
  | double
  | parenthesis
  | brace
  | backquote
  deriving DecidableEq, Repr

/-- A character of the name of a variable. -/
def isNameChar (c : Char) : Bool := c.isAlphanum || c = '_'

/-- Whether a text is a name. -/
def isName : List Char → Bool
  | [] => false
  | c :: cs => (c.isAlpha || c = '_') && cs.all isNameChar

/-- A character that ends a word outside of quotes. -/
def endsWord (c : Char) : Bool :=
  c = ' ' || c = '\t' || c = '\n' || c = ';' || c = '&' || c = '|' || c = '(' || c = ')' ||
    c = '<' || c = '>'

/-- **The extent of a word**: the characters up to where everything open is closed, or up
to the end of a bare word, what is left open at the end of the text, and what comes after
the characters. -/
def extent : List Enclosure → List Char → List Char × List Enclosure × List Char
  | [], s => ([], [], s)
  | stack, [] => ([], stack, [])
  | .single :: outer, c :: cs =>
    let (inner, rest) := extent (if c = '\'' then outer else .single :: outer) cs
    (c :: inner, rest)
  | top :: outer, '\\' :: c :: cs =>
    let (inner, rest) := extent (top :: outer) cs
    ('\\' :: c :: inner, rest)
  | top :: outer, '$' :: '(' :: cs =>
    let (inner, rest) := extent (.parenthesis :: top :: outer) cs
    ('$' :: '(' :: inner, rest)
  | top :: outer, '$' :: '\x7b' :: cs =>
    let (inner, rest) := extent (.brace :: top :: outer) cs
    ('$' :: '\x7b' :: inner, rest)
  | top :: outer, c :: cs =>
    if top = .bare && endsWord c then ([], [], c :: cs)
    else
      let next : List Enclosure :=
        if c = '"' then (if top = .double then outer else .double :: top :: outer)
        else if c = '\x60' then (if top = .backquote then outer else .backquote :: top :: outer)
        else if c = '\'' && top != .double then .single :: top :: outer
        else if c = '(' && top = .parenthesis then .parenthesis :: top :: outer
        else if c = ')' && top = .parenthesis then outer
        else if c = '\x7d' && top = .brace then outer
        else top :: outer
      let (inner, rest) := extent next cs
      (c :: inner, rest)

/-- **Why a text is no script.** -/
inductive SyntaxFault where
  /-- Something stands where it cannot, perhaps in the place of something else. -/
  | unexpected (found : String) (wanted : Option String)
  | openQuote
  | openBackquote
  | openBrace
  | openFormula
  /-- What a loop is to set is no variable. -/
  | loopVariable
  /-- What is defined cannot be the name of a function. -/
  | functionName
  | streamNumber
  deriving DecidableEq, Repr

/-- What the end of a script is called. -/
def endOfScript : String := "end of file"

/-- A text in double quotes. -/
def inQuotes (text : String) : String := "\"" ++ text ++ "\""

/-- What the shell says of a fault. -/
def SyntaxFault.message : SyntaxFault → String
  | unexpected found wanted =>
    found ++ " unexpected" ++ match wanted with
      | some text => " (expecting " ++ inQuotes text ++ ")"
      | none => ""
  | openQuote => "Unterminated quoted string"
  | openBackquote => "EOF in backquote substitution"
  | openBrace => "Missing '\x7d'"
  | openFormula => "Missing '))'"
  | loopVariable => "Bad for loop variable"
  | functionName => "Bad function name"
  | streamNumber => "Bad fd number"

/-- The fault of a word that leaves something open, given what is open, innermost first. -/
def SyntaxFault.ofOpen? : List Enclosure → Option SyntaxFault
  | .parenthesis :: .parenthesis :: _ => some openFormula
  | .parenthesis :: _ => some (unexpected endOfScript (some ")"))
  | .backquote :: _ => some openBackquote
  | .brace :: .double :: _ => some openQuote
  | .brace :: _ => some openBrace
  | .single :: _ | .double :: _ => some openQuote
  | .bare :: _ | [] => none

/-- **A token of a script**, with the line that it ends on. -/
inductive Token where
  | word (text : Word) (line : Nat)
  | operator (text : String) (line : Nat)
  | redirect (stream : Nat) (direction : Direction) (line : Nat)
  /-- The text of a document, as the target of its redirection. -/
  | document (text : Word)
  /-- The script goes no further. -/
  | finish (line : Nat)
  /-- The script is at fault here. -/
  | broken (fault : SyntaxFault) (line : Nat)
  deriving DecidableEq, Repr

/-- A document whose text is still to come: the line that ends it, and whether the tabs
in front of its lines are dropped. -/
structure Awaited where
  last : List Char
  withoutTabs : Bool
  deriving Repr

/-- How far a script has been read. -/
structure Scan where
  /-- The tokens, last first. -/
  tokens : List Token := []
  line : Nat := 1
  /-- The documents whose text begins on the next line. -/
  awaited : List Awaited := []
  /-- The texts of the documents, last first. -/
  documents : List Word := []
  deriving Repr

/-- One more token. -/
def Scan.add (scan : Scan) (token : Token) : Scan := { scan with tokens := token :: scan.tokens }

/-- How many lines a text goes on for. -/
def lineCount (s : List Char) : Nat := s.countP (· = '\n')

/-- The text of a document and what follows its last line. It may also go on to the end of
the script. -/
def documentText (awaited : Awaited) : List (List Char) → List Char × List (List Char)
  | [] => ([], [])
  | [line] =>
    let line := if awaited.withoutTabs then line.dropWhile (· = '\t') else line
    (if line = awaited.last then [] else line, [])
  | line :: rest =>
    let line := if awaited.withoutTabs then line.dropWhile (· = '\t') else line
    if line = awaited.last then ([], rest)
    else
      let (text, left) := documentText awaited rest
      (line ++ '\n' :: text, left)

/-- The texts of all awaited documents, the last one first, and what follows them. -/
def documentTexts : List Awaited → List (List Char) → List Word × List (List Char)
  | [], lines => ([], lines)
  | awaited :: further, lines =>
    let (text, rest) := documentText awaited lines
    let (texts, left) := documentTexts further rest
    (texts ++ [text], left)

/-- A word without its quotes. -/
def withoutQuotes (word : Word) : List Char :=
  word.filter fun c => c != '\'' && c != '"' && c != '\\'

/-- The operators, longer ones before their beginnings. -/
def operators : List String := [";;", "&&", "||", ";", "&", "|", "(", ")"]

/-- The operator at the front of a text. -/
def operator? (s : List Char) : Option (String × List Char) :=
  operators.findSome? fun text => (Text.stripPrefix? text.toList s).map fun rest => (text, rest)

/-- The redirection at the front of a text: its own stream, its direction, and whether
tabs are dropped from the document it asks for. -/
def redirection? : List Char → Option (Nat × Direction × Bool × List Char)
  | '<' :: '<' :: '-' :: rest => some (0, .document false, true, rest)
  | '<' :: '<' :: rest => some (0, .document false, false, rest)
  | '<' :: '&' :: rest => some (0, .copy, false, rest)
  | '<' :: rest => some (0, .read, false, rest)
  | '>' :: '>' :: rest => some (1, .append, false, rest)
  | '>' :: '&' :: rest => some (1, .copy, false, rest)
  | '>' :: '|' :: rest => some (1, .write, false, rest)
  | '>' :: rest => some (1, .write, false, rest)
  | _ => none

/-- A redirection read: of a document, the word that ends it is read with it. -/
def scanRedirection (scan : Scan) (stream : Nat) (direction : Direction) (withoutTabs : Bool)
    (s : List Char) : Scan × List Char :=
  match direction with
  | .document _ =>
    let (word, _, rest) := extent [.bare] (s.dropWhile fun c => c = ' ' || c = '\t')
    let last := withoutQuotes word
    let read := scan.add (.redirect stream (.document (last != word)) scan.line)
    ({ read.add (.document []) with
        awaited := scan.awaited ++ [⟨last, withoutTabs⟩] }, rest)
  | _ => (scan.add (.redirect stream direction scan.line), s)

/-- The tokens of a text, with a bound on the steps. -/
def scanFrom : Nat → Scan → List Char → Scan
  | 0, scan, _ => scan
  | _, scan, [] => scan.add (.finish scan.line)
  | n + 1, scan, '\\' :: '\n' :: cs => scanFrom n { scan with line := scan.line + 1 } cs
  | n + 1, scan, c :: cs =>
    if c = ' ' || c = '\t' then scanFrom n scan cs
    else if c = '#' then scanFrom n scan (cs.dropWhile (· != '\n'))
    else if c = '\n' then
      let line := scan.line + 1
      let ended := { scan.add (.operator "\n" line) with line }
      if scan.awaited.isEmpty then scanFrom n ended cs
      else
        let (texts, left) := documentTexts scan.awaited (Text.splitOn '\n' cs)
        let rest := ['\n'].intercalate left
        scanFrom n
          { ended with
            awaited := []
            documents := texts ++ scan.documents
            line := line + (lineCount cs - lineCount rest) } rest
    else
      match redirection? (c :: cs), operator? (c :: cs) with
      | some (stream, direction, withoutTabs, rest), _ =>
        let (read, left) := scanRedirection scan stream direction withoutTabs rest
        scanFrom n read left
      | none, some (text, rest) => scanFrom n (scan.add (.operator text scan.line)) rest
      | none, none =>
        let (word, stack, rest) := extent [.bare] (c :: cs)
        let line := scan.line + lineCount word
        match SyntaxFault.ofOpen? stack with
        | some fault => scan.add (.broken fault line)
        | none =>
          match Text.digitsValue? word, redirection? rest with
          | some stream, some (_, direction, withoutTabs, rest) =>
            let (read, left) := scanRedirection scan stream direction withoutTabs rest
            scanFrom n read left
          | _, _ => scanFrom n { scan.add (.word word scan.line) with line } rest

/-- The texts of documents put where they are asked for, in order. -/
def placeDocuments : List Token → List Word → List Token
  | [], _ => []
  | .document _ :: tokens, text :: texts => .document text :: placeDocuments tokens texts
  | token :: tokens, texts => token :: placeDocuments tokens texts

/-- **The tokens of a script.** -/
def tokensOf (script : List Char) : List Token :=
  let scan := scanFrom (script.length + 1) {} script
  placeDocuments scan.tokens.reverse scan.documents.reverse

end VerifierTrials.Shell
