import VerifierTrials.FileTree.Basic
import VerifierTrials.Shell.Numeral

/-!
# Conditions

The conditions that scripts test: of texts, of numbers, and of files. What is written in
words is read by their number and order; it may be no condition at all.

Reading goes from word to word and keeps the **latest word**, because an operator that
cannot be one is told by the word before it.
-/

namespace VerifierTrials.Shell.Condition

/-- What a condition comes to: it holds or not, or it is none, for a reason. -/
abbrev Answer := Except String Bool

/-- The number that a word denotes, in decimal notation. -/
def integer (word : String) : Except String Int :=
  let (negative, digits) := match (Text.trimmed word).toList with
    | '-' :: digits => (true, digits)
    | '+' :: digits | digits => (false, digits)
  match Text.digitsValue? digits with
  | some n => .ok (if negative then -(n : Int) else n)
  | none => .error ("Illegal number: " ++ word)

/-- A comparison of two numbers. -/
def compared (left right : String) (holds : Int → Int → Bool) : Answer := do
  return holds (← integer left) (← integer right)

/-- The operators between two words. -/
def binaryOperators : List String :=
  ["=", "!=", "<", ">", "-eq", "-ne", "-lt", "-le", "-gt", "-ge", "-nt", "-ot",
    "-ef"]

/-- A condition of two words. No file is newer than another one. -/
def binary (tree : FileTree) (left operator right : String) : Answer :=
  match operator with
  | "=" => .ok (left = right)
  | "!=" => .ok (left ≠ right)
  | "<" => .ok (left < right)
  | ">" => .ok (right < left)
  | "-eq" => compared left right (· = ·)
  | "-ne" => compared left right (· ≠ ·)
  | "-lt" => compared left right (· < ·)
  | "-le" => compared left right (· ≤ ·)
  | "-gt" => compared left right (· > ·)
  | "-ge" => compared left right (· ≥ ·)
  | "-ef" => .ok (match tree.locate true left, tree.locate true right with
    | .ok first, .ok second => (tree.find true left).toOption.isSome && first = second
    | _, _ => false)
  | _ => .ok false

/-- The operators before one word. -/
def unaryOperators : List String :=
  ["-n", "-z", "-e", "-r", "-w", "-x", "-f", "-d", "-s", "-L", "-h", "-t", "-b", "-c", "-p",
    "-S", "-u", "-g", "-k", "-O", "-G"]

/-- A condition of one word. -/
def unary (tree : FileTree) (operator word : String) : Answer :=
  let file := (tree.find true word).toOption
  match operator with
  | "-n" => .ok (word ≠ "")
  | "-z" => .ok (word = "")
  | "-e" | "-r" | "-w" | "-O" | "-G" => .ok file.isSome
  | "-f" => .ok (tree.isFile word)
  | "-d" => .ok (tree.isDirectory word)
  | "-s" => .ok (match file with
    | some (.file _ content) => !content.isEmpty
    | some .directory => true
    | _ => false)
  | "-x" => .ok (match file with
    | some (.file mode _) => mode &&& 0o111 != 0
    | some .directory => true
    | _ => false)
  | "-L" | "-h" => .ok (match tree.find false word with
    | .ok (.link _) => true
    | _ => false)
  | "-t" => (integer word).map fun _ => false
  | _ => .ok false

/-- What the first of some words is in a condition. -/
inductive Role where
  | nothing
  | operand
  | unary
  | binary
  | negation
  | conjunction
  | disjunction
  | opening
  | closing
  deriving DecidableEq, Repr

/-- **The role of the first of some words.** An operator before one word is an operand where
no word follows, or where what follows is an operator between it and another word; an opening
parenthesis that nothing follows is one as well. -/
def role : List String → Role
  | [] => .nothing
  | word :: rest =>
    if unaryOperators.contains word then
      match rest with
      | [] => .operand
      | [_] => .unary
      | next :: _ :: _ => if binaryOperators.contains next then .operand else .unary
    else if binaryOperators.contains word then .binary
    else
      match word with
      | "!" => .negation
      | "-a" => .conjunction
      | "-o" => .disjunction
      | "(" => if rest.isEmpty then .operand else .opening
      | ")" => .closing
      | _ => .operand

/-- Whether a condition holds, the latest word of it, and the words after it. -/
abbrev Reading := Except String (Bool × String × List String)

mutual

/-- Conditions of which one has to hold. -/
def anyOf (tree : FileTree) : Nat → String → List String → Reading
  | 0, latest, words => .ok (false, latest, words)
  | n + 1, latest, words => do
    let (first, latest, rest) ← allOf tree n latest words
    match role rest, rest with
    | .disjunction, operator :: rest => do
      let (second, latest, rest) ← anyOf tree n operator rest
      return (first || second, latest, rest)
    | _, _ => return (first, latest, rest)

/-- Conditions all of which have to hold. -/
def allOf (tree : FileTree) : Nat → String → List String → Reading
  | 0, latest, words => .ok (false, latest, words)
  | n + 1, latest, words => do
    let (first, latest, rest) ← negated tree n latest words
    match role rest, rest with
    | .conjunction, operator :: rest => do
      let (second, latest, rest) ← allOf tree n operator rest
      return (first && second, latest, rest)
    | _, _ => return (first, latest, rest)

/-- A condition that may be negated. -/
def negated (tree : FileTree) : Nat → String → List String → Reading
  | 0, latest, words => .ok (false, latest, words)
  | n + 1, latest, words =>
    match role words, words with
    | .negation, word :: rest => do
      let (holds, latest, rest) ← negated tree n word rest
      return (!holds, latest, rest)
    | _, _ => single tree n latest words

/-- A single condition. -/
def single (tree : FileTree) : Nat → String → List String → Reading
  | 0, latest, words => .ok (false, latest, words)
  | n + 1, latest, words =>
    match role words, words with
    | _, [] => .ok (false, latest, [])
    | .opening, word :: rest => do
      match role rest, rest with
      | .closing, closing :: rest => return (false, closing, rest)
      | _, _ =>
        let (holds, _, rest) ← anyOf tree n word rest
        match role rest, rest with
        | .closing, closing :: rest => return (holds, closing, rest)
        | _, _ => .error "closing paren expected"
    | .unary, operator :: word :: rest => do
      return (← unary tree operator word, word, rest)
    | _, left :: rest => do
      match role rest, rest with
      | .binary, operator :: rest =>
        match rest with
        | right :: rest => return (← binary tree left operator right, right, rest)
        | [] => .error (operator ++ ": argument expected")
      | _, rest => return (left ≠ "", left, rest)

end

/-- The condition in words as it is read in general: nothing may be left. -/
def general (tree : FileTree) (words : List String) : Answer := do
  match ← anyOf tree (4 * words.length + 4) "" words with
  | (holds, _, []) => .ok holds
  | (_, latest, _ :: _) => .error (latest ++ ": unexpected operator")

/-- **Whether the condition in words holds.** Few words are read by their number: three of
them may be a comparison whatever they are, and three or four may be in parentheses or negated
as a whole. No words are a condition that does not hold. -/
def answer (tree : FileTree) : List String → Answer
  | [] => .ok false
  | [a, b, c] =>
    if binaryOperators.contains b then binary tree a b c
    else if a = "(" && c = ")" then general tree [b]
    else if a = "!" then (answer tree [b, c]).map not
    else general tree [a, b, c]
  | [a, b, c, d] =>
    if a = "(" && d = ")" then general tree [b, c]
    else if a = "!" then (answer tree [b, c, d]).map not
    else general tree [a, b, c, d]
  | words => general tree words

end VerifierTrials.Shell.Condition
