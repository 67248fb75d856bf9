/-!
# Text as a list of characters

Everything a benchmark reads or writes is text: option values, path names, the
output of a tool, the rows of a report. The operations below are the few ones
that all of them share, stated on `List Char` so that each is one structural
recursion: **cutting at a key** (`split?`), **replacing a key** (`replaceAll`),
**lines** (`lines`), **trimming** (`trim`) and **padding** (`padRight`,
`padLeft`). The second half lifts them to `String`.
-/

namespace VerifierTrials.Text

/-! ### Keys inside a text -/

/-- What is left of a text once a leading key is taken off. -/
def stripPrefix? : List Char → List Char → Option (List Char)
  | [], s => some s
  | _ :: _, [] => none
  | k :: ks, c :: cs => if k = c then stripPrefix? ks cs else none

/-- **The first occurrence of a key**: the text before it and the text after it. -/
def split? (key : List Char) : List Char → Option (List Char × List Char)
  | [] => (stripPrefix? key []).map fun rest => ([], rest)
  | c :: cs =>
    match stripPrefix? key (c :: cs) with
    | some rest => some ([], rest)
    | none => (split? key cs).map fun (before, rest) => (c :: before, rest)

/-- Whether a key occurs anywhere in a text. -/
def occursIn (key s : List Char) : Bool := (split? key s).isSome

/-- Replacing with a number of characters still to be swallowed: the rest of an
occurrence whose first character has been replaced already. -/
def replaceFrom (old new : List Char) : Nat → List Char → List Char
  | _, [] => []
  | n + 1, _ :: cs => replaceFrom old new n cs
  | 0, c :: cs =>
    if (stripPrefix? old (c :: cs)).isSome then
      new ++ replaceFrom old new (old.length - 1) cs
    else
      c :: replaceFrom old new 0 cs

/-- **All occurrences of a non-empty key replaced**, from the left and without
overlap; what has been put in is not read again. -/
def replaceAll (old new s : List Char) : List Char := replaceFrom old new 0 s

/-! ### Pieces of a text -/

/-- The pieces between the occurrences of a separator: always one more than there
are separators. -/
def splitOn (sep : Char) : List Char → List (List Char)
  | [] => [[]]
  | c :: cs =>
    if c = sep then
      [] :: splitOn sep cs
    else
      match splitOn sep cs with
      | [] => [[c]]
      | piece :: pieces => (c :: piece) :: pieces

/-- A line without the carriage return that a line feed may have before it. -/
def dropReturn (line : List Char) : List Char :=
  if line.getLast? = some '\r' then line.dropLast else line

/-- Lines out of the pieces between line feeds: only a piece that a line feed
ended loses a carriage return, and an empty piece at the end is no line. -/
def linesOfPieces : List (List Char) → List (List Char)
  | [] => []
  | [last] => if last.isEmpty then [] else [last]
  | piece :: pieces => dropReturn piece :: linesOfPieces pieces

/-- **The lines of a text.** -/
def lines (s : List Char) : List (List Char) := linesOfPieces (splitOn '\n' s)

/-- Cuts a text before the first character that satisfies a test. -/
def cutAt (p : Char → Bool) (s : List Char) : List Char := s.takeWhile fun c => !p c

/-! ### White space -/

/-- **White space** is what Unicode calls so: the ASCII blanks and the
separators of other scripts. -/
def isBlank (c : Char) : Bool :=
  let n := c.toNat
  (9 ≤ n && n ≤ 13) || n == 0x20 || n == 0x85 || n == 0xA0 || n == 0x1680 ||
    (0x2000 ≤ n && n ≤ 0x200A) || n == 0x2028 || n == 0x2029 || n == 0x202F ||
    n == 0x205F || n == 0x3000

/-- A text without its leading white space. -/
def trimStart (s : List Char) : List Char := s.dropWhile isBlank

/-- A text without its trailing white space. -/
def trimEnd (s : List Char) : List Char := (s.reverse.dropWhile isBlank).reverse

/-- **A text without the white space around it.** -/
def trim (s : List Char) : List Char := trimEnd (trimStart s)

/-- The words of a text: the maximal runs without white space. -/
def wordsFrom : List Char → List Char → List (List Char)
  | word, [] => if word.isEmpty then [] else [word.reverse]
  | word, c :: cs =>
    if isBlank c then
      if word.isEmpty then wordsFrom [] cs else word.reverse :: wordsFrom [] cs
    else
      wordsFrom (c :: word) cs

/-- The words of a text, in order. -/
def words (s : List Char) : List (List Char) := wordsFrom [] s

/-! ### Columns -/

/-- A text filled up with spaces on the right, to at least the given width in
characters. -/
def padRight (width : Nat) (s : List Char) : List Char :=
  s ++ List.replicate (width - s.length) ' '

/-- A text filled up with spaces on the left, to at least the given width in
characters. -/
def padLeft (width : Nat) (s : List Char) : List Char :=
  List.replicate (width - s.length) ' ' ++ s

/-- The decimal digits of a number. -/
def decimal (n : Nat) : List Char := Nat.toDigits 10 n

/-- The number that a non-empty run of ASCII digits denotes. -/
def digitsValue? (s : List Char) : Option Nat :=
  if s.isEmpty || !s.all Char.isDigit then
    none
  else
    some (s.foldl (fun n c => 10 * n + (c.toNat - '0'.toNat)) 0)

/-- **An unsigned number below a bound**: digits, with an optional plus sign. -/
def unsigned? (bound : Nat) (s : List Char) : Option Nat :=
  let digits := (stripPrefix? ['+'] s).getD s
  (digitsValue? digits).filter (· < bound)

end VerifierTrials.Text

namespace VerifierTrials

open VerifierTrials.Text

/-! ### The same on strings -/

/-- Whether a key occurs in a text. -/
def Text.contains (key s : String) : Bool := occursIn key.toList s.toList

/-- Whether a text begins with a key. -/
def Text.startsWith (key s : String) : Bool := (stripPrefix? key.toList s.toList).isSome

/-- A text without a leading key, if it has it. -/
def Text.dropKey? (key s : String) : Option String :=
  (stripPrefix? key.toList s.toList).map String.ofList

/-- The texts before and after the first occurrence of a key. -/
def Text.cut? (key s : String) : Option (String × String) :=
  (split? key.toList s.toList).map fun (before, rest) => (String.ofList before, String.ofList rest)

/-- All occurrences of a key replaced. -/
def Text.replace (old new s : String) : String :=
  String.ofList (replaceAll old.toList new.toList s.toList)

/-- The text without the white space around it. -/
def Text.trimmed (s : String) : String := String.ofList (trim s.toList)

/-- The lines of a text. -/
def Text.linesOf (s : String) : List String := (lines s.toList).map String.ofList

/-- The words of a text. -/
def Text.wordsOf (s : String) : List String := (words s.toList).map String.ofList

/-- The pieces of a text between the occurrences of a separator. -/
def Text.pieces (sep : Char) (s : String) : List String :=
  (splitOn sep s.toList).map String.ofList

/-- A text aligned to the left in a column. -/
def Text.left (width : Nat) (s : String) : String := String.ofList (padRight width s.toList)

/-- A text aligned to the right in a column. -/
def Text.right (width : Nat) (s : String) : String := String.ofList (padLeft width s.toList)

/-- Texts joined by a separator. -/
def Text.join (sep : String) (parts : List String) : String := sep.intercalate parts

/-- A character, repeated. -/
def Text.line (c : Char) (n : Nat) : String := String.ofList (List.replicate n c)

/-- A number in decimal digits. -/
def Text.ofNat (n : Nat) : String := String.ofList (decimal n)

/-- An integer in decimal digits, with a minus sign below zero. -/
def Text.ofInt (n : Int) : String :=
  if n < 0 then "-" ++ ofNat n.natAbs else ofNat n.natAbs

end VerifierTrials
