import VerifierTrials.Shell.Condition
import VerifierTrials.Shell.Printing
import VerifierTrials.Shell.Utility.Basic
import VerifierTrials.Text.Regular

/-!
# Utilities for streams

Utilities that print what they are given, and those that read files or their input and print
parts of it, counts, or something made of it.
-/

namespace VerifierTrials.Shell.Utility

open VerifierTrials.Text

/-! ### Printing -/

/-- The words, with escapes. -/
def echo : Utility := fun words => do
  Action.write 1 (Printing.echoed true words)
  return 0

/-- Whether a word is made of the letters that turn escapes and line ends on or off. -/
def isEchoOption (word : String) : Bool :=
  match word.toList with
  | '-' :: letters => !letters.isEmpty && letters.all fun c => c = 'n' || c = 'e' || c = 'E'
  | _ => false

/-- The words; escapes are read only on demand. -/
def plainEcho : Utility := fun words => do
  let options := words.takeWhile isEchoOption
  let rest := words.dropWhile isEchoOption
  let letters := options.flatMap String.toList
  let escapes := (letters.filter fun c => c = 'e' || c = 'E').getLast? = some 'e'
  let text := if letters.contains 'n' then "-n" :: rest else rest
  Action.write 1 (if letters.contains 'n' || rest.head? != some "-n" then
    Printing.echoed escapes text
  else
    Utf8.encode (" ".intercalate rest ++ "\n"))
  return 0

/-- A format filled in. -/
def printf : Utility
  | "--" :: format :: words | format :: words => do
    match format.toList with
    | '-' :: c :: _ =>
      Action.complain ("Illegal option -" ++ String.singleton c)
      return 2
    | _ =>
      let printout := Printing.formatted format words
      for complaint in printout.complaints do
        Action.complain complaint
      Action.write 1 printout.bytes
      return printout.status
  | [] => do
    Action.complain "usage: printf format [arg ...]"
    return 2

/-- The numbers from a first one to a last one. -/
def numbers (first step last : Int) : List Int :=
  let count := if step = 0 then 0 else ((last - first).fdiv step + 1).toNat
  (List.range count).map fun n : Nat => first + step * n

/-- Numbers in a row. -/
def seq : Utility := fun words => do
  let (separator?, words) := optionValue 's' words
  match words.find? fun w => (Condition.integer w).toOption.isNone with
  | some word =>
    complainOfUse "seq" ("invalid floating point argument: '" ++ word ++ "'")
    return 1
  | none =>
    let row? := match words.map fun w => (Condition.integer w).toOption.getD 0 with
      | [last] => some (numbers 1 1 last)
      | [first, last] => some (numbers first 1 last)
      | [first, step, last] => some (numbers first step last)
      | _ => none
    match row? with
    | some [] => return 0
    | some row =>
      Action.print ((separator?.getD "\n").intercalate (row.map Text.ofInt) ++ "\n")
      return 0
    | none =>
      complainOfUse "seq" "missing operand"
      return 1

/-- How many lines a utility prints that never ends. -/
def endlessLines : Nat := 100000

/-- One line again and again. -/
def yes : Utility := fun words => do
  let line := Utf8.encode ((if words.isEmpty then "y" else " ".intercalate words) ++ "\n")
  Action.write 1 (List.replicate endlessLines line).flatten
  throw .endless

/-! ### Files as they are -/

/-- Files, one after the other. -/
def cat : Utility := fun words => do
  let (letters, paths) := splitOptions words
  match letters.find? fun c => !"un".toList.contains c with
  | some c =>
    complainOfUse "cat" ("invalid option -- '" ++ String.singleton c ++ "'")
    return 1
  | none =>
    let mut count := 0
    let mut status := 0
    for path in (if paths.isEmpty then ["-"] else paths) do
      match ← content none path with
      | .error cause =>
        complainOf "cat" path cause
        status := 1
      | .ok bytes =>
        if letters.contains 'n' then
          for line in byteLines bytes do
            count := count + 1
            Action.write 1 (Utf8.encode (right 6 (Text.ofNat count) ++ "\t") ++ line)
        else Action.write 1 bytes
    return status

/-- The input, to the output and into files. -/
def tee : Utility := fun words => do
  let (letters, paths) := splitOptions words
  let bytes := (← get).input
  modify fun process => { process with input := [] }
  let mut status := 0
  for path in paths do
    let process ← get
    let written := if letters.contains 'a' then process.files.append path bytes
      else process.files.write path bytes
    match written with
    | .ok tree => modify (·.change tree)
    | .error cause =>
      complainOf "tee" path cause
      status := 1
  Action.write 1 bytes
  return status

/-! ### Parts of files -/

/-- **Which part of a file is wanted**: so many bytes or lines, from the end that is nearer
to the utility or from the other one. -/
structure Portion where
  inBytes : Bool := false
  count : Nat := 10
  /-- Whether a sign in front of the count turns it round. -/
  turned : Bool := false

/-- The portion that a count asks for, with the sign that turns it round. -/
def Portion.ofCount? (sign : Char) (inBytes : Bool) (text : List Char) : Option Portion :=
  match text with
  | c :: digits =>
    if c = sign then (digitsValue? digits).map fun n => ⟨inBytes, n, true⟩
    else (digitsValue? text).map fun n => ⟨inBytes, n, false⟩
  | [] => none

/-- A word that gives a count without a letter, with the letter of lines. -/
def withLetter (word : String) : String :=
  match word.toList with
  | '-' :: d :: digits => if d.isDigit then String.ofList ('-' :: 'n' :: d :: digits) else word
  | _ => word

/-- The portion that words ask for, and the files. -/
def portion (sign : Char) (words : List String) : Portion × List String :=
  let (bytes?, words) := optionValue 'c' words
  let (lines?, words) := optionValue 'n' (words.map withLetter)
  let asked := match bytes?, lines? with
    | some count, _ => Portion.ofCount? sign true count.toList
    | none, some count => Portion.ofCount? sign false count.toList
    | none, none => none
  (asked.getD {}, (splitOptions words).2)

/-- A part of each file, with a title if there are several. -/
def part (program : String) (wanted : Option Nat) (paths : List String)
    (take : Bytes → Bytes) : Action Nat := do
  let mut shown := false
  let mut status := 0
  for path in (if paths.isEmpty then ["-"] else paths) do
    match ← content wanted path with
    | .error cause =>
      complain program ("cannot open '" ++ path ++ "' for reading: " ++ reason cause)
      status := 1
    | .ok bytes =>
      if paths.length > 1 then
        Action.print ((if shown then "\n" else "") ++ "==> " ++ path ++ " <==\n")
      shown := true
      Action.write 1 (take bytes)
  return status

/-- The beginning of each file. -/
def head : Utility := fun words =>
  let (wanted, paths) := portion '-' words
  part "head" (if wanted.inBytes && !wanted.turned then some wanted.count else none) paths
    fun bytes =>
      if wanted.inBytes then
        bytes.take (if wanted.turned then bytes.length - wanted.count else wanted.count)
      else
        let lines := byteLines bytes
        (lines.take (if wanted.turned then lines.length - wanted.count else wanted.count)).flatten

/-- The end of each file. -/
def tail : Utility := fun words =>
  let (wanted, paths) := portion '+' words
  part "tail" none paths fun bytes =>
    if wanted.inBytes then
      bytes.drop (if wanted.turned then wanted.count - 1 else bytes.length - wanted.count)
    else
      let lines := byteLines bytes
      (lines.drop (if wanted.turned then wanted.count - 1 else lines.length - wanted.count)).flatten

/-- The ranges of a list of numbers, each with or without its ends. -/
def ranges? (text : String) : Option (List (Nat × Option Nat)) :=
  (pieces ',' text).mapM fun piece =>
    match cut? "-" piece with
    | none => (digitsValue? piece.toList).map fun n => (n, some n)
    | some (first, last) => do
      let first ← if first = "" then some 1 else digitsValue? first.toList
      if last = "" then some (first, none)
      else (digitsValue? last.toList).map fun n => (first, some n)

/-- The items of a list, counted from one, that are in some ranges. -/
def select {α : Type} (ranges : List (Nat × Option Nat)) (items : List α) : List α :=
  (items.zipIdx 1).filterMap fun (item, n) =>
    if ranges.any fun (first, last) => first ≤ n && last.all (n ≤ ·) then some item else none

/-- Parts of each line: bytes, or fields between separators. -/
def cut : Utility := fun words => do
  let (separator?, words) := optionValue 'd' words
  let (fields?, words) := optionValue 'f' words
  let (bytes?, words) := optionValue 'c' words
  let (_, paths) := splitOptions words
  let print := fun (take : Bytes → Bytes) => do
    let fine ← eachContent none paths (complainOf "cut") fun _ bytes => do
      for line in byteLines bytes do
        Action.write 1 (take (bareLine line) ++ [10])
    return if fine then 0 else 1
  match fields?.bind ranges?, bytes?.bind ranges? with
  | some ranges, _ =>
    let separator := (separator?.bind fun s => s.toList.head?).getD '\t'
    print fun line =>
      let fields := splitOn separator (Utf8.decodeLossy line).toList
      if fields.length = 1 then line
      else Utf8.encode (String.ofList ([separator].intercalate (select ranges fields)))
  | none, some ranges => print (select ranges)
  | none, none => do
    complainOfUse "cut" "you must specify a list of bytes, characters, or fields"
    return 1

/-! ### Counts and order -/

/-- The counts of lines, words and bytes of each file, as far as they are asked for. -/
def wc : Utility := fun words => do
  let (letters, paths) := splitOptions words
  let wanted := fun c => letters.contains c || letters.isEmpty
  let counts := fun bytes : Bytes =>
    (if wanted 'l' then [bytes.count 10] else []) ++
    (if wanted 'w' then [(Text.words (Utf8.decodeLossy bytes).toList).length] else []) ++
    (if wanted 'c' then [bytes.length] else [])
  let files := (← get).files
  let sizes := paths.map fun path => ((files.read path).toOption.map List.length).getD 0
  let width :=
    if paths.length ≤ 1 && (counts []).length = 1 then 0
    else if paths.isEmpty then 7
    else (Text.ofNat (sizes.foldl (· + ·) 0)).length
  let show_ := fun (counts : List Nat) name =>
    Action.print (" ".intercalate (counts.map fun n => right width (Text.ofNat n)) ++
      (if name = "" then "" else " " ++ name) ++ "\n")
  let mut totals := (counts []).map fun _ => 0
  let mut status := 0
  for path in (if paths.isEmpty then ["-"] else paths) do
    match ← content none path with
    | .error cause =>
      complainOf "wc" path cause
      status := 1
    | .ok bytes =>
      totals := List.zipWith (· + ·) totals (counts bytes)
      show_ (counts bytes) (if paths.isEmpty then "" else path)
  if paths.length > 1 then show_ totals "total"
  return status

/-- The number at the front of a line. -/
def leadingNumber (line : Bytes) : Int :=
  match Numeral.leading? (Utf8.decodeLossy line).toList with
  | some (n, _) => n
  | none => 0

/-- The order of bytes. -/
def bytesAtMost : Bytes → Bytes → Bool
  | [], _ => true
  | _ :: _, [] => false
  | a :: as, b :: bs => a < b || (a = b && bytesAtMost as bs)

/-- Lines in ascending order. -/
def sort : Utility := fun words => do
  let (letters, paths) := splitOptions words
  let has := letters.contains
  let mut lines : List Bytes := []
  for path in (if paths.isEmpty then ["-"] else paths) do
    match ← content none path with
    | .ok bytes => lines := lines ++ (byteLines bytes).map bareLine
    | .error cause =>
      complain "sort" ("cannot read: " ++ path ++ ": " ++ reason cause)
      return 2
  let inOrder := fun a b : Bytes =>
    if has 'n' && leadingNumber a != leadingNumber b then
      decide (leadingNumber a ≤ leadingNumber b)
    else bytesAtMost a b
  let sorted := lines.mergeSort (if has 'r' then fun a b => inOrder b a else inOrder)
  for line in (if has 'u' then sorted.eraseReps else sorted) do
    Action.write 1 (line ++ [10])
  return 0

/-! ### Characters -/

/-- The characters of a set as it is written, with a bound on its length. -/
def characters : Nat → List Char → List Char
  | 0, _ => []
  | _, [] => []
  | n + 1, '[' :: ':' :: s =>
    match split? [':', ']'] s with
    | some (name, rest) =>
      ((Regular.namedClass? (String.ofList name)).getD []).flatMap
        (fun (lo, hi) => between lo hi) ++ characters n rest
    | none => '[' :: characters n (':' :: s)
  | n + 1, s =>
    let (first, rest) := character s
    match rest with
    | '-' :: last :: further =>
      let (last, left) := character (last :: further)
      between first last ++ characters n left
    | rest => first :: characters n rest
where
  /-- The characters from one to another. -/
  between (lo hi : Char) : List Char :=
    (List.range (hi.toNat + 1 - lo.toNat)).map fun n => Char.ofNat (lo.toNat + n)
  /-- A character that may be escaped, and what comes after it. -/
  character : List Char → Char × List Char
    | '\\' :: c :: rest =>
      match Printing.escape (c :: rest) with
      | ([b], left) => if left = c :: rest then (c, rest) else (Char.ofNat b.toNat, left)
      | _ => (c, rest)
    | c :: rest => (c, rest)
    | [] => ('\x00', [])

/-- Characters put in the place of others, or left out. -/
def tr : Utility := fun words => do
  let (letters, sets) :=
    match words with
    | options :: rest =>
      if isOption options && options != "--" then (options.toList.tail, rest)
      else (([] : List Char), words.filter (· != "--"))
    | [] => ([], [])
  let text := (Utf8.decodeLossy (← get).input).toList
  modify fun process => { process with input := [] }
  let set := fun s : String => characters (s.length + 1) s.toList
  let inside := fun (first : List Char) c => first.contains c != letters.contains 'c'
  let squeeze := fun (wanted : List Char) (s : List Char) =>
    s.foldr (fun c rest => if wanted.contains c && rest.head? = some c then rest else c :: rest) []
  let write := fun s : List Char => Action.print (String.ofList s)
  match sets with
  | [] =>
    complainOfUse "tr" "missing operand"
    return 1
  | [first] =>
    if letters.contains 'd' then
      write (text.filter fun c => !inside (set first) c)
      return 0
    else if letters.contains 's' then
      write (squeeze (text.filter (inside (set first))) text)
      return 0
    else
      complain "tr" ("missing operand after '" ++ first ++ "'")
      Action.printError ("Two strings must be given when translating.\n" ++
        "Try 'tr --help' for more information.\n")
      return 1
  | first :: second :: _ =>
    match (set second).getLast? with
    | none =>
      complain "tr" "when not truncating set1, string2 must be non-empty"
      return 1
    | some last =>
      let replaced := text.map fun c =>
        if letters.contains 'c' then (if (set first).contains c then c else last)
        else
          match (set first).idxOf? c with
          | some n => ((set second)[n]?).getD last
          | none => c
      write (if letters.contains 's' then squeeze (set second) replaced else replaced)
      return 0

/-! ### Searching -/

/-- The expressions on a command line, and the files. -/
def searched (words : List String) : List String × List String :=
  match optionValue 'e' words with
  | (some pattern, rest) =>
    let (further, paths) := match optionValue 'e' rest with
      | (some another, rest) => ([another], rest)
      | (none, rest) => ([], rest)
    (pattern :: further, (splitOptions paths).2)
  | (none, _) =>
    match (splitOptions words).2 with
    | pattern :: paths => (Text.pieces '\n' pattern, paths)
    | [] => ([], [])

/-- A text in small letters, those beyond the basic alphabet aside. -/
def small (s : String) : List Char := s.toList.map Char.toLower

/-- Lines in which an expression occurs. -/
def grep : Utility := fun words => do
  let (letters, _) := splitOptions words
  let (patterns, paths) := searched words
  let has := letters.contains
  let plain := fun s : String => if has 'i' then small s else s.toList
  let expressions? := patterns.mapM fun p =>
    if has 'F' then some (Regular.literal (plain p)) else Regular.read? (has 'E') (plain p)
  match patterns, expressions? with
  | [], _ | _, none => do
    Action.printError ("Usage: grep [OPTION]... PATTERNS [FILE]...\n" ++
      "Try 'grep --help' for more information.\n")
    return 2
  | _, some expressions => do
    let found := fun line : Bytes =>
      let text := plain (Utf8.decodeLossy (bareLine line))
      (expressions.any fun e => if has 'x' then e.accepts text else e.occursIn text) != has 'v'
    let named := paths.length > 1
    let mut any := false
    let mut fine := true
    for path in (if paths.isEmpty then ["-"] else paths) do
      match ← content none path with
      | .error cause =>
        unless has 's' do complainOf "grep" path cause
        fine := false
      | .ok bytes =>
        let hits := ((byteLines bytes).zipIdx 1).filter fun (line, _) => found line
        any := any || !hits.isEmpty
        let front := if named then path ++ ":" else ""
        if has 'q' then pure ()
        else if has 'l' then
          unless hits.isEmpty do Action.print (path ++ "\n")
        else if has 'c' then Action.print (front ++ Text.ofNat hits.length ++ "\n")
        else
          for (line, n) in hits do
            Action.write 1 (Utf8.encode (front ++ if has 'n' then Text.ofNat n ++ ":" else "") ++
              bareLine line ++ [10])
    return if any && (fine || has 'q') then 0 else if fine then 1 else 2

end VerifierTrials.Shell.Utility
