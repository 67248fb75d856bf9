import VerifierTrials.Toml.Scalar

/-!
# Documents of the configuration language

A document is a sequence of lines: names with values, and headers that say which
table the names after them belong to. Values nest, and the nesting is bounded
(`nestingBound`), which is what the reading of arrays and braced tables recurs on;
the length of the text bounds everything that only goes on.
-/

namespace VerifierTrials.Toml

open VerifierTrials.Text

/-- How deep values may nest, and how long a dotted name may be. -/
def nestingBound : Nat := 80

/-! ### Between values -/

/-- A text without the blanks at its front. -/
def skipBlanks (s : List Char) : List Char := s.dropWhile fun c => c = ' ' || c = '\t'

/-- What follows a comment, up to the line break that ends it. -/
def skipComment? (s : List Char) : Option (List Char) :=
  let body := s.takeWhile fun c => c != '\n' && c != '\r'
  if body.all isPlain then some (s.drop body.length) else none

/-- What follows the blanks, line breaks and comments at the front of a text, as they
may stand between the items of an array. -/
def skipFill? : Nat → List Char → Option (List Char)
  | 0, s => some s
  | n + 1, s =>
    match s.drop (fillLength s) with
    | '#' :: body => (skipComment? body).bind (skipFill? n)
    | rest => some rest

/-- What follows the end of a line, with or without a comment before it. -/
def endLine? (s : List Char) : Option (List Char) := do
  let rest ← match skipBlanks s with
    | '#' :: body => skipComment? body
    | rest => some rest
  if rest.isEmpty then some []
  else if breakLength rest = 0 then none
  else some (rest.drop (breakLength rest))

/-! ### Names -/

/-- A character of a name without quotes. -/
def isNameChar (c : Char) : Bool := c.isAlphanum || c = '_' || c = '-'

/-- One part of a name. -/
def readPart? (s : List Char) : Option (String × List Char) :=
  match s with
  | '"' :: _ | '\'' :: _ => (readShortString? s).map fun (part, rest) => (String.ofList part, rest)
  | _ =>
    let part := s.takeWhile isNameChar
    if part.isEmpty then none else some (String.ofList part, s.drop part.length)

/-- The parts of a dotted name, at most so many. -/
def readParts? : Nat → List Char → Option (List String × List Char)
  | 0, _ => none
  | n + 1, s => do
    let (part, rest) ← readPart? (skipBlanks s)
    match skipBlanks rest with
    | '.' :: further =>
      let (parts, rest) ← readParts? n further
      some (part :: parts, rest)
    | rest => some ([part], rest)

/-- **A dotted name**: the path of tables and the last part. -/
def readName? (s : List Char) : Option ((List String × String) × List Char) := do
  let (parts, rest) ← readParts? (nestingBound - 1) s
  let last ← parts.getLast?
  some ((parts.dropLast, last), rest)

/-! ### Values -/

section Nested

variable (inner : List Char → Option (Value × List Char))

/-- The items of an array up to its closing bracket. A comma may follow the last. -/
def readItems? : Nat → List Char → Option (List Value × List Char)
  | 0, _ => none
  | n + 1, s => do
    match ← skipFill? s.length s with
    | ']' :: rest => some ([], rest)
    | start =>
      let (item, rest) ← inner start
      match ← skipFill? rest.length rest with
      | ',' :: rest =>
        let (items, rest) ← readItems? n rest
        some (item :: items, rest)
      | ']' :: rest => some ([item], rest)
      | _ => none

/-- The names of a braced table up to its closing brace, at least one. -/
def readEntries? : Nat → Entries → List Char → Option (Entries × List Char)
  | 0, _, _ => none
  | n + 1, entries, s => do
    let ((path, name), rest) ← readName? s
    match rest with
    | '=' :: rest =>
      let (value, rest) ← inner (skipBlanks rest)
      let entries ← Entries.assign path name value .braced entries
      match skipBlanks rest with
      | ',' :: rest => readEntries? n entries rest
      | '\x7d' :: rest => some (entries, rest)
      | _ => none
    | _ => none

/-- A value, given how to read the values inside it. -/
def readValueWith? : List Char → Option (Value × List Char)
  | '[' :: s => (readItems? inner (s.length + 1) s).map fun (items, rest) => (.array items, rest)
  | '\x7b' :: s =>
    match skipBlanks s with
    | '\x7d' :: rest => some (.table .braced [], rest)
    | start =>
      (readEntries? inner (s.length + 1) [] start).map fun (entries, rest) =>
        (.table .braced entries, rest)
  | s =>
    match s with
    | '"' :: _ | '\'' :: _ =>
      (readString? s).map fun (text, rest) => (.string (String.ofList text), rest)
    | _ =>
      let (word, rest) := readWord s
      (wordValue? word).map fun value => (value, rest)

end Nested

/-- **A value**, the number bounding its nesting. -/
def readValue? : Nat → List Char → Option (Value × List Char)
  | 0 => fun _ => none
  | 1 => fun s =>
    match s with
    | '[' :: _ | '\x7b' :: _ => none
    | _ => readValueWith? (fun _ => none) s
  | n + 2 => readValueWith? (readValue? (n + 1))

/-! ### Lines -/

/-- A document being read: its entries, and the header in force. -/
structure Draft where
  entries : Entries := []
  header : List String := []
  deriving Repr

/-- A name defined under the header in force. -/
def Draft.define (draft : Draft) (path : List String) (name : String) (value : Value) :
    Option Draft := do
  let entries ← Entries.alter .implied (Entries.assign path name value) .headed draft.entries
    draft.header
  some { draft with entries }

/-- A header, plain or repeated. -/
def Draft.open (draft : Draft) (repeated : Bool) (path : List String) (name : String) :
    Option Draft := do
  let change := if repeated then Entries.openNext name else Entries.openTable name
  let entries ← Entries.alter .implied change .headed draft.entries path
  some ⟨entries, path ++ [name]⟩

/-- A header from its first bracket on, and what follows it. -/
def readHeader? (draft : Draft) : List Char → Option (Draft × List Char)
  | '[' :: '[' :: s => do
    let ((path, name), rest) ← readName? s
    match rest with
    | ']' :: ']' :: rest => some (← draft.open true path name, rest)
    | _ => none
  | '[' :: s => do
    let ((path, name), rest) ← readName? s
    match rest with
    | ']' :: rest => some (← draft.open false path name, rest)
    | _ => none
  | _ => none

/-- A name with its value, and what follows it. -/
def readDefinition? (draft : Draft) (s : List Char) : Option (Draft × List Char) := do
  let ((path, name), rest) ← readName? s
  match rest with
  | '=' :: rest =>
    let (value, rest) ← readValue? nestingBound (skipBlanks rest)
    some (← draft.define path name value, rest)
  | _ => none

/-- The lines of a document, at most so many. -/
def readLines? : Nat → Draft → List Char → Option Entries
  | 0, _, _ => none
  | n + 1, draft, s =>
    match skipBlanks s with
    | [] => some draft.entries
    | c :: cs => do
      let (draft, rest) ←
        if c = '[' then readHeader? draft (c :: cs)
        else if c = '#' || c = '\n' || c = '\r' then some (draft, c :: cs)
        else readDefinition? draft (c :: cs)
      readLines? n draft (← endLine? rest)

/-- **The entries of a document**, or nothing when it is malformed. -/
def readDocument? (text : String) : Option Entries :=
  let s := text.toList
  readLines? (s.length + 1) {} ((stripPrefix? [Char.ofNat 0xFEFF] s).getD s)

end VerifierTrials.Toml
