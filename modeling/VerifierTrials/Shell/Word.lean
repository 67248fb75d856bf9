import VerifierTrials.Shell.Token
import VerifierTrials.Text.Regular

/-!
# Words

A word as it is written is a sequence of **pieces**: characters that may have a meaning,
characters that quotes protect, and substitutions. Evaluating the pieces gives **glyphs**,
which remember where they come from, because only blanks out of an unquoted substitution
separate fields, and only unquoted wildcards are any. The glyphs of a word make up its
**fields** (`fieldsOf`); those of a pattern are matched against a text (`Pattern.accepts`).
-/

namespace VerifierTrials.Shell

/-! ### Pieces -/

/-- **A piece of a word.** -/
inductive Piece where
  /-- A character that may have a meaning. -/
  | plain (c : Char)
  /-- A character that stands for itself. -/
  | quoted (c : Char)
  /-- Quotes around nothing. -/
  | void
  /-- The value of a parameter. -/
  | parameter (quoted : Bool) (text : List Char)
  /-- The output of a script. -/
  | output (quoted : Bool) (script : List Char)
  /-- The value of a formula. -/
  | number (quoted : Bool) (formula : List Char)
  deriving Repr

/-- The parameters that have a name of one special character. -/
def isSpecialName (c : Char) : Bool :=
  c = '#' || c = '?' || c = '@' || c = '*' || c = '$' || c = '!' || c = '-' || c.isDigit

/-- A script in backquotes without the backslashes that protect its own. -/
def unescapedScript : List Char → List Char
  | '\\' :: c :: cs =>
    if c = '\x60' || c = '\\' || c = '$' then c :: unescapedScript cs
    else '\\' :: c :: unescapedScript cs
  | c :: cs => c :: unescapedScript cs
  | [] => []

/-- The substitution after a dollar sign, and what comes after it. -/
def substitution? (quoted : Bool) : List Char → Option (Piece × List Char)
  | '(' :: '(' :: cs =>
    let (inner, _, rest) := extent [.parenthesis, .parenthesis] cs
    some (.number quoted (inner.take (inner.length - 2)), rest)
  | '(' :: cs =>
    let (inner, _, rest) := extent [.parenthesis] cs
    some (.output quoted inner.dropLast, rest)
  | '\x7b' :: cs =>
    let (inner, _, rest) := extent [.brace] cs
    some (.parameter quoted inner.dropLast, rest)
  | c :: cs =>
    if isSpecialName c then some (.parameter quoted [c], cs)
    else if c.isAlpha || c = '_' then
      some (.parameter quoted (c :: cs.takeWhile isNameChar), cs.dropWhile isNameChar)
    else none
  | [] => none

/-- A backslash takes away the meaning of these characters inside double quotes. -/
def isEscapable (c : Char) : Bool := c = '$' || c = '\x60' || c = '"' || c = '\\'

/-- The pieces from here on, inside or outside of double quotes, with a bound on their
number. -/
def piecesFrom : Nat → Bool → List Char → List Piece
  | 0, _, _ => []
  | _, _, [] => []
  | n + 1, quoted, '\\' :: '\n' :: cs => piecesFrom n quoted cs
  | n + 1, true, '\\' :: c :: cs =>
    if isEscapable c then .quoted c :: piecesFrom n true cs
    else .quoted '\\' :: .quoted c :: piecesFrom n true cs
  | n + 1, false, '\\' :: c :: cs => .quoted c :: piecesFrom n false cs
  | n + 1, false, '"' :: '"' :: cs => .void :: piecesFrom n false cs
  | n + 1, quoted, '"' :: cs => piecesFrom n (!quoted) cs
  | n + 1, false, '\'' :: cs =>
    let inner := cs.takeWhile (· != '\'')
    (if inner.isEmpty then [.void] else inner.map .quoted) ++
      piecesFrom n false (cs.drop (inner.length + 1))
  | n + 1, quoted, '\x60' :: cs =>
    let (inner, _, rest) := extent [.backquote] cs
    .output quoted (unescapedScript inner.dropLast) :: piecesFrom n quoted rest
  | n + 1, quoted, '$' :: cs =>
    match substitution? quoted cs with
    | some (piece, rest) => piece :: piecesFrom n quoted rest
    | none => (if quoted then .quoted '$' else .plain '$') :: piecesFrom n quoted cs
  | n + 1, quoted, c :: cs =>
    (if quoted then .quoted c else .plain c) :: piecesFrom n quoted cs

/-- **The pieces of a word.** -/
def piecesOf (word : Word) : List Piece := piecesFrom (word.length + 1) false word

/-- The pieces of a text that is read as if double quotes stood around it: only the quote
itself has no meaning there. -/
def piecesOfText (text : List Char) : List Piece :=
  piecesFrom (2 * text.length + 1) true
    (text.flatMap fun c => if c = '"' then ['\\', '"'] else [c])

/-! ### Glyphs and fields -/

/-- **A character of a word that has been evaluated.** -/
inductive Glyph where
  /-- As it is written, without quotes. -/
  | plain (c : Char)
  /-- Protected by quotes. -/
  | quoted (c : Char)
  /-- Out of a substitution, without quotes. -/
  | value (c : Char)
  /-- No character, but a field even so. -/
  | void
  /-- Between two arguments of the script. -/
  | boundary
  deriving DecidableEq, Repr

/-- The character of a glyph. -/
def Glyph.char? : Glyph → Option Char
  | .plain c | .quoted c | .value c => some c
  | _ => none

/-- The text of glyphs, arguments being joined by blanks. -/
def textOf (glyphs : List Glyph) : String :=
  String.ofList (glyphs.filterMap fun glyph =>
    if glyph = .boundary then some ' ' else glyph.char?)

/-- **What separates fields**: blanks, any number of which separate once, and other
characters, each of which separates. -/
structure Separators where
  blanks : List Char := [' ', '\t', '\n']
  marks : List Char := []
  deriving Repr

/-- The separators that a text gives. -/
def Separators.ofText (text : String) : Separators :=
  let isBlank := fun c => c = ' ' || c = '\t' || c = '\n'
  ⟨text.toList.filter isBlank, text.toList.filter fun c => !isBlank c⟩

/-- How far a word has been divided: the field that has begun, last glyph first, and whether
blanks have just ended one. -/
structure Division where
  begun : Option (List Glyph) := none
  afterBlanks : Bool := false

/-- The field that has begun, if one has. -/
def Division.field (division : Division) : List (List Glyph) :=
  (division.begun.map List.reverse).toList

/-- One more glyph in the field. -/
def Division.extend (division : Division) (glyphs : List Glyph) : Division :=
  { begun := some (glyphs ++ division.begun.getD []) }

/-- The fields from here on. -/
def fieldsFrom (separators : Separators) : Division → List Glyph → List (List Glyph)
  | division, [] => division.field
  | division, glyph :: rest =>
    match glyph with
    | .boundary => division.field ++ fieldsFrom separators {} rest
    | .void => fieldsFrom separators (division.extend []) rest
    | .value c =>
      if separators.blanks.contains c then
        division.field ++ fieldsFrom separators
          { afterBlanks := division.afterBlanks || division.begun.isSome } rest
      else if separators.marks.contains c then
        (if division.begun.isNone && !division.afterBlanks then [[]] else division.field) ++
          fieldsFrom separators {} rest
      else fieldsFrom separators (division.extend [glyph]) rest
    | _ => fieldsFrom separators (division.extend [glyph]) rest

/-- **The fields of a word.** -/
def fieldsOf (separators : Separators) (glyphs : List Glyph) : List (List Glyph) :=
  fieldsFrom separators {} glyphs

/-- The first fields of a line, as many as are wanted, and the rest of it as the last one,
without the separators around it. -/
def leadingFields (separators : Separators) : Nat → List Glyph → List (List Glyph)
  | 0, _ => []
  | 1, glyphs =>
    let isBlank := fun glyph : Glyph => separators.blanks.any fun c => glyph = .value c
    let isMark := fun glyph : Glyph => separators.marks.any fun c => glyph = .value c
    let last := glyphs.dropWhile isBlank
    let text := (last.reverse.dropWhile isBlank).reverse
    [match text.reverse with
      | mark :: before =>
        if isMark mark && before.all fun glyph => !isMark glyph && !isBlank glyph then
          before.reverse
        else text
      | [] => text]
  | n + 2, glyphs =>
    let isBlank := fun glyph : Glyph => separators.blanks.any fun c => glyph = .value c
    let isMark := fun glyph : Glyph => separators.marks.any fun c => glyph = .value c
    let text := glyphs.dropWhile isBlank
    let field := text.takeWhile fun glyph => !isBlank glyph && !isMark glyph
    let rest := (text.drop field.length).dropWhile isBlank
    let rest := match rest with
      | mark :: further => if isMark mark then further else rest
      | [] => []
    field :: leadingFields separators (n + 1) rest

/-! ### Patterns -/

/-- One place of a pattern. -/
inductive Slot where
  | exactly (c : Char)
  | anyOne
  | anyMany
  /-- One character in one of the ranges, or in none of them. -/
  | oneOf (negated : Bool) (ranges : List (Char × Char))
  deriving Repr

/-- A pattern of the shell. -/
abbrev Pattern := List Slot

namespace Pattern

/-- Glyphs as a pattern takes them: the characters of a substitution may have a meaning like
those that are written down, and a backslash among them takes it from the next one. -/
def meant : List Glyph → List Glyph
  | [] => []
  | .value '\\' :: .value c :: rest => .quoted c :: meant rest
  | .value c :: rest => .plain c :: meant rest
  | .plain c :: rest => .plain c :: meant rest
  | .quoted c :: rest => .quoted c :: meant rest
  | .boundary :: rest => .quoted ' ' :: meant rest
  | _ :: rest => meant rest

/-- The name up to a colon and the bracket behind it, and what comes after them. -/
def className? : List Glyph → Option (List Char × List Glyph)
  | .plain ':' :: .plain ']' :: rest => some ([], rest)
  | .plain c :: rest =>
    if c.isAlpha then (className? rest).map fun (name, left) => (c :: name, left) else none
  | _ => none

/-- The ranges of a class that is given by its name, between a bracket with a colon and a colon
with a bracket, and what comes after it. -/
def namedRanges? : List Glyph → Option (List (Char × Char) × List Glyph)
  | .plain '[' :: .plain ':' :: rest => do
    let (name, left) ← className? rest
    return (← Text.Regular.namedClass? (String.ofList name), left)
  | _ => none

/-- The ranges in brackets up to the closing one, and what comes after it, with a bound on
their number. A bracket at the front and a dash at either end stand for themselves. -/
def ranges? : Nat → Bool → List Glyph → Option (List (Char × Char) × List Glyph)
  | 0, _, _ => none
  | _, _, [] => none
  | n + 1, fresh, glyph :: rest => do
    let next := fun (first : List (Char × Char)) (rest : List Glyph) =>
      (ranges? n false rest).map fun (further, left) => (first ++ further, left)
    let c ← glyph.char?
    if glyph = .plain ']' && !fresh then return ([], rest)
    match namedRanges? (glyph :: rest) with
    | some (ranges, left) => next ranges left
    | none =>
      match rest with
      | .plain '-' :: last :: further =>
        if last = .plain ']' then next [(c, c)] rest
        else next [(c, ← last.char?)] further
      | rest => next [(c, c)] rest

/-- The slots of glyphs, with a bound on their number. -/
def slots : Nat → List Glyph → Pattern
  | 0, _ => []
  | _, [] => []
  | n + 1, glyph :: rest =>
    match glyph with
    | .plain c =>
      if c = '*' then .anyMany :: slots n rest
      else if c = '?' then .anyOne :: slots n rest
      else if c = '[' then
        let negated := rest.head? = some (.plain '!')
        match ranges? (rest.length + 1) true (if negated then rest.tail else rest) with
        | some (ranges, left) => .oneOf negated ranges :: slots n left
        | none => .exactly c :: slots n rest
      else .exactly c :: slots n rest
    | .quoted c => .exactly c :: slots n rest
    | _ => slots n rest

/-- **The pattern that glyphs make up.** -/
def ofGlyphs (glyphs : List Glyph) : Pattern := slots (glyphs.length + 1) (meant glyphs)

/-- **Whether a pattern matches a text**, all of it. -/
def accepts : Pattern → List Char → Bool
  | [], s => s.isEmpty
  | .anyMany :: rest, [] => accepts rest []
  | .anyMany :: rest, c :: cs => accepts rest (c :: cs) || accepts (.anyMany :: rest) cs
  | .exactly d :: rest, c :: cs => c = d && accepts rest cs
  | .anyOne :: rest, _ :: cs => accepts rest cs
  | .oneOf negated ranges :: rest, c :: cs =>
    (ranges.any (fun (lo, hi) => lo ≤ c && c ≤ hi) != negated) && accepts rest cs
  | _ :: _, [] => false
  termination_by pattern s => (s.length, pattern.length)

/-- Whether a pattern has a wildcard at all. -/
def isWild (pattern : Pattern) : Bool :=
  pattern.any fun slot =>
    match slot with
    | .exactly _ => false
    | _ => true

/-- A text without the longest or the shortest beginning that a pattern matches. -/
def withoutStart (pattern : Pattern) (longest : Bool) (s : List Char) : List Char :=
  let cuts := List.range (s.length + 1)
  match (if longest then cuts.reverse else cuts).find? fun n => pattern.accepts (s.take n) with
  | some n => s.drop n
  | none => s

/-- A text without the longest or the shortest end that a pattern matches. -/
def withoutEnd (pattern : Pattern) (longest : Bool) (s : List Char) : List Char :=
  let cuts := List.range (s.length + 1)
  match (if longest then cuts else cuts.reverse).find? fun n => pattern.accepts (s.drop n) with
  | some n => s.take n
  | none => s

end Pattern

end VerifierTrials.Shell
