import VerifierTrials.Text.Basic

/-!
# Regular expressions

Expressions that texts are searched for. They come in two notations, the **basic** one, in
which most characters stand for themselves unless a backslash gives them a meaning, and the
**extended** one, in which it is the other way round. Both have the same symbols, of which
an expression is read (`Regular.read?`).

An expression is matched by what may be left of a text after it (`Regular.rests`), so that
alternatives need no order.
-/

namespace VerifierTrials.Text

/-- **A regular expression.** -/
inductive Regular where
  /-- The empty text. -/
  | empty
  /-- One character in one of the ranges, or in none of them. -/
  | one (negated : Bool) (ranges : List (Char × Char))
  | atStart
  | atEnd
  | sequence (first second : Regular)
  | either (first second : Regular)
  /-- At least so many times, and at most so many more, if there is a bound. -/
  | repetition (body : Regular) (least : Nat) (more : Option Nat)
  deriving DecidableEq, Repr

namespace Regular

/-! ### Symbols -/

/-- A symbol of an expression. -/
inductive Symbol where
  | single (expression : Regular)
  | repeated (least : Nat) (more : Option Nat)
  | opening
  | closing
  | bar
  deriving DecidableEq, Repr

/-- One character as an expression. -/
def character (c : Char) : Regular := .one false [(c, c)]

/-- The ranges of a named class of characters. -/
def namedClass? : String → Option (List (Char × Char))
  | "alpha" => some [('a', 'z'), ('A', 'Z')]
  | "digit" => some [('0', '9')]
  | "alnum" => some [('a', 'z'), ('A', 'Z'), ('0', '9')]
  | "upper" => some [('A', 'Z')]
  | "lower" => some [('a', 'z')]
  | "space" => some [(' ', ' '), ('\t', '\r')]
  | "blank" => some [(' ', ' '), ('\t', '\t')]
  | "punct" => some [('!', '/'), (':', '@'), ('[', '\x60'), ('\x7b', '~')]
  | "xdigit" => some [('0', '9'), ('a', 'f'), ('A', 'F')]
  | _ => none

/-- The ranges in brackets up to the closing one, and what comes after it, with a bound on
their number. A bracket at the front stands for itself. -/
def ranges? : Nat → Bool → List Char → Option (List (Char × Char) × List Char)
  | 0, _, _ => none
  | _, _, [] => none
  | n + 1, _, '[' :: ':' :: s => do
    let (name, rest) ← split? [':', ']'] s
    let (further, left) ← ranges? n false rest
    return ((← namedClass? (String.ofList name)) ++ further, left)
  | n + 1, fresh, c :: s =>
    if c = ']' && !fresh then some ([], s)
    else do
      match s with
      | '-' :: d :: rest =>
        if d = ']' then
          let (further, left) ← ranges? n false s
          return ((c, c) :: further, left)
        else
          let (further, left) ← ranges? n false rest
          return ((c, d) :: further, left)
      | _ =>
        let (further, left) ← ranges? n false s
        return ((c, c) :: further, left)

/-- The bounds of a repetition, given as numbers with a comma. -/
def bounds? (text : List Char) : Option Symbol :=
  match split? [','] text with
  | none => (digitsValue? text).map fun n => .repeated n (some 0)
  | some (least, most) => do
    let least ← if least.isEmpty then some 0 else digitsValue? least
    if most.isEmpty then return .repeated least none
    let most ← digitsValue? most
    if most < least then none else return .repeated least (some (most - least))

/-- The symbol that a character with a meaning is. -/
def meaning? : Char → Option Symbol
  | '+' => some (.repeated 1 none)
  | '?' => some (.repeated 0 (some 1))
  | '(' => some .opening
  | ')' => some .closing
  | '|' => some .bar
  | _ => none

/-- Whether an anchor or a star has its meaning after a symbol: in the basic notation a caret
has one only at the front, where a star has none. -/
def isFront : Option Symbol → Bool
  | none | some .opening | some .bar => true
  | some _ => false

/-- Whether a dollar sign is an anchor before a text: in the basic notation only at the end. -/
def isBack (s : List Char) : Bool :=
  s.isEmpty || ['\\', ')'].isPrefixOf s || ['\\', '|'].isPrefixOf s

/-- The symbols of an expression, given the one before, with a bound on their number. -/
def symbols? (extended : Bool) : Nat → Option Symbol → List Char → Option (List Symbol)
  | 0, _, _ => none
  | _, _, [] => some []
  | n + 1, latest, c :: s =>
    let next := fun (symbol : Symbol) (rest : List Char) =>
      (symbols? extended n (some symbol) rest).map (symbol :: ·)
    let itself := fun _ : Unit => next (.single (character c)) s
    if c = '[' then do
      let negated := s.head? = some '^'
      let (ranges, rest) ← ranges? (s.length + 1) true (if negated then s.tail else s)
      next (.single (.one negated ranges)) rest
    else if c = '.' then next (.single (.one true [])) s
    else if c = '*' then
      if isFront latest || latest = some (.single .atStart) then itself ()
      else next (.repeated 0 none) s
    else if c = '^' then
      if extended || isFront latest then next (.single .atStart) s else itself ()
    else if c = '$' then
      if extended || isBack s then next (.single .atEnd) s else itself ()
    else if c = '\\' then
      match s with
      | [] => none
      | '\x7b' :: s =>
        if extended then next (.single (character '\x7b')) s
        else do
          let (text, rest) ← split? ['\\', '\x7d'] s
          next (← bounds? text) rest
      | d :: s =>
        match if extended then none else meaning? d with
        | some symbol => next symbol s
        | none => next (.single (character d)) s
    else if extended then
      if c = '\x7b' then do
        let (text, rest) ← split? ['\x7d'] s
        next (← bounds? text) rest
      else
        match meaning? c with
        | some symbol => next symbol s
        | none => itself ()
    else itself ()

/-! ### Reading -/

/-- An expression with the repetitions behind it, and the symbols after them. -/
def repeated : Regular → List Symbol → Regular × List Symbol
  | expression, .repeated least more :: rest => repeated (.repetition expression least more) rest
  | expression, rest => (expression, rest)

mutual

/-- Alternatives, and the symbols after them. -/
def alternatives? : Nat → List Symbol → Option (Regular × List Symbol)
  | 0, _ => none
  | n + 1, s => do
    let (first, rest) ← inOrder? n .empty s
    match rest with
    | .bar :: rest => do
      let (second, rest) ← alternatives? n rest
      return (.either first second, rest)
    | rest => return (first, rest)

/-- Expressions in order after one, and the symbols after them. -/
def inOrder? : Nat → Regular → List Symbol → Option (Regular × List Symbol)
  | 0, _, _ => none
  | n + 1, before, s =>
    match s with
    | .single expression :: rest => do
      let (expression, rest) := repeated expression rest
      inOrder? n (.sequence before expression) rest
    | .opening :: rest => do
      let (expression, rest) ← alternatives? n rest
      match rest with
      | .closing :: rest => do
        let (expression, rest) := repeated expression rest
        inOrder? n (.sequence before expression) rest
      | _ => none
    | .repeated _ _ :: rest => inOrder? n before rest
    | rest => some (before, rest)

end

/-- **The expression that a text is** in one of the notations. -/
def read? (extended : Bool) (text : List Char) : Option Regular := do
  let s ← symbols? extended (text.length + 1) none text
  match ← alternatives? (3 * s.length + 3) s with
  | (expression, []) => some expression
  | _ => none

/-- The expression that stands for a text itself. -/
def literal (text : List Char) : Regular :=
  text.foldr (fun c rest => .sequence (character c) rest) .empty

/-! ### Matching -/

/-- A place in a text: whether it is the start, and what comes after it. -/
abbrev Place := Bool × List Char

/-- The places that any number of rounds leads to, with a bound on the rounds. -/
def closure (step : Place → List Place) : Nat → List Place → List Place
  | 0, places => places
  | n + 1, places =>
    let next := (places ++ places.flatMap step).eraseDups
    if next.length = places.length then places else closure step n next

/-- The places that a number of rounds leads to. -/
def iterated (step : Place → List Place) : Nat → List Place → List Place
  | 0, places => places
  | n + 1, places => iterated step n (places.flatMap step).eraseDups

/-- **Where an expression may end** that begins at a place. -/
def rests : Regular → Place → List Place
  | empty, place => [place]
  | one negated ranges, (_, s) =>
    match s with
    | c :: s => if ranges.any (fun (lo, hi) => lo ≤ c && c ≤ hi) != negated then [(false, s)] else []
    | [] => []
  | atStart, place => if place.1 then [place] else []
  | atEnd, place => if place.2.isEmpty then [place] else []
  | sequence first second, place => (rests first place).flatMap (rests second)
  | either first second, place => rests first place ++ rests second place
  | repetition body least more, place =>
    closure (rests body) (more.getD (place.2.length + 1)) (iterated (rests body) least [place])

/-- **Whether an expression occurs in a text** from a place on. -/
def occursFrom (expression : Regular) : Bool → List Char → Bool
  | start, [] => !(expression.rests (start, [])).isEmpty
  | start, c :: s => !(expression.rests (start, c :: s)).isEmpty || occursFrom expression false s

/-- Whether an expression occurs in a text. -/
def occursIn (expression : Regular) (s : List Char) : Bool := expression.occursFrom true s

/-- Whether an expression matches a text, all of it. -/
def accepts (expression : Regular) (s : List Char) : Bool :=
  (expression.rests (true, s)).any fun place => place.2.isEmpty

end Regular

end VerifierTrials.Text
