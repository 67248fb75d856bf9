import VerifierTrials.Text.Utf8

/-!
# Wildcards of one path component

A **wildcard** stands for the names it matches: a question mark for one byte, a
star for any number of them, a class in brackets for one byte out of a set, and
alternatives in braces for what any of them matches. A backslash takes the next
character for itself. Names are matched byte by byte, so that a character beyond
ASCII counts as several; inside a class it contributes each of its bytes.

Some texts are no wildcard at all (`Wildcard.read?` gives nothing): a class or a
brace left open, a brace closed that was not opened, a range that runs backwards,
a backslash with nothing behind it.
-/

namespace VerifierTrials

/-- A piece of a wildcard. -/
inductive Wildcard where
  /-- These bytes. -/
  | bytes (value : Bytes)
  /-- Any one byte. -/
  | anyOne
  /-- Any number of bytes. -/
  | anyMany
  /-- One byte in one of the ranges, or in none of them. -/
  | oneOf (negated : Bool) (ranges : List (UInt8 × UInt8))
  /-- What one of the alternatives matches. -/
  | alternatives (choices : List (List Wildcard))
  deriving Repr

namespace Wildcard

/-! ### Reading -/

/-- A range of characters of a class, both ends included. -/
structure CharRange where
  first : Char
  last : Char
  deriving Repr, DecidableEq

/-- The state of reading a class: the ranges so far, last first, whether nothing has
been read yet, and whether a dash is waiting for the end of its range. -/
structure ClassState where
  ranges : List CharRange := []
  fresh : Bool := true
  pending : Bool := false
  deriving Repr, DecidableEq

/-- One more character in a class: it ends the range that a dash has opened, or is a
range of its own. A range that runs backwards is refused. -/
def ClassState.add? (state : ClassState) (c : Char) : Option ClassState :=
  match state.pending, state.ranges with
  | true, r :: rs =>
    if c < r.first then none else some ⟨⟨r.first, c⟩ :: rs, false, false⟩
  | _, rs => some ⟨⟨c, c⟩ :: rs, false, false⟩

/-- The ranges of a class and what follows its closing bracket. A bracket or a dash
at the front and a dash at the end stand for themselves. -/
def readClass? (state : ClassState) : List Char → Option (List CharRange × List Char)
  | [] => none
  | c :: cs =>
    if c = ']' && !state.fresh then
      let ranges := if state.pending then ⟨'-', '-'⟩ :: state.ranges else state.ranges
      some (ranges.reverse, cs)
    else if c = '-' && !state.fresh && !state.pending then
      readClass? { state with pending := true } cs
    else
      match state.add? c with
      | some next => readClass? next cs
      | none => none

/-- The byte ranges of a class. Of a range between characters of several bytes the
last byte of its beginning and the first byte of its end are the ends, and the
other bytes stand alone. -/
def CharRange.byteRanges (r : CharRange) : List (UInt8 × UInt8) :=
  let low := Utf8.encode (String.singleton r.first)
  let high := Utf8.encode (String.singleton r.last)
  if r.first = r.last then
    low.map fun b => (b, b)
  else
    low.dropLast.map (fun b => (b, b)) ++ [(low.getLastD 0, high.headD 0)] ++
      high.tail.map fun b => (b, b)

mutual

/-- Whether a piece matches nothing but the empty text for want of content. -/
def isVoid : Wildcard → Bool
  | bytes value => value.isEmpty
  | alternatives choices => allVoid choices
  | _ => false

/-- Whether a sequence of pieces is void. -/
def seqVoid : List Wildcard → Bool
  | [] => true
  | w :: ws => isVoid w && seqVoid ws

/-- Whether all sequences are void. -/
def allVoid : List (List Wildcard) → Bool
  | [] => true
  | c :: cs => seqVoid c && allVoid cs

end

/-- A brace still open: the alternatives read so far and the pieces before it, both
last first. -/
structure OpenBrace where
  choices : List (List Wildcard)
  before : List Wildcard
  deriving Repr

/-- The pieces from here on, given the current ones, last first, and the open braces,
innermost first. The number bounds the characters to be read. -/
def readPieces? : Nat → List Wildcard → List OpenBrace → List Char → Option (List Wildcard)
  | _, pieces, braces, [] => if braces.isEmpty then some pieces.reverse else none
  | 0, _, _, _ => none
  | n + 1, pieces, braces, c :: cs =>
    if c = '?' then readPieces? n (anyOne :: pieces) braces cs
    else if c = '*' then readPieces? n (anyMany :: pieces) braces cs
    else if c = '[' then
      let negated := cs.head? = some '!' || cs.head? = some '^'
      match readClass? {} (if negated then cs.tail else cs) with
      | some (ranges, rest) =>
        readPieces? n (oneOf negated (ranges.flatMap CharRange.byteRanges) :: pieces) braces rest
      | none => none
    else if c = '\x7b' then readPieces? n [] (⟨[], pieces⟩ :: braces) cs
    else if c = '\x7d' then
      match braces with
      | brace :: outer =>
        let choices := (pieces.reverse :: brace.choices).reverse
        readPieces? n (alternatives choices :: brace.before) outer cs
      | [] => none
    else if c = ',' && !braces.isEmpty then
      match braces with
      | brace :: outer =>
        readPieces? n [] ({ brace with choices := pieces.reverse :: brace.choices } :: outer) cs
      | [] => none
    else if c = '\\' then
      match cs with
      | d :: rest => readPieces? n (bytes (Utf8.encode (String.singleton d)) :: pieces) braces rest
      | [] => none
    else
      readPieces? n (bytes (Utf8.encode (String.singleton c)) :: pieces) braces cs

/-- **A wildcard read from its text.** -/
def read? (s : String) : Option (List Wildcard) :=
  readPieces? (s.toList.length + 1) [] [] s.toList

/-! ### Matching -/

/-- The texts that remain when any number of bytes is taken off the front. -/
def suffixes : Bytes → List Bytes
  | [] => [[]]
  | b :: bs => (b :: bs) :: suffixes bs

mutual

/-- What may be left of a name after a piece. -/
def leftovers : Wildcard → Bytes → List Bytes
  | bytes value, s => if value.isPrefixOf s then [s.drop value.length] else []
  | anyOne, s => match s with
    | _ :: rest => [rest]
    | [] => []
  | anyMany, s => suffixes s
  | oneOf negated ranges, s => match s with
    | b :: rest =>
      if (ranges.any fun (lo, hi) => lo ≤ b && b ≤ hi) != negated then [rest] else []
    | [] => []
  | alternatives choices, s => if allVoid choices then [s] else choiceLeftovers choices s

/-- What may be left of a name after a sequence of pieces. -/
def seqLeftovers : List Wildcard → Bytes → List Bytes
  | [], s => [s]
  | w :: ws, s => ((leftovers w s).flatMap fun rest => seqLeftovers ws rest).eraseDups

/-- What may be left of a name after one of the alternatives. A void one is no
alternative. -/
def choiceLeftovers : List (List Wildcard) → Bytes → List Bytes
  | [], _ => []
  | c :: cs, s => (if seqVoid c then [] else seqLeftovers c s) ++ choiceLeftovers cs s

end

/-- **Whether a wildcard matches a name**, all of it. -/
def matchesName (wildcard : List Wildcard) (name : String) : Bool :=
  (seqLeftovers wildcard (Utf8.encode name)).any List.isEmpty

end Wildcard

end VerifierTrials
