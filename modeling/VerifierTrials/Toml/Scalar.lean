import VerifierTrials.Decimal.Binary64
import VerifierTrials.Toml.Value

/-!
# Strings, numbers and dates of the configuration language

Four kinds of **strings**: between double quotes with escapes, between single quotes
without, and either kind in threefold quotes over several lines. **Numbers and
dates** are recognised from the longest run of characters that one can consist of.
-/

namespace VerifierTrials.Toml

open VerifierTrials.Text VerifierTrials.Decimal

/-- What reading a piece of a document gives: the piece and what follows it. -/
abbrev Reading (α : Type) := Option (α × List Char)

/-- A character that a comment or a string may hold as it stands. -/
def isPlain (c : Char) : Bool := c = '\t' || (c.toNat ≥ 0x20 && c.toNat ≠ 0x7F)

/-! ### Strings -/

/-- The characters after a backslash: what they stand for, and how many they are. -/
def escaped? : List Char → Option (Char × Nat)
  | 'b' :: _ => some ('\x08', 1)
  | 't' :: _ => some ('\t', 1)
  | 'n' :: _ => some ('\n', 1)
  | 'f' :: _ => some ('\x0c', 1)
  | 'r' :: _ => some ('\r', 1)
  | '"' :: _ => some ('"', 1)
  | '\\' :: _ => some ('\\', 1)
  | 'u' :: digits => numbered 4 digits
  | 'U' :: digits => numbered 8 digits
  | _ => none
where
  /-- A character given by that many hexadecimal digits. -/
  numbered (count : Nat) (s : List Char) : Option (Char × Nat) :=
    let digits := s.take count
    if digits.length = count && digits.all isHexDigit then
      let n := digits.foldl (fun n c => 16 * n + hexDigitValue c) 0
      if n.isValidChar then some (Char.ofNat n, count + 1) else none
    else
      none
  /-- A hexadecimal digit in either case. -/
  isHexDigit (c : Char) : Bool :=
    c.isDigit || ('a' ≤ c && c ≤ 'f') || ('A' ≤ c && c ≤ 'F')
  /-- The value of a hexadecimal digit. -/
  hexDigitValue (c : Char) : Nat :=
    if c.isDigit then c.toNat - '0'.toNat
    else if 'a' ≤ c then c.toNat - 'a'.toNat + 10
    else c.toNat - 'A'.toNat + 10

/-- The rest of a string in double quotes; the number counts characters still to be
passed over. -/
def basicFrom : Nat → List Char → Reading (List Char)
  | _, [] => none
  | n + 1, _ :: cs => basicFrom n cs
  | 0, c :: cs =>
    if c = '"' then some ([], cs)
    else if c = '\\' then
      match escaped? cs with
      | some (char, length) =>
        (basicFrom length cs).map fun (inner, rest) => (char :: inner, rest)
      | none => none
    else if isPlain c then (basicFrom 0 cs).map fun (inner, rest) => (c :: inner, rest)
    else none

/-- The rest of a string in single quotes. -/
def literalFrom : List Char → Reading (List Char)
  | [] => none
  | c :: cs =>
    if c = '\'' then some ([], cs)
    else if isPlain c then (literalFrom cs).map fun (inner, rest) => (c :: inner, rest)
    else none

/-- How many characters a line break is long that the text begins with. -/
def breakLength : List Char → Nat
  | '\n' :: _ => 1
  | '\r' :: '\n' :: _ => 2
  | _ => 0

/-- How many blanks and line breaks the text begins with, in characters. -/
def fillLength : List Char → Nat
  | ' ' :: cs => fillLength cs + 1
  | '\t' :: cs => fillLength cs + 1
  | '\n' :: cs => fillLength cs + 1
  | '\r' :: '\n' :: cs => fillLength cs + 2
  | _ => 0

/-- A backslash at the end of a line swallows the break and all blanks and breaks
behind it: how many characters these are. -/
def continuation? (s : List Char) : Option Nat :=
  let blanks := s.takeWhile fun c => c = ' ' || c = '\t'
  if breakLength (s.drop blanks.length) = 0 then none else some (fillLength s)

/-- A run of quotes inside a string over several lines: three of them end it, and up
to two more before these belong to it. -/
def quotesEnd? (quote : Char) (s : List Char) : Option (Nat × List Char) :=
  let run := (s.takeWhile (· = quote)).length
  if run < 3 then none
  else
    let inner := min (run - 3) 2
    some (inner, s.drop (inner + 3))

/-- The rest of a string in three double quotes. -/
def longBasicFrom : Nat → List Char → Reading (List Char)
  | _, [] => none
  | n + 1, _ :: cs => longBasicFrom n cs
  | 0, c :: cs =>
    match quotesEnd? '"' (c :: cs) with
    | some (inner, rest) => some (List.replicate inner '"', rest)
    | none =>
      if c = '\\' then
        match continuation? cs with
        | some length => longBasicFrom length cs
        | none =>
          match escaped? cs with
          | some (char, length) =>
            (longBasicFrom length cs).map fun (inner, rest) => (char :: inner, rest)
          | none => none
      else if breakLength (c :: cs) ≠ 0 then
        (longBasicFrom (breakLength (c :: cs) - 1) cs).map fun (inner, rest) =>
          ('\n' :: inner, rest)
      else if isPlain c then
        (longBasicFrom 0 cs).map fun (inner, rest) => (c :: inner, rest)
      else none

/-- The rest of a string in three single quotes. -/
def longLiteralFrom : Nat → List Char → Reading (List Char)
  | _, [] => none
  | n + 1, _ :: cs => longLiteralFrom n cs
  | 0, c :: cs =>
    match quotesEnd? '\'' (c :: cs) with
    | some (inner, rest) => some (List.replicate inner '\'', rest)
    | none =>
      if breakLength (c :: cs) ≠ 0 then
        (longLiteralFrom (breakLength (c :: cs) - 1) cs).map fun (inner, rest) =>
          ('\n' :: inner, rest)
      else if isPlain c then
        (longLiteralFrom 0 cs).map fun (inner, rest) => (c :: inner, rest)
      else none

/-- A string of one line. -/
def readShortString? : List Char → Reading (List Char)
  | '"' :: cs => basicFrom 0 cs
  | '\'' :: cs => literalFrom cs
  | _ => none

/-- **A string**, of any of the four kinds. A line break right after three quotes does
not belong to it. -/
def readString? : List Char → Reading (List Char)
  | '"' :: '"' :: '"' :: cs => longBasicFrom (breakLength cs) cs
  | '\'' :: '\'' :: '\'' :: cs => longLiteralFrom (breakLength cs) cs
  | cs => readShortString? cs

/-! ### Numbers -/

/-- Digits with single underscores between them. -/
def digitsOf? (isDigit : Char → Bool) : List Char → Option (List Char)
  | [] => none
  | c :: cs =>
    if !isDigit c then none
    else
      match cs with
      | [] => some [c]
      | '_' :: rest => (digitsOf? isDigit rest).map (c :: ·)
      | rest => (digitsOf? isDigit rest).map (c :: ·)

/-- A text without its sign, and whether that is a minus. -/
def splitSign : List Char → Bool × List Char
  | '-' :: s => (true, s)
  | '+' :: s => (false, s)
  | s => (false, s)

/-- Decimal digits without a superfluous zero in front. -/
def wholeDigits? (s : List Char) : Option (List Char) :=
  (digitsOf? Char.isDigit s).filter fun digits => digits.length = 1 || digits.head? != some '0'

/-- A number in a base other than ten. -/
def basedNumber? (base : Nat) (isDigit : Char → Bool) (s : List Char) : Option Int :=
  (digitsOf? isDigit s).map fun digits =>
    (digits.foldl (fun n c => base * n + escaped?.hexDigitValue c) 0 : Nat)

/-- **A whole number**, within 64 bits with a sign. -/
def integer? (s : List Char) : Option Int :=
  let value? : Option Int :=
    match s with
    | '0' :: 'x' :: digits => basedNumber? 16 escaped?.isHexDigit digits
    | '0' :: 'o' :: digits => basedNumber? 8 (fun c => '0' ≤ c && c ≤ '7') digits
    | '0' :: 'b' :: digits => basedNumber? 2 (fun c => c = '0' || c = '1') digits
    | _ =>
      let (negative, digits) := splitSign s
      ((wholeDigits? digits).bind digitsValue?).map fun n => if negative then -(n : Int) else n
  value?.filter fun n => -(Nat.pow 2 63 : Int) ≤ n && n < (Nat.pow 2 63 : Int)

/-- The exponent of a number with a fraction, without its letter. -/
def isExponent (s : List Char) : Bool := (digitsOf? Char.isDigit (splitSign s).2).isSome

/-- A number with a fraction or an exponent, or both, without its sign. -/
def isUnsignedFraction (s : List Char) : Bool :=
  let isMark (c : Char) : Bool := c = '.' || c = 'e' || c = 'E'
  let whole := s.takeWhile fun c => !isMark c
  (wholeDigits? whole).isSome &&
    match s.drop whole.length with
    | '.' :: rest =>
      let places := rest.takeWhile fun c => !isMark c
      (digitsOf? Char.isDigit places).isSome &&
        match rest.drop places.length with
        | [] => true
        | '.' :: _ => false
        | _ :: exponent => isExponent exponent
    | _ :: exponent => isExponent exponent
    | [] => false

/-- **A number with a fraction.** One that is too large for the 64-bit format is
refused, a minus sign forgiving it. -/
def isFraction (s : List Char) : Bool :=
  let (negative, digits) := splitSign s
  if digits = "inf".toList || digits = "nan".toList then true
  else
    isUnsignedFraction digits &&
      match Binary64.ofNumeral? (digits.filter (· != '_')) with
      | some (.infinite _) => negative
      | some _ => true
      | none => false

/-! ### Dates -/

/-- A number of exactly so many digits, not above a bound and not below another. -/
def fieldIn (count low high : Nat) (s : List Char) : Bool :=
  s.length = count &&
    match digitsValue? s with
    | some n => low ≤ n && n ≤ high
    | none => false

/-- A year that has a leap day. -/
def isLeapYear (year : Nat) : Bool := (year % 4 = 0 && year % 100 ≠ 0) || year % 400 = 0

/-- How many days a month has. -/
def daysIn (year month : Nat) : Nat :=
  if month = 2 then (if isLeapYear year then 29 else 28)
  else if month = 4 || month = 6 || month = 9 || month = 11 then 30
  else 31

/-- A day of the calendar. -/
def isDay (s : List Char) : Bool :=
  match splitOn '-' s with
  | [y, m, d] =>
    fieldIn 4 0 9999 y && fieldIn 2 1 12 m &&
      fieldIn 2 1 (daysIn ((digitsValue? y).getD 0) ((digitsValue? m).getD 0)) d
  | _ => false

/-- A time of day, to any fraction of a second. -/
def isTime (s : List Char) : Bool :=
  match splitOn ':' s with
  | [h, m, seconds] =>
    fieldIn 2 0 23 h && fieldIn 2 0 59 m &&
      match splitOn '.' seconds with
      | [whole] => fieldIn 2 0 60 whole
      | [whole, places] => fieldIn 2 0 60 whole && (digitsValue? places).isSome
      | _ => false
  | _ => false

/-- A distance from universal time. -/
def isOffset (s : List Char) : Bool :=
  match splitOn ':' s with
  | [h, m] => fieldIn 2 0 23 h && fieldIn 2 0 59 m
  | _ => false

/-- A time of day, with or without a distance from universal time. -/
def isTimeWithOffset (s : List Char) : Bool :=
  let isMark (c : Char) : Bool := c = 'Z' || c = 'z' || c = '+' || c = '-'
  let time := s.takeWhile fun c => !isMark c
  isTime time &&
    match s.drop time.length with
    | [] => true
    | [c] => c = 'Z' || c = 'z'
    | c :: offset => (c = '+' || c = '-') && isOffset offset

/-- A day, with or without a time of day. -/
def isDate (s : List Char) : Bool :=
  isTime s || isDay s ||
    (isDay (s.take 10) &&
      match s.drop 10 with
      | c :: time => (c = 'T' || c = 't' || c = ' ') && isTimeWithOffset time
      | [] => false)

/-! ### Words -/

/-- A character of numbers, dates and truth values. -/
def isWordChar (c : Char) : Bool :=
  c.isAlphanum || c = '_' || c = '+' || c = '-' || c = '.' || c = ':'

/-- The longest run of such characters. After a day, a blank may be part of it, with
the time of day behind. -/
def readWord (s : List Char) : List Char × List Char :=
  let word := s.takeWhile isWordChar
  match s.drop word.length with
  | ' ' :: rest =>
    let time := rest.takeWhile isWordChar
    if isDay word && isTimeWithOffset time then
      (word ++ ' ' :: time, rest.drop time.length)
    else
      (word, ' ' :: rest)
  | rest => (word, rest)

/-- The value that a word denotes. -/
def wordValue? (word : List Char) : Option Value :=
  if word = "true".toList then some (.boolean true)
  else if word = "false".toList then some (.boolean false)
  else if isDate word then some .date
  else
    match integer? word with
    | some n => some (.integer n)
    | none => if isFraction word then some .fraction else none

end VerifierTrials.Toml
