import VerifierTrials.Decimal.Rounding
import VerifierTrials.Text.Basic

/-!
# Binary floating-point numbers of 64 bits

The values of a column are read and written through the 64-bit binary format,
and its roundings show in reports. A number is kept as **exact mathematics**: a
sign, a mantissa and a power of two, or one of the special values. `nearest`
rounds a quotient to the format, `ofNumeral?` reads a decimal numeral, and
`toFixed` writes the exact value with a fixed number of places.
-/

namespace VerifierTrials.Decimal

open VerifierTrials.Text

/-- A number of the 64-bit binary format: a finite one is
`mantissa * 2 ^ exponent` with its sign. -/
inductive Binary64 where
  | nan
  | infinite (negative : Bool)
  | finite (negative : Bool) (mantissa : Nat) (exponent : Int)
  deriving DecidableEq, Repr

namespace Binary64

/-- The numerator of a finite number over `den`. -/
def scaleUp (e : Int) (n : Nat) : Nat := n * Nat.pow 2 e.toNat

/-- The exponent of the last bit that the format keeps of a positive quotient:
53 bits after the leading one, and never below the smallest denormal. -/
def unitExponent (num den : Nat) : Int :=
  let bits : Int := (Nat.log2 num : Int) - Nat.log2 den
  let atLeast := decide (scaleUp bits den ≤ scaleUp (-bits) num)
  max (if atLeast then bits - 52 else bits - 53) (-1074)

/-- **The number of the format nearest to a quotient**, ties to even, beyond the
largest finite number the infinite one. -/
def nearest (negative : Bool) (num den : Nat) : Binary64 :=
  if num = 0 then
    finite negative 0 0
  else
    let e := unitExponent num den
    let m := roundQuotient (scaleUp (-e) num) (scaleUp e den)
    if scaleUp e m < Nat.pow 2 1024 then finite negative m e else infinite negative

/-! ### Reading a numeral -/

/-- A decimal numeral taken apart: its digits as one number, how many of them
stand after the point, and the exponent written behind. -/
structure Numeral where
  digits : List Char
  places : Nat
  exponent : Int
  deriving Repr, DecidableEq

/-- The exponent part of a numeral: nothing, or the letter E in either case with
an optional sign and at least one digit. -/
def exponentPart? : List Char → Option Int
  | [] => some 0
  | c :: cs =>
    if c = 'e' || c = 'E' then
      match cs with
      | '-' :: ds => (digitsValue? ds).map fun n => -(n : Int)
      | '+' :: ds => (digitsValue? ds).map fun n => (n : Int)
      | ds => (digitsValue? ds).map fun n => (n : Int)
    else
      none

/-- An unsigned decimal numeral: digits with an optional point, at least one of
them, and an optional exponent. -/
def Numeral.read? (s : List Char) : Option Numeral :=
  let whole := s.takeWhile Char.isDigit
  match s.dropWhile Char.isDigit with
  | '.' :: tail =>
    let fraction := tail.takeWhile Char.isDigit
    if whole.isEmpty && fraction.isEmpty then
      none
    else
      (exponentPart? (tail.dropWhile Char.isDigit)).map fun e =>
        ⟨whole ++ fraction, fraction.length, e⟩
  | tail =>
    if whole.isEmpty then none else (exponentPart? tail).map fun e => ⟨whole, 0, e⟩

/-- The number nearest to a numeral. A numeral whose first significant digit lies
far outside the range of the format is settled without its power of ten. -/
def ofParts (negative : Bool) (numeral : Numeral) : Binary64 :=
  let digits := numeral.digits.dropWhile (· = '0')
  let n := (digitsValue? digits).getD 0
  let e := numeral.exponent - numeral.places
  let magnitude := e + digits.length
  if n = 0 then finite negative 0 0
  else if 400 < magnitude then infinite negative
  else if magnitude < -400 then finite negative 0 0
  else nearest negative (n * Nat.pow 10 e.toNat) (Nat.pow 10 (-e).toNat)

/-- An unsigned special value by its name, in any case of letters. -/
def special? (negative : Bool) (s : List Char) : Option Binary64 :=
  let name := String.ofList (s.map Char.toLower)
  if name = "inf" || name = "infinity" then some (infinite negative)
  else if name = "nan" then some nan
  else none

/-- The number after its sign. -/
def ofUnsigned? (negative : Bool) (s : List Char) : Option Binary64 :=
  match Numeral.read? s with
  | some numeral => some (ofParts negative numeral)
  | none => special? negative s

/-- **The number that a text denotes**: an optional sign, then a decimal numeral
or the name of a special value. -/
def ofNumeral? : List Char → Option Binary64
  | '-' :: s => ofUnsigned? true s
  | '+' :: s => ofUnsigned? false s
  | s => ofUnsigned? false s

/-! ### Arithmetic -/

/-- The sum of two non-negative finite numbers, rounded to the format. -/
def addPositive : Binary64 → Binary64 → Binary64
  | finite _ m e, finite _ n f =>
    let low := min e f
    let total := scaleUp (e - low) m + scaleUp (f - low) n
    nearest false (scaleUp low total) (scaleUp (-low) 1)
  | infinite _, _ => infinite false
  | _, infinite _ => infinite false
  | _, _ => nan

/-- A span of time in seconds: the whole seconds and the fraction are each rounded
to the format, and then their sum is. -/
def ofSeconds (seconds nanoseconds : Nat) : Binary64 :=
  addPositive (nearest false seconds 1) (nearest false nanoseconds 1000000000)

/-! ### Writing with fixed places -/

/-- Digits with a point before the last `places` of them. -/
def withPoint (places : Nat) (n : Nat) : List Char :=
  let text := decimal n
  let padded := List.replicate (places + 1 - text.length) '0' ++ text
  if places = 0 then
    padded
  else
    padded.take (padded.length - places) ++ '.' :: padded.drop (padded.length - places)

/-- **The exact value with a fixed number of places**, ties to even; a negative
zero keeps its sign. -/
def toFixed (places : Nat) : Binary64 → List Char
  | nan => "NaN".toList
  | infinite negative => (if negative then "-inf" else "inf").toList
  | finite negative m e =>
    let n := roundQuotient (scaleUp e m * Nat.pow 10 places) (scaleUp (-e) 1)
    (if negative then ['-'] else []) ++ withPoint places n

end Binary64

end VerifierTrials.Decimal
