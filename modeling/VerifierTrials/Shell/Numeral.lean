import VerifierTrials.Text.Basic

/-!
# Numerals of scripts

Scripts write integers in three bases, told apart by how they begin: hexadecimal after
`0x`, octal after `0`, decimal otherwise. A numeral is read off the front of a text as far
as it goes (`Numeral.leading?`), and whoever reads it decides what may follow. Integers
have 64 bits; a larger one is taken for the largest.
-/

namespace VerifierTrials.Shell.Numeral

/-- The largest integer of 64 bits. -/
def largest : Nat := Nat.pow 2 63 - 1

/-- The value of a digit in any base. -/
def digitValue (c : Char) : Nat :=
  if c.isDigit then c.toNat - '0'.toNat
  else if c.isAlpha then c.toLower.toNat - 'a'.toNat + 10
  else 36

/-- Whether a character is a digit of a base. -/
def isDigitIn (base : Nat) (c : Char) : Bool := digitValue c < base

/-- The value of digits in a base. -/
def valueIn (base : Nat) (digits : List Char) : Nat :=
  digits.foldl (fun n c => base * n + digitValue c) 0

/-- The number at the front of a text in a base, and what comes after it. -/
def digitsIn (base : Nat) (s : List Char) : Nat × List Char :=
  (valueIn base (s.takeWhile (isDigitIn base)), s.dropWhile (isDigitIn base))

/-- The number at the front of a text, and what comes after it. -/
def unsigned? : List Char → Option (Nat × List Char)
  | '0' :: x :: d :: rest =>
    if (x = 'x' || x = 'X') && isDigitIn 16 d then some (digitsIn 16 (d :: rest))
    else some (digitsIn 8 (x :: d :: rest))
  | '0' :: rest => some (digitsIn 8 rest)
  | c :: rest => if c.isDigit then some (digitsIn 10 (c :: rest)) else none
  | [] => none

/-- The signed number at the front of a text, and what comes after it. -/
def signed? : List Char → Option (Int × List Char)
  | '-' :: s => (unsigned? s).map fun (n, rest) => (-(n : Int), rest)
  | '+' :: s | s => (unsigned? s).map fun (n, rest) => ((n : Int), rest)

/-- A number brought between the smallest and the largest integer. -/
def clamp (n : Int) : Int := max (-(largest : Int) - 1) (min n largest)

/-- **The integer at the front of a text**, blanks aside, and what comes after it. -/
def leading? (s : List Char) : Option (Int × List Char) :=
  signed? (s.dropWhile Text.isBlank)

/-- **The integer that a text denotes**, blanks around it aside; an empty text is zero. -/
def integer? (s : List Char) : Option Int :=
  if s.all Text.isBlank then some 0
  else
    match leading? s with
    | some (n, rest) => if rest.all Text.isBlank then some (clamp n) else none
    | none => none

end VerifierTrials.Shell.Numeral
