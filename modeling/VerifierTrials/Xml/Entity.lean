import VerifierTrials.Text.Basic

/-!
# Entities

Characters that mean something to markup are written as **entities**: five by name,
all others by number. Reading a text with entities (`unescape?`) fails at an
ampersand that begins none. Writing an attribute value (`escape`) names the five.
-/

namespace VerifierTrials.Xml

open VerifierTrials.Text

/-- The characters that have a named entity. -/
def namedEntities : List (Char × String) :=
  [('<', "lt"), ('>', "gt"), ('&', "amp"), ('\'', "apos"), ('"', "quot")]

/-! ### Reading -/

/-- The value of a digit in a numeral of the given base. -/
def digitValue? (base : Nat) (c : Char) : Option Nat :=
  let value? :=
    if c.isDigit then some (c.toNat - '0'.toNat)
    else if 'a' ≤ c && c ≤ 'f' then some (c.toNat - 'a'.toNat + 10)
    else if 'A' ≤ c && c ≤ 'F' then some (c.toNat - 'A'.toNat + 10)
    else none
  value?.filter (· < base)

/-- The number that digits denote in a base; at least one digit is needed. -/
def numeral? (base : Nat) (digits : List Char) : Option Nat :=
  if digits.isEmpty then none
  else digits.foldlM (fun n c => (digitValue? base c).map fun d => base * n + d) 0

/-- The character with a number, if there is one; zero stands for none. -/
def charOfCode? (n : Nat) : Option Char :=
  if n = 0 then none
  else if n.isValidChar then some (Char.ofNat n)
  else none

/-- The character that an entity stands for, given without ampersand and semicolon. -/
def entity? : List Char → Option Char
  | '#' :: 'x' :: digits => (numeral? 16 digits).bind charOfCode?
  | '#' :: digits => (numeral? 10 digits).bind charOfCode?
  | name => (namedEntities.find? fun e => e.2.toList = name).map Prod.fst

/-- Reading with a number of characters still to be passed over: those of an entity
whose character has been put in. -/
def unescapeFrom : Nat → List Char → Option (List Char)
  | _, [] => some []
  | n + 1, _ :: cs => unescapeFrom n cs
  | 0, c :: cs =>
    if c = '&' then
      let body := cs.takeWhile fun d => d != ';' && d != '&'
      if cs[body.length]? = some ';' then do
        let char ← entity? body
        let rest ← unescapeFrom (body.length + 1) cs
        some (char :: rest)
      else
        none
    else
      (unescapeFrom 0 cs).map (c :: ·)

/-- **A text read with its entities.** -/
def unescape? (s : List Char) : Option (List Char) := unescapeFrom 0 s

/-! ### Writing -/

/-- A character as it is written in an attribute value. -/
def escapeChar (c : Char) : List Char :=
  match namedEntities.find? fun e => e.1 = c with
  | some (_, name) => '&' :: (name.toList ++ [';'])
  | none => [c]

/-- **A text written as an attribute value.** -/
def escape (s : List Char) : List Char := s.flatMap escapeChar

end VerifierTrials.Xml
