import VerifierTrials.Decimal.Binary64
import VerifierTrials.Shell.Numeral
import VerifierTrials.Text.Utf8

/-!
# Printing

The two ways in which scripts print: words with blanks between them (`echoed`), and a
format that is filled in as often as there are words left (`formatted`). Both know
**escapes**, a backslash with a letter or with octal digits; as these denote bytes, what
is printed need not be a text.
-/

namespace VerifierTrials.Shell.Printing

open VerifierTrials.Decimal

/-- An octal digit. -/
def isOctal (c : Char) : Bool := Numeral.isDigitIn 8 c

/-- The bytes of an escape, after its backslash, and what comes after it. What is no
escape stands for itself. -/
def escape : List Char → Bytes × List Char
  | 'a' :: rest => ([7], rest)
  | 'b' :: rest => ([8], rest)
  | 't' :: rest => ([9], rest)
  | 'n' :: rest => ([10], rest)
  | 'v' :: rest => ([11], rest)
  | 'f' :: rest => ([12], rest)
  | 'r' :: rest => ([13], rest)
  | 'e' :: rest => ([27], rest)
  | '\\' :: rest => ([92], rest)
  | s =>
    let digits := (s.take 3).takeWhile isOctal
    if digits.isEmpty then ([92], s)
    else ([UInt8.ofNat (Numeral.valueIn 8 digits)], s.drop digits.length)

/-- The bytes of a text with escapes, where octal digits follow a zero, and whether it
asks for an end of all printing. The number bounds its length. -/
def unescaped : Nat → List Char → Bytes × Bool
  | 0, _ => ([], false)
  | _, [] => ([], false)
  | _, '\\' :: 'c' :: _ => ([], true)
  | n + 1, '\\' :: rest =>
    let (bytes, rest) := match rest with
      | '0' :: d :: more => if isOctal d then escape (d :: more) else escape rest
      | _ => escape rest
    let (further, stopped) := unescaped n rest
    (bytes ++ further, stopped)
  | n + 1, c :: rest =>
    let (further, stopped) := unescaped n rest
    (Utf8.encode (String.singleton c) ++ further, stopped)

/-- **Words with blanks between them**, escapes being read or not, on a line of their own
unless the first word asks for none. -/
def echoed (escapes : Bool) (words : List String) : Bytes :=
  let (words, ending) : List String × Bytes := match words with
    | "-n" :: rest => (rest, [])
    | _ => (words, [10])
  let text := " ".intercalate words
  if escapes then
    let (bytes, stopped) := unescaped (text.length + 1) text.toList
    if stopped then bytes else bytes ++ ending
  else Utf8.encode text ++ ending

/-! ### Formats -/

/-- A number in a directive: in the format itself, or taken from a word. -/
inductive Amount where
  | absent
  | stated (value : Nat)
  | given
  deriving DecidableEq, Repr

/-- A directive of a format. -/
structure Directive where
  flags : List Char := []
  width : Amount := .absent
  precision : Amount := .absent
  conversion : Char
  deriving Repr

/-- A part of a format. -/
inductive Part where
  | bytes (value : Bytes)
  | directive (value : Directive)
  /-- A directive that is none. -/
  | invalid (text : String)
  /-- A directive that the format ends in. -/
  | cut
  deriving Repr

/-- The number in a directive, and what comes after it. -/
def amount : List Char → Amount × List Char
  | '*' :: rest => (.given, rest)
  | s => ((Text.digitsValue? (s.takeWhile Char.isDigit)).elim .absent .stated,
      s.dropWhile Char.isDigit)

/-- The conversions of words to integers. -/
def integerConversions : List Char := ['d', 'i', 'o', 'u', 'x', 'X']

/-- The conversions of words to numbers with places. -/
def fractionConversions : List Char := ['f', 'F', 'e', 'E', 'g', 'G']

/-- The conversions of words to texts. -/
def textConversions : List Char := ['c', 's', 'b']

/-- The part after a percent sign, and what comes after it. -/
def directive (s : List Char) : Part × List Char :=
  let isFlag := fun c => c = '-' || c = '0' || c = '+' || c = ' ' || c = '#'
  let flags := s.takeWhile isFlag
  let (width, rest) := amount (s.dropWhile isFlag)
  let (precision, rest) := match rest with
    | '.' :: rest =>
      match amount rest with
      | (.absent, rest) => (.stated 0, rest)
      | found => found
    | _ => (.absent, rest)
  match rest with
  | conversion :: rest =>
    if (integerConversions ++ fractionConversions ++ textConversions).contains conversion then
      (.directive { flags, width, precision, conversion }, rest)
    else
      (.invalid (String.ofList ('%' :: s.take (s.length - rest.length))), rest)
  | [] => (.cut, [])

/-- The parts of a format, with a bound on their number. -/
def partsFrom : Nat → List Char → List Part
  | 0, _ => []
  | _, [] => []
  | n + 1, '%' :: '%' :: rest => .bytes [37] :: partsFrom n rest
  | n + 1, '%' :: rest =>
    let (part, rest) := directive rest
    part :: partsFrom n rest
  | n + 1, '\\' :: rest =>
    let (bytes, rest) := escape rest
    .bytes bytes :: partsFrom n rest
  | n + 1, c :: rest => .bytes (Utf8.encode (String.singleton c)) :: partsFrom n rest

/-! ### Filling in -/

/-- **What printing comes to**: the bytes, complaints about words that are not what the
format asks for, the words left, and whether the format itself is at fault. -/
structure Printout where
  bytes : Bytes := []
  complaints : List String := []
  left : List String := []
  broken : Bool := false

/-- One printout after another. -/
def Printout.after (first second : Printout) : Printout :=
  { second with
    bytes := first.bytes ++ second.bytes
    complaints := first.complaints ++ second.complaints }

/-- The numbers of a directive that words have given. -/
structure Layout where
  toLeft : Bool
  zeros : Bool
  sign : List Char
  alternate : Bool
  width : Nat
  precision : Option Nat

/-- Bytes filled up to a width. -/
def fill (layout : Layout) (bytes : Bytes) : Bytes :=
  let missing := List.replicate (layout.width - bytes.length) 32
  if layout.toLeft then bytes ++ missing else missing ++ bytes

/-- The digits of a number with its sign, zeros being put between them on demand. -/
def signed (layout : Layout) (zeros : Bool) (sign digits : List Char) : Bytes :=
  let missing := if zeros && layout.zeros && !layout.toLeft then
    layout.width - sign.length - digits.length else 0
  fill layout (Utf8.encode (String.ofList (sign ++ List.replicate missing '0' ++ digits)))

/-- An integer as a directive wants it. -/
def integerText (conversion : Char) (layout : Layout) (value : Int) : Bytes :=
  let unsigned := (value % (Nat.pow 2 64 : Int)).toNat
  let isSigned := conversion = 'd' || conversion = 'i'
  let digits := match conversion with
    | 'o' => Nat.toDigits 8 unsigned
    | 'x' => Nat.toDigits 16 unsigned
    | 'X' => (Nat.toDigits 16 unsigned).map Char.toUpper
    | 'u' => Nat.toDigits 10 unsigned
    | _ => Nat.toDigits 10 value.natAbs
  let sign :=
    if isSigned then (if value < 0 then ['-'] else layout.sign)
    else if !layout.alternate || unsigned = 0 then []
    else match conversion with
      | 'x' => ['0', 'x']
      | 'X' => ['0', 'X']
      | 'o' => ['0']
      | _ => []
  match layout.precision with
  | some places =>
    let digits := if places = 0 && value = 0 then [] else digits
    signed layout false sign (List.replicate (places - digits.length) '0' ++ digits)
  | none => signed layout true sign digits

/-- The power of ten of the first digit of a positive quotient, searched for from above. -/
def leadingPower (num den : Nat) : Nat → Int → Int
  | 0, power => power
  | n + 1, power =>
    if den * Nat.pow 10 power.toNat ≤ num * Nat.pow 10 (-power).toNat then power
    else leadingPower num den n (power - 1)

/-- The digits of a positive quotient, a given number of them behind the first, and the power
of ten of the first. -/
def significant (num den places : Nat) : List Char × Int :=
  let power := leadingPower num den 700 (((Nat.log2 num - Nat.log2 den : Nat) : Int) / 3 + 1)
  let shift : Int := places - power
  let n := roundQuotient (num * Nat.pow 10 shift.toNat) (den * Nat.pow 10 (-shift).toNat)
  let digits := Text.decimal n
  if digits.length = places + 2 then (digits.dropLast, power + 1) else (digits, power)

/-- Digits with a point behind the first. -/
def pointed : List Char → List Char
  | [] => []
  | [d] => [d]
  | d :: ds => d :: '.' :: ds

/-- The power of ten behind the digits of a number. -/
def powerText (letter : Char) (power : Int) : List Char :=
  let digits := Text.decimal power.natAbs
  letter :: (if power < 0 then '-' else '+') ::
    (List.replicate (2 - digits.length) '0' ++ digits)

/-- Places without the zeros at their end. -/
def withoutZeros (s : List Char) : List Char :=
  if s.contains '.' then
    (((s.reverse.dropWhile (· = '0')).dropWhile (· = '.'))).reverse
  else s

/-- The absolute value of a finite number as a directive wants it. -/
def fractionDigits (conversion : Char) (alternate : Bool) (precision : Nat) (num den : Nat) :
    List Char :=
  let letter := if conversion.isUpper then 'E' else 'e'
  let scientific := fun places =>
    if num = 0 then (List.replicate (places + 1) '0', 0) else significant num den places
  let fixed := fun places => Binary64.withPoint places (roundQuotient (num * Nat.pow 10 places) den)
  match conversion with
  | 'f' | 'F' => fixed precision
  | 'e' | 'E' =>
    let (digits, power) := scientific precision
    pointed digits ++ powerText letter power
  | _ =>
    let places := max precision 1 - 1
    let (digits, power) := scientific places
    let trim := if alternate then id else withoutZeros
    if power < -4 || (places : Int) < power then trim (pointed digits) ++ powerText letter power
    else trim (fixed ((places : Int) - power).toNat)

/-- A number with places as a directive wants it. -/
def fractionText (conversion : Char) (layout : Layout) (value : Binary64) : Bytes :=
  let signOf := fun negative : Bool => if negative then ['-'] else layout.sign
  match value with
  | .nan => signed layout false (signOf false) "nan".toList
  | .infinite negative => signed layout false (signOf negative) "inf".toList
  | .finite negative mantissa exponent =>
    signed layout true (signOf negative)
      (fractionDigits conversion layout.alternate (layout.precision.getD 6)
        (Binary64.scaleUp exponent mantissa) (Binary64.scaleUp (-exponent) 1))

/-- The complaint about what is behind the number in a word, or about a word without one. -/
def complaintOf (word : String) (rest : Option (List Char)) : List String :=
  match rest with
  | some [] => []
  | some _ => [word ++ ": not completely converted"]
  | none => if word = "" then [] else [word ++ ": expected numeric value"]

/-- The first byte of the character behind a quote. -/
def quotedByte? (word : String) : Option UInt8 :=
  match word.toList with
  | '\'' :: rest | '"' :: rest => some ((Utf8.encode (String.ofList rest)).headD 0)
  | _ => none

/-- **The integer of a word**, and complaints about it. -/
def integerOf (word : String) : Int × List String :=
  match quotedByte? word with
  | some byte => (byte.toNat, [])
  | none =>
    match Numeral.leading? word.toList with
    | some (n, rest) =>
      if n = Numeral.clamp n then (n, complaintOf word (some rest))
      else (Numeral.clamp n, [word ++ ": Numerical result out of range"])
    | none => (0, complaintOf word none)

/-- The longest beginning of a text that is a number with places, and what is behind it. -/
def leadingFraction? (s : List Char) : Option (Binary64 × List Char) :=
  ((List.range (s.length + 1)).reverse).findSome? fun n =>
    (Binary64.ofNumeral? (s.take n)).map fun value => (value, s.drop n)

/-- **The number with places of a word**, and complaints about it. -/
def fractionOf (word : String) : Binary64 × List String :=
  match quotedByte? word with
  | some byte => (.finite false byte.toNat 0, [])
  | none =>
    match leadingFraction? (word.toList.dropWhile Text.isBlank) with
    | some (value, rest) => (value, complaintOf word (some rest))
    | none => (.finite false 0 0, complaintOf word none)

/-- A number in a directive once words have given it, and the words left. -/
def Amount.resolved : Amount → List String → Option Int × List String
  | absent, words => (none, words)
  | stated n, words => (some n, words)
  | given, words => (some (integerOf (words.headD "")).1, words.tail)

/-- A directive filled in with the first of some words. -/
def filled (directive : Directive) (words : List String) : Printout :=
  let (width, words) := directive.width.resolved words
  let (precision, words) := directive.precision.resolved words
  let has := directive.flags.contains
  let layout : Layout :=
    { toLeft := has '-' || width.any (· < 0)
      zeros := has '0'
      sign := if has '+' then ['+'] else if has ' ' then [' '] else []
      alternate := has '#'
      width := (width.getD 0).natAbs
      precision := precision.bind fun n => if n < 0 then none else some n.toNat }
  let word := words.headD ""
  let left := words.tail
  let cut := fun bytes : Bytes => layout.precision.elim bytes bytes.take
  match directive.conversion with
  | 's' => { bytes := fill layout (cut (Utf8.encode word)), left }
  | 'b' =>
    let (bytes, stopped) := unescaped (word.length + 1) word.toList
    { bytes := fill layout (cut bytes), left := if stopped then [] else left, broken := stopped }
  | 'c' => { bytes := fill layout [(Utf8.encode word).headD 0], left }
  | conversion =>
    if integerConversions.contains conversion then
      let (value, complaints) := integerOf word
      { bytes := integerText conversion layout value, complaints, left }
    else
      let (value, complaints) := fractionOf word
      { bytes := fractionText conversion layout value, complaints, left }

/-- One round through the parts of a format. -/
def round : List Part → List String → Printout
  | [], words => { left := words }
  | .bytes value :: parts, words => ({ bytes := value } : Printout).after (round parts words)
  | .directive directive :: parts, words =>
    let first := filled directive words
    if first.broken then { first with left := [] } else first.after (round parts first.left)
  | .invalid text :: _, _ => { complaints := [text ++ ": invalid directive"], broken := true }
  | .cut :: _, _ => { complaints := ["missing format character"], broken := true }

/-- Rounds through a format as long as there are words, with a bound on their number. -/
def rounds : Nat → List Part → List String → Printout
  | 0, _, _ => {}
  | n + 1, parts, words =>
    let first := round parts words
    if first.broken || first.left.isEmpty || first.left.length = words.length then first
    else first.after (rounds n parts first.left)

/-- The status of a printout: a format that is none weighs more than a word. -/
def Printout.status (printout : Printout) : Nat :=
  if printout.complaints.isEmpty then 0 else if printout.broken then 2 else 1

/-- **A format filled in with words**, again and again until none is left. -/
def formatted (format : String) (words : List String) : Printout :=
  rounds (words.length + 1) (partsFrom (format.length + 1) format.toList) words

end VerifierTrials.Shell.Printing
