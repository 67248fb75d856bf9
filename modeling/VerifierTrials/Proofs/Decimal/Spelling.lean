import VerifierTrials.Decimal.Binary64
import VerifierTrials.Proofs.Text.Basic

/-!
# Numerals as they are written

A decimal numeral is written with digits, a point among them or at one of their ends if there is
one at all, and a power of ten behind them if there is one: this is a **spelling**
(`Decimal.Spelling`), to which a sign may be put in front. A special value is written by its
name, in any case of letters (`Decimal.IsName`).

These are the texts that denote a number of the 64-bit binary format
(`Binary64.exists_of_ofNumeral?`), and the reader takes each of them for what it spells
(`Binary64.ofNumeral?_spelling`, `Binary64.ofNumeral?_name`): no name is a spelling, and neither
begins with a sign.
-/

namespace VerifierTrials.Decimal

open VerifierTrials.Text

/-! ### Spellings -/

/-- A text of digits, which may be empty. -/
def IsDigits (s : List Char) : Prop := ∀ c ∈ s, c.isDigit = true

instance (s : List Char) : Decidable (IsDigits s) :=
  decidable_of_iff (s.all Char.isDigit = true) List.all_eq_true

/-- A sign in front of digits, or none. -/
inductive Sign where
  | absent
  | plus
  | minus
  deriving DecidableEq, Repr

namespace Sign

/-- A sign as it is written. -/
def text : Sign → List Char
  | absent => []
  | plus => ['+']
  | minus => ['-']

/-- Whether a sign is that of a negative number. -/
def isNegative (sign : Sign) : Bool := sign = minus

/-- A number with a sign. -/
def apply (sign : Sign) (n : Nat) : Int := if sign.isNegative then -n else n

end Sign

/-- **A power of ten behind a numeral**, after the letter E in either case. -/
structure Power where
  letter : Char
  sign : Sign
  digits : List Char
  isLetter : letter = 'e' ∨ letter = 'E'
  isDigits : IsDigits digits
  some_ : digits ≠ []

/-- A power as it is written. -/
def Power.text (power : Power) : List Char := power.letter :: (power.sign.text ++ power.digits)

/-- The exponent of a power. -/
def Power.exponent (power : Power) : Int := power.sign.apply (Nat.ofDigitChars 10 power.digits 0)

/-- **A decimal numeral as it is written**: at least one digit, with or without a point. -/
structure Spelling where
  whole : List Char
  /-- What stands behind the point, if there is a point. -/
  fraction? : Option (List Char)
  power? : Option Power
  isWhole : IsDigits whole
  isFraction : ∀ fraction ∈ fraction?, IsDigits fraction
  some_ : whole ++ fraction?.getD [] ≠ []

namespace Spelling

/-- A point with what stands behind it. -/
def pointText : Option (List Char) → List Char
  | none => []
  | some fraction => '.' :: fraction

/-- A power, if there is one. -/
def powerText (power? : Option Power) : List Char := (power?.map Power.text).getD []

/-- **The text of a spelling.** -/
def text (spelling : Spelling) : List Char :=
  spelling.whole ++ (pointText spelling.fraction? ++ powerText spelling.power?)

/-- All digits before the power. -/
def digits (spelling : Spelling) : List Char := spelling.whole ++ spelling.fraction?.getD []

/-- How many digits stand behind the point. -/
def places (spelling : Spelling) : Nat := (spelling.fraction?.getD []).length

/-- The exponent of the power. -/
def exponent (spelling : Spelling) : Int := (spelling.power?.map Power.exponent).getD 0

/-- What a reader takes a spelling apart into. -/
def numeral (spelling : Spelling) : Binary64.Numeral :=
  ⟨spelling.digits, spelling.places, spelling.exponent⟩

theorem isDigits_digits (spelling : Spelling) : IsDigits spelling.digits := by
  intro c inside
  rcases List.mem_append.mp inside with whole | fraction
  · exact spelling.isWhole c whole
  · cases behind : spelling.fraction? with
    | none =>
      rw [behind] at fraction
      cases fraction
    | some digits =>
      rw [behind] at fraction
      exact spelling.isFraction digits behind c fraction

end Spelling

/-! ### Names -/

/-- The names of the infinite values. -/
def infiniteNames : List String := ["inf", "infinity"]

/-- The name of what is no number. -/
def nanNames : List String := ["nan"]

/-- The names of all special values. -/
def specialNames : List String := infiniteNames ++ nanNames

/-- **One of some names, in any case of letters.** -/
def IsName (names : List String) (s : List Char) : Prop :=
  String.ofList (s.map Char.toLower) ∈ names

/-! ### The end of a spelling -/

section Ends

variable {front : List Char} {c : Char}

/-- Digits at the end of a text have its last character. -/
theorem isDigit_of_suffix {digits : List Char} (all : IsDigits digits) (some_ : digits ≠ [])
    (ends : digits <:+ front ++ [c]) : c.isDigit = true := by
  obtain ⟨before, same⟩ := ends
  rw [← List.dropLast_concat_getLast some_, ← List.append_assoc] at same
  obtain rfl : digits.getLast some_ = c := by simpa using (List.append_inj' same rfl).2
  exact all _ (List.getLast_mem some_)

/-- **A spelling that does not end in a digit** ends in its point, and is the same numeral without
it. -/
theorem exists_of_text_concat {spelling : Spelling} (text : spelling.text = front ++ [c])
    (other : c.isDigit = false) :
    ∃ shorter : Spelling, shorter.text = front ∧ shorter.numeral = spelling.numeral := by
  have notDigits : ∀ {digits : List Char}, IsDigits digits → digits ≠ [] →
      ¬digits <:+ front ++ [c] := fun all some_ ends => by
    have digit := isDigit_of_suffix all some_ ends
    rw [other] at digit
    cases digit
  obtain ⟨whole, fraction?, power?, isWhole, isFraction, some_⟩ := spelling
  rw [← text] at notDigits
  simp only [Spelling.text] at text notDigits
  cases power? with
  | some power =>
    refine absurd ?_ (notDigits power.isDigits power.some_)
    refine ⟨whole ++ (Spelling.pointText fraction? ++ power.letter :: power.sign.text), ?_⟩
    simp [Spelling.powerText, Power.text]
  | none =>
    simp only [Spelling.powerText, Option.map_none, Option.getD_none, List.append_nil]
      at text notDigits
    cases fraction? with
    | none =>
      refine absurd ?_ (notDigits isWhole (by simpa using some_))
      simp [Spelling.pointText]
    | some fraction =>
      cases fraction with
      | nil =>
        refine ⟨⟨whole, none, none, isWhole, by simp, some_⟩, ?_, rfl⟩
        rw [← (List.append_inj' text rfl).1]
        simp [Spelling.text, Spelling.pointText, Spelling.powerText]
      | cons first more =>
        refine absurd ?_ (notDigits (isFraction _ rfl) (List.cons_ne_nil first more))
        exact ⟨whole ++ ['.'], by simp [Spelling.pointText]⟩

end Ends

/-! ### Reading a spelling -/

namespace Binary64

open Spelling

theorem not_isDigit_of_isLetter {c : Char} (letter : c = 'e' ∨ c = 'E') : c.isDigit = false := by
  rcases letter with rfl | rfl <;> rfl

/-- A sign is read as such where digits follow. -/
theorem exponentPart?_text (power : Power) : exponentPart? power.text = some power.exponent := by
  obtain ⟨letter, sign, digits, isLetter, isDigits, some_⟩ := power
  have value : digitsValue? digits = some (Nat.ofDigitChars 10 digits 0) :=
    digitsValue?_eq_some_iff.mpr ⟨some_, isDigits, rfl⟩
  have isE : (decide (letter = 'e') || decide (letter = 'E')) = true := by simpa using isLetter
  simp only [Power.text, exponentPart?, isE, if_true]
  cases sign with
  | minus => simp [Sign.text, value, Power.exponent, Sign.apply, Sign.isNegative]
  | plus => simp [Sign.text, value, Power.exponent, Sign.apply, Sign.isNegative]
  | absent =>
    -- the first digit is no sign
    obtain ⟨c, cs, rfl⟩ := List.exists_cons_of_ne_nil some_
    have digit := isDigits c List.mem_cons_self
    simp only [Sign.text, List.nil_append]
    split
    next same => exact absurd digit (by rw [(List.cons.inj same).1]; decide)
    next same => exact absurd digit (by rw [(List.cons.inj same).1]; decide)
    next => rw [value]; rfl

theorem exponentPart?_eq_some_iff {s : List Char} {e : Int} :
    exponentPart? s = some e ↔
      ∃ power? : Option Power, powerText power? = s ∧ (power?.map Power.exponent).getD 0 = e := by
  constructor
  · intro read
    unfold exponentPart? at read
    split at read
    next => exact ⟨none, rfl, Option.some.inj read⟩
    next c cs =>
      split at read
      next isE =>
        have letter : c = 'e' ∨ c = 'E' := by simpa using isE
        have power : ∀ sign digits n, cs = Sign.text sign ++ digits → digitsValue? digits = some n →
            ∃ power? : Option Power, powerText power? = c :: cs ∧
              (power?.map Power.exponent).getD 0 = sign.apply n := by
          rintro sign digits n rfl value
          obtain ⟨some_, isDigits, rfl⟩ := digitsValue?_eq_some_iff.mp value
          exact ⟨some ⟨c, sign, digits, letter, isDigits, some_⟩, rfl, rfl⟩
        split at read <;> obtain ⟨_, cast, rfl⟩ := Option.map_eq_some_iff.mp read <;>
          obtain ⟨n, value, same⟩ := Option.bind_eq_some_iff.mp cast <;>
          obtain rfl := Option.some.inj same
        · exact power .minus _ n rfl value
        · exact power .plus _ n rfl value
        · exact power .absent _ n rfl value
      next => cases read
  · rintro ⟨_ | power, rfl, rfl⟩
    · rfl
    · exact exponentPart?_text power

/-- Behind the digits of a numeral stands none. -/
theorem powerText_ends (power? : Option Power) (c : Char)
    (first : (powerText power?).head? = some c) : c.isDigit = false := by
  cases power? with
  | none => cases first
  | some power =>
    obtain rfl : power.letter = c := Option.some.inj first
    exact not_isDigit_of_isLetter power.isLetter

/-- **A spelling is read as what it is taken apart into.** -/
theorem read?_text (spelling : Spelling) : Numeral.read? spelling.text = some spelling.numeral := by
  obtain ⟨whole, fraction?, power?, isWhole, isFraction, some_⟩ := spelling
  have power : exponentPart? (powerText power?) = some ((power?.map Power.exponent).getD 0) :=
    exponentPart?_eq_some_iff.mpr ⟨power?, rfl, rfl⟩
  cases fraction? with
  | none =>
    have taken := takeWhile_run isWhole (powerText_ends power?)
    have dropped := dropWhile_run isWhole (powerText_ends power?)
    have nonempty : whole.isEmpty = false := by simpa using some_
    simp only [Numeral.read?, Spelling.text, pointText, List.nil_append, taken, dropped, nonempty]
    split
    next tail point =>
      -- the letter of a power is no point
      cases power? with
      | none => cases point
      | some behind =>
        have letter := behind.isLetter
        rw [(List.cons.inj point).1] at letter
        exact absurd letter (by decide)
    next => simp [power, Spelling.numeral, Spelling.digits, Spelling.places, Spelling.exponent]
  | some fraction =>
    have isFraction := isFraction fraction rfl
    have point : ∀ c, ('.' :: (fraction ++ powerText power?)).head? = some c → c.isDigit = false :=
      fun c first => by
        obtain rfl : '.' = c := Option.some.inj first
        rfl
    have taken := takeWhile_run isWhole point
    have dropped := dropWhile_run isWhole point
    have nonempty : (whole.isEmpty && fraction.isEmpty) = false := by
      cases whole <;> simp_all
    simp only [Numeral.read?, Spelling.text, pointText, List.cons_append, taken, dropped,
      takeWhile_run isFraction (powerText_ends power?),
      dropWhile_run isFraction (powerText_ends power?), nonempty, power]
    simp [Spelling.numeral, Spelling.digits, Spelling.places, Spelling.exponent]

theorem isDigits_takeWhile (s : List Char) : IsDigits (s.takeWhile Char.isDigit) := fun _ inside =>
  (List.all_eq_true.mp List.all_takeWhile) _ inside

/-- **What is read is a spelling.** -/
theorem read?_eq_some_iff {s : List Char} {numeral : Numeral} :
    Numeral.read? s = some numeral ↔
      ∃ spelling : Spelling, spelling.text = s ∧ spelling.numeral = numeral := by
  constructor
  · intro read
    have parts : s = s.takeWhile Char.isDigit ++ s.dropWhile Char.isDigit :=
      List.takeWhile_append_dropWhile.symm
    have isWhole := isDigits_takeWhile s
    rw [Numeral.read?] at read
    generalize s.takeWhile Char.isDigit = whole at parts isWhole read
    generalize s.dropWhile Char.isDigit = behind at parts read
    subst parts
    dsimp only at read
    split at read
    next tail =>
      split at read
      next => cases read
      next some_ =>
        obtain ⟨e, power, rfl⟩ := Option.map_eq_some_iff.mp read
        obtain ⟨power?, text, rfl⟩ := exponentPart?_eq_some_iff.mp power
        refine ⟨⟨whole, some (tail.takeWhile Char.isDigit), power?, isWhole, ?_, ?_⟩, ?_, rfl⟩
        · rintro fraction ⟨⟩
          exact isDigits_takeWhile tail
        · intro none_
          rw [List.append_eq_nil_iff, Option.getD_some] at none_
          exact some_ (by simp [none_.1, none_.2])
        · rw [Spelling.text, pointText, List.cons_append, text, List.takeWhile_append_dropWhile]
    next =>
      split at read
      next => cases read
      next some_ =>
        obtain ⟨e, power, rfl⟩ := Option.map_eq_some_iff.mp read
        obtain ⟨power?, rfl, rfl⟩ := exponentPart?_eq_some_iff.mp power
        have nonempty : whole ++ (none : Option (List Char)).getD [] ≠ [] := by simpa using some_
        refine ⟨⟨whole, none, power?, isWhole, by simp, nonempty⟩, rfl, ?_⟩
        simp [Spelling.numeral, Spelling.digits, Spelling.places, Spelling.exponent]
  · rintro ⟨spelling, rfl, rfl⟩
    exact read?_text spelling

/-! ### Signs and names -/

/-- A spelling begins with a digit or a point. -/
theorem exists_text_eq_cons (spelling : Spelling) :
    ∃ c cs, spelling.text = c :: cs ∧ (c.isDigit = true ∨ c = '.') := by
  obtain ⟨whole, fraction?, power?, isWhole, isFraction, some_⟩ := spelling
  cases whole with
  | cons c cs => exact ⟨c, _, rfl, .inl (isWhole c List.mem_cons_self)⟩
  | nil =>
    cases fraction? with
    | none => exact absurd rfl some_
    | some fraction => exact ⟨'.', _, rfl, .inr rfl⟩

theorem special?_eq_some_iff {negative : Bool} {s : List Char} {number : Binary64} :
    special? negative s = some number ↔
      IsName infiniteNames s ∧ number = infinite negative ∨ IsName nanNames s ∧ number = nan := by
  have infinites : IsName infiniteNames s ↔
      String.ofList (s.map Char.toLower) = "inf" ∨
        String.ofList (s.map Char.toLower) = "infinity" := by
    simp [IsName, infiniteNames]
  have nans : IsName nanNames s ↔ String.ofList (s.map Char.toLower) = "nan" := by
    simp [IsName, nanNames]
  rw [infinites, nans, special?]
  generalize String.ofList (s.map Char.toLower) = name
  simp only [Bool.or_eq_true, decide_eq_true_eq]
  split
  next isInfinite =>
    have other : name ≠ "nan" := by rcases isInfinite with rfl | rfl <;> decide
    simp [isInfinite, other, @eq_comm _ number]
  next isInfinite =>
    split
    next isNan => simp [isNan, @eq_comm _ number]
    next isNan => simp [isInfinite, isNan]

/-- The characters of a name are letters. -/
theorem toLower_mem_of_isName {s : List Char} (name : IsName specialNames s) {c : Char}
    (inside : c ∈ s) : c.toLower ∈ "infinitynan".toList := by
  have all : ∀ name ∈ specialNames, name.toList ⊆ "infinitynan".toList := by decide
  refine all _ name ?_
  rw [String.toList_ofList]
  exact List.mem_map_of_mem inside

theorem toLower_of_isDigit {c : Char} (digit : c.isDigit = true) : c.toLower = c := by
  simp only [Char.isDigit, Bool.and_eq_true, decide_eq_true_eq] at digit
  exact dif_neg fun upper => absurd (UInt32.le_trans upper.1 digit.2) (by decide)

theorem not_isDigit_of_isName {s : List Char} (name : IsName specialNames s) {c : Char}
    (inside : c ∈ s) : c.isDigit = false := by
  have letters : ("infinitynan".toList.all fun d => !d.isDigit) = true := by decide
  refine Bool.eq_false_iff.mpr fun digit => ?_
  have letter := List.all_eq_true.mp letters _ (toLower_mem_of_isName name inside)
  rw [toLower_of_isDigit digit, digit] at letter
  cases letter

/-- A name is no spelling. -/
theorem text_ne_of_isName {s : List Char} (name : IsName specialNames s) (spelling : Spelling) :
    spelling.text ≠ s := by
  rintro rfl
  obtain ⟨c, cs, text, first⟩ := exists_text_eq_cons spelling
  have inside : c ∈ spelling.text := text ▸ List.mem_cons_self
  rcases first with digit | rfl
  · exact absurd digit (by simp [not_isDigit_of_isName name inside])
  · exact absurd (toLower_mem_of_isName name inside) (by decide)

/-- Behind a sign the rest is read by itself. -/
theorem ofNumeral?_append (sign : Sign) {s : List Char}
    (unsigned : ∀ c, s.head? = some c → c ≠ '-' ∧ c ≠ '+') :
    ofNumeral? (sign.text ++ s) = ofUnsigned? sign.isNegative s := by
  cases sign with
  | minus | plus => rfl
  | absent =>
    rw [Sign.text, List.nil_append]
    unfold ofNumeral?
    split
    next => exact absurd rfl (unsigned '-' rfl).1
    next => exact absurd rfl (unsigned '+' rfl).2
    next => rfl

/-- **A spelling is read for what it spells.** -/
theorem ofNumeral?_spelling (sign : Sign) (spelling : Spelling) :
    ofNumeral? (sign.text ++ spelling.text) = some (ofParts sign.isNegative spelling.numeral) := by
  obtain ⟨c, cs, text, first⟩ := exists_text_eq_cons spelling
  rw [ofNumeral?_append, ofUnsigned?, read?_text]
  intro d head
  rw [text] at head
  obtain rfl : c = d := Option.some.inj head
  exact ⟨fun same => absurd (same ▸ first) (by decide),
    fun same => absurd (same ▸ first) (by decide)⟩

/-- **A name is read for the special value that it names.** -/
theorem ofNumeral?_name (sign : Sign) {s : List Char} {number : Binary64}
    (name : IsName infiniteNames s ∧ number = infinite sign.isNegative ∨
      IsName nanNames s ∧ number = nan) : ofNumeral? (sign.text ++ s) = some number := by
  have special : IsName specialNames s := by
    rcases name with ⟨name, -⟩ | ⟨name, -⟩
    · exact List.mem_append_left _ name
    · exact List.mem_append_right _ name
  have unread : Numeral.read? s = none := by
    refine Option.eq_none_iff_forall_ne_some.mpr fun numeral read => ?_
    obtain ⟨spelling, text, -⟩ := read?_eq_some_iff.mp read
    exact text_ne_of_isName special spelling text
  rw [ofNumeral?_append, ofUnsigned?, unread]
  · exact special?_eq_some_iff.mpr name
  · intro c head
    have letter := toLower_mem_of_isName special (List.mem_of_head? head)
    exact ⟨fun same => absurd (same ▸ letter) (by decide),
      fun same => absurd (same ▸ letter) (by decide)⟩

/-- **What is read is a spelling or a name**, with a sign or without. -/
theorem exists_of_ofNumeral? {s : List Char} {number : Binary64}
    (read : ofNumeral? s = some number) :
    ∃ sign rest, s = Sign.text sign ++ rest ∧
      ((∃ spelling : Spelling, spelling.text = rest) ∨ IsName specialNames rest) := by
  have unsigned : ∀ {negative rest}, ofUnsigned? negative rest = some number →
      (∃ spelling : Spelling, spelling.text = rest) ∨ IsName specialNames rest := by
    intro negative rest read
    rw [ofUnsigned?] at read
    split at read
    next numeral numeralRead =>
      obtain ⟨spelling, text, -⟩ := read?_eq_some_iff.mp numeralRead
      exact .inl ⟨spelling, text⟩
    next =>
      rcases special?_eq_some_iff.mp read with ⟨name, -⟩ | ⟨name, -⟩
      · exact .inr (List.mem_append_left _ name)
      · exact .inr (List.mem_append_right _ name)
  unfold ofNumeral? at read
  split at read
  next rest => exact ⟨.minus, rest, rfl, unsigned read⟩
  next rest => exact ⟨.plus, rest, rfl, unsigned read⟩
  next => exact ⟨.absent, s, rfl, unsigned read⟩

end Binary64

end VerifierTrials.Decimal
