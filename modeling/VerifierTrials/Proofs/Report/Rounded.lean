import VerifierTrials.Proofs.Decimal.Numerals
import VerifierTrials.Report.Column

/-!
# Values rounded to places

A column that rounds its values shows a decimal number as a numeral with the places asked for, and
any other value as it is. What counts as a number is a spelling with a sign in front or without, and
with a unit behind or without: one character that is no digit, if there is a digit before it
(`Column.IsMeasured`). The unit is taken off before the number is read. A point at the end of a
number goes with it, to no effect (`Column.ofNumeral?_numberPart`); a name has no unit
(`Column.numberPart_of_isName`).

But a number is read in the 64-bit binary format, which has values that are no numbers, and nobody
asks whether the number that has been read is finite. So there are values that are neither shown as
they are nor as a numeral: the names of those values, and numbers from the limit of the format on
(`Column.format_of_isName`, `Column.format_of_limit_le`).
-/

namespace VerifierTrials.Column

open VerifierTrials.Decimal VerifierTrials.Decimal.Binary64

/-! ### Numbers and units -/

/-- **A number with a unit or without**: the unit is one character that is no digit, behind a
digit. -/
inductive IsMeasured (number : List Char) : List Char → Prop
  | plain : IsMeasured number number
  | unit {c : Char} (other : c.isDigit = false)
      (behind : ∃ front d, number = front ++ [d] ∧ d.isDigit = true) :
      IsMeasured number (number ++ [c])

/-- **A value that is a decimal number**, with a sign or without, and with a unit or without. -/
def IsDecimal (value : String) : Prop :=
  ∃ sign spelling, IsMeasured (Sign.text sign ++ Spelling.text spelling) value.toList

/-- A decimal number from the limit of the format on. -/
def IsTooLarge (value : String) : Prop :=
  ∃ sign spelling, IsMeasured (Sign.text sign ++ Spelling.text spelling) value.toList ∧
    limit ≤ spelling.value

/-- A name of a special value, with a sign or without. -/
def IsSpecial (value : String) : Prop :=
  ∃ sign name, value.toList = Sign.text sign ++ name ∧ IsName specialNames name

/-- **A numeral with a fixed number of places**, with a minus sign or without a sign. -/
def IsNumeral (places : Nat) (text : String) : Prop :=
  ∃ sign shown, sign ≠ Sign.plus ∧ Spelling.IsFixed places shown ∧
    text = String.ofList (Sign.text sign ++ Spelling.text shown)

/-- The sign that a number is shown with. -/
def shownSign (sign : Sign) : Sign := if sign.isNegative then .minus else .absent

/-- An infinite value as it is shown. -/
def infiniteText (sign : Sign) : String := if sign.isNegative then "-inf" else "inf"

section NumberPart

variable {front : List Char} {d c : Char}

theorem numberPart_of_unit (digit : d.isDigit = true) (other : c.isDigit = false) :
    numberPart (front ++ [d] ++ [c]) = front ++ [d] := by
  simp [numberPart, digit, other]

/-- A value ends in a unit, or it is its own number. -/
theorem numberPart_cases (value : List Char) :
    (∃ front d c, value = front ++ [d] ++ [c] ∧ d.isDigit = true ∧ c.isDigit = false) ∨
      numberPart value = value := by
  rw [numberPart]
  split
  next c d front reversed =>
    split
    next unit =>
      rw [Bool.and_eq_true, Bool.not_eq_true'] at unit
      refine .inl ⟨front.reverse, d, c, ?_, unit.2, unit.1⟩
      rw [← List.reverse_reverse value, reversed]
      simp
    next => exact .inr rfl
  next => exact .inr rfl

theorem isMeasured_numberPart (value : List Char) : IsMeasured (numberPart value) value := by
  obtain ⟨front, d, c, rfl, digit, other⟩ | part := numberPart_cases value
  · rw [numberPart_of_unit digit other]
    exact .unit other ⟨front, d, rfl, digit⟩
  · rw [part]
    exact .plain

/-- **The number of a value** is read as it is spelled, without its unit. A point at its end is
taken for a unit, which makes no difference. -/
theorem ofNumeral?_numberPart {sign : Sign} {spelling : Spelling} {value : List Char}
    (measured : IsMeasured (sign.text ++ spelling.text) value) :
    ofNumeral? (numberPart value) = some (ofParts sign.isNegative spelling.numeral) := by
  cases measured with
  | unit other behind =>
    obtain ⟨front, d, same, digit⟩ := behind
    rw [same, numberPart_of_unit digit other, ← same, ofNumeral?_spelling]
  | plain =>
    obtain ⟨front, d, c, same, digit, other⟩ | part :=
      numberPart_cases (sign.text ++ spelling.text)
    · obtain ⟨before, last, text⟩ : ∃ before last, spelling.text = before ++ [last] := by
        obtain ⟨first, cs, text, -⟩ := exists_text_eq_cons spelling
        rw [text]
        exact ⟨_, _, (List.dropLast_concat_getLast (List.cons_ne_nil first cs)).symm⟩
      rw [text, ← List.append_assoc] at same
      obtain ⟨number, lastSame⟩ := List.append_inj' same rfl
      obtain rfl : last = c := by simpa using lastSame
      obtain ⟨shorter, rfl, numeral⟩ := exists_of_text_concat text other
      rw [text, ← List.append_assoc, number, numberPart_of_unit digit other, ← number,
        ofNumeral?_spelling, numeral]
    · rw [part, ofNumeral?_spelling]

theorem not_isDigit_of_mem {sign : Sign} {name : List Char} (special : IsName specialNames name)
    (inside : c ∈ sign.text ++ name) : c.isDigit = false := by
  rcases List.mem_append.mp inside with signed | letter
  · cases sign with
    | absent => cases signed
    | plus | minus =>
      rw [List.mem_singleton.mp signed]
      rfl
  · exact not_isDigit_of_isName special letter

/-- A name has no unit. -/
theorem eq_of_isMeasured_name {sign : Sign} {name value : List Char}
    (special : IsName specialNames name) (measured : IsMeasured (sign.text ++ name) value) :
    value = sign.text ++ name := by
  cases measured with
  | plain => rfl
  | unit other behind =>
    obtain ⟨front, d, same, digit⟩ := behind
    have letter := @not_isDigit_of_mem d sign name special (by rw [same]; simp)
    rw [digit] at letter
    cases letter

theorem numberPart_of_isName {sign : Sign} {name : List Char} (special : IsName specialNames name) :
    numberPart (sign.text ++ name) = sign.text ++ name := by
  obtain ⟨front, d, c, same, digit, -⟩ | part := numberPart_cases (sign.text ++ name)
  · have letter := @not_isDigit_of_mem d sign name special (by rw [same]; simp)
    rw [digit] at letter
    cases letter
  · exact part

end NumberPart

/-! ### What is shown -/

section Format

variable {value : String} {sign : Sign} {spelling : Spelling} {name : List Char}

theorem format_of_ofNumeral? {number : Binary64}
    (read : ofNumeral? (numberPart value.toList) = some number) (places : Nat) :
    format value places = String.ofList (number.toFixed places) := by
  rw [format, read]

theorem ofList_toFixed_infinite (places : Nat) (sign : Sign) :
    String.ofList ((infinite sign.isNegative).toFixed places) = infiniteText sign := by
  cases sign <;> rfl

/-- **A number below the limit** is shown as a numeral, rounded to the format and to the places. -/
theorem format_of_lt_limit (measured : IsMeasured (sign.text ++ spelling.text) value.toList)
    (below : spelling.value < limit) (places : Nat) :
    ∃ shown : Spelling, shown.IsFixed places ∧
      format value places = String.ofList ((shownSign sign).text ++ shown.text) ∧
      |shown.value - spelling.value| ≤ 1 / (2 * 10 ^ places) + tolerance spelling.value := by
  obtain ⟨m, e, parts, near⟩ :=
    (ofParts_cases sign.isNegative spelling.isDigits_digits).1 below
  obtain ⟨shown, text, fixed, rounded⟩ := exists_toFixed_finite places sign.isNegative m e
  refine ⟨shown, fixed, ?_, (abs_sub_le _ _ _).trans (add_le_add rounded near)⟩
  rw [format_of_ofNumeral? (ofNumeral?_numberPart measured), parts, text]
  cases sign <;> rfl

/-- A number from the limit on is shown as an infinite value. -/
theorem format_of_limit_le (measured : IsMeasured (sign.text ++ spelling.text) value.toList)
    (above : limit ≤ spelling.value) (places : Nat) :
    format value places = infiniteText sign := by
  have parts := (ofParts_cases sign.isNegative spelling.isDigits_digits).2 above
  rw [format_of_ofNumeral? (ofNumeral?_numberPart measured), parts, ofList_toFixed_infinite]

/-- The name of a special value is shown as the shortest such name. -/
theorem format_of_isName (text : value.toList = sign.text ++ name) (places : Nat) :
    (IsName infiniteNames name → format value places = infiniteText sign) ∧
      (IsName nanNames name → format value places = "NaN") := by
  constructor <;> intro isName
  · have read := ofNumeral?_name sign (.inl ⟨isName, rfl⟩)
    rw [← numberPart_of_isName (List.mem_append_left _ isName), ← text] at read
    rw [format_of_ofNumeral? read, ofList_toFixed_infinite]
  · have read := ofNumeral?_name sign (.inr ⟨isName, rfl⟩)
    rw [← numberPart_of_isName (List.mem_append_right _ isName), ← text] at read
    rw [format_of_ofNumeral? read]
    rfl

/-- **A value that is neither a number nor a name** is shown as it is. -/
theorem format_of_not_isDecimal (noNumber : ¬IsDecimal value) (noName : ¬IsSpecial value)
    (places : Nat) : format value places = value := by
  have measured := isMeasured_numberPart value.toList
  have unread : ofNumeral? (numberPart value.toList) = none := by
    refine Option.eq_none_iff_forall_ne_some.mpr fun number read => ?_
    obtain ⟨sign, rest, part, ⟨spelling, rfl⟩ | special⟩ := exists_of_ofNumeral? read
    · exact noNumber ⟨sign, spelling, part ▸ measured⟩
    · rw [part] at measured
      exact noName ⟨sign, rest, eq_of_isMeasured_name special measured, special⟩
  rw [format, unread]

/-- A numeral begins with a digit or a minus sign. -/
theorem exists_of_isNumeral {places : Nat} {text : String} (numeral : IsNumeral places text) :
    ∃ c cs, text.toList = c :: cs ∧ (c.isDigit = true ∨ c = '-') := by
  obtain ⟨sign, shown, signed, fixed, rfl⟩ := numeral
  rw [String.toList_ofList]
  cases sign with
  | plus => exact absurd rfl signed
  | minus => exact ⟨'-', _, rfl, .inr rfl⟩
  | absent =>
    obtain ⟨c, cs, whole⟩ := List.exists_cons_of_ne_nil fixed.whole
    refine ⟨c, _, by rw [Spelling.text, whole]; rfl, .inl ?_⟩
    exact shown.isWhole c (whole ▸ List.mem_cons_self)

end Format

/-- **How values are rounded.**

A decimal number, with a sign or a unit or without, is shown as a numeral with the places asked
for, which differs from it by half of the last place and by the precision of the format at most. A
number from the limit of the format on is shown as an infinite value, and so are the names of such
values; the name of what is no number is shown in the spelling of the format. All other values are
shown as they are. So a value is shown as it is or as a numeral, unless it is one of those names or
too large. -/
theorem format_cases (value : String) (places : Nat) :
    (∀ sign spelling, IsMeasured (Sign.text sign ++ Spelling.text spelling) value.toList →
      (spelling.value < limit → ∃ shown : Spelling, shown.IsFixed places ∧
        format value places = String.ofList ((shownSign sign).text ++ shown.text) ∧
        |shown.value - spelling.value| ≤ 1 / (2 * 10 ^ places) + tolerance spelling.value) ∧
      (limit ≤ spelling.value → format value places = infiniteText sign)) ∧
    (∀ sign name, value.toList = Sign.text sign ++ name →
      (IsName infiniteNames name → format value places = infiniteText sign) ∧
      (IsName nanNames name → format value places = "NaN")) ∧
    (¬IsDecimal value → ¬IsSpecial value → format value places = value) ∧
    (¬IsTooLarge value → ¬IsSpecial value →
      format value places = value ∨ IsNumeral places (format value places)) := by
  refine ⟨fun sign spelling measured => ?_, fun sign name text => format_of_isName text places,
    fun noNumber noName => format_of_not_isDecimal noNumber noName places, fun small noName => ?_⟩
  · exact ⟨fun below => format_of_lt_limit measured below places,
      fun above => format_of_limit_le measured above places⟩
  · by_cases isNumber : IsDecimal value
    · obtain ⟨sign, spelling, measured⟩ := isNumber
      have below : spelling.value < limit :=
        not_le.mp fun above => small ⟨sign, spelling, measured, above⟩
      obtain ⟨shown, fixed, text, -⟩ := format_of_lt_limit measured below places
      refine .inr ⟨shownSign sign, shown, ?_, fixed, text⟩
      cases sign <;> decide
    · exact .inl (format_of_not_isDecimal isNumber noName places)

/-- Without its unit, the number is halfway between two numerals with two places. -/
example : format "0.125s" 2 = "0.12" := by decide +kernel

/-- **What is no number is not always shown as it is**, and what is shown is not always a numeral:
`nan` is shown as `NaN`, and a number too large for the format as `inf`. -/
theorem not_forall_format :
    (¬∀ value places, ¬IsDecimal value → format value places = value) ∧
      ¬∀ value places, IsDecimal value →
        format value places = value ∨ IsNumeral places (format value places) := by
  constructor
  · intro all
    refine absurd (all "nan" 2 ?_) (by decide)
    rintro ⟨sign, spelling, measured⟩
    -- what is spelled is read as a number, finite or not
    have read := ofNumeral?_numberPart measured
    rw [show ofNumeral? (numberPart "nan".toList) = some nan by decide] at read
    have cases := @ofParts_cases sign.isNegative spelling.numeral spelling.isDigits_digits
    rw [← Option.some.inj read] at cases
    rcases lt_or_ge spelling.value limit with below | above
    · obtain ⟨m, e, finite, -⟩ := cases.1 below
      cases finite
    · cases cases.2 above
  · intro all
    have number : IsDecimal "1e400" :=
      ⟨.absent, ⟨['1'], none, some ⟨'e', .absent, "400".toList, .inl rfl, by decide, by decide⟩,
        by decide, by simp, by decide⟩, .plain⟩
    have shown := all "1e400" 2 number
    rw [show format "1e400" 2 = "inf" by decide] at shown
    rcases shown with same | numeral
    · exact absurd same (by decide)
    · obtain ⟨c, cs, text, first⟩ := exists_of_isNumeral numeral
      obtain rfl : 'i' = c := (List.cons.inj text).1
      exact absurd first (by decide)

end VerifierTrials.Column
