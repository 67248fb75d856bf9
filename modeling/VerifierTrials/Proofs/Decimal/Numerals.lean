import VerifierTrials.Proofs.Decimal.Rounding

/-!
# Reading and writing numerals

A spelling has a value, its digits as one number times a power of ten (`Spelling.value`). Reading
it gives a number of the format that is as near to this value as the format allows, or an infinite
one from the limit of the format on (`Binary64.ofParts_cases`). Numerals far outside the range are
settled by the place of their first digit other than zero, which is not more than the value itself
says (`Binary64.ofDigitChars_mul_bounds`).

Writing a finite number with a fixed number of places gives a spelling again, with a point and that
many digits behind it, unless there are to be none (`Spelling.IsFixed`). Its value is off by half
of the last place at most (`Binary64.exists_toFixed_finite`).
-/

namespace VerifierTrials.Decimal

open VerifierTrials.Text

/-- The value of a numeral that has been taken apart. -/
def Binary64.Numeral.value (numeral : Binary64.Numeral) : ℚ :=
  Nat.ofDigitChars 10 numeral.digits 0 * 10 ^ (numeral.exponent - numeral.places)

/-- **The value of a spelling.** -/
def Spelling.value (spelling : Spelling) : ℚ := spelling.numeral.value

/-! ### Digits -/

theorem ofDigitChars_dropWhile_zero (s : List Char) :
    Nat.ofDigitChars 10 (s.dropWhile (· = '0')) 0 = Nat.ofDigitChars 10 s 0 := by
  induction s with
  | nil => rfl
  | cons c cs ih =>
    by_cases zero : c = '0'
    · rw [List.dropWhile_cons_of_pos (by simpa using zero), ih, zero, Nat.ofDigitChars_cons]
      rfl
    · rw [List.dropWhile_cons_of_neg (by simpa using zero)]

/-- What a digit stands for. -/
theorem digit_bounds {c : Char} (digit : c.isDigit = true) :
    c.toNat - '0'.toNat < 10 ∧ (c ≠ '0' → 1 ≤ c.toNat - '0'.toNat) := by
  simp only [Char.isDigit, Bool.and_eq_true, decide_eq_true_eq, UInt32.le_iff_toNat_le] at digit
  have bounds : 48 ≤ c.toNat ∧ c.toNat ≤ 57 := digit
  have zero : '0'.toNat = 48 := rfl
  refine ⟨by omega, fun other => ?_⟩
  have ne : c.toNat ≠ 48 := fun same => other (Char.toNat_inj.mp same)
  omega

theorem ofDigitChars_lt {s : List Char} (digits : IsDigits s) :
    Nat.ofDigitChars 10 s 0 < 10 ^ s.length := by
  induction s with
  | nil => decide
  | cons c cs ih =>
    have rest := ih fun d inside => digits d (List.mem_cons_of_mem _ inside)
    have first := (digit_bounds (digits c List.mem_cons_self)).1
    rw [Nat.ofDigitChars_cons, Nat.ofDigitChars_eq_ofDigitChars_zero, List.length_cons,
      Nat.pow_succ]
    nlinarith

theorem le_ofDigitChars {c : Char} {s : List Char} (digit : c.isDigit = true) (other : c ≠ '0') :
    10 ^ s.length ≤ Nat.ofDigitChars 10 (c :: s) 0 := by
  have first := (digit_bounds digit).2 other
  rw [Nat.ofDigitChars_cons, Nat.ofDigitChars_eq_ofDigitChars_zero]
  nlinarith [Nat.pow_pos (n := s.length) (show 0 < 10 by decide)]

theorem getD_digitsValue? {s : List Char} (digits : IsDigits s) :
    (digitsValue? s).getD 0 = Nat.ofDigitChars 10 s 0 := by
  by_cases none_ : s = []
  · rw [none_]
    rfl
  · rw [digitsValue?_eq_some_iff.mpr ⟨none_, digits, rfl⟩, Option.getD_some]

/-! ### Reading -/

namespace Binary64

theorem one_le_limit : 1 ≤ limit := by
  have double : (2 : ℚ) * 2 ^ 970 ≤ 2 ^ 1024 := by
    rw [← pow_succ']
    exact pow_le_pow_right₀ (by norm_num) (by norm_num)
  have one : (1 : ℚ) ≤ 2 ^ 970 := one_le_pow₀ (by norm_num)
  rw [limit, le_sub_iff_add_le]
  calc (1 : ℚ) + 2 ^ 970 ≤ 2 ^ 970 + 2 ^ 970 := add_le_add_left one _
    _ = 2 * 2 ^ 970 := (two_mul _).symm
    _ ≤ 2 ^ 1024 := double

theorem limit_le : limit ≤ 10 ^ (400 : Int) := by
  have power : (2 : ℚ) ^ 1024 ≤ 10 ^ 400 := calc
    (2 : ℚ) ^ 1024 ≤ 2 ^ (3 * 400) := pow_le_pow_right₀ (by norm_num) (by norm_num)
    _ = (2 ^ 3) ^ 400 := pow_mul ..
    _ ≤ 10 ^ 400 := pow_le_pow_left₀ (by norm_num) (by norm_num) _
  exact (sub_le_self _ (by positivity)).trans power

theorem le_tolerance (quotient : ℚ) : 10 ^ (-401 : Int) ≤ tolerance quotient := by
  have power : (2 : ℚ) ^ 1075 ≤ 10 ^ 401 := calc
    (2 : ℚ) ^ 1075 ≤ 2 ^ (3 * 401) := pow_le_pow_right₀ (by norm_num) (by norm_num)
    _ = (2 ^ 3) ^ 401 := pow_mul ..
    _ ≤ 10 ^ 401 := pow_le_pow_left₀ (by norm_num) (by norm_num) _
  have smallest : (10 : ℚ) ^ (-401 : Int) = 1 / 10 ^ 401 := by
    rw [zpow_neg, one_div]
    rfl
  rw [smallest]
  exact le_max_of_le_right (one_div_le_one_div_of_le (by positivity) power)

/-- A numeral is of the size that its digits and its power show. -/
theorem ofDigitChars_mul_bounds {s : List Char} (digits : IsDigits s)
    (significant : ∀ c, s.head? = some c → c ≠ '0') (e : Int)
    (some_ : Nat.ofDigitChars 10 s 0 ≠ 0) :
    (10 : ℚ) ^ (e + s.length - 1) ≤ Nat.ofDigitChars 10 s 0 * 10 ^ e ∧
      Nat.ofDigitChars 10 s 0 * 10 ^ e < (10 : ℚ) ^ (e + s.length) := by
  obtain _ | ⟨c, cs⟩ := s
  · exact absurd Nat.ofDigitChars_nil some_
  have low := @le_ofDigitChars c cs (digits c List.mem_cons_self) (significant c rfl)
  have high := ofDigitChars_lt digits
  have low' : (10 : ℚ) ^ cs.length ≤ Nat.ofDigitChars 10 (c :: cs) 0 := by exact_mod_cast low
  have high' : (Nat.ofDigitChars 10 (c :: cs) 0 : ℚ) < 10 ^ (c :: cs).length := by
    exact_mod_cast high
  have power : (0 : ℚ) < 10 ^ e := by positivity
  have shifted : ∀ n : Nat, (10 : ℚ) ^ (e + n) = 10 ^ n * 10 ^ e := fun n => by
    rw [add_comm, zpow_add₀ (by norm_num), zpow_natCast]
  have before : e + (c :: cs).length - 1 = e + cs.length := by
    rw [List.length_cons]
    omega
  rw [before, shifted, shifted]
  exact ⟨mul_le_mul_of_nonneg_right low' power.le, mul_lt_mul_of_pos_right high' power⟩

theorem mul_pow_div_pow (n : Nat) (e : Int) :
    ((n * Nat.pow 10 e.toNat : Nat) : ℚ) / (Nat.pow 10 (-e).toNat : Nat) = n * 10 ^ e := by
  rw [Nat.pow_eq, Nat.pow_eq]
  obtain ⟨k, rfl | rfl⟩ := e.eq_nat_or_neg <;> simp [div_eq_mul_inv]

/-- **A numeral is read to the precision of the format.** -/
theorem ofParts_cases (negative : Bool) {numeral : Numeral} (digits : IsDigits numeral.digits) :
    (numeral.value < limit → ∃ m e, ofParts negative numeral = finite negative m e ∧
        |(m : ℚ) * 2 ^ e - numeral.value| ≤ tolerance numeral.value) ∧
      (limit ≤ numeral.value → ofParts negative numeral = infinite negative) := by
  have value_eq : numeral.value = Nat.ofDigitChars 10 (numeral.digits.dropWhile (· = '0')) 0 *
      10 ^ (numeral.exponent - numeral.places) := by
    rw [ofDigitChars_dropWhile_zero, Numeral.value]
  have digits' : IsDigits (numeral.digits.dropWhile (· = '0')) := fun c inside =>
    digits c (List.dropWhile_subset _ inside)
  have significant : ∀ c, (numeral.digits.dropWhile (· = '0')).head? = some c → c ≠ '0' :=
    fun c first => by simpa [first] using List.head?_dropWhile_not (· = '0') numeral.digits
  rw [value_eq]
  simp only [ofParts, getD_digitsValue? digits']
  generalize numeral.digits.dropWhile (· = '0') = s at digits' significant ⊢
  generalize numeral.exponent - numeral.places = e
  have bounds := ofDigitChars_mul_bounds digits' significant e
  generalize Nat.ofDigitChars 10 s 0 = n at bounds ⊢
  split_ifs with zero large small
  · -- zero is the number itself
    rw [zero, Nat.cast_zero, zero_mul]
    refine ⟨fun _ => ⟨0, 0, rfl, ?_⟩, fun above => absurd (one_le_limit.trans above) (by norm_num)⟩
    rw [Nat.cast_zero, zero_mul, sub_zero, abs_zero]
    exact (zpow_nonneg (by norm_num) _).trans (le_tolerance 0)
  · have above : limit ≤ n * 10 ^ e :=
      (limit_le.trans (zpow_le_zpow_right₀ (by norm_num) (by omega))).trans (bounds zero).1
    exact ⟨fun below => absurd above (not_le.mpr below), fun _ => rfl⟩
  · have tiny : (n : ℚ) * 10 ^ e ≤ 10 ^ (-401 : Int) :=
      (bounds zero).2.le.trans (zpow_le_zpow_right₀ (by norm_num) (by omega))
    have positive : (0 : ℚ) ≤ n * 10 ^ e := by positivity
    refine ⟨fun _ => ⟨0, 0, rfl, ?_⟩, fun above => ?_⟩
    · rw [Nat.cast_zero, zero_mul, zero_sub, abs_neg, abs_of_nonneg positive]
      exact tiny.trans (le_tolerance _)
    · have small_ : (10 : ℚ) ^ (-401 : Int) < 1 := zpow_lt_one_of_neg₀ (by norm_num) (by norm_num)
      exact absurd (one_le_limit.trans (above.trans tiny)) (not_le.mpr small_)
  · have power : ∀ k, 0 < Nat.pow 10 k := fun k => Nat.pow_pos (by decide)
    have cases := nearest_cases (Nat.mul_pos (Nat.pos_of_ne_zero zero) (power e.toNat))
      (power (-e).toNat) negative
    rwa [mul_pow_div_pow] at cases

end Binary64

/-! ### Writing -/

/-- **A spelling with a fixed number of places**: digits, and a point with that many digits behind
it, unless there are to be none. -/
structure Spelling.IsFixed (places : Nat) (spelling : Spelling) : Prop where
  whole : spelling.whole ≠ []
  point : spelling.fraction?.isSome = true ↔ 0 < places
  places : spelling.places = places
  power : spelling.power? = none

namespace Binary64

open Spelling

theorem value_of_isFixed {places : Nat} {shown : Spelling} (fixed : shown.IsFixed places) :
    shown.value = Nat.ofDigitChars 10 shown.digits 0 / 10 ^ places := by
  have exponent : shown.exponent - shown.places = -(places : Int) := by
    rw [Spelling.exponent, fixed.power, fixed.places, Option.map_none, Option.getD_none, zero_sub]
  rw [Spelling.value, Numeral.value, Spelling.numeral, exponent, zpow_neg, zpow_natCast,
    div_eq_mul_inv]

/-- A number with a point before its last digits is what it is without, divided. -/
theorem exists_withPoint (places n : Nat) : ∃ shown : Spelling,
    withPoint places n = shown.text ∧ shown.IsFixed places ∧ shown.value = n / 10 ^ places := by
  suffices spelled : ∃ shown : Spelling, withPoint places n = shown.text ∧ shown.IsFixed places ∧
      Nat.ofDigitChars 10 shown.digits 0 = n by
    obtain ⟨shown, text, fixed, number⟩ := spelled
    exact ⟨shown, text, fixed, by rw [value_of_isFixed fixed, number]⟩
  have isDigits : IsDigits (List.replicate (places + 1 - (decimal n).length) '0' ++ decimal n) := by
    intro c inside
    rcases List.mem_append.mp inside with zero | digit
    · rw [(List.mem_replicate.mp zero).2]
      rfl
    · exact isDigit_toDigits c digit
  have number : Nat.ofDigitChars 10
      (List.replicate (places + 1 - (decimal n).length) '0' ++ decimal n) 0 = n := by
    rw [Nat.ofDigitChars_append, Nat.ofDigitChars_replicate_zero, Nat.mul_zero, decimal,
      Nat.ofDigitChars_ten_toDigits]
  have long : places <
      (List.replicate (places + 1 - (decimal n).length) '0' ++ decimal n).length := by
    rw [List.length_append, List.length_replicate]
    omega
  simp only [withPoint]
  generalize List.replicate (places + 1 - (decimal n).length) '0' ++ decimal n = padded at *
  split_ifs with none_
  · subst none_
    have some_ : padded ≠ [] := List.ne_nil_of_length_pos long
    refine ⟨⟨padded, none, none, isDigits, by simp, by simpa using some_⟩, ?_,
      ⟨some_, ?_, rfl, rfl⟩, ?_⟩
    · simp [Spelling.text, pointText, powerText]
    · simp
    · simpa [Spelling.digits] using number
  · have some_ : padded.take (padded.length - places) ≠ [] := by
      refine List.ne_nil_of_length_pos ?_
      rw [List.length_take]
      omega
    refine ⟨⟨padded.take (padded.length - places), some (padded.drop (padded.length - places)),
      none, fun c inside => isDigits c (List.mem_of_mem_take inside), ?_, ?_⟩, ?_,
      ⟨some_, ?_, ?_, rfl⟩, ?_⟩
    · rintro fraction ⟨⟩ c inside
      exact isDigits c (List.mem_of_mem_drop inside)
    · exact fun nothing => some_ (List.append_eq_nil_iff.mp nothing).1
    · simp [Spelling.text, pointText, powerText]
    · simpa using Nat.pos_of_ne_zero none_
    · rw [Spelling.places, Option.getD_some, List.length_drop]
      omega
    · simpa [Spelling.digits] using number

/-- **A finite number is written as a numeral with fixed places**, rounded to them. -/
theorem exists_toFixed_finite (places : Nat) (negative : Bool) (m : Nat) (e : Int) :
    ∃ shown : Spelling,
      (finite negative m e).toFixed places = (if negative then ['-'] else []) ++ shown.text ∧
        shown.IsFixed places ∧ |shown.value - m * 2 ^ e| ≤ 1 / (2 * 10 ^ places) := by
  obtain ⟨shown, text, fixed, value⟩ := exists_withPoint places
    (roundQuotient (scaleUp e m * Nat.pow 10 places) (scaleUp (-e) 1))
  refine ⟨shown, by rw [← text]; rfl, fixed, ?_⟩
  have power : (0 : ℚ) < 10 ^ places := by positivity
  have quotient : ((scaleUp e m * Nat.pow 10 places : Nat) : ℚ) / scaleUp (-e) 1 =
      m * 2 ^ e * 10 ^ places := by
    have scaled := scaleUp_div_scaleUp (-e) m 1
    rw [neg_neg, Nat.cast_one, div_one, zpow_neg, div_inv_eq_mul] at scaled
    rw [Nat.cast_mul, mul_div_right_comm, scaled, Nat.pow_eq, Nat.cast_pow, Nat.cast_ofNat]
  have near := abs_roundQuotient_sub_le (scaleUp e m * Nat.pow 10 places) (scaleUp_pos (-e) one_pos)
  rw [quotient] at near
  have scaled : ∀ k v : ℚ, k / 10 ^ places - v = (k - v * 10 ^ places) / 10 ^ places :=
    fun k v => by rw [sub_div, mul_div_cancel_right₀ _ power.ne']
  rw [value, scaled, abs_div, abs_of_pos power, ← div_div]
  exact div_le_div_of_nonneg_right near power.le

end Binary64

end VerifierTrials.Decimal
