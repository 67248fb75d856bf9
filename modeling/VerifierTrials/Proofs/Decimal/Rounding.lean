import Mathlib.Algebra.Order.Field.Power
import Mathlib.Data.Rat.Cast.Order
import Mathlib.Tactic.FieldSimp
import Mathlib.Tactic.Linarith
import Mathlib.Tactic.NormNum
import Mathlib.Tactic.Positivity
import Mathlib.Tactic.Ring
import VerifierTrials.Proofs.Decimal.Spelling

/-!
# How far rounding goes

Rounding a quotient to a whole number changes it by a half at most
(`Decimal.abs_roundQuotient_sub_le`), and a half is what lies between a quotient and the first even
number that it is not rounded up to (`Decimal.roundQuotient_lt_iff`). Rounding to the 64-bit binary
format is that, in units of the last bit that is kept. What is to be known of this bit is that there
are 53 bits from the first one to it, or else it is that of the smallest number
(`Binary64.unitExponent_spec`).

So the nearest number of the format is off by half of its last bit at most
(`Binary64.abs_scaled_sub_le`). It is infinite from a limit on that is halfway between the largest
finite number, which is odd in its last bit, and the power of two above it
(`Binary64.mantissa_lt_iff`). Only quotients between that power and its half come near to the
limit: all others are settled by the size of their last bit.
-/

namespace VerifierTrials.Decimal

/-! ### Rounding a quotient -/

section Quotient

variable (num : Nat) {den : Nat} (positive : 0 < den)
include positive

/-- A quotient lies between two whole numbers, and is rounded to the one that is nearer, or else
to the even one. -/
theorem exists_roundQuotient : ∃ (q : Nat) (f : ℚ), (num : ℚ) / den = q + f ∧ 0 ≤ f ∧ f < 1 ∧
    (roundQuotient num den = q ∧ (f < 1 / 2 ∨ f = 1 / 2 ∧ q % 2 = 0) ∨
      roundQuotient num den = q + 1 ∧ (1 / 2 < f ∨ f = 1 / 2 ∧ q % 2 = 1)) := by
  have positive' : (0 : ℚ) < den := by exact_mod_cast positive
  have rest : ((num % den : Nat) : ℚ) < den := by exact_mod_cast Nat.mod_lt num positive
  have less : ((num % den : Nat) : ℚ) / den < 1 / 2 ↔ 2 * (num % den) < den := by
    rw [div_lt_iff₀ positive', ← @Nat.cast_lt ℚ]
    push_cast
    constructor <;> intro le <;> linarith
  have more : 1 / 2 < ((num % den : Nat) : ℚ) / den ↔ den < 2 * (num % den) := by
    rw [lt_div_iff₀ positive', ← @Nat.cast_lt ℚ]
    push_cast
    constructor <;> intro le <;> linarith
  refine ⟨num / den, (num % den : Nat) / den, ?_, by positivity, (div_lt_one positive').mpr rest,
    ?_⟩
  · rw [eq_comm, ← mul_right_inj' positive'.ne', mul_add, mul_div_cancel₀ _ positive'.ne',
      mul_div_cancel₀ _ positive'.ne']
    exact_mod_cast Nat.div_add_mod num den
  · have tie : ((num % den : Nat) : ℚ) / den = 1 / 2 ↔ 2 * (num % den) = den := by
      rw [le_antisymm_iff, ← not_lt, ← not_lt, less, more]
      omega
    rw [less, more, tie]
    simp only [roundQuotient]
    split_ifs <;> omega

/-- **Rounding changes a quotient by a half at most.** -/
theorem abs_roundQuotient_sub_le : |(roundQuotient num den : ℚ) - num / den| ≤ 1 / 2 := by
  obtain ⟨q, f, quotient, nonneg, less, ⟨rounded, near⟩ | ⟨rounded, near⟩⟩ :=
    exists_roundQuotient num positive
  · have half : f ≤ 1 / 2 := near.elim le_of_lt fun tie => tie.1.le
    rw [rounded, quotient, abs_le]
    constructor <;> linarith
  · have half : 1 / 2 ≤ f := near.elim le_of_lt fun tie => tie.1.ge
    rw [rounded, quotient, abs_le]
    push_cast
    constructor <;> linarith

/-- A quotient is rounded to less than an even number if it is less by more than a half. -/
theorem roundQuotient_lt_iff {k : Nat} (even : k % 2 = 0) :
    roundQuotient num den < k ↔ (num : ℚ) / den < k - 1 / 2 := by
  obtain ⟨q, f, quotient, nonneg, less, ⟨rounded, near⟩ | ⟨rounded, near⟩⟩ :=
    exists_roundQuotient num positive <;> rw [rounded, quotient]
  · have half : f ≤ 1 / 2 := near.elim le_of_lt fun tie => tie.1.le
    constructor
    · intro below
      rcases near with near | ⟨tie, evenToo⟩
      · have : (q : ℚ) + 1 ≤ k := by exact_mod_cast below
        linarith
      · -- two even numbers are two apart
        have apart : q + 2 ≤ k := by omega
        have : (q : ℚ) + 2 ≤ k := by exact_mod_cast apart
        linarith
    · intro below
      have : (q : ℚ) < k := by linarith
      exact_mod_cast this
  · have half : 1 / 2 ≤ f := near.elim le_of_lt fun tie => tie.1.ge
    constructor
    · intro below
      have apart : q + 2 ≤ k := below
      have : (q : ℚ) + 2 ≤ k := by exact_mod_cast apart
      linarith
    · intro below
      have : (q : ℚ) + 1 < k := by linarith
      exact_mod_cast this

end Quotient

namespace Binary64

/-- **The limit of the format**: half a unit of the last bit above the largest finite number. -/
def limit : ℚ := 2 ^ 1024 - 2 ^ 970

/-- **How far off a number of the format may be**: half of the last of 53 bits, or half of the
smallest number. -/
def tolerance (quotient : ℚ) : ℚ := max (quotient / 2 ^ 53) (1 / 2 ^ 1075)

/-! ### The last bit that is kept -/

theorem cast_scaleUp (e : Int) (n : Nat) : (scaleUp e n : ℚ) = n * 2 ^ e.toNat := by
  rw [scaleUp, Nat.pow_eq]
  push_cast
  rfl

theorem scaleUp_lt_pow_iff (e : Int) (n k : Nat) :
    scaleUp e n < Nat.pow 2 k ↔ (n : ℚ) * 2 ^ e.toNat < 2 ^ k := by
  rw [← cast_scaleUp, Nat.pow_eq, ← @Nat.cast_lt ℚ, Nat.cast_pow, Nat.cast_ofNat]

theorem scaleUp_div_scaleUp (e : Int) (num den : Nat) :
    (scaleUp (-e) num : ℚ) / scaleUp e den = num / den / 2 ^ e := by
  rw [cast_scaleUp, cast_scaleUp]
  obtain ⟨n, rfl | rfl⟩ := e.eq_nat_or_neg
  · rw [Int.toNat_neg_natCast, Int.toNat_natCast, pow_zero, mul_one, zpow_natCast, div_div]
  · rw [neg_neg, Int.toNat_neg_natCast, Int.toNat_natCast, pow_zero, mul_one, zpow_neg,
      zpow_natCast, div_inv_eq_mul, mul_div_right_comm]

theorem scaleUp_pos (e : Int) {n : Nat} (positive : 0 < n) : 0 < scaleUp e n :=
  Nat.mul_pos positive (Nat.pow_pos (by decide))

theorem two_zpow_le {e : Int} {n : Nat} (exponent : e ≤ n) :
    (2 : ℚ) ^ e ≤ 2 ^ n ∧ (2 : ℚ) ^ e.toNat ≤ 2 ^ n := by
  refine ⟨?_, pow_le_pow_right₀ (by norm_num) (by omega)⟩
  rw [← zpow_natCast]
  exact zpow_le_zpow_right₀ (by norm_num) exponent

theorem le_two_zpow {e : Int} {n : Nat} (exponent : n ≤ e) :
    (2 : ℚ) ^ n ≤ 2 ^ e ∧ (2 : ℚ) ^ n ≤ 2 ^ e.toNat := by
  refine ⟨?_, pow_le_pow_right₀ (by norm_num) (by omega)⟩
  rw [← zpow_natCast]
  exact zpow_le_zpow_right₀ (by norm_num) exponent

/-! ### The limit, by the last bit -/

section Limit

variable {m : Nat} {e : Int} {units : ℚ}

theorem two_pow_1024 : (2 : ℚ) ^ 1024 = 2 ^ 54 * 2 ^ 970 := by
  rw [← pow_add]

theorem limit_eq : limit = (2 ^ 54 - 1) * 2 ^ 970 := by
  rw [limit, two_pow_1024, sub_mul, one_mul]

/-- What is counted in small units stays below the limit. -/
theorem lt_limit_of_small (small : e ≤ (970 : Nat)) (fits : m ≤ 2 ^ 53) (above : units < 2 ^ 53) :
    (m : ℚ) * 2 ^ e.toNat < 2 ^ 1024 ∧ units * 2 ^ e < limit := by
  obtain ⟨unit, unit'⟩ := two_zpow_le small
  have fits' : (m : ℚ) ≤ 2 ^ 53 := by exact_mod_cast fits
  have positive : (0 : ℚ) < 2 ^ 970 := by positivity
  rw [limit_eq, two_pow_1024]
  generalize (2 : ℚ) ^ 970 = half at *
  constructor
  · calc (m : ℚ) * 2 ^ e.toNat ≤ 2 ^ 53 * half := by gcongr
      _ < 2 ^ 54 * half := by linarith only [positive]
  · calc units * 2 ^ e ≤ 2 ^ 53 * half := by gcongr
      _ < (2 ^ 54 - 1) * half := by linarith only [positive]

/-- What is counted in large units goes beyond the limit. -/
theorem limit_le_of_large (large : (971 : Nat) < e) (reached : 2 ^ 52 ≤ m)
    (below : 2 ^ 52 ≤ units) : (2 : ℚ) ^ 1024 ≤ m * 2 ^ e.toNat ∧ limit ≤ units * 2 ^ e := by
  obtain ⟨unit, unit'⟩ := @le_two_zpow e 972 (by omega)
  have reached' : (2 : ℚ) ^ 52 ≤ m := by exact_mod_cast reached
  have positive : (0 : ℚ) < 2 ^ 970 := by positivity
  have fourfold : (2 : ℚ) ^ 972 = 2 ^ 2 * 2 ^ 970 := by rw [← pow_add]
  rw [fourfold] at unit unit'
  rw [limit_eq, two_pow_1024]
  clear fourfold
  generalize (2 : ℚ) ^ 970 = half at *
  constructor
  · calc (2 : ℚ) ^ 54 * half = 2 ^ 52 * (2 ^ 2 * half) := by ring
      _ ≤ (m : ℚ) * 2 ^ e.toNat := by gcongr
  · calc (2 ^ 54 - 1) * half ≤ 2 ^ 52 * (2 ^ 2 * half) := by linarith only [positive]
      _ ≤ units * 2 ^ e := by gcongr

/-- In between, the mantissa says it. -/
theorem lt_limit_iff_of_last (exactly : m < 2 ^ 53 ↔ units < (2 ^ 53 : Nat) - 1 / 2) :
    (m : ℚ) * 2 ^ (971 : Int).toNat < 2 ^ 1024 ↔ units * 2 ^ (971 : Int) < limit := by
  have double : (2 : ℚ) ^ 971 = 2 * 2 ^ 970 := pow_succ' 2 970
  have unit : (2 : ℚ) ^ (971 : Int) = 2 * 2 ^ 970 := by rw [← double]; rfl
  have unit' : (2 : ℚ) ^ (971 : Int).toNat = 2 * 2 ^ 970 := double
  have positive : (0 : ℚ) < 2 ^ 970 := by positivity
  rw [unit, unit', limit_eq, two_pow_1024]
  clear double unit unit'
  generalize (2 : ℚ) ^ 970 = half at *
  have mantissas : (2 : ℚ) ^ 54 * half = (2 ^ 53 : Nat) * (2 * half) := by push_cast; ring
  have quotients : (2 ^ 54 - 1) * half = ((2 ^ 53 : Nat) - 1 / 2 : ℚ) * (2 * half) := by
    push_cast
    ring
  rw [mantissas, quotients, mul_lt_mul_iff_left₀ (by positivity),
    mul_lt_mul_iff_left₀ (by positivity), Nat.cast_lt, exactly]

end Limit

/-! ### The nearest number -/

theorem two_zpow_log2_le {n : Nat} (positive : 0 < n) : (2 : ℚ) ^ (Nat.log2 n : Int) ≤ n := by
  exact_mod_cast Nat.log2_self_le positive.ne'

theorem lt_two_zpow_log2 (n : Nat) : (n : ℚ) < 2 ^ ((Nat.log2 n : Int) + 1) := by
  exact_mod_cast (Nat.lt_log2_self : n < _)

theorem two_pow_mul_two_zpow (n : Nat) (e : Int) : (2 : ℚ) ^ n * 2 ^ e = 2 ^ (e + n) := by
  rw [add_comm, zpow_add₀ (by norm_num), zpow_natCast]

section Nearest

variable {num den : Nat} (numerator : 0 < num) (denominator : 0 < den)
include numerator denominator

/-- The first bit of a quotient is where those of its two numbers say, or one place below. -/
theorem quotient_bounds {bits : Int} (first : (Nat.log2 num : Int) - Nat.log2 den = bits) :
    (2 : ℚ) ^ (bits - 1) ≤ num / den ∧ (num : ℚ) / den < 2 ^ (bits + 1) := by
  have denominator' : (0 : ℚ) < den := by exact_mod_cast denominator
  rw [le_div_iff₀ denominator', div_lt_iff₀ denominator']
  constructor
  · calc (2 : ℚ) ^ (bits - 1) * den
        ≤ 2 ^ (bits - 1) * 2 ^ ((Nat.log2 den : Int) + 1) :=
          mul_le_mul_of_nonneg_left (lt_two_zpow_log2 den).le (by positivity)
      _ = 2 ^ (Nat.log2 num : Int) := by
        rw [← zpow_add₀ (by norm_num), ← first]
        congr 1
        ring
      _ ≤ num := two_zpow_log2_le numerator
  · calc (num : ℚ)
        < 2 ^ ((Nat.log2 num : Int) + 1) := lt_two_zpow_log2 num
      _ = 2 ^ (bits + 1) * 2 ^ (Nat.log2 den : Int) := by
        rw [← zpow_add₀ (by norm_num), ← first]
        congr 1
        ring
      _ ≤ 2 ^ (bits + 1) * den :=
          mul_le_mul_of_nonneg_left (two_zpow_log2_le denominator) (by positivity)

omit numerator in
theorem scaleUp_le_scaleUp_iff (e : Int) :
    scaleUp e den ≤ scaleUp (-e) num ↔ (2 : ℚ) ^ e ≤ num / den := by
  have positive : (0 : ℚ) < scaleUp e den := by exact_mod_cast scaleUp_pos e denominator
  rw [← @Nat.cast_le ℚ, ← one_le_div positive, scaleUp_div_scaleUp, one_le_div (by positivity)]

/-- **The last bit that is kept** is the one 52 places behind the first, unless that of the
smallest number of the format is before it. -/
theorem unitExponent_spec :
    -1074 ≤ unitExponent num den ∧ (num : ℚ) / den / 2 ^ unitExponent num den < 2 ^ 53 ∧
      (unitExponent num den = -1074 ∨ 2 ^ 52 ≤ (num : ℚ) / den / 2 ^ unitExponent num den) := by
  generalize bits_eq : (Nat.log2 num : Int) - Nat.log2 den = bits
  obtain ⟨low, high⟩ := quotient_bounds numerator denominator bits_eq
  have first : unitExponent num den =
      max (if (2 : ℚ) ^ bits ≤ num / den then bits - 52 else bits - 53) (-1074) := by
    simp only [unitExponent, bits_eq, decide_eq_true_eq, scaleUp_le_scaleUp_iff denominator]
  obtain ⟨least, above, exact_⟩ : -1074 ≤ unitExponent num den ∧
      (if (2 : ℚ) ^ bits ≤ num / den then bits else bits - 1) + 1 ≤ unitExponent num den + 53 ∧
      (unitExponent num den = -1074 ∨
        unitExponent num den + 52 = if (2 : ℚ) ^ bits ≤ num / den then bits else bits - 1) := by
    rw [first]
    split_ifs <;> omega
  have unit : (0 : ℚ) < 2 ^ unitExponent num den := by positivity
  refine ⟨least, ?_, exact_.imp_right fun same => ?_⟩
  · rw [div_lt_iff₀ unit, two_pow_mul_two_zpow]
    refine lt_of_lt_of_le ?_ (zpow_le_zpow_right₀ (by norm_num) above)
    split_ifs with atLeast
    · exact high
    · rw [sub_add_cancel]
      exact not_le.mp atLeast
  · rw [le_div_iff₀ unit, two_pow_mul_two_zpow, Nat.cast_ofNat, same]
    split_ifs with atLeast
    · exact atLeast
    · exact low

omit numerator in
/-- A mantissa is half a unit off at most. -/
theorem abs_mantissa_sub_le (e : Int) :
    |(roundQuotient (scaleUp (-e) num) (scaleUp e den) : ℚ) - num / den / 2 ^ e| ≤ 1 / 2 := by
  rw [← scaleUp_div_scaleUp]
  exact abs_roundQuotient_sub_le _ (scaleUp_pos e denominator)

/-- **A quotient is too large for the format from the limit on.** -/
theorem mantissa_lt_iff {m : Nat} {e : Int} (exponent : unitExponent num den = e)
    (mantissa : roundQuotient (scaleUp (-e) num) (scaleUp e den) = m) :
    (m : ℚ) * 2 ^ e.toNat < 2 ^ 1024 ↔ (num : ℚ) / den < limit := by
  obtain ⟨-, above, below⟩ := unitExponent_spec numerator denominator
  have near := @abs_mantissa_sub_le num den denominator e
  have exactly : m < 2 ^ 53 ↔ (num : ℚ) / den / 2 ^ e < (2 ^ 53 : Nat) - 1 / 2 := by
    rw [← scaleUp_div_scaleUp, ← mantissa]
    exact roundQuotient_lt_iff _ (scaleUp_pos e denominator) (by norm_num)
  rw [exponent] at above below
  rw [mantissa, abs_le] at near
  -- the quotient in units of the last bit
  obtain ⟨units, counted⟩ : ∃ units : ℚ, (num : ℚ) / den = units * 2 ^ e :=
    ⟨num / den / 2 ^ e, (div_mul_cancel₀ _ (by positivity)).symm⟩
  rw [counted, mul_div_cancel_right₀ _ (by positivity)] at above below near exactly
  rw [counted]
  rcases lt_trichotomy e 971 with small | rfl | large
  · have fits : m ≤ 2 ^ 53 := by
      have : (m : ℚ) < (2 ^ 53 + 1 : Nat) := by push_cast; linarith
      exact Nat.lt_succ_iff.mp (Nat.cast_lt.mp this)
    obtain ⟨finite, less⟩ := @lt_limit_of_small m e units (by omega) fits above
    exact iff_of_true finite less
  · exact lt_limit_iff_of_last exactly
  · have reached : 2 ^ 52 ≤ units := below.resolve_left (by omega)
    have reached' : 2 ^ 52 ≤ m := by
      have : ((2 ^ 52 : Nat) : ℚ) < (m + 1 : Nat) := by push_cast; linarith
      exact Nat.lt_succ_iff.mp (Nat.cast_lt.mp this)
    obtain ⟨infinite, more⟩ := limit_le_of_large large reached' reached
    exact iff_of_false infinite.not_gt more.not_gt

/-- **The nearest number** of the format is off by the tolerance at most. -/
theorem abs_scaled_sub_le {m : Nat} {e : Int} (exponent : unitExponent num den = e)
    (mantissa : roundQuotient (scaleUp (-e) num) (scaleUp e den) = m) :
    |(m : ℚ) * 2 ^ e - num / den| ≤ tolerance (num / den) := by
  obtain ⟨-, -, below⟩ := unitExponent_spec numerator denominator
  have near := @abs_mantissa_sub_le num den denominator e
  rw [exponent] at below
  rw [mantissa] at near
  have unit : (0 : ℚ) < 2 ^ e := by positivity
  have scaled : |(m : ℚ) * 2 ^ e - num / den| ≤ 2 ^ e / 2 := by
    have factor : (m : ℚ) * 2 ^ e - num / den = (m - num / den / 2 ^ e) * 2 ^ e := by
      rw [sub_mul, div_mul_cancel₀ _ unit.ne']
    rw [factor, abs_mul, abs_of_pos unit]
    linarith [mul_le_mul_of_nonneg_right near unit.le]
  refine scaled.trans (le_max_iff.mpr (below.symm.imp (fun reached => ?_) fun smallest => ?_))
  · rw [le_div_iff₀ unit] at reached
    linarith
  · have last : (2 : ℚ) ^ e * 2 ^ 1074 = 1 := by
      rw [smallest, ← zpow_natCast, ← zpow_add₀ (by norm_num)]
      rfl
    rw [div_le_div_iff₀ (by norm_num) (by positivity), pow_succ, ← mul_assoc, last]

/-- **The nearest number of the format** is finite below the limit, and infinite from there on. -/
theorem nearest_cases (negative : Bool) :
    ((num : ℚ) / den < limit → ∃ m e, nearest negative num den = finite negative m e ∧
        |(m : ℚ) * 2 ^ e - num / den| ≤ tolerance (num / den)) ∧
      (limit ≤ (num : ℚ) / den → nearest negative num den = infinite negative) := by
  have inRange := mantissa_lt_iff numerator denominator rfl rfl
  have near := abs_scaled_sub_le numerator denominator rfl rfl
  rw [nearest, if_neg numerator.ne']
  -- the literal is taken out of the way before anything computes with it
  generalize width : 1024 = k at inRange ⊢
  dsimp only
  rw [← scaleUp_lt_pow_iff] at inRange
  constructor
  · intro below
    exact ⟨_, _, if_pos (inRange.mpr below), near⟩
  · intro above
    exact if_neg fun fits => absurd (inRange.mp fits) (not_lt.mpr above)

end Nearest

end Binary64

end VerifierTrials.Decimal
