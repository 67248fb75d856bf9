/-!
# Rounding a quotient

One rule serves reading a decimal numeral and writing it with a fixed number of
places: a quotient of natural numbers goes to the nearest natural number, and a
quotient half way between two of them to the **even** one.
-/

namespace VerifierTrials.Decimal

/-- **The nearest natural number to a quotient, ties to even.** -/
def roundQuotient (num den : Nat) : Nat :=
  let q := num / den
  let r := num % den
  if 2 * r < den then q
  else if den < 2 * r then q + 1
  else if q % 2 = 0 then q else q + 1

end VerifierTrials.Decimal
