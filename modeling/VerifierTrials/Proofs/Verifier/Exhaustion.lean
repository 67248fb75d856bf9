import Mathlib.Data.Rat.Cast.Order
import Mathlib.Tactic.Linarith
import Mathlib.Tactic.Ring
import VerifierTrials.Verifier.Classification

/-!
# Exhausted CPU time

A killed run counts as timed out when it has used up its CPU time, to one in a hundred. What has
been used is known to the nanosecond and is compared in whole milliseconds, in products of whole
numbers only. Cutting off the rest of a millisecond would not do at any threshold, but here it
changes nothing (`Verifier.isExhausted_iff`): ninety-nine hundredths of a number of seconds are
a whole number of milliseconds, and a span reaches such a number exactly when its whole
milliseconds do (`Span.le_milliseconds_iff`). All that is computed on the way fits a word of 128
bits (`Verifier.isExhaustedInWords?_eq`).
-/

namespace VerifierTrials

namespace Span

/-- A span in seconds, with nothing cut off. -/
def exact (span : Span) : ℚ := span.seconds + span.nanoseconds / 1000000000

/-- **A span as it is measured**: its seconds fit a word of 64 bits, and its nanoseconds make less
than a second. -/
structure IsMeasured (span : Span) : Prop where
  seconds : span.seconds < Nat.pow 2 64
  nanoseconds : span.nanoseconds < 1000000000

/-- **A whole number of milliseconds** has gone by when that many whole milliseconds have. -/
theorem le_milliseconds_iff (span : Span) (n : Nat) :
    n ≤ span.milliseconds ↔ (n : ℚ) / 1000 ≤ span.exact := by
  have counted : n ≤ span.milliseconds ↔
      n * 1000000 ≤ span.seconds * 1000000000 + span.nanoseconds := by
    rw [milliseconds]
    omega
  have cast : n * 1000000 ≤ span.seconds * 1000000000 + span.nanoseconds ↔
      (n : ℚ) * 1000000 ≤ span.seconds * 1000000000 + span.nanoseconds := by
    exact_mod_cast Iff.rfl
  rw [counted, cast, exact]
  constructor <;> intro le <;> linarith

end Span

namespace Verifier

/-- **A run has used up its CPU time**: there is a limit, and ninety-nine hundredths of it have
gone by. -/
def HasUsedUp (cpuTime : Span) (limits : Limits) : Prop :=
  ∃ seconds, limits.cpuSeconds = some seconds ∧ 99 / 100 * (seconds : ℚ) ≤ cpuTime.exact

/-- The threshold is a whole number of milliseconds. -/
theorem threshold_le_iff (cpuTime : Span) (seconds : Nat) :
    99 / 100 * (seconds : ℚ) ≤ cpuTime.exact ↔ 990 * seconds ≤ cpuTime.milliseconds := by
  have whole : ((990 * seconds : Nat) : ℚ) / 1000 = 99 / 100 * seconds := by
    push_cast
    ring
  rw [Span.le_milliseconds_iff, whole]

/-- **The comparison of milliseconds is exact.** -/
theorem isExhausted_iff (cpuTime : Span) (limits : Limits) :
    isExhausted cpuTime limits = true ↔ HasUsedUp cpuTime limits := by
  rw [isExhausted, HasUsedUp]
  rcases limits.cpuSeconds with _ | seconds
  · simp
  · simp only [decide_eq_true_eq, Option.some.injEq, exists_eq_left', threshold_le_iff]
    omega

/-- Nothing is lost with the rest of a millisecond. -/
theorem threshold_le_milliseconds_iff (cpuTime : Span) (seconds : Nat) :
    99 / 100 * (seconds : ℚ) ≤ cpuTime.milliseconds / 1000 ↔
      99 / 100 * (seconds : ℚ) ≤ cpuTime.exact := by
  have cast : 990 * seconds ≤ cpuTime.milliseconds ↔
      (990 : ℚ) * seconds ≤ cpuTime.milliseconds := by
    exact_mod_cast Iff.rfl
  rw [threshold_le_iff, cast]
  constructor <;> intro le <;> linarith

/-- A number, if it fits a word of 128 bits. -/
def word? (n : Nat) : Option Nat := if n < Nat.pow 2 128 then some n else none

theorem word?_of_lt {n : Nat} (small : n < Nat.pow 2 128) : word? n = some n := if_pos small

/-- **The comparison in words of 128 bits**, without an answer as soon as a sum or a product does
not fit. -/
def isExhaustedInWords? (cpuTime : Span) (limits : Limits) : Option Bool := do
  let whole ← word? (cpuTime.seconds * 1000)
  let milliseconds ← word? (whole + cpuTime.nanoseconds / 1000000)
  let used ← word? (milliseconds * 100)
  match limits.cpuSeconds with
  | some seconds =>
    let limit ← word? (seconds * 1000)
    let threshold ← word? (limit * 99)
    return threshold ≤ used
  | none => return false

/-- **Nothing overflows**, from any span that can be measured and any limit that can be set. -/
theorem isExhaustedInWords?_eq {cpuTime : Span} {limits : Limits} (measured : cpuTime.IsMeasured)
    (limited : ∀ seconds, limits.cpuSeconds = some seconds → seconds ≤ limitBound) :
    isExhaustedInWords? cpuTime limits = some (isExhausted cpuTime limits) := by
  obtain ⟨few, fewer⟩ := measured
  have bound : Nat.pow 2 64 = 18446744073709551616 := rfl
  have words : Nat.pow 2 128 = 340282366920938463463374607431768211456 := rfl
  rw [bound] at few
  rw [isExhaustedInWords?, word?_of_lt (by omega), Option.bind_eq_bind, Option.bind_some,
    word?_of_lt (by omega), Option.bind_some, word?_of_lt (by omega), Option.bind_some, isExhausted,
    Span.milliseconds]
  rcases limit_eq : limits.cpuSeconds with _ | seconds
  · rfl
  · have small := limited seconds limit_eq
    rw [limitBound, bound] at small
    dsimp only
    rw [word?_of_lt (by omega), Option.bind_some, word?_of_lt (by omega), Option.bind_some]
    rfl

end Verifier

end VerifierTrials
