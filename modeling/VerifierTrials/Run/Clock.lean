import VerifierTrials.Run.Outcome

/-!
# The clock

The clock that deadlines are taken from counts seconds in a signed word of 64 bits, and
nanoseconds below a second. Not every moment that can be thought of is one that it can show:
what lies a span after a moment may be out of its range.
-/

namespace VerifierTrials

/-- **A moment that the clock can show.** -/
structure Instant where
  seconds : Int64
  nanoseconds : Fin 1000000000
  deriving DecidableEq, Repr

namespace Instant

/-- The moment at which the clock has been set going. -/
def origin : Instant := ⟨0, 0⟩

/-- **The moment a span later**, if the clock can show it. -/
def after? (moment : Instant) (span : Span) : Option Instant :=
  let nanoseconds := moment.nanoseconds.val + span.nanoseconds
  let seconds := moment.seconds.toInt + (span.seconds + nanoseconds / 1000000000 : Nat)
  if seconds ≤ Int64.maxValue.toInt then
    some ⟨Int64.ofInt seconds, Fin.ofNat 1000000000 nanoseconds⟩
  else none

/-- How many seconds a moment lies after another one. -/
def secondsAfter (moment earlier : Instant) : Nat :=
  (moment.seconds.toInt - earlier.seconds.toInt).toNat

end Instant

end VerifierTrials
