import VerifierTrials.Text.Basic

/-!
# Moments

Reports are named by the day of the benchmark, or by the day and the minute, and the
terminal shows the time at which a run starts.
-/

namespace VerifierTrials

open VerifierTrials.Text

/-- **A moment** by the calendar and the clock. -/
structure Moment where
  year : Nat
  month : Nat
  day : Nat
  hour : Nat
  minute : Nat
  second : Nat
  deriving DecidableEq, Repr

namespace Moment

/-- A number with zeros in front, to at least the given width. -/
def padded (width n : Nat) : String :=
  let digits := Text.ofNat n
  Text.line '0' (width - digits.length) ++ digits

/-- The day. -/
def dayText (moment : Moment) : String :=
  padded 4 moment.year ++ "-" ++ padded 2 moment.month ++ "-" ++ padded 2 moment.day

/-- The day and the minute, the year in two digits. -/
def minuteText (moment : Moment) : String :=
  padded 2 (moment.year % 100) ++ "-" ++ padded 2 moment.month ++ "-" ++ padded 2 moment.day ++
    "." ++ padded 2 moment.hour ++ padded 2 moment.minute

/-- **The date of a benchmark**, by the day alone or to the minute. -/
def stamp (dayOnly : Bool) (moment : Moment) : String :=
  if dayOnly then moment.dayText else moment.minuteText

/-- The time of day. -/
def clockText (moment : Moment) : String :=
  padded 2 moment.hour ++ ":" ++ padded 2 moment.minute ++ ":" ++ padded 2 moment.second

end Moment

end VerifierTrials
