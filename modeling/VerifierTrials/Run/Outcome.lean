import VerifierTrials.Decimal.Binary64

/-!
# The outcome of a run

What is observed of a finished run: its exit code, or the negated number of the signal
that killed it, its output, and the time that it took by the clock and on the CPU. What lies
between two readings of the clocks is cut off at zero, should a clock go backwards.
-/

namespace VerifierTrials

/-- A span of time. -/
structure Span where
  seconds : Nat := 0
  nanoseconds : Nat := 0
  deriving DecidableEq, Repr

namespace Span

/-- Two spans, one after the other. -/
def add (a b : Span) : Span :=
  let nanoseconds := a.nanoseconds + b.nanoseconds
  ⟨a.seconds + b.seconds + nanoseconds / 1000000000, nanoseconds % 1000000000⟩

/-- A span in nanoseconds. -/
def inNanoseconds (span : Span) : Nat := span.seconds * 1000000000 + span.nanoseconds

/-- How much longer a span is than another one, and nothing if it is not. -/
def since (later earlier : Span) : Span :=
  let more := later.inNanoseconds - earlier.inNanoseconds
  ⟨more / 1000000000, more % 1000000000⟩

/-- A span in whole milliseconds, the rest cut off. -/
def milliseconds (span : Span) : Nat := span.seconds * 1000 + span.nanoseconds / 1000000

/-- A span in seconds, written with a fixed number of places. -/
def text (places : Nat) (span : Span) : String :=
  String.ofList ((Decimal.Binary64.ofSeconds span.seconds span.nanoseconds).toFixed places)

end Span

/-- **Time on the CPU and by the clock**: what is read of both, or what has gone by on them. -/
structure Times where
  cpuTime : Span := {}
  wallTime : Span := {}
  deriving DecidableEq, Repr

namespace Times

/-- Times, one after the other. -/
def add (a b : Times) : Times := ⟨a.cpuTime.add b.cpuTime, a.wallTime.add b.wallTime⟩

/-- **The times between two readings.** -/
def since (later earlier : Times) : Times :=
  ⟨later.cpuTime.since earlier.cpuTime, later.wallTime.since earlier.wallTime⟩

end Times

/-- **What is observed of a run.** -/
structure Outcome where
  exitCode : Int
  output : String
  cpuTime : Span := {}
  wallTime : Span := {}
  deriving DecidableEq, Repr

end VerifierTrials
