/-!
# Resource limits

A run may be limited in the CPU time and in the address space that it uses. A limit
is a pair of a soft and a hard value, as the operating system takes it; definitions
give one number for both. Sizes are given in mebibytes and saturate at the largest
value that a limit can have.
-/

namespace VerifierTrials

/-- The largest value of a limit. -/
def limitBound : Nat := Nat.pow 2 64 - 1

/-- How many bytes a mebibyte has. -/
def bytesPerMebibyte : Nat := Nat.pow 2 20

/-- The soft and the hard value of one limit. -/
structure Limit where
  soft : Nat
  hard : Nat
  deriving DecidableEq, Repr

/-- A limit whose two values are the same. -/
def Limit.both (value : Nat) : Limit := ⟨value, value⟩

/-- What can be limited. -/
inductive Resource where
  /-- CPU time in seconds. -/
  | cpuTime
  /-- Address space in bytes. -/
  | addressSpace
  deriving DecidableEq, Repr

/-- **The limits of a run.** -/
structure Limits where
  cpuTime : Option Limit := none
  addressSpace : Option Limit := none
  deriving DecidableEq, Repr

namespace Limits

/-- The limits that a definition gives in mebibytes and in seconds. -/
def ofDefinition (mebibytes seconds : Option Nat) : Limits :=
  ⟨seconds.map Limit.both,
    mebibytes.map fun n => Limit.both (min (n * bytesPerMebibyte) limitBound)⟩

/-- The limits with one of them set. -/
def set (limits : Limits) (resource : Resource) (limit : Limit) : Limits :=
  match resource with
  | .cpuTime => { limits with cpuTime := some limit }
  | .addressSpace => { limits with addressSpace := some limit }

/-- Whether nothing is limited. -/
def isEmpty (limits : Limits) : Bool := limits.cpuTime.isNone && limits.addressSpace.isNone

/-- The hard limit of the CPU time, in seconds. -/
def cpuSeconds (limits : Limits) : Option Nat := limits.cpuTime.map Limit.hard

/-- The hard limit of the address space, in whole mebibytes. -/
def memoryMebibytes (limits : Limits) : Option Nat :=
  limits.addressSpace.map fun limit => limit.hard / bytesPerMebibyte

end Limits

end VerifierTrials
