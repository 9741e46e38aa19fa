import SharedVm.Failure

/-!
# The system

What a process finds on its system, and no operation changes: who the users are, which delays can
be slept, and what can be printed.
-/

namespace SharedVm

structure Users where
  /-- The home directory of the user who runs the process. -/
  own : Option Text := none
  named : Text → Option Text := fun _ => none

namespace System

/-- A delay is counted in nanoseconds, of which there are fewer than this. -/
def nanosecondBound : Nat := 9223372036854775808

def nanosecondsPerSecond : Nat := 1000000000

/-- Why a delay that is greater than zero cannot be slept, as far as that is due to the delay. -/
def overlong? : Value → Option Failure
  | .int n =>
    if nanosecondBound ≤ n.toNat * nanosecondsPerSecond then some (.delayTooLong true) else none
  | .real (.finite _ m e) =>
    let (num, den) := Binary64.magnitude m e
    match Binary64.ofRatio false (num * nanosecondsPerSecond) den with
    | .finite _ m e =>
      if nanosecondBound ≤ Binary64.wholePart m e then some (.delayTooLong false) else none
    | _ => some (.delayTooLong false)
  | .real (.infinite _) => some (.delayTooLong false)
  | _ => none

/-- Why a text cannot be printed where every symbol has to be a character. -/
def unprintable? (t : Text) : Option Failure :=
  (Utf8.firstLone? Utf8.isLone t).map fun (position, run) => .unencodable position run

end System

/-- `sleeping` is what sleeping for a delay fails with, `printing` what printing a text does. -/
structure System where
  users : Users := {}
  sleeping : Value → Option Failure := System.overlong?
  printing : Text → Option Failure := System.unprintable?

end SharedVm
