import PseudoTerminal.ExitState
import PseudoTerminal.Fault

/-! Waiting for a child up to a deadline. A host has no such wait, so the child is looked at again and
again, with a pause of one interval between two looks that the deadline may cut short. A wait whose deadline
the clock cannot hold panics before its first look. Times are in microseconds. -/

namespace PseudoTerminal.Child.TimedWait

/-- The longest pause between two looks. -/
def interval : Nat := 10000

/-- What a wait panics with whose deadline the clock cannot hold. -/
def overflow : Fault := .text .other "overflow when adding duration to instant"

/-- What follows a look at the child. -/
inductive Move
  /-- The wait is over, with the end of the child if there was one. -/
  | answer (kind : Option ExitKind)
  | pause (duration : Nat)
  deriving DecidableEq, Repr

/-- What to do after a look that found `status`, when it is `now`. -/
def move (deadline now : Nat) : Option ExitKind → Move
  | some kind => .answer (some kind)
  | none => if deadline ≤ now then .answer none else .pause (min interval (deadline - now))

end PseudoTerminal.Child.TimedWait
