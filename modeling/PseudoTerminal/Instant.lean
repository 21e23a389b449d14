/-! Moments of the clock, in microseconds. The clock holds its seconds in a signed word of 64 bits, so there is
a first moment that is too late for it. A sum that comes there or behind is no moment. -/

namespace PseudoTerminal.Instant

/-- The first moment that the clock cannot hold. -/
def horizon : Nat := Nat.pow 2 63 * 1000000

/-- The moment that is so much later, if the clock can hold it. -/
def after? (now duration : Nat) : Option Nat :=
  if now + duration < horizon then some (now + duration) else none

end PseudoTerminal.Instant
