import PseudoTerminal.WindowSize

/-! The resizer carries the size of a console over to a terminal. It looks at the console from time to
time and passes on what differs from its last look. -/

namespace PseudoTerminal.Relay

/-- The shortest time between two looks, in milliseconds. -/
def shortestPoll : Nat := 10

structure Resizer where
  /-- The size at the last look, if the console had one. -/
  last : Option WindowSize
  deriving DecidableEq, Repr, Inhabited

namespace Resizer

/-- A look at the console: the size to set, if it is another one. -/
def poll (r : Resizer) (current : Option WindowSize) : Option WindowSize × Resizer :=
  if current = r.last then (none, r) else (current, ⟨current⟩)

end Resizer

/-- The size of a new terminal: what is configured, else the console's, else the usual one. -/
def initialSize (rows cols : Option UInt16) (console : Option WindowSize) : WindowSize :=
  let size := (console.filter WindowSize.isValid).getD {}
  ⟨rows.getD size.rows, cols.getD size.cols⟩

end PseudoTerminal.Relay
