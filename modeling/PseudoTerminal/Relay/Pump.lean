import PseudoTerminal.Error

/-! The pump copies what a terminal shows to a sink. It reads with a timeout and so notices that the
program is done; then it goes on only as long as output is at hand, and not for longer than a limit, for
programs left behind may never fall silent. Times are in microseconds. -/

namespace PseudoTerminal.Relay

/-- How long a read of the pump waits for output. -/
def outputPoll : Nat := 50000

/-- How long output is still copied once the program is done. -/
def drainLimit : Nat := 1000000

/-- How much one read takes. -/
def chunkSize : Nat := 4096

structure Pump where
  /-- When the copying ends, once output was copied after the program was done. -/
  drainUntil : Option Nat := none
  deriving DecidableEq, Repr, Inhabited

namespace Pump

/-- What the pump does next. -/
inductive Next
  | stop
  | read
  | write (data : Octets)
  deriving DecidableEq, Repr

/-- What follows a read: the end of the terminal and an error stop the pump, and so does silence when
the program is done. -/
def afterRead (done : Bool) : Except TransferError (Option Octets) → Next
  | .ok (some []) => .stop
  | .ok (some data) => .write data
  | .ok none => if done then .stop else .read
  | .error _ => .stop

/-- What follows a write: a sink that fails stops the pump, and so does the limit. The clock is read twice,
to set the limit and to hold it against. -/
def afterWrite (p : Pump) (written done : Bool) (noted now : Nat) : Next × Pump :=
  if !written then (.stop, p)
  else if !done then (.read, p)
  else
    let limit := p.drainUntil.getD (noted + drainLimit)
    (if limit ≤ now then .stop else .read, ⟨some limit⟩)

end Pump

/-- A sink that takes so many octets, or all. -/
structure Sink where
  /-- What was written, in pieces, last first. -/
  pieces : List Octets := []
  room : Option Nat := none
  deriving DecidableEq, Repr, Inhabited

namespace Sink

def written (s : Sink) : Octets := s.pieces.reverse.flatten

/-- Writes as much as there is room for, and tells whether that was all. -/
def write (s : Sink) (data : Octets) : Bool × Sink :=
  match s.room with
  | none => (true, { s with pieces := data :: s.pieces })
  | some n =>
    (data.length ≤ n, { s with pieces := data.take n :: s.pieces, room := some (n - data.length) })

end Sink

end PseudoTerminal.Relay
