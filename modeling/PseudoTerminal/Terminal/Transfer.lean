import PseudoTerminal.Error

/-! One read or write on the host side of a terminal. The call looks whether the device is ready or the
terminal was closed, tries when it is ready, and looks again when somebody else was faster. A terminal
that is closed ends the call at its next look. -/

namespace PseudoTerminal.Terminal

/-- How a look at the device ended. -/
inductive Look
  /-- The time that the caller gave is over. -/
  | expired
  | interrupted
  | failed (fault : Fault)
  /-- The terminal was closed meanwhile, or the device is ready, or both. -/
  | noticed (closed ready : Bool)
  deriving DecidableEq, Repr

/-- How an attempt to transfer octets ended. -/
inductive Attempt (α : Type)
  | done (value : α)
  /-- There was nothing to transfer after all, or the attempt was interrupted. -/
  | again
  | failed (fault : Fault)
  deriving DecidableEq, Repr

/-- Where a call stands. -/
inductive Stage (α : Type)
  | looking
  | trying
  | finished (result : Except TransferError α)
  deriving Repr

namespace Stage

variable {α : Type}

/-- The flag that says whether the terminal is closed is read before every look. -/
def beforeLook (closed : Bool) : Stage α → Stage α
  | looking => if closed then finished (.error .closed) else looking
  | stage => stage

/-- A look goes wrong in the caller's direction, and time runs out in the caller's way. -/
def afterLook (wrap : Fault → TransferError) (expired : Stage α) : Look → Stage α
  | .expired => expired
  | .interrupted => looking
  | .failed f => finished (.error (wrap f))
  | .noticed true _ => finished (.error .closed)
  | .noticed false true => trying
  | .noticed false false => looking

end Stage

/-! ### Reading -/

/-- The start of a read, which has all the time it needs: no room for data asks for nothing. -/
def startRead (closed : Bool) (room : Nat) : Stage (Option Octets) :=
  if room = 0 then .finished (.ok (some []))
  else if closed then .finished (.error .closed)
  else .looking

/-- The start of a read that gives up in time. -/
def startTimedRead (closed : Bool) (room : Nat) : Stage (Option Octets) :=
  if closed then .finished (.error .closed)
  else if room = 0 then .finished (.ok (some []))
  else .looking

/-- The longest time that a look gets, in milliseconds. -/
def longestLook : Nat := Nat.pow 2 31 - 1

/-- What a look gets of a timeout, both in microseconds: whole milliseconds. -/
def lookTime (timeout : Nat) : Nat := min (timeout / 1000) longestLook * 1000

/-- A read that has found nothing in time answers so. -/
def afterReadLook : Look → Stage (Option Octets) := .afterLook .read (.finished (.ok none))

/-- A device that nobody holds open any more is at its end. -/
def afterFetch : Attempt Octets → Stage (Option Octets)
  | .done data => .finished (.ok (some data))
  | .again => .looking
  | .failed f => if f = .inputOutput then .finished (.ok (some [])) else .finished (.error (.read f))

/-! ### Writing -/

def startWrite (closed : Bool) (data : Octets) : Stage Nat :=
  if closed then .finished (.error .closed)
  else if data = [] then .finished (.ok 0)
  else .looking

/-- A write has all the time it needs; a look that ends early leads to an attempt. -/
def afterWriteLook : Look → Stage Nat := .afterLook .write .trying

def afterStore : Attempt Nat → Stage Nat
  | .done n => .finished (.ok n)
  | .again => .looking
  | .failed f => .finished (.error (.write f))

end PseudoTerminal.Terminal
