import PseudoTerminal.ExitState
import PseudoTerminal.Fault
import PseudoTerminal.Host.Signal

/-! Cancel actions as sequences of moves on the handle of the child. A move that fails ends its action
with the fault; an action that comes to its end has reached the child. -/

namespace PseudoTerminal

/-- One move of a cancel action. -/
inductive Move
  | signal (signal : Nat)
  /-- Notes that the child has a number. -/
  | noteId
  /-- Notes the end of the child as far as it is known. -/
  | noteStatus
  /-- Waits for the end of the child and notes it. -/
  | noteEnd
  /-- Waits for the end of the child for so many microseconds and notes what it found. -/
  | noteEndWithin (duration : Nat)
  | fail (fault : Fault)
  /-- Breaks the watcher down. -/
  | breakDown
  deriving DecidableEq, Repr

/-- What an action noted. -/
inductive Note
  | truth (value : Bool)
  | status (kind : Option ExitKind)
  | fault (fault : Fault)
  deriving DecidableEq, Repr

abbrev Action := List Move

namespace Action

def signal (s : Nat) : Action := [.signal s]

def kill : Action := [.signal Signal.kill]

/-- Kills, waits for the end, and kills again, which finds nobody. -/
def killTwice : Action := [.signal Signal.kill, .noteEnd, .noteStatus, .signal Signal.kill]

/-- Signals, and waits up to ten seconds for the end. -/
def signalThenWait (s : Nat) : Action := [.noteId, .noteStatus, .signal s, .noteEndWithin 10000000]

/-- Gives the child some time, and kills. -/
def timedWait (duration : Nat) : Action := [.noteEndWithin duration, .signal Signal.kill]

def fail (f : Fault) : Action := [.fail f]

end Action

end PseudoTerminal
