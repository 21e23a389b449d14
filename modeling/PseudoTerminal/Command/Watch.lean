import PseudoTerminal.ExitState
import PseudoTerminal.Fault
import PseudoTerminal.Instant

/-! The watcher of a started command. It listens for the end of the program and for cancellations. The
first cancellation runs the cancel action, or kills the program when there is none; when the action
fails, the program is killed after all. A cancellation counts when it reached a live program. A cancelled
program that outlives the delay is killed once more; a delay that would end behind the last moment of the
clock breaks the watcher down. Times are in microseconds. -/

namespace PseudoTerminal

/-- What a watcher is told. -/
inductive Notice
  /-- The program was waited for. -/
  | exited (result : Except Fault ExitKind)
  | cancelled
  deriving Repr

structure Watch where
  /-- Whether there is a cancel action. -/
  hasAction : Bool := false
  delay : Option Nat := none
  /-- Whether a cancellation was taken up. -/
  cancelled : Bool := false
  /-- Whether the cancellation counts as the cause of the end. -/
  cause : Bool := false
  /-- Whether the program was killed because there was no action. -/
  killed : Bool := false
  /-- When a cancelled program has to be gone. -/
  deadline : Option Nat := none
  deriving DecidableEq, Repr, Inhabited

namespace Watch

/-- What the watcher does next. -/
inductive Demand
  /-- Listen for the next notice, until the deadline if there is one. -/
  | listen
  /-- Run the cancel action. -/
  | act
  /-- Kill the program, for want of an action. -/
  | kill
  /-- Kill the program because the action failed. -/
  | killInstead
  | finish (result : Except Fault ExitState)
  deriving Repr

/-- Takes up a notice. A program that exits with a code was not killed, whatever was sent to it. -/
def notice (w : Watch) : Notice → Demand × Watch
  | .exited (.error f) => (.finish (.error f), w)
  | .exited (.ok kind) =>
    (.finish (.ok ⟨kind, w.cause && !(w.killed && kind.code?.isSome)⟩), w)
  | .cancelled =>
    if w.cancelled then (.listen, w)
    else (if w.hasAction then .act else .kill, { w with cancelled := true })

/-- The outcome of a command whose watcher broke down. -/
def brokenDown : Fault := .text .other "command watcher panicked"

/-- The outcome of a command nobody is going to tell anything of. -/
def reaperGone : Fault := .text .other "process reaper exited without a status"

/-- When a program that is cancelled now has to be gone, if it has to be. -/
def due (w : Watch) (now : Nat) : Except Fault (Option Nat) :=
  match w.delay with
  | none => .ok none
  | some delay =>
    match Instant.after? now delay with
    | some moment => .ok (some moment)
    | none => .error brokenDown

/-- What follows the end of the action, or of the kill for want of one. -/
def reached (w : Watch) (now : Nat) : Except Fault Unit → Demand × Watch
  | .ok () =>
    let w := { w with cause := true, killed := !w.hasAction }
    match w.due now with
    | .ok deadline => (.listen, { w with deadline })
    | .error f => (.finish (.error f), w)
  | .error .processDone => (.listen, w)
  | .error _ => (.killInstead, w)

/-- What follows the kill after a failed action: only a program that was gone before was not reached. -/
def reachedInstead (w : Watch) : Except Fault Unit → Demand × Watch
  | .error .processDone => (.listen, w)
  | _ => (.listen, { w with cause := true })

/-- Whether the delay of a cancelled program is over. -/
def isOverdue (w : Watch) (now : Nat) : Bool := w.deadline.any (· ≤ now)

/-- The delay is over: the program is killed, and not a second time. -/
def expire (w : Watch) : Watch := { w with deadline := none }

end Watch

end PseudoTerminal
