import PseudoTerminal.ExitState
import PseudoTerminal.Fault
import PseudoTerminal.Host.Signal

/-! The handle by which a child is watched and signalled. A host keeps a child that has ended until its
end is taken, and then forgets it, so its number may be given to somebody else. The handle remembers
the end that was taken, and sends a signal only right after it has looked and found the child there. -/

namespace PseudoTerminal.Child

/-- How a child stands with the host. -/
inductive Standing
  | running
  /-- The child has ended, and nobody took its end yet. -/
  | ended (kind : ExitKind)
  | gone
  deriving DecidableEq, Repr

/-- What a host with states `σ` offers for one child. -/
structure Custody (σ : Type) where
  standing : σ → Standing
  /-- Takes the end of a child that has ended. -/
  reap : σ → σ
  /-- Sends a signal to the group that the child leads. -/
  signalGroup : σ → Signal → Except Fault Unit × σ
  /-- Sends a signal to the child alone. -/
  signalAlone : σ → Signal → Except Fault Unit × σ

structure Handle where
  pid : Nat
  /-- The end of the child, once it was taken. -/
  known : Option ExitKind := none
  deriving DecidableEq, Repr

/-- There is no child whose end could be taken. -/
def noChild : Fault := .os 10

/-- What a blocking look finds: nothing as long as the child runs, and then that it has ended. The look
cannot report a death by a signal that has no name. -/
def observe : Standing → Option (Except Fault Unit)
  | .running => none
  | .ended (.signal n) => some (if n ≤ 31 then .ok () else .error .invalidArgument)
  | .ended (.code _) => some (.ok ())
  | .gone => some (.ok ())

namespace Handle

variable {σ : Type}

/-- The end of the child if it has ended; taken from the host at the first time. -/
def tryWait (c : Custody σ) (h : Handle) (s : σ) : Except Fault (Option ExitKind) × Handle × σ :=
  match h.known with
  | some kind => (.ok (some kind), h, s)
  | none =>
    match c.standing s with
    | .running => (.ok none, h, s)
    | .ended kind => (.ok (some kind), { h with known := some kind }, c.reap s)
    | .gone => (.error noChild, h, s)

/-- The end of the child for a caller who waits for it; nothing as long as the wait lasts. -/
def wait? (c : Custody σ) (h : Handle) (s : σ) : Option (Except Fault ExitKind) × Handle × σ :=
  match observe (c.standing s) with
  | none => (none, h, s)
  | some (.error f) => (some (.error f), h, s)
  | some (.ok ()) =>
    match h.tryWait c s with
    | (.error f, h, s) => (some (.error f), h, s)
    | (.ok (some kind), h, s) => (some (.ok kind), h, s)
    | (.ok none, h, s) => (none, h, s)

/-- Delivers a signal to the child's group, or to the child alone when it leads none. -/
def deliver (c : Custody σ) (s : σ) (signal : Signal) : Except Fault Unit × σ :=
  match c.signalGroup s signal with
  | (.ok (), s) => (.ok (), s)
  | (.error _, s) => c.signalAlone s signal

/-- Signals the child, unless it has ended. -/
def signal (c : Custody σ) (h : Handle) (s : σ) (signal : Signal) : Except Fault Unit × Handle × σ :=
  match h.tryWait c s with
  | (.error f, h, s) => (.error f, h, s)
  | (.ok (some _), h, s) => (.error .processDone, h, s)
  | (.ok none, h, s) =>
    let (result, s) := deliver c s signal
    (result, h, s)

/-- Kills the child, unless it has ended. -/
def kill (c : Custody σ) (h : Handle) (s : σ) : Except Fault Unit × Handle × σ :=
  h.signal c s Signal.kill

end Handle

end PseudoTerminal.Child
