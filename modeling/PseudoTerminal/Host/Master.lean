import PseudoTerminal.Host.Kernel
import PseudoTerminal.Lease
import PseudoTerminal.Terminal.Transfer

/-! The host side of a terminal: it types, reads what is shown, sets the size, and lets go of the device
once, for good. One command at a time may live on it, which the lease sees to. -/

namespace PseudoTerminal.Host

open Terminal (Device Look Attempt Stage)

structure Master where
  /-- The number of the device. -/
  device : Nat
  closed : Bool := false
  lease : Lease := {}
  deriving Repr, Inhabited

namespace Kernel

variable {π : Type}

/-- Adds a terminal device. -/
def addTerminal (k : Kernel π) (size : WindowSize) : Nat × Kernel π :=
  let number := k.terminals.length
  (number, { k with terminals := k.terminals ++ [(number, { size := size })] })

end Kernel

namespace Master

variable {π : Type}

/-- Opens a terminal of a size. -/
def openIn (k : Kernel π) (size : WindowSize) : Except OpenError (Master × Kernel π) :=
  if size.isValid then
    let (device, k) := k.addTerminal size
    .ok ({ device }, k)
  else .error (.invalidSize size)

/-- Does something with the device, as long as the terminal is not closed. -/
def control {α : Type} (m : Master) (k : Kernel π) (f : Device → α) : Except ResizeError α :=
  match m.closed, k.terminal? m.device with
  | false, some d => .ok (f d)
  | _, _ => .error .closed

def size (m : Master) (k : Kernel π) : Except ResizeError WindowSize := m.control k Device.size

/-- Sets the size and tells the foreground of the terminal. -/
def resize (m : Master) (k : Kernel π) (size : WindowSize) : Except ResizeError (Kernel π) :=
  if !size.isValid then .error (.invalidSize size)
  else (m.control k id).map fun _ => k.resizeTerminal m.device size

/-- Closes the terminal; closing it again does nothing. -/
def close (m : Master) (k : Kernel π) : Master × Kernel π :=
  if m.closed then (m, k) else ({ m with closed := true }, k.hangUpTerminal m.device)

/-! ### Transfers -/

/-- A look that returns at once: for reading, whether something is shown. -/
def lookToRead (m : Master) (k : Kernel π) : Look :=
  .noticed m.closed ((k.terminal? m.device).any fun d => !d.shown.isEmpty)

/-- A look that returns at once: for writing, whether there is room. -/
def lookToWrite (m : Master) (k : Kernel π) : Look :=
  .noticed m.closed ((k.terminal? m.device).any fun d => 0 < d.typedRoom)

/-- Takes at most `room` octets of what is shown. -/
def fetch (m : Master) (k : Kernel π) (room : Nat) : Attempt Octets × Kernel π :=
  match k.terminal? m.device with
  | none => (.failed .inputOutput, k)
  | some d =>
    match d.hostRead room with
    | ([], _) => (.again, k)
    | (data, d) => (.done data, k.setTerminal m.device d)

/-- Types as much as there is room for; keys that signal reach the foreground. -/
def store (m : Master) (k : Kernel π) (data : Octets) : Attempt Nat × Kernel π :=
  match k.terminal? m.device with
  | none => (.failed .inputOutput, k)
  | some d =>
    match d.hostWrite data with
    | (0, _, _) => (.again, k)
    | (n, d, signals) => (.done n, (k.setTerminal m.device d).signalForeground d signals)

/-- One round of a read: a look, and an attempt if it was worth one. -/
def readOnce (m : Master) (k : Kernel π) (room : Nat) (late : Bool) (stage : Stage (Option Octets)) :
    Stage (Option Octets) × Kernel π :=
  match stage.beforeLook m.closed with
  | .looking =>
    let look := m.lookToRead k
    let look := if late && look == .noticed false false then .expired else look
    match Terminal.afterReadLook look with
    | .trying =>
      let (attempt, k) := m.fetch k room
      (Terminal.afterFetch attempt, k)
    | stage => (stage, k)
  | stage => (stage, k)

/-- One round of a write. -/
def writeOnce (m : Master) (k : Kernel π) (data : Octets) (stage : Stage Nat) :
    Stage Nat × Kernel π :=
  match stage.beforeLook m.closed with
  | .looking =>
    match Terminal.afterWriteLook (m.lookToWrite k) with
    | .trying =>
      let (attempt, k) := m.store k data
      (Terminal.afterStore attempt, k)
    | stage => (stage, k)
  | stage => (stage, k)

end Master

end PseudoTerminal.Host
