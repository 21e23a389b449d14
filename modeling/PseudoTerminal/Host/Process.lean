import PseudoTerminal.ExitState
import PseudoTerminal.Files.Tree
import PseudoTerminal.Host.Signal

/-! The processes of a host. A process belongs to a group and a session, has descriptors and
arrangements for signals, and runs a program; when it has ended it stays until it is waited for. -/

namespace PseudoTerminal.Host

/-- What a blocked process waits for. -/
inductive Wait
  /-- A moment of the clock. -/
  | time (moment : Nat)
  /-- Something to read from an open file, as much as `n` octets if that is asked for. -/
  | input (file n : Nat)
  /-- Room to write to an open file. -/
  | output (file : Nat)
  /-- The end of a child. -/
  | child
  /-- The end of a child, or that one was stopped. -/
  | childNews
  /-- Only a signal can end the wait. -/
  | signal
  deriving DecidableEq, Repr

inductive Condition
  | running
  | waiting (what : Wait)
  | stopped
  /-- It gives its memory back until a moment, and has ended then. It still looks alive. -/
  | leaving (kind : ExitKind) (moment : Nat)
  | ended (kind : ExitKind)
  deriving DecidableEq, Repr

/-- A descriptor: its number, the open file behind it, and whether a new program inherits it. -/
structure Descriptor where
  number : Nat
  file : Nat
  inherited : Bool := true
  deriving DecidableEq, Repr

/-- A process that runs a program of type `π`. -/
structure Process (π : Type) where
  pid : Nat
  parent : Nat
  group : Nat
  session : Nat
  user : Nat := 0
  userGroup : Nat := 0
  /-- The other groups that the user counts in. -/
  moreGroups : List Nat := [0]
  args : List Octets
  /-- The entries that the program was started with. -/
  environment : List Octets
  /-- The short name of the program. -/
  title : Octets
  cwd : Place
  /-- The permissions that new files do not get. -/
  umask : Nat := 0o022
  descriptors : List Descriptor := []
  ignored : List Signal := []
  caught : List Signal := []
  /-- Signals that arrived and are not dealt with yet, oldest first. -/
  pending : List Signal := []
  condition : Condition := .running
  /-- The signal that stopped it, until somebody takes notice. -/
  stopNews : Option Signal := none
  /-- How many octets it has taken up at once, at most. -/
  memory : Nat := 0
  program : π

namespace Process

variable {π : Type}

def hasEnded (p : Process π) : Bool :=
  match p.condition with
  | .ended _ => true
  | _ => false

/-- No signal makes a difference any more. -/
def isBeyond (p : Process π) : Bool :=
  match p.condition with
  | .leaving _ _ | .ended _ => true
  | _ => false

/-- The open file behind a descriptor. -/
def file? (p : Process π) (number : Nat) : Option Nat :=
  (p.descriptors.find? (·.number == number)).map Descriptor.file

/-- Binds a descriptor to an open file. -/
def bind (p : Process π) (d : Descriptor) : Process π :=
  { p with descriptors := d :: p.descriptors.filter (·.number != d.number) }

def unbind (p : Process π) (number : Nat) : Process π :=
  { p with descriptors := p.descriptors.filter (·.number != number) }

/-- The first free descriptor number from `start` on. -/
def freeNumber (p : Process π) (start : Nat) : Nat :=
  ((List.range (p.descriptors.length + 1)).map (· + start)).find? (fun n =>
    p.descriptors.all (·.number != n)) |>.getD start

end Process

end PseudoTerminal.Host
