import PseudoTerminal.Error

/-! The life of a command: it is started at most once, and waited for at most once. A start passes its
checks one after the other and takes the lease of the terminal before it spawns; whatever fails leaves
nothing behind. -/

namespace PseudoTerminal

inductive Phase
  | idle
  | running
  /-- Its exit state was asked for. -/
  | awaited
  deriving DecidableEq, Repr, Inhabited

/-- How far a command has come, and the process it runs as. -/
structure Lifecycle where
  phase : Phase := .idle
  pid : Option Nat := none
  deriving DecidableEq, Repr, Inhabited

/-- What a start meets on a host with states `σ`. -/
structure Launchpad (σ : Type) where
  isClosed : σ → Bool
  isCancelled : σ → Bool
  resolve : σ → Except StartError Octets
  /-- Takes the lease of the terminal if it is free. -/
  acquire : σ → Option σ
  /-- Gives the lease back. -/
  release : σ → σ
  /-- Spawns the executable under a path. -/
  spawn : σ → Octets → Except StartError (Nat × σ)

namespace Lifecycle

variable {σ : Type}

/-- Starts the command. -/
def start (pad : Launchpad σ) (l : Lifecycle) (s : σ) : Except StartError Unit × Lifecycle × σ :=
  if l.phase ≠ .idle then (.error .alreadyStarted, l, s)
  else if pad.isClosed s then (.error .closed, l, s)
  else if pad.isCancelled s then (.error .cancelled, l, s)
  else match pad.resolve s with
    | .error e => (.error e, l, s)
    | .ok path =>
      match pad.acquire s with
      | none => (.error .busy, l, s)
      | some s =>
        match pad.spawn s path with
        | .error e => (.error e, l, pad.release s)
        | .ok (pid, s) => (.ok (), ⟨.running, some pid⟩, s)

/-- Begins to wait for the exit state, which only one caller gets. -/
def beginWait (l : Lifecycle) : Except WaitError Lifecycle :=
  match l.phase with
  | .idle => .error .notStarted
  | .awaited => .error .alreadyWaited
  | .running => .ok { l with phase := .awaited }

end Lifecycle

end PseudoTerminal
