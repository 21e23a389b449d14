/-! The state behind a cancellation token: a flag that is raised once, and the callbacks that wait for
it. A callback runs when the flag is raised, or at once when it already is; dropping its registration
removes one that has not run. Raising the flag and taking the callbacks are two steps, because other
users of the token may act in between. -/

namespace PseudoTerminal.Cancellation

/-- The state that every clone of a token shares; `α` is what a callback does. -/
structure Token (α : Type) where
  cancelled : Bool := false
  /-- The id of the next registration. -/
  nextId : Nat := 0
  /-- The waiting callbacks in registration order. -/
  pending : List (Nat × α) := []
  deriving Repr, Inhabited

namespace Token

variable {α : Type}

/-- Raises the flag. -/
def raise (t : Token α) : Token α := { t with cancelled := true }

/-- Takes the waiting callbacks away. -/
def take (t : Token α) : List α × Token α := (t.pending.map Prod.snd, { t with pending := [] })

/-- Cancels: the first to raise the flag gets the waiting callbacks to run, everybody else nothing. -/
def cancel (t : Token α) : List α × Token α := if t.cancelled then ([], t) else t.raise.take

/-- Adds a callback to the waiting ones, under the next id. -/
def enlist (t : Token α) (callback : α) : Nat × Token α :=
  (t.nextId, { t with nextId := t.nextId + 1, pending := t.pending ++ [(t.nextId, callback)] })

/-- Registers a callback. A cancelled token takes none, and then there is no id. -/
def register (t : Token α) (callback : α) : Option Nat × Token α :=
  if t.cancelled then (none, t)
  else
    let (id, t) := t.enlist callback
    (some id, t)

/-- The callbacks that go with a registration, as many as still wait. -/
def removed (t : Token α) (id : Nat) : List α := (t.pending.filter fun entry => entry.1 == id).map Prod.snd

/-- Drops a registration: its callback is removed if it still waits. -/
def unregister (t : Token α) (id : Nat) : Token α :=
  { t with pending := t.pending.filter fun entry => entry.1 != id }

/-- The token in a diagnostic. -/
def text (t : Token α) : String :=
  "CancelToken \x7b cancelled: " ++ toString t.cancelled ++ " \x7d"

end Token

end PseudoTerminal.Cancellation
