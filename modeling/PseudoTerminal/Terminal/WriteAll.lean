import PseudoTerminal.Error

/-! Writing a whole buffer through a device that may accept less than it is offered: what was not
accepted is offered again. -/

namespace PseudoTerminal.Terminal

/-- A write: how many octets were accepted, or why none were. -/
abbrev Write (σ : Type) := σ → Octets → Except TransferError Nat × σ

/-- Writes the data piece by piece. A device that accepts nothing is at fault. -/
def writeAll {σ : Type} (write : Write σ) (s : σ) (data : Octets) : Except TransferError Unit × σ :=
  if data = [] then (.ok (), s)
  else
    match write s data with
    | (.error e, s) => (.error e, s)
    | (.ok 0, s) => (.error (.write (.plain .writeZero)), s)
    | (.ok (n + 1), s) => writeAll write s (data.drop (n + 1))
termination_by data.length
decreasing_by
  cases data with
  | nil => contradiction
  | cons b bs => simp only [List.drop_succ_cons, List.length_drop, List.length_cons]; omega

/-- What a prepared device does on one call. -/
inductive Response
  | accept (count : Nat)
  | fail (error : TransferError)
  deriving DecidableEq, Repr

/-- A device that follows a plan, and then accepts all. -/
structure Prepared where
  plan : List Response
  /-- How much each call offered, last first. -/
  calls : List Nat := []
  written : Octets := []
  deriving DecidableEq, Repr

def Prepared.write : Write Prepared := fun d data =>
  let called := { d with calls := data.length :: d.calls, plan := d.plan.tail }
  match d.plan.head? with
  | some (.fail e) => (.error e, called)
  | some (.accept n) =>
    let n := min n data.length
    (.ok n, { called with written := called.written ++ data.take n })
  | none => (.ok data.length, { called with written := called.written ++ data })

end PseudoTerminal.Terminal
