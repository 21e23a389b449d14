/-! The lease of a terminal, which one live command at a time may hold. A guard proves possession and
gives the lease back when it is dropped. -/

namespace PseudoTerminal

/-- Whether the lease is taken. -/
structure Lease where
  busy : Bool := false
  deriving DecidableEq, Repr, Inhabited

namespace Lease

/-- Takes the lease; only a free one can be taken. -/
def acquire? (lease : Lease) : Option Lease := if lease.busy then none else some ⟨true⟩

/-- Gives the lease back. -/
def release (_ : Lease) : Lease := ⟨false⟩

/-- A lease and the names under which guards of it are kept. -/
structure Desk where
  lease : Lease := {}
  guards : List String := []
  deriving DecidableEq, Repr, Inhabited

inductive Request
  | acquire (guard : String)
  | release (guard : String)
  deriving DecidableEq, Repr

/-- Serves a request and tells whether it was granted: a free lease is taken, a kept guard dropped. -/
def Desk.serve (desk : Desk) : Request → Bool × Desk
  | .acquire guard =>
    match desk.lease.acquire? with
    | some lease => (true, ⟨lease, guard :: desk.guards⟩)
    | none => (false, desk)
  | .release guard =>
    if desk.guards.contains guard then (true, ⟨desk.lease.release, desk.guards.erase guard⟩)
    else (false, desk)

/-- The answers to a sequence of requests on a free lease. -/
def serveAll (requests : List Request) : List Bool :=
  (requests.foldl (fun (answers, desk) r =>
    let (answer, desk) := Desk.serve desk r
    (answer :: answers, desk)) ([], ({} : Desk))).1.reverse

end Lease

end PseudoTerminal
