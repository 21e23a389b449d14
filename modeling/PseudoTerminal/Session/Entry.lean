import PseudoTerminal.Session.World

/-! A command, and what became of it. It is started at most once: a start that succeeds takes the cancel
action and makes a job. The first wait after that is for the outcome of the job. -/

namespace PseudoTerminal.Session

structure Entry where
  command : Command Action Nat
  terminal : Nat
  life : Lifecycle := {}
  job : Option Nat := none

namespace Entry

/-- Starts the command where it meets `pad`. -/
def startWith (pad : Launchpad World) (e : Entry) (w : World) :
    Except StartError Unit × Entry × World :=
  match w.startWith pad e.terminal e.command e.life with
  | (.error f, life, w) => (.error f, { e with life }, w)
  | (.ok job, life, w) =>
    (.ok (), { e with life, job := some job, command := { e.command with action := none } }, w)

/-- Starts the command on its terminal. -/
def start (e : Entry) (w : World) : Except StartError Unit × Entry × World :=
  e.startWith (World.launchpad e.terminal e.command) w

/-- Waits for the command; nothing when nothing can end the wait. -/
def wait (e : Entry) (w : World) : Option (Except WaitError ExitState) × Entry × World :=
  match e.life.beginWait with
  | .error f => (some (.error f), e, w)
  | .ok life =>
    let e := { e with life }
    match e.job with
    | none => (none, e, w)
    | some job =>
      let (result, w) := w.await job
      (result.map (Except.mapError WaitError.os), e, w)

end Entry

end PseudoTerminal.Session
