import PseudoTerminal.Session.World

/-! Scripts of calls on the handle of one child that runs away from any terminal. -/

namespace PseudoTerminal.Session.HandleScript

open Host (Kernel Program)

inductive Step
  | id
  | tryWait
  | wait
  /-- In microseconds. -/
  | waitWithin (duration : Nat)
  | kill
  | signal (signal : Nat)
  /-- Signals while somebody else waits. -/
  | signalWhileWaiting (signal : Nat)
  deriving DecidableEq, Repr

inductive Answer
  | truth (value : Bool)
  | status (kind : Option ExitKind)
  | done
  | fault (fault : Fault)
  | both (first second : Answer)
  /-- The step would never end. -/
  | endless
  deriving Repr

/-- The handle and the world around its child. -/
structure State where
  handle : Child.Handle
  world : World

namespace State

/-- Does something by the handle. -/
def byHandle {α : Type} (s : State)
    (f : Child.Custody (Kernel Program) → Child.Handle → Kernel Program →
      α × Child.Handle × Kernel Program) : α × State :=
  let (result, handle, kernel) := f (Host.custody s.handle.pid) s.handle s.world.kernel
  (result, ⟨handle, { s.world with kernel }⟩)

/-- Waits until a try by the handle gives a result. -/
def waitFor {α : Type} (own : State → List Nat) (f : State → Option α × State) :
    Nat → State → Option α × State
  | 0, s => (none, s)
  | fuel + 1, s =>
    match f s with
    | (some a, s) => (some a, s)
    | (none, s) =>
      match s.world.kernel.advance Program.step (own s) with
      | some kernel => waitFor own f fuel { s with world := { s.world with kernel } }
      | none => (none, s)

def statusOf : Except Fault (Option ExitKind) → Answer
  | .ok kind => .status kind
  | .error f => .fault f

def doneOf : Except Fault Unit → Answer
  | .ok () => .done
  | .error f => .fault f

def tryWait (s : State) : Except Fault (Option ExitKind) × State := s.byHandle fun c h k => h.tryWait c k

def wait (s : State) : Answer × State :=
  let (result, s) := waitFor (fun _ => []) (fun s => s.byHandle fun c h k => h.wait? c k) World.patience s
  (match result with
    | some (.ok kind) => .status (some kind)
    | some (.error f) => .fault f
    | none => .endless, s)

/-- Looks at the child until it has ended or the deadline is reached, with pauses in between. -/
def waitUntil (deadline : Nat) : Nat → State → Answer × State
  | 0, s => (.endless, s)
  | fuel + 1, s =>
    match s.tryWait with
    | (.error f, s) => (.fault f, s)
    | (.ok status, s) =>
      match Child.TimedWait.move deadline s.world.clock status with
      | .answer kind => (.status kind, s)
      | .pause d => waitUntil deadline fuel { s with world := s.world.sleepUntil (s.world.clock + d) }

/-- Waits for so long at most, if the clock can hold the end of that. -/
def waitWithin (s : State) (duration : Nat) : Answer × State :=
  match Instant.after? s.world.clock duration with
  | some deadline => waitUntil deadline (duration / Child.TimedWait.interval + 2) s
  | none => (.fault Child.TimedWait.overflow, s)

def signal (s : State) (signal : Nat) : Answer × State :=
  if Signal.isStandard signal then
    let (result, s) := s.byHandle fun c h k => h.signal c k signal
    (doneOf result, s)
  else (.fault .invalidArgument, s)

/-- How long the waiting goes on before the signal is sent, in microseconds. -/
def signalDelay : Nat := 20000

def perform (s : State) : Step → Answer × State
  | .id => (.truth true, s)
  | .tryWait =>
    let (result, s) := s.tryWait
    (statusOf result, s)
  | .wait => s.wait
  | .waitWithin d => s.waitWithin d
  | .kill => s.signal Signal.kill
  | .signal n => s.signal n
  | .signalWhileWaiting n =>
    let moment := s.world.clock + signalDelay
    let (ended, s) := waitFor (fun _ => [moment]) (fun s =>
      match s.byHandle fun c h k => h.wait? c k with
      | (some result, s) => (some (some result), s)
      | (none, s) => (if moment ≤ s.world.clock then some none else none, s)) World.patience s
    let s := { s with world := s.world.sleepUntil moment }
    let (signalled, s) := s.signal n
    match ended with
    | some (some result) => (.both signalled (statusOf (result.map some)), s)
    | _ =>
      let (result, s) := s.wait
      (.both signalled result, s)

end State

/-- The answers to the steps of a script about a child that was just spawned. -/
def run (world : World) (pid : Nat) (script : List Step) : List Answer :=
  (script.foldl (fun (answers, s) step =>
    let (a, s) := s.perform step
    (a :: answers, s)) (([] : List Answer), ({ handle := ⟨pid, none⟩, world } : State))).1.reverse

end PseudoTerminal.Session.HandleScript
