import PseudoTerminal.Cancellation.Token
import PseudoTerminal.Child.TimedWait
import PseudoTerminal.Command.Action
import PseudoTerminal.Command.Lifecycle
import PseudoTerminal.Command.Watch
import PseudoTerminal.Executable
import PseudoTerminal.Host.Launch
import PseudoTerminal.Host.Master
import PseudoTerminal.Host.Utility

/-! A host with terminals, tokens and started commands. Every started command is a job of two parties
that share the handle of its child: a reaper waits for the end, gives the lease back and says so; a
watcher takes up that notice and those of the token, and runs the cancel action move by move. -/

namespace PseudoTerminal.Session

open Host (Kernel Master Program)
open Cancellation (Token)

/-- A timed wait within an action: when it ends, and when the next look is due. -/
structure Pause where
  deadline : Nat
  wake : Nat
  deriving DecidableEq, Repr

/-- What a watcher is busy with. -/
inductive Work
  | listening
  | acting (rest : Action) (pause : Option Pause)
  | finished (result : Except Fault ExitState)

structure Job where
  handle : Child.Handle
  /-- The terminal whose lease the job holds until its child is reaped. -/
  master : Nat
  action : Option Action := none
  watch : Watch := {}
  work : Work := .listening
  /-- Notices that the watcher has not taken up, oldest first. -/
  notices : List Notice := []
  reaped : Bool := false
  /-- The token that the job registered with, and the id it got. -/
  registration : Option (Nat × Nat) := none

/-- How many steps a move of an action takes, at most. From one look of a timed wait to the next it is a
microsecond at least. -/
def moveRank : Move → Nat
  | .noteEndWithin duration => duration + 2
  | _ => 1

/-- How many steps an action takes, at most, that may be in a timed wait. -/
def actionRank (action : Action) : Option Pause → Nat
  | none => action.foldr (fun move n => moveRank move + n) 0
  | some pause => pause.deadline - pause.wake + 1 + action.tail.foldr (fun move n => moveRank move + n) 0

namespace Job

/-- How many steps a job takes, at most, for what its watcher did not take up yet: those of the reaper, those
for the notices, and those for the first cancellation. -/
def backlog (j : Job) : Nat :=
  (if j.reaped then 0 else 2) + j.notices.length +
    if j.watch.cancelled then 0 else actionRank (j.action.getD []) none + 2

/-- How many steps a job takes, at most, unless it is told of more. -/
def rank (j : Job) : Nat :=
  j.backlog +
    match j.work with
    | .finished _ => 0
    | .listening => if j.watch.deadline.isSome then 2 else 1
    | .acting rest pause => actionRank rest pause + 3

end Job

/-- Terminals, tokens and jobs go by their position. -/
structure World where
  kernel : Kernel Program
  vars : List Variable := []
  cwd : Place := []
  masters : List Master := []
  /-- The callbacks are the jobs to be told. -/
  tokens : List (Token Nat) := []
  /-- Moments at which tokens cancel themselves. -/
  timers : List (Nat × Nat) := []
  jobs : List Job := []
  /-- What the actions noted, last first. -/
  notes : List Note := []

namespace World

def clock (w : World) : Nat := w.kernel.clock

def setMaster (w : World) (i : Nat) (m : Master) : World := { w with masters := w.masters.set i m }

def setJob (w : World) (i : Nat) (j : Job) : World := { w with jobs := w.jobs.set i j }

/-! ### Tokens -/

def addToken (w : World) : Nat × World :=
  (w.tokens.length, { w with tokens := w.tokens ++ [{}] })

/-- Tells a job that its token was cancelled. -/
def tell (w : World) (job : Nat) : World :=
  match w.jobs[job]? with
  | some j => w.setJob job { j with notices := j.notices ++ [.cancelled] }
  | none => w

/-- Cancels a token. -/
def cancel (w : World) (token : Nat) : World :=
  match w.tokens[token]? with
  | some t =>
    let (told, t) := t.cancel
    told.foldl tell { w with tokens := w.tokens.set token t }
  | none => w

def isCancelled (w : World) (token : Nat) : Bool := (w.tokens[token]?).any Token.cancelled

/-- Registers a job with a token; a token that is cancelled already tells it at once. -/
def register (w : World) (job token : Nat) : World :=
  match w.tokens[token]?, w.jobs[job]? with
  | some t, some j =>
    match t.register job with
    | (some id, t) =>
      { w with tokens := w.tokens.set token t }.setJob job { j with registration := some (token, id) }
    | (none, _) => w.tell job
  | _, _ => w

/-- Drops the registration of a job. -/
def unregister (w : World) (job : Nat) : World :=
  match w.jobs[job]? with
  | some j =>
    match j.registration with
    | some (token, id) =>
      let w := w.setJob job { j with registration := none }
      match w.tokens[token]? with
      | some t => { w with tokens := w.tokens.set token (t.unregister id) }
      | none => w
    | none => w
  | none => w

/-! ### Jobs -/

/-- What a search for a program depends on. -/
def surroundings (w : World) : Surroundings where
  files := w.kernel.files
  cwd := some w.cwd
  searchPath := Environment.get? w.vars (Octets.ofString "PATH")

/-- What a command meets when it is started on a terminal. -/
def launchpad (master : Nat) (c : Command Action Nat) : Launchpad World where
  isClosed w := (w.masters[master]?).all Master.closed
  isCancelled w := c.token.any w.isCancelled
  resolve w := Executable.resolve w.surroundings c.program c.dir
  acquire w := do
    let m ← w.masters[master]?
    let lease ← m.lease.acquire?
    return w.setMaster master { m with lease }
  release w :=
    match w.masters[master]? with
    | some m => w.setMaster master { m with lease := m.lease.release }
    | none => w
  spawn w path :=
    match w.masters[master]? with
    | none => .error .closed
    | some m =>
      if m.closed then .error .closed
      else match w.kernel.spawnOn m.device c path w.vars w.cwd with
        | .ok (pid, kernel) => .ok (pid, { w with kernel })
        | .error f => .error (.spawn f)

/-- Adds the reaper and the watcher of a child that was just spawned. -/
def attach (w : World) (master pid : Nat) (c : Command Action Nat) : Nat × World :=
  let job := w.jobs.length
  let watch : Watch := { hasAction := c.action.isSome, delay := c.delay }
  let w := { w with jobs := w.jobs ++ [{ handle := ⟨pid, none⟩, master, action := c.action, watch }] }
  match c.token with
  | some token => (job, w.register job token)
  | none => (job, w)

/-- Starts a command where it meets `pad`; the number of its job when it has one. -/
def startWith (w : World) (pad : Launchpad World) (master : Nat) (c : Command Action Nat)
    (life : Lifecycle) : Except StartError Nat × Lifecycle × World :=
  match life.start pad w with
  | (.error e, life, w) => (.error e, life, w)
  | (.ok (), life, w) =>
    let (job, w) := w.attach master (life.pid.getD 0) c
    (.ok job, life, w)

/-- Starts a command on a terminal. -/
def start (w : World) (master : Nat) (c : Command Action Nat) (life : Lifecycle) :
    Except StartError Nat × Lifecycle × World :=
  w.startWith (launchpad master c) master c life

/-- Does something by the handle of a job. -/
def byHandle {α : Type} (w : World) (i : Nat) (j : Job)
    (f : Child.Custody (Kernel Program) → Child.Handle → Kernel Program →
      α × Child.Handle × Kernel Program) : α × Job × World :=
  let (result, handle, kernel) := f (Host.custody j.handle.pid) j.handle w.kernel
  let j := { j with handle }
  (result, j, { w with kernel }.setJob i j)

def killJob (w : World) (i : Nat) (j : Job) : Except Fault Unit × Job × World :=
  w.byHandle i j fun c h k => h.kill c k

/-- The watcher ends with a result and drops its registration. -/
def conclude (w : World) (i : Nat) (j : Job) (result : Except Fault ExitState) : World :=
  (w.setJob i { j with work := .finished result }).unregister i

/-- Kills after a failed action. -/
def killInstead (w : World) (i : Nat) (j : Job) : World :=
  let (result, j, w) := w.killJob i j
  w.setJob i { j with watch := (j.watch.reachedInstead result).2, work := .listening }

/-- Goes on after the action, or the kill for want of one. -/
def settleReached (w : World) (i : Nat) (j : Job) (result : Except Fault Unit) : World :=
  match j.watch.reached w.clock result with
  | (.killInstead, watch) => w.killInstead i { j with watch }
  | (.finish result, watch) => w.conclude i { j with watch } result
  | (_, watch) => w.setJob i { j with watch, work := .listening }

/-- Carries out what the watcher demands after a notice. -/
def comply (w : World) (i : Nat) (j : Job) : Watch.Demand → World
  | .listen => w.setJob i j
  | .act => w.setJob i { j with action := none, work := .acting (j.action.getD []) none }
  | .kill =>
    let (result, j, w) := w.killJob i j
    w.settleReached i j result
  | .killInstead => w.killInstead i j
  | .finish result => w.conclude i j result

def note (w : World) (n : Note) : World := { w with notes := n :: w.notes }

def noteStatus (w : World) : Except Fault (Option ExitKind) → World
  | .ok kind => w.note (.status kind)
  | .error f => w.note (.fault f)

/-- The timed wait that an action is in, or that it begins now, if the clock can hold its end. -/
def pause? (w : World) (duration : Nat) : Option Pause → Option Pause
  | some pause => some pause
  | none => (Instant.after? w.clock duration).map fun deadline => ⟨deadline, w.clock⟩

/-- One move of an action; nothing while it waits. -/
def act (w : World) (i : Nat) (j : Job) (pause : Option Pause) : Action → Option World
  | [] => some (w.settleReached i j (.ok ()))
  | move :: rest =>
    let goOn (w : World) (j : Job) : World := w.setJob i { j with work := .acting rest none }
    match move with
    | .signal s =>
      if Signal.isStandard s then
        let (result, j, w) := w.byHandle i j fun c h k => h.signal c k s
        match result with
        | .ok () => some (goOn w j)
        | .error f => some (w.settleReached i j (.error f))
      else some (w.settleReached i j (.error .invalidArgument))
    | .noteId => some (goOn (w.note (.truth true)) j)
    | .noteStatus =>
      let (result, j, w) := w.byHandle i j fun c h k => h.tryWait c k
      some (goOn (w.noteStatus result) j)
    | .noteEnd =>
      let (result, j, w) := w.byHandle i j fun c h k => h.wait? c k
      result.map fun result => goOn (w.noteStatus (result.map some)) j
    | .noteEndWithin duration =>
      match w.pause? duration pause with
      | none => some (w.conclude i j (.error Watch.brokenDown))
      | some pause =>
        if w.clock < pause.wake then none
        else
          let (result, j, w) := w.byHandle i j fun c h k => h.tryWait c k
          match result with
          | .error f => some (goOn (w.note (.fault f)) j)
          | .ok status =>
            match Child.TimedWait.move pause.deadline w.clock status with
            | .answer kind => some (goOn (w.noteStatus (.ok kind)) j)
            | .pause d =>
              let pause := { pause with wake := w.clock + d }
              some (w.setJob i { j with work := .acting (move :: rest) (some pause) })
    | .fail f => some (w.settleReached i j (.error f))
    | .breakDown => some (w.conclude i j (.error Watch.brokenDown))

/-- One step of the watcher of a job. -/
def stepWatcher (w : World) (i : Nat) (j : Job) : Option World :=
  match j.work with
  | .finished _ => none
  | .acting rest pause => w.act i j pause rest
  | .listening =>
    match j.notices with
    | n :: notices =>
      let (demand, watch) := j.watch.notice n
      some (w.comply i { j with notices, watch } demand)
    | [] =>
      if j.reaped then some (w.conclude i j (.error Watch.reaperGone))
      else if j.watch.isOverdue w.clock then
        let (_, j, w) := w.killJob i j
        some (w.setJob i { j with watch := j.watch.expire })
      else none

/-- One step of a job: the reaper's if its child has ended, else the watcher's. -/
def stepJob (w : World) (i : Nat) : Option World := do
  let j ← w.jobs[i]?
  if j.reaped then w.stepWatcher i j
  else match w.byHandle i j fun c h k => h.wait? c k with
    | (some result, j, w) =>
      let w := match w.masters[j.master]? with
        | some m => w.setMaster j.master { m with lease := m.lease.release }
        | none => w
      return w.setJob i { j with reaped := true, notices := j.notices ++ [.exited result] }
    | (none, _, _) => w.stepWatcher i j

/-- Lets the jobs make their steps, so many at most; the first one that can goes on. -/
def settleJobs : Nat → World → World
  | 0, w => w
  | fuel + 1, w =>
    match (List.range w.jobs.length).findSome? w.stepJob with
    | some w => settleJobs fuel w
    | none => w

/-- Cancels the tokens whose time has come. -/
def expire (w : World) : World :=
  let due := w.timers.filter (·.1 ≤ w.clock)
  if due.isEmpty then w
  else
    let w := { w with timers := w.timers.filter (w.clock < ·.1) }
    due.foldl (fun w timer => w.cancel timer.2) w

/-- How many steps the jobs are going to make, at most. -/
def rank (w : World) : Nat := w.jobs.foldr (fun j n => j.rank + n) 0

/-- Lets tokens, reapers and watchers do what they can do now. -/
def settle (w : World) : World :=
  let w := w.expire
  settleJobs w.rank w

/-- What a job waits for. -/
def momentsOf (j : Job) : List Nat :=
  match j.work with
  | .listening => j.watch.deadline.toList
  | .acting _ (some pause) => [pause.wake]
  | _ => []

def moments (w : World) : List Nat := w.timers.map Prod.fst ++ w.jobs.flatMap momentsOf

/-- The result of a job whose reaper and watcher are both done. -/
def outcome? (w : World) (i : Nat) : Option (Except Fault ExitState) := do
  let j ← w.jobs[i]?
  match j.reaped, j.work with
  | true, .finished result => some result
  | _, _ => none

/-! ### Time -/

/-- Goes on until an attempt succeeds. Besides what the world waits for, the attempt may wait for
moments of its own. Nothing when nothing can happen any more. -/
def run {α : Type} (attempt : World → Option α × World) (own : World → List Nat) (fuel : Nat) (w : World) :
    Option α × World :=
  match attempt w.settle with
  | (some a, w) => (some a, w.settle)
  | (none, w) =>
    match fuel, w.kernel.advance Program.step (own w ++ w.moments) with
    | fuel + 1, some kernel => run attempt own fuel { w with kernel }
    | _, _ => (none, w)

/-- How many turns a wait may take. -/
def patience : Nat := 2000000

/-- An attempt that succeeds at once. -/
theorem run_of_some {α : Type} {attempt : World → Option α × World} {own : World → List Nat}
    {w v : World} {a : α}
    (found : attempt w.settle = (some a, v)) : run attempt own patience w = (some a, v.settle) := by
  rw [run, found]

/-- Waits until a moment. -/
def sleepUntil (w : World) (moment : Nat) : World :=
  (run (fun w => (if moment ≤ w.clock then some () else none, w)) (fun _ => [moment]) patience w).2

/-- Waits for the end of a job. -/
def await (w : World) (job : Nat) : Option (Except Fault ExitState) × World :=
  run (fun w => (w.outcome? job, w)) (fun _ => []) patience w

end World

end PseudoTerminal.Session
