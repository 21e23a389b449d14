import PseudoTerminal.Child.Handle
import PseudoTerminal.Command.Basic
import PseudoTerminal.Host.Program

/-! The children of the process that hosts the terminals: how they are spawned, and how the host keeps
them for it. -/

namespace PseudoTerminal.Host

/-- What the host offers the owner for one child. -/
def custody (pid : Nat) : Child.Custody (Kernel Program) where
  standing k :=
    match k.process? pid with
    | none => .gone
    | some p =>
      match p.condition with
      | .ended kind => .ended kind
      | _ => .running
  reap k := (k.reap owner (some pid)).2
  signalGroup k s :=
    match k.send owner (-(pid : Int)) s with
    | .ok k => (.ok (), k)
    | .error f => (.error f, k)
  signalAlone k s :=
    match k.send owner pid s with
    | .ok k => (.ok (), k)
    | .error f => (.error f, k)

namespace Kernel

/-- The number that stands for no user and no group. -/
def nobody : Nat := Nat.pow 2 32 - 1

/-- The directory that a child is to work in. -/
def directoryFor (k : Kernel Program) (cwd : Place) : Option Path → Except Fault Place
  | none => .ok cwd
  | some dir =>
    match k.files.find (some cwd) dir with
    | .error f => .error f
    | .ok (place, .directory _) => .ok place
    | .ok _ => .error .notDirectory

/-- Adds a child of the owner that runs nothing yet, with one open file as all its standard files. -/
def addChild (k : Kernel Program) (leads : Bool) (attributes : Attributes) (cwd : Place)
    (standard : OpenFile) : Nat × Kernel Program :=
  let pid := k.nextPid
  let group := if leads then pid else owner
  let p : Process Program := {
    pid, parent := owner, group, session := group
    user := attributes.user.getD 0, userGroup := attributes.group.getD 0
    -- a user that is set gives up all further groups
    moreGroups := if attributes.user.isSome then [] else [0]
    args := [], environment := [], title := [], cwd, program := .print [] 0 }
  let k := { k with processes := k.processes ++ [p], nextPid := pid + 1 }
  (pid, [0, 1, 2].foldl (fun k number => k.install pid number standard) k)

/-- Spawns a command on a terminal, as the leader of a session that the terminal controls. Whatever goes
wrong, nothing is left of the child. -/
def spawnOn {α τ : Type} (k : Kernel Program) (device : Nat) (c : Command α τ) (path : Path)
    (host : List Variable) (cwd : Place) : Except Fault (Nat × Kernel Program) := do
  if !c.isHandable then throw .zeroOctet
  if c.attributes.group == some nobody || c.attributes.user == some nobody then throw .invalidArgument
  let place ← k.directoryFor cwd c.dir
  let (pid, k) := k.addChild true c.attributes place { target := .terminal device }
  let k := match k.terminal? device with
    | some d => k.setTerminal device { d with session := some pid, foreground := some pid }
    | none => k
  let k ← k.start pid path (c.program :: c.args) (Environment.entries (c.environment host))
  return (pid, k)

/-- Spawns a program away from any terminal, in the owner's own group. -/
def spawnApart (k : Kernel Program) (argv : List Octets) (host : List Variable) (cwd : Place) :
    Except Fault (Nat × Kernel Program) := do
  let name := argv.headD []
  let (pid, k) := k.addChild false {} cwd { target := .null }
  let paths := if name.contains Path.slash then [name]
    else (Octets.splitOn 58 ((Environment.get? host (Octets.ofString "PATH")).getD [])).map fun dir =>
      Path.join dir name
  let started := paths.foldl (fun (result : Except Fault (Kernel Program)) path =>
    match result with
    | .ok k => .ok k
    | .error _ => k.start pid path argv (Environment.entries host)) (.error .noEntry)
  return (pid, ← started)

/-- Lets the host go on: every program that can makes a step, or else the clock jumps to the next moment
that a program or somebody else waits for. Nothing when nobody waits for any. -/
def advance (k : Kernel Program) (step : Kernel Program → Nat → Kernel Program) (moments : List Nat) :
    Option (Kernel Program) :=
  match k.round step with
  | (true, k) => some k
  | (false, k) =>
    match ((moments ++ k.nextMoment?.toList).filter (k.clock < ·)).min? with
    | some moment => some { k with clock := moment }
    | none => none

end Kernel

end PseudoTerminal.Host
