import PseudoTerminal.Host.Process
import PseudoTerminal.Terminal.Device
import PseudoTerminal.Text.Utf8

/-! The kernel of a host: its clock, files, processes and terminals, and the calls by which programs
use them. A call that cannot be answered yet says what it waits for and changes nothing. -/

namespace PseudoTerminal.Host

open Terminal (Device)

/-- The number of the process that hosts the terminals. -/
def owner : Nat := 999

/-- What an open file refers to. -/
inductive Target
  | null
  | zeros
  | full
  | terminal (number : Nat)
  | pipeOut (pipe : Nat)
  | pipeIn (pipe : Nat)
  | file (place : Place)
  | directory (place : Place)
  /-- A text that was made when the file was opened. -/
  | report (text : Octets)
  deriving DecidableEq, Repr

structure OpenFile where
  target : Target
  offset : Nat := 0
  readable : Bool := true
  writable : Bool := true
  append : Bool := false
  deriving Repr

/-- The way in which a path is opened. -/
inductive Access
  | read
  | write
  | append
  | both
  deriving DecidableEq, Repr

/-- The answer to a call. -/
inductive Reply (α : Type)
  | done (value : α)
  | fault (fault : Fault)
  | blocked (until_ : Wait)

structure Kernel (π : Type) where
  /-- Microseconds since the start. -/
  clock : Nat := 0
  /-- When the owner last caught signals of its threads, and how many it caught then. -/
  nudged : Nat × Nat := (0, 0)
  /-- When a signal last interrupted what the owner waits for. -/
  interrupted : Nat := 0
  files : FileTree
  processes : List (Process π) := []
  opened : List (Nat × OpenFile) := []
  pipes : List (Nat × Buffer) := []
  terminals : List (Nat × Device) := []
  nextPid : Nat := 1000
  nextFile : Nat := 0
  nextPipe : Nat := 0

namespace Kernel

variable {π : Type}

/-! ### Look-up -/

def process? (k : Kernel π) (pid : Nat) : Option (Process π) := k.processes.find? (·.pid == pid)

def update (k : Kernel π) (pid : Nat) (f : Process π → Process π) : Kernel π :=
  { k with processes := k.processes.map fun p => if p.pid == pid then f p else p }

def setProgram (k : Kernel π) (pid : Nat) (program : π) : Kernel π :=
  k.update pid fun p => { p with program := program }

def terminal? (k : Kernel π) (number : Nat) : Option Device := k.terminals.lookup number

def setTerminal (k : Kernel π) (number : Nat) (d : Device) : Kernel π :=
  { k with terminals := k.terminals.map fun e => if e.1 == number then (number, d) else e }

/-- The terminal that controls a session. -/
def terminalOf? (k : Kernel π) (session : Nat) : Option (Nat × Device) :=
  k.terminals.find? (·.2.session == some session)

def openFile? (k : Kernel π) (pid number : Nat) : Option (Nat × OpenFile) := do
  let p ← k.process? pid
  let file ← p.file? number
  let o ← k.opened.lookup file
  return (file, o)

def setOpen (k : Kernel π) (file : Nat) (o : OpenFile) : Kernel π :=
  { k with opened := k.opened.map fun e => if e.1 == file then (file, o) else e }

def setPipe (k : Kernel π) (pipe : Nat) (b : Buffer) : Kernel π :=
  { k with pipes := k.pipes.map fun e => if e.1 == pipe then (pipe, b) else e }

/-- Whether any process holds an open file for which `f` holds. -/
def holds (k : Kernel π) (f : Target → Bool) : Bool :=
  k.opened.any fun (_, o) => f o.target

/-- Forgets the open files that nobody holds, and the pipes that have no end left. -/
def collect (k : Kernel π) : Kernel π :=
  let held (file : Nat) : Bool := k.processes.any fun p => p.descriptors.any (·.file == file)
  let k := { k with opened := k.opened.filter fun e => held e.1 }
  let ended (pipe : Nat) : Bool := k.holds fun t => t == .pipeOut pipe || t == .pipeIn pipe
  { k with pipes := k.pipes.filter fun e => ended e.1 }

/-! ### Signals and ends -/

/-- Whether nobody outside a group watches over it: none of its members has a parent in another group of
the same session. The keyboard does not stop such a group. -/
def isOrphaned (k : Kernel π) (group : Nat) : Bool :=
  !k.processes.any fun p => p.group == group &&
    (k.process? p.parent).any fun q => q.session == p.session && q.group != group

/-- A signal reaches a process of a group that may be orphaned. The forced ones always take effect; for
others the process may have made an arrangement. -/
def postTo (p : Process π) (s : Signal) (orphaned : Bool := false) : Process π :=
  if p.isBeyond then p
  else if s == Signal.kill then { p with condition := .ended (.signal s) }
  else
    let p := if s == Signal.resume then
        { p with
          pending := p.pending.filter (Signal.reaction · != .stop)
          condition := if p.condition == .stopped then .running else p.condition
          stopNews := none }
      else p
    if p.ignored.contains s then p
    else if p.caught.contains s then
      { p with
        pending := if p.pending.contains s then p.pending else p.pending ++ [s]
        condition := match p.condition with
          | .waiting _ => .running
          | c => c }
    else match Signal.reaction s with
      | .ignore | .resume => p
      | .stop => if orphaned && s != Signal.stop then p
        else { p with condition := .stopped, stopNews := some s }
      | .terminate =>
        if p.condition == .stopped then { p with pending := p.pending ++ [s] }
        else { p with condition := .ended (.signal s) }

/-- The signals that arrived while a process was stopped and end it once it goes on. -/
def wakeUp (p : Process π) : Process π :=
  if p.condition == .running then
    match p.pending.find? (fun s => !p.caught.contains s) with
    | some s => { p with condition := .ended (.signal s) }
    | none => p
  else p

/-- Hangs up the groups of some processes of which a member is stopped and nobody watches over any more, and
lets them go on. -/
def releaseOrphans (k : Kernel π) (children : List (Process π))
    (post : Kernel π → Nat → Signal → Kernel π) : Kernel π :=
  (children.map Process.group).eraseDups.foldl (fun k group =>
    let isStuck := k.processes.any fun p => p.group == group && p.condition == .stopped
    if isStuck && k.isOrphaned group then post (post k group Signal.hangUp) group Signal.resume else k) k

/-- What the end of a process brings about: its files are closed, its children go to the first process,
and the foreground of its terminal hangs up when it led the session. -/
def bury (k : Kernel π) (pid : Nat) (post : Kernel π → Nat → Signal → Kernel π) : Kernel π :=
  match k.process? pid with
  | none => k
  | some p =>
    let left (q : Process π) : Process π :=
      if q.pid == pid then { q with descriptors := [] }
      else if q.parent == pid then { q with parent := 1 }
      else q
    let children := k.processes.filter fun q => q.parent == pid && q.group != p.group
    let survivors := (k.processes.map left).filter fun q => !(q.parent == 1 && q.hasEnded)
    let k := { k with processes := survivors }.collect
    let k := k.releaseOrphans children post
    let k := if p.session != pid then k
      else match k.terminalOf? p.session with
        | none => k
        | some (n, d) =>
          let k := k.setTerminal n { d with session := none, foreground := none }
          match d.foreground with
          | none => k
          | some group =>
            let k := post k group Signal.hangUp
            if d.hungUp then post k group Signal.resume else k
    k.update p.parent fun q => postTo q Signal.child

/-- Delivers a signal to the processes that are chosen, and buries those that it ends. -/
def deliver (k : Kernel π) (chosen : Process π → Bool) (s : Signal) : Nat → Kernel π
  | 0 => k
  | fuel + 1 =>
    let live := k.processes.filter fun p => chosen p && !p.hasEnded
    let reach (p : Process π) : Process π := wakeUp (postTo p s (k.isOrphaned p.group))
    let k := { k with processes := k.processes.map fun p => if chosen p then reach p else p }
    live.foldl (fun k p =>
      match k.process? p.pid with
      | some q =>
        if q.hasEnded then k.bury p.pid fun k group s => k.deliver (fun q => q.group == group) s fuel
        else k
      | none => k) k

/-- Delivers a signal; an end brings about at most one hang-up for each session leader. -/
def post (k : Kernel π) (chosen : Process π → Bool) (s : Signal) : Kernel π :=
  k.deliver chosen s (k.processes.length + 1)

/-- Delivers a signal to a group. -/
def postGroup (k : Kernel π) (group : Nat) (s : Signal) : Kernel π :=
  k.post (fun p => p.group == group) s

/-- A process has ended. -/
def conclude (k : Kernel π) (pid : Nat) (kind : ExitKind) : Kernel π :=
  let k := k.update pid fun p => { p with condition := .ended kind }
  k.bury pid fun k group s => k.postGroup group s

/-- How much memory is given back in no time. -/
def smallMemory : Nat := 1048576

/-- How many octets of memory are given back in a microsecond. -/
def releaseRate : Nat := 20000

/-- A process sets out to end. One that took up much memory gives it back first. -/
def finish (k : Kernel π) (pid : Nat) (kind : ExitKind) : Kernel π :=
  match (k.process? pid).map fun p => (p.memory - smallMemory) / releaseRate with
  | none | some 0 => k.conclude pid kind
  | some duration =>
    k.update pid fun p => { p with condition := .leaving kind (k.clock + duration) }

/-- How many signals of one moment the threads take that wait for nothing, before one comes to the thread
that does. -/
def idleCatch : Nat := 64

/-- The owner gets a signal that does not end or stop it; that of its threads it catches. The first ones of a
moment come to threads that wait for nothing. -/
def interrupt (k : Kernel π) (s : Signal) : Kernel π :=
  if s = Signal.threads then
    let count := if k.nudged.1 = k.clock then k.nudged.2 + 1 else 1
    { k with
      nudged := (k.clock, count)
      interrupted := if idleCatch < count then k.clock else k.interrupted }
  else k

/-- Whether a signal leaves the owner as it is. -/
def sparesOwner (s : Signal) : Bool :=
  s == 0 || s == Signal.threads || s.reaction == .ignore || s.reaction == .resume

/-- Sends a signal as a process does: to one process, to its own group, or to the group of a negative
number. Signal zero only asks. The first process of the host is there, and takes no notice. -/
def send (k : Kernel π) (sender : Nat) (target : Int) (s : Signal) : Except Fault (Kernel π) :=
  let own := (k.process? sender).map Process.group
  let concerned (p : Process π) : Bool :=
    if target > 0 then p.pid == target.toNat
    else if target = 0 then some p.group == own
    else if target = -1 then p.pid != sender
    else p.group == (-target).toNat
  if Signal.last < s then .error .invalidArgument
  else if target = 1 then .ok k
  else if target = owner && sparesOwner s then .ok (k.interrupt s)
  else if !k.processes.any concerned then .error (.os 3)
  else .ok (if s = 0 then k else k.post concerned s)

/-- Takes the end of a child of `parent`, the given one or any. -/
def reap (k : Kernel π) (parent : Nat) (child : Option Nat := none) : Option (Nat × ExitKind) × Kernel π :=
  let ended := k.processes.find? fun p =>
    p.parent == parent && p.hasEnded && (child.isNone || child == some p.pid)
  match ended with
  | some p =>
    match p.condition with
    | .ended kind =>
      (some (p.pid, kind), { k with processes := k.processes.filter (·.pid != p.pid) })
    | _ => (none, k)
  | none => (none, k)

/-- Takes notice of a child of `parent` that was stopped. -/
def stoppedChild? (k : Kernel π) (parent : Nat) : Option (Nat × Signal) × Kernel π :=
  match k.processes.find? fun p => p.parent == parent && p.stopNews.isSome with
  | some p =>
    (p.stopNews.map fun s => (p.pid, s), k.update p.pid fun p => { p with stopNews := none })
  | none => (none, k)

/-- A process waits for something, unless it was stopped meanwhile. -/
def block (k : Kernel π) (pid : Nat) (w : Wait) : Kernel π :=
  k.update pid fun p => if p.condition == .stopped then p else { p with condition := .waiting w }

/-! ### Open files -/

/-- Adds an open file and binds the descriptor. -/
def install (k : Kernel π) (pid number : Nat) (o : OpenFile) (inherited : Bool := true) : Kernel π :=
  let added := { k with opened := k.opened ++ [(k.nextFile, o)], nextFile := k.nextFile + 1 }
  (added.update pid fun p => p.bind ⟨number, k.nextFile, inherited⟩).collect

def close (k : Kernel π) (pid number : Nat) : Kernel π :=
  (k.update pid fun p => p.unbind number).collect

/-- Makes a descriptor refer to what another one refers to. -/
def duplicate (k : Kernel π) (pid source number : Nat) (inherited : Bool := true) :
    Except Fault (Kernel π) :=
  match (k.process? pid).bind (·.file? source) with
  | some file => .ok (k.update pid fun p => p.bind ⟨number, file, inherited⟩).collect
  | none => .error (.os 9)

/-- Creates a pipe: the open file to read from, and the one to write to. -/
def makePipe (k : Kernel π) : OpenFile × OpenFile × Kernel π :=
  ({ target := .pipeOut k.nextPipe, writable := false },
    { target := .pipeIn k.nextPipe, readable := false },
    { k with pipes := k.pipes ++ [(k.nextPipe, {})], nextPipe := k.nextPipe + 1 })

/-- The report that the host gives about a process under a name. -/
def report? (k : Kernel π) (p : Process π) (name : String) : Option Octets :=
  let terminated (s : Octets) : Octets := s ++ [0]
  match name with
  | "cmdline" => some (p.args.flatMap terminated)
  | "environ" => some (p.environment.flatMap terminated)
  | "comm" => some (p.title ++ [10])
  | "stat" =>
    let state := match p.condition with
      | .running => "R"
      | .waiting _ => "S"
      | .stopped => "T"
      | .leaving _ _ => "R"
      | .ended _ => "Z"
    let (device, foreground) : Int × Int := match k.terminalOf? p.session with
      | some (n, d) => (34816 + n, match d.foreground with
        | some g => g
        | none => -1)
      | none => (0, -1)
    let numbers : List Int := [p.parent, p.group, p.session, device, foreground]
    let rest := List.replicate 44 "0"
    some (Octets.ofString (toString p.pid ++ " (") ++ p.title ++ Octets.ofString (") " ++ state ++ " "
      ++ " ".intercalate (numbers.map toString ++ rest) ++ "\n"))
  | _ => none

/-- The process and the report that a place below `/proc` names. -/
def reportAt? (k : Kernel π) (pid : Nat) : Place → Option Octets
  | [root, who, name] => do
    if root != Octets.ofString "proc" then none
    let number ← if who == Octets.ofString "self" then some pid else Octets.decimal? who
    let p ← k.process? number
    let name ← Utf8.decode? name
    k.report? p (String.ofList name)
  | _ => none

/-- The names of a path, dots resolved by the text alone. -/
def plainPlace (cwd : Place) (path : Path) : Place :=
  path.parts.foldl (fun here name =>
    if name.isEmpty || name == [Path.dot] then here
    else if name == [Path.dot, Path.dot] then here.dropLast
    else here ++ [name]) (if path.isAbsolute then [] else cwd)

/-- What opening a path leads to, and the files afterwards. -/
def openPath (k : Kernel π) (pid : Nat) (path : Path) (access : Access) :
    Except Fault (OpenFile × Kernel π) := do
  let some p := k.process? pid | throw (.os 3)
  let make (target : Target) : OpenFile :=
    { target, readable := access == .read || access == .both, writable := access != .read,
      append := access == .append }
  if let some text := k.reportAt? pid (plainPlace p.cwd path) then
    return ({ target := .report text, writable := false }, k)
  let create : Except Fault (OpenFile × Kernel π) := do
    let above := path.parts.dropLast
    let some name := path.parts.getLast? | throw .noEntry
    if path.isEmpty then throw .noEntry
    let place ← if above.isEmpty then pure p.cwd
      else if above.all (·.isEmpty) then pure []
      else k.files.locate (some p.cwd) (Octets.joinWith Path.slash above)
    if !k.files.isDirectory place then throw .notDirectory
    if name.isEmpty then throw .isDirectory
    let place := place ++ [name]
    let mode := 0o666 &&& (0o777 ^^^ p.umask)
    return (make (.file place), { k with files := k.files.put place (.file mode (.data [])) })
  match k.files.find (some p.cwd) path with
  | .error f => if f == .noEntry && access != .read then create else throw f
  | .ok (place, .directory _) =>
    if access == .read then return (make (.directory place), k) else throw .isDirectory
  | .ok (_, .device name) =>
    match name with
    | "zero" => return (make .zeros, k)
    | "full" => return (make .full, k)
    | "tty" =>
      match k.terminalOf? p.session with
      | some (n, _) => return (make (.terminal n), k)
      | none => throw .noDevice
    | _ => return (make .null, k)
  | .ok (place, .file mode _) =>
    let k := if access == .write then { k with files := k.files.put place (.file mode (.data [])) }
      else k
    return (make (.file place), k)
  | .ok (_, .link _) => throw .linkLoop

/-- The data of a regular file. -/
def dataAt (k : Kernel π) (place : Place) : Octets :=
  match k.files.node? place with
  | some (.file _ (.data d)) => d
  | _ => []

/-! ### Reading and writing -/

/-- How much a pipe holds. -/
def pipeLimit : Nat := 65536

/-- Delivers the signals that a terminal asks for to its foreground. -/
def signalForeground (k : Kernel π) (d : Device) (signals : List Signal) : Kernel π :=
  match d.foreground with
  | some group => signals.foldl (fun k s => k.postGroup group s) k
  | none => k

/-- Whether a read of at most `n` octets of an open file returns at once. -/
def canRead (k : Kernel π) (file n : Nat) : Bool :=
  match k.opened.lookup file with
  | none => true
  | some o =>
    match o.target with
    | .terminal t => (k.terminal? t).all (·.isReadable n)
    | .pipeOut pipe =>
      (k.pipes.lookup pipe).any (!·.isEmpty) || !k.holds (· == .pipeIn pipe)
    | _ => true

/-- Whether a write to an open file makes progress at once. -/
def canWrite (k : Kernel π) (file : Nat) : Bool :=
  match k.opened.lookup file with
  | none => true
  | some o =>
    match o.target with
    | .terminal n => (k.terminal? n).all fun d => d.hungUp || 2 ≤ d.shownRoom
    | .pipeIn pipe =>
      (k.pipes.lookup pipe).any (·.count < pipeLimit) || !k.holds (· == .pipeOut pipe)
    | _ => true

/-- Whether a file is the terminal of a process that is not in its foreground. -/
def isBehind (k : Kernel π) (p : Process π) (o : OpenFile) : Bool :=
  match o.target, k.terminalOf? p.session with
  | .terminal t, some (n, d) => t == n && d.foreground.any (· != p.group)
  | _, _ => false

/-- Reads at most `n` octets; nothing means the end. Behind the foreground of its terminal a process is
stopped instead. -/
def read (k : Kernel π) (pid number n : Nat) : Reply Octets × Kernel π :=
  match k.openFile? pid number with
  | none => (.fault (.os 9), k)
  | some (file, o) =>
    let reader := (k.process? pid).filter fun p => k.isBehind p o
    if !o.readable then (.fault (.os 9), k)
    else if let some p := reader then
      if p.ignored.contains Signal.inputStop || k.isOrphaned p.group then (.fault .inputOutput, k)
      else (.blocked (.input file n), k.postGroup p.group Signal.inputStop)
    else if !k.canRead file n then (.blocked (.input file n), k)
    else
      let slice (data : Octets) : Reply Octets × Kernel π :=
        let piece := (data.drop o.offset).take n
        (.done piece, k.setOpen file { o with offset := o.offset + piece.length })
      match o.target with
      | .null | .pipeIn _ => (.done [], k)
      | .zeros | .full => (.done (List.replicate n 0), k)
      | .directory _ => (.fault .isDirectory, k)
      | .report text => slice text
      | .file place => slice (k.dataAt place)
      | .pipeOut pipe =>
        match k.pipes.lookup pipe with
        | none => (.done [], k)
        | some b =>
          let (data, b) := b.take n
          (.done data, k.setPipe pipe b)
      | .terminal t =>
        match k.terminal? t with
        | none => (.done [], k)
        | some d =>
          let (data, d, signals) := d.read n
          (.done data, (k.setTerminal t d).signalForeground d signals)

/-- Writes octets, and tells how many were taken. A pipe that nobody reads breaks. -/
def write (k : Kernel π) (pid number : Nat) (data : Octets) : Reply Nat × Kernel π :=
  match k.openFile? pid number with
  | none => (.fault (.os 9), k)
  | some (file, o) =>
    if !o.writable then (.fault (.os 9), k)
    else if !k.canWrite file then (.blocked (.output file), k)
    else match o.target with
      | .null | .zeros | .report _ | .directory _ | .pipeOut _ => (.done data.length, k)
      | .full => (.fault (.os 28), k)
      | .pipeIn pipe =>
        if !k.holds (· == .pipeOut pipe) then
          (.fault (.os 32), k.post (fun p => p.pid == pid) Signal.brokenPipe)
        else match k.pipes.lookup pipe with
          | none => (.done data.length, k)
          | some b =>
            let piece := data.take (pipeLimit - b.count)
            (.done piece.length, k.setPipe pipe (b.append piece))
      | .file place =>
        let old := k.dataAt place
        let start := if o.append then old.length else o.offset
        let before := old.take start ++ List.replicate (start - old.length) 0
        let mode := match k.files.node? place with
          | some (.file mode _) => mode
          | _ => 0o644
        let after := before ++ data ++ old.drop (start + data.length)
        let k := { k with files := k.files.put place (.file mode (.data after)) }
        (.done data.length, k.setOpen file { o with offset := start + data.length })
      | .terminal t =>
        match k.terminal? t with
        | none => (.fault .inputOutput, k)
        | some d =>
          if d.hungUp then (.fault .inputOutput, k)
          else
            let (n, d) := d.write data
            (.done n, k.setTerminal t d)

/-! ### Processes -/

/-- A copy of a process that runs the given program. -/
def fork (k : Kernel π) (pid : Nat) (program : π) : Nat × Kernel π :=
  match k.process? pid with
  | none => (0, k)
  | some p =>
    let child := { p with
      pid := k.nextPid, parent := pid, program, pending := [], condition := .running, stopNews := none }
    (k.nextPid, { k with processes := k.processes ++ [child], nextPid := k.nextPid + 1 })

/-- A process takes up memory for octets that it works on at once. -/
def takeUp (k : Kernel π) (pid n : Nat) : Kernel π :=
  k.update pid fun p => { p with memory := max p.memory n }

/-- Replaces the program of a process: descriptors that are not inherited are closed, and signals that
were caught take their usual effect again. -/
def replaceProgram (k : Kernel π) (pid : Nat) (args environment : List Octets) (title : Octets)
    (program : π) : Kernel π :=
  (k.update pid fun p =>
    { p with
      args, environment, program
      title := title.take 15
      descriptors := p.descriptors.filter (·.inherited)
      caught := []
      memory := 0 }).collect

/-- Changes the size of a terminal; its foreground learns of another size. -/
def resizeTerminal (k : Kernel π) (number : Nat) (size : WindowSize) : Kernel π :=
  match k.terminal? number with
  | none => k
  | some d =>
    let (changed, d) := d.resize size
    let k := k.setTerminal number d
    if changed then k.signalForeground d [Signal.windowChange] else k

/-- The host lets go of a terminal: the leader of its session hangs up. -/
def hangUpTerminal (k : Kernel π) (number : Nat) : Kernel π :=
  match k.terminal? number with
  | none => k
  | some d =>
    let k := k.setTerminal number d.hangUp
    match d.session with
    | none => k
    | some leader =>
      let k := k.post (fun p => p.pid == leader) Signal.hangUp
      k.post (fun p => p.pid == leader) Signal.resume

/-! ### The clock -/

/-- Whether what a process waits for is there. -/
def isOver (k : Kernel π) (p : Process π) : Wait → Bool
  | .time moment => moment ≤ k.clock
  | .input file n => k.canRead file n
  | .output file => k.canWrite file
  | .child => k.processes.any fun q => q.parent == p.pid && q.hasEnded
  | .childNews => k.processes.any fun q => q.parent == p.pid && (q.hasEnded || q.stopNews.isSome)
  | .signal => false

def isReady (k : Kernel π) (p : Process π) : Bool :=
  match p.condition with
  | .running => true
  | .waiting w => k.isOver p w
  | .leaving _ moment => moment ≤ k.clock
  | _ => false

/-- The earliest moment that a process waits for. -/
def nextMoment? (k : Kernel π) : Option Nat :=
  (k.processes.filterMap fun p => match p.condition with
    | .waiting (.time moment) | .leaving _ moment => some moment
    | _ => none).min?

/-- How long a step of every process takes together, in microseconds. -/
def roundTime : Nat := 5

/-- Lets every process that can go on make one step; false when there is none. -/
def round (step : Kernel π → Nat → Kernel π) (k : Kernel π) : Bool × Kernel π :=
  match k.processes.filter k.isReady with
  | [] => (false, k)
  | ready =>
    (true, ready.foldl (fun k p =>
      match k.process? p.pid with
      | some q =>
        if !k.isReady q then k
        else match q.condition with
          | .leaving kind _ => k.conclude p.pid kind
          | _ => step (k.update p.pid fun q => { q with condition := .running }) p.pid
      | none => k) { k with clock := k.clock + roundTime })

end Kernel

end PseudoTerminal.Host
