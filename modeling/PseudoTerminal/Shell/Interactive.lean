import PseudoTerminal.Shell.Turn

/-! A shell with somebody in front of it. It prompts for its commands, runs each job in a group of its own
that has the terminal meanwhile, and goes back to its prompt where another shell would end. -/

namespace PseudoTerminal.Shell.Turn

open Host

/-- Whether this very shell, and not a copy of it, is interactive. -/
def isInteractive (t : Turn) : Bool := t.shell.has 'i' && t.pid == t.shell.pid

/-- The signals that an interactive shell ignores. -/
def shielded : List Signal := [3, 15, 20, 21, 22]

/-- Makes a shell that reads its commands from a terminal interactive. -/
def attend (t : Turn) : Turn :=
  if t.shell.has 'i' || t.isTerminal 0 && t.isTerminal 1 then
    let flags := t.shell.flags ++ ['i', 'm'].filter fun c => !t.shell.flags.contains c
    let kernel := t.kernel.update t.pid fun p =>
      { p with caught := [Signal.interrupt], ignored := p.ignored ++ shielded }
    { t with kernel, shell := { t.shell with flags } }
  else t

/-- Makes a group the foreground of the shell's terminal. -/
def bringForward (t : Turn) (group : Nat) : Turn :=
  match (t.process?.map Process.session).bind t.kernel.terminalOf? with
  | some (n, d) => { t with kernel := t.kernel.setTerminal n { d with foreground := some group } }
  | none => t

/-- Adds a job, as the current one. -/
def enlist (t : Turn) (j : Job) : Turn := { t with shell := { t.shell with jobs := j :: t.shell.jobs } }

/-- The children of an interactive shell become a job: a group that reacts to signals as usual. -/
def asJob (t : Turn) (forward : Bool) (members : List Member) : Turn :=
  match members, t.isInteractive with
  | leader :: _, true =>
    let join (k : Kernel Program) (m : Member) : Kernel Program :=
      k.update m.pid fun p =>
        { p with group := leader.pid, ignored := p.ignored.filter fun s => !shielded.contains s }
    let (number, shell) := t.shell.claimNumber
    let t := { t with kernel := members.foldl join t.kernel, shell }.enlist
      { number, members, controlled := true }
    if forward then t.bringForward leader.pid else t
  | _, _ => t

/-- Takes the terminal back after a job. -/
def regain (t : Turn) : Turn :=
  if t.isInteractive then
    match t.process? with
    | some p => t.bringForward p.group
    | none => t
  else t

/-! ### News of children -/

/-- What became of a child. -/
inductive News
  | ended (kind : ExitKind)
  | stopped (s : Signal)
  deriving DecidableEq, Repr

/-- Notes that a job was stopped; it becomes the current one. -/
def noteStop (sh : State) (pid : Nat) (s : Signal) : State :=
  let (here, others) := sh.jobs.partition (·.has pid)
  { sh with jobs := here.map (fun j => { j with stopped := some s, changed := true }) ++ others }

/-- Learns what became of a child, if anything did. Only an interactive shell learns of stops. -/
def news? (t : Turn) : Option (Nat × News) × Turn :=
  match t.kernel.reap t.pid with
  | (some (pid, kind), kernel) =>
    let shell := { t.shell with jobs := t.shell.jobs.map (Job.noteEnd pid kind) }
    (some (pid, .ended kind), { t with kernel, shell })
  | (none, kernel) =>
    let t := { t with kernel }
    if !t.isInteractive then (none, t)
    else match t.kernel.stoppedChild? t.pid with
      | (some (pid, s), kernel) =>
        (some (pid, .stopped s), { t with kernel, shell := noteStop t.shell pid s })
      | (none, kernel) => (none, { t with kernel })

/-- Waits for news of a child. -/
def awaitNews (t : Turn) : Turn := t.block (if t.isInteractive then .childNews else .child)

/-- Learns all the news there are. -/
def allNews : Nat → Turn → Turn
  | 0, t => t
  | fuel + 1, t =>
    match t.news? with
    | (none, t) => t
    | (some _, t) => allNews fuel t

/-- What a job does, or how it ended. -/
def stateText (j : Job) : String :=
  match j.result, j.stopped with
  | none, none => "Running"
  | none, some s => Signal.describe s
  | some (.code n), _ => if n = 0 then "Done" else "Done(" ++ toString n ++ ")"
  | some (.signal n), _ => Signal.describe n.toNat

/-- The line for a job, with its place in the table. With process numbers, each process has a line. -/
def jobLine (withPids : Bool) (place : Nat) (j : Job) : Octets :=
  let mark := match place with
    | 0 => "+"
    | 1 => "-"
    | _ => " "
  let start := "[" ++ toString j.number ++ "] " ++ mark ++ " "
  let state := start ++ (if withPids then toString j.leader ++ " " else "") ++ stateText j
  let padded (s : String) : Octets :=
    Octets.ofString (s ++ String.ofList (List.replicate (33 - s.length) ' '))
  let next (m : Member) : Octets :=
    if withPids then
      Octets.ofString " |\n" ++
        padded (String.ofList (List.replicate start.length ' ') ++ toString m.pid ++ " ") ++ m.text
    else Octets.ofString " | " ++ m.text
  match j.members with
  | [] => []
  | m :: ms => padded state ++ m.text ++ ms.flatMap next ++ [10]

/-- Shows jobs and forgets those that have ended. Each is marked by its place at the time. -/
def showJobs (withPids : Bool) : List Job → List Job → Octets × List Job
  | [], table => ([], table)
  | j :: rest, table =>
    let line := jobLine withPids (table.findIdx (·.number == j.number)) j
    let shown (i : Job) : Job := if i.number == j.number then { i with changed := false } else i
    let left := if j.isDone then table.filter (·.number != j.number) else table.map shown
    let (more, table) := showJobs withPids rest left
    (line ++ more, table)

/-- Tells the user what became of jobs. -/
def changes (t : Turn) : Octets × Turn :=
  let t := allNews (2 * t.kernel.processes.length) t
  let (out, jobs) := showJobs false (t.shell.jobs.filter (·.changed)) t.shell.jobs
  (out, { t with shell := { t.shell with jobs } })

/-- Warns, instead of leaving, that the current job is stopped; once is enough. -/
def warnOfJobs? (t : Turn) : Option Turn :=
  if t.isInteractive && t.shell.warned = 0 && t.shell.jobs.head?.any (·.isStopped) then
    let t := t.note (Octets.ofString "You have stopped jobs.\n")
    some { t with shell := { t.shell with warned := 2 } }
  else none

/-! ### Going back to the prompt -/

/-- Drops whatever the shell was doing, says something, and goes on with the next line of input. -/
def toPrompt (t : Turn) (text : Octets) (status : Nat) : Turn :=
  match t.shell.frames.getLast? with
  | some (.input number _ line _) =>
    let frames := [Frame.input number [] line false]
    let shell := { t.shell with frames, context := [], prompted := false }
    { t with shell }.focus (.print [(2, text)] status false [])
  | _ => t.focus (.exit status)

/-- An error ends a shell, but not an interactive one. -/
def giveUp (t : Turn) (status : Nat) : Turn :=
  if t.isInteractive then t.toPrompt [] status else t.focus (.exit status)

/-- An interrupt sends an interactive shell back to its prompt. -/
def interrupted (t : Turn) : Turn := t.toPrompt [10] (128 + Signal.interrupt)

/-- Whether an interrupt arrived for which there is no trap. -/
def isInterrupted (t : Turn) : Bool :=
  t.isInteractive && ((t.process?.map Process.pending).getD []).contains Signal.interrupt
    && t.shell.traps.all fun e => e.1 != Signal.interrupt

/-- Forgets an interrupt that arrived. -/
def forgetInterrupt (t : Turn) : Turn :=
  { t with kernel := t.kernel.update t.pid fun p =>
    { p with pending := p.pending.filter (· != Signal.interrupt) } }

/-- The prompt for a new command, or for the rest of one. -/
def prompt (t : Turn) (fresh : Bool) : Octets :=
  (t.shell.valueOf (if fresh then "PS1" else "PS2")).getD []

end PseudoTerminal.Shell.Turn
