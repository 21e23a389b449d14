import PseudoTerminal.Shell.Builtin.Basic
import PseudoTerminal.Shell.Interactive

/-! Signals and background jobs: what is to happen on a signal, sending one, and the table of jobs. -/

namespace PseudoTerminal.Shell.Builtin

open Host

/-! ### Signals -/

/-- The signal that a word names by number or, in either case, by name. Zero stands for the end of the
shell. -/
def signal? (word : Octets) : Option Signal :=
  match Octets.decimal? word with
  | some n => if n ≤ Signal.last then some n else none
  | none =>
    let upper := (String.ofList (Source.ofOctets word)).toUpper
    if upper == "EXIT" then some 0 else Signal.ofName? upper

def signalName (s : Signal) : String := if s = 0 then "EXIT" else Signal.name s

/-- Arranges for a signal: an action, no action at all, or the usual effect. A signal that was ignored from
the start stays so. -/
def arrange (t : Turn) (action : Option Octets) (s : Signal) : Turn :=
  let others := t.shell.traps.filter (·.1 != s)
  let traps := match action with
    | some a => others ++ [(s, a)]
    | none => others
  let change (p : Process Program) : Process Program :=
    let p' := { p with ignored := p.ignored.filter (· != s), caught := p.caught.filter (· != s) }
    if s = 0 || Signal.isForced s || t.shell.deaf.contains s then p
    else match action with
      | none => p'
      | some [] => { p' with ignored := s :: p'.ignored, pending := p.pending.filter (· != s) }
      | some _ => { p' with caught := s :: p'.caught }
  { t with shell := { t.shell with traps }, kernel := t.kernel.update t.pid change }

def trap (t : Turn) (args : List Octets) : Turn :=
  withOptions t "trap" "" args fun _ args =>
    match args with
    | [] =>
      let sorted := t.shell.traps.mergeSort fun a b => a.1 ≤ b.1
      let line (e : Signal × Octets) : Octets :=
        text "trap -- " ++ State.singleQuoted e.2 ++ text (" " ++ signalName e.1 ++ "\n")
      t.print [(1, sorted.flatMap line)] 0
    | first :: rest =>
      let isNumber := ((Octets.decimal? first).filter (· ≤ Signal.last)).isSome
      let (action, words) : Option Octets × List Octets :=
        if rest.isEmpty || isNumber then (none, args)
        else if first == [45] then (none, rest)
        else (some first, rest)
      let good := words.takeWhile fun w => (signal? w).isSome
      let t := (good.filterMap signal?).foldl (fun t s => arrange t action s) t
      match words.drop good.length with
      | [] => t.finish 0
      | bad :: _ => t.print [(2, text "trap: " ++ bad ++ text ": bad trap\n")] 1

/-! ### Jobs -/

/-- The job that a word names; without a word it is the current one. -/
def job? (sh : State) (word : Option Octets) : Except Octets Job :=
  let unknown (w : Octets) : Except Octets Job := .error (text "No such job: " ++ w)
  let at? (j : Option Job) (why : String) : Except Octets Job := match j with
    | some j => .ok j
    | none => .error (text why)
  let current := at? sh.jobs.head? "No current job"
  match word with
  | none | some [37] | some [37, 37] | some [37, 43] => current
  | some [37, 45] => at? (if sh.jobs.isEmpty then none else sh.jobs[1]?) "No previous job"
  | some (37 :: name) =>
    let byNumber := (Octets.decimal? name).bind fun n => sh.jobs.find? (·.number == n)
    match byNumber with
    | some j => .ok j
    | none =>
      let text (j : Job) : Octets := (j.members.head?.map Member.text).getD []
      let fits (j : Job) : Bool := match name with
        | 63 :: inner =>
          (List.range ((text j).length + 1)).any fun n => inner.isPrefixOf ((text j).drop n)
        | start => start.isPrefixOf (text j)
      match if (Octets.decimal? name).isSome then [] else sh.jobs.filter fits with
      | [j] => .ok j
      | [] => unknown (37 :: name)
      | _ => .error (37 :: name ++ Builtin.text ": ambiguous")
  | some w => unknown w

def jobs (t : Turn) (args : List Octets) : Turn :=
  withOptions t "jobs" "lp" args fun found words =>
    let mode := found.getLast?.map Prod.fst
    let t := Turn.allNews (2 * t.kernel.processes.length) t
    match words.mapM fun w => job? t.shell (some w) with
    | .error why => fail t "jobs" why
    | .ok chosen =>
      let chosen := if words.isEmpty then t.shell.jobs else chosen
      if mode == some 'p' then
        t.print [(1, chosen.flatMap fun j => Octets.ofNat j.leader ++ [10])] 0
      else
        let (out, jobs) := Turn.showJobs (mode == some 'l') chosen t.shell.jobs
        { t with shell := { t.shell with jobs } }.print [(1, out)] 0

/-- Lets a job go on, in front of the terminal or behind. -/
def resume (t : Turn) (forward : Bool) (j : Job) : Turn :=
  let line := (j.members.map Member.text).intersperse (text " | ")
  let going := { j with stopped := none, changed := false }
  let others := t.shell.jobs.filter (·.number != j.number)
  let inFront := if forward then [] else others.takeWhile (·.isStopped)
  let table := inFront ++ going :: others.drop inFront.length
  let start := if forward then [] else text ("[" ++ toString j.number ++ "] ")
  let t := { t with shell := { t.shell with jobs := table } }.say 1 (start ++ line.flatten ++ [10])
  let t := if forward then t.bringForward j.leader else t
  let t := { t with kernel := t.kernel.postGroup j.leader Signal.resume }
  if forward then
    let left := (j.members.filter (·.result.isNone)).map Member.pid
    t.focus (.await left j.last ((j.members.getLast?.bind Member.result).map State.statusOf |>.getD 0))
  else t.finish 0

/-- Brings a job to the front, or lets it go on behind; it has to be under control. -/
def control (t : Turn) (name : String) (args : List Octets) : Turn :=
  withOptions t name "" args fun _ words =>
    match job? t.shell words.head? with
    | .error why => fail t name why
    | .ok j =>
      if j.controlled then resume t (name == "fg") j
      else
        fail t name (text "job " ++ words.headD (text "(null)")
          ++ text " not created under job control")

/-! ### Sending and waiting -/

def killUsage : Octets :=
  text "Usage: kill [-s sigspec | -signum | -sigspec] [pid | job]... or\nkill -l [exitstatus]"

/-- Signal, whether names are asked for, and the words behind. -/
def killRequest (args : List Octets) : Except Octets (Option Signal × Bool × List Octets) :=
  let named? (word : Octets) : Option Signal :=
    if (Octets.decimal? word).isSome then signal? word else (signal? word).filter (· != 0)
  match args with
  | (45 :: word) :: rest =>
    match named? word with
    | some s => .ok (some s, false, rest)
    | none => do
      let (found, rest) ← options "ls:" args
      let given := found.filter (·.1 == 's')
      match given.find? fun e => (named? e.2).isNone with
      | some (_, word) => throw (text "invalid signal number or name: " ++ word)
      | none =>
        return ((given.getLast?.map Prod.snd).bind named?, found.any (·.1 == 'l'), rest)
  | args => .ok (none, false, args)

/-- The process that a word names, a group as a negative number. -/
def target? (sh : State) (word : Octets) : Except Octets Int :=
  match word with
  | 37 :: _ => (job? sh (some word)).map fun j => -(j.leader : Int)
  | 45 :: ds => match number? ds with
    | some n => .ok (-n)
    | none => .error (text "Illegal number: " ++ ds)
  | ds => match number? ds with
    | some n => .ok n
    | none => .error (text "Illegal number: " ++ ds)

/-- Sends a signal to what words name, up to one that names nothing. -/
def sendAll (s : Signal) (status : Nat) : Turn → List Octets → Turn
  | t, [] => t.complete status
  | t, word :: rest =>
    match target? t.shell word with
    | .error why => fail t "kill" why
    | .ok target =>
      match t.kernel.send t.pid target s with
      | .ok kernel =>
        let t := { t with kernel }
        -- the shell itself may have been the target
        if (t.process?.map Process.hasEnded).getD true then { t with gone := true }
        else sendAll s status t rest
      | .error f => sendAll s 1 (t.note (t.shell.report (text "kill: " ++ words f ++ [10]))) rest

def kill (t : Turn) (args : List Octets) : Turn :=
  match killRequest args with
  | .error why => fail t "kill" why
  | .ok (_, true, []) =>
    let names := (List.range Signal.last).map fun n => Signal.name (n + 1) ++ "\n"
    t.print [(1, text ("0\n" ++ String.join names))] 0
  | .ok (some _, true, _) | .ok (_, false, []) => fail t "kill" killUsage
  | .ok (none, true, word :: _) =>
    withNumber t "kill" word fun n =>
      let s := if 128 < n then n - 128 else n
      if 0 < s && s ≤ Signal.last then t.print [(1, text (Signal.name s ++ "\n"))] 0
      else fail t "kill" (text "invalid signal number or exit status: " ++ word)
  | .ok (s?, false, targets) => sendAll (s?.getD Signal.terminate) 0 t targets

def wait (t : Turn) (args : List Octets) : Turn :=
  withOptions t "wait" "" args fun _ args =>
    if args.isEmpty then t.focus .joinAll
    else
      let pid? (word : Octets) : Except Octets Nat :=
        if word.head? == some 37 then (job? t.shell (some word)).map Job.last
        else match number? word with
          | some n => .ok n
          | none => .error (text "Illegal number: " ++ word)
      match args.mapM pid? with
      | .ok pids => t.focus (.join pids 127)
      | .error why => fail t "wait" why

end PseudoTerminal.Shell.Builtin
