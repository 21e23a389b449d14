import PseudoTerminal.Shell.Running

/-! The shell as a machine. Every turn carries out one small step of what the shell is doing: it begins
a command, finishes one and goes on with what stands on its stack, or looks once more for what it waits
for. -/

namespace PseudoTerminal.Shell

open Host

namespace Turn

/-! ### Going on -/

/-- Puts back the arguments, the variables and perhaps the flags of a caller. -/
def returned (t : Turn) (args : List Octets) (locals : List (Octets × Option Setting))
    (flags : Option (List Char)) : Turn :=
  let putBack (sh : State) (e : Octets × Option Setting) : State :=
    match e.2 with
    | some s => sh.put s
    | none => sh.unset e.1
  let shell := { t.shell with args, flags := flags.getD t.shell.flags }
  { t with shell := locals.foldl putBack shell }

/-- Puts back what messages begin with. -/
def inContext (t : Turn) (context : Octets) : Turn := { t with shell := { t.shell with context } }

/-- The aliases as texts for the reader. -/
def aliases (t : Turn) : List (Source × Source) :=
  t.shell.aliases.map fun e => (Source.ofOctets e.1, Source.ofOctets e.2)

/-- Whether only blanks and comments are left of a text. -/
def isSpent (s : Source) : Bool := (Reader.skipLines (s.length + 1) s).isEmpty

/-- Goes on with a text: its next line of commands, or what stands below when there is none. -/
def continueText (t : Turn) (rest : Source) (line status : Nat) : Turn :=
  match nextCommand line rest t.aliases with
  | .ok none => t.finish status
  | .ok (some (c, left)) =>
    let t := if isSpent left then t
      else t.push (.text left (line + (rest.count '\n' - left.count '\n')))
    t.run c
  | .error stop =>
    let place := match stop with
      | .unexpected line _ _ | .refused line _ => line
      | .unfinished _ => line + rest.count '\n'
    { t with shell := { t.shell with line := place } }.die (Octets.ofString stop.message) 2

/-- Goes on with a script that is read from a descriptor. -/
def continueInput (t : Turn) (number : Nat) (rest : Source) (line : Nat) (ended : Bool) (status : Nat) :
    Turn :=
  let keep (t : Turn) (rest : Source) (line : Nat) (ended : Bool) : Turn :=
    t.push (.input number rest line ended)
  let more : Turn :=
    if t.isInteractive && !t.shell.prompted then
      let isFresh := isSpent rest
      let (told, t) := if isFresh then t.changes else ([], t)
      let t := keep t rest line ended
      { t with shell := { t.shell with prompted := true } }.focus
        (.print [(2, told ++ t.prompt isFresh)] status false [])
    else
      let (reply, k) := t.kernel.read t.pid number 8192
      match reply with
      | .done data =>
        let t := keep t (rest ++ Source.ofOctets data) line data.isEmpty
        { t with kernel := k, shell := { t.shell with prompted := false } }.finish status
      | .blocked w => { keep t rest line ended with kernel := k }.block w
      | .fault _ => { keep t rest line true with kernel := k }.finish status
  -- a line that has not ended may go on
  if !ended && !rest.contains '\n' then more
  else match nextCommand line rest t.aliases (!ended) with
    | .ok none =>
      if !ended then more
      else if !t.isInteractive then t.finish status
      else match t.warnOfJobs? with
        | some t => (keep { t with shell := { t.shell with prompted := false } } [] line false).finish status
        | none => t.print [(2, [10])] status
    | .ok (some (c, left)) =>
      if left.isEmpty && !ended && rest.getLast? != some '\n' then more
      else
        let seen := Source.toOctets (rest.take (rest.length - left.length))
        let t := if t.shell.has 'v' then t.note seen else t
        let t := { t with shell := { t.shell with warned := if t.shell.warned = 2 then 1 else 0 } }
        (keep t left (line + (rest.count '\n' - left.count '\n')) ended).run c
    | .error (.unfinished reason) =>
      if ended then
        let t := keep t [] line ended
        { t with shell := { t.shell with line := line + rest.count '\n' } }.die
          (Octets.ofString (Stop.unfinished reason).message) 2
      else more
    | .error stop => (keep t [] (line + rest.count '\n') ended).die (Octets.ofString stop.message) 2

/-- The command is done: traps come first, then what stands on the stack. -/
def proceed (t : Turn) (status : Nat) : Turn :=
  let t := { t with shell := { t.shell with status } }
  if t.isInterrupted then t.forgetInterrupt.interrupted else
  let arrived := ((t.process?.map Process.pending).getD []).mergeSort
  match arrived.find? fun s => t.shell.traps.any fun e => e.1 == s && !e.2.isEmpty with
  | some s =>
    let action := ((t.shell.traps.find? (·.1 == s)).map Prod.snd).getD []
    let kernel := t.kernel.update t.pid fun p => { p with pending := p.pending.filter (· != s) }
    (({ t with kernel }.push (.trapEnd status)).push (.text (Source.ofOctets action) t.shell.line)).finish
      status
  | none =>
    match t.shell.frames with
    | [] => t.focus (.exit status)
    | frame :: frames =>
      let t := { t with shell := { t.shell with frames } }
      match frame with
      | .andThen c => if status = 0 then t.run c else t.finish status
      | .orElse c => if status = 0 then t.finish 0 else t.run c
      | .next c => t.run c
      | .invert => t.finish (if status = 0 then 1 else 0)
      | .branch yes no => t.run (if status = 0 then yes else no)
      | .loopTest until_ condition body last =>
        if (status == 0) != until_ then (t.push (.loopBody until_ condition body)).run body
        else t.finish last
      | .loopBody until_ condition body =>
        (t.push (.loopTest until_ condition body status)).run condition
      | .eachNext name values body =>
        match values with
        | [] => t.finish status
        | v :: values =>
          match t.blocked? [(name, v)] with
          | some text => t.die text 2
          | none =>
            ({ t with shell := t.shell.assign name v }.push (.eachNext name values body)).run body
      | .restore saved => (t.restore saved).finish status
      | .callEnd args locals flags isCall =>
        let t := t.returned args locals flags
        if isCall then t.complete status else t.finish status
      | .within context _ => (t.inContext context).finish status
      | .text rest line => t.continueText rest line status
      | .input number rest line ended => t.continueInput number rest line ended status
      | .trapEnd before => t.finish before
      | .exitWith code => t.focus (.exit code)

/-- Leaves what is on the stack until the target of a jump is reached. -/
def leap (t : Turn) (j : Jump) : Turn :=
  match t.shell.frames with
  | [] => match j with
    | .back status => t.focus (.exit status)
    | _ => t.finish 0
  | frame :: frames =>
    let below := { t with shell := { t.shell with frames } }
    match j, frame with
    | _, .restore saved => below.restore saved
    | .back status, .callEnd args locals flags true => (below.returned args locals flags).complete status
    | j, .callEnd args locals flags _ => (below.returned args locals flags).focus (.jump j)
    | .back status, .within context true => (below.inContext context).finish status
    | j, .within context _ => (below.inContext context).focus (.jump j)
    | .leave n, .loopBody _ _ _ | .leave n, .loopTest _ _ _ _ | .leave n, .eachNext _ _ _ =>
      if n ≤ 1 then below.finish 0 else below.focus (.jump (.leave (n - 1)))
    | .again n, .loopBody until_ condition body | .again n, .loopTest until_ condition body _ =>
      if n ≤ 1 then (below.push (.loopTest until_ condition body 0)).run condition
      else below.focus (.jump (.again (n - 1)))
    | .again n, .eachNext _ _ _ => if n ≤ 1 then t.finish 0 else below.focus (.jump (.again (n - 1)))
    | _, .exitWith code => below.focus (.exit code)
    | _, _ => below

/-- Ends the shell, after its last trap. -/
def leave (t : Turn) (status : Nat) : Turn :=
  match t.shell.traps.find? (·.1 == 0) with
  | some (_, action) =>
    let traps := t.shell.traps.filter (·.1 != 0)
    { t with shell := { t.shell with
      traps, status, frames := [.text (Source.ofOctets action) 1, .exitWith status] } }.finish status
  | none => { t with kernel := t.kernel.finish t.pid (.code (status % 256)), gone := true }

/-- Tells that a child was ended by a signal, unless it is one of those that are usual. -/
def announce (t : Turn) : ExitKind → Turn
  | .signal n => if n = 2 || n = 13 then t else t.note (Octets.ofString (Signal.describe n.toNat ++ "\n"))
  | .code _ => t

/-- The foreground is free again, and its job is forgotten. -/
def concluded (t : Turn) (last : Nat) : Turn :=
  let t := t.regain
  { t with shell := { t.shell with jobs := t.shell.jobs.filter fun j => !j.has last } }

/-- Looks for news of the children that are awaited. -/
def awaitChildren (t : Turn) (children : List Nat) (last status : Nat) : Turn :=
  if children.isEmpty then (t.concluded last).complete status
  else match t.news? with
    | (none, t) => t.awaitNews
    | (some (pid, news), t) =>
      match children.contains pid, news with
      | false, _ => t
      | true, .stopped s => t.regain.finish (128 + s)
      | true, .ended kind =>
        let t := t.announce kind
        let status := if pid = last then State.statusOf kind else status
        let left := children.filter (· != pid)
        if !left.isEmpty then t.focus (.await left last status)
        else
          let t := t.concluded last
          if t.isInteractive && kind == .signal 2 then t.interrupted else t.complete status

/-- Marks jobs as waited for. -/
def marked (t : Turn) (chosen : Job → Bool) : Turn :=
  let jobs := t.shell.jobs.map fun j => if chosen j then { j with waited := true } else j
  { t with shell := { t.shell with jobs } }

/-- Waits for jobs, one after another; a signal that is caught ends the wait. -/
def join (t : Turn) (pids : List Nat) (status : Nat) : Turn :=
  match (t.process?.map Process.pending).getD [], pids with
  | s :: _, _ => t.finish (128 + s)
  | [], [] => t.complete status
  | [], pid :: rest =>
    match t.shell.jobs.find? (·.last == pid) with
    | none => t.focus (.join rest status)
    | some j =>
      match j.isRunning, j.result, j.stopped with
      | false, some kind, _ => (t.marked (·.last == pid)).focus (.join rest (State.statusOf kind))
      | false, none, s? => t.focus (.join rest (128 + s?.getD 0))
      | true, _, _ =>
        match t.news? with
        | (none, t) => t.awaitNews
        | (some (who, .ended kind), t) => if j.has who then t.announce kind else t
        | (some _, t) => t

/-- Waits for all jobs; a signal that is caught ends the wait. -/
def joinAll (t : Turn) : Turn :=
  match (t.process?.map Process.pending).getD [] with
  | s :: _ => t.finish (128 + s)
  | [] =>
    if !t.shell.jobs.any (·.isRunning) then (t.marked fun _ => true).finish 0
    else match t.news? with
      | (none, t) => t.awaitNews
      | (some _, t) => t

/-- Takes the next octet of a line for `read`. -/
def gather (t : Turn) (g : Gathering) : Turn :=
  if ((t.process?.map Process.pending).getD []).any fun _ => true then Builtin.finishRead t g 1
  else
    let (reply, k) := t.kernel.read t.pid 0 1
    let t := { t with kernel := k }
    match reply with
    | .blocked w => t.block w
    | .fault _ | .done [] => Builtin.finishRead t g 1
    | .done (b :: _) =>
      if b == 0 then t
      else if g.escaped then
        t.focus (.gather { g with
          escaped := false, taken := if b == 10 then g.taken else (b, true) :: g.taken })
      else if b == 92 && !g.raw then t.focus (.gather { g with escaped := true })
      else if b == 10 then Builtin.finishRead t g 0
      else t.focus (.gather { g with taken := (b, false) :: g.taken })

/-- Prints the texts as far as there is room. -/
def printTexts (t : Turn) (texts : List (Nat × Octets)) (status : Nat) (fatal : Bool) (lost : Octets) :
    Turn :=
  match texts with
  | [] => if fatal then t.giveUp status else t.complete status
  | (number, text) :: rest =>
    if text.isEmpty then t.focus (.print rest status fatal lost)
    else
      let (reply, k) := t.kernel.write t.pid number text
      let t := { t with kernel := k }
      match reply with
      | .done n => t.focus (.print ((number, text.drop n) :: rest) status fatal lost)
      | .blocked w => t.block w
      | .fault _ =>
        if (t.process?.map Process.hasEnded).getD true then { t with gone := true }
        else if number = 1 then t.focus (.print (rest ++ [(2, lost)]) 1 fatal lost)
        else t.focus (.print rest status fatal lost)

/-- The text without line ends at its end, and without zeros. -/
def trimmed (out : Octets) : Octets :=
  ((out.reverse.dropWhile (· == 10)).reverse).filter (· != 0)

/-- Collects the output of a command substitution; without a descriptor only its end is awaited. -/
def collect (t : Turn) (c : Command) (child number : Nat) (out : Octets) : Turn :=
  if number ≠ 0 then
    let (reply, k) := t.kernel.read t.pid number 4096
    let t := { t with kernel := k }
    match reply with
    | .blocked w => t.block w
    | .done [] | .fault _ =>
      { t with kernel := t.kernel.close t.pid number }.focus (.substitute c child 0 out)
    | .done data => t.focus (.substitute c child number (out ++ data))
  else
    match t.kernel.reap t.pid (some child) with
    | (none, _) => t.block .child
    | (some (_, kind), k) =>
      let code := State.statusOf kind
      let shell := { t.shell with status := code, substituted := some code }
      ({ t with kernel := k, shell }.announce kind).run (c.fill (trimmed out))

/-- One small step. -/
def step (t : Turn) : Turn :=
  match t.shell.focus with
  | .run c => t.perform c
  | .finish status => t.proceed status
  | .jump j => t.leap j
  | .substitute c child number out => t.collect c child number out
  | .await children last status => t.awaitChildren children last status
  | .print texts status fatal lost => t.printTexts texts status fatal lost
  | .gather g => t.gather g
  | .join pids status => t.join pids status
  | .joinAll => t.joinAll
  | .launch line assignments fields redirects =>
    let t := { t with shell := { t.shell with line } }
    match t.redirectAll redirects, t.blocked? assignments with
    | .error r, _ => t.die r.text 2
    | .ok _, some text => t.die text 2
    | .ok t, none => t.launch assignments fields
  | .exit status => t.leave status

end Turn

end PseudoTerminal.Shell
