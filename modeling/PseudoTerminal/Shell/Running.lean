import PseudoTerminal.Shell.Builtin
import PseudoTerminal.Shell.Listing

/-! How a command begins. Simple commands are expanded and then carried out by a function, a builtin or a
program; compound ones put on the stack what is to be done when a part of them is done. -/

namespace PseudoTerminal.Shell

open Host

namespace Turn

/-- Takes a number for a job that is awaited at once. -/
def claim (t : Turn) : Turn := { t with shell := t.shell.claimNumber.2 }

/-- Begins to run a command substitution for the present command. -/
def substitute (t : Turn) (c : Command) (script : Octets) : Turn :=
  let t := t.claim
  let (reading, writing, k) := t.kernel.makePipe
  let t := { t with kernel := k }
  let number := (t.process?.map fun p => p.freeNumber 10).getD 10
  let (child, t) := t.fork (.finish t.shell.status) [.text (Source.ofOctets script) t.shell.line]
  let t := t.bindIn child 1 writing
  let t := { t with kernel := t.kernel.install t.pid number reading false }
  t.focus (.substitute c child number [])

/-- Sets variables for one command and remembers their old values. -/
def assignFor (t : Turn) (assignments : List (Octets × Octets)) : Turn :=
  if assignments.isEmpty then t
  else
    let locals := assignments.map fun (name, _) => (name, t.shell.setting? name)
    let shell := assignments.foldl (fun sh (name, value) => sh.assign name value) t.shell
    { t with shell := shell.push (.callEnd t.shell.args locals none false) }

/-- The first of some variables that keeps its value, as a complaint. -/
def blocked? (t : Turn) (assignments : List (Octets × Octets)) : Option Octets :=
  (assignments.find? fun e => (t.shell.setting? e.1).any (·.constant)).map fun e =>
    e.1 ++ Octets.ofString ": is read only"

/-- Calls a function. -/
def call (t : Turn) (body : Command) (args : List Octets) : Turn :=
  (({ t with shell := { t.shell with args } }).push (.callEnd t.shell.args [] none true)).run body

/-- Runs an external program, in place of the shell if nothing is left to do. -/
def external (t : Turn) (line : Nat) (assignments : List (Octets × Octets)) (fields : List Octets)
    (redirects : List Redirect) (written : Octets) : Turn :=
  let focus := Focus.launch line assignments fields redirects
  let t := Builtin.remember t (fields.headD [])
  if t.isLast then t.focus focus
  else
    let (child, t) := t.claim.fork focus []
    (t.asJob true [{ pid := child, text := written }]).focus (.await [child] child 0)

/-- Whether the words behind `command` ask for something else than to run them. -/
def behindCommand : List Octets → Option (List Octets)
  | [] => none
  | word :: rest =>
    if word == [45, 45] then if rest.isEmpty then none else some rest
    else match word with
      | 45 :: b :: letters => if (b :: letters).all (· == 112) then behindCommand rest else none
      | _ => some (word :: rest)

/-- Tells what is about to be run. -/
def trace (t : Turn) (assignments : List (Octets × Octets)) (fields : List Octets) : Turn :=
  if !t.shell.has 'x' then t
  else
    let words := (assignments.map fun e => e.1 ++ 61 :: e.2) ++ fields
    t.note ((t.shell.valueOf "PS4").getD [] ++ Octets.joinWith 32 words ++ [10])

/-- Runs what fields name: a function unless those are passed over, a builtin, or a program. Without fields
there are only assignments. -/
def dispatch (t : Turn) (line : Nat) (values : List (Octets × Octets)) (redirects : List Redirect)
    (written : Octets) (passOver : Bool) : Nat → List Octets → Turn
  | 0, _ => t.finish 0
  | fuel + 1, fields =>
    let inPlace (act : Turn → Turn) (lasting : Bool) : Turn :=
      match t.blocked? values, t.redirectFor redirects with
      | _, .error r => t.refuse r lasting
      | some text, .ok _ => t.die text 2
      | none, .ok (saved, t) =>
        let t := if saved.isEmpty then t else t.push (.restore saved)
        act (if lasting then
            { t with shell := values.foldl (fun sh (n, v) => sh.assign n v) t.shell }
          else t.assignFor values)
    match fields with
    | [] =>
      match t.blocked? values, t.redirectFor redirects with
      | some text, _ => t.die text 2
      | none, .error r => t.refuse r false
      | none, .ok (saved, t) =>
        let status := t.shell.substituted.getD 0
        let shell := values.foldl (fun sh (n, v) => sh.assign n v) t.shell
        ({ t with shell := { shell with substituted := none } }.restore saved).complete status
    | name :: args =>
      let t := { t with shell := { t.shell with substituted := none } }
      let function := if passOver then none else t.shell.functions.find? (·.1 == name)
      match function, Builtin.named? name with
      | some (_, body), _ => inPlace (·.call body args) false
      | none, some "exec" =>
        match t.redirectAll redirects with
        | .error r => t.refuse r (!passOver)
        | .ok t =>
          if args.isEmpty then t.finish 0
          else
            let t := { t with shell := { t.shell with context := Octets.ofString "exec: " } }
            t.focus (.launch line values args [])
      | none, some "command" =>
        match behindCommand args with
        | some args => dispatch t line values redirects written true fuel args
        | none => inPlace (Builtin.run · "command" args false) false
      | none, some known =>
        let isSpecial := specialCommands.contains known && !passOver
        inPlace (Builtin.run · known args isSpecial) isSpecial
      | none, none => t.external line values fields redirects written

/-- The fields of the words of a command. Arguments of a declaration that are assignments are one field
each. -/
def fieldsOf (t : Turn) (words : List Word) : State.Expanding (List Octets × State) :=
  let declares := (words.head?.bind Reader.fixed?).any fun name =>
    Builtin.declaring.any fun d => Octets.ofString d == name
  if !declares then t.shell.expandWords t.files t.cwd words
  else
    let step (state : List Octets × State) (w : Word) : State.Expanding (List Octets × State) := do
      let (fields, sh) := state
      match Reader.assignment? w with
      | some (name, value) =>
        let (value, sh) ← sh.expandValue value
        return (fields ++ [name ++ 61 :: value], sh)
      | none =>
        let (more, sh) ← sh.expandWord t.files t.cwd w
        return (fields ++ more, sh)
    words.foldlM step ([], t.shell)

/-- Runs a simple command. -/
def simple (t : Turn) (line : Nat) (assignments : List (Octets × Word)) (words : List Word)
    (redirects : List Redirect) : Turn :=
  let t := { t with shell := { t.shell with line } }
  match t.fieldsOf words with
  | .error text => t.die text 2
  | .ok (fields, shell) =>
    match shell.expandAssignments assignments with
    | .error text => t.die text 2
    | .ok (values, shell) =>
      let t := ({ t with shell } : Turn).trace values fields
      let written := if t.isInteractive then (Command.simple line [] words redirects).listing else []
      dispatch t line values redirects written false (fields.length + 1) fields

/-- The children of a pipeline, each with its end of the pipes around it. -/
def spawnStages (t : Turn) (source : Option OpenFile) : List Command → List Nat × Turn
  | [] => ([], t)
  | c :: rest =>
    let (out, next, t) : Option OpenFile × Option OpenFile × Turn :=
      if rest.isEmpty then (none, none, t)
      else
        let (reading, writing, k) := t.kernel.makePipe
        (some writing, some reading, { t with kernel := k })
    -- the new pipe is held by its writer before anything else changes
    let (child, t) := t.fork (.run c) []
    let t := match out with
      | some o => t.bindIn child 1 o
      | none => t
    let t := match source with
      | some o => t.bindIn child 0 o
      | none => t
    let (children, t) := spawnStages t next rest
    (child :: children, t)

/-- Children with the texts of their commands, which only an interactive shell keeps. -/
def membersOf (t : Turn) (children : List Nat) (commands : List Command) : List Member :=
  (children.zip commands).map fun (pid, c) => { pid, text := if t.isInteractive then c.listing else [] }

/-- Runs a command as a job of its own. Without job control the job does not hear the keyboard, neither its
interrupts nor its input. -/
def background (t : Turn) (body : Command) : Turn :=
  let stages := match body with
    | .pipeline false (a :: b :: rest) => a :: b :: rest
    | c => [c]
  let deaf := t.shell.deaf
  let quiet := if t.isInteractive then deaf else [2, 3] ++ deaf
  let (children, t) := { t with shell := { t.shell with deaf := quiet } }.spawnStages none stages
  let t := { t with shell := { t.shell with deaf, lastJob := children.getLast? } }
  let members := t.membersOf children stages
  if t.isInteractive then (t.asJob false members).finish 0
  else
    let hush (k : Kernel Program) (child : Nat) : Kernel Program :=
      k.update child fun p => { p with ignored := [2, 3] ++ p.ignored }
    let kernel := children.foldl hush t.kernel
    let kernel := match children with
      | first :: _ => kernel.install first 0 { target := .null }
      | [] => kernel
    let (number, shell) := t.shell.claimNumber
    ({ t with kernel, shell }.enlist { number, members }).finish 0

/-- Begins a command. -/
def perform (t : Turn) (c : Command) : Turn :=
  -- commands may be read only, and not run
  if t.shell.has 'n' && !t.isInteractive then t.finish t.shell.status else
  match c.substitution? with
  | some script =>
    let line := match c with
      | .simple line _ _ _ => line
      | _ => t.shell.line
    { t with shell := { t.shell with line } }.substitute c script
  | none =>
    match c with
    | .nothing => t.finish 0
    | .simple line assignments words redirects => t.simple line assignments words redirects
    | .pipeline negated stages =>
      let t := if negated then t.push .invert else t
      match stages with
      | [c] => t.run c
      | stages =>
        let (children, t) := t.claim.spawnStages none stages
        (t.asJob true (t.membersOf children stages)).focus
          (.await children (children.getLast?.getD 0) 0)
    | .both a b => (t.push (.andThen b)).run a
    | .either a b => (t.push (.orElse b)).run a
    | .sequence a b => (t.push (.next b)).run a
    | .background body => t.background body
    | .subshell body =>
      if t.isLast then t.run body
      else
        let (child, t) := t.claim.fork (.run body) []
        (t.asJob true (t.membersOf [child] [c])).focus (.await [child] child 0)
    | .redirected body redirects =>
      match t.redirectFor redirects with
      | .error r => t.refuse r false
      | .ok (saved, t) => (t.push (.restore saved)).run body
    | .choice condition yes no => (t.push (.branch yes no)).run condition
    | .loop until_ condition body => (t.push (.loopTest until_ condition body 0)).run condition
    | .each name words body =>
      let values : State.Expanding (List Octets × State) := match words with
        | none => .ok (t.shell.args, t.shell)
        | some words => t.shell.expandWords t.files t.cwd words
      match values with
      | .error text => t.die text 2
      | .ok (values, shell) =>
        ({ t with shell := { shell with substituted := none } }.push (.eachNext name values body)).finish 0
    | .select word arms =>
      match t.shell.expandText word with
      | .error text => t.die text 2
      | .ok (value, shell) =>
        let t := { t with shell := { shell with substituted := none } }
        let found := arms.find? fun (patterns, _) => patterns.any fun w =>
          match t.shell.expandPattern w with
          | .ok (p, _) => p.covers value
          | .error _ => false
        match found with
        | some (_, body) => t.run body
        | none => t.finish 0
    | .define name body =>
      let functions := (name, body) :: t.shell.functions.filter (·.1 != name)
      { t with shell := { t.shell with functions } }.finish 0

end Turn

end PseudoTerminal.Shell
