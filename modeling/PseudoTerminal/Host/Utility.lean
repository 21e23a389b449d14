import PseudoTerminal.Host.Account
import PseudoTerminal.Host.Utility.Filter
import PseudoTerminal.Host.Utility.Stty
import PseudoTerminal.Shell.Machine
import PseudoTerminal.Shell.Startup

/-! The small programs of the host, and the step that every program makes when it is its turn. -/

namespace PseudoTerminal.Host

namespace Utility

/-! ### Waiting -/

/-- The microseconds that a time with an optional unit writes. -/
def duration? (arg : Octets) : Option Nat :=
  let (number, unit) : Octets × Nat := match arg.reverse with
    | 115 :: rest => (rest.reverse, 1)
    | 109 :: rest => (rest.reverse, 60)
    | 104 :: rest => (rest.reverse, 3600)
    | 100 :: rest => (rest.reverse, 86400)
    | _ => (arg, 1)
  let whole := number.takeWhile (· != 46)
  let rest := number.drop whole.length
  let fraction := rest.drop 1
  if whole.isEmpty && fraction.isEmpty then
    if arg == text "infinity" || arg == text "inf" then some (Nat.pow 10 18) else none
  else do
    let n ← if whole.isEmpty then some 0 else Octets.decimal? whole
    let six := (fraction ++ List.replicate 6 48).take 6
    let _ ← if fraction.isEmpty then some 0 else Octets.decimal? fraction
    let m ← Octets.decimal? six
    return (n * 1000000 + m) * unit

def sleep (k : Kernel Program) (pid : Nat) (args : List Octets) : Kernel Program :=
  match options [] true args with
  | .error why => misuse k pid "sleep" why
  | .ok (_, []) => misuse k pid "sleep" (text "missing operand")
  | .ok (_, words) =>
    match words.mapM duration? with
    | some times => k.setProgram pid (.sleep (times.foldl (· + ·) k.clock))
    | none =>
      let bad := words.filter fun a => (duration? a).isNone
      fail k pid (bad.flatMap (fun a => text "sleep: invalid time interval " ++ quoted a ++ [10])
        ++ helpHint "sleep")

/-! ### Identity -/

def idRules : List OptionRule := [
  ⟨'a', "", false⟩, ⟨'g', "group", false⟩, ⟨'G', "groups", false⟩, ⟨'n', "name", false⟩,
  ⟨'r', "real", false⟩, ⟨'u', "user", false⟩, ⟨'z', "zero", false⟩, ⟨'Z', "context", false⟩]

/-- The line that `id` prints about a user. -/
def identity (chosen : Option Char) (named : Bool) (user group : Nat) (groups : List Nat) : String :=
  let shown (name? : Option String) (n : Nat) : String :=
    if named then name?.getD (toString n) else toString n
  let entry (name? : Option String) (n : Nat) : String :=
    toString n ++ (name?.map fun s => "(" ++ s ++ ")").getD ""
  let userName := Account.userName? user
  let groupName (n : Nat) : Option String := Account.groups.lookup n
  match chosen with
  | some 'u' => shown userName user
  | some 'g' => shown (groupName group) group
  | some _ => " ".intercalate (groups.map fun n => shown (groupName n) n)
  | none => "uid=" ++ entry userName user ++ " gid=" ++ entry (groupName group) group
      ++ " groups=" ++ ",".intercalate (groups.map fun n => entry (groupName n) n)

/-- The account that a word names. -/
def account? (word : Octets) : Option Account :=
  (Account.all.find? fun a => text a.name == word).or
    ((Octets.decimal? word).bind fun n => Account.all.find? (·.user == n))

/-- Prints who the process is, or who a user is. -/
def identify (k : Kernel Program) (p : Process Program) (args : List Octets) : Kernel Program :=
  let complain (why : String) : Kernel Program := fail k p.pid (text ("id: " ++ why ++ "\n"))
  match options idRules true args with
  | .error why => misuse k p.pid "id" why
  | .ok (found, words) =>
    let has (c : Char) : Bool := found.any (·.1 == c)
    let choices := ['u', 'g', 'G'].filter has
    if has 'Z' then complain "--context (-Z) works only on an SELinux-enabled kernel"
    else if 1 < choices.length then complain "cannot print \"only\" of more than one choice"
    else if choices.isEmpty && (has 'n' || has 'r') then
      complain "cannot print only names or real IDs in default format"
    else if choices.isEmpty && has 'z' then complain "option --zero not permitted in default format"
    else
      let ending : Octets := [if has 'z' then 0 else 10]
      let tell (user group : Nat) (groups : List Nat) : Octets :=
        text (identity choices.head? (has 'n') user group groups) ++ ending
      if words.isEmpty then
        print k p.pid (tell p.user p.userGroup
          (p.userGroup :: p.moreGroups.filter (· != p.userGroup)))
      else
        let about (word : Octets) : Nat × Octets := match account? word with
          | some a => (1, tell a.user a.group [a.group])
          | none => (2, text "id: " ++ quoted word ++ text ": no such user\n")
        let texts := words.map about
        k.setProgram p.pid (.print texts (if texts.any (·.1 == 2) then 1 else 0))

/-! ### Environments -/

def envRules : List OptionRule := [
  ⟨'i', "ignore-environment", false⟩, ⟨'u', "unset", true⟩, ⟨'0', "null", false⟩,
  ⟨'C', "chdir", true⟩, ⟨'v', "debug", false⟩]

/-- The entries without the variable of a name. -/
def without (environment : List Octets) (name : Octets) : List Octets :=
  environment.filter fun e => (Octets.breakAt 61 e).1 != name

/-- The entries with one more, in the place of another for the same variable if there is one. -/
def withEntry (environment : List Octets) (entry : Octets) : List Octets :=
  let isFor (e : Octets) : Bool := (Octets.breakAt 61 e).1 == (Octets.breakAt 61 entry).1
  if environment.any isFor then environment.map fun e => if isFor e then entry else e
  else environment ++ [entry]

/-- Turns into a program with an environment. -/
def runIn (k : Kernel Program) (pid : Nat) (environment : List Octets) (name : Octets)
    (args : List Octets) : Kernel Program :=
  let path := environment.findSome? fun e => match Octets.breakAt 61 e with
    | (key, value) => if key == text "PATH" then value else none
  let candidates := if name.contains Path.slash then [name]
    else (Octets.splitOn 58 (path.getD (text "/bin:/usr/bin"))).map fun d => Path.join d name
  let start := candidates.foldl (fun (result : Except Fault (Kernel Program)) path =>
    match result with
    | .ok k => .ok k
    | .error f => match k.start pid path (name :: args) environment with
      | .ok k => .ok k
      | .error g => .error (if g == .noEntry then f else g)) (.error .noEntry)
  match start with
  | .ok k => k
  | .error f =>
    let hint := if f == .noEntry && name.contains 32 then
        text "env: use -[v]S to pass options in shebang lines\n"
      else []
    fail k pid (text "env: " ++ quoted name ++ text (": " ++ words f ++ "\n") ++ hint)
      (if f == .noEntry then 127 else 126)

def env (k : Kernel Program) (p : Process Program) (args : List Octets) : Kernel Program :=
  match options envRules false args with
  | .error why => misuse k p.pid "env" why 125
  | .ok (found, operands) =>
    let has (c : Char) : Bool := found.any (·.1 == c)
    let bare := has 'i' || operands.head? == some [45]
    let operands := if operands.head? == some [45] then operands.tail else operands
    let unset := (found.filter (·.1 == 'u')).map Prod.snd
    let entries := operands.takeWhile (·.contains 61)
    let kept := if bare then [] else unset.foldl without p.environment
    let environment := entries.foldl withEntry kept
    let directory := (found.filter (·.1 == 'C')).getLast?.map Prod.snd
    match operands.drop entries.length, directory with
    | [], some _ => misuse k p.pid "env" (text "must specify command with --chdir (-C)") 125
    | [], none => print k p.pid (environment.flatMap (· ++ [if has '0' then 0 else 10]))
    | name :: args, directory =>
      if has '0' then misuse k p.pid "env" (text "cannot specify --null (-0) with command") 125
      else match directory with
        | none => runIn k p.pid environment name args
        | some path =>
          let fault (f : Fault) : Kernel Program :=
            fail k p.pid (text "env: cannot change directory to " ++ quoted path ++
              text (": " ++ words f ++ "\n")) 125
          match k.files.locate (some p.cwd) path with
          | .error f => fault f
          | .ok place =>
            if k.files.isDirectory place then
              runIn (k.update p.pid fun p => { p with cwd := place }) p.pid environment name args
            else fault .notDirectory

/-! ### Texts, conditions and signals -/

def echo (args : List Octets) : Octets :=
  let isOption (a : Octets) : Bool :=
    a.head? == some 45 && 1 < a.length && (a.drop 1).all [110, 101, 69].contains
  let letters := (args.takeWhile isOption).flatten
  let line := Octets.joinWith 32 (args.dropWhile isOption)
  let last := (letters.filter fun b => b == 101 || b == 69).getLast?
  let (out, stopped) := if last == some 101 then Shell.Format.escapes true (line.length + 1) line
    else (line, false)
  if letters.contains 110 || stopped then out else out ++ [10]

def printf (k : Kernel Program) (pid : Nat) (args : List Octets) : Kernel Program :=
  match args with
  | [] => misuse k pid "printf" (text "missing operand")
  | format :: args =>
    let p := Shell.Format.printf format args
    let troubles := (p.complaints ++ p.failure.toList).map fun why => (2, text "printf: " ++ why ++ [10])
    k.setProgram pid (.print (troubles ++ [(1, p.out)]) (if troubles.isEmpty then 0 else 1))

/-- A shell that only looks at the host for a program. -/
def observer (k : Kernel Program) (pid : Nat) : Shell.Turn :=
  { kernel := k, pid, shell := { name := [], pid } }

def test (k : Kernel Program) (pid : Nat) (name : String) (args : List Octets) : Kernel Program :=
  let complain (why : Octets) : Kernel Program := fail k pid (text (name ++ ": ") ++ why ++ [10]) 2
  if name == "[" && args.getLast? != some [93] then complain (text "missing ']'")
  else
    let args := if name == "[" then args.dropLast else args
    match Shell.Condition.holds (Shell.Builtin.surroundings (observer k pid)) args with
    | .ok b => finish k pid (if b then 0 else 1)
    | .error (.malformed why) => complain (text why)
    | .error (.notNumber a) => complain (text "invalid integer " ++ quoted a)

def kill (k : Kernel Program) (pid : Nat) (args : List Octets) : Kernel Program :=
  match Shell.Builtin.killRequest args with
  | .ok (s?, false, targets@(_ :: _)) =>
    let step (state : Kernel Program × Octets) (word : Octets) : Kernel Program × Octets :=
      let (k, said) := state
      match Shell.Builtin.target? (observer k pid).shell word with
      | .error _ => (k, said ++ text "kill: failed to parse argument: " ++ quoted word ++ [10])
      | .ok target =>
        match k.send pid target (s?.getD Signal.terminate) with
        | .ok k => (k, said)
        | .error f => (k, said ++ text "kill: (" ++ word ++ text ("): " ++ words f ++ "\n"))
    let (k, said) := targets.foldl step (k, [])
    if ((k.process? pid).map Process.hasEnded).getD true then k
    else fail k pid said (if said.isEmpty then 0 else 1)
  | .ok (_, true, _) =>
    let names := ((List.range 31).map fun n => Signal.name (n + 1))
    print k pid (text (" ".intercalate names ++ "\n"))
  | _ => fail k pid (text "kill: not enough arguments\n")

/-- What a program does first. -/
def begin (k : Kernel Program) (p : Process Program) (name : String) : Kernel Program :=
  let args := p.args.tail
  match name with
  | "dash" => (Shell.Turn.begin k p).commit
  | "false" => finish k p.pid 1
  | "sleep" => sleep k p.pid args
  | "stty" => stty k p.pid args
  | "id" => identify k p args
  | "env" => env k p args
  | "cat" => cat k p.pid args
  | "head" => head k p.pid args
  | "tr" => tr k p.pid args
  | "dd" => dd k p.pid args
  | "echo" => print k p.pid (echo args)
  | "printf" => printf k p.pid args
  | "test" | "[" => test k p.pid name args
  | "kill" => kill k p.pid args
  | "pwd" => print k p.pid (FileTree.pathOf p.cwd ++ [10])
  | _ => finish k p.pid 0

end Utility

namespace Program

/-- One step of the program of a process. -/
def step (k : Kernel Program) (pid : Nat) : Kernel Program :=
  match k.process? pid with
  | none => k
  | some p =>
    match p.program with
    | .fresh name => Utility.begin k p name
    | .shell state => (Shell.Turn.step { kernel := k, pid, shell := state }).commit
    | .sleep moment =>
      if moment ≤ k.clock then k.finish pid (.code 0)
      else k.block pid (.time moment)
    | .copy c => c.step k pid
    | .print [] status => k.finish pid (.code status)
    | .print ((number, out) :: rest) status =>
      if out.isEmpty then k.setProgram pid (.print rest status)
      else match k.write pid number out with
        | (.done n, k) => k.setProgram pid (.print ((number, out.drop n) :: rest) status)
        | (.blocked w, k) => k.block pid w
        | (.fault _, k) =>
          match k.process? pid with
          | some p => if p.hasEnded then k else k.finish pid (.code 1)
          | none => k

end Program

end PseudoTerminal.Host
