import PseudoTerminal.Shell.Builtin.Name
import PseudoTerminal.Shell.Interactive

/-! How a shell starts: what its arguments ask for, the variables that it takes over, and what it runs
first. -/

namespace PseudoTerminal.Shell

open Host

namespace Turn

/-- What the arguments of the shell ask for. -/
structure Invocation where
  flags : List Char := []
  script : Option Octets := none
  file : Option Octets := none
  args : List Octets := []
  bad : Option Octets := none

def invocation (args : List Octets) : Invocation :=
  match Builtin.readFlagWords true args.length { shell := { name := [], pid := 0 } } args.tail with
  | .error why => { bad := some why }
  | .ok r =>
    let flags := r.shell.flags
    match r.command, r.args?.getD [] with
    | true, [] => { flags, bad := some (Octets.ofString "-c requires an argument") }
    | true, script :: rest => { flags, script := some script, file := rest.head?, args := rest.tail }
    | false, [] => { flags := 's' :: flags.filter (· != 's') }
    | false, file :: rest =>
      if flags.contains 's' then { flags, args := file :: rest }
      else { flags, file := some file, args := rest }

/-- The variables that a new shell takes from its environment. -/
def importSettings (environment : List Octets) : List Setting :=
  environment.foldl (fun settings entry =>
    match Octets.breakAt 61 entry with
    | (name, some value) =>
      if Reader.isName (Source.ofOctets name) then
        settings.filter (fun (s : Setting) => s.name != name)
          ++ [{ name, value := some value, exported := true }]
      else settings
    | _ => settings) []

/-- The directory that the shell shows, if a variable tells another way to the same place. -/
def shownDirectory (k : Kernel Program) (cwd : Place) (settings : List Setting) : Octets :=
  let given := (settings.find? fun s => s.name == Octets.ofString "PWD").bind Setting.value
  match given with
  | some p =>
    if Path.isAbsolute p && (k.files.locate (some cwd) p).toOption == some cwd then p
    else FileTree.pathOf cwd
  | none => FileTree.pathOf cwd

/-- The state of a shell that has just been started by a process. -/
def initial (k : Kernel Program) (p : Process Program) : State :=
  let i := invocation p.args
  let settings := importSettings p.environment
  let directory := shownDirectory k p.cwd settings
  let base : State := {
    name := i.file.getD (p.args.headD (Octets.ofString "sh")), pid := p.pid, args := i.args, settings
    directory, flags := i.flags, deaf := p.ignored }
  let add (sh : State) (name : String) (value : Octets) : State :=
    if (sh.valueOf name).isSome then sh
    else sh.put { name := Octets.ofString name, value := some value }
  let sh := add base "PATH" standardPath
  let sh := sh.put { name := Octets.ofString "IFS", value := some [32, 9, 10] }
  let sh := add sh "OPTIND" (Octets.ofString "1")
  let sh := add sh "PS1" (Octets.ofString (if p.user = 0 then "# " else "$ "))
  let sh := add sh "PS2" (Octets.ofString "> ")
  let sh := add sh "PS4" (Octets.ofString "+ ")
  let sh := sh.put { name := Octets.ofString "PPID", value := some (Octets.ofNat p.parent) }
  sh.put { name := Octets.ofString "PWD", value := some directory, exported := true }

/-- A shell that has just been started by a process. -/
def begin (k : Kernel Program) (p : Process Program) : Turn :=
  let i := invocation p.args
  let t : Turn := { kernel := k, pid := p.pid, shell := initial k p }
  match i.bad, i.script, i.file with
  | some text, _, _ => { t with shell := { t.shell with line := 0 } }.die text 2
  | none, some script, _ => t.push (.text (Source.ofOctets script) 1)
  | none, none, some file =>
    match k.openPath p.pid file .read with
    | .ok (o, _) =>
      let text := match o.target with
        | .file place => k.dataAt place
        | .report text => text
        | _ => []
      t.push (.text (Source.ofOctets text) 1)
    | .error f =>
      let t := { t with shell := { t.shell with
        name := p.args.headD [], line := 0 } }
      t.die (Octets.ofString "cannot open " ++ file ++ Octets.ofString (": " ++ openText false f)) 2
  | none, none, none => t.attend.push (.input 0 [] 1 false)

/-- The variables that a program gets when a shell with these variables starts it in a directory. -/
def handedOn (files : FileTree) (cwd : Place) (vars : List Variable) : List Variable :=
  let p : Process Program := {
    pid := 2, parent := 1, group := 2, session := 2, args := []
    environment := Environment.entries vars, title := [], cwd, program := .print [] 0 }
  ((initial { files } p).exports []).filterMap fun entry =>
    match Octets.breakAt 61 entry with
    | (key, some value) => some ⟨key, value⟩
    | _ => none

end Turn

end PseudoTerminal.Shell
