import PseudoTerminal.Shell.Builtin.Directory
import PseudoTerminal.Shell.Builtin.Job
import PseudoTerminal.Shell.Builtin.Lookup
import PseudoTerminal.Shell.Builtin.Text

/-! The commands that the shell carries out itself, by name. -/

namespace PseudoTerminal.Shell.Builtin

open Host

/-! ### Jumps and texts -/

/-- Leaves loops, or goes on with the next round of one; there may be fewer of them than are asked for. -/
def jump (t : Turn) (name : String) (make : Nat → Jump) (args : List Octets) : Turn :=
  let isLoop (f : Frame) : Bool := match f with
    | .loopTest _ _ _ _ | .loopBody _ _ _ | .eachNext _ _ _ => true
    | _ => false
  let isCall (f : Frame) : Bool := match f with
    | .callEnd _ _ _ isCall => isCall
    | _ => false
  let loops := ((t.shell.frames.takeWhile (!isCall ·)).filter isLoop).length
  let go (n : Nat) : Turn := if loops = 0 then t.finish 0 else t.focus (.jump (make (min n loops)))
  match args with
  | [] => go 1
  | a :: _ => withNumber t name a fun n =>
      if n = 0 then fail t name (text "Illegal number: " ++ a) else go n

def goBack (t : Turn) (args : List Octets) : Turn :=
  match args with
  | [] => t.focus (.jump (.back t.shell.status))
  | a :: _ => withNumber t "return" a fun n => t.focus (.jump (.back n))

def exit (t : Turn) (args : List Octets) : Turn :=
  match t.warnOfJobs?, args with
  | some t, _ => t.finish 0
  | none, [] => t.focus (.exit t.shell.status)
  | none, a :: _ => withNumber t "exit" a fun n => t.focus (.exit n)

/-- Runs a text that belongs to a command; messages begin with a word meanwhile. -/
def runText (t : Turn) (context script : Octets) (isFile : Bool) : Turn :=
  let t := t.push (.within t.shell.context isFile)
  let shell := { t.shell with context := context ++ text ": " }
  ({ t with shell }.push (.text (Source.ofOctets script) 1)).finish 0

/-- Runs the commands in a file; without a slash in its name it is searched. -/
def source (t : Turn) (args : List Octets) : Turn :=
  withOptions t "." "" args fun _ args =>
    match args with
    | [] => t.finish 0
    | file :: _ =>
      let isFile (p : Path) : Bool := match t.files.find (some t.cwd) p with
        | .ok (_, .file _ _) => true
        | _ => false
      let path := if file.contains Path.slash then some file
        else (t.candidates file none).find? isFile
      match path.map fun p => (p, t.files.read (some t.cwd) p) with
      | none => fail t "." (file ++ text ": not found")
      | some (p, .ok script) => runText t p script true
      | some (p, .error f) => fail t "." (text "cannot open " ++ p ++ text (": " ++ Turn.openText false f))

/-! ### By name -/

/-- Begins to run a builtin. -/
def start (t : Turn) (name : String) (args : List Octets) : Turn :=
  match name with
  | ":" | "true" => t.finish 0
  | "false" => t.complete 1
  | "echo" => t.print [(1, Format.echo args)] 0
  | "printf" => printf t args
  | "test" | "[" => test t name args
  | "read" => read t args
  | "kill" => kill t args
  | "wait" => wait t args
  | "jobs" => jobs t args
  | "fg" | "bg" => control t name args
  | "trap" => trap t args
  | "cd" | "chdir" => cd t args
  | "pwd" => pwd t args
  | "umask" => umask t args
  | "export" => mark t name Setting.exported (fun s => { s with exported := true }) args
  | "readonly" => mark t name Setting.constant (fun s => { s with constant := true }) args
  | "unset" => unset t args
  | "set" => set t args
  | "shift" => shift t args
  | "local" => localize t args
  | "getopts" => getopts t args
  | "alias" => setAliases t args
  | "unalias" => dropAliases t args
  | "break" => jump t name Jump.leave args
  | "continue" => jump t name Jump.again args
  | "return" => goBack t args
  | "exit" => exit t args
  | "eval" =>
    if args.isEmpty then t.finish 0 else runText t (text name) (Octets.joinWith 32 args) false
  | "." => source t args
  | "command" => command t args
  | "type" => type t args
  | "hash" => hash t args
  | "ulimit" => t.print (if args.isEmpty then [(1, text "unlimited\n")] else []) 0
  | "times" => t.print [(1, text "0m0.000000s 0m0.000000s\n0m0.000000s 0m0.000000s\n")] 0
  | _ => t.finish 0

/-- Runs a builtin. A failure ends the shell if the builtin is a special one that was called as such, and
the loss of what it prints is a failure. -/
def run (t : Turn) (name : String) (args : List Octets) (isSpecial : Bool) : Turn :=
  let lost := t.shell.report (text (name ++ ": " ++ name ++ ": I/O error"))
  let after := start t name args
  let after := match after.shell.focus with
    | .print texts status fatal _ => after.focus (.print texts status fatal lost)
    | _ => after
  if isSpecial then after else after.soften

end PseudoTerminal.Shell.Builtin
