import PseudoTerminal.Host.Program
import PseudoTerminal.Shell.Expansion

/-! One turn of a shell: the host as the shell sees it, and what the shell can do in one go. -/

namespace PseudoTerminal.Shell

open Host

/-- A shell at work: the host, the number of its process, and its state. -/
structure Turn where
  kernel : Kernel Program
  pid : Nat
  shell : State
  /-- The process has ended or runs another program. -/
  gone : Bool := false

namespace Turn

def process? (t : Turn) : Option (Process Program) := t.kernel.process? t.pid

def cwd (t : Turn) : Place := (t.process?.map Process.cwd).getD []

def files (t : Turn) : FileTree := t.kernel.files

/-- The host after the turn. -/
def commit (t : Turn) : Kernel Program :=
  if t.gone then t.kernel else t.kernel.setProgram t.pid (.shell t.shell)

def block (t : Turn) (w : Wait) : Turn :=
  { t with kernel := t.kernel.block t.pid w }

def focus (t : Turn) (f : Focus) : Turn := { t with shell := { t.shell with focus := f } }

def push (t : Turn) (f : Frame) : Turn := { t with shell := t.shell.push f }

def run (t : Turn) (c : Command) : Turn := { t with shell := t.shell.run c }

/-- The present command is done. -/
def finish (t : Turn) (status : Nat) : Turn := { t with shell := t.shell.finish status }

/-- The present command is done, and the shell ends if a failure of it is to end the shell. -/
def complete (t : Turn) (status : Nat) : Turn :=
  if status ≠ 0 && t.shell.has 'e' && !t.shell.isTested then t.focus (.exit status)
  else t.finish status

/-- Prints texts, then the command is done. -/
def print (t : Turn) (texts : List (Nat × Octets)) (status : Nat) : Turn :=
  t.focus (.print texts status false [])

/-- Prints a message of the shell, then the command is done. -/
def complain (t : Turn) (text : Octets) (status : Nat) : Turn :=
  t.print [(2, t.shell.message text)] status

/-- Prints a message of the shell and ends it. -/
def die (t : Turn) (text : Octets) (status : Nat) : Turn :=
  t.focus (.print [(2, t.shell.message text)] status true [])

/-- A failure that would end the shell only fails the command. -/
def soften (t : Turn) : Turn :=
  match t.shell.focus with
  | .print texts status true lost => t.focus (.print texts status false lost)
  | _ => t

/-- Writes something to a descriptor at once, as far as there is room. -/
def say (t : Turn) (number : Nat) (text : Octets) : Turn :=
  { t with kernel := (t.kernel.write t.pid number text).2 }

/-- Writes something to the errors at once. -/
def note (t : Turn) (text : Octets) : Turn := t.say 2 text

/-- A copy of the shell as a child. Traps that catch are dropped, and nothing is left to do after the
given focus and frames. -/
def fork (t : Turn) (focus : Focus) (frames : List Frame) : Nat × Turn :=
  let child : State := { t.shell with
    focus, frames, jobs := [], traps := t.shell.traps.filter fun e => e.2.isEmpty }
  let (pid, k) := t.kernel.fork t.pid (.shell child)
  (pid, { t with kernel := k.update pid fun p => { p with caught := [] } })

/-- Changes the descriptors of another process. -/
def bindIn (t : Turn) (pid number : Nat) (o : OpenFile) : Turn :=
  { t with kernel := t.kernel.install pid number o }

/-- Whether the shell may turn into the program instead of waiting for it. -/
def isLast (t : Turn) : Bool :=
  t.shell.frames.isEmpty && t.shell.traps.all (·.2.isEmpty)

/-- Whether a descriptor is a terminal. -/
def isTerminal (t : Turn) (number : Nat) : Bool :=
  match t.kernel.openFile? t.pid number with
  | some (_, o) =>
    match o.target with
    | .terminal _ => true
    | _ => false
  | none => false

/-! ### Redirections -/

/-- The words of a message for a file that cannot be opened. -/
def openText (creating : Bool) (f : Fault) : String :=
  if f == .noEntry || f == .notDirectory then
    if creating then "Directory nonexistent" else "No such file"
  else match f with
    | .os n => Fault.describe n
    | f => f.message

/-- Why a redirection failed. Some failures end the shell, and some are not told because the errors have
nowhere to go. -/
structure Refusal where
  text : Octets
  isFatal : Bool := false
  isSilent : Bool := false

/-- Complains about a redirection, and ends the shell if that depends on it. -/
def refuse (t : Turn) (r : Refusal) (lasting : Bool) : Turn :=
  if lasting || r.isFatal then t.die r.text 2
  else if r.isSilent then t.complete 2
  else t.complain r.text 2

/-- Opens a file for a descriptor. A file that is there may have to be kept. -/
def openAs (t : Turn) (number : Nat) (path : Octets) (access : Access) (keeps : Bool := false) :
    Except Refusal Turn :=
  let isKept := keeps && match t.files.find (some t.cwd) path with
    | .ok (_, .file _ _) => true
    | _ => false
  match if isKept then .error (.os 17) else t.kernel.openPath t.pid path access with
  | .ok (o, k) => .ok { t with kernel := k.install t.pid number o }
  | .error f =>
    let creating := access != .read
    .error ⟨Octets.ofString (if creating then "cannot create " else "cannot open ") ++ path
      ++ Octets.ofString (": " ++ openText creating f), false, false⟩

/-- Carries out one redirection. -/
def redirect (t : Turn) (r : Redirect) : Except Refusal Turn := do
  let (word, shell) ← (t.shell.expandText r.word).mapError (⟨·, true, false⟩)
  let t := { t with shell }
  match r.direction with
  | .input => t.openAs r.number word .read
  | .output => t.openAs r.number word .write (t.shell.has 'C')
  | .overwrite => t.openAs r.number word .write
  | .append => t.openAs r.number word .append
  | .both => t.openAs r.number word .both
  | .text => return { t with kernel := t.kernel.install t.pid r.number { target := .report word } }
  | .duplicate =>
    if word == [45] then return { t with kernel := t.kernel.close t.pid r.number }
    match if Reader.isDescriptor word then Octets.decimal? word else none with
    | none => throw ⟨Octets.ofString "Syntax error: Bad fd number", true, false⟩
    | some source =>
      if source = r.number then return t
      match t.kernel.duplicate t.pid source r.number with
      | .ok kernel => return { t with kernel }
      | .error f =>
        let why := match f with
          | .os n => Fault.describe n
          | f => f.message
        throw ⟨word ++ Octets.ofString (": " ++ why), false, r.number == 2⟩

/-- Keeps what a descriptor refers to under a high number, and tells where. -/
def keep (t : Turn) (number : Nat) : (Nat × Option Nat) × Turn :=
  match t.process? with
  | none => ((number, none), t)
  | some p =>
    match p.file? number with
    | none => ((number, none), t)
    | some file =>
      let high := p.freeNumber 10
      ((number, some high),
        { t with kernel := t.kernel.update t.pid fun p => p.bind ⟨high, file, false⟩ })

/-- Puts back what was kept. -/
def restore (t : Turn) (saved : List (Nat × Option Nat)) : Turn :=
  saved.foldl (fun t (number, high?) =>
    match high? with
    | none => { t with kernel := t.kernel.close t.pid number }
    | some high =>
      match t.kernel.duplicate t.pid high number with
      | .ok k => { t with kernel := k.close t.pid high }
      | .error _ => t) t

/-- Carries out redirections that end with the command. On a failure everything is put back. -/
def redirectFor (t : Turn) (rs : List Redirect) : Except Refusal (List (Nat × Option Nat) × Turn) :=
  let step (state : List (Nat × Option Nat) × Turn) (r : Redirect) :
      Except Refusal (List (Nat × Option Nat) × Turn) := do
    let (saved, t) := state
    let (entry, t) := t.keep r.number
    return (entry :: saved, ← t.redirect r)
  rs.foldlM step ([], t)

/-- Carries out redirections that stay. -/
def redirectAll (t : Turn) (rs : List Redirect) : Except Refusal Turn :=
  rs.foldlM redirect t

/-! ### Programs -/

/-- The directories in which programs are searched when nothing else is said. -/
def standardPath : Octets :=
  Octets.ofString "/usr/local/sbin:/usr/local/bin:/usr/sbin:/usr/bin:/sbin:/bin"

/-- The paths that a program name may stand for. -/
def candidates (t : Turn) (name : Octets) (path : Option Octets) : List Path :=
  if name.contains Path.slash then [name]
  else (Octets.splitOn 58 (path.getD ((t.shell.valueOf "PATH").getD standardPath))).map fun dir =>
    Path.join dir name

/-- Turns the process into a program, or says why not and ends. -/
def launch (t : Turn) (assignments : List (Octets × Octets)) (fields : List Octets) : Turn :=
  match fields with
  | [] => t.focus (.exit 0)
  | name :: _ =>
    let environment := t.shell.exports assignments
    let path := assignments.foldl (fun path (key, value) =>
      if key == Octets.ofString "PATH" then some value else path) none
    let candidates := t.candidates name path
    let start := candidates.foldl (fun (result : Except Fault (Kernel Program)) path =>
      match result with
      | .ok k => .ok k
      | .error f =>
        match t.kernel.start t.pid path fields environment with
        | .ok k => .ok k
        | .error g => .error (if g == .noEntry || g == .notDirectory then f else g))
      (.error .noEntry)
    match start with
    | .ok kernel => { t with kernel, gone := true }
    | .error f =>
      if f == .noEntry then t.die (name ++ Octets.ofString ": not found") 127
      else t.die (name ++ Octets.ofString (": " ++ match f with
        | .os n => Fault.describe n
        | f => f.message)) 126

end Turn

end PseudoTerminal.Shell
