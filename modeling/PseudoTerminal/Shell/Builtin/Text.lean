import PseudoTerminal.Shell.Builtin.Basic
import PseudoTerminal.Shell.Condition
import PseudoTerminal.Shell.Format

/-! Conditions, formats and lines of input. -/

namespace PseudoTerminal.Shell.Builtin

open Host

/-- What is under a path; reports of the host are files as well. -/
def node? (t : Turn) (path : Octets) : Option Node :=
  let place := Kernel.plainPlace t.cwd path
  if path.isEmpty then none
  else if (t.kernel.reportAt? t.pid place).isSome then some (.file 0o444 (.data []))
  else
    let isProcess := match place with
      | [root, who] => root == text "proc" && ((Octets.decimal? who).bind t.kernel.process?).isSome
      | _ => false
    if isProcess then some (.directory 0o555)
    else ((t.files.find (some t.cwd) path).toOption).map Prod.snd

def isLink (t : Turn) (path : Octets) : Bool :=
  match t.files.locate (some t.cwd) path false with
  | .ok place => match t.files.node? place with
    | some (.link _) => true
    | _ => false
  | .error _ => false

/-- What conditions find out about the host. -/
def surroundings (t : Turn) : Condition.Surroundings := {
  node? := node? t, link? := isLink t, isTerminal := t.isTerminal
  place? := fun p => (t.files.locate (some t.cwd) p).toOption }

def test (t : Turn) (name : String) (args : List Octets) : Turn :=
  let args? := if name == "[" then
      if args.getLast? == some [93] then some args.dropLast else none
    else some args
  match args?.map (Condition.holds (surroundings t)) with
  | none => fail t name (text "missing ]")
  | some (.ok b) => t.complete (if b then 0 else 1)
  | some (.error (.malformed why)) => fail t name (text why)
  | some (.error (.notNumber a)) => fail t name (text "Illegal number: " ++ a)

def printf (t : Turn) (args : List Octets) : Turn :=
  withOptions t "printf" "" args fun _ args =>
    match args with
    | [] => fail t "printf" (text "usage: printf format [arg ...]")
    | format :: args =>
      let p := Format.printf format args
      let say (why : Octets) : Octets := t.shell.report (text "printf: " ++ why)
      let texts := [(2, p.complaints.flatMap say), (1, p.out)]
      match p.failure with
      | none => t.print texts (if p.complaints.isEmpty then 0 else 1)
      | some why => t.print (texts ++ [(2, say why)]) 2

/-! ### Lines of input -/

def read (t : Turn) (args : List Octets) : Turn :=
  withOptions t "read" "p:r" args fun found names =>
    let given := (found.filter (·.1 == 'p')).getLast?.map Prod.snd
    let t := match given with
      | some asked => if t.isTerminal 0 then t.note asked else t
      | none => t
    if names.isEmpty then fail t "read" (text "arg count")
    else t.focus (.gather { names, raw := found.any (·.1 == 'r') })

/-- A line that is being split: the fields before, the one that is being read, most recent first, where
separators began that may be cut off its end, and whether blanks came before. -/
structure Dealing where
  done : List Octets := []
  field : Octets := []
  /-- The length of the last field without what may be cut off. -/
  cut : Option Nat := none
  afterBlank : Bool := false
  /-- How many fields may still be ended. -/
  left : Nat

/-- Takes one more octet of a line; escaped ones never separate. -/
def Dealing.add (separators : Octets) (d : Dealing) (b : UInt8) (escaped : Bool) : Dealing :=
  let grown := { d with field := b :: d.field }
  if escaped then { grown with afterBlank := false }
  else
    let separates := separators.contains b
    let isBlank := separates && (b == 32 || b == 9 || b == 10)
    let here := some d.field.length
    if d.left = 0 then
      if isBlank then { grown with cut := d.cut.or here }
      else if separates && d.afterBlank then { grown with afterBlank := false }
      else { grown with cut := none, afterBlank := false }
    else if d.afterBlank && separates then
      -- blanks and one separator among them are one separation
      { d with afterBlank := isBlank }
    else if !separates then { grown with afterBlank := false }
    else if isBlank && d.field.isEmpty then d
    else if d.left = 1 then { grown with left := 0, cut := here, afterBlank := isBlank }
    else
      { d with done := d.done ++ [d.field.reverse], field := [], left := d.left - 1, afterBlank := isBlank }

/-- The fields of a line, at most so many; the last one is the rest of the line. -/
def deal (separators : Octets) (count : Nat) (line : List (UInt8 × Bool)) : List Octets :=
  let start : Dealing := { left := count }
  let d := line.foldl (fun d e => d.add separators e.1 e.2) start
  let last := match d.cut with
    | some n => d.field.reverse.take n
    | none => d.field.reverse
  if last.isEmpty then d.done else d.done ++ [last]

/-- Gives the names of `read` the fields of the line that was read, and nothing to those that are left. -/
def finishRead (t : Turn) (g : Gathering) (status : Nat) : Turn :=
  let fields := deal t.shell.separators g.names.length g.taken.reverse
  let values := g.names.zip (fields ++ List.replicate g.names.length [])
  match values.foldlM (fun t e => assign t e.1 e.2) t with
  | .ok t => t.complete status
  | .error why => t.print [(2, t.shell.report (text "read: " ++ why))] 2

end PseudoTerminal.Shell.Builtin
