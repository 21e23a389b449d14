import PseudoTerminal.Host.Kernel
import PseudoTerminal.Shell.State

/-! The programs of the host as states of their own, and how one program makes way for another: a script
names its interpreter in its first line, and a text that does not is run by the shell. -/

namespace PseudoTerminal.Host

/-- How a text is shown: which lines are counted, which octets are spelled out, and where in the text we
are. -/
structure Display where
  /-- All lines are counted, or only those that are not empty. -/
  counted : Option Bool := none
  /-- Of empty lines that follow each other only one is shown. -/
  squeezed : Bool := false
  ends : Bool := false
  tabs : Bool := false
  spelled : Bool := false
  line : Nat := 1
  /-- At the start of a line, how many empty ones are in front of it. -/
  empty? : Option Nat := some 0

/-- What happens to octets that are copied. -/
inductive Transform
  | same
  | display (state : Display)
  /-- Octets are deleted, replaced by the table, and repetitions are squeezed. -/
  | translate (table : Array UInt8) (deleted squeezed : Array Bool) (last : Option UInt8)

/-- How much is copied. -/
inductive Extent
  | all
  | octets (left : Nat)
  | lines (left : Nat)
  | allButOctets (kept : Nat)
  | allButLines (kept : Nat)
  /-- So many blocks, or all. -/
  | blocks (left : Option Nat)
  deriving DecidableEq, Repr

/-- How many blocks were full and how many were not. -/
structure Tally where
  full : Nat := 0
  part : Nat := 0
  deriving DecidableEq, Repr

/-- What a program that copies says about a source around its name, and about its output. -/
structure Wording where
  opening : String × String := ("", "")
  reading : String × String := ("", "")
  writing : String := "write error"

/-- A program that copies from its sources to its output. -/
structure Copy where
  title : String
  wording : Wording := {}
  /-- The sources that are left; a dash, and nothing, is the standard input. -/
  sources : List Octets
  /-- The source that is being read, and its descriptor. -/
  reading : Option (Octets × Nat) := none
  /-- What is still to be written. -/
  waiting : Octets := []
  /-- What is held back until it is known whether it is to be written. -/
  held : Octets := []
  transform : Transform := .same
  extent : Extent := .all
  /-- Each source is copied to that extent, and not all of them together. -/
  renewed : Option Extent := none
  /-- The sources are named in front of what comes from them. -/
  headings : Bool := false
  isFirst : Bool := true
  block : Nat := 131072
  /-- Output is gathered into blocks of that size. -/
  outBlock : Option Nat := none
  /-- So many blocks are dropped first. -/
  skipped : Nat := 0
  ended : Bool := false
  status : Nat := 0
  input : Tally := {}
  output : Tally := {}
  /-- What is said in the end, from the counted blocks. -/
  summary : Bool := false

inductive Program
  /-- A program of the host that has not run yet. -/
  | fresh (name : String)
  | shell (state : Shell.State)
  | sleep (moment : Nat)
  /-- Texts are printed to descriptors, then the program ends. -/
  | print (texts : List (Nat × Octets)) (status : Nat)
  | copy (state : Copy)

namespace Kernel

/-- The last name of a path. -/
def baseName (path : Path) : Octets := (path.parts.filter (!·.isEmpty)).getLast?.getD path

/-- Interpreter and argument of a first line, if it names one. -/
def interpreter? (text : Octets) : Option (Octets × List Octets) :=
  match text with
  | 35 :: 33 :: rest =>
    let isBlank (b : UInt8) : Bool := b == 32 || b == 9
    let line := (rest.takeWhile (· != 10)).dropWhile isBlank
    let line := (line.reverse.dropWhile isBlank).reverse
    let name := line.takeWhile (!isBlank ·)
    let arg := (line.drop name.length).dropWhile isBlank
    some (name, if arg.isEmpty then [] else [arg])
  | _ => none

/-- The longest argument or variable, with its closing zero. -/
def wordLimit : Nat := 131072

/-- The space for all arguments and variables. -/
def spaceLimit : Nat := 2097152

/-- Makes a process run the file under a path. An interpreter may need an interpreter itself, a few
times over. -/
def execute (k : Kernel Program) (pid : Nat) (path : Path) (args environment : List Octets)
    (title : Option Octets := none) : Nat → Except Fault (Kernel Program)
  | 0 => .error .linkLoop
  | depth + 1 => do
    let some p := k.process? pid | throw (.os 3)
    if (args ++ environment).any fun s => wordLimit ≤ s.length then throw (.os 7)
    if spaceLimit < (args ++ environment).foldl (fun n s => n + s.length + 9) 0 then throw (.os 7)
    match ← k.files.find (some p.cwd) path with
    | (_, .file mode content) =>
      if mode &&& 0o111 == 0 then throw .accessDenied
      let title := title.getD (baseName path)
      match content with
      | .program name => return k.replaceProgram pid args environment title (.fresh name)
      | .data text =>
        match interpreter? text with
        | none => throw (.os 8)
        | some (name, given) =>
          if name.isEmpty then throw (.os 8)
          k.execute pid name (name :: given ++ path :: args.tail) environment (some title) depth
    | _ => throw .accessDenied

/-- Like `execute`; a text without an interpreter is run by the shell. -/
def start (k : Kernel Program) (pid : Nat) (path : Path) (args environment : List Octets) :
    Except Fault (Kernel Program) :=
  match k.execute pid path args environment none 5 with
  | .error (.os 8) =>
    let shell := Octets.ofString "/bin/sh"
    k.execute pid shell (shell :: path :: args.tail) environment none 5
  | result => result

end Kernel

end PseudoTerminal.Host
