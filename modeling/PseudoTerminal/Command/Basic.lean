import PseudoTerminal.Environment.Basic
import PseudoTerminal.Files.Path
import PseudoTerminal.Fault
import PseudoTerminal.Text.Quoted

/-! A program to run on a terminal: its arguments, environment, directory and user, and what is done to
it when it is cancelled. Until an entry is changed, the environment is the host's. -/

namespace PseudoTerminal

/-- The user and the group that the program runs as, when they are not the host's. -/
structure Attributes where
  user : Option Nat := none
  group : Option Nat := none
  deriving DecidableEq, Repr, Inhabited

/-- A command whose cancel action is an `α` and whose token is a `τ`. -/
structure Command (α τ : Type) where
  program : Octets
  args : List Octets := []
  /-- The entries that were set, over what they were set. -/
  vars : Option (List Variable) := none
  dir : Option Path := none
  attributes : Attributes := {}
  token : Option τ := none
  /-- What a cancellation does instead of killing the program. -/
  action : Option α := none
  /-- How long a cancelled program may go on before it is killed, in microseconds. -/
  delay : Option Nat := none
  deriving Repr, Inhabited

namespace Command

variable {α τ : Type}

def addArgs (c : Command α τ) (args : List Octets) : Command α τ := { c with args := c.args ++ args }

/-- Sets variables; the first time, on top of the host's. -/
def addVars (c : Command α τ) (host vars : List Variable) : Command α τ :=
  { c with vars := some (c.vars.getD host ++ vars) }

/-- Starts from an empty environment. -/
def clearVars (c : Command α τ) : Command α τ := { c with vars := some [] }

/-- Whether a string can be handed to the system. -/
def isPlain (s : Octets) : Bool := !s.contains 0

/-- Inserts a variable into a list in key order; one with the same key is replaced. -/
def insertSorted (v : Variable) : List Variable → List Variable
  | [] => [v]
  | w :: rest =>
    if v.key == w.key then v :: rest
    else if Octets.lt v.key w.key then v :: w :: rest
    else w :: insertSorted v rest

/-- The variables in key order. -/
def sorted (vars : List Variable) : List Variable := vars.foldl (fun vs v => insertSorted v vs) []

/-- The variables of the program: the host's as they are, or the last of every key that was set, in key
order. -/
def environment (c : Command α τ) (host : List Variable) : List Variable :=
  match c.vars with
  | none => host
  | some vars => sorted (Environment.dedup .sensitive vars)

/-- Whether everything that the command hands to the system can be handed to it. -/
def isHandable (c : Command α τ) : Bool :=
  isPlain c.program && c.args.all isPlain && c.dir.all isPlain
    && match c.vars with
      | none => true
      | some vars =>
        (Environment.dedup .sensitive vars).all fun v => isPlain v.key && isPlain v.value

/-- The command in a diagnostic. -/
def text (c : Command α τ) (pid : Option Nat) : String :=
  let optional (s : Option String) : String :=
    match s with
    | some s => "Some(" ++ s ++ ")"
    | none => "None"
  "Command \x7b program: " ++ Quoted.ofOctets c.program
    ++ ", args: [" ++ ", ".intercalate (c.args.map Quoted.ofOctets)
    ++ "], dir: " ++ optional (c.dir.map Quoted.ofOctets)
    ++ ", pid: " ++ optional (pid.map toString) ++ " \x7d"

end Command

end PseudoTerminal
