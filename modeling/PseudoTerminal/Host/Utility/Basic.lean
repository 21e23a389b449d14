import PseudoTerminal.Host.Program

/-! What the small programs of the host have in common: how they end, print and complain. -/

namespace PseudoTerminal.Host

namespace Utility

def text (s : String) : Octets := Octets.ofString s

/-- The program ends with a status. -/
def finish (k : Kernel Program) (pid : Nat) (status : Nat) : Kernel Program :=
  k.finish pid (.code status)

/-- The program prints a text and ends. -/
def print (k : Kernel Program) (pid : Nat) (out : Octets) (status : Nat := 0) : Kernel Program :=
  k.setProgram pid (.print [(1, out)] status)

/-- The program complains and ends. -/
def fail (k : Kernel Program) (pid : Nat) (message : Octets) (status : Nat := 1) : Kernel Program :=
  k.setProgram pid (.print [(2, message)] status)

/-- The words of a fault without its number. -/
def words (f : Fault) : String :=
  match f with
  | .os n => Fault.describe n
  | f => f.message

def helpHint (name : String) : Octets :=
  text ("Try '" ++ name ++ " --help' for more information.\n")

/-- The octets that have an escape of their own, and its letter. -/
def escapes : List (UInt8 × UInt8) := [
  (7, 97), (8, 98), (9, 116), (10, 110), (11, 118), (12, 102), (13, 114), (39, 39), (92, 92)]

/-- An octet inside quotes: those without a shape are spelled out. -/
def spelled (b : UInt8) : Octets :=
  match escapes.lookup b with
  | some c => [92, c]
  | none =>
    if 32 ≤ b && b < 127 then [b]
    else [92, 48 + b / 64, 48 + b / 8 % 8, 48 + b % 8]

/-- An argument in quotes. -/
def quoted (arg : Octets) : Octets := text "'" ++ arg.flatMap spelled ++ text "'"

/-! ### Options -/

/-- An option of a program: its letter, its name, and whether it takes a word. -/
structure OptionRule where
  letter : Char
  name : String := ""
  takesWord : Bool := false

/-- The options and the operands of the arguments, as far as letters of an option word are left. Operands
may stand among options, or the first of them ends the options. -/
def optionsFrom (rules : List OptionRule) (mixed : Bool) : Nat → Octets → List Octets →
    Except Octets (List (Char × Octets) × List Octets)
  | 0, _, args => .ok ([], args)
  | _ + 1, [], [] => .ok ([], [])
  | fuel + 1, b :: letters, args => do
    let go (word letters : Octets) (args : List Octets) := do
      let (more, operands) ← optionsFrom rules mixed fuel letters args
      return ((Char.ofNat b.toNat, word) :: more, operands)
    match rules.find? (·.letter.toNat == b.toNat) with
    | none => throw (text "invalid option -- '" ++ b :: text "'")
    | some r =>
      if !r.takesWord then go [] letters args
      else if !letters.isEmpty then go letters [] args
      else match args with
        | word :: rest => go word [] rest
        | [] => throw (text "option requires an argument -- '" ++ b :: text "'")
  | fuel + 1, [], arg :: rest => do
    match arg with
    | [45, 45] => return ([], rest)
    | 45 :: 45 :: long =>
      let (name, value?) := Octets.breakAt 61 long
      let fitting := rules.filter fun r => name.isPrefixOf (text r.name)
      let exact := fitting.filter fun r => text r.name == name
      match if exact.isEmpty then fitting else exact with
      | [r] =>
        let go (word : Octets) (rest : List Octets) := do
          let (more, operands) ← optionsFrom rules mixed fuel [] rest
          return ((r.letter, word) :: more, operands)
        let quotedName := text ("option '--" ++ r.name ++ "'")
        match r.takesWord, value?, rest with
        | false, none, rest => go [] rest
        | false, some _, _ => throw (quotedName ++ text " doesn't allow an argument")
        | true, some word, rest => go word rest
        | true, none, word :: rest => go word rest
        | true, none, [] => throw (quotedName ++ text " requires an argument")
      | _ => throw (text "unrecognized option '" ++ arg ++ text "'")
    | 45 :: b :: letters => optionsFrom rules mixed fuel (b :: letters) rest
    | operand =>
      if !mixed then return ([], operand :: rest)
      let (more, operands) ← optionsFrom rules mixed fuel [] rest
      return (more, operand :: operands)

/-- The options, each with its word, and the operands of the arguments. -/
def options (rules : List OptionRule) (mixed : Bool) (args : List Octets) :
    Except Octets (List (Char × Octets) × List Octets) :=
  optionsFrom rules mixed (2 * (args.map List.length).foldl (· + ·) 0 + args.length + 1) [] args

/-- A complaint that points to the help of the program. -/
def misuse (k : Kernel Program) (pid : Nat) (name : String) (why : Octets) (status : Nat := 1) :
    Kernel Program :=
  fail k pid (text (name ++ ": ") ++ why ++ [10] ++ helpHint name) status

end Utility

end PseudoTerminal.Host
