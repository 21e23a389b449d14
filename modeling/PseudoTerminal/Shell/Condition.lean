import PseudoTerminal.Files.Tree

/-! Conditions that `test` looks at: texts, numbers and files, joined by `!`, `-a`, `-o` and parentheses. -/

namespace PseudoTerminal.Shell.Condition

/-- What conditions ask about: what a path names and where that is, with or without its links followed, and
whether a descriptor is a terminal. -/
structure Surroundings where
  node? : Octets → Option Node
  place? : Octets → Option Place
  link? : Octets → Bool
  isTerminal : Nat → Bool

inductive Fault
  | malformed (text : String)
  | notNumber (text : Octets)

abbrev Eval := Except Fault

/-- The number that a word writes, with blanks around it and perhaps a sign. -/
def number (s : Octets) : Eval Int :=
  let isSpace (b : UInt8) : Bool := b == 32 || 9 ≤ b && b ≤ 13
  let value : Option Int := match ((s.dropWhile isSpace).reverse.dropWhile isSpace).reverse with
    | 45 :: ds => (Octets.decimal? ds).map fun n => -n
    | 43 :: ds => (Octets.decimal? ds).map Int.ofNat
    | ds => (Octets.decimal? ds).map Int.ofNat
  match value with
  | some n => if -Int.pow 2 63 ≤ n && n < Int.pow 2 63 then .ok n else .error (.notNumber s)
  | none => .error (.notNumber s)

/-! ### Operators -/

/-- What an operator stands between or in front of. -/
inductive Kind
  | unary
  | binary
  /-- It joins conditions. -/
  | joint
  | sign
  deriving DecidableEq, Repr

def unaryWords : List String := [
  "-r", "-w", "-x", "-e", "-f", "-d", "-c", "-b", "-p", "-u", "-g", "-k", "-s", "-t", "-z", "-n", "-h",
  "-O", "-G", "-L", "-S"]

def binaryWords : List String := [
  "=", "!=", "<", ">", "-eq", "-ne", "-ge", "-gt", "-le", "-lt", "-nt", "-ot", "-ef"]

def word (t : Octets) : String := (String.fromUTF8? ⟨t.toArray⟩).getD ""

/-- The kind of an operator. -/
def kind? (t : Octets) : Option Kind :=
  let w := word t
  if unaryWords.contains w then some .unary
  else if binaryWords.contains w then some .binary
  else if ["-a", "-o"].contains w then some .joint
  else if ["!", "(", ")"].contains w then some .sign
  else none

/-- The operator at the front of arguments. A word that could stand in front of an operand is one itself
when no operand follows, or when it stands before an operator between two. -/
def operator? (args : List Octets) : Option (Kind × String) :=
  match args with
  | [] => none
  | a :: rest =>
    match kind? a with
    | none => none
    | some k =>
      let isOperand : Bool := match k, rest with
        | .unary, [] => true
        | .unary, b :: _ :: _ => kind? b == some .binary
        | .sign, [] => a == [40]
        | _, _ => false
      if isOperand then none else some (k, word a)

/-! ### Single conditions -/

/-- A condition with one operand. -/
def unary (s : Surroundings) (op : String) (t : Octets) : Eval Bool :=
  let file (f : Node → Bool) : Eval Bool := .ok ((s.node? t).any f)
  match op with
  | "-n" => .ok (!t.isEmpty)
  | "-z" => .ok t.isEmpty
  | "-e" | "-r" | "-w" | "-O" | "-G" => file fun _ => true
  | "-f" => file fun n => match n with
    | .file _ _ => true
    | _ => false
  | "-d" => file fun n => match n with
    | .directory _ => true
    | _ => false
  | "-c" => file fun n => match n with
    | .device _ => true
    | _ => false
  | "-x" => file fun n => match n with
    | .file mode _ | .directory mode => mode &&& 0o111 != 0
    | _ => false
  | "-s" => file fun n => match n with
    | .file _ (.data d) => !d.isEmpty
    | .file _ _ | .directory _ => true
    | _ => false
  | "-L" | "-h" => .ok (s.link? t)
  | "-t" => do return s.isTerminal (← number t).toNat
  | _ => .ok false

/-- A condition on two operands. All files are of the same age. -/
def binary (s : Surroundings) (op : String) (a b : Octets) : Eval Bool :=
  let numbers (f : Int → Int → Bool) : Eval Bool := do return f (← number a) (← number b)
  match op with
  | "=" => .ok (a == b)
  | "!=" => .ok (a != b)
  | "<" => .ok (Octets.lt a b)
  | ">" => .ok (Octets.lt b a)
  | "-eq" => numbers (· == ·)
  | "-ne" => numbers (· != ·)
  | "-gt" => numbers fun a b => b < a
  | "-ge" => numbers fun a b => b ≤ a
  | "-lt" => numbers fun a b => a < b
  | "-le" => numbers fun a b => a ≤ b
  | "-ef" => .ok ((s.place? a).isSome && s.place? a == s.place? b)
  | "-nt" => .ok ((s.node? a).isSome && (s.node? b).isNone)
  | "-ot" => .ok ((s.node? a).isNone && (s.node? b).isSome)
  | _ => .ok false

/-- An operand behind the first of the arguments, and the arguments from it on. -/
def operand (op : String) (args : List Octets) : Eval (Octets × List Octets) :=
  match args.drop 1 with
  | [] => .error (.malformed (op ++ ": argument expected"))
  | b :: rest => .ok (b, b :: rest)

/-- A comparison, or a word that has to have something in it. As all that follow, it returns the arguments
from the last one that it used on. -/
def comparison (s : Surroundings) (a : Octets) (rest : List Octets) : Eval (Bool × List Octets) :=
  match operator? rest with
  | some (.binary, op) => do
    let (b, args) ← operand op rest
    return (← binary s op a b, args)
  | _ => .ok (!a.isEmpty, a :: rest)

/-! ### Joined conditions -/

mutual

/-- Conditions joined by `-o`. -/
def any (s : Surroundings) : Nat → List Octets → Eval (Bool × List Octets)
  | 0, args => .ok (false, args)
  | fuel + 1, args => do
    let (a, args) ← all s fuel args
    match operator? (args.drop 1) with
    | some (_, "-o") =>
      let (b, args) ← any s fuel (args.drop 2)
      return (a || b, args)
    | _ => return (a, args)

/-- Conditions joined by `-a`. -/
def all (s : Surroundings) : Nat → List Octets → Eval (Bool × List Octets)
  | 0, args => .ok (false, args)
  | fuel + 1, args => do
    let (a, args) ← negated s fuel args
    match operator? (args.drop 1) with
    | some (_, "-a") =>
      let (b, args) ← all s fuel (args.drop 2)
      return (a && b, args)
    | _ => return (a, args)

/-- A condition with exclamation marks in front. -/
def negated (s : Surroundings) : Nat → List Octets → Eval (Bool × List Octets)
  | 0, args => .ok (false, args)
  | fuel + 1, args =>
    match operator? args with
    | some (_, "!") =>
      if args.length ≤ 1 then .ok (true, args)
      else do
        let (v, args) ← negated s fuel (args.drop 1)
        return (!v, args)
    | _ => primary s fuel args

/-- A single condition, or one in parentheses. -/
def primary (s : Surroundings) : Nat → List Octets → Eval (Bool × List Octets)
  | 0, args => .ok (false, args)
  | fuel + 1, args =>
    match operator? args, args with
    | _, [] => .ok (false, [])
    | some (_, "("), _ =>
      if operator? (args.drop 1) == some (.sign, ")") then .ok (false, args.drop 1)
      else do
        let (v, args) ← any s fuel (args.drop 1)
        let args := args.drop 1
        if operator? args != some (.sign, ")") then throw (.malformed "closing paren expected")
        return (v, args)
    | some (.unary, op), _ => do
      let (b, args) ← operand op args
      return (← unary s op b, args)
    | _, a :: rest => comparison s a rest

end

/-- Whether arguments of any number hold. Up to four of them are looked at as a whole first. -/
def holdsAs (s : Surroundings) (flipped : Bool) : List Octets → Eval Bool
  | [] => .ok flipped
  | a :: rest =>
    let general (args : List Octets) : Eval Bool := do
      let (v, left) ← any s (4 * args.length + 4) args
      match left with
      | last :: _ :: _ => throw (.malformed (word last ++ ": unexpected operator"))
      | _ => return v != flipped
    match rest with
    | [op, _] =>
      if kind? op == some .binary then do
        let (v, _) ← comparison s a rest
        return v != flipped
      else if a == [40] && rest.getLast? == some [41] then general rest.dropLast
      else if a == [33] then holdsAs s true rest
      else general (a :: rest)
    | [_, _, _] =>
      if a == [40] && rest.getLast? == some [41] then general rest.dropLast
      else if a == [33] then holdsAs s true rest
      else general (a :: rest)
    | rest => general (a :: rest)

/-- Whether the arguments hold; none at all do not. -/
def holds (s : Surroundings) (args : List Octets) : Eval Bool := holdsAs s false args

end PseudoTerminal.Shell.Condition
