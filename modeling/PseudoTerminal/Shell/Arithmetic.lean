import PseudoTerminal.Shell.State

/-! Arithmetic expressions of the shell on 64-bit words. Names stand for the numbers that variables hold,
and assignments change the variables. -/

namespace PseudoTerminal.Shell.Arithmetic

inductive Token
  | number (n : Int)
  | name (n : Octets)
  | sign (s : String)
  deriving DecidableEq, Repr

/-- The value as a 64-bit word. -/
def wrap (n : Int) : Int := Int.bmod n (Nat.pow 2 64)

/-- The operators, longer ones before their beginnings. -/
def signs : List String := [
  "<<=", ">>=", "&&", "||", "==", "!=", "<=", ">=", "<<", ">>", "+=", "-=", "*=", "/=", "%=", "&=", "|=",
  "^=", "+", "-", "*", "/", "%", "<", ">", "=", "!", "~", "&", "|", "^", "?", ":", "(", ")", ","]

/-- The nearest number that a word holds. -/
def clamp (n : Int) : Int := max (-Int.pow 2 63) (min (Int.pow 2 63 - 1) n)

/-- The number that the digits of a base at the front write, and what follows them. -/
def digitsIn (base : Nat) (s : Source) : Int × Source :=
  let value (c : Char) : Nat := (Octets.hexDigit? (UInt8.ofNat c.toNat)).getD base
  let (ds, rest) := s.span fun c => c.isAlphanum && value c < base
  (ds.foldl (fun n c => n * base + value c) (0 : Nat), rest)

/-- The number at the front: decimal, octal after a zero, hexadecimal after `0x`. -/
def numeral (s : Source) : Int × Source :=
  match s with
  | '0' :: 'x' :: ds | '0' :: 'X' :: ds =>
    let (n, rest) := digitsIn 16 ds
    if rest.length == ds.length then (0, s.drop 1) else (n, rest)
  | '0' :: _ => digitsIn 8 s
  | _ => digitsIn 10 s

/-- The tokens of an expression; a character that is none stands for itself. -/
def tokens : Nat → Source → List Token
  | 0, _ => []
  | _ + 1, [] => []
  | fuel + 1, c :: s =>
    if c == ' ' || c == '\t' || c == '\n' then tokens fuel s
    else if c.isDigit then
      let (n, rest) := numeral (c :: s)
      .number (clamp n) :: tokens fuel rest
    else if Reader.isNameStart c then
      let (name, rest) := (c :: s).span Reader.isNameChar
      .name (Source.toOctets name) :: tokens fuel rest
    else
      let sign := (signs.find? fun sign => sign.toList.isPrefixOf (c :: s)).getD c.toString
      .sign sign :: tokens fuel ((c :: s).drop sign.length)

inductive Fault
  | noPrimary
  | noColon
  | divisionByZero
  /-- A variable does not hold a number. -/
  | notNumber (text : Octets)
  /-- A variable may not be changed. -/
  | constant (name : Octets)
  deriving DecidableEq, Repr

abbrev Eval := Except Fault

/-- The number that a variable holds; one that is unset or empty counts as zero. -/
def lookUp (sh : State) (name : Octets) : Eval Int :=
  let value := (sh.value? name).getD []
  let isBlank (c : Char) : Bool := c.isWhitespace || c == '\x0b' || c == '\x0c'
  let text := (Source.ofOctets value).dropWhile isBlank
  let (negative, ds) : Bool × Source := match text with
    | '-' :: ds => (true, ds)
    | '+' :: ds => (false, ds)
    | ds => (false, ds)
  let (n, rest) := numeral ds
  let n := if negative then -n else n
  if text.isEmpty then .ok 0
  else if rest.length == ds.length || !rest.all isBlank || clamp n ≠ n then .error (.notNumber value)
  else .ok n

/-- Gives a variable a number. -/
def store (sh : State) (name : Octets) (n : Int) : Eval State :=
  match sh.assign? name (Octets.ofString (toString n)) with
  | some sh => .ok sh
  | none => .error (.constant name)

def ofBool (b : Bool) : Int := if b then 1 else 0

/-- How tightly an operator on two numbers binds. -/
def strength? : String → Option Nat
  | "*" | "/" | "%" => some 10
  | "+" | "-" => some 9
  | "<<" | ">>" => some 8
  | "<" | ">" | "<=" | ">=" => some 7
  | "==" | "!=" => some 6
  | "&" => some 5
  | "^" => some 4
  | "|" => some 3
  | "&&" => some 2
  | "||" => some 1
  | _ => none

def bitwise (f : Nat → Nat → Nat) (a b : Int) : Int :=
  wrap (f (a % Int.pow 2 64).toNat (b % Int.pow 2 64).toNat)

def apply (op : String) (a b : Int) : Eval Int :=
  match op with
  | "*" => .ok (wrap (a * b))
  | "/" => if b = 0 then .error .divisionByZero else .ok (wrap (a.tdiv b))
  | "%" => if b = 0 then .error .divisionByZero else .ok (wrap (a.tmod b))
  | "+" => .ok (wrap (a + b))
  | "-" => .ok (wrap (a - b))
  | "<<" => .ok (wrap (a * Int.pow 2 (b % 64).toNat))
  | ">>" => .ok (a.shiftRight (b % 64).toNat)
  | "<" => .ok (ofBool (a < b))
  | ">" => .ok (ofBool (b < a))
  | "<=" => .ok (ofBool (a ≤ b))
  | ">=" => .ok (ofBool (b ≤ a))
  | "==" => .ok (ofBool (a = b))
  | "!=" => .ok (ofBool (a ≠ b))
  | "&" => .ok (bitwise Nat.land a b)
  | "^" => .ok (bitwise Nat.xor a b)
  | "|" => .ok (bitwise Nat.lor a b)
  | "&&" => .ok (ofBool (a ≠ 0 ∧ b ≠ 0))
  | "||" => .ok (ofBool (a ≠ 0 ∨ b ≠ 0))
  | _ => .error .noPrimary

def toText (n : Int) : Octets := Octets.ofString (toString n)

/-- Value, variables afterwards, and the tokens that are left. Where `live` does not hold the operand is
read and not evaluated. -/
abbrev Step := Eval (Int × State × List Token)

mutual

/-- An assignment, or a conditional. -/
def assignment (live : Bool) : Nat → State → List Token → Step
  | 0, _, _ => .error .noPrimary
  | fuel + 1, sh, ts =>
    match ts with
    | .name n :: .sign op :: rest =>
      if op == "=" then do
        let (v, sh, rest) ← assignment live fuel sh rest
        return (v, ← if live then store sh n v else pure sh, rest)
      else if op.endsWith "=" && (strength? (op.dropEnd 1).copy).isSome
          && !(["==", "<=", ">=", "!="].contains op) then do
        let (v, sh, rest) ← assignment live fuel sh rest
        if live then
          let old ← lookUp sh n
          let v ← apply (op.dropEnd 1).copy old v
          return (v, ← store sh n v, rest)
        return (0, sh, rest)
      else conditional live fuel sh ts
    | _ => conditional live fuel sh ts

def conditional (live : Bool) : Nat → State → List Token → Step
  | 0, _, _ => .error .noPrimary
  | fuel + 1, sh, ts => do
    let (c, sh, rest) ← operand live fuel sh ts
    let (c, sh, rest) ← binary live 1 c fuel sh rest
    match rest with
    | .sign "?" :: rest =>
      let (a, sh, rest) ← assignment (live && c ≠ 0) fuel sh rest
      match rest with
      | .sign ":" :: rest =>
        let (b, sh, rest) ← conditional (live && c = 0) fuel sh rest
        return (if c ≠ 0 then a else b, sh, rest)
      | _ => .error .noColon
    | _ => return (c, sh, rest)

/-- Operators that bind at least as tightly as `limit`, behind the left operand. -/
def binary (live : Bool) (limit : Nat) (left : Int) : Nat → State → List Token → Step
  | 0, _, _ => .error .noPrimary
  | fuel + 1, sh, ts =>
    match ts with
    | .sign op :: rest =>
      match strength? op with
      | none => .ok (left, sh, ts)
      | some s =>
        if s < limit then .ok (left, sh, ts)
        else do
          let needed := live && !(op == "&&" && left = 0) && !(op == "||" && left ≠ 0)
          let (right, sh, rest) ← operand needed fuel sh rest
          let (right, sh, rest) ← binary needed (s + 1) right fuel sh rest
          let v ← if live then apply op left right else pure 0
          binary live limit v fuel sh rest
    | _ => .ok (left, sh, ts)

def operand (live : Bool) : Nat → State → List Token → Step
  | 0, _, _ => .error .noPrimary
  | fuel + 1, sh, ts =>
    match ts with
    | .number n :: rest => .ok (n, sh, rest)
    | .name n :: rest => do
      let v ← if live then lookUp sh n else pure 0
      return (v, sh, rest)
    | .sign "(" :: rest => do
      let (v, sh, rest) ← assignment live fuel sh rest
      match rest with
      | .sign ")" :: rest => return (v, sh, rest)
      | _ => .error .noPrimary
    | .sign "-" :: rest => do
      let (v, sh, rest) ← operand live fuel sh rest
      return (wrap (-v), sh, rest)
    | .sign "+" :: rest => operand live fuel sh rest
    | .sign "!" :: rest => do
      let (v, sh, rest) ← operand live fuel sh rest
      return (ofBool (v = 0), sh, rest)
    | .sign "~" :: rest => do
      let (v, sh, rest) ← operand live fuel sh rest
      return (wrap (-v - 1), sh, rest)
    | _ => .error .noPrimary

end

/-- The value of an expression, and the shell with the assignments made. -/
def evaluate (sh : State) (expression : Octets) : Except Octets (Int × State) :=
  let fail {α : Type} (text : String) : Except Octets α :=
    .error (Octets.ofString ("arithmetic expression: " ++ text ++ ": \"") ++ expression ++ [34])
  let ts := tokens (expression.length + 1) (Source.ofOctets expression)
  match assignment true (8 * ts.length + 8) sh ts with
  | .ok (v, sh, []) => .ok (v, sh)
  | .ok _ => fail "expecting EOF"
  | .error .noPrimary => fail "expecting primary"
  | .error .noColon => fail "expecting ':'"
  | .error .divisionByZero => fail "division by zero"
  | .error (.notNumber text) => .error (Octets.ofString "Illegal number: " ++ text)
  | .error (.constant name) => .error (name ++ Octets.ofString ": is read only")

end PseudoTerminal.Shell.Arithmetic
