import PseudoTerminal.Text.Octets

/-! Patterns of the shell: a star stands for any octets, a question mark for one, and brackets for one
out of a set. Quoted octets stand for themselves. -/

namespace PseudoTerminal.Shell

/-- An element of a pattern. -/
inductive Wildcard
  | octet (b : UInt8)
  | one
  | many
  /-- One octet out of ranges, or out of all others. -/
  | among (negated : Bool) (ranges : List (UInt8 × UInt8))
  deriving DecidableEq, Repr

abbrev Pattern := List Wildcard

namespace Pattern

/-- The octets of a named class. -/
def classRanges (name : Octets) : List (UInt8 × UInt8) :=
  let known : List (String × List (UInt8 × UInt8)) := [
    ("alpha", [(65, 90), (97, 122)]), ("digit", [(48, 57)]), ("upper", [(65, 90)]),
    ("lower", [(97, 122)]), ("alnum", [(48, 57), (65, 90), (97, 122)]), ("space", [(9, 13), (32, 32)]),
    ("blank", [(9, 9), (32, 32)]), ("cntrl", [(0, 31), (127, 127)]), ("print", [(32, 126)]),
    ("graph", [(33, 126)]), ("xdigit", [(48, 57), (65, 70), (97, 102)]),
    ("punct", [(33, 47), (58, 64), (91, 96), (123, 126)])]
  ((known.find? fun (n, _) => Octets.ofString n == name).map Prod.snd).getD []

/-- The ranges up to the closing bracket, and what follows it. Octets come with whether they are quoted. -/
def brackets (first : Bool) : Nat → List (UInt8 × Bool) →
    Option (List (UInt8 × UInt8) × List (UInt8 × Bool))
  | 0, _ => none
  | _ + 1, [] => none
  | fuel + 1, (b, q) :: rest =>
    if b == 93 && !q && !first then some ([], rest)
    else if b == 91 && !q && (rest.head?.map Prod.fst) == some 58 then
      let name := (rest.drop 1).takeWhile (·.1 != 58)
      let left := rest.drop (name.length + 3)
      (brackets false fuel left).map fun (ranges, left) =>
        (classRanges (name.map Prod.fst) ++ ranges, left)
    else match rest with
      | (45, false) :: (c, cq) :: more =>
        if c == 93 && !cq then (brackets false fuel rest).map fun (ranges, left) => ((b, b) :: ranges, left)
        else (brackets false fuel more).map fun (ranges, left) => ((b, c) :: ranges, left)
      | _ => (brackets false fuel rest).map fun (ranges, left) => ((b, b) :: ranges, left)

/-- The pattern that octets write, each with whether it is quoted. -/
def ofOctets : Nat → List (UInt8 × Bool) → Pattern
  | 0, _ => []
  | _ + 1, [] => []
  | fuel + 1, (b, quoted) :: rest =>
    if quoted then .octet b :: ofOctets fuel rest
    else if b == 42 then .many :: ofOctets fuel rest
    else if b == 63 then .one :: ofOctets fuel rest
    else if b == 92 then
      match rest with
      | (c, _) :: rest => .octet c :: ofOctets fuel rest
      | [] => [.octet b]
    else if b == 91 then
      let negated := match rest with
        | (33, false) :: _ | (94, false) :: _ => true
        | _ => false
      match brackets true fuel (if negated then rest.drop 1 else rest) with
      | some (ranges, left) => .among negated ranges :: ofOctets fuel left
      | none => .octet b :: ofOctets fuel rest
    else .octet b :: ofOctets fuel rest

/-- The pattern of a string. -/
def parse (s : List (UInt8 × Bool)) : Pattern := ofOctets (s.length + 1) s

/-- Whether a pattern has anything but octets that stand for themselves. -/
def isProper (p : Pattern) : Bool := p.any fun w => match w with
  | .octet _ => false
  | _ => true

def Wildcard.admits : Wildcard → UInt8 → Bool
  | .octet c, b => b == c
  | .one, _ => true
  | .many, _ => false
  | .among negated ranges, b => ranges.any (fun (low, high) => low ≤ b && b ≤ high) != negated

/-- Whether the whole of a string is of the pattern. -/
def covers : Pattern → Octets → Bool
  | [], s => s.isEmpty
  | .many :: p, [] => covers p []
  | .many :: p, b :: s => covers p (b :: s) || covers (.many :: p) s
  | _ :: _, [] => false
  | w :: p, b :: s => Wildcard.admits w b && covers p s
termination_by p s => (p.length + s.length, p.length)

/-- The string without its shortest, or longest, beginning of the pattern. -/
def dropStart (p : Pattern) (longest : Bool) (s : Octets) : Octets :=
  let cuts := (List.range (s.length + 1)).filter fun n => p.covers (s.take n)
  match if longest then cuts.getLast? else cuts.head? with
  | some n => s.drop n
  | none => s

/-- The string without its shortest, or longest, end of the pattern. -/
def dropEnd (p : Pattern) (longest : Bool) (s : Octets) : Octets :=
  let cuts := (List.range (s.length + 1)).filter fun n => p.covers (s.drop n)
  match if longest then cuts.head? else cuts.getLast? with
  | some n => s.take n
  | none => s

end Pattern

end PseudoTerminal.Shell
