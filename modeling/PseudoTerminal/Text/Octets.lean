/-! Octet strings. Arguments, paths, environment entries and terminal data are sequences of
octets; text is a sequence of characters and is tied to octets by `Text.Utf8`. The functions here
are the splitting and number reading that every layer needs. -/

namespace PseudoTerminal

/-- A sequence of octets without any promise about its encoding. -/
abbrev Octets := List UInt8

namespace Octets

/-- The octets of a string's UTF-8 form. -/
def ofString (s : String) : Octets := s.toUTF8.toList

/-- The piece before the first `sep`, and the rest after it when there is one. -/
def breakAt (sep : UInt8) : Octets → Octets × Option Octets
  | [] => ([], none)
  | b :: rest =>
    if b = sep then ([], some rest)
    else
      let (head, tail) := breakAt sep rest
      (b :: head, tail)

/-- The maximal pieces between separators; the empty string has one empty piece. -/
def splitOn (sep : UInt8) : Octets → List Octets
  | [] => [[]]
  | b :: rest =>
    if b = sep then [] :: splitOn sep rest
    else match splitOn sep rest with
      | [] => [[b]]
      | piece :: pieces => (b :: piece) :: pieces

/-- The pieces with one separator between neighbours. -/
def joinWith (sep : UInt8) : List Octets → Octets
  | [] => []
  | [piece] => piece
  | piece :: pieces => piece ++ sep :: joinWith sep pieces

/-- Octet-wise lexicographic order. -/
def lt : Octets → Octets → Bool
  | _, [] => false
  | [], _ :: _ => true
  | a :: as, b :: bs => a < b || (a == b && lt as bs)

/-- Whether `p` is an initial piece of the string. -/
def startsWith (p s : Octets) : Bool := p.isPrefixOf s

/-- Whether `p` is a final piece of the string. -/
def endsWith (p s : Octets) : Bool := p.isSuffixOf s

/-- The value of a decimal digit. -/
def digit? (b : UInt8) : Option Nat :=
  if 48 ≤ b ∧ b ≤ 57 then some (b.toNat - 48) else none

/-- The value of a hexadecimal digit of either case. -/
def hexDigit? (b : UInt8) : Option Nat :=
  if 48 ≤ b ∧ b ≤ 57 then some (b.toNat - 48)
  else if 97 ≤ b ∧ b ≤ 102 then some (b.toNat - 87)
  else if 65 ≤ b ∧ b ≤ 70 then some (b.toNat - 55)
  else none

/-- The number that a non-empty run of decimal digits writes. -/
def decimal? : Octets → Option Nat
  | [] => none
  | ds => ds.foldlM (fun n b => (digit? b).map (n * 10 + ·)) 0

/-- The decimal digits of a number. -/
def ofNat (n : Nat) : Octets := ofString (toString n)

/-- Two lower-case hexadecimal digits for every octet. -/
def toHex (s : Octets) : String :=
  String.ofList (s.flatMap fun b => [Nat.digitChar (b.toNat / 16), Nat.digitChar (b.toNat % 16)])

/-- Reads two hexadecimal digits for every octet. -/
def ofHex? : Octets → Option Octets
  | [] => some []
  | h :: l :: rest => do
    let high ← hexDigit? h
    let low ← hexDigit? l
    let tail ← ofHex? rest
    return UInt8.ofNat (high * 16 + low) :: tail
  | [_] => none

end Octets

end PseudoTerminal
