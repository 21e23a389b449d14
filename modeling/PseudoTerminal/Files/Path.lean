import PseudoTerminal.Text.Octets

/-! Paths as octet strings with slashes between their parts. A part that is empty or a dot, unless it
is a leading dot, does not count when a path is taken apart; joining two paths keeps every octet. -/

namespace PseudoTerminal

/-- A path; its octets are kept as they were given. -/
abbrev Path := Octets

namespace Path

def slash : UInt8 := 47

def dot : UInt8 := 46

def isAbsolute (p : Path) : Bool := p.head? == some slash

/-- A path below another one; an absolute path stands for itself. -/
def join (base p : Path) : Path :=
  if p.isAbsolute || base.isEmpty then p
  else if base.getLast? == some slash then base ++ p
  else base ++ slash :: p

/-- The parts between slashes, empty ones included. -/
def parts (p : Path) : List Octets := Octets.splitOn slash p

/-- The parts of a relative path that name something: a dot counts only in front. -/
def names (p : Path) : List Octets :=
  match parts p with
  | [] => []
  | first :: rest =>
    let counts (s : Octets) : Bool := s != [] && s != [dot]
    (if first.isEmpty then [] else [first]) ++ rest.filter counts

/-- Whether the path leads through a directory: it is absolute, or has a part before its last. -/
def hasDirectory (p : Path) : Bool := p.isAbsolute || 2 ≤ (names p).length

end Path

end PseudoTerminal
