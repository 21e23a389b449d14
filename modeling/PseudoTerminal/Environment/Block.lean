import PseudoTerminal.Environment.Basic
import PseudoTerminal.Text.Utf16

/-! Environment blocks: the variables of an environment as 16-bit units, every entry closed by a zero
unit and the block by one more. -/

namespace PseudoTerminal.Environment

/-- The units of an octet string read as text. -/
def toWide (s : Octets) : List UInt16 := Utf16.encode (Utf8.decode s)

/-- The octets of the text that the units write. -/
def ofWide (units : List UInt16) : Octets := Utf8.encode (Utf16.decode units)

/-- The units of one entry, without its closing zero. -/
def entryUnits (v : Variable) : List UInt16 := toWide v.key ++ 61 :: toWide v.value

/-- The block of an environment; an empty one still has both closing zeros. -/
def toBlock (vars : List Variable) : List UInt16 :=
  if vars.isEmpty then [0, 0] else vars.flatMap (fun v => entryUnits v ++ [0]) ++ [0]

/-- The pieces between zero units. -/
def pieces : List UInt16 → List (List UInt16)
  | [] => [[]]
  | u :: us =>
    if u = 0 then [] :: pieces us
    else match pieces us with
      | [] => [[u]]
      | p :: ps => (u :: p) :: ps

/-- The variables of a block: its entries up to the first empty one, without those that have no
separator. -/
def ofBlock (block : List UInt16) : List Variable :=
  ((pieces block).takeWhile (fun p => !p.isEmpty)).filterMap (fun p => parseEntry (ofWide p))

/-- What becomes of a list of raw entries on its way into a block. -/
structure Composition where
  /-- How many entries had no key or no separator. -/
  dropped : Nat
  vars : List Variable
  block : List UInt16
  deriving Repr

/-- Parses the entries, keeps the last of every key, adds the system root and writes the block. -/
def composeBlock (mode : KeyCase) (root : Option Octets) (raw : List Octets) : Composition :=
  let parsed := raw.filterMap parseEntry
  let vars := ensureSystemRoot root (dedup mode parsed)
  ⟨raw.length - parsed.length, vars, toBlock vars⟩

end PseudoTerminal.Environment
