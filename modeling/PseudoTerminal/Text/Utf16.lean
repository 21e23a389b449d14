import PseudoTerminal.Text.Utf8

/-! UTF-16 over 16-bit units. A character above U+FFFF is a pair of surrogate units; a surrogate
without its partner decodes to U+FFFD, so every sequence of units has a text. -/

namespace PseudoTerminal.Utf16

/-- A unit that may open a surrogate pair. -/
def isHigh (u : UInt16) : Bool := 0xD800 ≤ u && u < 0xDC00

/-- A unit that may close a surrogate pair. -/
def isLow (u : UInt16) : Bool := 0xDC00 ≤ u && u < 0xE000

def encodeChar (c : Char) : List UInt16 :=
  let n := c.toNat
  if n < 0x10000 then [UInt16.ofNat n]
  else [UInt16.ofNat (0xD800 + (n - 0x10000) / 1024), UInt16.ofNat (0xDC00 + (n - 0x10000) % 1024)]

def encode (cs : List Char) : List UInt16 := cs.flatMap encodeChar

/-- The character of a surrogate pair. -/
def pairChar (high low : UInt16) : Char :=
  Char.ofNat (0x10000 + (high.toNat - 0xD800) * 1024 + (low.toNat - 0xDC00))

/-- The text of a sequence of units, with U+FFFD for every unpaired surrogate. -/
def decode : List UInt16 → List Char
  | [] => []
  | [u] => if isHigh u || isLow u then [Utf8.replacement] else [Char.ofNat u.toNat]
  | u :: v :: rest =>
    if isHigh u then
      if isLow v then pairChar u v :: decode rest else Utf8.replacement :: decode (v :: rest)
    else if isLow u then Utf8.replacement :: decode (v :: rest)
    else Char.ofNat u.toNat :: decode (v :: rest)

end PseudoTerminal.Utf16
