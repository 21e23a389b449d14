import PseudoTerminal.Text.Octets

/-! UTF-8. Decoding never fails: a scanner reads one octet at a time and remembers which octets may
continue the sequence it is in; when an octet is refused, the octets read so far, a maximal piece
that no valid sequence extends, become one U+FFFD and the refused octet starts anew. -/

namespace PseudoTerminal.Utf8

/-- The character that stands for a malformed piece. -/
def replacement : Char := '\uFFFD'

/-- The octet sequence of one character, of one to four octets by its code point. -/
def encodeChar (c : Char) : Octets :=
  let n := c.toNat
  if n < 0x80 then [UInt8.ofNat n]
  else if n < 0x800 then [UInt8.ofNat (0xC0 + n / 64), UInt8.ofNat (0x80 + n % 64)]
  else if n < 0x10000 then
    [UInt8.ofNat (0xE0 + n / 4096), UInt8.ofNat (0x80 + n / 64 % 64), UInt8.ofNat (0x80 + n % 64)]
  else
    [UInt8.ofNat (0xF0 + n / 262144), UInt8.ofNat (0x80 + n / 4096 % 64),
      UInt8.ofNat (0x80 + n / 64 % 64), UInt8.ofNat (0x80 + n % 64)]

def encode (cs : List Char) : Octets := cs.flatMap encodeChar

/-- Between two characters, or inside a sequence: the bits read so far, how many octets are still
missing and the range of the next one. -/
inductive Scan
  | start
  | inside (bits missing : Nat) (low high : UInt8)
  deriving DecidableEq, Repr

/-- What a first octet says: a whole character, the inside of a sequence, or nothing valid. The
narrower ranges after E0, ED, F0 and F4 keep out long forms, surrogates and points above U+10FFFF. -/
def begin (b : UInt8) : List Char × Scan :=
  let n := b.toNat
  if n < 0x80 then ([Char.ofNat n], .start)
  else if n < 0xC2 then ([replacement], .start)
  else if n < 0xE0 then ([], .inside (n - 0xC0) 1 0x80 0xBF)
  else if n = 0xE0 then ([], .inside 0 2 0xA0 0xBF)
  else if n = 0xED then ([], .inside 0xD 2 0x80 0x9F)
  else if n < 0xF0 then ([], .inside (n - 0xE0) 2 0x80 0xBF)
  else if n = 0xF0 then ([], .inside 0 3 0x90 0xBF)
  else if n < 0xF4 then ([], .inside (n - 0xF0) 3 0x80 0xBF)
  else if n = 0xF4 then ([], .inside 4 3 0x80 0x8F)
  else ([replacement], .start)

/-- One octet: the characters that it completes, and where the scan stands after it. -/
def step : Scan → UInt8 → List Char × Scan
  | .start, b => begin b
  | .inside bits missing low high, b =>
    if low ≤ b ∧ b ≤ high then
      let bits := bits * 64 + b.toNat % 64
      if missing ≤ 1 then ([Char.ofNat bits], .start) else ([], .inside bits (missing - 1) 0x80 0xBF)
    else
      let (cs, s) := begin b
      (replacement :: cs, s)

def scan : Scan → Octets → List Char
  | .start, [] => []
  | .inside .., [] => [replacement]
  | s, b :: rest =>
    let (cs, s) := step s b
    cs ++ scan s rest

/-- The text of an octet string, with one U+FFFD for every maximal malformed piece. -/
def decode (s : Octets) : List Char := scan .start s

/-- Whether the octets are the UTF-8 form of a text: only then does writing the decoded text again
give the same octets. -/
def isValid (s : Octets) : Bool := encode (decode s) == s

/-- The text of an octet string, if it is the UTF-8 form of one. -/
def decode? (s : Octets) : Option (List Char) := if isValid s then some (decode s) else none

/-- The decoded text as a string. -/
def toString (s : Octets) : String := String.ofList (decode s)

end PseudoTerminal.Utf8
