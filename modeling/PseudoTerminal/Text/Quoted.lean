import PseudoTerminal.Text.Utf8
import PseudoTerminal.Text.Unprintable

/-! Quoted text for diagnostics: an octet string between double quotes, with escapes for the
characters that could not be told apart on a screen and for octets that are no UTF-8. -/

namespace PseudoTerminal.Quoted

/-- A number in lower-case hexadecimal digits, without leading zeros. -/
def hex (n : Nat) : String := String.ofList (Nat.toDigits 16 n)

/-- The written form of one character. -/
def char (c : Char) : String :=
  if c = '\x00' then "\\0"
  else if c = '\t' then "\\t"
  else if c = '\r' then "\\r"
  else if c = '\n' then "\\n"
  else if c = '"' then "\\\""
  else if c = '\\' then "\\\\"
  else if Unprintable.contains c then "\\u\x7b" ++ hex c.toNat ++ "\x7d"
  else c.toString

/-- The written form of an octet that belongs to no character. -/
def stray (b : UInt8) : String := "\\x" ++ (hex b.toNat).toUpper

/-- The octets of the sequence that the scan is inside of, most recent first, beside the scan. -/
def scan : Octets → Utf8.Scan → Octets → List String
  | held, _, [] => held.reverse.map stray
  | held, s, b :: rest =>
    match Utf8.step s b with
    | ([], s') => scan (b :: held) s' rest
    | ([c], .start) =>
      if c = Utf8.replacement ∧ s = .start then stray b :: scan [] .start rest
      else char c :: scan [] .start rest
    | ([_], s') => held.reverse.map stray ++ scan [b] s' rest
    | (_ :: c :: _, s') =>
      held.reverse.map stray
        ++ (if c = Utf8.replacement then stray b else char c) :: scan [] s' rest

/-- The quoted form of an octet string. -/
def ofOctets (s : Octets) : String := "\"" ++ String.join (scan [] .start s) ++ "\""

end PseudoTerminal.Quoted
