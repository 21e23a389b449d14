import PseudoTerminal.Text.Utf8
import PseudoTerminal.Text.Uppercase

/-! Environments as lists of variables. An entry `KEY=VALUE` is split at the first `=` after its first
character, so a key may start with `=`. Of the variables that share a key only the last is kept; keys
are compared as text, with or without case. -/

namespace PseudoTerminal

/-- An environment variable. -/
structure Variable where
  key : Octets
  value : Octets
  deriving DecidableEq, Repr, Inhabited

namespace Environment

/-- The text before the first `=`, and the text after it. -/
def splitAtEquals : List Char → Option (List Char × List Char)
  | [] => none
  | c :: cs =>
    if c = '=' then some ([], cs)
    else (splitAtEquals cs).map fun (key, value) => (c :: key, value)

/-- Key and value of an entry's text; the first character always belongs to the key. -/
def splitEntry : List Char → Option (List Char × List Char)
  | [] => none
  | c :: cs => (splitAtEquals cs).map fun (key, value) => (c :: key, value)

/-- The variable of an entry, if it has a key and a separator. -/
def parseEntry (entry : Octets) : Option Variable :=
  (splitEntry (Utf8.decode entry)).map fun (key, value) => ⟨Utf8.encode key, Utf8.encode value⟩

/-- Whether keys that differ only in case are one variable. -/
inductive KeyCase
  | sensitive
  | insensitive
  deriving DecidableEq, Repr

/-- The comparison of the host. -/
def KeyCase.host : KeyCase := .sensitive

/-- The text by which a key is compared. -/
def KeyCase.normalize : KeyCase → Octets → List Char
  | .sensitive, key => Utf8.decode key
  | .insensitive, key => Uppercase.ofText (Utf8.decode key)

/-- The last variable of every non-empty key, in their order. -/
def dedup (mode : KeyCase) (vars : List Variable) : List Variable :=
  vars.foldr (fun v kept =>
    if v.key = [] ∨ kept.any (fun w => mode.normalize w.key == mode.normalize v.key) then kept
    else v :: kept) []

/-- The upper case of an ASCII letter; any other character is its own. -/
def asciiUpper (c : Char) : Char := if 'a' ≤ c ∧ c ≤ 'z' then Char.ofNat (c.toNat - 32) else c

/-- Whether the key is `SYSTEMROOT` in any ASCII case. -/
def isSystemRoot (key : Octets) : Bool :=
  (Utf8.decode key).map asciiUpper == "SYSTEMROOT".toList

/-- Appends `SYSTEMROOT` when no variable has that name and a value for it is known. -/
def ensureSystemRoot (root : Option Octets) (vars : List Variable) : List Variable :=
  if vars.any (fun v => isSystemRoot v.key) then vars
  else match root with
    | some value => vars ++ [⟨Octets.ofString "SYSTEMROOT", value⟩]
    | none => vars

/-- The value of a variable by its exact key. -/
def get? (vars : List Variable) (key : Octets) : Option Octets :=
  (vars.find? (fun v => v.key == key)).map Variable.value

/-- Removes a variable. -/
def erase (vars : List Variable) (key : Octets) : List Variable := vars.filter (fun v => v.key != key)

/-- Sets a variable, or removes it when no value is given. -/
def assign (vars : List Variable) (key : Octets) : Option Octets → List Variable
  | some value => erase vars key ++ [⟨key, value⟩]
  | none => erase vars key

/-- The entries `KEY=VALUE` of the variables. -/
def entries (vars : List Variable) : List Octets := vars.map fun v => v.key ++ 61 :: v.value

end Environment

end PseudoTerminal
