import PseudoTerminal.Toml.Scalar

/-! TOML documents: lines of headers and of keys with values. Reading gives the table of the whole
document, or nothing when any line breaks a rule. -/

namespace PseudoTerminal.Toml

/-- The items of an array after its opening bracket or a comma. -/
def items? (item : Reader Value) : Nat → Reader (List Value)
  | 0, _ => none
  | fuel + 1, cs => do
    let cs := skipLines cs.length cs
    match cs with
    | ']' :: rest => return ([], rest)
    | _ =>
      let (v, rest) ← item cs
      match skipLines rest.length rest with
      | ',' :: rest =>
        let (vs, rest) ← items? item fuel rest
        return (v :: vs, rest)
      | ']' :: rest => return ([v], rest)
      | _ => none

/-- The keys with values of an inline table after its opening brace or a comma; a comma is followed by
another key. -/
def pairs? (item : Reader Value) : Nat → Entries → Reader Entries
  | 0, _, _ => none
  | fuel + 1, es, cs => do
    let ((path, key), rest) ← keyPath? cs
    let rest ← expect '=' rest
    let (v, rest) ← item (skipBlanks rest)
    let (_, es) ← Entries.define path key v .inlined es
    match skipBlanks rest with
    | ',' :: rest => pairs? item fuel es rest
    | '\x7d' :: rest => return (es, rest)
    | _ => none

/-- A value, in which arrays and inline tables may nest to the given depth. -/
def value? : Nat → Reader Value
  | depth + 1, '[' :: cs =>
    (items? (value? depth) (cs.length + 1) cs).map fun (vs, rest) => (.array vs, rest)
  | depth + 1, '\x7b' :: cs =>
    match skipBlanks cs with
    | '\x7d' :: rest => some (.table .inlined [], rest)
    | _ => (pairs? (value? depth) (cs.length + 1) [] cs).map
        fun (es, rest) => (.table .inlined es, rest)
  | _, cs => scalar? cs

/-- The table under construction and the path of the header that is in force. -/
structure Draft where
  header : List String := []
  entries : Entries := []
  deriving Inhabited

/-- Reads a key with its value and defines it under the header in force. -/
def Draft.define? (d : Draft) (cs : Text) : Option (Draft × Text) := do
  let ((path, key), rest) ← keyPath? cs
  let rest ← expect '=' rest
  let (v, rest) ← value? (depthLimit - 1) (skipBlanks rest)
  let rest ← endOfLine? rest
  let (_, es) ← Entries.descend false (Entries.define path key v) d.header .header d.entries
  return ({ d with entries := es }, rest)

/-- Reads a header after its first bracket and opens its table. -/
def Draft.open? (d : Draft) (cs : Text) : Option (Draft × Text) :=
  match cs with
  | '[' :: cs => do
    let ((path, key), rest) ← keyPath? cs
    let rest ← endOfLine? (← expect ']' (← expect ']' rest))
    let (_, es) ← Entries.openElement path key .header d.entries
    return (⟨path ++ [key], es⟩, rest)
  | _ => do
    let ((path, key), rest) ← keyPath? cs
    let rest ← endOfLine? (← expect ']' rest)
    let (_, es) ← Entries.openTable path key .header d.entries
    return (⟨path ++ [key], es⟩, rest)

/-- Reads the lines of a document; every line takes at least one character. -/
def lines? : Nat → Draft → Text → Option Draft
  | 0, _, _ => none
  | fuel + 1, d, cs =>
    match skipBlanks cs with
    | [] => some d
    | '[' :: rest => do
      let (d, rest) ← d.open? rest
      lines? fuel d rest
    | rest =>
      if rest.head? = some '#' ∨ (lineBreak? rest).isSome then do
        lines? fuel d (← endOfLine? rest)
      else do
        let (d, rest) ← d.define? rest
        lines? fuel d rest

/-- The table of a document; a byte order mark at its start is skipped. -/
def parse? (text : String) : Option Entries :=
  let cs := match text.toList with
    | '\uFEFF' :: cs => cs
    | cs => cs
  (lines? (cs.length + 1) {} cs).map Draft.entries

end PseudoTerminal.Toml
