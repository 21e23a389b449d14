/-! Values of the TOML configuration format, and the rules by which headers and dotted keys build the
tree of tables: a table is defined by one header or by dotted keys, never by both, and what is written
inline is complete. -/

namespace PseudoTerminal.Toml

/-- How a table came to be. -/
inductive Origin
  /-- Written inline, as a value. -/
  | inlined
  /-- Opened by a header of its own. -/
  | header
  /-- On the way to a table that a header opened. -/
  | implied
  /-- Built by dotted keys. -/
  | dotted
  deriving DecidableEq, Repr, Inhabited

inductive Value
  | string (text : String)
  | integer (number : Int)
  | float
  | boolean (value : Bool)
  | dateTime
  | array (items : List Value)
  | table (origin : Origin) (entries : List (String × Value))
  /-- The tables that repeated double-bracket headers open. -/
  | tables (items : List (List (String × Value)))
  deriving Inhabited

/-- The keys of a table with their values, in order of definition. -/
abbrev Entries := List (String × Value)

namespace Entries

def find? (es : Entries) (key : String) : Option Value := es.lookup key

/-- Replaces the value of a key that is there. -/
def replace (es : Entries) (key : String) (v : Value) : Entries :=
  es.map fun e => if e.1 == key then (key, v) else e

/-- Follows a path of keys down from a table and changes the table there. Missing tables are created;
dotted keys may not enter a table that a header opened, and no path enters a value. -/
def descend (isDotted : Bool) (change : Origin → Entries → Option (Origin × Entries)) :
    List String → Origin → Entries → Option (Origin × Entries)
  | [], origin, es => change origin es
  | key :: path, origin, es =>
    match es.find? key with
    | none => do
      let (o, inner) ← descend isDotted change path (if isDotted then .dotted else .implied) []
      return (origin, es ++ [(key, .table o inner)])
    | some (.table o inner) =>
      if o = .inlined ∧ !isDotted ∨ isDotted ∧ (o = .header ∨ o = .inlined) then none
      else do
        let (o, inner) ← descend isDotted change path o inner
        return (origin, es.replace key (.table o inner))
    | some (.tables items) => do
      let last ← items.getLast?
      let (_, inner) ← descend isDotted change path .header last
      return (origin, es.replace key (.tables (items.dropLast ++ [inner])))
    | some _ => none

/-- Defines a key, written with the dotted path in front of it. The table that it lands in is the
current one, or one that dotted keys built. -/
def define (path : List String) (key : String) (v : Value) :
    Origin → Entries → Option (Origin × Entries) :=
  descend true (fun origin es =>
    if (origin == .dotted) == path.isEmpty then none
    else if (es.find? key).isSome then none
    else some (origin, es ++ [(key, v)])) path

/-- Opens a table by a header; only an implied one may be there already. -/
def openTable (path : List String) (key : String) :
    Origin → Entries → Option (Origin × Entries) :=
  descend false (fun origin es =>
    match es.find? key with
    | none => some (origin, es ++ [(key, .table .header [])])
    | some (.table .implied inner) => some (origin, es.replace key (.table .header inner))
    | some _ => none) path

/-- Opens a further table of an array of tables. -/
def openElement (path : List String) (key : String) :
    Origin → Entries → Option (Origin × Entries) :=
  descend false (fun origin es =>
    match es.find? key with
    | none => some (origin, es ++ [(key, .tables [[]])])
    | some (.tables items) => some (origin, es.replace key (.tables (items ++ [[]])))
    | some _ => none) path

end Entries

end PseudoTerminal.Toml
