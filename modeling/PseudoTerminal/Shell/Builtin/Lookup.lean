import PseudoTerminal.Shell.Builtin.Name

/-! Where a name leads when it is used as a command, and the programs that have been found so far. -/

namespace PseudoTerminal.Shell.Builtin

open Host

/-- The builtins whose arguments may be assignments. -/
def declaring : List String := ["alias", "export", "local", "readonly"]

def names : List String := specialCommands ++ [
  "alias", "bg", "cd", "chdir", "command", "echo", "false", "fg", "getopts", "hash", "jobs", "kill",
  "printf", "pwd", "read", "test", "[", "true", "type", "ulimit", "umask", "unalias", "wait"]

/-- The builtin of a name. -/
def named? (name : Octets) : Option String := names.find? fun n => Octets.ofString n == name

/-- The program of a name: with a slash whatever is there, else the first that the path leads to. -/
def program? (t : Turn) (name : Octets) (path : Option Octets) : Option Path :=
  if name.contains Path.slash then
    if t.files.isPresent (some t.cwd) name then some name else none
  else (t.candidates name path).find? fun p => t.files.isExecutable (some t.cwd) p

/-- Remembers a program that is looked for by its name. -/
def remember (t : Turn) (name : Octets) : Turn :=
  if name.contains Path.slash || t.shell.hashed.contains name || (program? t name none).isNone then t
  else { t with shell := { t.shell with hashed := t.shell.hashed ++ [name] } }

/-- What a name means as a command, at length or in short, and whether it means anything. -/
def describe (t : Turn) (brief : Bool) (path : Option Octets) (name : Octets) : Octets × Bool :=
  let say (long : Octets) : Octets × Bool := (if brief then name ++ [10] else name ++ long ++ [10], true)
  if ("in" :: Reader.reservedWords).any fun w => text w == name then say (text " is a shell keyword")
  else match t.shell.aliases.find? (·.1 == name) with
    | some e =>
      if brief then (text "alias " ++ aliasLine e, true) else say (text " is an alias for " ++ e.2)
    | none =>
      if t.shell.functions.any (·.1 == name) then say (text " is a shell function")
      else match named? name, program? t name path with
        | some b, _ =>
          let kind := if specialCommands.contains b then "special shell builtin" else "shell builtin"
          say (text (" is a " ++ kind))
        | none, some p =>
          let isHashed := path.isNone && t.shell.hashed.contains name
          (if brief then p ++ [10]
            else name ++ text (if isHashed then " is a tracked alias for " else " is ") ++ p ++ [10], true)
        | none, none => (if brief then [] else name ++ text ": not found\n", false)

def type (t : Turn) (args : List Octets) : Turn :=
  let answers := args.map (describe t false none)
  t.print [(1, answers.flatMap Prod.fst)] (if answers.all Prod.snd then 0 else 127)

/-- Tells what a name means as a command. -/
def command (t : Turn) (args : List Octets) : Turn :=
  withOptions t "command" "pvV" args fun found words =>
    let path := if found.any (·.1 == 'p') then some Turn.standardPath else none
    match words, found.any (·.1 == 'V'), found.any (·.1 == 'v') with
    | [], _, _ | _, false, false => t.finish 0
    | word :: _, long, _ =>
      let (out, known) := describe t (!long) path word
      t.print [(1, out)] (if known then 0 else 127)

/-- The place of a name among the programs that have been found. -/
def programBucket (name : Octets) : Nat :=
  match name with
  | [] => 0
  | b :: _ => name.foldl (fun n c => n + c.toNat) (b.toNat * 16) % 32768 % 31

/-- Lists the programs that have been found, or looks for more. -/
def hash (t : Turn) (args : List Octets) : Turn :=
  withOptions t "hash" "r" args fun found words =>
    if !found.isEmpty then { t with shell := { t.shell with hashed := [] } }.finish 0
    else if words.isEmpty then
      let inBucket (n : Nat) : List Octets := t.shell.hashed.filter fun name => programBucket name == n
      let line (name : Octets) : Octets := match program? t name none with
        | some p => p ++ [10]
        | none => []
      t.print [(1, (List.range 31).flatMap fun n => (inBucket n).flatMap line)] 0
    else
      let isKnown (w : Octets) : Bool :=
        (named? w).isSome || t.shell.functions.any (·.1 == w) || (program? t w none).isSome
      let unknown := words.filter (!isKnown ·)
      let t := words.foldl (fun t w => if (named? w).isSome then t else remember t w) t
      t.print (unknown.map fun w => (2, t.shell.report (text "hash: " ++ w ++ text ": not found")))
        (if unknown.isEmpty then 0 else 1)

end PseudoTerminal.Shell.Builtin
