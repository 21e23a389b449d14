import PseudoTerminal.Shell.Builtin.Basic

/-! Names and what they stand for: variables and their marks, the arguments of the shell, its flags, options
among arguments, and aliases. -/

namespace PseudoTerminal.Shell.Builtin

open Host

/-- Name and value of an argument that may be an assignment. -/
def definition (arg : Octets) : Octets × Option Octets := Octets.breakAt 61 arg

/-- Variables in the order of their names, one in a line. -/
def listing (start : Octets) (settings : List Setting) : Octets :=
  let sorted := settings.mergeSort fun a b => !Octets.lt b.name a.name
  let line (s : Setting) : Octets :=
    start ++ s.name ++ (match s.value with
      | some value => 61 :: State.singleQuoted value
      | none => []) ++ [10]
  sorted.flatMap line

/-- Marks variables, and gives values to those that come with one. Without names, or on demand, the marked
ones are listed. -/
def mark (t : Turn) (name : String) (isMarked : Setting → Bool) (change : Setting → Setting)
    (args : List Octets) : Turn :=
  withOptions t name "p" args fun found args =>
    if args.isEmpty || !found.isEmpty then
      t.print [(1, listing (text (name ++ " ")) (t.shell.settings.filter isMarked))] 0
    else
      let step (t : Turn) (arg : Octets) : Except Octets Turn := do
        let (key, value?) := definition arg
        if !Reader.isName (Source.ofOctets key) then throw (key ++ text ": bad variable name")
        let t ← match value? with
          | none => pure t
          | some value => assign t key value
        let s := (t.shell.setting? key).getD { name := key, value := none }
        return { t with shell := t.shell.put (change s) }
      match args.foldlM step t with
      | .ok t => t.finish 0
      | .error why => fail t name why

def unset (t : Turn) (args : List Octets) : Turn :=
  withOptions t "unset" "vf" args fun found names =>
    if (found.getLast?.map Prod.fst) == some 'f' then
      let left := t.shell.functions.filter fun f => !names.contains f.1
      { t with shell := { t.shell with functions := left } }.finish 0
    else
      let step (t : Turn) (name : Octets) : Except Octets Turn :=
        if !Reader.isName (Source.ofOctets name) then .error (name ++ text ": bad variable name")
        else if (t.shell.setting? name).any (·.constant) then .error (name ++ text ": is read only")
        else .ok { t with shell := t.shell.unset name }
      match names.foldlM step t with
      | .ok t => t.finish 0
      | .error why => fail t "unset" why

/-! ### Flags and arguments -/

/-- The flags by name, as they are listed. The last two have no letter of their own. -/
def flagNames : List (String × Char) := [
  ("errexit", 'e'), ("noglob", 'f'), ("ignoreeof", 'I'), ("interactive", 'i'), ("monitor", 'm'),
  ("noexec", 'n'), ("stdin", 's'), ("xtrace", 'x'), ("verbose", 'v'), ("vi", 'V'), ("emacs", 'E'),
  ("noclobber", 'C'), ("allexport", 'a'), ("notify", 'b'), ("nounset", 'u'), ("privileged", 'p'),
  ("nolog", '1'), ("debug", '2')]

/-- The flags, whether they are set or how to set them again. -/
def flagListing (sh : State) (asCommands : Bool) : Octets :=
  if asCommands then
    text (String.join (flagNames.map fun (name, c) =>
      "set " ++ (if sh.has c then "-o " else "+o ") ++ name ++ "\n"))
  else
    let line (e : String × Char) : String :=
      e.1 ++ String.ofList (List.replicate (16 - e.1.length) ' ') ++
        (if sh.has e.2 then "on\n" else "off\n")
    text ("Current option settings\n" ++ String.join (flagNames.map line))

/-- What option words say: the shell with its flags, what is listed, and the arguments if there are any. -/
structure FlagReading where
  shell : State
  listed : Octets := []
  args? : Option (List Octets) := none
  /-- A letter said that a command follows. -/
  command : Bool := false

/-- Reads the letters of an option word; a name that one of them needs is taken from the words behind. -/
def readFlags (r : FlagReading) (on starting : Bool) : Source → List Octets →
    Except Octets (FlagReading × List Octets)
  | [], rest => .ok (r, rest)
  | 'o' :: letters, [] =>
    readFlags { r with listed := r.listed ++ flagListing r.shell !on } on starting letters []
  | 'o' :: letters, name :: rest =>
    match flagNames.find? fun e => text e.1 == name with
    | some (_, c) => readFlags { r with shell := r.shell.switch on c } on starting letters rest
    | none => .error (text "Illegal option -o " ++ name)
  | c :: letters, rest =>
    if starting && c == 'c' then readFlags { r with command := true } on starting letters rest
    else if starting && c == 'l' then readFlags r on starting letters rest
    else if State.flagOrder.contains c then
      readFlags { r with shell := r.shell.switch on c } on starting letters rest
    else .error (text "Illegal option -" ++ [UInt8.ofNat c.toNat])

/-- Reads option words in front; what is left are the arguments, if there are any or a mark asks for
none. -/
def readFlagWords (starting : Bool) : Nat → FlagReading → List Octets → Except Octets FlagReading
  | 0, r, _ => .ok r
  | _ + 1, r, [] => .ok r
  | fuel + 1, r, word :: rest =>
    let given := if rest.isEmpty then none else some rest
    match Source.ofOctets word with
    | ['-'] =>
      .ok { r with shell := (r.shell.switch false 'x').switch false 'v', args? := given }
    | ['-', '-'] => .ok { r with args? := some rest }
    | '-' :: letters => do
      let (r, rest) ← readFlags r true starting letters rest
      readFlagWords starting fuel r rest
    | '+' :: letters => do
      let (r, rest) ← readFlags r false starting letters rest
      readFlagWords starting fuel r rest
    | _ => .ok { r with args? := some (word :: rest) }

def set (t : Turn) (args : List Octets) : Turn :=
  if args.isEmpty then t.print [(1, listing [] (t.shell.settings.filter (·.value.isSome)))] 0
  else match readFlagWords false args.length { shell := t.shell } args with
    | .error why => fail t "set" why
    | .ok r =>
      { t with shell := { r.shell with args := r.args?.getD r.shell.args } }.print [(1, r.listed)] 0

def shift (t : Turn) (args : List Octets) : Turn :=
  let go (n : Nat) : Turn :=
    if t.shell.args.length < n then fail t "shift" (text "can't shift that many")
    else { t with shell := { t.shell with args := t.shell.args.drop n } }.finish 0
  match args with
  | [] => go 1
  | a :: _ => withNumber t "shift" a go

/-- Makes variables, and with a dash the flags, local to the function that runs. -/
def localize (t : Turn) (args : List Octets) : Turn :=
  let isCall (f : Frame) : Bool := match f with
    | .callEnd _ _ _ isCall => isCall
    | _ => false
  let rec remember (change : Frame → Frame) : List Frame → List Frame
    | [] => []
    | f :: rest => if isCall f then change f :: rest else f :: remember change rest
  let step (t : Turn) (arg : Octets) : Except Octets Turn :=
    let (key, value?) := definition arg
    let change (f : Frame) : Frame := match f with
      | .callEnd saved locals flags isCall =>
        if key == [45] then .callEnd saved locals (flags.or (some t.shell.flags)) isCall
        else if locals.any (·.1 == key) then f
        else .callEnd saved ((key, t.shell.setting? key) :: locals) flags isCall
      | f => f
    let t := { t with shell := { t.shell with frames := remember change t.shell.frames } }
    match value? with
    | some value => assign t key value
    | none =>
      if key == [45] || Reader.isName (Source.ofOctets key) then .ok t
      else .error (key ++ text ": bad variable name")
  if !t.shell.frames.any isCall then fail t "local" (text "not in a function")
  else match args.foldlM step t with
    | .ok t => t.finish 0
    | .error why => fail t "local" why

/-! ### Options among arguments -/

/-- What `getopts` found: the letter, its word, the word and the octet in it where to go on, a message, and
whether there is nothing more to find. -/
structure OptionFound where
  letter : UInt8 := 63
  value : Option Octets := none
  word : Nat
  offset : Option Nat := none
  message : Octets := []
  ended : Bool := false

/-- The next option among words, from a word and perhaps an octet in it on. -/
def findOption (allowed : Octets) (words : List Octets) (word : Nat) (offset : Option Nat) : OptionFound :=
  let quiet := allowed.head? == some 58
  let inside := (offset.bind fun n => words[word - 2]?.map fun w => (w.drop n, n)).filter (!·.1.isEmpty)
  -- the letters that are left, the word behind them, and where the letters begin
  let place : Option (Octets × Nat × Nat) := match inside with
    | some (letters, n) => some (letters, word, n)
    | none => match words[word - 1]? with
      | some (45 :: b :: letters) => some (b :: letters, word + 1, 1)
      | _ => none
  match place with
  | none => { word, ended := true }
  | some ([], _, _) => { word, ended := true }
  | some (c :: rest, next, start) =>
    if inside.isNone && c == 45 && rest.isEmpty then { word := next, ended := true }
    else
      let stay : Option Nat := some (start + 1)
      match allowed.dropWhile (· != c) with
      | [] =>
        if quiet then { value := some [c], word := next, offset := stay }
        else { word := next, offset := stay, message := text "Illegal option -" ++ [c, 10] }
      | _ :: 58 :: _ =>
        if !rest.isEmpty then { letter := c, value := some rest, word := next }
        else match words[next - 1]? with
          | some w => { letter := c, value := some w, word := next + 1 }
          | none =>
            if quiet then { letter := 58, value := some [c], word := next, offset := stay }
            else { word := next, offset := stay, message := text "No arg for -" ++ c :: text " option\n" }
      | _ => { letter := c, value := some [], word := next, offset := stay }

def getopts (t : Turn) (args : List Octets) : Turn :=
  withOptions t "getopts" "" args fun _ args =>
    match args with
    | allowed :: name :: given =>
      let words := if given.isEmpty then t.shell.args else given
      let index := ((t.shell.valueOf "OPTIND").bind number?).getD 1
      let outside := words.length + 1 < index
      let word := if outside then 1 else max index 1
      let offset := match t.shell.optionPlace with
        | some (w, n) => if w == word && !outside then some n else none
        | none => none
      let found := findOption allowed words word offset
      let sh := t.shell.assign (text "OPTIND") (Octets.ofNat found.word)
      let sh := match found.value, found.ended with
        | some value, _ => sh.assign (text "OPTARG") value
        | none, true => sh
        | none, false => sh.unset (text "OPTARG")
      let t := { t with shell := { sh with optionPlace := found.offset.map fun n => (found.word, n) } }
      match assign t name [found.letter] with
      | .ok t => t.print [(2, found.message)] (if found.ended then 1 else 0)
      | .error why => fail t "getopts" why
    | _ => fail t "getopts" (text "Usage: getopts optstring var [arg...]")

/-! ### Aliases -/

/-- An alias as it is listed. -/
def aliasLine (e : Octets × Octets) : Octets := e.1 ++ 61 :: State.singleQuoted e.2 ++ [10]

def setAliases (t : Turn) (args : List Octets) : Turn :=
  let step (state : Turn × List (Nat × Octets) × Nat) (arg : Octets) :
      Turn × List (Nat × Octets) × Nat :=
    let (t, texts, status) := state
    let aliases := t.shell.aliases
    -- an equals sign in front belongs to the name
    let (tail, value?) := definition (arg.drop 1)
    let name := arg.take 1 ++ tail
    match value? with
    | some value =>
      let aliases := if aliases.any (·.1 == name) then
          aliases.map fun e => if e.1 == name then (name, value) else e
        else aliases ++ [(name, value)]
      ({ t with shell := { t.shell with aliases } }, texts, status)
    | none => match aliases.find? (·.1 == name) with
      | some e => (t, texts ++ [(1, aliasLine e)], status)
      | none => (t, texts ++ [(2, text "alias: " ++ name ++ text " not found\n")], 1)
  if args.isEmpty then
    let inBucket (n : Nat) : List (Octets × Octets) :=
      t.shell.aliases.filter fun e => State.bucket e.1 == n
    t.print [(1, (List.range 39).flatMap fun n => (inBucket n).flatMap aliasLine)] 0
  else
    let (t, texts, status) := args.foldl step (t, [], 0)
    t.print texts status

def dropAliases (t : Turn) (args : List Octets) : Turn :=
  withOptions t "unalias" "a" args fun found names =>
    if !found.isEmpty then { t with shell := { t.shell with aliases := [] } }.finish 0
    else
      let unknown := names.filter fun n => !t.shell.aliases.any (·.1 == n)
      let aliases := t.shell.aliases.filter fun e => !names.contains e.1
      { t with shell := { t.shell with aliases } }.print
        (unknown.map fun n => (2, text "unalias: " ++ n ++ text " not found\n"))
        (if unknown.isEmpty then 0 else 1)

end PseudoTerminal.Shell.Builtin
