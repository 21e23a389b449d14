import PseudoTerminal.Shell.Builtin.Basic

/-! Where the shell is, and which permissions new files get. -/

namespace PseudoTerminal.Shell.Builtin

open Host

/-- A path without dots and empty names, taken as a text. Exactly two slashes in front stay two. -/
def tidy (base path : Octets) : Octets :=
  let whole := Path.join base path
  let names := whole.parts.foldl (fun (names : List Octets) name =>
    if name.isEmpty || name == [Path.dot] then names
    else if name == [Path.dot, Path.dot] then names.dropLast
    else names ++ [name]) []
  let isDouble := whole.take 2 == [Path.slash, Path.slash] && whole[2]? != some Path.slash
  let start := if isDouble then [Path.slash] else []
  start ++ if names.isEmpty then [Path.slash] else names.flatMap (Path.slash :: ·)

/-- Whether a name is one dot or two, with or without something behind a slash. -/
def isDotted (path : Octets) : Bool :=
  let first := path.takeWhile (· != Path.slash)
  first == [Path.dot] || first == [Path.dot, Path.dot]

/-- Goes to a directory; `none` when there is no such directory. The shown path is tidied as a text unless
links are to be followed. -/
def enter? (t : Turn) (physical : Bool) (target : Octets) : Option Turn :=
  let logical := tidy t.shell.directory target
  match t.files.locate (some t.cwd) (if physical then target else logical) with
  | .error _ => none
  | .ok place =>
    if !t.files.isDirectory place then none
    else
      let shown := if physical then FileTree.pathOf place else logical
      let publish (name : String) (value : Octets) (sh : State) : State :=
        sh.put { name := text name, value := some value, exported := true }
      let old := publish "OLDPWD" t.shell.directory { t.shell with directory := shown }
      let kernel := t.kernel.update t.pid fun p => { p with cwd := place }
      some { t with shell := publish "PWD" shown old, kernel }

def cd (t : Turn) (args : List Octets) : Turn :=
  withOptions t "cd" "LP" args fun found args =>
    let physical := (found.getLast?.map Prod.fst) == some 'P'
    let back := args.head? == some [45]
    let target := match args with
      | [] => (t.shell.valueOf "HOME").getD []
      | a :: _ => if back then (t.shell.valueOf "OLDPWD").getD [] else a
    let direct := Path.isAbsolute target || isDotted target
    let named := if target.isEmpty then [Path.dot] else target
    let roots := match t.shell.valueOf "CDPATH" with
      | some path => if direct then [] else Octets.splitOn 58 path
      | none => []
    let isThere (root : Octets) : Bool :=
      match t.files.locate (some t.cwd) (Path.join root named) with
      | .ok place => t.files.isDirectory place
      | .error _ => false
    let root := roots.find? isThere
    match enter? t physical (Path.join (root.getD []) named) with
    | none => fail t "cd" (text "can't cd to " ++ target)
    | some t =>
      if back || root.any (!·.isEmpty) then t.print [(1, t.shell.directory ++ [10])] 0 else t.finish 0

def pwd (t : Turn) (args : List Octets) : Turn :=
  withOptions t "pwd" "LP" args fun found _ =>
    let physical := (found.getLast?.map Prod.fst) == some 'P'
    t.print [(1, (if physical then FileTree.pathOf t.cwd else t.shell.directory) ++ [10])] 0

/-! ### Permissions -/

/-- The bits of the letters of a permission. -/
def permissionBits (c : Char) : Option Nat :=
  [('r', 4), ('w', 2), ('x', 1)].lookup c

/-- The places of a permission that a letter means: the owner's, the group's, those of others. -/
def permissionPlaces (c : Char) : Option Nat :=
  [('u', 0o100), ('g', 0o010), ('o', 0o001), ('a', 0o111)].lookup c

/-- The permissions that are allowed when those that were get changed by a clause such as `u=rwx`. -/
def changePermissions (allowed : Nat) (clause : Source) : Option Nat := do
  let who := clause.takeWhile fun c => (permissionPlaces c).isSome
  let places := if who.isEmpty then 0o111
    else (who.filterMap permissionPlaces).foldl (fun a b => a ||| b) 0
  match clause.drop who.length with
  | [] => none
  | sign :: letters =>
    let bits ← letters.mapM permissionBits
    let change := places * bits.foldl (fun a b => a ||| b) 0
    match sign with
    | '+' => some (allowed ||| change)
    | '-' => some (allowed &&& (0o777 ^^^ change))
    | '=' => some (allowed &&& (0o777 ^^^ (places * 7)) ||| change)
    | _ => none

/-- The permissions in letters. -/
def permissionText (allowed : Nat) : Octets :=
  let letters (n : Nat) : String :=
    String.ofList (['r', 'w', 'x'].filter fun c => n &&& (permissionBits c).getD 0 != 0)
  text ("u=" ++ letters (allowed / 64) ++ ",g=" ++ letters (allowed / 8) ++ ",o=" ++ letters allowed)

def umask (t : Turn) (args : List Octets) : Turn :=
  withOptions t "umask" "S" args fun found args =>
    let mask := (t.process?.map Process.umask).getD 0
    let change (mask : Nat) : Turn :=
      { t with kernel := t.kernel.update t.pid fun p => { p with umask := mask % 512 } }.finish 0
    let isOctal (b : UInt8) : Bool := 48 ≤ b && b < 56
    let octal (w : Octets) : Octets := (Nat.toDigits 8 mask).map (fun c => UInt8.ofNat c.toNat) ++ w
    match args with
    | [] =>
      if !found.isEmpty then t.print [(1, permissionText (0o777 ^^^ mask) ++ [10])] 0
      else t.print [(1, List.replicate (4 - (octal []).length) 48 ++ octal [10])] 0
    | word :: _ =>
      if (word.head?.bind Octets.digit?).isSome then
        if word.all isOctal then change (word.foldl (fun n b => n * 8 + (b.toNat - 48)) 0)
        else fail t "umask" (text "Illegal number: " ++ word)
      else
        let step (allowed : Option Nat) (clause : Octets) : Option Nat :=
          allowed.bind fun a => changePermissions a (Source.ofOctets clause)
        match (Octets.splitOn 44 word).foldl step (some (0o777 ^^^ mask)) with
        | some allowed => change (0o777 ^^^ allowed)
        | none => fail t "umask" (text "Illegal mode: " ++ word)

end PseudoTerminal.Shell.Builtin
