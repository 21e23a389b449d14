import PseudoTerminal.Host.Copying
import PseudoTerminal.Host.Utility.Basic

/-! The programs that copy, by what their arguments ask for: whole files, the beginning of files, with other
octets, or block by block. -/

namespace PseudoTerminal.Host.Utility

/-- A number with an optional multiplier. -/
def amount? (s : Octets) : Option Nat :=
  let digits := s.takeWhile fun b => 48 ≤ b && b ≤ 57
  let factor := match (s.drop digits.length).map fun b => Char.ofNat b.toNat with
    | [] => some 1
    | ['c'] => some 1
    | ['w'] => some 2
    | ['b'] => some 512
    | ['k'] | ['K'] | ['K', 'i', 'B'] => some 1024
    | ['k', 'B'] | ['K', 'B'] => some 1000
    | ['M'] | ['M', 'i', 'B'] => some (1024 * 1024)
    | ['M', 'B'] => some 1000000
    | ['G'] => some (1024 * 1024 * 1024)
    | _ => none
  match Octets.decimal? digits, factor with
  | some n, some f => some (n * f)
  | _, _ => none

/-- The sources that operands name. -/
def sourcesOf (operands : List Octets) : List Octets := if operands.isEmpty then [[45]] else operands

/-! ### Whole files -/

def catRules : List OptionRule := [
  ⟨'A', "show-all", false⟩, ⟨'b', "number-nonblank", false⟩, ⟨'e', "", false⟩,
  ⟨'E', "show-ends", false⟩, ⟨'n', "number", false⟩, ⟨'s', "squeeze-blank", false⟩, ⟨'t', "", false⟩,
  ⟨'T', "show-tabs", false⟩, ⟨'u', "", false⟩, ⟨'v', "show-nonprinting", false⟩]

def cat (k : Kernel Program) (pid : Nat) (args : List Octets) : Kernel Program :=
  match options catRules true args with
  | .error why => misuse k pid "cat" why
  | .ok (found, files) =>
    let has (letters : List Char) : Bool := found.any fun e => letters.contains e.1
    let display : Display := {
      counted := if has ['b'] then some false else if has ['n'] then some true else none
      squeezed := has ['s'], ends := has ['A', 'e', 'E'], tabs := has ['A', 't', 'T']
      spelled := has ['A', 'e', 't', 'v'] }
    let plain := !has ['A', 'b', 'e', 'E', 'n', 's', 't', 'T', 'v']
    k.setProgram pid (.copy {
      title := "cat", sources := sourcesOf files
      transform := if plain then .same else .display display })

/-! ### Beginnings -/

def headRules : List OptionRule := [
  ⟨'n', "lines", true⟩, ⟨'c', "bytes", true⟩, ⟨'q', "quiet", false⟩, ⟨'v', "verbose", false⟩]

/-- A number of lines or octets; a minus says how many are left out at the end. -/
def extent? (lines : Bool) (word : Octets) : Option Extent :=
  match word with
  | 45 :: ds => (amount? ds).map fun n => if lines then .allButLines n else .allButOctets n
  | ds => (amount? ds).map fun n => if lines then .lines n else .octets n

def head (k : Kernel Program) (pid : Nat) (args : List Octets) : Kernel Program :=
  -- a number may stand right behind the dash of the first argument
  let args := match args with
    | (45 :: b :: ds) :: rest =>
      if (Octets.decimal? (b :: ds)).isSome then text "-n" :: (b :: ds) :: rest else args
    | args => args
  match options headRules true args with
  | .error why => misuse k pid "head" why
  | .ok (found, files) =>
    let asked := found.filter fun e => e.1 == 'n' || e.1 == 'c'
    match asked.find? fun e => (extent? (e.1 == 'n') e.2).isNone with
    | some (c, word) =>
      let what := if c == 'n' then "lines" else "bytes"
      fail k pid (text ("head: invalid number of " ++ what ++ ": ") ++ quoted word ++ [10])
    | none =>
      let extent := (asked.getLast?.bind fun e => extent? (e.1 == 'n') e.2).getD (.lines 10)
      let naming := (found.filter fun e => e.1 == 'q' || e.1 == 'v').getLast?.map Prod.fst
      k.setProgram pid (.copy {
        title := "head", sources := sourcesOf files, block := 8192, extent, renewed := some extent
        headings := naming == some 'v' || naming.isNone && 1 < files.length
        wording := {
          opening := ("cannot open '", "' for reading"), reading := ("error reading '", "'")
          writing := "error writing 'standard output'" } })

/-! ### Other octets -/

def trRules : List OptionRule := [
  ⟨'c', "complement", false⟩, ⟨'C', "", false⟩, ⟨'d', "delete", false⟩,
  ⟨'s', "squeeze-repeats", false⟩, ⟨'t', "truncate-set1", false⟩]

def tr (k : Kernel Program) (pid : Nat) (args : List Octets) : Kernel Program :=
  match options trRules false args with
  | .error why => misuse k pid "tr" why
  | .ok (found, sets) =>
    let has (c : Char) : Bool := found.any (·.1 == c)
    let delete := has 'd'
    let squeeze := has 's'
    let least := if delete == squeeze then 2 else 1
    let most := if delete && !squeeze then 1 else 2
    let after (set : Octets) (why : String) : Kernel Program :=
      misuse k pid "tr" (text "missing operand after " ++ quoted set ++ text ("\n" ++ why))
    match sets with
    | [] => misuse k pid "tr" (text "missing operand")
    | first :: more =>
      match more, sets.drop most with
      | [], _ =>
        if 1 < least then
          after first (if delete then "Two strings must be given when both deleting and squeezing repeats."
            else "Two strings must be given when translating.")
        else translate first [] delete squeeze has
      | second :: _, extra :: _ =>
        let why := if most = 1 && sets.length = 2 then
            "\nOnly one string may be given when deleting without squeezing repeats."
          else ""
        misuse k pid "tr" (text "extra operand " ++ quoted (if most = 1 then second else extra) ++ text why)
      | second :: _, [] =>
        if second.isEmpty && !delete && !has 't' then
          fail k pid (text "tr: when not truncating set1, string2 must be non-empty\n")
        else translate first second delete squeeze has
where
  translate (first second : Octets) (delete squeeze : Bool) (has : Char → Bool) : Kernel Program :=
    match Transform.translation (has 'c' || has 'C') delete squeeze (has 't') first second with
    | .error (.unknownClass name) =>
      fail k pid (text "tr: invalid character class " ++ quoted name ++ [10])
    | .error (.reversed range) =>
      fail k pid (text "tr: range-endpoints of " ++ quoted range ++
        text " are in reverse collating sequence order\n")
    | .ok transform =>
      k.setProgram pid (.copy {
        title := "tr", sources := [[45]], block := 8192, transform
        wording := { reading := ("read error", "") } })

/-! ### Blocks -/

/-- The operands of `dd` that are numbers, and those that are words. -/
def ddNumbers : List String := ["ibs", "obs", "bs", "cbs", "skip", "seek", "count"]

def ddWords : List String := ["if", "of", "conv", "iflag", "oflag", "status"]

/-- The table of a conversion between cases. -/
def caseTable (upper : Bool) : Transform :=
  let change (b : UInt8) : UInt8 :=
    if upper then if 97 ≤ b && b ≤ 122 then b - 32 else b
    else if 65 ≤ b && b ≤ 90 then b + 32 else b
  .translate (Transform.identity.map change) (Transform.flags []) (Transform.flags []) none

def dd (k : Kernel Program) (pid : Nat) (args : List Octets) : Kernel Program :=
  let pairs := args.map fun a => (a, Octets.breakAt 61 a)
  let known (names : List String) (key : Octets) : Bool := names.any fun n => text n == key
  let bad := pairs.find? fun (_, key, value) => value.isNone || !known (ddNumbers ++ ddWords) key
  let wrong := pairs.find? fun (_, key, value) =>
    known ddNumbers key && match value.bind amount? with
      | none => true
      | some n => n = 0 && known ["ibs", "obs", "bs", "cbs"] key
  match bad, wrong with
  | some (arg, _), _ => misuse k pid "dd" (text "unrecognized operand " ++ quoted arg)
  | none, some (_, _, value) => fail k pid (text "dd: invalid number: " ++ quoted (value.getD []) ++ [10])
  | none, none =>
    let operand? (name : String) : Option Octets :=
      (pairs.filter fun (_, key, _) => key == text name).getLast?.bind fun (_, _, value) => value
    let number? (name : String) : Option Nat := (operand? name).bind amount?
    let conversions := Octets.splitOn 44 ((operand? "conv").getD [])
    let upper := conversions.contains (text "ucase")
    let lower := conversions.contains (text "lcase")
    let size := number? "bs"
    let direct := size.isSome && !upper && !lower
    let copy : Copy := {
      title := "dd", sources := [(operand? "if").getD [45]]
      extent := .blocks (number? "count"), skipped := (number? "skip").getD 0
      block := (size.or (number? "ibs")).getD 512
      outBlock := if direct then none else some ((size.or (number? "obs")).getD 512)
      transform := if upper || lower then caseTable upper else .same
      summary := operand? "status" != some (text "none")
      wording := {
        opening := ("failed to open '", "'"), reading := ("error reading '", "'")
        writing := "error writing 'standard output'" } }
    let refuse (name : Octets) (f : Fault) : Kernel Program :=
      fail k pid (text "dd: failed to open " ++ quoted name ++ text (": " ++ words f ++ "\n"))
    let source? := (operand? "if").map fun name => (name, k.openPath pid name .read)
    match source? with
    | some (name, .error f) => refuse name f
    | _ =>
      match (operand? "of").map fun name => (name, k.openPath pid name .write) with
      | none => k.setProgram pid (.copy copy)
      | some (_, .ok (o, k)) => (k.install pid 1 o).setProgram pid (.copy copy)
      | some (name, .error f) => refuse name f

end PseudoTerminal.Host.Utility
