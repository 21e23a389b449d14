import PseudoTerminal.Shell.Turn

/-! What the commands that the shell carries out itself have in common: options in front of the arguments,
numbers, and complaints that begin with the name of the command. -/

namespace PseudoTerminal.Shell.Builtin

open Host

def text (s : String) : Octets := Octets.ofString s

/-- The words of a fault without its number. -/
def words (f : Fault) : Octets :=
  text (match f with
    | .os n => Fault.describe n
    | f => f.message)

/-- Complains about a command; unless the command is a special one this does not end the shell. -/
def fail (t : Turn) (name : String) (why : Octets) : Turn :=
  t.focus (.print [(2, t.shell.report (text (name ++ ": ") ++ why))] 2 true [])

/-- What is at the end of a word of options, and behind it, that has been read up to a letter. The letters
that take a word stand before a colon in those that are allowed. -/
def lettersFrom (allowed : Source) : Nat → Octets → List Octets →
    Except Octets (List (Char × Octets) × List Octets)
  | 0, _, args => .ok ([], args)
  | fuel + 1, [], args =>
    match args with
    | (45 :: b :: letters) :: rest =>
      if b == 45 && letters.isEmpty then .ok ([], rest) else lettersFrom allowed fuel (b :: letters) rest
    | args => .ok ([], args)
  | fuel + 1, b :: letters, args => do
    let c := Char.ofNat b.toNat
    match (allowed.dropWhile (· != c)), c == ':' with
    | [], _ | _, true => throw (text "Illegal option -" ++ [b])
    | _ :: ':' :: _, _ =>
      if !letters.isEmpty then
        let (more, args) ← lettersFrom allowed fuel [] args
        return ((c, letters) :: more, args)
      else match args with
        | [] => throw (text "No arg for -" ++ b :: text " option")
        | word :: rest =>
          let (more, args) ← lettersFrom allowed fuel [] rest
          return ((c, word) :: more, args)
    | _, _ =>
      let (more, args) ← lettersFrom allowed fuel letters args
      return ((c, []) :: more, args)

/-- The options in front of the arguments, each with its word, and the arguments. -/
def options (allowed : String) (args : List Octets) :
    Except Octets (List (Char × Octets) × List Octets) :=
  lettersFrom allowed.toList (2 * (args.map List.length).foldl (· + ·) 0 + args.length + 1) [] args

/-- Goes on with options and arguments, or complains about the options. -/
def withOptions (t : Turn) (name allowed : String) (args : List Octets)
    (use : List (Char × Octets) → List Octets → Turn) : Turn :=
  match options allowed args with
  | .error why => fail t name why
  | .ok (found, args) => use found args

def isSpace (b : UInt8) : Bool := b == 32 || 9 ≤ b && b ≤ 13

/-- The number that a word writes, with blanks around it and perhaps a sign. -/
def number? (word : Octets) : Option Nat :=
  let word := ((word.dropWhile isSpace).reverse.dropWhile isSpace).reverse
  let value : Option Nat := match word with
    | 43 :: ds => Octets.decimal? ds
    | 45 :: ds => (Octets.decimal? ds).filter (· == 0)
    | ds => Octets.decimal? ds
  value.filter (· < Nat.pow 2 31)

/-- Goes on with a number, or complains that the word is none. -/
def withNumber (t : Turn) (name : String) (word : Octets) (use : Nat → Turn) : Turn :=
  match number? word with
  | some n => use n
  | none => fail t name (text "Illegal number: " ++ word)

/-- Gives a variable a value, or tells why not. -/
def assign (t : Turn) (name value : Octets) : Except Octets Turn :=
  if !Reader.isName (Source.ofOctets name) then .error (name ++ text ": bad variable name")
  else match t.shell.assign? name value with
    | some shell => .ok { t with shell }
    | none => .error (name ++ text ": is read only")

end PseudoTerminal.Shell.Builtin
