import PseudoTerminal.Text.Octets

/-! Composition of an argument vector into one command line. A blank inside an argument, or an empty
argument, calls for enclosing quotes; a quote is escaped by a backslash, and the backslashes in front
of a quote, escaped or closing, are doubled so that they stay literal. -/

namespace PseudoTerminal.CommandLine

/-- The characters that separate arguments. -/
def isBlank (c : Char) : Bool := c == ' ' || c == '\t'

/-- The escaped form of what is left of an argument after `slashes` backslashes, with the closing
quote when the argument is enclosed. -/
def escape (enclosed : Bool) : Nat → List Char → List Char
  | slashes, [] => if enclosed then List.replicate slashes '\\' ++ ['"'] else []
  | slashes, c :: cs =>
    if c = '\\' then '\\' :: escape enclosed (slashes + 1) cs
    else if c = '"' then List.replicate (slashes + 1) '\\' ++ '"' :: escape enclosed 0 cs
    else c :: escape enclosed 0 cs

/-- The written form of one argument. -/
def quote (arg : List Char) : List Char :=
  if arg = [] ∨ arg.any isBlank then '"' :: escape true 0 arg else escape false 0 arg

/-- The written forms of the arguments with one space between neighbours. -/
def compose : List (List Char) → List Char
  | [] => []
  | [arg] => quote arg
  | arg :: args => quote arg ++ ' ' :: compose args

end PseudoTerminal.CommandLine
