import PseudoTerminal.CommandLine.Quote

/-! Splitting of a command line into arguments. Blanks outside quotes separate arguments. Backslashes
are literal unless a quote follows them: then every two give one, and an odd one makes the quote
literal. Inside quotes a doubled quote is a literal one; otherwise a quote switches the quoting. -/

namespace PseudoTerminal.CommandLine

/-- An argument being read: its characters, last first, the backslashes seen since, and whether a
quote is open. -/
structure Word where
  chars : List Char := []
  slashes : Nat := 0
  quoted : Bool := false
  deriving DecidableEq, Repr

namespace Word

/-- Appends `n` backslashes. -/
def pad (w : Word) (n : Nat) : List Char := List.replicate n '\\' ++ w.chars

/-- The argument, when nothing follows it. -/
def close (w : Word) : List Char := (w.pad w.slashes).reverse

/-- A character that is neither a backslash, a quote nor a separator. -/
def push (w : Word) (c : Char) : Word := { w with chars := c :: w.pad w.slashes, slashes := 0 }

/-- A quote that stands for itself. -/
def literalQuote (w : Word) : Word :=
  { w with chars := '"' :: w.pad (w.slashes / 2), slashes := 0 }

/-- A quote that opens or closes a quoted run. -/
def switch (w : Word) : Word :=
  { chars := w.pad (w.slashes / 2), slashes := 0, quoted := !w.quoted }

end Word

/-- The arguments from here on; `none` stands between two arguments. -/
def splitFrom : Option Word → List Char → List (List Char)
  | none, [] => []
  | some w, [] => [w.close]
  | s, c :: cs =>
    let w := s.getD {}
    if isBlank c ∧ !w.quoted then (s.map Word.close).toList ++ splitFrom none cs
    else if c = '\\' then splitFrom (some { w with slashes := w.slashes + 1 }) cs
    else if c = '"' then
      if w.slashes % 2 = 1 then splitFrom (some w.literalQuote) cs
      else if w.quoted then
        match cs with
        | '"' :: cs => splitFrom (some w.literalQuote) cs
        | cs => splitFrom (some w.switch) cs
      else splitFrom (some w.switch) cs
    else splitFrom (some (w.push c)) cs

/-- The arguments of a command line. -/
def split (line : List Char) : List (List Char) := splitFrom none line

end PseudoTerminal.CommandLine
