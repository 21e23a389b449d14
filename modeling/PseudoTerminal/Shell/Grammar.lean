import PseudoTerminal.Text.Octets

/-! The command language of the host's shell as trees. A word is a sequence of parts, each quoted or not;
what stands inside a command substitution is kept as text until it is run. -/

namespace PseudoTerminal.Shell

/-- The commands that are part of the language: no function takes their names, an assignment in front of
them stays, and their failure ends a shell. -/
def specialCommands : List String := [
  ":", ".", "break", "continue", "eval", "exec", "exit", "export", "local", "readonly", "return", "set",
  "shift", "times", "trap", "unset"]

/-- What a parameter expansion does with the value; `colon` makes an empty value count as unset. -/
inductive Use
  | value
  | length
  | orDefault (colon : Bool)
  | orAssign (colon : Bool)
  | orFail (colon : Bool)
  | ifSet (colon : Bool)
  | withoutStart (longest : Bool)
  | withoutEnd (longest : Bool)
  /-- No use that there is; the expansion fails. -/
  | bad
  deriving DecidableEq, Repr, Inhabited

/-- A part of a word. -/
inductive Part
  | text (octets : Octets) (quoted : Bool)
  | parameter (name : Octets) (use : Use) (word : List Part) (quoted : Bool)
  | command (script : Octets) (quoted : Bool)
  /-- What a command substitution came to. -/
  | output (octets : Octets) (quoted : Bool)
  | arithmetic (expression : List Part) (quoted : Bool)
  deriving Inhabited, Repr

abbrev Word := List Part

/-- How a redirection uses its word. -/
inductive Direction
  | input
  | output
  /-- As `output`, even where a file that is there is to be kept. -/
  | overwrite
  | append
  | both
  /-- The word is the number of another descriptor, or a dash. -/
  | duplicate
  /-- The word is the text to be read. -/
  | text
  deriving DecidableEq, Repr, Inhabited

structure Redirect where
  number : Nat
  direction : Direction
  word : Word
  deriving Inhabited, Repr

inductive Command
  | nothing
  | simple (line : Nat) (assignments : List (Octets × Word)) (words : List Word)
      (redirects : List Redirect)
  | pipeline (negated : Bool) (stages : List Command)
  | both (first second : Command)
  | either (first second : Command)
  | sequence (first second : Command)
  | background (body : Command)
  | subshell (body : Command)
  | redirected (body : Command) (redirects : List Redirect)
  | choice (condition yes no : Command)
  | loop (until_ : Bool) (condition body : Command)
  | each (name : Octets) (words : Option (List Word)) (body : Command)
  | select (word : Word) (arms : List (List Word × Command))
  | define (name : Octets) (body : Command)
  deriving Inhabited, Repr

mutual

/-- The first command substitution that has not been run, searched from the left. -/
def Part.substitution? : Part → Option Octets
  | .command script _ => some script
  | .parameter _ _ word _ => substitutionIn? word
  | .arithmetic expression _ => substitutionIn? expression
  | _ => none

def substitutionIn? : List Part → Option Octets
  | [] => none
  | part :: parts => part.substitution?.or (substitutionIn? parts)

end

mutual

/-- Puts the output of the first command substitution in its place; `none` when there is none. -/
def Part.fill? (out : Octets) : Part → Option Part
  | .command _ quoted => some (.output out quoted)
  | .parameter name use word quoted => (fillIn? out word).map (.parameter name use · quoted)
  | .arithmetic expression quoted => (fillIn? out expression).map (.arithmetic · quoted)
  | _ => none

def fillIn? (out : Octets) : List Part → Option (List Part)
  | [] => none
  | part :: parts =>
    match part.fill? out with
    | some part => some (part :: parts)
    | none => (fillIn? out parts).map (part :: ·)

end

/-- The first command substitution in a list of words. -/
def substitutionInWords? (words : List Word) : Option Octets := words.findSome? substitutionIn?

/-- Puts an output in place of the first command substitution of a list of words. -/
def fillWords? (out : Octets) : List Word → Option (List Word)
  | [] => none
  | word :: words =>
    match fillIn? out word with
    | some word => some (word :: words)
    | none => (fillWords? out words).map (word :: ·)

def fillRedirects? (out : Octets) : List Redirect → Option (List Redirect)
  | [] => none
  | r :: rs =>
    match fillIn? out r.word with
    | some word => some ({ r with word } :: rs)
    | none => (fillRedirects? out rs).map (r :: ·)

def fillAssignments? (out : Octets) : List (Octets × Word) → Option (List (Octets × Word))
  | [] => none
  | (name, word) :: rest =>
    match fillIn? out word with
    | some word => some ((name, word) :: rest)
    | none => (fillAssignments? out rest).map ((name, word) :: ·)

namespace Command

/-- The command substitution that a command has to run before anything else of it: in its words, then
in its redirections, then in its assignments. -/
def substitution? : Command → Option Octets
  | simple _ assignments words redirects =>
    (substitutionInWords? words).or ((substitutionInWords? (redirects.map Redirect.word)).or
      (substitutionInWords? (assignments.map Prod.snd)))
  | redirected _ redirects => substitutionInWords? (redirects.map Redirect.word)
  | each _ words _ => words.bind substitutionInWords?
  | select word _ => substitutionIn? word
  | _ => none

/-- The command with the output of that substitution in its place. -/
def fill (out : Octets) : Command → Command
  | simple line assignments words redirects =>
    match fillWords? out words with
    | some words => simple line assignments words redirects
    | none =>
      match fillRedirects? out redirects with
      | some redirects => simple line assignments words redirects
      | none => simple line ((fillAssignments? out assignments).getD assignments) words redirects
  | redirected body redirects => redirected body ((fillRedirects? out redirects).getD redirects)
  | each name words body => each name ((words.bind (fillWords? out)).or words) body
  | select word arms => select ((fillIn? out word).getD word) arms
  | c => c

end Command

end PseudoTerminal.Shell
