import PseudoTerminal.Shell.Grammar

/-! Reading the shell's language. The text is a list of characters that stand for single octets; a reader
takes what it needs from the front and returns the rest. Depth is bounded by the fuel that the entry
points compute from the length of the text. -/

namespace PseudoTerminal.Shell

/-- Text to be read; every character stands for the octet of its number. -/
abbrev Source := List Char

namespace Source

def ofOctets (s : Octets) : Source := s.map fun b => Char.ofNat b.toNat

def toOctets (s : Source) : Octets := s.map fun c => UInt8.ofNat c.toNat

end Source

/-- Why reading stopped. -/
inductive Stop
  /-- The text ends inside a construct. -/
  | unfinished (reason : String)
  | unexpected (line : Nat) (token : String) (expected : Option String)
  | refused (line : Nat) (reason : String)
  deriving Repr

def Stop.message : Stop → String
  | unfinished reason | refused _ reason => "Syntax error: " ++ reason
  | unexpected _ token none => "Syntax error: " ++ token ++ " unexpected"
  | unexpected _ token (some expected) =>
    "Syntax error: " ++ token ++ " unexpected (expecting " ++ expected ++ ")"

abbrev Reading := Except Stop

namespace Reader

def isBlank (c : Char) : Bool := c == ' ' || c == '\t'

/-- The characters that end a word. -/
def isMeta (c : Char) : Bool := isBlank c || "\n;&|<>()".toList.contains c

def isNameStart (c : Char) : Bool := c.isAlpha || c == '_'

def isNameChar (c : Char) : Bool := c.isAlphanum || c == '_'

def isName (s : Source) : Bool :=
  match s with
  | [] => false
  | c :: rest => isNameStart c && rest.all isNameChar

/-- The parameters that are written with one character that starts no name. -/
def isSpecial (c : Char) : Bool := "@*#?-$!".toList.contains c || c.isDigit

/-! ### Blanks and lines -/

def skipBlanks : Source → Source
  | ' ' :: s | '\t' :: s => skipBlanks s
  | '\\' :: '\n' :: s => skipBlanks s
  | '#' :: s => s.dropWhile (· != '\n')
  | s => s

/-- Skips blanks, comments and ends of lines. -/
def skipLines : Nat → Source → Source
  | 0, s => s
  | fuel + 1, s =>
    match skipBlanks s with
    | '\n' :: s => skipLines fuel s
    | s => s

/-! ### Enclosed text -/

/-- The text up to the parenthesis that closes `depth` open ones, and what follows it. -/
def enclosed (depth : Nat) (quote : Option Char) : Source → Option (Source × Source)
  | [] => none
  | '\\' :: c :: s =>
    if quote == some '\'' then
      (enclosed depth (if c == '\'' then none else quote) s).map fun (t, r) => ('\\' :: c :: t, r)
    else (enclosed depth quote s).map fun (t, r) => ('\\' :: c :: t, r)
  | c :: s =>
    let go (depth : Nat) (quote : Option Char) :=
      (enclosed depth quote s).map fun (t, r) => (c :: t, r)
    match quote with
    | some q => go depth (if c == q then none else quote)
    | none =>
      if c == '\'' || c == '"' || c == '`' then go depth (some c)
      else if c == '(' then go (depth + 1) none
      else if c == ')' then if depth == 0 then some ([], s) else go (depth - 1) none
      else go depth none

/-- The text up to the closing backquote, its escapes resolved. -/
def backquoted (doubled : Bool) : Source → Option (Source × Source)
  | [] => none
  | '`' :: s => some ([], s)
  | '\\' :: c :: s =>
    let keep := if c == '$' || c == '`' || c == '\\' || doubled && c == '"' then [c] else ['\\', c]
    (backquoted doubled s).map fun (t, r) => (keep ++ t, r)
  | c :: s => (backquoted doubled s).map fun (t, r) => (c :: t, r)

/-- The lines up to a delimiter, and what follows it; without a delimiter nothing follows. -/
def hereLines (delimiter : Source) (strip : Bool) : Nat → Source → Source × Option Source
  | 0, _ => ([], none)
  | fuel + 1, s =>
    let s := if strip then s.dropWhile (· == '\t') else s
    let (line, rest) := s.span (· != '\n')
    if line == delimiter then ([], some (rest.drop 1))
    else match rest with
      | [] => (line, none)
      | end_ :: rest =>
        let (body, left) := hereLines delimiter strip fuel rest
        (line ++ end_ :: body, left)

/-! ### Words -/

/-- Puts a part in front; neighbouring plain text is joined. -/
def addPart (part : Part) (parts : List Part) : List Part :=
  match part, parts with
  | .text a p, .text b q :: rest => if p == q then .text (a ++ b) p :: rest else part :: parts
  | _, _ => part :: parts

def textPart (s : Source) (quoted : Bool) : Part := .text (Source.toOctets s) quoted

def unterminated : Stop := .unfinished "Unterminated quoted string"

def tooDeep : Stop := .unfinished "end of file unexpected"

mutual

/-- A word, up to a character that ends it; between braces only a brace does. -/
def word (inBraces : Bool) : Nat → Source → Reading (Word × Source)
  | 0, _ => .error tooDeep
  | fuel + 1, s =>
    match s with
    | [] => if inBraces then .error (.unfinished "Missing '\x7d'") else .ok ([], [])
    | '\\' :: '\n' :: s => word inBraces fuel s
    | '\\' :: c :: s => do
      let (parts, s) ← word inBraces fuel s
      return (addPart (textPart [c] true) parts, s)
    | '\'' :: s =>
      match s.span (· != '\'') with
      | (body, _ :: s) => do
        let (parts, s) ← word inBraces fuel s
        return (addPart (textPart body true) parts, s)
      | (_, []) => .error unterminated
    | '"' :: s => do
      let (inner, s) ← doubled (some '"') fuel s
      let (parts, s) ← word inBraces fuel s
      return ((if inner.isEmpty then [textPart [] true] else inner) ++ parts, s)
    | '`' :: s =>
      match backquoted false s with
      | some (script, s) => do
        let (parts, s) ← word inBraces fuel s
        return (.command (Source.toOctets script) false :: parts, s)
      | none => .error (.unfinished "EOF in backquote substitution")
    | '$' :: s => do
      let (part, s) ← dollar false fuel s
      let (parts, s) ← word inBraces fuel s
      return (addPart part parts, s)
    | c :: s =>
      if if inBraces then c == '\x7d' else isMeta c then .ok ([], c :: s)
      else do
        let (parts, s) ← word inBraces fuel s
        return (addPart (textPart [c] false) parts, s)

/-- Text between double quotes, up to the closing character and past it; without one, up to the end.
Before a closing brace further double quotes stand for nothing. -/
def doubled (close : Option Char) : Nat → Source → Reading (List Part × Source)
  | 0, _ => .error tooDeep
  | fuel + 1, s =>
    let inBraces := close == some '\x7d'
    match s with
    | [] =>
      if inBraces then .error (.unfinished "Missing '\x7d'")
      else if close.isSome then .error unterminated
      else .ok ([], [])
    | '\\' :: '\n' :: s => doubled close fuel s
    | '\\' :: c :: s => do
      let escaped := c == '$' || c == '`' || c == '\\' || some c == close || c == '"' && inBraces
      let (parts, s) ← doubled close fuel s
      return (addPart (textPart (if escaped then [c] else ['\\', c]) true) parts, s)
    | '`' :: s =>
      match backquoted true s with
      | some (script, s) => do
        let (parts, s) ← doubled close fuel s
        return (.command (Source.toOctets script) true :: parts, s)
      | none => .error (.unfinished "EOF in backquote substitution")
    | '$' :: s => do
      let (part, s) ← dollar true fuel s
      let (parts, s) ← doubled close fuel s
      return (addPart part parts, s)
    | c :: s =>
      if some c == close then .ok ([], s)
      else if c == '"' && inBraces then doubled close fuel s
      else do
        let (parts, s) ← doubled close fuel s
        return (addPart (textPart [c] true) parts, s)

/-- What a dollar sign introduces. -/
def dollar (quoted : Bool) : Nat → Source → Reading (Part × Source)
  | 0, _ => .error tooDeep
  | fuel + 1, s =>
    let script (s : Source) : Reading (Part × Source) :=
      match enclosed 0 none s with
      | some (script, s) => .ok (.command (Source.toOctets script) quoted, s)
      | none => .error (.unfinished "end of file unexpected (expecting \")\")")
    match s with
    | '(' :: '(' :: t =>
      match enclosed 0 none t with
      | some (expression, ')' :: s) => do
        let (parts, _) ← doubled none fuel expression
        return (.arithmetic parts quoted, s)
      | some (_, _ :: _) => script ('(' :: t)
      | _ => .error (.unfinished "Missing '))'")
    | '(' :: s => script s
    | '\x7b' :: s => braces quoted fuel s
    | c :: s =>
      if isNameStart c then
        let (name, s) := (c :: s).span isNameChar
        .ok (.parameter (Source.toOctets name) .value [] quoted, s)
      else if isSpecial c then .ok (.parameter (Source.toOctets [c]) .value [] quoted, s)
      else .ok (textPart ['$'] quoted, c :: s)
    | [] => .ok (textPart ['$'] quoted, [])

/-- A parameter between braces. -/
def braces (quoted : Bool) : Nat → Source → Reading (Part × Source)
  | 0, _ => .error tooDeep
  | fuel + 1, s =>
    let nameOf (s : Source) : Source × Source :=
      match s with
      | c :: rest =>
        if isNameStart c then s.span isNameChar
        else if c.isDigit then s.span Char.isDigit
        else if isSpecial c then ([c], rest)
        else ([], s)
      | [] => ([], [])
    let finish (name : Source) (use : Use) (s : Source) : Reading (Part × Source) := do
      let isPattern := match use with
        | .withoutStart _ | .withoutEnd _ => true
        | _ => false
      let (parts, s) ← if quoted && !isPattern then doubled (some '\x7d') fuel s else do
        let (parts, s) ← word true fuel s
        pure (parts, s.drop 1)
      return (.parameter (Source.toOctets name) use parts quoted, s)
    let simply (name : Source) (use : Use) (s : Source) : Reading (Part × Source) :=
      .ok (.parameter (Source.toOctets name) use [] quoted, s)
    match s with
    | '#' :: '\x7d' :: s => simply ['#'] .value s
    | '#' :: c :: rest =>
      match nameOf (c :: rest) with
      | (name, '\x7d' :: s) => if name.isEmpty then simply [] .bad s else simply name .length s
      | (_, s) => finish [] .bad s
    | s =>
      let (name, s) := nameOf s
      match name.isEmpty, s with
      | true, s => finish [] .bad s
      | _, '\x7d' :: s => simply name .value s
      | _, ':' :: '-' :: s => finish name (.orDefault true) s
      | _, ':' :: '=' :: s => finish name (.orAssign true) s
      | _, ':' :: '?' :: s => finish name (.orFail true) s
      | _, ':' :: '+' :: s => finish name (.ifSet true) s
      | _, ':' :: _ :: s => finish [] .bad s
      | _, '-' :: s => finish name (.orDefault false) s
      | _, '=' :: s => finish name (.orAssign false) s
      | _, '?' :: s => finish name (.orFail false) s
      | _, '+' :: s => finish name (.ifSet false) s
      | _, '#' :: '#' :: s => finish name (.withoutStart true) s
      | _, '#' :: s => finish name (.withoutStart false) s
      | _, '%' :: '%' :: s => finish name (.withoutEnd true) s
      | _, '%' :: s => finish name (.withoutEnd false) s
      | _, [] => .error (.unfinished "Missing '\x7d'")
      | _, _ :: s => finish [] .bad s

end

/-! ### Commands -/

/-- What surrounds a text: the number of its last line, by which the line of a place is counted, whether
more of it may come, and the texts that names of commands stand for. -/
structure Context where
  lastLine : Nat
  isOpen : Bool := false
  aliases : List (Source × Source) := []

def Context.line (ctx : Context) (s : Source) : Nat := ctx.lastLine - s.count '\n'

/-- The plain word at the front, if the text goes on with one. -/
def leading (s : Source) : Source × Source :=
  let (w, rest) := s.span fun c => !isMeta c && c != '\'' && c != '"' && c != '\\' && c != '$' && c != '`'
  match rest with
  | [] => (w, [])
  | c :: _ => if isMeta c then (w, rest) else ([], s)

def closingWords : List String := ["then", "else", "elif", "fi", "do", "done", "esac", "\x7d"]

/-- The words that have a meaning of their own in front of a command. -/
def reservedWords : List String := closingWords ++ ["!", "\x7b", "if", "while", "until", "for", "case", "in"]

/-- The text with the name at its front replaced by what it stands for. -/
def unalias (aliases : List (Source × Source)) (s : Source) : Source :=
  let s := skipBlanks s
  let (w, rest) := leading s
  match aliases.find? (·.1 == w) with
  | some (_, text) => text ++ rest
  | none => s

/-- The token at the front, as messages name it. -/
def token (s : Source) : String :=
  match s with
  | [] => "end of file"
  | '\n' :: _ => "newline"
  | ';' :: ';' :: _ => "\";;\""
  | '&' :: '&' :: _ => "\"&&\""
  | '|' :: '|' :: _ => "\"||\""
  | '<' :: _ | '>' :: _ => "redirection"
  | c :: _ =>
    if isMeta c then "\"" ++ c.toString ++ "\""
    else
      let w := String.ofList (leading s).1
      if closingWords.contains w then "\"" ++ w ++ "\"" else "word"

def refuse {α : Type} (ctx : Context) (s : Source) (expected : Option String) : Reading α :=
  match s with
  | [] => .error (.unfinished ("end of file unexpected"
      ++ (expected.map fun e => " (expecting " ++ e ++ ")").getD ""))
  | _ => .error (.unexpected (ctx.line s) (token s) expected)

/-- Whether a list of commands ends here. -/
def isClosed (s : Source) : Bool :=
  match s with
  | [] | ')' :: _ | ';' :: ';' :: _ => true
  | _ => closingWords.contains (String.ofList (leading s).1)

/-- Takes a reserved word. -/
def expect (ctx : Context) (fuel : Nat) (w : String) (s : Source) : Reading Source :=
  let s := skipLines fuel s
  let (found, rest) := leading s
  if found == w.toList then .ok rest else refuse ctx s (some ("\"" ++ w ++ "\""))

/-- The plain text of a word, and whether any of it is quoted. -/
def plainText (w : Word) : Octets × Bool :=
  w.foldl (fun (text, quoted) part => match part with
    | .text t q => (text ++ t, quoted || q)
    | _ => (text, quoted)) ([], false)

/-- The text of a word without expansions. -/
def fixed? (w : Word) : Option Octets :=
  w.foldlM (fun text part => match part with
    | .text t _ => some (text ++ t)
    | _ => none) []

/-- Whether a text says which descriptor is meant: one digit, or a dash for none. -/
def isDescriptor (t : Octets) : Bool :=
  match t with
  | [b] => b == 45 || (48 ≤ b && b ≤ 57)
  | _ => false

/-- A redirection, if the text goes on with one. -/
def redirect? (ctx : Context) (fuel : Nat) (s : Source) : Reading (Option (Redirect × Source)) := do
  let (digits, rest) := s.span Char.isDigit
  let given := (Octets.decimal? (Source.toOctets digits))
  let target (standard : Nat) (direction : Direction) (s : Source) :
      Reading (Option (Redirect × Source)) := do
    let s := skipBlanks s
    let (w, left) ← word false fuel s
    if w.isEmpty then refuse ctx s none
    return some (⟨given.getD standard, direction, w⟩, left)
  let here (strip : Bool) (s : Source) : Reading (Option (Redirect × Source)) := do
    let s := skipBlanks s
    let (w, left) ← word false fuel s
    if w.isEmpty then refuse ctx s none
    let (delimiter, quoted) := plainText w
    let (line, more) := left.span (· != '\n')
    let (body, after?) := hereLines (Source.ofOctets delimiter) strip fuel (more.drop 1)
    if after?.isNone && ctx.isOpen then throw tooDeep
    let parts ← if quoted then pure [textPart body true] else do
      let (parts, _) ← doubled none fuel body
      pure parts
    return some (⟨given.getD 0, .text, parts⟩, line ++ '\n' :: after?.getD [])
  match rest with
  | '<' :: '<' :: '-' :: s => here true s
  | '<' :: '<' :: s => here false s
  | '<' :: '&' :: s => target 0 .duplicate s
  | '<' :: '>' :: s => target 0 .both s
  | '<' :: s => target 0 .input s
  | '>' :: '>' :: s => target 1 .append s
  | '>' :: '&' :: s => target 1 .duplicate s
  | '>' :: '|' :: s => target 1 .overwrite s
  | '>' :: s => target 1 .output s
  | _ => return none

/-- The redirections behind a compound command. -/
def redirects (ctx : Context) : Nat → Source → Reading (List Redirect × Source)
  | 0, s => .ok ([], s)
  | fuel + 1, s => do
    match ← redirect? ctx fuel (skipBlanks s) with
    | none => return ([], s)
    | some (r, s) =>
      let (rs, s) ← redirects ctx fuel s
      return (r :: rs, s)

/-- Name and value of a word that is an assignment. -/
def assignment? (w : Word) : Option (Octets × Word) :=
  match w with
  | .text t false :: rest =>
    match (Source.ofOctets t).span (· != '=') with
    | (name, _ :: value) =>
      if isName name then
        some (Source.toOctets name, if value.isEmpty then rest else textPart value false :: rest)
      else none
    | _ => none
  | _ => none

/-- Words up to the end of a list of words. -/
def words : Nat → Source → Reading (List Word × Source)
  | 0, s => .ok ([], s)
  | fuel + 1, s => do
    let s := skipBlanks s
    match s with
    | [] => return ([], [])
    | c :: _ =>
      if isMeta c then return ([], s)
      let (w, s) ← word false fuel s
      let (ws, s) ← words fuel s
      return (w :: ws, s)

/-- The patterns of a case arm, up to the closing parenthesis. -/
def patterns (ctx : Context) : Nat → Source → Reading (List Word × Source)
  | 0, _ => .error tooDeep
  | fuel + 1, s => do
    let (w, s) ← word false fuel (skipBlanks s)
    match skipBlanks s with
    | '|' :: s =>
      let (ws, s) ← patterns ctx fuel s
      return (w :: ws, s)
    | ')' :: s => return ([w], s)
    | s => refuse ctx s (some "\")\"")

/-- Commands one after another. -/
def inSequence : List Command → Command
  | [] => .nothing
  | [c] => c
  | c :: cs => .sequence c (inSequence cs)

mutual

/-- Commands up to a closing word. -/
def commands (ctx : Context) : Nat → Source → Reading (List Command × Source)
  | 0, _ => .error tooDeep
  | fuel + 1, s => do
    let s := skipLines fuel s
    if isClosed s then return ([], s)
    let (c, s) ← andOr ctx fuel s
    match skipBlanks s with
    | ';' :: ';' :: s => return ([c], ';' :: ';' :: s)
    | ';' :: s | '\n' :: s =>
      let (cs, s) ← commands ctx fuel s
      return (c :: cs, s)
    | '&' :: s =>
      let (cs, s) ← commands ctx fuel s
      return (.background c :: cs, s)
    | s => if isClosed s then return ([c], s) else refuse ctx s none

/-- Commands of which there has to be one, unless the text ends. -/
def body (ctx : Context) : Nat → Source → Reading (Command × Source)
  | 0, _ => .error tooDeep
  | fuel + 1, s => do
    let (cs, s) ← commands ctx fuel s
    let s := skipLines fuel s
    if cs.isEmpty && !s.isEmpty then refuse ctx s none
    return (inSequence cs, s)

/-- Pipelines joined by `&&` and `||`. -/
def andOr (ctx : Context) : Nat → Source → Reading (Command × Source)
  | 0, _ => .error tooDeep
  | fuel + 1, s => do
    let (c, s) ← pipeline ctx fuel s
    andOrRest ctx c fuel s

def andOrRest (ctx : Context) (first : Command) : Nat → Source → Reading (Command × Source)
  | 0, _ => .error tooDeep
  | fuel + 1, s => do
    match skipBlanks s with
    | '&' :: '&' :: s =>
      let (c, s) ← pipeline ctx fuel (skipLines fuel s)
      andOrRest ctx (.both first c) fuel s
    | '|' :: '|' :: s =>
      let (c, s) ← pipeline ctx fuel (skipLines fuel s)
      andOrRest ctx (.either first c) fuel s
    | s => return (first, s)

/-- Commands joined by pipes. -/
def pipeline (ctx : Context) : Nat → Source → Reading (Command × Source)
  | 0, _ => .error tooDeep
  | fuel + 1, s => do
    let s := skipBlanks s
    let (w, rest) := leading s
    let negated := w == ['!']
    let (stages, s) ← stages ctx fuel (if negated then rest else s)
    match negated, stages with
    | false, [c] => return (c, s)
    | _, _ => return (.pipeline negated stages, s)

def stages (ctx : Context) : Nat → Source → Reading (List Command × Source)
  | 0, _ => .error tooDeep
  | fuel + 1, s => do
    let (c, s) ← command ctx fuel (skipBlanks s)
    match skipBlanks s with
    | '|' :: '|' :: s => return ([c], '|' :: '|' :: s)
    | '|' :: s =>
      let (cs, s) ← stages ctx fuel (skipLines fuel s)
      return (c :: cs, s)
    | s => return ([c], s)

/-- One command with its redirections. A name that stands for a text is replaced by it first. -/
def command (ctx : Context) : Nat → Source → Reading (Command × Source)
  | 0, _ => .error tooDeep
  | fuel + 1, s => do
    let withRedirects (c : Command) (s : Source) : Reading (Command × Source) := do
      let (rs, s) ← redirects ctx fuel s
      return (if rs.isEmpty then c else .redirected c rs, s)
    match s with
    | '(' :: s =>
      let (c, s) ← body ctx fuel s
      match skipBlanks s with
      | ')' :: s => withRedirects (.subshell c) s
      | s => refuse ctx s (some "\")\"")
    | _ =>
      let (w, rest) := leading s
      if !reservedWords.contains (String.ofList w) then
        if let some (_, text) := ctx.aliases.find? (·.1 == w) then
          let left := ctx.aliases.filter (·.1 != w)
          let rest := if text.getLast?.any isBlank then unalias left rest else rest
          return ← command { ctx with aliases := left } fuel (skipBlanks (text ++ rest))
      match String.ofList w with
      | "\x7b" =>
        let (c, s) ← body ctx fuel rest
        let s ← expect ctx fuel "\x7d" s
        withRedirects c s
      | "if" =>
        let (c, s) ← choice ctx fuel rest
        withRedirects c s
      | "while" =>
        let (condition, s) ← body ctx fuel rest
        let (c, s) ← loopBody ctx fuel s
        withRedirects (.loop false condition c) s
      | "until" =>
        let (condition, s) ← body ctx fuel rest
        let (c, s) ← loopBody ctx fuel s
        withRedirects (.loop true condition c) s
      | "for" =>
        let (name, s) := leading (skipBlanks rest)
        if !isName name then .error (.refused (ctx.line s) "Bad for loop variable")
        let s := skipLines fuel s
        let (next, after) := leading s
        if next == "in".toList then
          let (ws, s) ← words fuel after
          match skipBlanks s with
          | ';' :: s | '\n' :: s =>
            let (c, s) ← loopBody ctx fuel s
            withRedirects (.each (Source.toOctets name) (some ws) c) s
          | s => refuse ctx s none
        else
          let s := match skipBlanks s with
            | ';' :: s => s
            | s => s
          let (c, s) ← loopBody ctx fuel s
          withRedirects (.each (Source.toOctets name) none c) s
      | "case" =>
        let (w, s) ← word false fuel (skipBlanks rest)
        let s ← expect ctx fuel "in" s
        let (arms, s) ← arms ctx fuel s
        withRedirects (.select w arms) s
      | name =>
        if closingWords.contains name then refuse ctx s none
        else
          let (front, behind) := w.span (· != '=')
          let isAssignment := isName front && !behind.isEmpty
          match w, skipBlanks rest with
          | _ :: _, '(' :: s =>
            if isAssignment then refuse ctx ('(' :: s) none
            match skipBlanks s with
            | ')' :: s =>
              if !isName w || specialCommands.contains name then
                .error (.refused (ctx.line s) "Bad function name")
              let (c, s) ← command ctx fuel (skipLines fuel s)
              return (.define (Source.toOctets w) c, s)
            | s => refuse ctx s (some "\")\"")
          | _, _ => simple ctx (ctx.line s) [] [] [] fuel s

/-- The words, assignments and redirections of a simple command. -/
def simple (ctx : Context) (line : Nat) (assignments : List (Octets × Word)) (found : List Word)
    (rs : List Redirect) : Nat → Source → Reading (Command × Source)
  | 0, _ => .error tooDeep
  | fuel + 1, s => do
    let s := skipBlanks s
    match ← redirect? ctx fuel s with
    | some (r, s) => simple ctx line assignments found (rs ++ [r]) fuel s
    | none =>
      let ends := match s with
        | [] => true
        | c :: _ => isMeta c
      if ends then
        if assignments.isEmpty && found.isEmpty && rs.isEmpty then refuse ctx s none
        return (.simple line assignments found rs, s)
      let (w, s) ← word false fuel s
      match if found.isEmpty then assignment? w else none with
      | some a => simple ctx line (assignments ++ [a]) found rs fuel s
      | none => simple ctx line assignments (found ++ [w]) rs fuel s

/-- The rest of a conditional after its first word. -/
def choice (ctx : Context) : Nat → Source → Reading (Command × Source)
  | 0, _ => .error tooDeep
  | fuel + 1, s => do
    let (condition, s) ← body ctx fuel s
    let s ← expect ctx fuel "then" s
    let (yes, s) ← body ctx fuel s
    let s := skipLines fuel s
    let (w, rest) := leading s
    match String.ofList w with
    | "elif" =>
      let (no, s) ← choice ctx fuel rest
      return (.choice condition yes no, s)
    | "else" =>
      let (no, s) ← body ctx fuel rest
      let s ← expect ctx fuel "fi" s
      return (.choice condition yes no, s)
    | _ =>
      let s ← expect ctx fuel "fi" s
      return (.choice condition yes .nothing, s)

/-- The commands between `do` and `done`. -/
def loopBody (ctx : Context) : Nat → Source → Reading (Command × Source)
  | 0, _ => .error tooDeep
  | fuel + 1, s => do
    let s ← expect ctx fuel "do" s
    let (c, s) ← body ctx fuel s
    let s ← expect ctx fuel "done" s
    return (c, s)

/-- The arms of a selection, up to its last word. -/
def arms (ctx : Context) : Nat → Source → Reading (List (List Word × Command) × Source)
  | 0, _ => .error tooDeep
  | fuel + 1, s => do
    let s := skipLines fuel s
    let (w, rest) := leading s
    if w == "esac".toList then return ([], rest)
    let s := match s with
      | '(' :: s => s
      | s => s
    let (ps, s) ← patterns ctx fuel s
    let (cs, s) ← commands ctx fuel s
    let s := skipLines fuel s
    let s ← match s with
      | ';' :: ';' :: s => pure s
      | s => if (leading s).1 == "esac".toList then pure s else refuse ctx s (some "\";;\"")
    let (more, s) ← arms ctx fuel s
    return ((ps, inSequence cs) :: more, s)

end

/-- The commands up to the end of a line; an and-or list may go on behind it. -/
def line (ctx : Context) : Nat → Source → Reading (List Command × Source)
  | 0, _ => .error tooDeep
  | fuel + 1, s => do
    let (c, s) ← andOr ctx fuel s
    match skipBlanks s with
    | ';' :: ';' :: s => refuse ctx (';' :: ';' :: s) none
    | ';' :: s => more c s fuel
    | '&' :: s => more (.background c) s fuel
    | '\n' :: s => return ([c], s)
    | [] => return ([c], [])
    | s => refuse ctx s none
where
  more (c : Command) (s : Source) (fuel : Nat) : Reading (List Command × Source) := do
    match skipBlanks s with
    | '\n' :: s => return ([c], s)
    | [] => return ([c], [])
    | s =>
      let (cs, s) ← line ctx fuel s
      return (c :: cs, s)

end Reader

/-- The next line of commands of a text that starts at the given line, and the text behind it; `none`
when only blanks and comments are left. Of an open text more may come. -/
def nextCommand (startLine : Nat) (text : Source) (aliases : List (Source × Source) := [])
    (isOpen : Bool := false) : Reading (Option (Command × Source)) := do
  let spare := (aliases.map fun e => e.2.length + 1).foldl (· + ·) 0
  let fuel := 8 * (text.length + spare) + 32
  let ctx : Reader.Context := { lastLine := startLine + text.count '\n', isOpen, aliases }
  match Reader.skipLines fuel text with
  | [] => return none
  | s =>
    let (cs, rest) ← Reader.line ctx fuel s
    return some (Reader.inSequence cs, rest)

end PseudoTerminal.Shell
