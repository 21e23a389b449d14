import PseudoTerminal.Toml.Value

/-! The lexical grammar of TOML: blanks, keys, strings, numbers, dates and times. A reader takes what
is left of the text and gives a value with what is left after it, or nothing when the text does not
start with such a value. -/

namespace PseudoTerminal.Toml

abbrev Text := List Char

/-- A reader of one value. -/
abbrev Reader (α : Type) := Text → Option (α × Text)

/-! ### Blanks and lines -/

def isBlank (c : Char) : Bool := c == ' ' || c == '\t'

def skipBlanks (cs : Text) : Text := cs.dropWhile isBlank

/-- A line feed, or a carriage return with a line feed. -/
def lineBreak? : Text → Option Text
  | '\n' :: cs => some cs
  | '\r' :: '\n' :: cs => some cs
  | _ => none

/-- Characters that a comment may hold: no control but the tab. -/
def isCommentChar (c : Char) : Bool := c == '\t' || (' ' ≤ c && c != '\x7f')

/-- What follows the blanks and the comment at the end of a line. -/
def skipComment (cs : Text) : Text :=
  match skipBlanks cs with
  | '#' :: rest => rest.dropWhile isCommentChar
  | rest => rest

/-- The end of a line, with blanks and a comment before it. -/
def endOfLine? (cs : Text) : Option Text :=
  match skipComment cs with
  | [] => some []
  | rest => lineBreak? rest

/-- Blanks, comments and line breaks between the items of an array. -/
def skipLines : Nat → Text → Text
  | 0, cs => cs
  | fuel + 1, cs =>
    match lineBreak? (skipComment cs) with
    | some rest => skipLines fuel rest
    | none => skipComment cs

/-! ### Digits -/

def digitBelow? (base : Nat) (c : Char) : Option Nat :=
  let n := c.toNat
  let v := if '0' ≤ c ∧ c ≤ '9' then some (n - 48)
    else if 'a' ≤ c ∧ c ≤ 'f' then some (n - 87)
    else if 'A' ≤ c ∧ c ≤ 'F' then some (n - 55)
    else none
  v.filter (· < base)

/-- Digits with single underscores between them, as a number, how many there are, and the rest. -/
def digitRun (base : Nat) : Nat → Nat → Text → Option (Nat × Nat × Text)
  | n, count, c :: cs =>
    match digitBelow? base c with
    | some d => digitRun base (n * base + d) (count + 1) cs
    | none =>
      if c = '_' ∧ count ≠ 0 then
        match cs with
        | d :: rest =>
          match digitBelow? base d with
          | some v => digitRun base (n * base + v) (count + 1) rest
          | none => none
        | [] => none
      else some (n, count, c :: cs)
  | n, count, [] => some (n, count, [])

/-- At least one digit. -/
def digits? (base : Nat) (cs : Text) : Option (Nat × Nat × Text) :=
  (digitRun base 0 0 cs).filter fun (_, count, _) => count ≠ 0

/-- Exactly `k` decimal digits. -/
def fixedDigits? : Nat → Reader Nat
  | 0, cs => some (0, cs)
  | k + 1, c :: cs => do
    let d ← digitBelow? 10 c
    let (n, rest) ← fixedDigits? k cs
    return (d * Nat.pow 10 k + n, rest)
  | _ + 1, [] => none

/-! ### Strings -/

/-- Characters that a string may hold as they are, apart from its quote and the backslash. -/
def isPlain (c : Char) : Bool := c == '\t' || (' ' ≤ c && c != '\x7f')

/-- The character of `count` hexadecimal digits. -/
def hexChar? (count : Nat) (cs : Text) : Option (Char × Text) := do
  let ds := cs.take count
  if ds.length ≠ count then none else
  let n ← ds.foldlM (fun n c => (digitBelow? 16 c).map (n * 16 + ·)) 0
  if n < 0xD800 ∨ 0xDFFF < n ∧ n < 0x110000 then some (Char.ofNat n, cs.drop count) else none

/-- The character of an escape, after its backslash. -/
def escape? : Reader Char
  | 'b' :: cs => some ('\x08', cs)
  | 't' :: cs => some ('\t', cs)
  | 'n' :: cs => some ('\n', cs)
  | 'f' :: cs => some ('\x0c', cs)
  | 'r' :: cs => some ('\r', cs)
  | '"' :: cs => some ('"', cs)
  | '\\' :: cs => some ('\\', cs)
  | 'u' :: cs => hexChar? 4 cs
  | 'U' :: cs => hexChar? 8 cs
  | _ => none

/-- A basic string after its opening quote. -/
def basic? : Nat → Reader Text
  | 0, _ => none
  | _ + 1, [] => none
  | _ + 1, '"' :: cs => some ([], cs)
  | fuel + 1, '\\' :: cs => do
    let (c, rest) ← escape? cs
    let (tail, rest) ← basic? fuel rest
    return (c :: tail, rest)
  | fuel + 1, c :: cs =>
    if isPlain c then (basic? fuel cs).map fun (tail, rest) => (c :: tail, rest) else none

/-- A literal string after its opening quote. -/
def literal? : Reader Text
  | [] => none
  | '\'' :: cs => some ([], cs)
  | c :: cs => if isPlain c then (literal? cs).map fun (tail, rest) => (c :: tail, rest) else none

/-- The closing quotes of a multi-line string: three, with up to two more before them that belong to
the string. -/
def closing? (quote : Char) (cs : Text) : Option (Text × Text) :=
  let n := (cs.takeWhile (· == quote)).length
  if n < 3 then none
  else
    let extra := min (n - 3) 2
    some (List.replicate extra quote, cs.drop (extra + 3))

/-- A multi-line basic string after its opening quotes and the line break behind them. A backslash at
the end of a line joins it to the next text. -/
def basicLines? : Nat → Reader Text
  | 0, _ => none
  | fuel + 1, cs =>
    match closing? '"' cs with
    | some (extra, rest) => some (extra, rest)
    | none =>
      match lineBreak? cs with
      | some rest => (basicLines? fuel rest).map fun (tail, rest) => ('\n' :: tail, rest)
      | none =>
        match cs with
        | [] => none
        | '\\' :: rest =>
          match lineBreak? (skipBlanks rest) with
          | some rest =>
            let joined := (rest.length + 1).fold (fun _ _ cs =>
              (lineBreak? (skipBlanks cs)).getD (skipBlanks cs)) rest
            basicLines? fuel joined
          | none => do
            let (c, rest) ← escape? rest
            let (tail, rest) ← basicLines? fuel rest
            return (c :: tail, rest)
        | c :: rest =>
          if isPlain c then (basicLines? fuel rest).map fun (tail, rest) => (c :: tail, rest) else none

/-- A multi-line literal string after its opening quotes and the line break behind them. -/
def literalLines? : Nat → Reader Text
  | 0, _ => none
  | fuel + 1, cs =>
    match closing? '\'' cs with
    | some (extra, rest) => some (extra, rest)
    | none =>
      match lineBreak? cs with
      | some rest => (literalLines? fuel rest).map fun (tail, rest) => ('\n' :: tail, rest)
      | none =>
        match cs with
        | [] => none
        | c :: rest =>
          if isPlain c then (literalLines? fuel rest).map fun (tail, rest) => (c :: tail, rest)
          else none

/-- A string of any of the four kinds. -/
def string? (cs : Text) : Option (String × Text) :=
  let result := match cs with
    | '"' :: '"' :: '"' :: rest => basicLines? (rest.length + 1) ((lineBreak? rest).getD rest)
    | '\'' :: '\'' :: '\'' :: rest => literalLines? (rest.length + 1) ((lineBreak? rest).getD rest)
    | '"' :: rest => basic? (rest.length + 1) rest
    | '\'' :: rest => literal? rest
    | _ => none
  result.map fun (text, rest) => (String.ofList text, rest)

/-! ### Keys -/

def isBareKeyChar (c : Char) : Bool := c.isAlphanum || c == '_' || c == '-'

/-- A bare key, or a quoted one on one line. -/
def simpleKey? (cs : Text) : Option (String × Text) :=
  match cs with
  | '"' :: rest => (basic? (rest.length + 1) rest).map fun (text, rest) => (String.ofList text, rest)
  | '\'' :: rest => (literal? rest).map fun (text, rest) => (String.ofList text, rest)
  | _ =>
    let key := cs.takeWhile isBareKeyChar
    if key.isEmpty then none else some (String.ofList key, cs.dropWhile isBareKeyChar)

/-- How deep arrays, inline tables and dotted keys may go. -/
def depthLimit : Nat := 80

/-- Keys with dots between them, and blanks around each. -/
def dottedKey? : Nat → Reader (List String)
  | 0, _ => none
  | fuel + 1, cs => do
    let (key, rest) ← simpleKey? (skipBlanks cs)
    match skipBlanks rest with
    | '.' :: rest =>
      let (keys, rest) ← dottedKey? fuel rest
      return (key :: keys, rest)
    | rest => return ([key], rest)

/-- The path and the last key of a dotted key. -/
def keyPath? (cs : Text) : Option ((List String × String) × Text) := do
  let (keys, rest) ← dottedKey? (depthLimit - 1) cs
  let last ← keys.getLast?
  return ((keys.dropLast, last), rest)

/-! ### Numbers -/

/-- An optional sign, true for minus. -/
def sign : Text → Bool × Text
  | '-' :: cs => (true, cs)
  | '+' :: cs => (false, cs)
  | cs => (false, cs)

/-- Decimal digits without a leading zero, unless zero is all. -/
def decimal? (cs : Text) : Option (Nat × Text) :=
  match cs with
  | '0' :: rest => some (0, rest)
  | _ => (digits? 10 cs).map fun (n, _, rest) => (n, rest)

/-- A 64-bit integer. -/
def bounded? (n : Int) : Option Int := if -Int.pow 2 63 ≤ n ∧ n < Int.pow 2 63 then some n else none

def integer? (cs : Text) : Option (Int × Text) := do
  let (n, rest) ← match cs with
    | '0' :: 'x' :: rest => (digits? 16 rest).map fun (n, _, rest) => ((n : Int), rest)
    | '0' :: 'o' :: rest => (digits? 8 rest).map fun (n, _, rest) => ((n : Int), rest)
    | '0' :: 'b' :: rest => (digits? 2 rest).map fun (n, _, rest) => ((n : Int), rest)
    | _ =>
      let (negative, rest) := sign cs
      (decimal? rest).map fun (n, rest) => (if negative then -(n : Int) else n, rest)
  let n ← bounded? n
  return (n, rest)

/-- Whether `digits × 10 ^ exponent` rounds to a finite binary number of 64 bits. Far from the limit
the number of digits decides. -/
def isFinite (digits : Nat) (exponent : Int) : Bool :=
  let count := (Nat.toDigits 10 digits).length
  if digits = 0 ∨ count + exponent ≤ 308 then true
  else if 310 ≤ count + exponent then false
  else if 0 ≤ exponent then digits * Nat.pow 10 exponent.toNat < Nat.pow 2 1024 - Nat.pow 2 970
  else digits < (Nat.pow 2 1024 - Nat.pow 2 970) * Nat.pow 10 (-exponent).toNat

/-- The exponent of a number in scientific notation. -/
def exponent? : Text → Option (Int × Text)
  | c :: cs =>
    if c = 'e' ∨ c = 'E' then do
      let (negative, rest) := sign cs
      let (n, _, rest) ← digits? 10 rest
      return (if negative then -(n : Int) else n, rest)
    else none
  | [] => none

/-- A number with a fraction, an exponent or both, or an infinity or not-a-number. A finite one must
not round to infinity. -/
def float? (cs : Text) : Option Text := do
  let (negative, rest) := sign cs
  match rest with
  | 'i' :: 'n' :: 'f' :: rest => return rest
  | 'n' :: 'a' :: 'n' :: rest => return rest
  | _ =>
    let (whole, after) ← decimal? rest
    match after with
    | '.' :: frac =>
      let (part, count, rest) ← digits? 10 frac
      let digits := whole * Nat.pow 10 count + part
      let (e, rest) ← match rest with
        | c :: _ => if c = 'e' ∨ c = 'E' then exponent? rest else some ((0 : Int), rest)
        | [] => some ((0 : Int), [])
      if negative || isFinite digits (e - count) then return rest else none
    | _ =>
      let (e, rest) ← exponent? after
      if negative || isFinite whole e then return rest else none

/-! ### Dates and times -/

def daysInMonth (year month : Nat) : Nat :=
  if month = 2 then
    if year % 4 = 0 ∧ (year % 100 ≠ 0 ∨ year % 400 = 0) then 29 else 28
  else if month = 4 ∨ month = 6 ∨ month = 9 ∨ month = 11 then 30
  else 31

/-- A character that has to come next. -/
def expect (c : Char) : Text → Option Text
  | d :: cs => if d = c then some cs else none
  | [] => none

def date? (cs : Text) : Option Text := do
  let (year, rest) ← fixedDigits? 4 cs
  let (month, rest) ← fixedDigits? 2 (← expect '-' rest)
  let (day, rest) ← fixedDigits? 2 (← expect '-' rest)
  if 1 ≤ month ∧ month ≤ 12 ∧ 1 ≤ day ∧ day ≤ daysInMonth year month then some rest else none

/-- Hours, minutes and seconds, with an optional fraction of a second. -/
def time? (cs : Text) : Option Text := do
  let (hour, rest) ← fixedDigits? 2 cs
  let (minute, rest) ← fixedDigits? 2 (← expect ':' rest)
  let (second, rest) ← fixedDigits? 2 (← expect ':' rest)
  if hour ≤ 23 ∧ minute ≤ 59 ∧ second ≤ 60 then
    match rest with
    | '.' :: frac =>
      let ds := frac.takeWhile Char.isDigit
      if ds.isEmpty then some rest else some (frac.drop ds.length)
    | _ => some rest
  else none

/-- The distance from universal time, if one is given. -/
def offset (cs : Text) : Option Text :=
  match cs with
  | 'Z' :: rest => some rest
  | 'z' :: rest => some rest
  | '+' :: rest | '-' :: rest => do
    let (hour, rest) ← fixedDigits? 2 rest
    let (minute, rest) ← fixedDigits? 2 (← expect ':' rest)
    if hour ≤ 23 ∧ minute ≤ 59 then some rest else none
  | rest => some rest

/-- A date, a time, or a date with a time. -/
def dateTime? (cs : Text) : Option Text :=
  match date? cs with
  | none => time? cs
  | some rest =>
    match rest with
    | c :: after =>
      if c = 'T' ∨ c = 't' ∨ c = ' ' then
        match time? after with
        | some rest => offset rest
        | none => some rest
      else some rest
    | [] => some []

/-- A value that holds no other value. -/
def scalar? : Reader Value
  | [] => none
  | c :: cs =>
    if c = '"' ∨ c = '\'' then (string? (c :: cs)).map fun (s, rest) => (.string s, rest)
    else if c = 't' then
      match cs with
      | 'r' :: 'u' :: 'e' :: rest => some (.boolean true, rest)
      | _ => none
    else if c = 'f' then
      match cs with
      | 'a' :: 'l' :: 's' :: 'e' :: rest => some (.boolean false, rest)
      | _ => none
    else
      match dateTime? (c :: cs) with
      | some rest => some (.dateTime, rest)
      | none =>
        match float? (c :: cs) with
        | some rest => some (.float, rest)
        | none => (integer? (c :: cs)).map fun (n, rest) => (.integer n, rest)

end PseudoTerminal.Toml
