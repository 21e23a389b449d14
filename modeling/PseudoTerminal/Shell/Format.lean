import PseudoTerminal.Text.Scientific

/-! Text that `echo` and `printf` produce: escapes that start with a backslash, and a format whose
directives take the arguments in turn and start over while arguments are left. -/

namespace PseudoTerminal.Shell.Format

/-! ### Escapes -/

def isOctal (b : UInt8) : Bool := 48 ≤ b && b ≤ 55

/-- At most `n` octal digits at the front, as an octet, and what follows. -/
def octal (n : Nat) (s : Octets) : UInt8 × Octets :=
  let digits := (s.take n).takeWhile isOctal
  (digits.foldl (fun v d => v * 8 + (d - 48)) 0, s.drop digits.length)

/-- The octet that a letter after a backslash stands for. -/
def letter? (b : UInt8) : Option UInt8 :=
  [(97, 7), (98, 8), (101, 27), (102, 12), (110, 10), (114, 13), (116, 9), (118, 11), (92, 92)].lookup b

/-- Resolves the escapes of a text. `zeroLed` tells that an octal escape may have a zero in front of its
three digits. The flag tells that an escape asked to stop all output. -/
def escapes (zeroLed : Bool) : Nat → Octets → Octets × Bool
  | 0, _ => ([], false)
  | _ + 1, [] => ([], false)
  | fuel + 1, 92 :: b :: rest =>
    let go (out rest : Octets) : Octets × Bool :=
      let (more, stop) := escapes zeroLed fuel rest
      (out ++ more, stop)
    if b == 99 && zeroLed then ([], true)
    else if b == 48 && zeroLed then
      let (c, rest) := octal 3 rest
      go [c] rest
    else if isOctal b then
      let (c, rest) := octal 3 (b :: rest)
      go [c] rest
    else match letter? b with
      | some c => go [c] rest
      | none => go [92, b] rest
  | fuel + 1, b :: rest =>
    let (more, stop) := escapes zeroLed fuel rest
    (b :: more, stop)

/-- The text that `echo` prints. -/
def echo (args : List Octets) : Octets :=
  let (quiet, args) := match args with
    | [45, 110] :: rest => (true, rest)
    | args => (false, args)
  let text := Octets.joinWith 32 args
  let (out, stop) := escapes true (text.length + 1) text
  if quiet || stop then out else out ++ [10]

/-! ### Formats -/

/-- A directive of a format. -/
structure Directive where
  left : Bool := false
  plus : Bool := false
  space : Bool := false
  alternate : Bool := false
  zero : Bool := false
  width : Option Nat := none
  precision : Option Nat := none
  conversion : UInt8
  deriving Repr

inductive Piece
  | text (t : Octets)
  | directive (d : Directive)
  /-- A width or a precision is taken from the arguments. -/
  | starred (d : Directive) (width precision : Bool)
  /-- No directive, with the reason. -/
  | unknown (reason : Octets)
  deriving Repr

/-- Reads a directive behind its percent sign. -/
def directive (s : Octets) : Piece × Octets :=
  let flags := s.takeWhile fun b => [45, 43, 32, 35, 48].contains b
  let s := s.drop flags.length
  let (starWidth, width, s) := match s with
    | 42 :: s => (true, none, s)
    | s =>
      let ds := s.takeWhile fun b => 48 ≤ b && b ≤ 57
      (false, Octets.decimal? ds, s.drop ds.length)
  let (starPrecision, precision, s) := match s with
    | 46 :: 42 :: s => (true, none, s)
    | 46 :: s =>
      let ds := s.takeWhile fun b => 48 ≤ b && b ≤ 57
      (false, some ((Octets.decimal? ds).getD 0), s.drop ds.length)
    | s => (false, none, s)
  match s with
  | [] => (.unknown (Octets.ofString "missing format character"), [])
  | c :: rest =>
    let d : Directive := {
      left := flags.contains 45, plus := flags.contains 43, space := flags.contains 32
      alternate := flags.contains 35, zero := flags.contains 48, width, precision, conversion := c }
    if (Octets.ofString "diouxXcsbfFeEgG").contains c then
      (if starWidth || starPrecision then .starred d starWidth starPrecision else .directive d, rest)
    else (.unknown (37 :: c :: Octets.ofString ": invalid directive"), rest)

/-- The pieces of a format. -/
def pieces : Nat → Octets → List Piece
  | 0, _ => []
  | _ + 1, [] => []
  | fuel + 1, 37 :: 37 :: rest => .text [37] :: pieces fuel rest
  | fuel + 1, 37 :: rest =>
    let (p, rest) := directive rest
    p :: pieces fuel rest
  | fuel + 1, s =>
    let plain := s.takeWhile (· != 37)
    .text (escapes false (plain.length + 1) plain).1 :: pieces fuel (s.drop plain.length)

/-- Fills a field to its width. -/
def pad (d : Directive) (sign body : Octets) (numeric : Bool) : Octets :=
  let missing := d.width.getD 0 - (sign.length + body.length)
  if d.left then sign ++ body ++ List.replicate missing 32
  else if d.zero && numeric then sign ++ List.replicate missing 48 ++ body
  else List.replicate missing 32 ++ sign ++ body

/-- Why an argument is not a number as it should be, if so. -/
def complaint (arg rest : Octets) (tooLarge : Bool) : Option Octets :=
  if !rest.isEmpty then
    some (arg ++ Octets.ofString (if rest.length == arg.length then ": expected numeric value"
      else ": not completely converted"))
  else if tooLarge then some (arg ++ Octets.ofString ": Numerical result out of range")
  else none

/-- The number behind blanks and a sign. -/
def unsigned (s : Octets) : Bool × Octets :=
  match s.dropWhile fun b => b == 32 || 9 ≤ b && b ≤ 13 with
  | 45 :: s => (true, s)
  | 43 :: s => (false, s)
  | s => (false, s)

/-- The digits of a base at the front, as a number, and what follows them. -/
def digitsOf (base : Nat) (s : Octets) : Nat × Octets :=
  let taken := s.takeWhile fun b => (Octets.hexDigit? b).any (· < base)
  (taken.foldl (fun n b => n * base + (Octets.hexDigit? b).getD 0) 0, s.drop taken.length)

/-- The integer that an argument writes, cut to a range, and what is wrong with it. -/
def number (s : Octets) (least greatest : Int) : Int × Option Octets :=
  match s with
  | 39 :: rest | 34 :: rest => ((rest.headD 0).toNat, none)
  | _ =>
    let (negative, ds) := unsigned s
    let (n, rest) := match ds with
      | 48 :: 120 :: more | 48 :: 88 :: more =>
        if (more.head?.bind Octets.hexDigit?).isSome then digitsOf 16 more else (0, ds.drop 1)
      | 48 :: _ => digitsOf 8 ds
      | _ => digitsOf 10 ds
    let rest := if rest.length == ds.length then s else rest
    let n : Int := if negative then -(n : Int) else n
    (max least (min greatest n), complaint s rest (n < least || greatest < n))

def inBase (base n : Nat) : Octets := Octets.ofString (String.ofList (Nat.toDigits base n))

/-- The digits of a number with at least `precision` of them. -/
def digits (base n : Nat) (precision : Option Nat) : Octets :=
  let ds := if n = 0 && precision == some 0 then [] else inBase base n
  List.replicate (precision.getD 0 - ds.length) 48 ++ ds

def upper (b : UInt8) : UInt8 := if 97 ≤ b && b ≤ 122 then b - 32 else b

/-- The sign in front of a number. -/
def signOf (d : Directive) (negative : Bool) : Octets :=
  if negative then [45] else if d.plus then [43] else if d.space then [32] else []

/-- The text of a directive for a number that need not be whole, and what is wrong with the argument. -/
def convertScientific (d : Directive) (arg : Octets) : Octets × Option Octets :=
  let c := if d.conversion < 97 then d.conversion + 32 else d.conversion
  let letter : UInt8 := if d.conversion < 97 then 69 else 101
  let places := d.precision.getD 6
  let write (x : Scientific) : Octets :=
    if c == 102 then x.fixed places d.alternate
    else if c == 101 then x.exponential places letter d.alternate
    else x.general places letter d.alternate
  let (negative, ds) := unsigned arg
  let named := ["infinity", "inf", "nan"].find? fun w =>
    (Octets.ofString w).isPrefixOf (ds.map fun b => if 65 ≤ b && b ≤ 90 then b + 32 else b)
  match arg, named with
  | 39 :: rest, _ | 34 :: rest, _ =>
    (pad d (signOf d false) (write { digits := (rest.headD 0).toNat }) true, none)
  | _, some w =>
    let shown := Octets.ofString (if w == "nan" then w else "inf")
    (pad d (signOf d negative) (if d.conversion < 97 then shown.map upper else shown) false,
      complaint arg (ds.drop w.length) false)
  | _, none =>
    match Scientific.read? ds with
    | some (x, rest) => (pad d (signOf d negative) (write x) true, complaint arg rest false)
    | none => (pad d (signOf d false) (write { digits := 0 }) true, complaint arg arg false)

/-- The text of one directive for its argument, what is wrong with the argument, and whether all output
ends here. -/
def convert (d : Directive) (arg : Octets) : Octets × Option Octets × Bool :=
  let cut (s : Octets) : Octets := match d.precision with
    | some n => s.take n
    | none => s
  match Char.ofNat d.conversion.toNat with
  | 's' => (pad d [] (cut arg) false, none, false)
  | 'b' =>
    let (out, stop) := escapes true (arg.length + 1) arg
    (pad d [] (cut out) false, none, stop)
  | 'c' => (pad d [] [arg.headD 0] false, none, false)
  | 'd' | 'i' =>
    let (n, trouble) := number arg (-Int.pow 2 63) (Int.pow 2 63 - 1)
    (pad d (signOf d (n < 0)) (digits 10 n.natAbs d.precision) d.precision.isNone, trouble, false)
  | 'u' | 'o' | 'x' | 'X' =>
    let (n, trouble) := number arg (-(Int.pow 2 64 - 1)) (Int.pow 2 64 - 1)
    let n := (n % Int.pow 2 64).toNat
    let marked := d.alternate && n ≠ 0
    let (mark, body) : Octets × Octets := match Char.ofNat d.conversion.toNat with
      | 'o' => (if marked then [48] else [], digits 8 n d.precision)
      | 'x' => (if marked then [48, 120] else [], digits 16 n d.precision)
      | 'X' => (if marked then [48, 88] else [], (digits 16 n d.precision).map upper)
      | _ => ([], digits 10 n d.precision)
    (pad d mark body d.precision.isNone, trouble, false)
  | _ =>
    let (out, trouble) := convertScientific d arg
    (out, trouble, false)

/-- What a format prints. -/
structure Printed where
  out : Octets := []
  /-- What is wrong with arguments that should have been numbers. -/
  complaints : List Octets := []
  /-- What is wrong with a directive, which ended it. -/
  failure : Option Octets := none
  stopped : Bool := false

/-- One pass over a format: the text and the arguments that are left. -/
def pass (p : Printed) (args : List Octets) : List Piece → Printed × List Octets
  | [] => (p, args)
  | piece :: rest =>
    if p.stopped || p.failure.isSome then (p, args)
    else
      let apply (d : Directive) (args : List Octets) : Printed × List Octets :=
        let arg := args.headD []
        let (out, trouble, stopped) := convert d arg
        pass { p with out := p.out ++ out, complaints := p.complaints ++ trouble.toList, stopped }
          args.tail rest
      match piece with
      | .text t => pass { p with out := p.out ++ t } args rest
      | .unknown t => ({ p with failure := some t }, args)
      | .directive d => apply d args
      | .starred d width precision =>
        let limit := Nat.pow 2 31
        let w := (number (args.headD []) (-limit) limit).1
        let d := if width then { d with width := some w.natAbs, left := d.left || w < 0 } else d
        let args := if width then args.tail else args
        let n := (number (args.headD []) (-limit) limit).1
        let d := if precision then { d with precision := if n < 0 then none else some n.toNat } else d
        apply d (if precision then args.tail else args)

/-- Passes over a format as long as arguments are left and some are taken. -/
def passes (format : List Piece) : Nat → Printed → List Octets → Printed
  | 0, p, _ => p
  | fuel + 1, p, args =>
    let (p, left) := pass p args format
    if left.isEmpty || left.length == args.length || p.stopped || p.failure.isSome then p
    else passes format fuel p left

/-- What `printf` prints for a format and its arguments. -/
def printf (format : Octets) (args : List Octets) : Printed :=
  passes (pieces (format.length + 1) format) (args.length + 1) {} args

end PseudoTerminal.Shell.Format
