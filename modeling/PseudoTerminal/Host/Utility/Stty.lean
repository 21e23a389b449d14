import PseudoTerminal.Host.Utility.Basic
import PseudoTerminal.Terminal.Mode

/-! The program that shows and changes the settings of the terminal it reads from. All its words are
read before any of them takes effect. -/

namespace PseudoTerminal.Host.Utility

open Terminal (Settings Mode ModeGroup ControlOctet)

namespace Stty

/-! ### Listing -/

/-- Words set in lines of a given width: the finished text and the length of the last line. -/
structure Layout where
  width : Nat
  text : String := ""
  column : Nat := 0

namespace Layout

/-- Adds a word, on a new line if this one has no room for it. -/
def add (l : Layout) (word : String) : Layout :=
  if l.column = 0 then { l with text := l.text ++ word, column := word.length }
  else if l.width ≤ l.column + word.length then
    { l with text := l.text ++ "\n" ++ word, column := word.length }
  else { l with text := l.text ++ " " ++ word, column := l.column + 1 + word.length }

/-- Ends the line. -/
def endLine (l : Layout) : Layout := { l with text := l.text ++ "\n", column := 0 }

/-- Ends the line unless nothing is on it. -/
def endWords (l : Layout) : Layout := if l.column = 0 then l else l.endLine

end Layout

/-- A control octet as it is shown. -/
def visible (b : UInt8) : String :=
  let shown (n : Nat) : String :=
    if n = 127 then "^?" else if n < 32 then "^" ++ String.singleton (Char.ofNat (n + 64))
    else String.singleton (Char.ofNat n)
  if b = 0 then "<undef>" else if b < 128 then shown b.toNat else "M-" ++ shown (b.toNat - 128)

def keyEntry (s : Settings) (c : ControlOctet) : String :=
  c.word ++ " = " ++ visible (c.get s) ++ ";"

def amountEntry (s : Settings) : String :=
  "min = " ++ toString s.minimum ++ "; time = " ++ toString s.time ++ ";"

def speedEntry (s : Settings) : String := "speed " ++ toString s.speed ++ " baud;"

def lineEntry (s : Settings) : String := "line = " ++ toString s.lineNumber ++ ";"

/-- Every mode, in a paragraph for each group. -/
def listing (s : Settings) (size : WindowSize) (width : Nat) : String :=
  let rows := "rows " ++ toString size.rows ++ "; columns " ++ toString size.cols ++ ";"
  let l := (((({ width } : Layout).add (speedEntry s)).add rows).add (lineEntry s)).endLine
  let l := ControlOctet.keys.foldl (fun l c => l.add (keyEntry s c)) l
  let l := (l.add (amountEntry s)).endLine
  let shown (m : Mode) : Option String :=
    if m.holds s then some m.word else if m.canBeOff then some ("-" ++ m.word) else none
  let l := [ModeGroup.hardware, .input, .output, .handling].foldl (fun l group =>
    ((Mode.listed.filter (·.group == group)).filterMap shown |>.foldl Layout.add l).endLine) l
  l.text

/-- What differs from the usual. -/
def differences (s : Settings) (width : Nat) : String :=
  let l := ((({ width } : Layout).add (speedEntry s)).add (lineEntry s)).endLine
  let unusual := ControlOctet.keys.filter fun c => c.get s != c.usual
  let l := unusual.foldl (fun l c => l.add (keyEntry s c)) l
  let l := (if s.icanon then l else l.add (amountEntry s)).endWords
  let shown (m : Mode) : Option String :=
    if m.holds s then if m.sane == some false then some m.word else none
    else if m.sane == some true && m.canBeOff then some ("-" ++ m.word) else none
  let l := [ModeGroup.hardware, .input, .output, .handling].foldl (fun l group =>
    ((Mode.listed.filter (·.group == group)).filterMap shown |>.foldl Layout.add l).endWords) l
  l.text

/-! ### Words -/

/-- Why words are refused. -/
inductive Refusal
  | unknown (word : Octets)
  | missing (word : Octets)
  /-- No number, or one that is too large, with the reason. -/
  | number (word : Octets) (reason : String)
  | speed (kind : String) (word : Octets)
  | styles
  | styleWithModes

def Refusal.message : Refusal → Octets
  | .unknown w => text "stty: invalid argument " ++ quoted w ++ [10] ++ helpHint "stty"
  | .missing w => text "stty: missing argument to " ++ quoted w ++ [10] ++ helpHint "stty"
  | .number w reason => text "stty: invalid integer argument: " ++ quoted w ++ text (reason ++ "\n")
  | .speed kind w => text ("stty: invalid " ++ kind ++ " ") ++ quoted w ++ [10] ++ helpHint "stty"
  | .styles =>
    text "stty: the options for verbose and stty-readable output styles are\nmutually exclusive\n"
  | .styleWithModes => text "stty: when specifying an output style, modes may not be set\n"

/-- What the words ask for: new settings, a new size, and texts to be shown on the way. -/
structure Request where
  settings : Settings
  size : WindowSize
  shown : String := ""

/-- The number that digits write in a base, and what follows them. -/
def digits (base : Nat) (s : Octets) : Nat × Octets :=
  let value (b : UInt8) : Nat :=
    if 48 ≤ b && b ≤ 57 then b.toNat - 48
    else if 97 ≤ b && b ≤ 102 then b.toNat - 87
    else if 65 ≤ b && b ≤ 70 then b.toNat - 55
    else base
  let taken := s.takeWhile fun b => value b < base
  (taken.foldl (fun n b => n * base + value b) 0, s.drop taken.length)

/-- Half of the largest number of a small word; a number beyond it is too large for its type. -/
def halfLimit : Nat := 1073741823

/-- A number up to a limit: decimal, hexadecimal or octal, with a multiplier for blocks. -/
def number (word : Octets) (limit : Nat) : Except Refusal Nat :=
  let s := word.dropWhile fun b => b == 32 || 9 ≤ b && b ≤ 13
  let s := if s.head? == some 43 then s.drop 1 else s
  let (n, rest) := match s with
    | 48 :: 120 :: rest | 48 :: 88 :: rest =>
      match digits 16 rest with
      | (n, left) => if left.length = rest.length then (0, s.drop 1) else (n, left)
    | 48 :: _ => digits 8 s
    | s => digits 10 s
  let begun := rest.length < s.length
  let factor := match rest with
    | [] => if begun then some 1 else none
    | [98] => some 512
    | [66] => some 1024
    | _ => none
  match factor with
  | none => .error (.number word "")
  | some f =>
    let n := if begun then n * f else f
    if n ≤ limit then .ok n
    else .error (.number word (if n ≤ halfLimit then ": Numerical result out of range"
      else ": Value too large for defined data type"))

/-- The control octet that a word describes: the octet itself, `^` and a letter, or a word for none. -/
def controlOctet (word : Octets) : Except Refusal UInt8 :=
  match word with
  | [] => .ok 0
  | [b] => .ok b
  | [94, 45] => .ok 0
  | 94 :: 63 :: _ => .ok 127
  | 94 :: b :: _ => .ok (b &&& 0x9f)
  | _ => if word == text "undef" then .ok 0 else (number word 255).map UInt8.ofNat

/-- Modes that a word switches on or off. -/
def modes? (word : Octets) (s : Settings) : Option Settings :=
  let off := word.head? == some 45
  let name := if off then word.drop 1 else word
  match Mode.all.find? (fun m => text m.word == name) with
  | some m => if off && !m.canBeOff then none else some (m.put (!off) s)
  | none =>
    match Settings.presets.find? (fun e => text e.1 == name) with
    | some (_, opposite, change) => if off then opposite.map (· s) else some (change s)
    | none => none

/-- The kinds of words that are followed by a value. -/
inductive Valued
  | control (octet : ControlOctet)
  | speed (kind : String)
  | rows
  | cols
  | line

def valued? (word : Octets) : Option Valued :=
  let known (name : String) : Bool := text name == word
  match ControlOctet.all.find? (fun c => known c.word) with
  | some c => some (.control c)
  | none =>
    if known "ispeed" then some (.speed "ispeed")
    else if known "ospeed" then some (.speed "ospeed")
    else if known "rows" then some .rows
    else if known "cols" || known "columns" then some .cols
    else if known "line" then some .line
    else none

/-- Takes a word with its value. -/
def Request.takeValue (r : Request) (value : Octets) : Valued → Except Refusal Request
  | .control c =>
    let octet := if ControlOctet.amounts.any (·.word == c.word) then
        (number value 255).map UInt8.ofNat
      else controlOctet value
    octet.map fun b => { r with settings := c.put b r.settings }
  | .speed kind =>
    match Settings.speed? value with
    | some n => .ok { r with settings := { r.settings with speed := n } }
    | none => .error (.speed kind value)
  | .rows =>
    (number value 2147483647).map fun n => { r with size := { r.size with rows := UInt16.ofNat n } }
  | .cols =>
    (number value 2147483647).map fun n => { r with size := { r.size with cols := UInt16.ofNat n } }
  | .line =>
    (number value 255).map fun n => { r with settings := { r.settings with lineNumber := n } }

/-- Takes a word that stands alone. -/
def Request.takeWord (r : Request) (word : Octets) : Except Refusal Request :=
  let show_ (line : String) : Request := { r with shown := r.shown ++ line ++ "\n" }
  if word == text "drain" || word == text "-drain" then .ok r
  else match modes? word r.settings with
    | some s => .ok { r with settings := s }
    | none =>
      if word.head? == some 45 then .error (.unknown word)
      else if word == text "size" then
        .ok (show_ (toString r.size.rows ++ " " ++ toString r.size.cols))
      else if word == text "speed" then .ok (show_ (toString r.settings.speed))
      else match Settings.speed? word with
        | some n => .ok { r with settings := { r.settings with speed := n } }
        | none =>
          match r.settings.ofCode? word with
          | some s => .ok { r with settings := s }
          | none => .error (.unknown word)

/-- Takes all words. -/
def Request.takeAll (r : Request) : List Octets → Except Refusal Request
  | [] => .ok r
  | [word] => if (valued? word).isSome then .error (.missing word) else r.takeWord word
  | word :: value :: rest =>
    match valued? word with
    | some v => do (← r.takeValue value v).takeAll rest
    | none => do (← r.takeWord word).takeAll (value :: rest)

end Stty

/-- The width of what a program prints to. -/
def outputWidth (k : Kernel Program) (pid : Nat) : Nat :=
  let terminal := (k.openFile? pid 1).bind fun (_, o) => match o.target with
    | .terminal n => (k.terminal? n).map fun d => d.size.cols.toNat
    | _ => none
  let declared := (k.process? pid).bind fun p => p.environment.findSome? fun e =>
    match Octets.breakAt 61 e with
    | (key, some value) => if key == text "COLUMNS" then Octets.decimal? value else none
    | _ => none
  ((terminal.filter (0 < ·)).or (declared.filter (0 < ·))).getD 80

/-- Shows or changes the settings of the terminal on the standard input. -/
def stty (k : Kernel Program) (pid : Nat) (args : List Octets) : Kernel Program :=
  let args := args.erase (text "--")
  let given (short long : String) : Bool := args.any fun a => a == text short || a == text long
  let all := given "-a" "--all"
  let save := given "-g" "--save"
  let words := args.filter fun a => !(["-a", "--all", "-g", "--save"].any fun o => text o == a)
  let settable := words.any fun w => w != text "drain" && w != text "-drain"
  let refuse (r : Stty.Refusal) : Kernel Program := fail k pid r.message
  let complain (f : Fault) : Kernel Program :=
    fail k pid (text ("stty: 'standard input': " ++ Utility.words f ++ "\n"))
  if all && save then refuse .styles
  else if (all || save) && settable then refuse .styleWithModes
  else match (⟨{}, {}, ""⟩ : Stty.Request).takeAll words with
    | .error r => refuse r
    | .ok _ =>
      match k.openFile? pid 0 with
      | none => complain (.os 9)
      | some (_, o) =>
        match o.target with
        | .terminal n =>
          match k.terminal? n with
          | none => complain (.os 5)
          | some d =>
            if d.hungUp then complain (.os 5)
            else if all then print k pid (text (Stty.listing d.settings d.size (outputWidth k pid)))
            else if save then print k pid (text (d.settings.code ++ "\n"))
            else if !settable then
              print k pid (text (Stty.differences d.settings (outputWidth k pid)))
            else match (⟨d.settings, d.size, ""⟩ : Stty.Request).takeAll words with
              | .error r => refuse r
              | .ok r =>
                let granted := r.settings.granted
                let (new, signals) := (d.configure granted).absorb
                let k := (k.setTerminal n new).signalForeground new signals
                let k := k.resizeTerminal n r.size
                -- a wish that is not granted is refused at once when nothing else has changed
                let complaint := if granted == r.settings then ""
                  else if granted == d.settings && r.settings.charSize != 5 then
                    "stty: 'standard input': Invalid argument\n"
                  else "stty: 'standard input': unable to perform all requested operations\n"
                let status := if complaint.isEmpty then 0 else 1
                k.setProgram pid (.print [(1, text r.shown), (2, text complaint)] status)
        | _ => complain (.os 25)

end PseudoTerminal.Host.Utility
