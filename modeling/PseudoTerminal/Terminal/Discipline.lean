import PseudoTerminal.Host.Signal
import PseudoTerminal.Terminal.Settings

/-! The line discipline: what a terminal does with each octet that is typed and each octet that a
program prints. Typed octets are collected into lines that can be edited, echoed, or turned into
signals; printed ones are translated, and the column is kept so that erasing undoes what was shown. -/

namespace PseudoTerminal.Terminal

/-- Something to be shown for typed input. -/
inductive Echo
  | octet (b : UInt8)
  /-- An octet without a shape of its own, shown as a caret and a letter. -/
  | caret (b : UInt8)
  /-- Go back over a tab, before which so many columns were used since the line or a tab began. -/
  | eraseTab (columns : Nat) (afterTab : Bool)
  /-- The edited line begins at the present column. -/
  | markColumn
  deriving DecidableEq, Repr

/-- The state of a line. -/
structure Line where
  /-- Finished input, oldest first; a true mark ends a line, and a marked zero is an end of input. -/
  ready : List (UInt8 × Bool) := []
  /-- The unfinished line, or all unedited input, most recent first. -/
  draft : Octets := []
  /-- How many octets are held in all. -/
  held : Nat := 0
  column : Nat := 0
  lineColumn : Nat := 0
  /-- The next octet is taken literally. -/
  literal : Bool := false
  /-- Output is stopped by flow control. -/
  stopped : Bool := false
  /-- Echoes that are not shown yet. -/
  echoes : List Echo := []
  deriving DecidableEq, Repr, Inhabited

namespace Line

/-- How many octets the line holds before it accepts no more. -/
def capacity : Nat := 4095

def isControl (b : UInt8) : Bool := b < 32 || b == 127

/-- Whether an octet belongs to a word: a letter of either Latin half, a digit or an underscore. -/
def isWordOctet (b : UInt8) : Bool :=
  (48 ≤ b && b ≤ 57) || (65 ≤ b && b ≤ 90) || (97 ≤ b && b ≤ 122) || b == 95 ||
    (192 ≤ b && b != 215 && b != 247)

/-- Whether an octet continues a character of several octets. -/
def isContinuation (b : UInt8) : Bool := b &&& 0xc0 == 0x80

def isUpper (b : UInt8) : Bool := (65 ≤ b && b ≤ 90) || (192 ≤ b && b ≤ 222 && b != 215)

def isLower (b : UInt8) : Bool := (97 ≤ b && b ≤ 122) || (224 ≤ b && b != 247)

def upper (b : UInt8) : UInt8 := if isLower b && b != 255 then b - 32 else b

def lower (b : UInt8) : UInt8 := if isUpper b then b + 32 else b

/-! ### Output -/

/-- What a printed octet becomes, and where the column is then. -/
def printOctet (s : Settings) (l : Line) (b : UInt8) : Octets × Line :=
  if !s.opost then ([b], l)
  else if b == 10 then
    let l := if s.onlret then { l with column := 0 } else l
    if s.onlcr then ([13, 10], { l with column := 0, lineColumn := 0 })
    else ([10], { l with lineColumn := l.column })
  else if b == 13 then
    if s.onocr && l.column == 0 then ([], l)
    else if s.ocrnl then
      ([10], if s.onlret then { l with column := 0, lineColumn := 0 } else l)
    else ([13], { l with column := 0, lineColumn := 0 })
  else if b == 9 then
    let spaces := 8 - l.column % 8
    (if s.tab3 then List.replicate spaces 32 else [9], { l with column := l.column + spaces })
  else if b == 8 then ([8], { l with column := l.column - 1 })
  else if isControl b then ([b], l)
  else
    ([if s.olcuc then upper b else b],
      if s.iutf8 && isContinuation b then l else { l with column := l.column + 1 })

/-- What printed octets become. -/
def print (s : Settings) (l : Line) (data : Octets) : Octets × Line :=
  if !s.opost then (data, l)
  else
    let (pieces, l) := data.foldl (fun (pieces, l) b =>
      let (piece, l) := printOctet s l b
      (piece :: pieces, l)) (([] : List Octets), l)
    (pieces.reverse.flatten, l)

/-- Carries out one echo. -/
def play (s : Settings) (l : Line) : Echo → Octets × Line
  | .octet b => printOctet s l b
  | .caret b => ([94, b ^^^ 64], { l with column := l.column + 2 })
  | .eraseTab columns afterTab =>
    let back := 8 - (if afterTab then columns else columns + l.lineColumn) % 8
    (List.replicate back 8, { l with column := l.column - back })
  | .markColumn => ([], { l with lineColumn := l.column })

/-- How much space the waiting echoes take. -/
def echoSpace (l : Line) : Nat :=
  (l.echoes.map fun
    | .octet _ => 1
    | .caret _ | .markColumn => 2
    | .eraseTab _ _ => 3).foldl (· + ·) 0

/-- Carries out the echoes that wait, unless output is stopped. -/
def flush (s : Settings) (l : Line) : Octets × Line :=
  if l.stopped then ([], l)
  else l.echoes.foldl (fun (out, l) e =>
    let (more, l) := play s l e
    (out ++ more, l)) (([] : Octets), { l with echoes := [] })

/-! ### Input -/

/-- The echo of an octet. -/
def echoOf (s : Settings) (b : UInt8) : Echo :=
  if s.echoctl && isControl b && b != 9 then .caret b else .octet b

/-- Appends echoes. -/
def addEchoes (l : Line) (es : List Echo) : Line := { l with echoes := l.echoes ++ es }

/-- Appends an octet to the unfinished line. -/
def keep (l : Line) (b : UInt8) : Line := { l with draft := b :: l.draft, held := l.held + 1 }

/-- Ends the unfinished line with an octet. -/
def finish (l : Line) (b : UInt8) : Line :=
  { l with
    ready := l.ready ++ l.draft.reverse.map (·, false) ++ [(b, true)]
    draft := []
    held := l.held + 1 }

/-- Takes an octet as plain input, echoed if echoing is on. -/
def plain (s : Settings) (l : Line) (b : UInt8) : Line :=
  let l := if s.echo then
      l.addEchoes ((if l.draft.isEmpty then [.markColumn] else []) ++ [echoOf s b])
    else l
  l.keep b

/-- The columns that an octet of the unfinished line takes. -/
def width (s : Settings) (b : UInt8) : Nat :=
  if isControl b then (if s.echoctl then 2 else 0)
  else if s.iutf8 && isContinuation b then 0 else 1

/-- The columns used since the last tab or the start of the line, and whether it was a tab. -/
def columnsBefore (s : Settings) : Octets → Nat × Bool
  | [] => (0, false)
  | b :: rest =>
    if b == 9 then (0, true)
    else
      let (n, tab) := columnsBefore s rest
      (n + width s b, tab)

def rubOut : List Echo := [.octet 8, .octet 32, .octet 8]

/-- The echo of erasing an octet that had `rest` before it. -/
def eraseEcho (s : Settings) (b : UInt8) (rest : Octets) : List Echo :=
  if b == 9 then
    let (n, tab) := columnsBefore s rest
    [.eraseTab (n % 8) tab]
  else (List.replicate (width s b) rubOut).flatten

/-- How far an erasing octet reaches. -/
inductive Reach
  | octet
  | word
  | line
  deriving DecidableEq, Repr

/-- Erases characters from the unfinished line, most recent first. The octets in `passed` continue a
character whose first octet is still to come; without it they stay. -/
def eraseDraft (s : Settings) (reach : Reach) (seen : Bool) (passed : Octets) :
    Octets → Octets × List Echo × Nat
  | [] => (passed.reverse, [], 0)
  | b :: rest =>
    if s.iutf8 && isContinuation b then eraseDraft s reach seen (b :: passed) rest
    else if reach == .word && seen && !isWordOctet b then (passed.reverse ++ b :: rest, [], 0)
    else
      let shown := if !s.echo then []
        else if reach == .octet && !s.echoe then [echoOf s s.erase]
        else eraseEcho s b rest
      if reach == .octet then (rest, shown, passed.length + 1)
      else
        let (left, more, n) := eraseDraft s reach (seen || isWordOctet b) [] rest
        (left, shown ++ more, n + passed.length + 1)

/-- Erases an octet, a word or the line. -/
def erase (s : Settings) (l : Line) (reach : Reach) : Line :=
  if l.draft.isEmpty then l
  else if reach == .line && (!s.echo || !(s.echok && s.echoke && s.echoe)) then
    let shown := if !s.echo then [] else echoOf s s.kill :: if s.echok then [.octet 10] else []
    { l with draft := [], held := l.held - l.draft.length }.addEchoes shown
  else
    let (draft, shown, n) := eraseDraft s reach false [] l.draft
    { l with draft := draft, held := l.held - n }.addEchoes shown

/-- Forgets all input and every echo that waits. -/
def clear (l : Line) : Line := { l with ready := [], draft := [], held := 0, echoes := [] }

/-- Edited input: the octets that finish or change the line. -/
def edit? (s : Settings) (l : Line) (b : UInt8) : Option Line :=
  if b == s.erase then some (l.erase s .octet)
  else if b == s.kill then some (l.erase s .line)
  else if b == s.werase && s.iexten then some (l.erase s .word)
  else if b == s.lnext && s.iexten then
    some ({ l with literal := true }.addEchoes
      (if s.echo && s.echoctl then [.octet 94, .octet 8] else []))
  else if b == s.rprnt && s.echo && s.iexten then
    some (l.addEchoes (echoOf s b :: .octet 10 :: l.draft.reverse.map (echoOf s)))
  else if b == 10 then
    some ((if s.echo || s.echonl then l.addEchoes [.octet 10] else l).finish 10)
  else if b == s.eof then some (l.finish 0)
  else if b == s.eol || b == s.eol2 && s.iexten then
    some ((if s.echo then
        l.addEchoes ((if l.draft.isEmpty then [.markColumn] else []) ++ [echoOf s b])
      else l).finish b)
  else none

/-- The signal that an octet asks for. -/
def signal? (s : Settings) (b : UInt8) : Option Signal :=
  if b == 0 || !s.isig then none
  else if b == s.intr then some .interrupt
  else if b == s.quit then some .quit
  else if b == s.susp then some .keyboardStop
  else none

/-- Takes one typed octet, and tells the signal that it asks for. A zero has no meaning of its own,
whatever is switched off. A signal makes the line forget what was typed and not shown yet. -/
def receive (s : Settings) (l : Line) (b : UInt8) : Line × Option Signal :=
  let b := if s.istrip then b &&& 127 else b
  let b := if s.iuclc && s.iexten then lower b else b
  if l.literal then (plain s { l with literal := false } b, none)
  else if b == 0 then (plain s l b, none)
  else if s.ixon && b == s.start then ({ l with stopped := false }, none)
  else if s.ixon && b == s.stop then ({ l with stopped := true }, none)
  else match signal? s b with
    | some signal =>
      let l := if s.noflsh then l else l.clear
      let l := if s.ixon then { l with stopped := false } else l
      (if s.echo then l.addEchoes [echoOf s b] else l, some signal)
    | none =>
      let l := if s.ixon && s.ixany then { l with stopped := false } else l
      if b == 13 && s.igncr then (l, none)
      else
        let isTurned := b == 13 && s.icrnl
        let b := if isTurned then 10 else if b == 10 && s.inlcr then 13 else b
        match if s.icanon then edit? s l b else none with
        | some l => (l, none)
        | none =>
          -- a return that became a new line is echoed as one
          if isTurned && s.echo then ((l.addEchoes [.octet 10]).keep b, none)
          else (plain s l b, none)

/-- Whether typed octets pass without any look at them. -/
def isTransparent (s : Settings) : Bool :=
  !(s.istrip || s.iuclc || s.igncr || s.icrnl || s.inlcr || s.icanon || s.ixon || s.isig || s.echo)

/-- Makes room for one more octet if the line takes one: an unfinished line that is full gives up its
last octet. -/
def admit? (s : Settings) (l : Line) : Option Line :=
  if l.held < capacity then some l
  else if s.icanon && l.ready.isEmpty then
    some (if capacity < l.held then { l with draft := l.draft.tail, held := l.held - 1 } else l)
  else none

/-! ### Reading -/

/-- Whether a reader of `n` octets gets something without waiting. -/
def isReadable (s : Settings) (l : Line) (n : Nat) : Bool :=
  if s.icanon then !l.ready.isEmpty
  else min n s.minimum.toNat ≤ l.held

/-- Takes at most `n` octets of the first line, and the end-of-input mark behind them. -/
def takeLine : Nat → List (UInt8 × Bool) → Octets × List (UInt8 × Bool) × Nat
  | _, [] => ([], [], 0)
  | 0, (b, ends) :: rest => if ends && b == 0 then ([], rest, 1) else ([], (b, ends) :: rest, 0)
  | n + 1, (b, ends) :: rest =>
    if ends then (if b == 0 then [] else [b], rest, 1)
    else
      let (taken, left, count) := takeLine n rest
      (b :: taken, left, count + 1)

/-- Reads at most `n` octets; nothing means the end of input. -/
def read (s : Settings) (l : Line) (n : Nat) : Octets × Line :=
  if s.icanon then
    let (taken, left, count) := takeLine n l.ready
    (taken, { l with ready := left, held := l.held - count })
  else
    let all := l.ready.map Prod.fst ++ l.draft.reverse
    let (taken, left) := all.splitAt n
    (taken, { l with ready := [], draft := left.reverse, held := left.length })

/-- The line after a change of settings: what was collected so far counts as finished for an edited
line, and as unfinished otherwise. -/
def resettle (l : Line) (before after : Settings) : Line :=
  if before.icanon == after.icanon then l
  else if after.icanon then
    let all := l.ready.map Prod.fst ++ l.draft.reverse
    match all.getLast? with
    | none => { l with literal := false }
    | some b =>
      { l with
        ready := all.dropLast.map (·, false) ++ [(b, true)], draft := [], literal := false }
  else
    { l with
      ready := [], draft := (l.ready.map Prod.fst ++ l.draft.reverse).reverse, literal := false }

end Line

end PseudoTerminal.Terminal
