import PseudoTerminal.Terminal.Buffer
import PseudoTerminal.Terminal.Discipline
import PseudoTerminal.WindowSize

/-! A pseudo-terminal device. The host writes into it what is typed and reads from it what is shown;
programs read typed input and print. Between the two stands the line discipline, with a bounded queue
on either way. A device that has hung up gives its programs the end of input and takes nothing more. -/

namespace PseudoTerminal.Terminal

structure Device where
  settings : Settings := {}
  line : Line := {}
  size : WindowSize := {}
  /-- Typed octets that the line has not taken yet. -/
  typed : Buffer := {}
  /-- What is shown and not read yet. -/
  shown : Buffer := {}
  /-- The session that the terminal controls. -/
  session : Option Nat := none
  /-- The process group that signals of the terminal go to. -/
  foreground : Option Nat := none
  hungUp : Bool := false
  deriving Inhabited

namespace Device

/-- How many octets wait on either way before the writer has to. -/
def queueLimit : Nat := 8192

/-- How many of the shown octets are past recall. -/
def deliveredLimit : Nat := Line.capacity

def shownLimit : Nat := deliveredLimit + queueLimit

/-- How many typed octets the device accepts now. -/
def typedRoom (d : Device) : Nat := queueLimit - d.typed.count

/-- How many octets a program can print now. -/
def shownRoom (d : Device) : Nat :=
  if d.line.stopped then 0 else shownLimit - d.shown.count

/-- Shows the echoes that wait. -/
def flushEchoes (d : Device) : Device :=
  let (out, line) := d.line.flush d.settings
  { d with line := line, shown := d.shown.append out }

/-- How much space waiting echoes may take before they are shown. -/
def echoLimit : Nat := 256

/-- Hands one octet to the line. A signal discards what was shown but not delivered. -/
def receive (d : Device) (b : UInt8) : Device × Option Signal :=
  let (line, signal?) := d.line.receive d.settings b
  let shown := if signal?.isSome && !d.settings.noflsh then d.shown.truncate deliveredLimit
    else d.shown
  let d := { d with line := line, shown := shown }
  (if echoLimit ≤ line.echoSpace then d.flushEchoes else d, signal?)

/-- Hands typed octets to the line as long as it takes them, and shows their echo in the end; the
signals they ask for, last first. -/
def absorbOctets (d : Device) (signals : List Signal) : Octets → Device × List Signal × Octets
  | [] => (d.flushEchoes, signals, [])
  | b :: rest =>
    match d.line.admit? d.settings with
    | none => (d.flushEchoes, signals, b :: rest)
    | some line =>
      let (d, signal?) := { d with line := line }.receive b
      absorbOctets d (signal?.toList ++ signals) rest

/-- Lets the line take the typed octets that wait, and returns the signals that they ask for. -/
def absorb (d : Device) : Device × List Signal :=
  if d.typed.isEmpty then (d, [])
  else if Line.isTransparent d.settings then
    let (taken, typed) := d.typed.take (Line.capacity - d.line.held)
    ({ d with
      typed := typed
      line := { d.line with
        draft := taken.reverseAux d.line.draft, held := d.line.held + taken.length } }, [])
  else
    let (d, signals, left) := absorbOctets d [] d.typed.toList
    ({ d with typed := .ofList left }, signals.reverse)

/-- The host types: how many octets were accepted, and the signals they ask for. -/
def hostWrite (d : Device) (data : Octets) : Nat × Device × List Signal :=
  let accepted := data.take d.typedRoom
  let (d, signals) := { d with typed := d.typed.append accepted }.absorb
  (accepted.length, d, signals)

/-- The host reads at most `n` octets of what is shown. -/
def hostRead (d : Device) (n : Nat) : Octets × Device :=
  let (data, shown) := d.shown.take (min n deliveredLimit)
  (data, { d with shown := shown })

/-- Whether a program's read of `n` octets returns at once. -/
def isReadable (d : Device) (n : Nat) : Bool := d.hungUp || d.line.isReadable d.settings n

/-- A program reads at most `n` octets; nothing means the end of input. -/
def read (d : Device) (n : Nat) : Octets × Device × List Signal :=
  if d.hungUp then ([], d, [])
  else
    let (data, line) := d.line.read d.settings n
    let (d, signals) := { d with line := line }.absorb
    (data, d, signals)

/-- A program prints: how many octets were accepted. -/
def write (d : Device) (data : Octets) : Nat × Device :=
  -- an octet can become two
  let accepted := data.take (if d.settings.opost then d.shownRoom / 2 else d.shownRoom)
  let d := d.flushEchoes
  let (out, line) := d.line.print d.settings accepted
  (accepted.length, { d with line := line, shown := d.shown.append out })

/-- Changes the settings. -/
def configure (d : Device) (settings : Settings) : Device :=
  { d with settings := settings, line := d.line.resettle d.settings settings }

/-- Changes the size, and tells whether it is another one. -/
def resize (d : Device) (size : WindowSize) : Bool × Device :=
  (d.size != size, { d with size := size })

/-- The host lets go of the device. -/
def hangUp (d : Device) : Device := { d with hungUp := true, line := d.line.clear, typed := {} }

end Device

end PseudoTerminal.Terminal
