import PseudoTerminal.Text.Octets

/-! Settings of a terminal line: which octets are translated, which have a meaning of their own, and
whether input is handed on line by line. The names are those by which terminals are configured. Settings
for hardware are kept without any effect. -/

namespace PseudoTerminal.Terminal

/-- The settings; a new terminal has the values given here. A control octet of zero is switched off. -/
structure Settings where
  -- hardware
  charSize : Nat := 8
  parenb : Bool := false
  parodd : Bool := false
  cmspar : Bool := false
  hupcl : Bool := false
  cstopb : Bool := false
  cread : Bool := true
  clocal : Bool := false
  crtscts : Bool := false
  speed : Nat := 38400
  lineNumber : Nat := 0
  -- input
  ignbrk : Bool := false
  brkint : Bool := false
  ignpar : Bool := false
  parmrk : Bool := false
  inpck : Bool := false
  istrip : Bool := false
  inlcr : Bool := false
  igncr : Bool := false
  icrnl : Bool := true
  ixon : Bool := true
  ixoff : Bool := false
  iuclc : Bool := false
  ixany : Bool := false
  imaxbel : Bool := false
  iutf8 : Bool := false
  -- output
  opost : Bool := true
  olcuc : Bool := false
  ocrnl : Bool := false
  onlcr : Bool := true
  onocr : Bool := false
  onlret : Bool := false
  ofill : Bool := false
  ofdel : Bool := false
  newlineDelay : Nat := 0
  returnDelay : Nat := 0
  tabDelay : Nat := 0
  backspaceDelay : Nat := 0
  verticalDelay : Nat := 0
  formDelay : Nat := 0
  -- handling
  isig : Bool := true
  icanon : Bool := true
  iexten : Bool := true
  echo : Bool := true
  echoe : Bool := true
  echok : Bool := true
  echonl : Bool := false
  noflsh : Bool := false
  xcase : Bool := false
  tostop : Bool := false
  echoprt : Bool := false
  echoctl : Bool := true
  echoke : Bool := true
  flusho : Bool := false
  extproc : Bool := false
  -- control octets
  intr : UInt8 := 3
  quit : UInt8 := 28
  erase : UInt8 := 127
  kill : UInt8 := 21
  eof : UInt8 := 4
  eol : UInt8 := 0
  eol2 : UInt8 := 0
  swtch : UInt8 := 0
  start : UInt8 := 17
  stop : UInt8 := 19
  susp : UInt8 := 26
  rprnt : UInt8 := 18
  werase : UInt8 := 23
  lnext : UInt8 := 22
  discard : UInt8 := 15
  /-- How many octets an unedited read waits for. -/
  minimum : UInt8 := 1
  /-- How many tenths of a second an unedited read waits between octets. -/
  time : UInt8 := 0
  deriving DecidableEq, Repr, Inhabited

namespace Settings

/-- A tab is shown as spaces. -/
def tab3 (s : Settings) : Bool := s.tabDelay == 3

/-- Neither input nor output is touched, and no octet has a meaning. -/
def raw (s : Settings) : Settings :=
  { s with
    ignbrk := false, brkint := false, ignpar := false, parmrk := false, inpck := false
    istrip := false, inlcr := false, igncr := false, icrnl := false, ixon := false, ixoff := false
    iuclc := false, ixany := false, imaxbel := false, iutf8 := false
    opost := false, isig := false, icanon := false, xcase := false, minimum := 1, time := 0 }

/-- Lines are edited, signals and translations are on. -/
def cooked (s : Settings) : Settings :=
  { s with
    brkint := true, ignpar := true, istrip := true, icrnl := true, ixon := true
    opost := true, isig := true, icanon := true }

/-- What the terminal makes of settings: it has no hardware that could change its characters. -/
def granted (s : Settings) : Settings := { s with charSize := 8, parenb := false, cread := true }

end Settings

end PseudoTerminal.Terminal
