import PseudoTerminal.Terminal.Settings
import PseudoTerminal.WindowSize

/-! The modes of a terminal by name: switches and choices, the words that stand for several of them, and
the control octets. Every mode has a place in the word of its group, so that all settings can be written
as numbers and read back. -/

namespace PseudoTerminal.Terminal

/-- The groups in which modes are listed. -/
inductive ModeGroup
  | hardware
  | input
  | output
  | handling
  deriving DecidableEq, Repr

/-- A mode: whether settings have it, and how they get or lose it. -/
structure Mode where
  word : String
  group : ModeGroup
  /-- The part of the group's word that the mode uses. -/
  mask : Nat
  /-- The value of that part when the mode holds. -/
  weight : Nat
  holds : Settings → Bool
  put : Bool → Settings → Settings
  /-- What suits an unknown program. -/
  sane : Option Bool := none
  /-- Whether the mode can be switched off by name. -/
  canBeOff : Bool := true
  isListed : Bool := true

namespace Mode

def flag (word : String) (group : ModeGroup) (weight : Nat) (sane : Option Bool)
    (holds : Settings → Bool) (put : Bool → Settings → Settings) : Mode :=
  { word, group, mask := weight, weight, holds, put, sane }

/-- One of several values; another one is chosen by its own name. -/
def choice (word : String) (group : ModeGroup) (mask weight : Nat) (sane : Option Bool)
    (holds : Settings → Bool) (put : Bool → Settings → Settings) : Mode :=
  { word, group, mask, weight, holds, put, sane, canBeOff := false }

/-- A second name for a flag. -/
def synonym (word : String) (group : ModeGroup) (weight : Nat)
    (holds : Settings → Bool) (put : Bool → Settings → Settings) : Mode :=
  { word, group, mask := weight, weight, holds, put, isListed := false }

/-- All modes, in the order in which they are listed. -/
def all : List Mode := [
  flag "parenb" .hardware 0x100 none (·.parenb) fun b s => { s with parenb := b },
  flag "parodd" .hardware 0x200 none (·.parodd) fun b s => { s with parodd := b },
  flag "cmspar" .hardware 0x40000000 none (·.cmspar) fun b s => { s with cmspar := b },
  choice "cs5" .hardware 0x30 0 none (·.charSize == 5) fun _ s => { s with charSize := 5 },
  choice "cs6" .hardware 0x30 0x10 none (·.charSize == 6) fun _ s => { s with charSize := 6 },
  choice "cs7" .hardware 0x30 0x20 none (·.charSize == 7) fun _ s => { s with charSize := 7 },
  choice "cs8" .hardware 0x30 0x30 none (·.charSize == 8) fun _ s => { s with charSize := 8 },
  flag "hupcl" .hardware 0x400 none (·.hupcl) fun b s => { s with hupcl := b },
  synonym "hup" .hardware 0x400 (·.hupcl) fun b s => { s with hupcl := b },
  flag "cstopb" .hardware 0x40 none (·.cstopb) fun b s => { s with cstopb := b },
  flag "cread" .hardware 0x80 (some true) (·.cread) fun b s => { s with cread := b },
  flag "clocal" .hardware 0x800 none (·.clocal) fun b s => { s with clocal := b },
  flag "crtscts" .hardware 0x80000000 none (·.crtscts) fun b s => { s with crtscts := b },
  flag "ignbrk" .input 1 (some false) (·.ignbrk) fun b s => { s with ignbrk := b },
  flag "brkint" .input 2 (some true) (·.brkint) fun b s => { s with brkint := b },
  flag "ignpar" .input 4 none (·.ignpar) fun b s => { s with ignpar := b },
  flag "parmrk" .input 8 none (·.parmrk) fun b s => { s with parmrk := b },
  flag "inpck" .input 0x10 none (·.inpck) fun b s => { s with inpck := b },
  flag "istrip" .input 0x20 none (·.istrip) fun b s => { s with istrip := b },
  flag "inlcr" .input 0x40 (some false) (·.inlcr) fun b s => { s with inlcr := b },
  flag "igncr" .input 0x80 (some false) (·.igncr) fun b s => { s with igncr := b },
  flag "icrnl" .input 0x100 (some true) (·.icrnl) fun b s => { s with icrnl := b },
  flag "ixon" .input 0x400 none (·.ixon) fun b s => { s with ixon := b },
  flag "ixoff" .input 0x1000 (some false) (·.ixoff) fun b s => { s with ixoff := b },
  synonym "tandem" .input 0x1000 (·.ixoff) fun b s => { s with ixoff := b },
  flag "iuclc" .input 0x200 (some false) (·.iuclc) fun b s => { s with iuclc := b },
  flag "ixany" .input 0x800 (some false) (·.ixany) fun b s => { s with ixany := b },
  flag "imaxbel" .input 0x2000 (some true) (·.imaxbel) fun b s => { s with imaxbel := b },
  flag "iutf8" .input 0x4000 (some false) (·.iutf8) fun b s => { s with iutf8 := b },
  flag "opost" .output 1 (some true) (·.opost) fun b s => { s with opost := b },
  flag "olcuc" .output 2 (some false) (·.olcuc) fun b s => { s with olcuc := b },
  flag "ocrnl" .output 8 (some false) (·.ocrnl) fun b s => { s with ocrnl := b },
  flag "onlcr" .output 4 (some true) (·.onlcr) fun b s => { s with onlcr := b },
  flag "onocr" .output 0x10 (some false) (·.onocr) fun b s => { s with onocr := b },
  flag "onlret" .output 0x20 (some false) (·.onlret) fun b s => { s with onlret := b },
  flag "ofill" .output 0x40 (some false) (·.ofill) fun b s => { s with ofill := b },
  flag "ofdel" .output 0x80 (some false) (·.ofdel) fun b s => { s with ofdel := b },
  choice "nl1" .output 0x100 0x100 (some false) (·.newlineDelay == 1)
    fun b s => { s with newlineDelay := if b then 1 else 0 },
  choice "nl0" .output 0x100 0 (some true) (·.newlineDelay == 0)
    fun _ s => { s with newlineDelay := 0 },
  choice "cr3" .output 0x600 0x600 (some false) (·.returnDelay == 3)
    fun b s => { s with returnDelay := if b then 3 else 0 },
  choice "cr2" .output 0x600 0x400 (some false) (·.returnDelay == 2)
    fun b s => { s with returnDelay := if b then 2 else 0 },
  choice "cr1" .output 0x600 0x200 (some false) (·.returnDelay == 1)
    fun b s => { s with returnDelay := if b then 1 else 0 },
  choice "cr0" .output 0x600 0 (some true) (·.returnDelay == 0)
    fun _ s => { s with returnDelay := 0 },
  choice "tab3" .output 0x1800 0x1800 (some false) (·.tabDelay == 3)
    fun b s => { s with tabDelay := if b then 3 else 0 },
  choice "tab2" .output 0x1800 0x1000 (some false) (·.tabDelay == 2)
    fun b s => { s with tabDelay := if b then 2 else 0 },
  choice "tab1" .output 0x1800 0x800 (some false) (·.tabDelay == 1)
    fun b s => { s with tabDelay := if b then 1 else 0 },
  choice "tab0" .output 0x1800 0 (some true) (·.tabDelay == 0)
    fun _ s => { s with tabDelay := 0 },
  choice "bs1" .output 0x2000 0x2000 (some false) (·.backspaceDelay == 1)
    fun b s => { s with backspaceDelay := if b then 1 else 0 },
  choice "bs0" .output 0x2000 0 (some true) (·.backspaceDelay == 0)
    fun _ s => { s with backspaceDelay := 0 },
  choice "vt1" .output 0x4000 0x4000 (some false) (·.verticalDelay == 1)
    fun b s => { s with verticalDelay := if b then 1 else 0 },
  choice "vt0" .output 0x4000 0 (some true) (·.verticalDelay == 0)
    fun _ s => { s with verticalDelay := 0 },
  choice "ff1" .output 0x8000 0x8000 (some false) (·.formDelay == 1)
    fun b s => { s with formDelay := if b then 1 else 0 },
  choice "ff0" .output 0x8000 0 (some true) (·.formDelay == 0)
    fun _ s => { s with formDelay := 0 },
  flag "isig" .handling 1 (some true) (·.isig) fun b s => { s with isig := b },
  flag "icanon" .handling 2 (some true) (·.icanon) fun b s => { s with icanon := b },
  flag "iexten" .handling 0x8000 (some true) (·.iexten) fun b s => { s with iexten := b },
  flag "echo" .handling 8 (some true) (·.echo) fun b s => { s with echo := b },
  flag "echoe" .handling 0x10 (some true) (·.echoe) fun b s => { s with echoe := b },
  synonym "crterase" .handling 0x10 (·.echoe) fun b s => { s with echoe := b },
  flag "echok" .handling 0x20 (some true) (·.echok) fun b s => { s with echok := b },
  flag "echonl" .handling 0x40 (some false) (·.echonl) fun b s => { s with echonl := b },
  flag "noflsh" .handling 0x80 (some false) (·.noflsh) fun b s => { s with noflsh := b },
  flag "xcase" .handling 4 (some false) (·.xcase) fun b s => { s with xcase := b },
  flag "tostop" .handling 0x100 (some false) (·.tostop) fun b s => { s with tostop := b },
  flag "echoprt" .handling 0x400 (some false) (·.echoprt) fun b s => { s with echoprt := b },
  synonym "prterase" .handling 0x400 (·.echoprt) fun b s => { s with echoprt := b },
  flag "echoctl" .handling 0x200 (some true) (·.echoctl) fun b s => { s with echoctl := b },
  synonym "ctlecho" .handling 0x200 (·.echoctl) fun b s => { s with echoctl := b },
  flag "echoke" .handling 0x800 (some true) (·.echoke) fun b s => { s with echoke := b },
  synonym "crtkill" .handling 0x800 (·.echoke) fun b s => { s with echoke := b },
  flag "flusho" .handling 0x1000 (some false) (·.flusho) fun b s => { s with flusho := b },
  flag "extproc" .handling 0x10000 (some false) (·.extproc) fun b s => { s with extproc := b }]

/-- The modes of which settings are a record: one value for each choice and flag. -/
def listed : List Mode := all.filter Mode.isListed

end Mode

/-! ### Control octets -/

/-- A control octet, the place where it is kept, and its usual value. -/
structure ControlOctet where
  word : String
  place : Nat
  usual : UInt8
  get : Settings → UInt8
  put : UInt8 → Settings → Settings

namespace ControlOctet

/-- The octets with a meaning. -/
def keys : List ControlOctet := [
  ⟨"intr", 0, 3, (·.intr), fun b s => { s with intr := b }⟩,
  ⟨"quit", 1, 28, (·.quit), fun b s => { s with quit := b }⟩,
  ⟨"erase", 2, 127, (·.erase), fun b s => { s with erase := b }⟩,
  ⟨"kill", 3, 21, (·.kill), fun b s => { s with kill := b }⟩,
  ⟨"eof", 4, 4, (·.eof), fun b s => { s with eof := b }⟩,
  ⟨"eol", 11, 0, (·.eol), fun b s => { s with eol := b }⟩,
  ⟨"eol2", 16, 0, (·.eol2), fun b s => { s with eol2 := b }⟩,
  ⟨"swtch", 7, 0, (·.swtch), fun b s => { s with swtch := b }⟩,
  ⟨"start", 8, 17, (·.start), fun b s => { s with start := b }⟩,
  ⟨"stop", 9, 19, (·.stop), fun b s => { s with stop := b }⟩,
  ⟨"susp", 10, 26, (·.susp), fun b s => { s with susp := b }⟩,
  ⟨"rprnt", 12, 18, (·.rprnt), fun b s => { s with rprnt := b }⟩,
  ⟨"werase", 14, 23, (·.werase), fun b s => { s with werase := b }⟩,
  ⟨"lnext", 15, 22, (·.lnext), fun b s => { s with lnext := b }⟩,
  ⟨"discard", 13, 15, (·.discard), fun b s => { s with discard := b }⟩]

/-- The octets that are numbers: how much an unedited read waits for, and how long. -/
def amounts : List ControlOctet := [
  ⟨"min", 6, 1, (·.minimum), fun b s => { s with minimum := b }⟩,
  ⟨"time", 5, 0, (·.time), fun b s => { s with time := b }⟩]

def all : List ControlOctet := keys ++ amounts

/-- How many octets are kept in all. -/
def places : Nat := 32

end ControlOctet

namespace Settings

/-! ### Words for several modes -/

/-- The values that suit an unknown program. -/
def sane (s : Settings) : Settings :=
  let s := ControlOctet.all.foldl (fun s c => c.put c.usual s) s
  Mode.all.foldl (fun s m => match m.sane with
    | some b => m.put b s
    | none => s) s

/-- Characters of seven bits with a parity bit, or of eight bits without one. -/
def withParity (s : Settings) (parity : Bool) : Settings :=
  { s with parenb := parity, charSize := if parity then 7 else 8 }

/-- The words that stand for several modes, with what they and their opposites do. -/
def presets : List (String × Option (Settings → Settings) × (Settings → Settings)) :=
  let even (s : Settings) : Settings := { s.withParity true with parodd := false }
  let odd (s : Settings) : Settings := { s.withParity true with parodd := true }
  let plain (s : Settings) : Settings := s.withParity false
  let lower (b : Bool) (s : Settings) : Settings := { s with xcase := b, iuclc := b, olcuc := b }
  let screen (s : Settings) : Settings := { s with echoe := true, echoctl := true, echoke := true }
  [("evenp", some plain, even), ("parity", some plain, even), ("oddp", some plain, odd),
    ("nl",
      some fun s =>
        { s with
          icrnl := true, inlcr := false, igncr := false
          onlcr := true, ocrnl := false, onlret := false },
      fun s => { s with icrnl := false, onlcr := false }),
    ("ek", none, fun s => { s with erase := 127, kill := 21 }),
    ("sane", none, sane),
    ("cooked", some raw, cooked), ("raw", some cooked, raw),
    ("pass8", some fun s => { s.withParity true with istrip := true },
      fun s => { plain s with istrip := false }),
    ("litout", some fun s => { s.withParity true with istrip := true, opost := true },
      fun s => { plain s with istrip := false, opost := false }),
    ("cbreak", some fun s => { s with icanon := true }, fun s => { s with icanon := false }),
    ("decctlq", some fun s => { s with ixany := true }, fun s => { s with ixany := false }),
    ("tabs", some fun s => { s with tabDelay := 3 }, fun s => { s with tabDelay := 0 }),
    ("lcase", some (lower false), lower true), ("LCASE", some (lower false), lower true),
    ("crt", none, screen),
    ("dec", none, fun s => { screen s with intr := 3, erase := 127, kill := 21, ixany := false })]

/-! ### Speeds -/

/-- The speeds and their codes. -/
def speeds : List (Nat × Nat) :=
  [0, 50, 75, 110, 134, 150, 200, 300, 600, 1200, 1800, 2400, 4800, 9600, 19200, 38400].zipIdx ++
    [57600, 115200, 230400, 460800, 500000, 576000, 921600, 1000000, 1152000, 1500000, 2000000,
      2500000, 3000000, 3500000, 4000000].zipIdx 0x1001

/-- The speed that a word writes. -/
def speed? (word : Octets) : Option Nat :=
  let known (name : String) : Bool := Octets.ofString name == word
  if known "exta" then some 19200
  else if known "extb" then some 38400
  else if known "134.5" then some 134
  else (Octets.decimal? word).bind fun n => if (speeds.lookup n).isSome then some n else none

/-! ### Settings as numbers -/

/-- The word of a group: what each mode that holds is worth. -/
def word (s : Settings) (group : ModeGroup) : Nat :=
  let modes := Mode.listed.filter fun m => m.group == group && m.holds s
  (modes.map Mode.weight).foldl (· + ·) 0 +
    if group == .hardware then (speeds.lookup s.speed).getD 0 else 0

/-- The control octet at a place. -/
def octetAt (s : Settings) (place : Nat) : UInt8 :=
  ((ControlOctet.all.find? (·.place == place)).map (·.get s)).getD 0

def hexadecimal (n : Nat) : String := String.ofList (Nat.toDigits 16 n)

/-- The settings as numbers between colons. -/
def code (s : Settings) : String :=
  let words := [ModeGroup.input, .output, .hardware, .handling].map s.word
  ":".intercalate ((words ++ (List.range ControlOctet.places).map fun n => (s.octetAt n).toNat).map
    hexadecimal)

/-- The number that hexadecimal digits write. -/
def ofHexadecimal? (digits : Octets) : Option Nat :=
  if digits.isEmpty then none
  else digits.foldlM (fun n b =>
    if 48 ≤ b && b ≤ 57 then some (n * 16 + (b.toNat - 48))
    else if 97 ≤ b && b ≤ 102 then some (n * 16 + (b.toNat - 87))
    else if 65 ≤ b && b ≤ 70 then some (n * 16 + (b.toNat - 55))
    else none) 0

/-- Settings from their numbers. -/
def ofCode? (s : Settings) (text : Octets) : Option Settings := do
  let numbers ← (Octets.splitOn 58 text).mapM ofHexadecimal?
  let i :: o :: h :: l :: octets := numbers | none
  if octets.length != ControlOctet.places || octets.any (255 < ·) then none
  let wordOf : ModeGroup → Nat
    | .input => i
    | .output => o
    | .hardware => h
    | .handling => l
  let s := Mode.listed.foldl (fun s m =>
    let on := wordOf m.group &&& m.mask == m.weight
    if on || m.canBeOff then m.put on s else s) s
  let s := ControlOctet.all.foldl (fun s c =>
    c.put (UInt8.ofNat (octets.getD c.place 0)) s) s
  let speed := speeds.find? fun e => e.2 == h &&& 0x100f
  return { s with speed := (speed.map Prod.fst).getD s.speed }

end Settings

end PseudoTerminal.Terminal
