import PseudoTerminal.Config
import PseudoTerminal.Options
import PseudoTerminal.Relay.Pump
import PseudoTerminal.Relay.Resizer
import PseudoTerminal.Session.World

/-! The program behind the command line. It runs another program on a terminal of its own and plays the
part of a remote peer: what is typed at the console goes to the program, what the program shows comes
back, and a new size of the console becomes the size of the terminal. -/

namespace PseudoTerminal

/-- What the program is started with. -/
structure Invocation where
  args : List String
  files : FileTree
  vars : List Variable
  cwd : Place
  /-- The size of the console, if there is one. -/
  console : Option WindowSize
  deriving Inhabited

/-- What happens at the console: once a text has been shown, the size changes and keys are typed. -/
structure Play where
  after : Octets
  resize : Option WindowSize := none
  input : Octets := []
  deriving Repr, Inhabited

/-- A piece of output: of the program that runs on the terminal, or of this one. -/
inductive Piece
  | relayed (data : Octets)
  | said (text : String)
  deriving DecidableEq, Repr

/-- A piece at a console: it is in raw mode as long as output is relayed, and else it returns the carriage at
the end of a line. -/
def Piece.atConsole : Piece → Octets
  | relayed data => data
  | said text => (Octets.ofString text).flatMap fun b => if b == 10 then [13, 10] else [b]

/-- What a run leaves behind. -/
structure Report where
  status : Nat
  /-- The output, in order. -/
  pieces : List Piece := []
  files : FileTree

namespace Report

/-- The output at a console. -/
def atConsole (r : Report) : Octets := r.pieces.flatMap Piece.atConsole

/-- What was relayed, without a console. -/
def relayed (r : Report) : Octets :=
  r.pieces.flatMap fun
    | .relayed data => data
    | .said _ => []

/-- What was said, without a console. -/
def said (r : Report) : Octets :=
  r.pieces.flatMap fun
    | .relayed _ => []
    | .said text => Octets.ofString text

end Report

namespace Console

open Session (World)
open Relay (Pump Resizer)

/-! ### Failures -/

/-- A text with its lines behind an indentation, the first behind a label. -/
def indented (label indent text : String) : String :=
  label ++ ("\n" ++ indent).intercalate (text.splitOn "\n")

/-- A failure with its causes. -/
def failureText : List String → String
  | [] => ""
  | [message] => "Error: " ++ message ++ "\n"
  | [message, cause] =>
    "Error: " ++ message ++ "\n\nCaused by:\n" ++ indented "    " "    " cause ++ "\n"
  | message :: causes =>
    "Error: " ++ message ++ "\n\nCaused by:\n" ++
      String.join (causes.zipIdx.map fun (cause, n) =>
        indented ("    " ++ toString n ++ ": ") "       " cause ++ "\n")

/-! ### The command -/

/-- Opens the log, with the directories above it if need be. -/
def openLog (files : FileTree) (cwd : Place) (path : Path) : FileTree :=
  if files.isPresent (some cwd) path then files
  else match files.create cwd path (.file 0o644 (.data [])) with
    | .ok files => files
    | .error _ => files

/-- Program and arguments: those of the command line, or else a shell. -/
def programOf (o : Options) (c : Config) (env : List Variable) : String × List String :=
  match o.command, o.shell with
  | program :: args, _ => (program, args)
  | [], some shell => (shell, [])
  | [], none => (c.defaultShell env, c.args)

/-- The action on a cancellation when a grace time is configured: the program is told to hang up. -/
def graceAction : Action := .signal Signal.hangUp

/-- The command to run, with its token. -/
def commandOf (o : Options) (c : Config) (env : List Variable) (token : Nat) : Command Action Nat :=
  let (program, args) := programOf o c env
  let start : Command Action Nat := {
    program := Octets.ofString program, args := args.map Octets.ofString, token := some token
    dir := (o.dir.or c.workingDir).map Octets.ofString }
  let vars := (c.vars ++ o.vars).map fun (k, v) =>
    (⟨Octets.ofString k, Octets.ofString v⟩ : Variable)
  let start := if vars.isEmpty then start else start.addVars env vars
  match c.session.killGrace with
  | some grace => { start with delay := some (grace.toNat * 1000), action := some graceAction }
  | none => start

/-! ### The relay -/

/-- The parties that serve the terminal while the program runs. -/
structure Parties where
  job : Nat
  pump : Pump := {}
  /-- When the present read of the pump gives up; nothing once the pump has stopped. -/
  reading : Option Nat
  resizer : Resizer
  interval : Nat
  /-- When the resizer looks at the console next; nothing once it has stopped. -/
  nextPoll : Option Nat
  /-- The outcome of the program, once it is there. -/
  outcome : Option (Except Fault ExitState) := none
  console : Option WindowSize
  /-- What was shown there before the relay began. -/
  shown : Octets := []
  play : Option Play
  /-- When the hand moves, after its cue was shown. -/
  cue : Option Nat := none
  /-- What was typed and not passed on yet. -/
  typed : Octets := []
  /-- The output so far, last first. -/
  pieces : List Octets := []

/-- How long the hand at the console takes to move, in microseconds. -/
def reactionTime : Nat := 100000

/-- Whether a text occurs in another one. -/
def occurs (piece : Octets) : Octets → Bool
  | [] => piece.isEmpty
  | b :: rest => piece.isPrefixOf (b :: rest) || occurs piece rest

/-- The pump reads and writes as long as something is shown, so many times at most. -/
def servePump : Nat → Parties → World → Parties × World
  | 0, p, w => (p, w)
  | fuel + 1, p, w =>
    match p.reading, w.masters[0]? with
    | some deadline, some m =>
      let done := p.outcome.isSome
      let (stage, kernel) := m.readOnce w.kernel Relay.chunkSize (deadline ≤ w.clock)
        (Terminal.startTimedRead m.closed Relay.chunkSize)
      let w := { w with kernel }
      let again := some (w.clock + Relay.outputPoll)
      match stage with
      | .finished result =>
        match Pump.afterRead done result with
        | .stop => ({ p with reading := none }, w)
        | .read => servePump fuel { p with reading := again } w
        | .write data =>
          let p := { p with pieces := data :: p.pieces }
          match p.pump.afterWrite true done w.clock w.clock with
          | (.stop, pump) => ({ p with pump, reading := none }, w)
          | (_, pump) => servePump fuel { p with pump, reading := again } w
      | _ => (p, w)
    | _, _ => (p, w)

/-- The resizer looks at the console when it is time. Only then it finds out that the program is done, so it
looks once more after that. -/
def serveResizer (p : Parties) (w : World) : Parties × World :=
  if p.nextPoll.all fun moment => w.clock < moment then (p, w)
  else
    let (size, resizer) := p.resizer.poll p.console
    let nextPoll := if p.outcome.isSome then none else some (w.clock + p.interval)
    let p := { p with resizer, nextPoll }
    match size, w.masters[0]? with
    | some size, some m =>
      match m.resize w.kernel size with
      | .ok kernel => (p, { w with kernel })
      | .error _ => (p, w)
    | _, _ => (p, w)

/-- The hand at the console waits for its cue and moves. -/
def serveHand (p : Parties) (w : World) : Parties :=
  match p.play, p.cue with
  | some play, none =>
    if occurs play.after (p.shown ++ p.pieces.reverse.flatten) then
      { p with cue := some (w.clock + reactionTime) }
    else p
  | some play, some moment =>
    if moment ≤ w.clock then
      { p with console := play.resize.or p.console, typed := play.input, play := none, cue := none }
    else p
  | none, _ => p

/-- What was typed goes to the program. -/
def serveKeys (p : Parties) (w : World) : Parties × World :=
  match p.typed, w.masters[0]? with
  | [], _ | _, none => (p, w)
  | typed, some m =>
    match m.writeOnce w.kernel typed (Terminal.startWrite m.closed typed) with
    | (.finished (.ok n), kernel) => ({ p with typed := typed.drop n }, { w with kernel })
    | (.finished (.error _), kernel) => ({ p with typed := [] }, { w with kernel })
    | (_, kernel) => (p, { w with kernel })

/-- Everybody does what there is to do now. -/
def serve (p : Parties) (w : World) : Parties × World :=
  let w := w.settle
  let p := { p with outcome := p.outcome.or (w.outcome? p.job) }
  let (p, w) := servePump (2 * Terminal.Device.shownLimit) p w
  let (p, w) := serveResizer p w
  serveKeys (serveHand p w) w

/-- Relays until the program is done and the pump has stopped. -/
def relay : Nat → Parties → World → Parties × World
  | 0, p, w => (p, w)
  | fuel + 1, p, w =>
    let (p, w) := serve p w
    if p.outcome.isSome && p.reading.isNone then (p, w)
    else
      match w.kernel.advance Host.Program.step
        (p.reading.toList ++ p.cue.toList ++ p.nextPoll.toList ++ w.moments) with
      | some kernel => relay fuel p { w with kernel }
      | none => (p, w)

/-- The parties as the relay begins, for a program that was opened at a moment. The hand has its cue and may
have moved already when the text was shown before that; the resizer has its first look only now. -/
def assemble (i : Invocation) (c : Config) (play : Option Play) (shown : Octets) (opened job : Nat)
    (w : World) : Parties :=
  let interval := 1000 * max c.session.resizePoll.toNat Relay.shortestPoll
  let cue := (play.filter fun play => occurs play.after shown).map fun _ => opened + reactionTime
  let p : Parties := {
    job, interval, shown, play, cue, console := i.console, resizer := ⟨i.console⟩
    reading := some (w.clock + Relay.outputPoll), nextPoll := some (w.clock + interval) }
  let p := serveHand p w
  { p with resizer := ⟨p.console⟩ }

/-! ### The run -/

/-- How long a look into a directory takes, in microseconds, when the way there is long. -/
def lookTime : Nat := 50

/-- The search for the program of a command takes its time. -/
def spendSearch (w : World) (command : Command Action Nat) : World :=
  let spent := lookTime * Executable.looks w.surroundings command.program
  { w with kernel := { w.kernel with clock := w.clock + spent } }

/-- How a session ended: with a state, or with a failure and its causes. -/
def session (i : Invocation) (o : Options) (c : Config) (play : Option Play) (shown : Octets) (w : World) :
    Except (List String) ExitState × List Octets × World :=
  let size := Relay.initialSize c.session.rows c.session.cols i.console
  match Host.Master.openIn w.kernel size with
  | .error e => (.error ["Failed to open pseudo-terminal", e.message], [], w)
  | .ok (m, kernel) =>
    let (token, w) := { w with kernel, masters := [m] }.addToken
    let timeout := o.timeout.or (c.session.timeout.map UInt64.toNat)
    let w := { w with timers := timeout.toList.map fun s => (w.clock + s * 1000000, token) }
    let command := commandOf o c i.vars token
    let failed := "Failed to start " ++ (programOf o c i.vars).1
    if i.console.isNone then
      (.error [failed, "Failed to enable raw mode", Fault.noDevice.message], [], w)
    else match (spendSearch w command).start 0 command {} with
      | (.error e, _, w) => (.error (failed :: (Error.starting e).chain), [], w)
      | (.ok job, _, v) =>
        -- a look of the resizer that is still to come finds the terminal closed
      let (p, w) := relay World.patience (assemble i c play shown w.clock job v) v
        let w := match w.masters[0]? with
          | some m =>
            let (m, kernel) := m.close w.kernel
            { w with kernel }.setMaster 0 m
          | none => w
        let result := match p.outcome with
          | some (.ok state) => .ok state
          | some (.error f) => .error (Error.waiting (.os f)).chain
          | none => .error ["The program never ended"]
        (result, p.pieces.reverse, w)

/-- Runs the program. -/
def run (i : Invocation) (play : Option Play := none) : Report :=
  match Options.parse i.args with
  | .help => { status := 0, pieces := [.said Options.helpText], files := i.files }
  | .version => { status := 0, pieces := [.said Options.versionText], files := i.files }
  | .refuse reason => { status := 1, pieces := [.said (Options.refusalText reason)], files := i.files }
  | .run o =>
    let (c, trouble) := Config.load i.files (some i.cwd) i.vars
    let warning := trouble.toList.map fun e => Piece.said ("Warning: " ++ e.message ++ "\n")
    let files := openLog i.files i.cwd (c.logPath i.vars)
    let w : World := { kernel := { files }, vars := i.vars, cwd := i.cwd }
    let (result, relayed, w) := session i o c play (warning.flatMap Piece.atConsole) w
    let (status, last) := match result with
      | .error causes => (1, [Piece.said (failureText causes)])
      | .ok state =>
        ((state.shellStatus % 256).toNat,
          if state.cancelled then
            [Piece.said (Options.programName ++ ": program cancelled (" ++ state.text ++ ")\n")]
          else [])
    { status, pieces := warning ++ relayed.map Piece.relayed ++ last, files := w.kernel.files }

end Console

end PseudoTerminal
