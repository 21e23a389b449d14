import PseudoTerminal.Relay.Pump
import PseudoTerminal.Session.Entry
import PseudoTerminal.Terminal.WriteAll

/-! Scripts of session steps. Terminals, commands and tokens go by names; every step gives one answer.
Some steps act from a second party while the first one waits, as a write whose echo is read back. -/

namespace PseudoTerminal.Session.Script

open Host (Master)
open Terminal (Stage)

/-- A call that builds a command. -/
inductive Build
  | args (args : List Octets)
  | vars (vars : List Variable)
  | clearVars
  | dir (dir : Path)
  | token (name : String)
  /-- In microseconds. -/
  | delay (duration : Nat)
  | attributes (attributes : Attributes)
  | action (action : Action)
  deriving Repr

inductive Step
  | openTerminal (pty : String) (size : WindowSize)
  | size (pty : String)
  | resize (pty : String) (size : WindowSize)
  | close (pty : String)
  | isClosed (pty : String)
  | name (pty : String)
  | control (pty : String)
  | write (pty : String) (data : Octets)
  | writeAll (pty : String) (data : Octets)
  /-- One read, of at most so many octets, within a time in microseconds if one is given. -/
  | read (pty : String) (room : Nat) (within : Option Nat)
  /-- Reads until so many octets are there. -/
  | readExact (pty : String) (count : Nat)
  /-- Reads octet by octet until the needle has been read. -/
  | readUntil (pty : String) (needle : Octets)
  /-- Writes so many letters and reads as many octets back. -/
  | echo (pty : String) (count : Nat)
  /-- Reads while the terminal is closed by somebody else. -/
  | readWhileClosing (pty : String) (within : Option Nat)
  /-- Closes from several sides at once. -/
  | closeTogether (pty : String)
  /-- Pumps out what is shown, for a program that is done. -/
  | pump (pty : String) (limit : Option Nat)
  | token (name : String) (timeout : Option Nat)
  | cancel (token : String)
  | isCancelled (token : String)
  | sleep (duration : Nat)
  | command (cmd pty : String) (program : Octets) (build : List Build)
  | start (cmd : String)
  | wait (cmd : String)
  | run (cmd : String)
  | hasId (cmd : String)
  | drop (cmd : String)
  | debug (cmd : String)
  /-- Starts a command after the console was switched to raw mode, which may fail. -/
  | startAttached (cmd : String) (raw : Bool)
  | notes
  deriving Repr

inductive Answer
  | done
  | nothing
  | truth (value : Bool)
  | count (n : Nat)
  | octets (data : Octets)
  | size (size : WindowSize)
  | state (state : ExitState)
  | text (text : String)
  | device (isDevice : Bool)
  | echoed (count : Nat) (equal : Bool)
  | notes (notes : List Note)
  | error (error : Error)
  /-- A failure that is told with its causes. -/
  | chain (messages : List String)
  /-- The step names something that is not there, or would never end. -/
  | impossible (reason : String)

structure State where
  world : World
  terminals : List (String × Nat) := []
  tokens : List (String × Nat) := []
  commands : List (String × Entry) := []

namespace State

/-- Binds a name anew. -/
def bind {α : Type} (names : List (String × α)) (name : String) (a : α) : List (String × α) :=
  (name, a) :: names.filter (·.1 != name)

def master? (s : State) (pty : String) : Option (Nat × Master) := do
  let i ← s.terminals.lookup pty
  let m ← s.world.masters[i]?
  return (i, m)

def setEntry (s : State) (cmd : String) (e : Entry) : State :=
  { s with commands := bind s.commands cmd e }

def missing (kind name : String) : Answer := .impossible ("no " ++ kind ++ " " ++ name)

/-- A wait that nothing can end. -/
def endless : Answer := .impossible "nothing can happen any more"

/-- Does something with a terminal. -/
def withTerminal (s : State) (pty : String) (f : Nat → Master → Answer × State) : Answer × State :=
  match s.master? pty with
  | some (i, m) => f i m
  | none => (missing "terminal" pty, s)

def withCommand (s : State) (cmd : String) (f : Entry → Answer × State) : Answer × State :=
  match s.commands.lookup cmd with
  | some e => f e
  | none => (missing "command" cmd, s)

/-! ### Terminals -/

/-- Waits until an attempt at a terminal gives an answer. -/
def attempt {α : Type} (s : State) (i : Nat) (own : World → List Nat) (answer : α → Answer)
    (f : Master → World → Option α × World) : Answer × State :=
  let (result, world) := World.run (fun w =>
    match w.masters[i]? with
    | some m => f m w
    | none => (none, w)) own World.patience s.world
  let s := { s with world }
  match result with
  | some a => (answer a, s)
  | none => (endless, s)

def failure {α : Type} (answer : α → Answer) : Except TransferError α → Answer
  | .ok a => answer a
  | .error e => .error (.transferring e)

def result? {α : Type} : Stage α → Option (Except TransferError α)
  | .finished result => some result
  | _ => none

def optional : Option Octets → Answer
  | some data => .octets data
  | none => .nothing

/-- When a wait ends that began at a moment. An interruption lets it begin anew, with all its time. -/
def deadline (since duration : Nat) (w : World) : Nat := max since w.kernel.interrupted + duration

/-- A read of a terminal that may have to wait, within a time if one is given. -/
def read (s : State) (i room : Nat) (start : Stage (Option Octets)) (within : Option Nat) :
    Answer × State :=
  let deadline? (w : World) : Option Nat :=
    within.map fun d => deadline s.world.clock (Terminal.lookTime d) w
  s.attempt i (fun w => (deadline? w).toList) (failure optional) fun m w =>
    let (stage, kernel) := m.readOnce w.kernel room ((deadline? w).any (· ≤ w.clock)) start
    (result? stage, { w with kernel })

/-- Reads until what was read, last octet first, is enough. -/
def gather (s : State) (i : Nat) (room : Octets → Nat) (enough : Octets → Bool) : Answer × State :=
  let rec collect (m : Master) (taken : Octets) : Nat → World → Except TransferError Octets × World
    | 0, w => (.ok taken, w)
    | fuel + 1, w =>
      if enough taken then (.ok taken, w)
      else
        let (stage, kernel) := m.readOnce w.kernel (room taken) false (Terminal.startRead m.closed 1)
        let w := { w with kernel }
        match stage with
        | .finished (.error e) => (.error e, w)
        | .finished (.ok (some (b :: data))) => collect m ((b :: data).reverseAux taken) fuel w
        | _ => (.ok taken, w)
  let rec go (taken : Octets) : Nat → World → Option (Except TransferError Octets) × World
    | 0, w => (none, w)
    | fuel + 1, w =>
      let w := w.settle
      match w.masters[i]? with
      | none => (none, w)
      | some m =>
        match collect m taken (2 * Terminal.Device.shownLimit) w with
        | (.error e, w) => (some (.error e), w)
        | (.ok taken, w) =>
          if enough taken then (some (.ok taken), w)
          else match w.kernel.advance Host.Program.step w.moments with
            | some kernel => go taken fuel { w with kernel }
            | none => (none, w)
  match go [] World.patience s.world with
  | (some result, world) =>
    (failure (fun taken => .octets taken.reverse) result, { s with world })
  | (none, world) => (endless, { s with world })

/-- What is left to write and what was read back, last octet first. -/
structure Exchange where
  left : Octets
  back : Octets := []
  /-- How many octets are still to be read. -/
  wanted : Nat

/-- Writes and reads at once until everything was written and as much was read. -/
def exchange (i : Nat) (x : Exchange) : Nat → World → Option (Except TransferError Exchange) × World
  | 0, w => (none, w)
  | fuel + 1, w =>
    let w := w.settle
    match w.masters[i]? with
    | none => (none, w)
    | some m =>
      let (wrote, kernel) := m.writeOnce w.kernel x.left (Terminal.startWrite m.closed x.left)
      let (got, kernel) := m.readOnce kernel x.wanted false (Terminal.startRead m.closed x.wanted)
      let w := { w with kernel }
      match wrote, got with
      | .finished (.error e), _ => (some (.error e), w)
      | _, .finished (.error e) => (some (.error e), w)
      | _, _ =>
        let x := match wrote with
          | .finished (.ok n) => { x with left := x.left.drop n }
          | _ => x
        let x := match got with
          | .finished (.ok (some data)) =>
            { x with back := data.reverseAux x.back, wanted := x.wanted - data.length }
          | _ => x
        if x.left.isEmpty && x.wanted == 0 then (some (.ok x), w)
        else match w.kernel.advance Host.Program.step w.moments with
          | some kernel => exchange i x fuel { w with kernel }
          | none => (none, w)

/-- Letters in alphabetical order, over and over. -/
def letters (count : Nat) : Octets := (List.range count).map fun i => UInt8.ofNat (97 + i % 26)

def echo (s : State) (i count : Nat) : Answer × State :=
  match exchange i { left := letters count, wanted := count } World.patience s.world with
  | (some result, world) =>
    (failure (fun x => .echoed x.back.length (x.back.reverse == letters count)) result, { s with world })
  | (none, world) => (endless, { s with world })

/-- Writes what is left as far as there is room, until nothing is left. -/
def writeAll (s : State) (i : Nat) (data : Octets) : Answer × State :=
  let device : Terminal.Write (Nat × World) := fun (fuel, w) data =>
    match World.run (fun w =>
      match w.masters[i]? with
      | some m =>
        let (stage, kernel) := m.writeOnce w.kernel data (Terminal.startWrite m.closed data)
        (result? stage, { w with kernel })
      | none => (none, w)) (fun _ => []) fuel w with
    | (some result, w) => (result, fuel, w)
    | (none, w) => (.error .closed, fuel, w)
  let (result, _, world) := Terminal.writeAll device (World.patience, s.world) data
  (failure (fun () => .done) result, { s with world })

def closeTerminal (s : State) (i : Nat) : State :=
  match s.world.masters[i]? with
  | none => s
  | some m =>
    let (m, kernel) := m.close s.world.kernel
    { s with world := ({ s.world with kernel }.setMaster i m).settle }

/-- How long a reader waits before the terminal is closed under it, in microseconds. -/
def closingDelay : Nat := 30000

def readWhileClosing (s : State) (i : Nat) (m : Master) (within : Option Nat) : Answer × State :=
  let room := 64
  let start := if within.isSome then Terminal.startTimedRead m.closed room
    else Terminal.startRead m.closed room
  let closing := s.world.clock + closingDelay
  let deadline := within.map fun d => s.world.clock + Terminal.lookTime d
  let (result, world) := World.run (fun w =>
    match w.masters[i]? with
    | some m =>
      let (stage, kernel) := m.readOnce w.kernel room (deadline.any (· ≤ w.clock)) start
      let w := { w with kernel }
      match result? stage with
      | some result => (some (some result), w)
      | none => (if closing ≤ w.clock then some none else none, w)
    | none => (some none, w)) (fun _ => closing :: deadline.toList) World.patience s.world
  let s := { s with world }.closeTerminal i
  match result with
  | some (some result) => (failure optional result, s)
  | _ => (.error (.transferring .closed), s)

/-- Pumps out what is shown, for a program that is done. -/
def pump (s : State) (i : Nat) (limit : Option Nat) : Answer × State :=
  let rec go (p : Relay.Pump) (sink : Relay.Sink) (since : Nat) : Nat → World → Relay.Sink × World
    | 0, w => (sink, w)
    | fuel + 1, w =>
      let w := w.settle
      match w.masters[i]? with
      | none => (sink, w)
      | some m =>
        let deadline := deadline since Relay.outputPoll w
        let (stage, kernel) := m.readOnce w.kernel Relay.chunkSize (deadline ≤ w.clock)
          (Terminal.startTimedRead m.closed Relay.chunkSize)
        let w := { w with kernel }
        match stage with
        | .finished result =>
          match Relay.Pump.afterRead true result with
          | .stop => (sink, w)
          | .read => go p sink w.clock fuel w
          | .write data =>
            let (written, sink) := sink.write data
            match p.afterWrite written true w.clock w.clock with
            | (.stop, _) => (sink, w)
            | (_, p) => go p sink w.clock fuel w
        | _ =>
          match w.kernel.advance Host.Program.step (deadline :: w.moments) with
          | some kernel => go p sink since fuel { w with kernel }
          | none => (sink, w)
  let (sink, world) :=
    go {} { room := limit } s.world.clock World.patience s.world
  (.octets sink.written, { s with world })

/-! ### Commands -/

/-- Carries out a call that builds a command. -/
def build (s : State) (c : Command Action Nat) : Build → Command Action Nat
  | .args args => c.addArgs args
  | .vars vars => c.addVars s.world.vars vars
  | .clearVars => c.clearVars
  | .dir dir => { c with dir := some dir }
  | .token name => { c with token := s.tokens.lookup name }
  | .delay d => { c with delay := some d }
  | .attributes a => { c with attributes := a }
  | .action a => { c with action := some a }

def start (s : State) (cmd : String) (e : Entry) : Except StartError Unit × State :=
  let (result, e, world) := e.start s.world
  (result, { s with world }.setEntry cmd e)

def wait (s : State) (cmd : String) (e : Entry) : Answer × State :=
  let (result, e, world) := e.wait s.world
  let answer := match result with
    | some (.ok state) => .state state
    | some (.error f) => .error (.waiting f)
    | none => endless
  (answer, { s with world }.setEntry cmd e)

/-- The failure of a console that has no raw mode. -/
def noRawMode : List String :=
  ["Failed to enable raw mode", (Fault.plain .unsupported).message]

/-- Starts a command on a console; a failure closes the terminal. -/
def startAttached (s : State) (cmd : String) (e : Entry) (raw : Bool) : Answer × State :=
  if raw then
    match s.start cmd e with
    | (.ok (), s) => (.done, s)
    | (.error f, s) => (.chain (Error.starting f).chain, s.closeTerminal e.terminal)
  else (.chain noRawMode, s.closeTerminal e.terminal)

/-! ### Steps -/

def perform (s : State) : Step → Answer × State
  | .openTerminal pty size =>
    match Master.openIn s.world.kernel size with
    | .error e => (.error (.opening e), s)
    | .ok (m, kernel) =>
      (.done, { s with
        terminals := bind s.terminals pty s.world.masters.length
        world := { s.world with kernel, masters := s.world.masters ++ [m] } })
  | .size pty => s.withTerminal pty fun _ m =>
    match m.size s.world.kernel with
    | .ok size => (.size size, s)
    | .error e => (.error (.resizing e), s)
  | .resize pty size => s.withTerminal pty fun _ m =>
    match m.resize s.world.kernel size with
    | .ok kernel => (.done, { s with world := { s.world with kernel }.settle })
    | .error e => (.error (.resizing e), s)
  | .close pty => s.withTerminal pty fun i _ => (.done, s.closeTerminal i)
  | .isClosed pty => s.withTerminal pty fun _ m => (.truth m.closed, s)
  | .name pty => s.withTerminal pty fun _ _ => (.device true, s)
  | .control pty => s.withTerminal pty fun _ m =>
    match m.control s.world.kernel fun _ => true with
    | .ok b => (.truth b, s)
    | .error e => (.error (.resizing e), s)
  | .write pty data => s.withTerminal pty fun i m =>
    s.attempt i (fun _ => []) (failure .count) fun now w =>
      let (stage, kernel) := now.writeOnce w.kernel data (Terminal.startWrite m.closed data)
      (result? stage, { w with kernel })
  | .writeAll pty data => s.withTerminal pty fun i _ => s.writeAll i data
  | .read pty room none => s.withTerminal pty fun i m =>
    s.read i room (Terminal.startRead m.closed room) none
  | .read pty room (some d) => s.withTerminal pty fun i m =>
    s.read i room (Terminal.startTimedRead m.closed room) (some d)
  | .readExact pty count => s.withTerminal pty fun i _ =>
    s.gather i (fun taken => count - taken.length) (fun taken => count ≤ taken.length)
  | .readUntil pty needle => s.withTerminal pty fun i _ =>
    s.gather i (fun _ => 1) (fun taken => needle.reverse.isPrefixOf taken)
  | .echo pty count => s.withTerminal pty fun i _ => s.echo i count
  | .readWhileClosing pty within => s.withTerminal pty fun i m => s.readWhileClosing i m within
  | .closeTogether pty => s.withTerminal pty fun i _ => (.truth true, s.closeTerminal i)
  | .pump pty limit => s.withTerminal pty fun i _ => s.pump i limit
  | .token name timeout =>
    let (i, world) := s.world.addToken
    let timers := timeout.toList.map fun d => (world.clock + d, i)
    (.done, { s with
      tokens := bind s.tokens name i
      world := { world with timers := world.timers ++ timers } })
  | .cancel token =>
    match s.tokens.lookup token with
    | some i => (.done, { s with world := (s.world.cancel i).settle })
    | none => (missing "token" token, s)
  | .isCancelled token =>
    match s.tokens.lookup token with
    | some i => (.truth (s.world.settle.isCancelled i), s)
    | none => (missing "token" token, s)
  | .sleep d => (.done, { s with world := s.world.sleepUntil (s.world.clock + d) })
  | .command cmd pty program calls => s.withTerminal pty fun i _ =>
    (.done, s.setEntry cmd { command := calls.foldl s.build { program }, terminal := i })
  | .start cmd => s.withCommand cmd fun e =>
    match s.start cmd e with
    | (.ok (), s) => (.done, s)
    | (.error f, s) => (.error (.starting f), s)
  | .wait cmd => s.withCommand cmd fun e => s.wait cmd e
  | .run cmd => s.withCommand cmd fun e =>
    match s.start cmd e with
    | (.error f, s) => (.error (.starting f), s)
    | (.ok (), s) => s.withCommand cmd fun e => s.wait cmd e
  | .hasId cmd => s.withCommand cmd fun e => (.truth e.life.pid.isSome, s)
  | .drop cmd =>
    (.truth (s.commands.lookup cmd).isSome,
      { s with commands := s.commands.filter (·.1 != cmd) })
  | .debug cmd => s.withCommand cmd fun e => (.text (e.command.text e.life.pid), s)
  | .startAttached cmd raw => s.withCommand cmd fun e => s.startAttached cmd e raw
  | .notes => (.notes s.world.notes.reverse, { s with world := { s.world with notes := [] } })

end State

/-- The answers to the steps of a script in a world. -/
def run (world : World) (script : List Step) : List Answer :=
  (script.foldl (fun (answers, s) step =>
    let (a, s) := s.perform step
    (a :: answers, s)) (([] : List Answer), ({ world } : State))).1.reverse

end PseudoTerminal.Session.Script
