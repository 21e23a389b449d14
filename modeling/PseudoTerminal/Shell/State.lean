import PseudoTerminal.Environment.Basic
import PseudoTerminal.ExitState
import PseudoTerminal.Host.Signal
import PseudoTerminal.Shell.Reader

/-! The state of a running shell: variables, positional parameters, traps, what it is doing now, and the
stack of what it will do when that is done. -/

namespace PseudoTerminal.Shell

structure Setting where
  name : Octets
  value : Option Octets
  exported : Bool := false
  constant : Bool := false
  deriving Repr, Inhabited

/-- What the shell does when the present command is done. -/
inductive Frame
  | andThen (command : Command)
  | orElse (command : Command)
  | next (command : Command)
  | invert
  | branch (yes no : Command)
  /-- The condition of a loop is being tested; the status is that of the body before. -/
  | loopTest (until_ : Bool) (condition body : Command) (status : Nat)
  | loopBody (until_ : Bool) (condition body : Command)
  | eachNext (name : Octets) (values : List Octets) (body : Command)
  /-- Descriptors that a redirection replaced, each with where the old one is kept. -/
  | restore (saved : List (Nat × Option Nat))
  | callEnd (args : List Octets) (locals : List (Octets × Option Setting)) (flags : Option (List Char))
      (isCall : Bool)
  /-- A text of another command ends: what messages begin with is put back. From the text of a file one can
  return. -/
  | within (context : Octets) (isFile : Bool)
  /-- A text whose commands are run one after another, and its line number. -/
  | text (rest : Source) (line : Nat)
  /-- A script that is read from a descriptor, as far as it was read. -/
  | input (number : Nat) (rest : Source) (line : Nat) (ended : Bool)
  | trapEnd (status : Nat)
  | exitWith (status : Nat)
  deriving Inhabited

/-- Where a jump leads. -/
inductive Jump
  | leave (levels : Nat)
  | again (levels : Nat)
  | back (status : Nat)
  deriving Repr

/-- A process of a job, with the text of its command and how it ended. -/
structure Member where
  pid : Nat
  text : Octets := []
  result : Option ExitKind := none
  deriving DecidableEq, Repr

/-- Processes that the user knows under one number. -/
structure Job where
  number : Nat
  members : List Member
  stopped : Option Signal := none
  /-- It has a group of its own. -/
  controlled : Bool := false
  /-- The user has not been told what became of it. -/
  changed : Bool := false
  /-- It was waited for, so that its number may be used again. -/
  waited : Bool := false
  deriving DecidableEq, Repr

namespace Job

def leader (j : Job) : Nat := (j.members.head?.map Member.pid).getD 0

def last (j : Job) : Nat := (j.members.getLast?.map Member.pid).getD 0

def isDone (j : Job) : Bool := j.members.all (·.result.isSome)

def isRunning (j : Job) : Bool := !j.isDone && j.stopped.isNone

def isStopped (j : Job) : Bool := !j.isDone && j.stopped.isSome

/-- How the job ended, once it has. -/
def result (j : Job) : Option ExitKind :=
  if j.isDone then j.members.getLast?.bind Member.result else none

def has (j : Job) (pid : Nat) : Bool := j.members.any (·.pid == pid)

/-- The job after one of its processes ended. -/
def noteEnd (pid : Nat) (kind : ExitKind) (j : Job) : Job :=
  if !j.has pid then j
  else
    let note (m : Member) : Member := if m.pid == pid then { m with result := some kind } else m
    let j := { j with members := j.members.map note }
    { j with changed := j.changed || j.isDone }

end Job

/-- An unfinished line of input for `read`. -/
structure Gathering where
  names : List Octets
  raw : Bool
  /-- The octets so far, each with whether it was escaped, most recent first. -/
  taken : List (UInt8 × Bool) := []
  escaped : Bool := false
  deriving Repr

/-- What the shell is doing. -/
inductive Focus
  | run (command : Command)
  | finish (status : Nat)
  | jump (jump : Jump)
  /-- A command substitution is running; its output goes into the command. -/
  | substitute (command : Command) (child : Nat) (number : Nat) (output : Octets)
  /-- Children are awaited, of which the last gives the status. -/
  | await (children : List Nat) (last : Nat) (status : Nat)
  /-- Texts go to descriptors, then the command is done; a fatal one ends the shell. The loss of output is
  complained about in the words given. -/
  | print (texts : List (Nat × Octets)) (status : Nat) (fatal : Bool) (lost : Octets)
  | gather (input : Gathering)
  /-- The builtin waits for background jobs, one after another. -/
  | join (pids : List Nat) (status : Nat)
  /-- The builtin waits for all background jobs. -/
  | joinAll
  /-- A child is about to become another program. -/
  | launch (line : Nat) (assignments : List (Octets × Octets)) (fields : List Octets)
      (redirects : List Redirect)
  | exit (status : Nat)
  deriving Inhabited

structure State where
  /-- The name under which messages appear. -/
  name : Octets
  pid : Nat
  args : List Octets := []
  settings : List Setting := []
  functions : List (Octets × Command) := []
  status : Nat := 0
  /-- The status of the last command substitution of the present command. -/
  substituted : Option Nat := none
  lastJob : Option Nat := none
  /-- What messages begin with, for the command that has a text of commands run. -/
  context : Octets := []
  /-- Names that stand for texts at the front of a command. -/
  aliases : List (Octets × Octets) := []
  /-- The word and the octet in it where the reading of options goes on. -/
  optionPlace : Option (Nat × Nat) := none
  /-- Background jobs, the current one first. -/
  jobs : List Job := []
  /-- Names of programs that have been found, oldest first. -/
  hashed : List Octets := []
  /-- Signals that were ignored from the start and stay so. -/
  deaf : List Signal := []
  /-- Actions by signal, zero for the end of the shell. -/
  traps : List (Signal × Octets) := []
  flags : List Char := []
  directory : Octets := []
  line : Nat := 1
  /-- Whether the prompt for the line that is being read has been printed. -/
  prompted : Bool := false
  /-- For so many commands a warning about stopped jobs counts. -/
  warned : Nat := 0
  frames : List Frame := []
  focus : Focus := .finish 0
  deriving Inhabited

namespace State

def setting? (sh : State) (name : Octets) : Option Setting := sh.settings.find? (·.name == name)

def value? (sh : State) (name : Octets) : Option Octets := (sh.setting? name).bind Setting.value

def valueOf (sh : State) (name : String) : Option Octets := sh.value? (Octets.ofString name)

/-- Replaces a setting, or adds it behind the others. -/
def put (sh : State) (s : Setting) : State :=
  if (sh.setting? s.name).isSome then
    { sh with settings := sh.settings.map fun t => if t.name == s.name then s else t }
  else { sh with settings := sh.settings ++ [s] }

/-- Gives a variable a value; a constant one keeps its own. -/
def assign? (sh : State) (name value : Octets) : Option State :=
  let s := (sh.setting? name).getD { name, value := none }
  if s.constant then none
  else some (sh.put { s with value := some value, exported := s.exported || sh.flags.contains 'a' })

def assign (sh : State) (name value : Octets) : State := (sh.assign? name value).getD sh

def unset (sh : State) (name : Octets) : State :=
  { sh with settings := sh.settings.filter (·.name != name) }

def has (sh : State) (flag : Char) : Bool := sh.flags.contains flag

/-- Sets a flag or clears it. -/
def switch (sh : State) (on : Bool) (flag : Char) : State :=
  let others := sh.flags.filter (· != flag)
  { sh with flags := if on then flag :: others else others }

def push (sh : State) (f : Frame) : State := { sh with frames := f :: sh.frames }

def run (sh : State) (c : Command) : State := { sh with focus := .run c }

def finish (sh : State) (status : Nat) : State := { sh with focus := .finish status }

/-- The bucket of a name; variables are handed on bucket by bucket. -/
def bucket (name : Octets) : Nat :=
  match name with
  | [] => 0
  | b :: _ => name.foldl (fun n c => n + c.toNat) (b.toNat * 16) % 39

/-- The environment of a program that the shell starts, with the variables set for it alone. -/
def exports (sh : State) (extra : List (Octets × Octets)) : List Octets :=
  let all := extra.foldl (fun (sh : State) (name, value) =>
    sh.put { name, value := some value, exported := true }) sh
  let listed := all.settings.filter fun s => s.exported && s.value.isSome
  -- the variables that the shell knows from the start stand in front of their bucket
  let known := ["PATH", "PS1", "PS2", "PS4", "OPTIND", "IFS", "MAIL", "MAILPATH", "TERM", "HISTSIZE"]
  let isKnown (s : Setting) : Bool := known.any fun n => Octets.ofString n == s.name
  (List.range 39).flatMap fun n =>
    let here := listed.filter fun s => bucket s.name == n
    (here.filter isKnown ++ here.filter (!isKnown ·)).map fun s =>
      s.name ++ 61 :: s.value.getD []

/-- A text between quotes, those in it between quotes of the other kind. -/
def singleQuoted (s : Octets) : Octets :=
  let piece (open_ : Bool) (s : Octets) : Octets := if open_ then 39 :: s ++ [39] else 34 :: s ++ [34]
  let rec go : Nat → Octets → Octets
    | 0, _ => []
    | fuel + 1, s =>
      let plain := s.takeWhile (· != 39)
      let rest := s.drop plain.length
      let quotes := rest.takeWhile (· == 39)
      if quotes.isEmpty then piece true plain
      else
        let left := rest.drop quotes.length
        piece true plain ++ piece false quotes ++ if left.isEmpty then [] else go fuel left
  go (s.length + 1) s

/-- The number for a new job, the least that is free. Without job control a job that was waited for makes
way. -/
def claimNumber (sh : State) : Nat × State :=
  let rec go : Nat → Nat → Nat × State
    | 0, n => (n, sh)
    | fuel + 1, n =>
      match sh.jobs.find? (·.number == n) with
      | none => (n, sh)
      | some j =>
        if j.waited && !sh.has 'm' then (n, { sh with jobs := sh.jobs.filter (·.number != n) })
        else go fuel (n + 1)
  go sh.jobs.length 1

/-- The status by which the end of a child is known. -/
def statusOf : ExitKind → Nat
  | .code n => n.toNat
  | .signal n => 128 + n.toNat

/-- A message of the shell itself. -/
def message (sh : State) (text : Octets) : Octets :=
  sh.name ++ Octets.ofString (": " ++ toString sh.line ++ ": ") ++ sh.context ++ text ++ [10]

/-- A message about the command that runs, whatever has run it. -/
def report (sh : State) (text : Octets) : Octets := { sh with context := [] }.message text

/-- Whether the status of the present command is looked at by the commands around it. -/
def isTested (sh : State) : Bool :=
  sh.frames.any fun f => match f with
    | .andThen _ | .orElse _ | .invert | .branch _ _ | .loopTest _ _ _ _ => true
    | _ => false

end State

end PseudoTerminal.Shell
