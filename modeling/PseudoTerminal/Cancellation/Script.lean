import PseudoTerminal.Cancellation.Token

/-! Scripts of token operations in which callbacks are scripts again. A script is run by an agenda of
tasks: a callback that fires puts its own steps in front, so it runs to its end before the operation
that fired it goes on. Operations refer to tokens and registrations by name. A callback may own
registrations, which are dropped together with it. One that is removed before it ran is dropped under
the lock of its token, so a script can come to wait for a lock that it holds itself. -/

namespace PseudoTerminal.Cancellation.Script

/-- One operation. -/
inductive Step
  | create (token : String)
  | createDefault (token : String)
  | clone (token source : String)
  | createTimed (token : String) (delay : Nat)
  | cancel (token : String)
  | isCancelled (token : String)
  | describe (token : String)
  | drop (token : String)
  /-- Waits until the token is cancelled and at least `lines` lines have been logged. -/
  | await (token : String) (lines : Nat)
  /-- Cancels from several threads at once; all but the first to raise the flag change nothing. -/
  | cancelTogether (token : String) (threads : Nat)
  /-- Registers a callback that logs its label and then runs its body. The registrations that it owns
  are taken from where they were kept. -/
  | onCancel (token label : String) (body : List Step) (owned : List String := [])
  | unregister (label : String)
  deriving Inhabited

/-- The word by which a step is logged inside a callback. -/
def Step.word : Step → String
  | create _ => "new"
  | createDefault _ => "default"
  | clone _ _ => "clone"
  | createTimed _ _ => "with_timeout"
  | cancel _ => "cancel"
  | isCancelled _ => "is_cancelled"
  | describe _ => "debug"
  | drop _ => "drop"
  | await _ _ => "await"
  | cancelTogether _ _ => "cancel_from_threads"
  | onCancel _ _ _ _ => "on_cancel"
  | unregister _ => "unregister"

mutual

/-- The number of steps in a step, those of its callback included, and with them the registrations
that callbacks own. -/
def Step.count : Step → Nat
  | .onCancel _ _ body owned => 1 + owned.length + countAll body
  | _ => 1

/-- The number of steps in a script, nested ones included. -/
def countAll : List Step → Nat
  | [] => 0
  | s :: rest => s.count + countAll rest

end

/-- What a step answers. -/
inductive Answer
  | done
  | truth (value : Bool)
  | text (value : String)
  /-- The step names a token that does not exist. -/
  | unknown
  deriving DecidableEq, Repr, Inhabited

/-- The answer in a log line. -/
def Answer.line : Answer → String
  | done => "\"ok\""
  | truth b => toString b
  | text s => "\"" ++ s ++ "\""
  | unknown => "null"

/-- A registration, bound to the token it waits on; one whose callback ran at once is bound to none. -/
structure Registration where
  token : Option (Nat × Nat) := none
  deriving Inhabited

/-- What a callback does. -/
structure Routine where
  label : String
  body : List Step

structure Callback extends Routine where
  owned : List Registration := []

/-- What is left to do. -/
inductive Task
  /-- A step, of the callback with the given label or of the script itself. -/
  | perform (owner : Option String) (step : Step)
  | call (callback : Callback)
  /-- Keep a registration under its label; one kept there before is dropped. -/
  | keep (label : String) (registration : Registration)
  /-- Remove a waiting callback under the lock of its token, and drop it. -/
  | release (token id : Nat)
  | unlock (token : Nat)
  /-- Drop the callbacks that wait on a token, if no name holds it any more. -/
  | abandon (token : Nat)
  | answer (owner : Option String) (word : String) (answer : Answer)
  /-- The answer whether a token is cancelled by now. -/
  | answerCancelled (owner : Option String) (word : String) (token : Nat)

/-- Dropping a registration. -/
def Registration.drop (r : Registration) : List Task :=
  (r.token.map fun (i, id) => Task.release i id).toList

/-- Dropping the registrations that a callback owns. -/
def Callback.drop (c : Callback) : List Task := c.owned.flatMap Registration.drop

/-- Takes the registrations that are kept under some labels: those, and what is left. -/
def capture : List String → List (String × Registration) → List Registration × List (String × Registration)
  | [], kept => ([], kept)
  | label :: labels, kept =>
    let (owned, left) := capture labels (kept.filter (·.1 != label))
    ((kept.lookup label).toList ++ owned, left)

/-- Tokens by number, the names that hold them, kept registrations, and timers by due time. -/
structure World where
  tokens : List (Token Callback) := []
  names : List (String × Nat) := []
  registrations : List (String × Registration) := []
  timers : List (Nat × Nat) := []
  clock : Nat := 0
  /-- Log lines, last first. -/
  log : List String := []
  /-- Answers of the script's own steps, last first. -/
  answers : List Answer := []
  agenda : List Task := []

namespace World

def token? (w : World) (name : String) : Option (Nat × Token Callback) := do
  let i ← w.names.lookup name
  let t ← w.tokens[i]?
  return (i, t)

def setToken (w : World) (i : Nat) (t : Token Callback) : World :=
  { w with tokens := w.tokens.set i t }

/-- Binds a name to a token. -/
def bind (w : World) (name : String) (i : Nat) : World :=
  { w with names := (name, i) :: w.names.filter (·.1 != name) }

def addToken (w : World) (name : String) : World :=
  { w with tokens := w.tokens ++ [({} : Token Callback)] }.bind name w.tokens.length

/-- What is to be done when a name stops holding its token. -/
def letGo (w : World) (name : String) : List Task := ((w.names.lookup name).map Task.abandon).toList

/-- Whether the lock of a token is held: then it is to be given back. -/
def isLocked (w : World) (i : Nat) : Bool :=
  w.agenda.any fun
    | .unlock j => j == i
    | _ => false

/-- Puts tasks in front of the agenda. -/
def first (w : World) (tasks : List Task) : World := { w with agenda := tasks ++ w.agenda }

/-- Whether any name still holds the token. -/
def isHeld (w : World) (i : Nat) : Bool := w.names.any (·.2 == i)

/-- The callbacks that a cancellation of token `i` sets off. -/
def fire (w : World) (i : Nat) : List Task × World :=
  match w.tokens[i]? with
  | none => ([], w)
  | some t =>
    let (callbacks, t) := t.cancel
    (callbacks.map Task.call, w.setToken i t)

/-- The timer that is due first, at `limit` at the latest. -/
def nextTimer? (w : World) (limit : Nat) : Option (Nat × Nat) :=
  w.timers.foldl (fun best timer =>
    if timer.1 > limit then best
    else match best with
      | some b => if timer.1 < b.1 then some timer else best
      | none => some timer) none

/-- How long a step waits for a cancellation, in milliseconds. -/
def patience : Nat := 5000

/-- Carries out one step. -/
def perform (w : World) (owner : Option String) (s : Step) : World :=
  let answer (a : Answer) : Task := .answer owner s.word a
  match s with
  | .create name | .createDefault name => (w.addToken name).first (w.letGo name ++ [answer .done])
  | .clone name source =>
    match w.token? source with
    | some (i, _) => (w.bind name i).first (w.letGo name ++ [answer .done])
    | none => w.first [answer .unknown]
  | .createTimed name delay =>
    ({ w with timers := w.timers ++ [(w.clock + delay, w.tokens.length)] }.addToken name).first
      (w.letGo name ++ [answer .done])
  | .cancel name =>
    match w.token? name with
    | some (i, _) =>
      let (calls, w) := w.fire i
      w.first (calls ++ [answer .done])
    | none => w.first [answer .unknown]
  | .isCancelled name =>
    match w.token? name with
    | some (_, t) => w.first [answer (.truth t.cancelled)]
    | none => w.first [answer .unknown]
  | .describe name =>
    match w.token? name with
    | some (_, t) => w.first [answer (.text t.text)]
    | none => w.first [answer .unknown]
  | .drop name =>
    { w with names := w.names.filter (·.1 != name) }.first
      (w.letGo name ++ [answer (.truth (w.token? name).isSome)])
  | .await name lines =>
    match w.token? name with
    | none => w.first [answer .unknown]
    | some (_, t) =>
      if t.cancelled ∧ lines ≤ w.log.length then w.first [answer (.truth true)]
      else match w.nextTimer? (w.clock + patience) with
        | none => w.first [answer (.truth false)]
        | some (due, i) =>
          let w := { w with timers := w.timers.erase (due, i), clock := max w.clock due }
          if w.isHeld i then
            let (calls, w) := w.fire i
            w.first (calls ++ [.perform owner s])
          else w.first [.perform owner s]
  | .cancelTogether name threads =>
    match w.token? name with
    | some (i, _) =>
      let (calls, w) := if threads = 0 then ([], w) else w.fire i
      w.first (calls ++ [.answerCancelled owner s.word i])
    | none => w.first [answer .unknown]
  | .onCancel name label body owned =>
    match w.token? name with
    | none => w.first [answer .unknown]
    | some (i, t) =>
      let (owned, registrations) := capture owned w.registrations
      let callback : Callback := { label, body, owned }
      let w := { w with registrations }
      match t.register callback with
      | (some id, t) => (w.setToken i t).first [.keep label ⟨some (i, id)⟩, answer .done]
      | (none, _) => w.first [.call callback, .keep label {}, answer .done]
  | .unregister label =>
    match w.registrations.lookup label with
    | none => w.first [answer (.truth false)]
    | some r =>
      { w with registrations := w.registrations.filter (·.1 != label) }.first
        (r.drop ++ [answer (.truth true)])

def record (w : World) (owner : Option String) (word : String) (a : Answer) : World :=
  match owner with
  | some label => { w with log := (label ++ ":" ++ word ++ "=" ++ a.line) :: w.log }
  | none => { w with answers := a :: w.answers }

/-- Carries out the first task of the agenda. A task that waits for a lock stays there. -/
def step (w : World) : World :=
  match w.agenda with
  | [] => w
  | task :: rest =>
    let left := { w with agenda := rest }
    match task with
    | .perform owner s => left.perform owner s
    | .call c =>
      { left with log := c.label :: w.log }.first (c.body.map (Task.perform (some c.label)) ++ c.drop)
    | .keep label r =>
      let replaced := ((w.registrations.lookup label).map Registration.drop).getD []
      { left with registrations := (label, r) :: w.registrations.filter (·.1 != label) }.first replaced
    | .release i id =>
      if left.isLocked i then w
      else
        let removed := (w.tokens[i]?.map fun t => t.removed id).getD []
        { left with tokens := w.tokens.modify i (·.unregister id) }.first
          (removed.flatMap Callback.drop ++ [Task.unlock i])
    | .unlock _ => left
    | .abandon i =>
      if w.isHeld i then left
      else
        let removed := (w.tokens[i]?.map fun t => t.take.1).getD []
        { left with tokens := w.tokens.modify i (·.take.2) }.first (removed.flatMap Callback.drop)
    | .answer owner word a => left.record owner word a
    | .answerCancelled owner word i =>
      left.record owner word (.truth ((w.tokens[i]?.map Token.cancelled).getD false))

/-- Works on the agenda until it is empty, for at most `fuel` tasks. -/
def run : Nat → World → World
  | 0, w => w
  | fuel + 1, w => if w.agenda.isEmpty then w else run fuel w.step

end World

/-- Carries out a step of the script and reports on it, behind the reports so far, last first. Nothing more
happens once a step came to wait for a lock. -/
def turn (fuel : Nat) (reports : List (Answer × List String) × World) (s : Step) :
    List (Answer × List String) × World :=
  if reports.2.agenda.isEmpty then
    let w := World.run fuel { reports.2 with log := [], answers := [], agenda := [.perform none s] }
    (if w.agenda.isEmpty then (w.answers.headD .unknown, w.log.reverse) :: reports.1 else reports.1, w)
  else reports

/-- The answers to the steps of a script, each with the lines logged meanwhile. The fuel lets every
step, nested or not, be carried out once with the tasks that it adds, and every timer expire. -/
def run (script : List Step) : List (Answer × List String) :=
  (script.foldl (turn (10 * countAll script + 10)) ([], {})).1.reverse

end PseudoTerminal.Cancellation.Script
