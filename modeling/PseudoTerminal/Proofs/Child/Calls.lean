import Mathlib.Tactic
import PseudoTerminal.Child.Handle
import PseudoTerminal.Child.TimedWait

/-! Calls on the handle of one child from several threads, step by step. A call that waits sleeps
without the lock of the handle; it takes the lock only to look at the child, or to look and to signal.
The child may end between any two steps. Once its end was taken its number is free, and may go to
another child of the same process or to a stranger. Calls go by numbers, and what the call of a number
asks for is fixed beforehand. A call that nobody interrupts does what the operation of the same name
does. -/

namespace PseudoTerminal.Child.Calls

/-! ### The number of the child -/

/-- The number of a child on its host. Everything the host is asked goes by the number. -/
structure Number where
  /-- How the child stands. -/
  child : Standing := .running
  /-- How another child of the process stands that the number went to. -/
  heir : Option Standing := none
  /-- The signals that were sent to the number, last first, each with how the child stood then. -/
  sent : List (Signal × Standing) := []
  deriving DecidableEq, Repr

/-- The error number with which the host refuses a signal to the group, and one to the child alone. -/
structure Replies where
  group : Option ℕ := none
  alone : Option ℕ := none
  deriving DecidableEq, Repr

namespace Number

/-- How the child stands that the number belongs to. -/
def bearer (n : Number) : Standing := if n.child = .gone then n.heir.getD .gone else n.child

def reap (n : Number) : Number :=
  if n.child = .gone then { n with heir := none } else { n with child := .gone }

def send (n : Number) (signal : Signal) (reply : Option ℕ) : Except Fault Unit × Number :=
  (match reply with
    | none => .ok ()
    | some errno => .error (.os errno),
    { n with sent := (signal, n.child) :: n.sent })

end Number

/-- The custody of the child by a host that replies to signals like this. -/
def custody (replies : Replies) : Custody Number where
  standing := Number.bearer
  reap := Number.reap
  signalGroup n signal := n.send signal replies.group
  signalAlone n signal := n.send signal replies.alone

/-! ### Calls -/

inductive Request
  | tryWait
  | wait
  /-- In microseconds. -/
  | waitWithin (duration : ℕ)
  | kill
  | signal (signal : Signal)
  deriving DecidableEq, Repr

/-- What the lock is taken for. -/
inductive Errand
  /-- A look that does not wait. -/
  | look
  /-- One of the looks that are made until a deadline. -/
  | lookUntil (deadline : ℕ)
  /-- Taking the end after the sleep. -/
  | take
  /-- A look, and a signal when it finds the child running. -/
  | send (signal : Signal)
  deriving DecidableEq, Repr

inductive Answer
  | ended (kind : ExitKind)
  | running
  | sent
  | failed (fault : Fault)
  deriving DecidableEq, Repr

/-- How far a call has come. -/
inductive Call
  | idle
  /-- It sleeps until the child has ended. A sleep that is interrupted is slept on. -/
  | blocking
  | wanting (errand : Errand)
  /-- It holds the lock, and did not look at the child yet. -/
  | holding (errand : Errand)
  /-- It holds the lock, found the child running, and is to signal its group. -/
  | group (signal : Signal)
  /-- It holds the lock, and is to signal the child alone, because the group got nothing. -/
  | alone (signal : Signal)
  /-- It holds the lock, found the child running after its sleep, and sleeps once more. -/
  | stuck
  /-- It looked, and gave the lock back. -/
  | looked (deadline : ℕ) (found : Option ExitKind)
  | pausing (deadline wake : ℕ)
  | returned (answer : Answer)
  deriving DecidableEq, Repr

namespace Request

def signal? : Request → Option Signal
  | kill => some Signal.kill
  | signal s => some s
  | _ => none

/-- What a call does first. -/
def start (clock : ℕ) : Request → Call
  | tryWait => .wanting .look
  | wait => .blocking
  | waitWithin duration => .wanting (.lookUntil (clock + duration))
  | kill => .wanting (.send Signal.kill)
  | signal s => .wanting (.send s)

end Request

/-- What follows a look. -/
def Errand.next (e : Errand) : Except Fault (Option ExitKind) → Call
  | .error f => .returned (.failed f)
  | .ok found =>
    match e, found with
    | lookUntil deadline, _ => .looked deadline found
    | look, some kind | take, some kind => .returned (.ended kind)
    | look, none => .returned .running
    | take, none => .stuck
    | send _, some _ => .returned (.failed .processDone)
    | send s, none => .group s

namespace Call

def isLocked : Call → Bool
  | holding _ | group _ | alone _ | stuck => true
  | _ => false

/-- Whether the call has looked and is to signal. -/
def isSending : Call → Bool
  | group _ | alone _ => true
  | _ => false

def isReturned : Call → Bool
  | returned _ => true
  | _ => false

/-- What follows the moment after a look of a call with a deadline. -/
def ofMove (deadline clock : ℕ) : TimedWait.Move → Call
  | .answer (some kind) => returned (.ended kind)
  | .answer none => returned .running
  | .pause duration => pausing deadline (clock + duration)

end Call

structure State where
  number : Number := {}
  handle : Handle
  lock : Option ℕ := none
  calls : ℕ → Call := fun _ => .idle
  clock : ℕ := 0

/-- A step of a call, of the child, of the host or of time. -/
inductive Move
  /-- The next step of a call; the host replies like this if it is asked to signal. -/
  | call (i : ℕ) (replies : Replies)
  | ends (kind : ExitKind)
  /-- The number, once it is free, changes hands. -/
  | pass (heir : Option Standing)
  | elapse (duration : ℕ)
  deriving DecidableEq, Repr

/-- Whether a step is one of a call. -/
def Move.isOf (i : ℕ) : Move → Bool
  | call j _ => j == i
  | _ => false

theorem Move.exists_of_isOf {m : Move} {i : ℕ} (own : m.isOf i) : ∃ a, m = .call i a := by
  cases m with
  | call j a => exact ⟨a, by rw [eq_of_beq own]⟩
  | _ => cases own

namespace State

def setCall (s : State) (i : ℕ) (c : Call) : State :=
  { s with calls := Function.update s.calls i c }

/-- Goes on with a call that has the lock, which it keeps as long as it needs it. -/
def proceed (s : State) (i : ℕ) (c : Call) : State :=
  { s with lock := if c.isLocked then some i else none }.setCall i c

def stepCall (r : Request) (s : State) (i : ℕ) (replies : Replies) : Option State :=
  match s.calls i with
  | .idle => some (s.setCall i (r.start s.clock))
  | .blocking =>
    match observe s.number.bearer with
    | none => none
    | some (.ok ()) => some (s.setCall i (.wanting .take))
    | some (.error f) => some (s.setCall i (.returned (.failed f)))
  | .wanting e =>
    match s.lock with
    | none => some (s.proceed i (.holding e))
    | some _ => none
  | .holding e =>
    let (result, handle, number) := s.handle.tryWait (custody replies) s.number
    some ({ s with handle, number }.proceed i (e.next result))
  | .group signal =>
    match (custody replies).signalGroup s.number signal with
    | (.ok (), number) => some ({ s with number }.proceed i (.returned .sent))
    | (.error _, number) => some ({ s with number }.proceed i (.alone signal))
  | .alone signal =>
    match (custody replies).signalAlone s.number signal with
    | (.ok (), number) => some ({ s with number }.proceed i (.returned .sent))
    | (.error f, number) => some ({ s with number }.proceed i (.returned (.failed f)))
  | .stuck =>
    match s.handle.tryWait (custody replies) s.number with
    | (.ok none, _) => none
    | (result, handle, number) => some ({ s with handle, number }.proceed i (Errand.take.next result))
  | .looked deadline found =>
    some (s.setCall i (.ofMove deadline s.clock (TimedWait.move deadline s.clock found)))
  | .pausing deadline wake =>
    if wake ≤ s.clock then some (s.setCall i (.wanting (.lookUntil deadline))) else none
  | .returned _ => none

/-- Makes a step; nothing when the call sleeps, waits for the lock or is over. -/
def step (r : ℕ → Request) (s : State) : Move → Option State
  | .call i replies => s.stepCall (r i) i replies
  | .ends kind =>
    match s.number.child with
    | .running => some { s with number := { s.number with child := .ended kind } }
    | _ => none
  | .pass heir => if s.number.child = .gone then some { s with number := { s.number with heir } } else none
  | .elapse duration => some { s with clock := s.clock + duration }

/-- Makes steps one after the other. -/
def run (r : ℕ → Request) (s : State) (moves : List Move) : Option State := moves.foldlM (step r) s

variable {r : ℕ → Request} {s : State}

@[simp] theorem run_nil : s.run r [] = some s := rfl

@[simp] theorem run_cons (m : Move) (moves : List Move) :
    s.run r (m :: moves) = (s.step r m).bind fun s => s.run r moves := rfl

theorem run_append (p q : List Move) : s.run r (p ++ q) = (s.run r p).bind fun s => s.run r q := by
  induction p generalizing s with
  | nil => rfl
  | cons m p ih => simp only [List.cons_append, run_cons, ih, Option.bind_assoc]

@[simp, grind =] theorem setCall_number (i : ℕ) (c : Call) : (s.setCall i c).number = s.number := rfl

@[simp, grind =] theorem setCall_handle (i : ℕ) (c : Call) : (s.setCall i c).handle = s.handle := rfl

@[simp, grind =] theorem setCall_lock (i : ℕ) (c : Call) : (s.setCall i c).lock = s.lock := rfl

@[simp, grind =] theorem setCall_calls (i j : ℕ) (c : Call) :
    (s.setCall i c).calls j = if j = i then c else s.calls j := Function.update_apply s.calls i c j

theorem setCall_self (i : ℕ) (c : Call) : (s.setCall i c).calls i = c := Function.update_self ..

@[simp, grind =] theorem proceed_number (i : ℕ) (c : Call) : (s.proceed i c).number = s.number := rfl

@[simp, grind =] theorem proceed_handle (i : ℕ) (c : Call) : (s.proceed i c).handle = s.handle := rfl

@[simp, grind =] theorem proceed_lock (i : ℕ) (c : Call) :
    (s.proceed i c).lock = if c.isLocked then some i else none := rfl

@[simp, grind =] theorem proceed_calls (i j : ℕ) (c : Call) :
    (s.proceed i c).calls j = if j = i then c else s.calls j := Function.update_apply s.calls i c j

theorem proceed_self (i : ℕ) (c : Call) : (s.proceed i c).calls i = c := Function.update_self ..

end State

/-! ### Calls that nobody interrupts -/

/-- How a call tells what the operation on the handle came to. -/
def Answer.ofWait : Except Fault ExitKind → Answer
  | .ok kind => ended kind
  | .error f => failed f

def Answer.ofSignal : Except Fault Unit → Answer
  | .ok () => sent
  | .error f => failed f

variable {r : ℕ → Request} {s : State} {i : ℕ} {a : Replies} {handle : Handle}
  {number : Number}

theorem run_wanting {e : Errand} (stage : s.calls i = .wanting e) (free : s.lock = none)
    {found : Except Fault (Option ExitKind)}
    (looked : s.handle.tryWait (custody a) s.number = (found, handle, number)) :
    ∃ t, s.run r (List.replicate 2 (.call i a)) = some t ∧ t.calls i = e.next found ∧
      t.handle = handle ∧ t.number = number ∧
      t.lock = if (e.next found).isLocked then some i else none := by
  refine ⟨{ s.proceed i (.holding e) with handle, number }.proceed i (e.next found), ?_, ?_, rfl, rfl,
    rfl⟩
  · simp [List.replicate, State.step, State.stepCall, stage, free, looked]
  · simp

theorem run_start (idle : s.calls i = .idle) :
    s.run r (List.replicate 1 (.call i a)) = some (s.setCall i ((r i).start s.clock)) := by
  simp [List.replicate, State.step, State.stepCall, idle]

/-- A delivery that nobody interrupts is the handle's. -/
theorem run_group {signal : Signal} (stage : s.calls i = .group signal) :
    ∃ n t, s.run r (List.replicate n (.call i a)) = some t ∧
      t.calls i = .returned (.ofSignal (Handle.deliver (custody a) s.number signal).1) ∧
      t.handle = s.handle ∧ t.number = (Handle.deliver (custody a) s.number signal).2 ∧
      t.lock = none := by
  rcases a with ⟨_ | refused, alone⟩
  · refine ⟨1, { s with number := (s.number.send signal none).2 }.proceed i (.returned .sent), ?_, ?_,
      rfl, rfl, rfl⟩
    · simp [List.replicate, State.step, State.stepCall, stage, custody, Number.send]
    · simp [Answer.ofSignal, Handle.deliver, custody, Number.send]
  · let next := { s with number := (s.number.send signal (some refused)).2 }.proceed i (.alone signal)
    let result := next.number.send signal alone
    refine ⟨2, { next with number := result.2 }.proceed i (.returned (.ofSignal result.1)), ?_, ?_, rfl,
      rfl, rfl⟩
    · cases alone <;>
        simp [List.replicate, State.step, State.stepCall, stage, custody, Number.send, next, result,
          Answer.ofSignal]
    · simp [Handle.deliver, custody, Number.send, next, result]

/-- A look that nobody interrupts is the handle's. -/
theorem tryWait_alone (asks : r i = .tryWait) (idle : s.calls i = .idle) (free : s.lock = none)
    {found : Except Fault (Option ExitKind)}
    (looked : s.handle.tryWait (custody a) s.number = (found, handle, number)) :
    ∃ n t, s.run r (List.replicate n (.call i a)) = some t ∧
      t.calls i = Errand.look.next found ∧ t.handle = handle ∧ t.number = number ∧ t.lock = none := by
  have starts := run_start (r := r) (a := a) idle
  rw [asks] at starts
  obtain ⟨t, run, stage, knows, has, lock⟩ := run_wanting (r := r) (i := i) (a := a)
    (s := s.setCall i (.wanting .look)) (e := .look) (by simp) free looked
  refine ⟨1 + 2, t, ?_, stage, knows, has, ?_⟩
  · rw [List.replicate_add, State.run_append, starts]
    exact run
  · rw [lock]
    rcases found with f | _ | kind <;> rfl

/-- A wait that nobody interrupts is the handle's. -/
theorem wait_alone (asks : r i = .wait) (idle : s.calls i = .idle) (free : s.lock = none)
    {result : Except Fault ExitKind}
    (waited : s.handle.wait? (custody a) s.number = (some result, handle, number)) :
    ∃ n t, s.run r (List.replicate n (.call i a)) = some t ∧
      t.calls i = .returned (.ofWait result) ∧ t.handle = handle ∧ t.number = number ∧
      t.lock = none := by
  have starts := run_start (r := r) (a := a) idle
  rw [asks] at starts
  unfold Handle.wait? at waited
  rw [show (custody a).standing s.number = s.number.bearer from rfl] at waited
  rcases seen : observe s.number.bearer with _ | f | _
  · simp [seen] at waited
  · rw [seen] at waited
    cases waited
    refine ⟨1 + 1, (s.setCall i .blocking).setCall i (.returned (.failed f)), ?_, ?_, rfl, rfl, free⟩
    · rw [List.replicate_add, State.run_append, starts]
      simp [List.replicate, State.step, State.stepCall, Request.start, seen]
    · simp [Answer.ofWait]
  · rw [seen] at waited
    rcases looked : s.handle.tryWait (custody a) s.number with ⟨found, handle', number'⟩
    let wanting := (s.setCall i .blocking).setCall i (.wanting .take)
    have wakes : (s.setCall i .blocking).run r (List.replicate 1 (.call i a)) =
        some wanting := by
      simp [List.replicate, State.step, State.stepCall, seen, wanting]
    obtain ⟨t, run, stage, knows, has, lock⟩ := run_wanting (r := r) (i := i) (a := a)
      (s := wanting) (e := .take) (by simp [wanting]) free looked
    rw [looked] at waited
    have whole : s.run r (List.replicate (1 + (1 + 2)) (.call i a)) = some t := by
      rw [List.replicate_add, State.run_append, starts, Option.bind_some, List.replicate_add,
        State.run_append]
      exact (congrArg (Option.bind · _) wakes).trans run
    rcases found with f | _ | kind
    · cases waited
      exact ⟨_, t, whole, stage, knows, has, lock⟩
    · cases waited
    · cases waited
      exact ⟨_, t, whole, stage, knows, has, lock⟩

/-- A signal that nobody interrupts is the handle's. -/
theorem signal_alone {signal : Signal} (asks : (r i).signal? = some signal) (idle : s.calls i = .idle)
    (free : s.lock = none) {result : Except Fault Unit}
    (signalled : s.handle.signal (custody a) s.number signal = (result, handle, number)) :
    ∃ n t, s.run r (List.replicate n (.call i a)) = some t ∧
      t.calls i = .returned (.ofSignal result) ∧ t.handle = handle ∧ t.number = number ∧
      t.lock = none := by
  have starts := run_start (r := r) (a := a) idle
  have first : (r i).start s.clock = .wanting (.send signal) := by
    cases request : r i <;> simp_all [Request.signal?, Request.start]
  rw [first] at starts
  unfold Handle.signal at signalled
  rcases looked : s.handle.tryWait (custody a) s.number with ⟨found, handle', number'⟩
  obtain ⟨t, run, stage, knows, has, lock⟩ := run_wanting (r := r) (i := i) (a := a)
    (s := s.setCall i (.wanting (.send signal))) (e := .send signal) (by simp) free looked
  have whole : s.run r (List.replicate (1 + 2) (.call i a)) = some t := by
    rw [List.replicate_add, State.run_append, starts]
    exact run
  rw [looked] at signalled
  rcases found with f | _ | kind
  · cases signalled
    exact ⟨_, t, whole, stage, knows, has, lock⟩
  · cases signalled
    obtain ⟨n, u, more, stage, knows', has', lock⟩ :=
      run_group (r := r) (s := t) (i := i) (a := a) stage
    subst knows has
    refine ⟨1 + 2 + n, u, ?_, stage, knows', has', lock⟩
    rw [List.replicate_add, State.run_append, whole]
    exact more
  · cases signalled
    exact ⟨_, t, whole, stage, knows, has, lock⟩

end PseudoTerminal.Child.Calls
