import Mathlib.Tactic
import PseudoTerminal.Cancellation.Token

/-! Calls on one token from several threads, step by step. The flag is swapped without the lock; the
waiting callbacks change only under it, and callbacks run outside of it. Calls and registrations go by
numbers, and a callback by the number of its registration. A call that nobody interrupts does what the
operation of the same name does. -/

namespace PseudoTerminal.Cancellation.Calls

/-- How far a call of `cancel` has come. -/
inductive Cancel
  | idle
  | called
  /-- It found the flag up and returned. -/
  | refused
  /-- It was the one to raise the flag. -/
  | raised
  /-- It holds the lock. -/
  | locked
  /-- It took the callbacks, and these are left to run. -/
  | firing (rest : List ℕ)
  /-- It ran them and returned. -/
  | fired
  deriving DecidableEq, Repr

namespace Cancel

def inProgress : Cancel → Bool
  | called | raised | locked | firing _ => true
  | _ => false

def hasRaised : Cancel → Bool
  | raised | locked | firing _ | fired => true
  | _ => false

def hasTaken : Cancel → Bool
  | firing _ | fired => true
  | _ => false

/-- The callbacks that a call took and did not run yet. -/
def owed : Cancel → List ℕ
  | firing rest => rest
  | _ => []

end Cancel

/-- How far a registration has come, from the call that makes it to the end of its drop. -/
inductive Registration
  | idle
  | called
  /-- The call holds the lock and did not look at the flag yet. -/
  | locked
  /-- The call holds the lock and found the flag down. -/
  | clear
  /-- The call found the flag up, and is to run the callback itself. -/
  | late
  /-- The call returned, with an id if the callback was put among the waiting ones. -/
  | held (id : Option ℕ)
  | dropping (id : Option ℕ)
  /-- The drop holds the lock. -/
  | removing (id : ℕ)
  | dropped
  deriving DecidableEq, Repr

namespace Registration

def isLocked : Registration → Bool
  | locked | clear | removing _ => true
  | _ => false

/-- Whether the call returned and the drop did not. -/
def isKept : Registration → Bool
  | held _ | dropping _ | removing _ => true
  | _ => false

def isHeld : Registration → Bool
  | held _ => true
  | _ => false

/-- Whether the drop was called. -/
def isDropped : Registration → Bool
  | dropping _ | removing _ | dropped => true
  | _ => false

def id? : Registration → Option ℕ
  | held id | dropping id => id
  | removing id => some id
  | _ => none

end Registration

/-- Who holds the lock of the waiting callbacks. -/
inductive Holder
  | cancel (i : ℕ)
  | registration (k : ℕ)
  deriving DecidableEq, Repr

structure State where
  token : Token ℕ := {}
  lock : Option Holder := none
  cancels : ℕ → Cancel := fun _ => .idle
  registrations : ℕ → Registration := fun _ => .idle
  /-- The callbacks that ran, last first. -/
  log : List ℕ := []
  /-- The call that raised the flag. -/
  winner : Option ℕ := none

/-- The next step of a call of `cancel`, of a call that registers, or of a drop. -/
inductive Move
  | cancel (i : ℕ)
  | register (k : ℕ)
  | drop (k : ℕ)
  deriving DecidableEq, Repr

namespace State

def setCancel (s : State) (i : ℕ) (c : Cancel) : State :=
  { s with cancels := Function.update s.cancels i c }

def setRegistration (s : State) (k : ℕ) (r : Registration) : State :=
  { s with registrations := Function.update s.registrations k r }

def stepCancel (s : State) (i : ℕ) : Option State :=
  match s.cancels i with
  | .idle => some (s.setCancel i .called)
  | .called =>
    if s.token.cancelled then some (s.setCancel i .refused)
    else some ({ s with token := s.token.raise, winner := some i }.setCancel i .raised)
  | .raised =>
    match s.lock with
    | none => some ({ s with lock := some (.cancel i) }.setCancel i .locked)
    | some _ => none
  | .locked =>
    some ({ s with token := s.token.take.2, lock := none }.setCancel i (.firing s.token.take.1))
  | .firing [] => some (s.setCancel i .fired)
  | .firing (k :: rest) => some ({ s with log := k :: s.log }.setCancel i (.firing rest))
  | .refused | .fired => none

def stepRegister (s : State) (k : ℕ) : Option State :=
  match s.registrations k with
  | .idle => some (s.setRegistration k .called)
  | .called =>
    match s.lock with
    | none => some ({ s with lock := some (.registration k) }.setRegistration k .locked)
    | some _ => none
  | .locked =>
    if s.token.cancelled then some ({ s with lock := none }.setRegistration k .late)
    else some (s.setRegistration k .clear)
  | .clear =>
    some ({ s with token := (s.token.enlist k).2, lock := none }.setRegistration k
      (.held (some (s.token.enlist k).1)))
  | .late => some ({ s with log := k :: s.log }.setRegistration k (.held none))
  | _ => none

def stepDrop (s : State) (k : ℕ) : Option State :=
  match s.registrations k with
  | .held id => some (s.setRegistration k (.dropping id))
  | .dropping none => some (s.setRegistration k .dropped)
  | .dropping (some id) =>
    match s.lock with
    | none => some ({ s with lock := some (.registration k) }.setRegistration k (.removing id))
    | some _ => none
  | .removing id =>
    some ({ s with token := s.token.unregister id, lock := none }.setRegistration k .dropped)
  | _ => none

/-- Makes a step; nothing when the call waits for the lock or is over. -/
def step (s : State) : Move → Option State
  | .cancel i => s.stepCancel i
  | .register k => s.stepRegister k
  | .drop k => s.stepDrop k

/-- Makes steps one after the other. -/
def run (s : State) (moves : List Move) : Option State := moves.foldlM step s

@[simp] theorem run_nil (s : State) : s.run [] = some s := rfl

@[simp] theorem run_cons (s : State) (m : Move) (moves : List Move) :
    s.run (m :: moves) = (s.step m).bind fun s => s.run moves := rfl

theorem run_append (s : State) (p q : List Move) :
    s.run (p ++ q) = (s.run p).bind fun s => s.run q := by
  induction p generalizing s with
  | nil => rfl
  | cons m p ih => simp only [List.cons_append, run_cons, ih, Option.bind_assoc]

variable {s : State}

@[simp, grind =] theorem setCancel_token (i : ℕ) (c : Cancel) : (s.setCancel i c).token = s.token := rfl

@[simp, grind =] theorem setCancel_lock (i : ℕ) (c : Cancel) : (s.setCancel i c).lock = s.lock := rfl

@[simp, grind =] theorem setCancel_log (i : ℕ) (c : Cancel) : (s.setCancel i c).log = s.log := rfl

@[simp, grind =] theorem setCancel_winner (i : ℕ) (c : Cancel) :
    (s.setCancel i c).winner = s.winner := rfl

@[simp, grind =] theorem setCancel_registrations (i : ℕ) (c : Cancel) :
    (s.setCancel i c).registrations = s.registrations := rfl

@[simp, grind =] theorem setCancel_cancels (i j : ℕ) (c : Cancel) :
    (s.setCancel i c).cancels j = if j = i then c else s.cancels j :=
  Function.update_apply s.cancels i c j

@[simp, grind =] theorem setRegistration_token (k : ℕ) (r : Registration) :
    (s.setRegistration k r).token = s.token := rfl

@[simp, grind =] theorem setRegistration_lock (k : ℕ) (r : Registration) :
    (s.setRegistration k r).lock = s.lock := rfl

@[simp, grind =] theorem setRegistration_log (k : ℕ) (r : Registration) :
    (s.setRegistration k r).log = s.log := rfl

@[simp, grind =] theorem setRegistration_winner (k : ℕ) (r : Registration) :
    (s.setRegistration k r).winner = s.winner := rfl

@[simp, grind =] theorem setRegistration_cancels (k : ℕ) (r : Registration) :
    (s.setRegistration k r).cancels = s.cancels := rfl

@[simp, grind =] theorem setRegistration_registrations (k l : ℕ) (r : Registration) :
    (s.setRegistration k r).registrations l = if l = k then r else s.registrations l :=
  Function.update_apply s.registrations k r l

end State

/-! ### What a step can do -/

/-- The steps, each with what it found. -/
inductive Change (s : State) : State → Prop
  | call (i : ℕ) (stage : s.cancels i = .idle) : Change s (s.setCancel i .called)
  | refuse (i : ℕ) (stage : s.cancels i = .called) (flag : s.token.cancelled = true) :
      Change s (s.setCancel i .refused)
  | raise (i : ℕ) (stage : s.cancels i = .called) (flag : s.token.cancelled = false) :
      Change s ({ s with token := s.token.raise, winner := some i }.setCancel i .raised)
  | lock (i : ℕ) (stage : s.cancels i = .raised) (free : s.lock = none) :
      Change s ({ s with lock := some (.cancel i) }.setCancel i .locked)
  | take (i : ℕ) (stage : s.cancels i = .locked) :
      Change s ({ s with token := s.token.take.2, lock := none }.setCancel i
        (.firing s.token.take.1))
  | fire (i k : ℕ) (rest : List ℕ) (stage : s.cancels i = .firing (k :: rest)) :
      Change s ({ s with log := k :: s.log }.setCancel i (.firing rest))
  | finish (i : ℕ) (stage : s.cancels i = .firing []) : Change s (s.setCancel i .fired)
  | callRegister (k : ℕ) (stage : s.registrations k = .idle) :
      Change s (s.setRegistration k .called)
  | lockRegister (k : ℕ) (stage : s.registrations k = .called) (free : s.lock = none) :
      Change s ({ s with lock := some (.registration k) }.setRegistration k .locked)
  | tooLate (k : ℕ) (stage : s.registrations k = .locked) (flag : s.token.cancelled = true) :
      Change s ({ s with lock := none }.setRegistration k .late)
  | inTime (k : ℕ) (stage : s.registrations k = .locked) (flag : s.token.cancelled = false) :
      Change s (s.setRegistration k .clear)
  | enlist (k : ℕ) (stage : s.registrations k = .clear) :
      Change s ({ s with token := (s.token.enlist k).2, lock := none }.setRegistration k
        (.held (some (s.token.enlist k).1)))
  | runLate (k : ℕ) (stage : s.registrations k = .late) :
      Change s ({ s with log := k :: s.log }.setRegistration k (.held none))
  | callDrop (k : ℕ) (id : Option ℕ) (stage : s.registrations k = .held id) :
      Change s (s.setRegistration k (.dropping id))
  | dropNothing (k : ℕ) (stage : s.registrations k = .dropping none) :
      Change s (s.setRegistration k .dropped)
  | lockDrop (k id : ℕ) (stage : s.registrations k = .dropping (some id)) (free : s.lock = none) :
      Change s ({ s with lock := some (.registration k) }.setRegistration k (.removing id))
  | remove (k id : ℕ) (stage : s.registrations k = .removing id) :
      Change s ({ s with token := s.token.unregister id, lock := none }.setRegistration k .dropped)

theorem change_of_stepCancel {s t : State} {i : ℕ} (h : s.stepCancel i = some t) : Change s t := by
  unfold State.stepCancel at h
  split at h
  case h_1 stage => cases h; exact .call i stage
  case h_2 stage =>
    split at h
    case isTrue flag => cases h; exact .refuse i stage flag
    case isFalse flag => cases h; exact .raise i stage (by simpa using flag)
  case h_3 stage =>
    split at h
    case h_1 free => cases h; exact .lock i stage free
    case h_2 => cases h
  case h_4 stage => cases h; exact .take i stage
  case h_5 stage => cases h; exact .finish i stage
  case h_6 k rest stage => cases h; exact .fire i k rest stage
  all_goals cases h

theorem change_of_stepRegister {s t : State} {k : ℕ} (h : s.stepRegister k = some t) :
    Change s t := by
  unfold State.stepRegister at h
  split at h
  case h_1 stage => cases h; exact .callRegister k stage
  case h_2 stage =>
    split at h
    case h_1 free => cases h; exact .lockRegister k stage free
    case h_2 => cases h
  case h_3 stage =>
    split at h
    case isTrue flag => cases h; exact .tooLate k stage flag
    case isFalse flag => cases h; exact .inTime k stage (by simpa using flag)
  case h_4 stage => cases h; exact .enlist k stage
  case h_5 stage => cases h; exact .runLate k stage
  case h_6 => cases h

theorem change_of_stepDrop {s t : State} {k : ℕ} (h : s.stepDrop k = some t) : Change s t := by
  unfold State.stepDrop at h
  split at h
  case h_1 id stage => cases h; exact .callDrop k id stage
  case h_2 stage => cases h; exact .dropNothing k stage
  case h_3 id stage =>
    split at h
    case h_1 free => cases h; exact .lockDrop k id stage free
    case h_2 => cases h
  case h_4 id stage => cases h; exact .remove k id stage
  case h_5 => cases h

theorem change_of_step {s t : State} {m : Move} (h : s.step m = some t) : Change s t := by
  cases m with
  | cancel i => exact change_of_stepCancel h
  | register k => exact change_of_stepRegister h
  | drop k => exact change_of_stepDrop h

/-- What one step preserves, a run preserves. -/
theorem run_induction {P : State → Prop} (step : ∀ s t, P s → Change s t → P t) {s t : State}
    {moves : List Move} (h : s.run moves = some t) (start : P s) : P t := by
  induction moves generalizing s with
  | nil => cases h; exact start
  | cons m moves ih =>
    rw [State.run_cons] at h
    obtain ⟨u, hu, h⟩ := Option.bind_eq_some_iff.mp h
    exact ih h (step s u start (change_of_step hu))

/-! ### Calls that nobody interrupts -/

theorem run_firing {i : ℕ} (rest : List ℕ) {s : State} (stage : s.cancels i = .firing rest) :
    ∃ t, s.run (List.replicate (rest.length + 1) (.cancel i)) = some t ∧ t.cancels i = .fired ∧
      t.token = s.token ∧ t.log = rest.reverse ++ s.log := by
  induction rest generalizing s with
  | nil =>
    refine ⟨s.setCancel i .fired, ?_, ?_, rfl, rfl⟩
    · simp [State.step, State.stepCancel, stage]
    · simp [State.setCancel]
  | cons k rest ih =>
    let next := { s with log := k :: s.log }.setCancel i (.firing rest)
    obtain ⟨t, run, fired, token, log⟩ := ih (s := next) (by simp [next, State.setCancel])
    refine ⟨t, ?_, fired, token, ?_⟩
    · rw [List.length_cons, List.replicate_succ, State.run_cons]
      simpa [State.step, State.stepCancel, stage] using run
    · simp [log, next, State.setCancel]

/-- A call of `cancel` that nobody interrupts is the operation, followed by the callbacks that it got. -/
theorem cancel_alone {s : State} {i : ℕ} (idle : s.cancels i = .idle) (free : s.lock = none) :
    ∃ n t, s.run (List.replicate n (.cancel i)) = some t ∧
      (t.cancels i = .refused ∨ t.cancels i = .fired) ∧
      t.token = s.token.cancel.2 ∧ t.log = s.token.cancel.1.reverse ++ s.log := by
  cases up : s.token.cancelled with
  | true =>
    refine ⟨2, (s.setCancel i .called).setCancel i .refused, ?_, ?_, ?_, ?_⟩
    · simp [List.replicate, State.step, State.stepCancel, State.setCancel, idle, up]
    · simp [State.setCancel]
    · simp [State.setCancel, Token.cancel, up]
    · simp [State.setCancel, Token.cancel, up]
  | false =>
    let taken : State :=
      { s with
        token := s.token.raise.take.2
        cancels := Function.update s.cancels i (.firing s.token.raise.take.1)
        winner := some i }
    obtain ⟨t, run, fired, token, log⟩ :=
      run_firing (s := taken) (i := i) s.token.raise.take.1 (by simp [taken])
    refine ⟨4 + (s.token.raise.take.1.length + 1), t, ?_, .inr fired, ?_, ?_⟩
    · rw [List.replicate_add, State.run_append, Option.bind_eq_some_iff]
      refine ⟨taken, ?_, run⟩
      simp [List.replicate, State.step, State.stepCancel, State.setCancel, idle, up, free, taken,
        Token.raise, Token.take]
    · rw [token]; simp [taken, Token.cancel, up]
    · rw [log]; simp [taken, Token.cancel, up]

/-- A call that registers and that nobody interrupts is the operation; a callback that came too late for
it is run. -/
theorem register_alone {s : State} {k : ℕ} (idle : s.registrations k = .idle)
    (free : s.lock = none) :
    ∃ n t, s.run (List.replicate n (.register k)) = some t ∧
      t.registrations k = .held (s.token.register k).1 ∧ t.token = (s.token.register k).2 ∧
      t.log = if s.token.cancelled then k :: s.log else s.log := by
  let called := s.setRegistration k .called
  let locked := { called with lock := some (.registration k) }.setRegistration k .locked
  have calls : s.stepRegister k = some called := by rw [State.stepRegister, idle]
  have locks : called.stepRegister k = some locked := by
    rw [State.stepRegister, show called.registrations k = .called by simp [called]]
    simp only [called, State.setRegistration_lock, free, locked]
  have stage : locked.registrations k = .locked := by simp [locked]
  cases up : s.token.cancelled with
  | true =>
    let late := { locked with lock := none }.setRegistration k .late
    let held := { late with log := k :: s.log }.setRegistration k (.held none)
    have looks : locked.stepRegister k = some late := by
      rw [State.stepRegister, stage]
      exact if_pos up
    have runs : late.stepRegister k = some held := by
      rw [State.stepRegister, show late.registrations k = .late by simp [late]]
      rfl
    refine ⟨4, held, ?_, ?_, ?_, rfl⟩
    · simp [List.replicate, State.step, calls, locks, looks, runs]
    · simp [held, Token.register, up]
    · simp [held, late, locked, called, Token.register, up]
  | false =>
    let clear := locked.setRegistration k .clear
    let held := { clear with token := (s.token.enlist k).2, lock := none }.setRegistration k
      (.held (some (s.token.enlist k).1))
    have looks : locked.stepRegister k = some clear := by
      rw [State.stepRegister, stage]
      exact if_neg (by simp [locked, called, up])
    have enlists : clear.stepRegister k = some held := by
      rw [State.stepRegister, show clear.registrations k = .clear by simp [clear]]
      rfl
    refine ⟨4, held, ?_, ?_, ?_, rfl⟩
    · simp [List.replicate, State.step, calls, locks, looks, enlists]
    · simp [held, Token.register, up]
    · simp [held, Token.register, up]

/-- A drop that nobody interrupts is the operation. -/
theorem drop_alone {s : State} {k id : ℕ} (held : s.registrations k = .held (some id))
    (free : s.lock = none) :
    ∃ n t, s.run (List.replicate n (.drop k)) = some t ∧ t.registrations k = .dropped ∧
      t.token = s.token.unregister id := by
  let dropping := s.setRegistration k (.dropping (some id))
  let removing := { dropping with lock := some (.registration k) }.setRegistration k (.removing id)
  let dropped :=
    { removing with token := s.token.unregister id, lock := none }.setRegistration k .dropped
  have drops : s.stepDrop k = some dropping := by rw [State.stepDrop, held]
  have locks : dropping.stepDrop k = some removing := by
    rw [State.stepDrop, show dropping.registrations k = .dropping (some id) by simp [dropping]]
    simp only [dropping, State.setRegistration_lock, free, removing]
  have removes : removing.stepDrop k = some dropped := by
    rw [State.stepDrop, show removing.registrations k = .removing id by simp [removing]]
    rfl
  refine ⟨3, dropped, ?_, ?_, rfl⟩
  · simp [List.replicate, State.step, drops, locks, removes]
  · simp [dropped]

end PseudoTerminal.Cancellation.Calls
