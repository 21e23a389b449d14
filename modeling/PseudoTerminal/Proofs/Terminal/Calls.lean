import Mathlib.Data.Finset.Insert
import Mathlib.Tactic
import PseudoTerminal.Host.Master

/-! Calls on one terminal from any number of threads, step by step. Calls that use the devices share them
under a lock. A close raises the flag, puts one octet into the wake pipe, from which nobody reads, and then
waits until it has the lock alone; it takes the devices out, and lets go of their parts one by one. Control
calls take turns by a mutex of their own while they have their share of the lock. Calls go by numbers, and
what the call of a number asks for is fixed beforehand. A call that nobody interrupts does what the
operation of the same name does. -/

namespace PseudoTerminal.Terminal.Calls

/-! ### Requests and replies -/

inductive Request
  /-- A read, within a time if one is given. -/
  | read (room : ℕ) (within : Option ℕ)
  | write (data : Octets)
  | resize (size : WindowSize)
  | size
  /-- A control call whose function takes so many steps. -/
  | control (steps : ℕ)
  | close
  deriving DecidableEq, Repr

inductive Answer
  | read (result : Except TransferError (Option Octets))
  | wrote (result : Except TransferError ℕ)
  | resized (result : Except ResizeError Unit)
  | sized (result : Except ResizeError WindowSize)
  | controlled (result : Except ResizeError Unit)
  | closed

/-- What the host replies to a call that asks it for one of these. -/
structure Reply where
  poll : Look := .noticed false false
  fetched : Attempt Octets := .again
  stored : Attempt ℕ := .again
  device : Except Fault WindowSize := .ok {}

/-- What a close lets go of. -/
inductive Part
  | master
  | slave
  | wakeReader
  | wakeWriter
  deriving DecidableEq, Repr

namespace Part

/-- The parts that calls use under the lock. -/
def shared : List Part := [master, slave, wakeReader]

def all : List Part := shared ++ [wakeWriter]

theorem count_all (part : Part) : all.count part = 1 := by
  cases part <;> rfl

end Part

/-! ### Calls -/

/-- How far a call has come that has a share of the lock. -/
inductive Use
  /-- It did not look whether the devices are there. -/
  | entered
  /-- It found no devices. -/
  | barred
  /-- It is to read the flag before it polls. -/
  | looking
  | polling
  | trying
  /-- It waits for the mutex of the control calls. -/
  | queueing
  /-- It has the mutex, and so many steps are left before the last one. -/
  | controlling (left : ℕ)
  | controlled (answer : Answer)
  | leaving (answer : Answer)

/-- How far the one close has come that raised the flag. It took the end of the wake pipe if it has it. -/
inductive Closing
  | raised
  | waking (has : Bool)
  /-- It waits for the lock. -/
  | wanting (has : Bool)
  /-- It has the lock alone. -/
  | alone (has : Bool)
  | unlocking (has : Bool) (parts : List Part)
  | releasing (parts : List Part)

inductive Call
  | idle
  /-- It waits for a share of the lock. -/
  | wanting
  | inside (use : Use)
  | closing (stage : Closing)
  | returned (answer : Answer)

/-- A stage of a transfer as part of a call, which goes on like this when it is to look. -/
def Use.ofStage {α : Type} (answer : Except TransferError α → Answer) (onward : Use) : Stage α → Use
  | .looking => onward
  | .trying => .trying
  | .finished result => .leaving (answer result)

namespace Request

def isTimed : Request → Bool
  | read _ (some _) => true
  | _ => false

/-- The answer that a request has without a look at the terminal. -/
def atOnce? : Request → Option Answer
  | read 0 none => some (.read (.ok (some [])))
  | resize window => if window.isValid then none else some (.resized (.error (.invalidSize window)))
  | _ => none

/-- The answer that the terminal is closed. -/
def barred : Request → Answer
  | read .. => .read (.error .closed)
  | write _ => .wrote (.error .closed)
  | resize _ => .resized (.error .closed)
  | size => .sized (.error .closed)
  | control _ => .controlled (.error .closed)
  | close => .closed

/-- How many steps a control call takes before its last one. -/
def effort : Request → ℕ
  | control steps => steps
  | _ => 0

/-- What a call does first that has found the devices. -/
def first : Request → Use
  | read room none => .ofStage .read .looking (startRead false room)
  | read room (some _) => .ofStage .read .looking (startTimedRead false room)
  | write data => .ofStage .wrote .looking (startWrite false data)
  | resize _ | size | control _ => .queueing
  | close => .barred

def look (closed : Bool) : Request → Use
  | read .. => .ofStage .read .polling (Stage.looking.beforeLook closed)
  | write _ => .ofStage .wrote .polling (Stage.looking.beforeLook closed)
  | _ => .barred

def polled (look : Look) : Request → Use
  | read .. => .ofStage .read .looking (afterReadLook look)
  | write _ => .ofStage .wrote .looking (afterWriteLook look)
  | _ => .barred

def tried (reply : Reply) : Request → Use
  | read .. => .ofStage .read .looking (afterFetch reply.fetched)
  | write _ => .ofStage .wrote .looking (afterStore reply.stored)
  | _ => .barred

/-- The answer of a control call. -/
def outcome (reply : Reply) : Request → Answer
  | resize _ => .resized ((reply.device.map fun _ => ()).mapError .device)
  | size => .sized (reply.device.mapError .device)
  | control _ => .controlled (.ok ())
  | r => r.barred

end Request

/-- How a poll returns that the host ends like this, or nothing while it blocks. It sees an octet in the
wake pipe whenever there is one. -/
def poll? (woken timed : Bool) : Look → Option Look
  | .noticed _ ready => if woken || ready then some (.noticed woken ready) else none
  | .expired => if timed && !woken then some .expired else none
  | look => some look

/-- A poll that returned without having seen the wake octet, for any other reason than an interruption. -/
def isUnaware : Look → Bool
  | .expired | .failed _ | .noticed false _ => true
  | .interrupted | .noticed true _ => false

structure State where
  /-- The flag that says that the terminal is closed. -/
  closed : Bool := false
  /-- The calls with a share of the lock. -/
  readers : Finset ℕ := ∅
  /-- The call that has the lock alone. -/
  writer : Option ℕ := none
  /-- Whether the devices are there to be found. -/
  devices : Bool := true
  /-- Whether the end of the wake pipe is there to be taken. -/
  wakeWriter : Bool := true
  /-- How many octets are in the wake pipe. -/
  wakes : ℕ := 0
  /-- The call that has the mutex of the control calls. -/
  control : Option ℕ := none
  /-- What was let go of, last first. -/
  released : List Part := []
  calls : ℕ → Call := fun _ => .idle

/-- The next step of a call, with what the host replies. -/
structure Move where
  call : ℕ
  reply : Reply := {}

namespace State

def setCall (s : State) (i : ℕ) (c : Call) : State := { s with calls := Function.update s.calls i c }

def woken (s : State) : Bool := 0 < s.wakes

def start (r : Request) (s : State) (i : ℕ) : State :=
  match r.atOnce? with
  | some answer => s.setCall i (.returned answer)
  | none =>
    if s.closed then s.setCall i (.returned r.barred)
    else if r = .close then { s with closed := true }.setCall i (.closing .raised)
    else s.setCall i .wanting

/-- A call gives its share of the lock back and returns. -/
def leave (s : State) (i : ℕ) (answer : Answer) : State :=
  { s with readers := s.readers.erase i }.setCall i (.returned answer)

/-- What follows a step of a call that only looks at the terminal. -/
def next? (r : Request) (s : State) (reply : Reply) : Use → Option Use
  | .entered => some (if s.devices then r.first else .barred)
  | .looking => some (r.look s.closed)
  | .polling => (poll? s.woken r.isTimed reply.poll).map r.polled
  | .trying => some (r.tried reply)
  | .controlling 0 => some (.controlled (r.outcome reply))
  | .controlling (left + 1) => some (.controlling left)
  | _ => none

def stepUse (r : Request) (s : State) (i : ℕ) (reply : Reply) : Use → Option State
  | .queueing =>
    match s.control with
    | none => some ({ s with control := some i }.setCall i (.inside (.controlling r.effort)))
    | some _ => none
  | .controlled answer => some ({ s with control := none }.setCall i (.inside (.leaving answer)))
  | .leaving answer => some (s.leave i answer)
  | .barred => some (s.leave i r.barred)
  | use => (s.next? r reply use).map fun use => s.setCall i (.inside use)

def stepClosing (s : State) (i : ℕ) : Closing → Option State
  -- nobody else asks for the end of the wake pipe, so its own mutex is never in the way
  | .raised => some ({ s with wakeWriter := false }.setCall i (.closing (.waking s.wakeWriter)))
  | .waking has =>
    some ({ s with wakes := if has then s.wakes + 1 else s.wakes }.setCall i (.closing (.wanting has)))
  | .wanting has =>
    if s.readers = ∅ ∧ s.writer = none then
      some ({ s with writer := some i }.setCall i (.closing (.alone has)))
    else none
  | .alone has =>
    some ({ s with devices := false }.setCall i
      (.closing (.unlocking has (if s.devices then Part.shared else []))))
  | .unlocking has parts =>
    some ({ s with writer := none }.setCall i
      (.closing (.releasing (parts ++ if has then [Part.wakeWriter] else []))))
  | .releasing [] => some (s.setCall i (.returned .closed))
  | .releasing (part :: parts) =>
    some ({ s with released := part :: s.released }.setCall i (.closing (.releasing parts)))

/-- Makes a step of a call; nothing while the call waits, and when it is over. A share of the lock is
there for everybody as long as nobody has the lock alone; a lock that favours those who want it alone
grants less than that. -/
def step (r : ℕ → Request) (s : State) (m : Move) : Option State :=
  match s.calls m.call with
  | .idle => some (s.start (r m.call) m.call)
  | .wanting =>
    match s.writer with
    | none => some ({ s with readers := insert m.call s.readers }.setCall m.call (.inside .entered))
    | some _ => none
  | .inside use => s.stepUse (r m.call) m.call m.reply use
  | .closing stage => s.stepClosing m.call stage
  | .returned _ => none

/-- Makes steps one after the other. -/
def run (r : ℕ → Request) (s : State) (moves : List Move) : Option State := moves.foldlM (step r) s

variable {r : ℕ → Request} {s : State}

@[simp] theorem run_nil : s.run r [] = some s := rfl

@[simp] theorem run_cons (m : Move) (moves : List Move) :
    s.run r (m :: moves) = (s.step r m).bind fun s => s.run r moves := rfl

section

variable (i : ℕ) (c : Call)

@[simp] theorem setCall_closed : (s.setCall i c).closed = s.closed := rfl

@[simp] theorem setCall_readers : (s.setCall i c).readers = s.readers := rfl

@[simp] theorem setCall_writer : (s.setCall i c).writer = s.writer := rfl

@[simp] theorem setCall_devices : (s.setCall i c).devices = s.devices := rfl

@[simp] theorem setCall_wakeWriter : (s.setCall i c).wakeWriter = s.wakeWriter := rfl

@[simp] theorem setCall_wakes : (s.setCall i c).wakes = s.wakes := rfl

@[simp] theorem setCall_control : (s.setCall i c).control = s.control := rfl

@[simp] theorem setCall_released : (s.setCall i c).released = s.released := rfl

@[simp] theorem setCall_calls (j : ℕ) : (s.setCall i c).calls j = if j = i then c else s.calls j :=
  Function.update_apply s.calls i c j

theorem setCall_self : (s.setCall i c).calls i = c := Function.update_self ..

end

/-- A step in which a call only looks at the terminal. -/
theorem stepUse_of_next {q : Request} {i : ℕ} {reply : Reply} {use next : Use}
    (h : s.next? q reply use = some next) : s.stepUse q i reply use = some (s.setCall i (.inside next)) := by
  unfold stepUse
  split <;> first | rw [h]; rfl | cases h

end State

/-! ### Calls that nobody interrupts -/

open Host (Kernel Master)

variable {r : ℕ → Request} {s t : State} {i : ℕ} {reply : Reply} {answer : Answer}

/-- The call returns this answer when nobody but it makes steps, and the host replies like this. -/
def Answers (r : ℕ → Request) (i : ℕ) (reply : Reply) (answer : Answer) (s : State) : Prop :=
  ∃ n t, s.run r (List.replicate n ⟨i, reply⟩) = some t ∧ t.calls i = .returned answer

namespace Answers

theorem of_returned (stage : s.calls i = .returned answer) : Answers r i reply answer s :=
  ⟨0, s, rfl, stage⟩

theorem of_step (stepped : s.step r ⟨i, reply⟩ = some t) (rest : Answers r i reply answer t) :
    Answers r i reply answer s := by
  obtain ⟨n, u, ran, returned⟩ := rest
  exact ⟨n + 1, u, by rw [List.replicate_succ, State.run_cons, stepped]; exact ran, returned⟩

theorem of_leaving (stage : s.calls i = .inside (.leaving answer)) : Answers r i reply answer s :=
  of_step (by rw [State.step, stage]; rfl) (of_returned (State.setCall_self _ _))

theorem of_next {use : Use} (next : Use) (stage : s.calls i = .inside use)
    (h : s.next? (r i) reply use = some next)
    (rest : Answers r i reply answer (s.setCall i (.inside next))) : Answers r i reply answer s :=
  of_step (by rw [State.step, stage]; exact State.stepUse_of_next h) rest

/-- A call that finds an open terminal gets to the devices. -/
theorem of_idle (idle : s.calls i = .idle) (waits : (r i).atOnce? = none) (uses : r i ≠ .close)
    (opened : s.closed = false) (there : s.devices = true) (free : s.writer = none)
    (rest : ∀ t : State, t.calls i = .inside (r i).first → t.closed = false → t.wakes = s.wakes →
      t.control = s.control → Answers r i reply answer t) : Answers r i reply answer s := by
  have started : s.step r ⟨i, reply⟩ = some (s.setCall i .wanting) := by
    simp [State.step, idle, State.start, waits, opened, uses]
  let u : State := { s.setCall i .wanting with readers := insert i s.readers }
  have entered : (s.setCall i .wanting).step r ⟨i, reply⟩ = some (u.setCall i (.inside .entered)) := by
    simp [State.step, free, u]
  exact of_step started (of_step entered (of_next (r i).first (State.setCall_self _ _)
    (congrArg some (if_pos there)) (rest _ (State.setCall_self _ _) opened rfl rfl)))

/-- A call on a closed terminal that nobody uses is refused, if it needs to look at the terminal. -/
theorem of_closed (idle : s.calls i = .idle) (waits : (r i).atOnce? = none) (closed : s.closed = true) :
    Answers r i reply (r i).barred s := by
  refine of_step (t := s.setCall i (.returned (r i).barred)) ?_ (of_returned (State.setCall_self _ _))
  simp [State.step, idle, State.start, waits, closed]

theorem of_atOnce (idle : s.calls i = .idle) (known : (r i).atOnce? = some answer) :
    Answers r i reply answer s := by
  refine of_step (t := s.setCall i (.returned answer)) ?_ (of_returned (State.setCall_self _ _))
  simp [State.step, idle, State.start, known]

end Answers

section

variable {m : Master} {π : Type} {k : Kernel π}

theorem answers_of_looking_read {room : ℕ} {within : Option ℕ} {late : Bool}
    {result : Except TransferError (Option Octets)} (asks : r i = .read room within)
    (stage : s.calls i = .inside .looking) (opened : s.closed = false) (calm : s.wakes = 0)
    (shut : m.closed = false) (timed : late → within.isSome)
    (polls : reply.poll =
      if late && m.lookToRead k == .noticed false false then .expired else m.lookToRead k)
    (fetches : reply.fetched = (m.fetch k room).1)
    (reads : (m.readOnce k room late .looking).1 = .finished result) :
    Answers r i reply (.read result) s := by
  have flag : s.next? (r i) reply .looking = some .polling := by
    rw [State.next?, asks, opened]
    rfl
  refine .of_next _ stage flag ?_
  obtain ⟨ready, look⟩ : ∃ ready, m.lookToRead k = .noticed false ready :=
    ⟨_, by rw [Master.lookToRead, shut]⟩
  rw [look] at polls
  simp only [Master.readOnce, Stage.beforeLook, shut, look] at reads
  have quiet : (s.setCall i (.inside .polling)).woken = false := by simp [State.woken, calm]
  cases ready with
  | false =>
    cases late with
    | false => cases reads
    | true =>
      have limited : (r i).isTimed = true := by
        obtain ⟨d, rfl⟩ := Option.isSome_iff_exists.mp (timed rfl)
        rw [asks]
        rfl
      cases reads
      refine .of_next (.leaving (.read (.ok none))) (State.setCall_self _ _) ?_
        (.of_leaving (State.setCall_self _ _))
      rw [State.next?, quiet, limited, polls, asks]
      rfl
  | true =>
    have inTime : (late && (Look.noticed false true == Look.noticed false false)) = false := by
      cases late <;> rfl
    simp only [inTime, Bool.false_eq_true, if_false] at polls reads
    change afterFetch (m.fetch k room).1 = .finished result at reads
    refine .of_next .trying (State.setCall_self _ _) ?_
      (.of_next (.leaving (.read result)) (State.setCall_self _ _) ?_
        (.of_leaving (State.setCall_self _ _)))
    · rw [State.next?, quiet, polls, asks]
      rfl
    · rw [State.next?, asks, Request.tried, fetches, reads]
      rfl

theorem answers_of_looking_write {data : Octets} {result : Except TransferError ℕ}
    (asks : r i = .write data) (stage : s.calls i = .inside .looking) (opened : s.closed = false)
    (calm : s.wakes = 0) (shut : m.closed = false) (polls : reply.poll = m.lookToWrite k)
    (stores : reply.stored = (m.store k data).1)
    (writes : (m.writeOnce k data .looking).1 = .finished result) :
    Answers r i reply (.wrote result) s := by
  have flag : s.next? (r i) reply .looking = some .polling := by
    rw [State.next?, asks, opened]
    rfl
  refine .of_next _ stage flag ?_
  obtain ⟨ready, look⟩ : ∃ ready, m.lookToWrite k = .noticed false ready :=
    ⟨_, by rw [Master.lookToWrite, shut]⟩
  rw [look] at polls
  simp only [Master.writeOnce, Stage.beforeLook, shut, look] at writes
  have quiet : (s.setCall i (.inside .polling)).woken = false := by simp [State.woken, calm]
  cases ready with
  | false => cases writes
  | true =>
    change afterStore (m.store k data).1 = .finished result at writes
    refine .of_next .trying (State.setCall_self _ _) ?_
      (.of_next (.leaving (.wrote result)) (State.setCall_self _ _) ?_
        (.of_leaving (State.setCall_self _ _)))
    · rw [State.next?, quiet, polls, asks]
      rfl
    · rw [State.next?, asks, Request.tried, stores, writes]
      rfl

end

/-- A control call whose turn it is takes its steps and answers. -/
theorem answers_of_queueing (stage : s.calls i = .inside .queueing) (unowned : s.control = none) :
    Answers r i reply ((r i).outcome reply) s := by
  have controlling (left : ℕ) (s : State) (stage : s.calls i = .inside (.controlling left)) :
      Answers r i reply ((r i).outcome reply) s := by
    induction left generalizing s with
    | zero =>
      let answer := (r i).outcome reply
      let done := s.setCall i (.inside (.controlled answer))
      refine .of_next (.controlled answer) stage rfl (.of_step
        (t := { done with control := none }.setCall i (.inside (.leaving answer))) ?_
        (.of_leaving (State.setCall_self _ _)))
      rw [State.step, State.setCall_self]
      rfl
    | succ left ih => exact .of_next _ stage rfl (ih _ (State.setCall_self _ _))
  refine .of_step (t := { s with control := some i }.setCall i (.inside (.controlling (r i).effort))) ?_
    (controlling _ _ (State.setCall_self _ _))
  rw [State.step, stage]
  simp only [State.stepUse, unowned]

section

variable {m : Master} {π : Type} {k : Kernel π} (idle : s.calls i = .idle) (free : s.writer = none)
  (flag : s.closed = m.closed) (there : s.devices = !m.closed) (calm : m.closed = false → s.wakes = 0)

include idle free flag there

/-- A call that nobody interrupts finds out first whether the terminal is closed. -/
theorem answers_of_open (waits : (r i).atOnce? = none) (uses : r i ≠ .close)
    (closed : m.closed = true → answer = (r i).barred)
    (opened : m.closed = false → ∀ t : State, t.calls i = .inside (r i).first → t.closed = false →
      t.wakes = s.wakes → t.control = s.control → Answers r i reply answer t) :
    Answers r i reply answer s := by
  cases shut : m.closed with
  | true =>
    rw [closed shut]
    exact .of_closed idle waits (flag.trans shut)
  | false =>
    rw [shut] at flag there
    exact .of_idle idle waits uses flag there free (opened shut)

section

include calm

/-- A read that nobody interrupts is the host side's. -/
theorem read_alone {room : ℕ} {within : Option ℕ} {late : Bool}
    {result : Except TransferError (Option Octets)} (asks : r i = .read room within)
    (timed : late → within.isSome)
    (polls : reply.poll =
      if late && m.lookToRead k == .noticed false false then .expired else m.lookToRead k)
    (fetches : reply.fetched = (m.fetch k room).1)
    (reads : (m.readOnce k room late
      (if within.isSome then startTimedRead m.closed room else startRead m.closed room)).1 =
        .finished result) : Answers r i reply (.read result) s := by
  by_cases nothing : room = 0 ∧ within = none
  · obtain ⟨rfl, rfl⟩ := nothing
    cases reads
    exact .of_atOnce idle (by rw [asks]; rfl)
  · have waits : (r i).atOnce? = none := by
      rw [asks]
      rcases room with _ | room <;> rcases within with _ | d <;> first | rfl | simp at nothing
    refine answers_of_open idle free flag there waits (by rw [asks]; nofun) ?_ ?_
    · intro shut
      rw [shut] at reads
      have rejected : result = .error .closed := by
        rcases room with _ | room <;> rcases within with _ | d <;> first | cases reads; rfl | simp at nothing
      rw [asks, rejected]
      rfl
    · intro shut t stage opened wakes _
      rw [asks] at stage
      rw [shut] at reads
      by_cases roomless : room = 0
      · subst roomless
        cases within with
        | none => simp at nothing
        | some d =>
          cases reads
          exact .of_leaving stage
      · have looks : (if within.isSome then startTimedRead false room else startRead false room) =
            .looking := by
          cases within <;> simp [startTimedRead, startRead, roomless]
        have stage : t.calls i = .inside .looking := by
          cases within <;>
            simpa [Request.first, startTimedRead, startRead, roomless, Use.ofStage] using stage
        rw [looks] at reads
        exact answers_of_looking_read asks stage opened (wakes.trans (calm shut)) shut timed polls
          fetches reads

/-- A write that nobody interrupts is the host side's. -/
theorem write_alone {data : Octets} {result : Except TransferError ℕ} (asks : r i = .write data)
    (polls : reply.poll = m.lookToWrite k) (stores : reply.stored = (m.store k data).1)
    (writes : (m.writeOnce k data (startWrite m.closed data)).1 = .finished result) :
    Answers r i reply (.wrote result) s := by
  refine answers_of_open idle free flag there (by rw [asks]; rfl) (by rw [asks]; nofun) ?_ ?_
  · intro shut
    rw [shut] at writes
    cases writes
    rw [asks]
    rfl
  · intro shut t stage opened wakes _
    rw [asks] at stage
    rw [shut] at writes
    by_cases nothing : data = []
    · subst nothing
      cases writes
      exact .of_leaving stage
    · have looks : startWrite false data = .looking := by simp [startWrite, nothing]
      rw [Request.first, looks] at stage
      rw [looks] at writes
      exact answers_of_looking_write asks stage opened (wakes.trans (calm shut)) shut polls stores writes

end

/-- A control call that nobody interrupts gets its turn when the terminal is open. -/
theorem answers_of_control (waits : (r i).atOnce? = none) (takesTurn : (r i).first = .queueing)
    (unowned : s.control = none) (closed : m.closed = true → answer = (r i).barred)
    (opened : m.closed = false → answer = (r i).outcome reply) : Answers r i reply answer s := by
  have uses : r i ≠ .close := by
    intro close
    rw [close] at takesTurn
    cases takesTurn
  refine answers_of_open idle free flag there waits uses closed fun shut t stage _ _ control => ?_
  rw [opened shut]
  exact answers_of_queueing (stage.trans (congrArg Call.inside takesTurn)) (control.trans unowned)

/-- A control call that nobody interrupts is the host side's. -/
theorem control_alone {steps : ℕ} {d : Device} {α : Type} (f : Device → α) (asks : r i = .control steps)
    (unowned : s.control = none) (has : k.terminal? m.device = some d) :
    Answers r i reply (.controlled ((m.control k f).map fun _ => ())) s := by
  refine answers_of_control idle free flag there (by rw [asks]; rfl) (by rw [asks]; rfl) unowned
    (fun shut => ?_) fun shut => ?_
  · rw [asks, Master.control, shut]
    rfl
  · rw [asks, Master.control, shut, has]
    rfl

theorem size_alone {d : Device} (asks : r i = .size) (unowned : s.control = none)
    (has : k.terminal? m.device = some d) (tells : reply.device = .ok d.size) :
    Answers r i reply (.sized (m.size k)) s := by
  refine answers_of_control idle free flag there (by rw [asks]; rfl) (by rw [asks]; rfl) unowned
    (fun shut => ?_) fun shut => ?_
  · rw [asks, Master.size, Master.control, shut]
    rfl
  · rw [asks, Master.size, Master.control, shut, has, Request.outcome, tells]
    rfl

theorem resize_alone {size : WindowSize} {d : Device} (asks : r i = .resize size)
    (unowned : s.control = none) (has : k.terminal? m.device = some d) (takes : reply.device = .ok size) :
    Answers r i reply (.resized ((m.resize k size).map fun _ => ())) s := by
  cases valid : size.isValid with
  | false =>
    rw [Master.resize, valid]
    exact .of_atOnce idle (by rw [asks, Request.atOnce?, valid]; rfl)
  | true =>
    refine answers_of_control idle free flag there (by rw [asks, Request.atOnce?, valid]; rfl)
      (by rw [asks]; rfl) unowned (fun shut => ?_) fun shut => ?_
    · rw [asks, Master.resize, valid, Master.control, shut]
      rfl
    · rw [asks, Master.resize, valid, Master.control, shut, has, Request.outcome, takes]
      rfl

/-- A close that nobody interrupts is the host side's: the first one gives the parts back, and one after it
does nothing. -/
theorem close_alone (asks : r i = .close) (unused : s.readers = ∅) (writes : s.wakeWriter = !m.closed) :
    ∃ n t, s.run r (List.replicate n ⟨i, reply⟩) = some t ∧ t.calls i = .returned .closed ∧
      t.closed = (m.close k).1.closed ∧
      t.released = (if m.closed then [] else Part.all.reverse) ++ s.released := by
  cases shut : m.closed with
  | true =>
    rw [shut] at flag
    refine ⟨1, s.setCall i (.returned .closed), ?_, State.setCall_self _ _, ?_, rfl⟩
    · simp [State.step, idle, State.start, asks, Request.atOnce?, flag, Request.barred]
    · simp [Master.close, shut, flag]
  | false =>
    rw [shut] at flag there writes
    refine ⟨11, ?_⟩
    simp [List.replicate, State.step, State.start, State.stepClosing, idle, asks, Request.atOnce?, flag,
      there, writes, unused, free, Part.shared, Part.all, Master.close, shut]

end

end PseudoTerminal.Terminal.Calls
