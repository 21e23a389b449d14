import PseudoTerminal.Command.Lifecycle
import PseudoTerminal.Proofs.Cancellation.Accounting
import PseudoTerminal.Proofs.Coordination.JobInvariants

/-! A command from its start to the return of its wait, step by step, while other threads act on the
host and on its token. A start looks at the terminal and at the token, resolves, takes the lease,
spawns, starts the reaper, registers, and starts the watcher. The callback that it registers sends the
watcher a notice. A start that nobody interrupts is the one of the lifecycle. -/

namespace PseudoTerminal.Coordination

open Cancellation

/-- A command as it is handed to a start on a host with states `σ`. -/
structure Setup (σ : Type) where
  pad : Launchpad σ
  hasToken : Bool := false
  hasAction : Bool := false
  delay : Option ℕ := none

/-- How far the start has come. -/
inductive Start
  | idle
  /-- The terminal was open. -/
  | opened
  /-- The token was not cancelled, or there is none. -/
  | wanted
  | resolved (path : Octets)
  | leased (path : Octets)
  | spawned (pid : ℕ)
  /-- The reaper runs, and the start registers with the token. -/
  | attached (pid : ℕ)
  | registered (pid : ℕ)
  /-- The watcher runs. -/
  | watched (pid : ℕ)
  | returned (result : Except StartError Unit)
  deriving DecidableEq

namespace Start

/-- Whether there is a child. -/
def hasChild : Start → Bool
  | spawned _ | attached _ | registered _ | watched _ | returned (.ok ()) => true
  | _ => false

/-- Whether the watcher was started. -/
def hasWatcher : Start → Bool
  | watched _ | returned (.ok ()) => true
  | _ => false

/-- Whether the registration was made, if there is a token. -/
def hasRegistered : Start → Bool
  | registered _ | watched _ | returned (.ok ()) => true
  | _ => false

def isInProgress : Start → Bool
  | idle | returned _ => false
  | _ => true

end Start

/-- How far the first wait has come. -/
inductive Wait
  | idle
  /-- It waits for the watcher. -/
  | joining
  /-- It has the result of the watcher, and waits for the reaper. -/
  | joined (result : Except Fault ExitState)
  | returned (result : Except WaitError ExitState)
  deriving DecidableEq

structure State (σ : Type) where
  host : σ
  life : Lifecycle := {}
  calls : Calls.State := {}
  start : Start := .idle
  job : Option Job := none
  wait : Wait := .idle

/-- The number under which the command is registered. -/
def own : ℕ := 0

/-- A step of the command or of somebody else. -/
inductive Turn (σ : Type)
  /-- Others change the host. -/
  | others (host : σ)
  /-- Others go on with a call on the token. -/
  | token (m : Calls.Move)
  | start
  | job (m : Move)
  /-- The watcher, at its end, goes on to drop the registration. -/
  | unregister
  | wait

/-- A call on a command. -/
inductive Call
  | start
  | wait

/-- Whether a step on the token is by the command itself. -/
def isOwn : Calls.Move → Bool
  | .cancel _ => false
  | .register k | .drop k => k == own

variable {σ : Type}

namespace State

/-- The callback of the command tells the watcher, whenever it runs. -/
def setCalls (s : State σ) (calls : Calls.State) : State σ :=
  let told := calls.log.count own - s.calls.log.count own
  { s with calls, job := s.job.map (Job.tell told) }

/-- Makes the next step of a start. -/
def stepStart (u : Setup σ) (s : State σ) : Option (State σ) :=
  match s.start with
  | .idle =>
    if s.life.phase ≠ .idle then some { s with start := .returned (.error .alreadyStarted) }
    else if u.pad.isClosed s.host then some { s with start := .returned (.error .closed) }
    else some { s with start := .opened }
  | .opened =>
    if u.hasToken && s.calls.token.cancelled then
      some { s with start := .returned (.error .cancelled) }
    else some { s with start := .wanted }
  | .wanted =>
    match u.pad.resolve s.host with
    | .error e => some { s with start := .returned (.error e) }
    | .ok path => some { s with start := .resolved path }
  | .resolved path =>
    match u.pad.acquire s.host with
    | none => some { s with start := .returned (.error .busy) }
    | some host => some { s with host, start := .leased path }
  | .leased path =>
    match u.pad.spawn s.host path with
    | .error e => some { s with host := u.pad.release s.host, start := .returned (.error e) }
    | .ok (pid, host) =>
      let watch : Watch := { hasAction := u.hasAction, delay := u.delay }
      some { s with host, start := .spawned pid, job := some { handle := ⟨pid, none⟩, watch } }
  | .spawned pid =>
    some { s with start := .attached pid, job := s.job.map ({ · with reaper := .blocking }) }
  | .attached pid =>
    if u.hasToken then
      match s.calls.stepRegister own with
      | some calls =>
        some { s.setCalls calls with
          start := if (calls.registrations own).isHeld then .registered pid else .attached pid }
      | none => none
    else some { s with start := .registered pid }
  | .registered pid =>
    some { s with start := .watched pid, job := s.job.map ({ · with watcher := .listening }) }
  | .watched pid => some { s with life := ⟨.running, some pid⟩, start := .returned (.ok ()) }
  | .returned _ => none

/-- Makes a step of the child, the reaper or the watcher. The reaper gives the lease back before it
tells the watcher. -/
def stepJob (u : Setup σ) (s : State σ) (m : Move) : Option (State σ) :=
  match s.job with
  | none => none
  | some j =>
    match j.step m with
    | none => none
    | some t =>
      match m, j.reaper with
      | .reap, .releasing _ => some { s with host := u.pad.release s.host, job := some t }
      | _, _ => some { s with job := some t }

def isFinished (s : State σ) : Bool := s.job.any fun j => j.watcher.isFinished

def stepUnregister (u : Setup σ) (s : State σ) : Option (State σ) :=
  if u.hasToken && s.isFinished then (s.calls.stepDrop own).map s.setCalls else none

/-- Makes the next step of the first wait for a command that was started. -/
def stepWait (u : Setup σ) (s : State σ) : Option (State σ) :=
  match s.wait with
  | .idle =>
    if s.start = .returned (.ok ()) then
      match s.life.beginWait with
      | .ok life => some { s with life, wait := .joining }
      | .error e => some { s with wait := .returned (.error e) }
    else none
  | .joining =>
    match s.job.map Job.watcher with
    | some (.finished result) =>
      if u.hasToken && s.calls.registrations own != .dropped then none
      else some { s with wait := .joined result }
    | _ => none
  | .joined result =>
    if s.job.map Job.reaper = some .done then
      some { s with wait := .returned (result.mapError WaitError.os) }
    else none
  | .returned _ => none

/-- Answers a call that comes too early or too late: a start of a command that was started, or a wait for one
that was not started or was waited for. Only the caller gets that answer; nothing for any other call. -/
def refuse (u : Setup σ) (s : State σ) : Call → Option (State σ)
  | .start =>
    if s.life.phase = .idle then none
    else
      let (_, life, host) := s.life.start u.pad s.host
      some { s with life, host }
  | .wait =>
    match s.life.beginWait with
    | .ok _ => none
    | .error _ => some s

/-- Makes a step; nothing when whoever is to make it waits or is done. -/
def step (u : Setup σ) (s : State σ) : Turn σ → Option (State σ)
  | .others host => some { s with host }
  | .token m => if isOwn m then none else (s.calls.step m).map s.setCalls
  | .start => s.stepStart u
  | .job m => s.stepJob u m
  | .unregister => s.stepUnregister u
  | .wait => s.stepWait u

/-- Makes steps one after the other. -/
def run (u : Setup σ) (s : State σ) (turns : List (Turn σ)) : Option (State σ) :=
  turns.foldlM (step u) s

variable {u : Setup σ} {s : State σ}

@[simp] theorem run_nil : s.run u [] = some s := rfl

@[simp] theorem run_cons (turn : Turn σ) (turns : List (Turn σ)) :
    s.run u (turn :: turns) = (s.step u turn).bind fun s => s.run u turns := rfl

theorem run_append (p q : List (Turn σ)) :
    s.run u (p ++ q) = (s.run u p).bind fun s => s.run u q := by
  induction p generalizing s with
  | nil => rfl
  | cons turn p ih => simp only [List.cons_append, run_cons, ih, Option.bind_assoc]

end State

/-! ### What a step can do -/

/-- The steps, each with what it found. -/
inductive Advance (u : Setup σ) (s : State σ) : Turn σ → State σ → Prop
  | others (host : σ) : Advance u s (.others host) { s with host }
  | token (m : Calls.Move) (calls : Calls.State) (other : isOwn m = false)
      (made : s.calls.step m = some calls) : Advance u s (.token m) (s.setCalls calls)
  | fail (e : StartError) (host : σ) (before : s.start.hasChild = false)
      (more : ∀ result, s.start ≠ .returned result) :
      Advance u s .start { s with host, start := .returned (.error e) }
  | enter (stage : s.start = .idle) : Advance u s .start { s with start := .opened }
  | want (stage : s.start = .opened) (down : u.hasToken → s.calls.token.cancelled = false) :
      Advance u s .start { s with start := .wanted }
  | resolve (path : Octets) (stage : s.start = .wanted) :
      Advance u s .start { s with start := .resolved path }
  | acquire (path : Octets) (host : σ) (stage : s.start = .resolved path) :
      Advance u s .start { s with host, start := .leased path }
  | spawn (path : Octets) (pid : ℕ) (host : σ) (stage : s.start = .leased path) :
      Advance u s .start
        { s with
          host
          start := .spawned pid
          job := some
            { handle := ⟨pid, none⟩, watch := { hasAction := u.hasAction, delay := u.delay } } }
  | attach (pid : ℕ) (stage : s.start = .spawned pid) :
      Advance u s .start
        { s with start := .attached pid, job := s.job.map ({ · with reaper := .blocking }) }
  | register (pid : ℕ) (calls : Calls.State) (stage : s.start = .attached pid)
      (token : u.hasToken) (made : s.calls.stepRegister own = some calls) :
      Advance u s .start
        { s.setCalls calls with
          start := if (calls.registrations own).isHeld then .registered pid else .attached pid }
  | skip (pid : ℕ) (stage : s.start = .attached pid) (token : u.hasToken = false) :
      Advance u s .start { s with start := .registered pid }
  | watch (pid : ℕ) (stage : s.start = .registered pid) :
      Advance u s .start
        { s with start := .watched pid, job := s.job.map ({ · with watcher := .listening }) }
  | finish (pid : ℕ) (stage : s.start = .watched pid) :
      Advance u s .start { s with life := ⟨.running, some pid⟩, start := .returned (.ok ()) }
  | job (m : Move) (j t : Job) (host : σ) (has : s.job = some j) (made : j.step m = some t) :
      Advance u s (.job m) { s with host, job := some t }
  | unregister (calls : Calls.State) (token : u.hasToken) (finished : s.isFinished)
      (made : s.calls.stepDrop own = some calls) : Advance u s .unregister (s.setCalls calls)
  | join (life : Lifecycle) (stage : s.wait = .idle) (started : s.start = .returned (.ok ()))
      (first : s.life.beginWait = .ok life) : Advance u s .wait { s with life, wait := .joining }
  | refuse (e : WaitError) (stage : s.wait = .idle) (started : s.start = .returned (.ok ()))
      (late : s.life.beginWait = .error e) :
      Advance u s .wait { s with wait := .returned (.error e) }
  | joinWatcher (j : Job) (result : Except Fault ExitState) (stage : s.wait = .joining)
      (has : s.job = some j) (finished : j.watcher = .finished result)
      (dropped : u.hasToken → s.calls.registrations own = .dropped) :
      Advance u s .wait { s with wait := .joined result }
  | joinReaper (j : Job) (result : Except Fault ExitState) (stage : s.wait = .joined result)
      (has : s.job = some j) (done : j.reaper = .done) :
      Advance u s .wait { s with wait := .returned (result.mapError WaitError.os) }

namespace State

variable {u : Setup σ} {s t : State σ}

theorem advance_of_stepStart (h : s.stepStart u = some t) : Advance u s .start t := by
  unfold stepStart at h
  split at h
  case h_1 stage =>
    have fail (e : StartError) :=
      Advance.fail (u := u) (s := s) e s.host (by rw [stage]; rfl) (by simp [stage])
    split at h
    case isTrue => cases h; exact fail _
    case isFalse =>
      split at h
      case isTrue => cases h; exact fail _
      case isFalse => cases h; exact .enter stage
  case h_2 stage =>
    split at h
    case isTrue => cases h; exact .fail _ s.host (by rw [stage]; rfl) (by simp [stage])
    case isFalse up => cases h; exact .want stage (by simpa using up)
  case h_3 stage =>
    split at h
    case h_1 => cases h; exact .fail _ s.host (by rw [stage]; rfl) (by simp [stage])
    case h_2 path _ => cases h; exact .resolve path stage
  case h_4 path stage =>
    split at h
    case h_1 => cases h; exact .fail _ s.host (by rw [stage]; rfl) (by simp [stage])
    case h_2 host _ => cases h; exact .acquire path host stage
  case h_5 path stage =>
    split at h
    case h_1 => cases h; exact .fail _ _ (by rw [stage]; rfl) (by simp [stage])
    case h_2 pid host _ => cases h; exact .spawn path pid host stage
  case h_6 pid stage => cases h; exact .attach pid stage
  case h_7 pid stage =>
    split at h
    case isTrue token =>
      split at h
      case h_1 calls made => cases h; exact .register pid calls stage token made
      case h_2 => cases h
    case isFalse token => cases h; exact .skip pid stage (by simpa using token)
  case h_8 pid stage => cases h; exact .watch pid stage
  case h_9 pid stage => cases h; exact .finish pid stage
  case h_10 => cases h

theorem advance_of_stepJob {m : Move} (h : s.stepJob u m = some t) : Advance u s (.job m) t := by
  unfold stepJob at h
  split at h
  case h_1 => cases h
  case h_2 j has =>
    split at h
    case h_1 => cases h
    case h_2 next made =>
      split at h
      all_goals cases h; exact .job _ j next _ has made

theorem advance_of_stepWait (h : s.stepWait u = some t) : Advance u s .wait t := by
  unfold stepWait at h
  split at h
  case h_1 stage =>
    split at h
    case isTrue started =>
      split at h
      case h_1 life first => cases h; exact .join life stage started first
      case h_2 e late => cases h; exact .refuse e stage started late
    case isFalse => cases h
  case h_2 stage =>
    split at h
    case h_1 result finished =>
      obtain ⟨j, has, finished⟩ := Option.map_eq_some_iff.mp finished
      split at h
      case isTrue => cases h
      case isFalse dropped => cases h; exact .joinWatcher j result stage has finished (by simpa using dropped)
    case h_2 => cases h
  case h_3 result stage =>
    split at h
    case isTrue done =>
      obtain ⟨j, has, done⟩ := Option.map_eq_some_iff.mp done
      cases h
      exact .joinReaper j result stage has done
    case isFalse => cases h
  case h_4 => cases h

theorem advance_of_step {turn : Turn σ} (h : s.step u turn = some t) : Advance u s turn t := by
  cases turn with
  | others host => cases h; exact .others host
  | token m =>
    simp only [step] at h
    split at h
    case isTrue => cases h
    case isFalse other =>
      obtain ⟨calls, made, rfl⟩ := Option.map_eq_some_iff.mp h
      exact .token m calls (by simpa using other) made
  | start => exact advance_of_stepStart h
  | job m => exact advance_of_stepJob h
  | unregister =>
    simp only [step, stepUnregister] at h
    split at h
    case isTrue due =>
      obtain ⟨calls, made, rfl⟩ := Option.map_eq_some_iff.mp h
      rw [Bool.and_eq_true] at due
      exact .unregister calls due.1 due.2 made
    case isFalse => cases h
  | wait => exact advance_of_stepWait h

/-- A call that is refused changes nothing. -/
theorem refuse_eq {call : Call} (h : s.refuse u call = some t) : t = s := by
  cases call with
  | start =>
    rw [refuse, Lifecycle.start] at h
    split at h
    case isTrue => cases h
    case isFalse => cases h; rfl
  | wait =>
    rw [refuse] at h
    split at h <;> cases h
    rfl

/-- What one step preserves, a run preserves. -/
theorem run_induction {P : State σ → Prop} {turns : List (Turn σ)}
    (step : ∀ s t, ∀ turn ∈ turns, P s → Advance u s turn t → P t) (h : s.run u turns = some t)
    (start : P s) : P t := by
  induction turns generalizing s with
  | nil => cases h; exact start
  | cons turn turns ih =>
    rw [run_cons] at h
    obtain ⟨next, made, h⟩ := Option.bind_eq_some_iff.mp h
    have now := step s next turn List.mem_cons_self start (advance_of_step made)
    exact ih (fun s t turn among => step s t turn (List.mem_cons_of_mem _ among)) h now

end State

end PseudoTerminal.Coordination
