import Mathlib.Tactic
import PseudoTerminal.Child.Handle
import PseudoTerminal.Command.Watch

/-! A started command, step by step. The child ends when it likes; the reaper waits for that and takes
the end; the watcher listens and kills. Reaper and watcher share the handle of the child, and whoever
uses it holds its lock, so between the watcher's look at the child and its signal the child may end but
its end cannot be taken. How the host answers a signal is up to each delivery. -/

namespace PseudoTerminal

def Notice.isExit : Notice → Bool
  | .exited _ => true
  | .cancelled => false

def Notice.isCancelled : Notice → Bool
  | .exited _ => false
  | .cancelled => true

namespace Watch

/-- Whether there is a delay that the clock cannot hold the end of. -/
def overruns (delay : Option ℕ) (now : ℕ) : Bool := delay.any fun delay => (Instant.after? now delay).isNone

variable {w : Watch} {now : ℕ}

theorem due_of_overruns (late : overruns w.delay now) : w.due now = .error brokenDown := by
  unfold due overruns at *
  cases delay : w.delay with
  | none => rw [delay] at late; cases late
  | some d =>
    cases moment : Instant.after? now d with
    | none => simp only [moment]
    | some m => simp [delay, moment] at late

theorem due_of_fits (fits : overruns w.delay now = false) : w.due now = .ok (w.delay.map (now + ·)) := by
  unfold due overruns at *
  cases delay : w.delay with
  | none => rfl
  | some d =>
    cases moment : Instant.after? now d with
    | none => simp [delay, moment] at fits
    | some m =>
      obtain ⟨-, sum⟩ := Option.ite_none_right_eq_some.mp moment
      simp only [moment, Option.map_some, ← Option.some.inj sum]

/-- An action that succeeds counts, and breaks the watcher down if the delay has no end. -/
theorem reached_of_overruns (late : overruns w.delay now) :
    w.reached now (.ok ()) = (.finish (.error brokenDown), { w with cause := true, killed := !w.hasAction }) := by
  simp only [reached, due_of_overruns (w := { w with cause := true, killed := !w.hasAction }) late]

/-- An action that succeeds counts, and the delay begins. -/
theorem reached_of_fits (fits : overruns w.delay now = false) :
    w.reached now (.ok ()) =
      (.listen,
        { w with cause := true, killed := !w.hasAction, deadline := w.delay.map (now + ·) }) := by
  simp only [reached, due_of_fits (w := { w with cause := true, killed := !w.hasAction }) fits]

/-- An action that failed is followed by a kill. -/
theorem reached_of_error {f : Fault} (failed : f ≠ .processDone) :
    w.reached now (.error f) = (.killInstead, w) := by
  unfold reached
  split
  case h_1 ok => cases ok
  case h_2 gone => cases gone; exact absurd rfl failed
  case h_3 => rfl

/-- What follows an action, or the kill for want of one. -/
theorem reached_cases (w : Watch) (now : ℕ) (result : Except Fault Unit) :
    (result = .ok () ∧ overruns w.delay now = true ∧
        w.reached now result =
          (.finish (.error brokenDown), { w with cause := true, killed := !w.hasAction })) ∨
      (result = .ok () ∧ overruns w.delay now = false ∧
        w.reached now result =
          (.listen,
            { w with cause := true, killed := !w.hasAction, deadline := w.delay.map (now + ·) })) ∨
      (result = .error .processDone ∧ w.reached now result = (.listen, w)) ∨
      (∃ f, f ≠ .processDone ∧ result = .error f ∧ w.reached now result = (.killInstead, w)) := by
  cases result with
  | ok =>
    cases late : overruns w.delay now with
    | true => exact .inl ⟨rfl, rfl, reached_of_overruns late⟩
    | false => exact .inr (.inl ⟨rfl, rfl, reached_of_fits late⟩)
  | error f =>
    by_cases gone : f = .processDone
    · exact .inr (.inr (.inl ⟨by rw [gone], by rw [gone]; rfl⟩))
    · exact .inr (.inr (.inr ⟨f, gone, rfl, reached_of_error gone⟩))

end Watch

namespace Coordination

open Child (Custody Handle Standing)
open Watch (reaperGone)

/-! ### The child -/

/-- A child as its host keeps it. A child that sets out to end goes on to look alive for a while. -/
structure Record where
  /-- How the child set out to end, by itself or by somebody's signal. -/
  left : Option ExitKind := none
  /-- Whether a kill by the watcher came before that. -/
  killed : Bool := false
  /-- How the child ended, once it has. -/
  fate : Option ExitKind := none
  /-- Whether the end was taken. -/
  reaped : Bool := false
  /-- The signals that the child got before its end was taken, last first. -/
  received : List Signal := []
  deriving DecidableEq, Repr

/-- How a host answers a signal to the child's group, and one to the child alone. -/
structure Answers where
  group : Except Fault Unit := .ok ()
  alone : Except Fault Unit := .ok ()
  deriving Repr

namespace Answers

/-- Whether a signal gets through, to the group or else to the child alone. -/
def accept : Answers → Bool
  | ⟨.error _, .error _⟩ => false
  | _ => true

end Answers

namespace Record

def standing (r : Record) : Standing :=
  match r.fate, r.reaped with
  | _, true => .gone
  | some kind, false => .ended kind
  | none, false => .running

def reap (r : Record) : Record := { r with reaped := true }

/-- How the child is going to end, when nothing can change that any more. -/
def settled (r : Record) : Option ExitKind := if r.killed then some (.signal Signal.kill) else r.left

/-- Gets a signal. A kill settles the end of a child that did not set out to end, and says nothing to
another one; a child whose end was taken gets none. -/
def receive (r : Record) (signal : Signal) : Record :=
  if r.reaped then r
  else
    { r with
      received := signal :: r.received
      killed := r.killed || signal == Signal.kill && r.left.isNone }

def answer (r : Record) (signal : Signal) : Except Fault Unit → Except Fault Unit × Record
  | .ok () => (.ok (), r.receive signal)
  | .error f => (.error f, r)

end Record

/-- The custody of a child by a host that answers signals as told. -/
def custody (a : Answers) : Custody Record where
  standing := Record.standing
  reap := Record.reap
  signalGroup r signal := r.answer signal a.group
  signalAlone r signal := r.answer signal a.alone

/-! ### The parties -/

/-- How far the reaper has come. -/
inductive Reaper
  | absent
  /-- It sleeps until the child has ended. -/
  | blocking
  | observed
  /-- It holds the lock. -/
  | locked
  /-- It has the end, and is to give the lease back. -/
  | releasing (result : Except Fault ExitKind)
  | sending (result : Except Fault ExitKind)
  | done
  deriving DecidableEq

namespace Reaper

def isPastEnd : Reaper → Bool
  | absent | blocking => false
  | _ => true

/-- What the reaper is going to tell. -/
def report? : Reaper → Option (Except Fault ExitKind)
  | releasing result | sending result => some result
  | _ => none

end Reaper

/-- What a signal is sent for. -/
inductive Purpose
  /-- A kill, for want of an action. -/
  | cancel
  /-- A kill after a failed action. -/
  | instead
  /-- A kill after the delay. -/
  | overdue
  /-- A signal by the action. -/
  | action (signal : Signal)
  deriving DecidableEq, Repr

def Purpose.signal : Purpose → Signal
  | action s => s
  | _ => Signal.kill

/-- How far the watcher has come. -/
inductive Watcher
  | absent
  | listening
  /-- It runs the action. -/
  | acting
  /-- It is to signal the child. -/
  | calling (purpose : Purpose)
  /-- It holds the lock, and did not look at the child yet. -/
  | holding (purpose : Purpose)
  /-- It holds the lock, and found the child running. -/
  | sending (purpose : Purpose)
  | finished (result : Except Fault ExitState)
  deriving DecidableEq

namespace Watcher

def isLocked : Watcher → Bool
  | holding _ | sending _ => true
  | _ => false

def isSending : Watcher → Bool
  | sending _ => true
  | _ => false

def isFinished : Watcher → Bool
  | finished _ => true
  | _ => false

/-- What the watcher goes on with. -/
def ofDemand : Watch.Demand → Watcher
  | .listen => listening
  | .act => acting
  | .kill => calling .cancel
  | .killInstead => calling .instead
  | .finish result => finished result

end Watcher

/-- Who holds the lock of the handle. -/
inductive Party
  | reaper
  | watcher
  deriving DecidableEq, Repr

structure Job where
  record : Record := {}
  handle : Handle
  lock : Option Party := none
  reaper : Reaper := .absent
  watcher : Watcher := .absent
  watch : Watch := {}
  /-- The notices that the watcher did not take up yet, oldest first. -/
  notices : List Notice := []
  /-- The notices that it took up, last first. -/
  heard : List Notice := []
  /-- The signals that it sent to a child it had found running, last first, each with the result. -/
  tries : List (Purpose × Except Fault Unit) := []
  clock : ℕ := 0
  /-- When the action succeeded, or the kill for want of one. -/
  reachedAt : Option ℕ := none

/-- A step of the child, of time, of the reaper or of the watcher. -/
inductive Move
  /-- The child sets out to end. -/
  | leave (kind : ExitKind)
  /-- The child has ended as it was settled. -/
  | ends
  | pass (duration : ℕ)
  | reap
  /-- The watcher takes up a notice, or goes on with a signal that the host answers like this. -/
  | watch (answers : Answers)
  /-- The watcher's wait for a notice runs out. -/
  | expire
  /-- The action looks at the child. -/
  | look
  /-- The action is to signal the child. -/
  | send (signal : Signal)
  /-- The action ends with a result, or breaks the watcher down. -/
  | conclude (result : Option (Except Fault Unit))

namespace Job

/-- Goes on as the watch demands. -/
def follow (j : Job) (next : Watch.Demand × Watch) : Job :=
  { j with watch := next.2, watcher := .ofDemand next.1 }

/-- Goes on after the action, or the kill for want of one. -/
def reach (j : Job) (result : Except Fault Unit) : Job :=
  let reachedAt := match result with
    | .ok () => some j.clock
    | .error _ => j.reachedAt
  { j with reachedAt }.follow (j.watch.reached j.clock result)

/-- Goes on after a signal. -/
def settle (j : Job) (result : Except Fault Unit) : Purpose → Job
  | .cancel => j.reach result
  | .instead => j.follow (j.watch.reachedInstead result)
  | .overdue => { j with watcher := .listening }
  | .action _ => { j with watcher := .acting }

/-- Looks at the child through the handle. -/
def look (j : Job) : Except Fault (Option ExitKind) × Job :=
  let (result, handle, record) := j.handle.tryWait (custody {}) j.record
  (result, { j with handle, record })

def stepReaper (j : Job) : Option Job :=
  match j.reaper with
  | .blocking =>
    match Child.observe j.record.standing with
    | none => none
    | some (.ok ()) => some { j with reaper := .observed }
    | some (.error f) => some { j with reaper := .releasing (.error f) }
  | .observed =>
    match j.lock with
    | none => some { j with lock := some .reaper, reaper := .locked }
    | some _ => none
  | .locked =>
    match j.look with
    | (.ok (some kind), j) => some { j with lock := none, reaper := .releasing (.ok kind) }
    | (.ok none, _) => none
    | (.error f, j) => some { j with lock := none, reaper := .releasing (.error f) }
  | .releasing result => some { j with reaper := .sending result }
  | .sending result => some { j with reaper := .done, notices := j.notices ++ [.exited result] }
  | .absent | .done => none

/-- Takes up the next notice. There is none any more when the reaper is done and told nothing. -/
def hear (j : Job) : Option Job :=
  match j.notices with
  | n :: rest => some ({ j with notices := rest, heard := n :: j.heard }.follow (j.watch.notice n))
  | [] => if j.reaper = .done then some { j with watcher := .finished (.error reaperGone) } else none

def stepWatcher (j : Job) (a : Answers) : Option Job :=
  match j.watcher with
  | .listening => j.hear
  | .calling p =>
    match j.lock with
    | none => some { j with lock := some .watcher, watcher := .holding p }
    | some _ => none
  | .holding p =>
    match j.look with
    | (.ok none, j) => some { j with watcher := .sending p }
    | (.ok (some _), j) => some ({ j with lock := none }.settle (.error .processDone) p)
    | (.error f, j) => some ({ j with lock := none }.settle (.error f) p)
  | .sending p =>
    let (result, record) := Handle.deliver (custody a) j.record p.signal
    some ({ j with record, lock := none, tries := (p, result) :: j.tries }.settle result p)
  | .absent | .acting | .finished _ => none

def stepAction (j : Job) (m : Move) : Option Job :=
  match j.watcher, m with
  | .acting, .look => if j.lock = none then some j.look.2 else none
  | .acting, .send signal => some { j with watcher := .calling (.action signal) }
  | .acting, .conclude (some result) => some (j.reach result)
  | .acting, .conclude none => some { j with watcher := .finished (.error Watch.brokenDown) }
  | _, _ => none

/-- Makes a step; nothing when the party waits or is done. -/
def step (j : Job) : Move → Option Job
  | .leave kind =>
    match j.record.settled with
    | none => some { j with record := { j.record with left := some kind } }
    | some _ => none
  | .ends =>
    match j.record.fate with
    | none => j.record.settled.map fun kind => { j with record := { j.record with fate := some kind } }
    | some _ => none
  | .pass duration => some { j with clock := j.clock + duration }
  | .reap => j.stepReaper
  | .watch a => j.stepWatcher a
  | .expire =>
    if j.watcher = .listening ∧ j.watch.isOverdue j.clock then
      some { j with watch := j.watch.expire, watcher := .calling .overdue }
    else none
  | m => j.stepAction m

/-- Tells the watcher so many times that the token was cancelled. -/
def tell (times : ℕ) (j : Job) : Job :=
  { j with notices := j.notices ++ List.replicate times .cancelled }

end Job

end Coordination

end PseudoTerminal
