import PseudoTerminal.Proofs.Coordination.Tenancy
import PseudoTerminal.Proofs.Session.Settling
import PseudoTerminal.Session.Entry

/-! One command over any sequence of starts and waits. A start that fails leaves the command and the world
as they were, so it might as well not have been made. One start succeeds, and the first wait after it is
for the outcome of the program. Once the child has ended, that wait has its answer. -/

namespace PseudoTerminal

/-! ### One start -/

namespace Lifecycle

variable {σ : Type} {pad : Launchpad σ} {l : Lifecycle} {s : σ}

theorem start_of_started (started : l.phase ≠ .idle) :
    l.start pad s = (.error .alreadyStarted, l, s) := if_pos started

/-- A start fails and leaves everything as it was, or it spawns. -/
theorem start_cases (restores : ∀ s t, pad.acquire s = some t → pad.release t = s) :
    (∃ f, l.start pad s = (.error f, l, s)) ∨
      l.phase = .idle ∧ ∃ pid t, l.start pad s = (.ok (), ⟨.running, some pid⟩, t) := by
  unfold start
  split
  case isTrue => exact .inl ⟨_, rfl⟩
  case isFalse started =>
    split
    case isTrue => exact .inl ⟨_, rfl⟩
    case isFalse =>
      split
      case isTrue => exact .inl ⟨_, rfl⟩
      case isFalse =>
        split
        case h_1 => exact .inl ⟨_, rfl⟩
        case h_2 =>
          split
          case h_1 => exact .inl ⟨_, rfl⟩
          case h_2 t acquired =>
            split
            -- the lease is all that was taken by then
            case h_1 => exact .inl ⟨_, by rw [restores s t acquired]⟩
            case h_2 pid t' _ => exact .inr ⟨not_not.mp started, pid, t', rfl⟩

end Lifecycle

namespace Session

/-- The lease of a terminal is all that a start takes, and giving it back undoes that. -/
theorem restores_launchpad (terminal : ℕ) (c : Command Action ℕ) (w v : World)
    (acquired : (World.launchpad terminal c).acquire w = some v) :
    (World.launchpad terminal c).release v = w := by
  simp only [World.launchpad, bind, Option.bind_eq_some_iff, pure, Option.some_inj] at acquired
  obtain ⟨m, there, lease, taken, rfl⟩ := acquired
  obtain ⟨inside, rfl⟩ := List.getElem?_eq_some_iff.mp there
  have free : w.masters[terminal].lease = ⟨false⟩ := by
    cases busy : w.masters[terminal].lease with
    | mk b => cases b <;> simp_all [Lease.acquire?]
  have before : w.masters.set terminal { w.masters[terminal] with lease := ⟨false⟩ } = w.masters := by
    rw [← free]
    exact List.set_getElem_self inside
  simp only [World.launchpad, World.setMaster, List.getElem?_set_self inside, List.set_set,
    Lease.release, before]

/-- The number of the child that a job watches. -/
def World.childOf (w : World) (job : ℕ) : Option ℕ := (w.jobs[job]?).map fun j => j.handle.pid

theorem childOf_setJob {w : World} {i : ℕ} {j j' : Job} (there : w.jobs[i]? = some j)
    (same : j'.handle.pid = j.handle.pid) (job : ℕ) : (w.setJob i j').childOf job = w.childOf job := by
  rw [World.childOf, World.childOf, World.setJob, List.getElem?_set]
  split
  case isTrue here =>
    subst here
    obtain ⟨inside, rfl⟩ := List.getElem?_eq_some_iff.mp there
    simp [inside, same]
  case isFalse => rfl

theorem childOf_register (w : World) (i token job : ℕ) :
    (w.register i token).childOf job = w.childOf job := by
  unfold World.register
  split
  case h_1 t j _ there =>
    split
    case h_1 => exact childOf_setJob (by exact there) (by rfl) job
    case h_2 =>
      simp only [World.tell, there]
      exact childOf_setJob there (by rfl) job
  case h_2 => rfl

/-- The job that comes with a child watches that child. -/
theorem childOf_attach (w : World) (terminal pid : ℕ) (c : Command Action ℕ) :
    (w.attach terminal pid c).2.childOf (w.attach terminal pid c).1 = some pid := by
  unfold World.attach
  split
  case h_1 =>
    rw [childOf_register]
    simp [World.childOf]
  case h_2 => simp [World.childOf]

/-- What a start meets, where giving the lease back undoes taking it. -/
structure Site extends Launchpad World where
  restores : ∀ w v, acquire w = some v → release v = w

/-- What the start of a command meets on a terminal. -/
def Site.ofTerminal (terminal : ℕ) (c : Command Action ℕ) : Site :=
  ⟨World.launchpad terminal c, restores_launchpad terminal c⟩

namespace Entry

variable {e f : Entry} {site : Site} {w v : World}

theorem startWith_ofTerminal (e : Entry) (w : World) :
    e.startWith (Site.ofTerminal e.terminal e.command).toLaunchpad w = e.start w := rfl

/-- The command as it runs as a process, by a job. -/
def running (e : Entry) (pid job : ℕ) : Entry :=
  { e with
    life := ⟨.running, some pid⟩
    job := some job
    command := { e.command with action := none } }

theorem startWith_of_started (started : e.life.phase ≠ .idle) :
    e.startWith site.toLaunchpad w = (.error .alreadyStarted, e, w) := by
  rw [startWith, World.startWith, Lifecycle.start_of_started started]

theorem startWith_of_spawned {pad : Launchpad World} {pid : ℕ}
    (spawned : e.life.start pad w = (.ok (), ⟨.running, some pid⟩, v)) :
    e.startWith pad w = (.ok (), e.running pid (v.attach e.terminal pid e.command).1,
      (v.attach e.terminal pid e.command).2) := by
  rw [startWith, World.startWith, spawned]
  rfl

theorem startWith_cases (e : Entry) (site : Site) (w : World) :
    (∃ f, e.startWith site.toLaunchpad w = (.error f, e, w)) ∨
      e.life.phase = .idle ∧
        ∃ pid job v, e.startWith site.toLaunchpad w = (.ok (), e.running pid job, v) ∧
          v.childOf job = some pid := by
  rcases Lifecycle.start_cases (l := e.life) (s := w) site.restores with
    ⟨f, failed⟩ | ⟨idle, pid, v, spawned⟩
  · refine .inl ⟨f, ?_⟩
    rw [startWith, World.startWith, failed]
  · exact .inr ⟨idle, pid, _, _, startWith_of_spawned spawned,
      childOf_attach v e.terminal pid e.command⟩

/-- A start that fails leaves the command and the world as they were. -/
theorem eq_of_startWith_error {g : StartError}
    (failed : e.startWith site.toLaunchpad w = (.error g, f, v)) : f = e ∧ v = w := by
  rcases startWith_cases e site w with ⟨g', failed'⟩ | ⟨-, pid, job, v', spawned, -⟩
  · rw [failed'] at failed
    cases failed
    exact ⟨rfl, rfl⟩
  · rw [spawned] at failed
    cases failed

theorem running_of_startWith_ok (started : e.startWith site.toLaunchpad w = (.ok (), f, v)) :
    e.life.phase = .idle ∧ ∃ pid job, f = e.running pid job ∧ v.childOf job = some pid := by
  rcases startWith_cases e site w with ⟨g', failed⟩ | ⟨idle, pid, job, v', spawned, watched⟩
  · rw [failed] at started
    cases started
  · rw [spawned] at started
    cases started
    exact ⟨idle, pid, job, rfl, watched⟩

/-! ### One wait -/

theorem wait_of_idle (idle : e.life.phase = .idle) : e.wait w = (some (.error .notStarted), e, w) := by
  simp [wait, Lifecycle.beginWait, idle]

theorem wait_of_awaited (awaited : e.life.phase = .awaited) :
    e.wait w = (some (.error .alreadyWaited), e, w) := by
  simp [wait, Lifecycle.beginWait, awaited]

/-- The command after its first wait. -/
def awaited (e : Entry) : Entry := { e with life := { e.life with phase := .awaited } }

theorem wait_of_running {job : ℕ} (running : e.life.phase = .running) (has : e.job = some job) :
    e.wait w =
      ((w.await job).1.map (Except.mapError WaitError.os), e.awaited, (w.await job).2) := by
  simp [wait, Lifecycle.beginWait, running, has, awaited]

/-- A wait for a job that is done answers its result. -/
theorem await_of_outcome {job : ℕ} {result : Except Fault ExitState}
    (done : w.settle.outcome? job = some result) : (w.await job).1 = some result := by
  rw [World.await, World.run_of_some (by rw [done])]

theorem childOf_iff {job pid : ℕ} :
    w.childOf job = some pid ↔ ∃ j, w.jobs[job]? = some j ∧ j.handle.pid = pid := Option.map_eq_some_iff

/-- Whatever happens in a world, a job keeps its child. -/
theorem childOf_settle {job pid : ℕ} (has : w.childOf job = some pid) :
    w.settle.childOf job = some pid := by
  refine World.settle_induction (P := fun w => w.childOf job = some pid) (fun _ _ => id) (fun _ _ => id)
    ?_ ?_ has
  · intro w i has
    unfold World.tell
    split
    case h_1 j there => exact (childOf_setJob there (by rfl) job).trans has
    case h_2 => exact has
  · intro w i v has stepped
    obtain ⟨j, there, k, moves, -⟩ := World.stepJob_steps stepped
    have kept : (w.setJob i k).childOf job = w.childOf job := childOf_setJob there moves.pid job
    rw [World.childOf, moves.jobs]
    exact kept.trans has

/-- A wait that gets no answer leaves a world in which the child runs on, or the watcher sleeps. -/
theorem await_none {job pid : ℕ} (has : w.childOf job = some pid) (unanswered : (w.await job).1 = none) :
    ∃ j, (w.await job).2.jobs[job]? = some j ∧ j.handle.pid = pid ∧
      ((w.await job).2.standing j = .running ∨ j.IsAsleep (w.await job).2.clock) := by
  obtain ⟨u, has, ⟨a, v, -, ran⟩ | ⟨v, tried, ran⟩⟩ :=
    World.run_cases (P := fun w => w.childOf job = some pid) (fun w => (w.outcome? job, w)) (fun _ => [])
      World.patience (fun _ => childOf_settle) (fun _ => id) (fun _ _ => id) has
  · rw [World.await, ran] at unanswered
    cases unanswered
  · obtain ⟨undone, rfl⟩ := Prod.mk.inj tried
    obtain ⟨j, there, same⟩ := childOf_iff.mp (childOf_settle has)
    rw [World.await, ran]
    refine ⟨j, there, same, ?_⟩
    rcases World.outcome_of_rests (World.rests_settle u) there with done | waits
    · rw [undone] at done
      cases done
    · exact waits

/-- A world rests whose jobs are all done. -/
theorem settle_of_done (still : w.timers = [])
    (done : ∀ j ∈ w.jobs, j.reaped = true ∧ ∃ result, j.work = .finished result) : w.settle = w := by
  have rests (i : ℕ) : w.stepJob i = none := by
    cases there : w.jobs[i]? with
    | none => simp [World.stepJob, there]
    | some j =>
      obtain ⟨reaped, result, finished⟩ := done j (List.mem_of_getElem? there)
      simp [World.stepJob, there, reaped, World.stepWatcher, finished]
  have nothingDue : w.expire = w := by simp [World.expire, still]
  have stuck : (List.range w.jobs.length).findSome? w.stepJob = none :=
    List.findSome?_eq_none_iff.mpr fun i _ => rests i
  rw [World.settle, nothingDue]
  cases fuel : w.rank with
  | zero => rfl
  | succ fuel => simp only [World.settleJobs, stuck]

/-! ### Sequences of calls -/

/-- A call on a command, in the world as others have made it by then. -/
inductive Call
  /-- A start, and what it meets. -/
  | start (site : Site) (world : World)
  | wait (world : World)

def Call.isWait : Call → Bool
  | wait _ => true
  | start .. => false

inductive Reply
  | started (result : Except StartError Unit)
  /-- Nothing when the wait does not end. -/
  | waited (result : Option (Except WaitError ExitState))

namespace Reply

/-- Whether a start succeeded. -/
def isSuccess : Reply → Bool
  | started (.ok ()) => true
  | _ => false

/-- Whether a start failed. -/
def isFailure : Reply → Bool
  | started (.error _) => true
  | _ => false

end Reply

/-- The reply to a call, and the command and the world after it. -/
def take (e : Entry) : Call → Reply × Entry × World
  | .start site w =>
    let (result, e, w) := e.startWith site.toLaunchpad w
    (.started result, e, w)
  | .wait w =>
    let (result, e, w) := e.wait w
    (.waited result, e, w)

/-- What calls make of a command. -/
def after (e : Entry) (calls : List Call) : Entry := calls.foldl (fun e call => (e.take call).2.1) e

/-- The calls, each with the reply to it. -/
def history (e : Entry) : List Call → List (Call × Reply)
  | [] => []
  | call :: calls => (call, (e.take call).1) :: (e.take call).2.1.history calls

variable {call : Call} {calls : List Call}

@[simp] theorem after_nil : e.after [] = e := rfl

@[simp] theorem after_cons : e.after (call :: calls) = (e.take call).2.1.after calls := rfl

@[simp] theorem history_nil : e.history [] = [] := rfl

@[simp] theorem history_cons :
    e.history (call :: calls) = (call, (e.take call).1) :: (e.take call).2.1.history calls := rfl

theorem take_of_failure (failed : (e.take call).1.isFailure) : (e.take call).2.1 = e := by
  cases call with
  | wait w => cases failed
  | start site w =>
    rcases startWith_cases e site w with ⟨g, failed'⟩ | ⟨-, pid, job, v, spawned, -⟩
    · simp [take, failed']
    · simp [take, spawned, Reply.isFailure] at failed

/-- A call on a command that is still to be started leaves it alone, or is the start that succeeds. -/
theorem take_of_idle (idle : e.life.phase = .idle) (call : Call) :
    (e.take call).1.isSuccess = false ∧ (e.take call).2.1 = e ∨
      (e.take call).1.isSuccess = true ∧ (e.take call).2.1.life.phase ≠ .idle := by
  cases call with
  | wait w => exact .inl ⟨rfl, by simp [take, wait_of_idle idle]⟩
  | start site w =>
    rcases startWith_cases e site w with ⟨g, failed⟩ | ⟨-, pid, job, v, spawned, -⟩
    · exact .inl ⟨by simp [take, failed, Reply.isSuccess], by simp [take, failed]⟩
    · exact .inr ⟨by simp [take, spawned, Reply.isSuccess], by simp [take, spawned, running]⟩

/-- Calls without a start that succeeds leave a command alone that is still to be started. -/
theorem after_of_unsuccessful (idle : e.life.phase = .idle)
    (unsuccessful : ∀ x ∈ e.history calls, x.2.isSuccess = false) : e.after calls = e := by
  induction calls with
  | nil => rfl
  | cons call calls ih =>
    rw [history_cons, List.forall_mem_cons] at unsuccessful
    rcases take_of_idle idle call with ⟨-, same⟩ | ⟨success, -⟩
    · rw [same] at unsuccessful
      rw [after_cons, same]
      exact ih unsuccessful.2
    · exact nomatch success.symm.trans unsuccessful.1

/-- After the first wait nothing changes a command any more. -/
theorem after_of_awaited (awaited : e.life.phase = .awaited) (calls : List Call) :
    e.after calls = e := by
  induction calls with
  | nil => rfl
  | cons call calls ih =>
    have same : (e.take call).2.1 = e := by
      cases call with
      | wait w => simp [take, wait_of_awaited awaited]
      | start site w => simp [take, startWith_of_started (show e.life.phase ≠ .idle by simp [awaited])]
    rw [after_cons, same, ih]

/-- Of all calls on a running command the first wait alone changes it. -/
theorem after_of_running {job : ℕ} (running : e.life.phase = .running) (has : e.job = some job)
    (calls : List Call) : e.after calls = if calls.any Call.isWait then e.awaited else e := by
  induction calls with
  | nil => rfl
  | cons call calls ih =>
    cases call with
    | wait w =>
      have first : (e.take (.wait w)).2.1 = e.awaited := by simp [take, wait_of_running running has]
      rw [after_cons, first, after_of_awaited rfl]
      simp [Call.isWait]
    | start site w =>
      have same : (e.take (.start site w)).2.1 = e := by
        simp [take, startWith_of_started (show e.life.phase ≠ .idle by simp [running])]
      rw [after_cons, same, ih]
      simp [Call.isWait]

theorem started_take (started : e.life.phase ≠ .idle) (call : Call) :
    (e.take call).2.1.life.phase ≠ .idle := by
  cases call with
  | start site w => simpa [take, startWith_of_started started] using started
  | wait w =>
    show (e.wait w).2.1.life.phase ≠ .idle
    cases phase : e.life.phase with
    | idle => exact absurd phase started
    | awaited => simp [wait_of_awaited phase, phase]
    | running => cases has : e.job <;> simp [wait, Lifecycle.beginWait, phase, has]

theorem started_after (started : e.life.phase ≠ .idle) (calls : List Call) :
    (e.after calls).life.phase ≠ .idle := by
  induction calls generalizing e with
  | nil => exact started
  | cons call calls ih => exact ih (started_take started call)

theorem started_of_success (success : (e.take call).1.isSuccess) :
    (e.take call).2.1.life.phase ≠ .idle := by
  by_cases idle : e.life.phase = .idle
  · rcases take_of_idle idle call with ⟨unsuccessful, -⟩ | ⟨-, started⟩
    · exact nomatch success.symm.trans unsuccessful
    · exact started
  · exact started_take idle call

/-- A command that can still be started is as it was at first. -/
theorem after_of_idle (calls : List Call) (idle : (e.after calls).life.phase = .idle) :
    e.after calls = e := by
  induction calls generalizing e with
  | nil => rfl
  | cons call calls ih =>
    have before : e.life.phase = .idle := by
      by_contra started
      exact started_after started (call :: calls) idle
    rcases take_of_idle before call with ⟨-, same⟩ | ⟨-, started⟩
    · rw [after_cons, same] at idle ⊢
      exact ih idle
    · exact absurd idle (started_after started calls)

/-- No start of a command succeeds that was started. -/
theorem unsuccessful_of_started (started : e.life.phase ≠ .idle) (calls : List Call) :
    ∀ x ∈ e.history calls, x.2.isSuccess = false := by
  induction calls generalizing e with
  | nil => nofun
  | cons call calls ih =>
    rw [history_cons, List.forall_mem_cons]
    refine ⟨?_, ih (started_take started call)⟩
    cases call with
    | wait w => rfl
    | start site w => simp [take, startWith_of_started started, Reply.isSuccess]

/-- One start succeeds at most. -/
theorem countP_success_le_one (e : Entry) (calls : List Call) :
    (e.history calls).countP (fun x => x.2.isSuccess) ≤ 1 := by
  induction calls generalizing e with
  | nil => simp
  | cons call calls ih =>
    rw [history_cons, List.countP_cons]
    cases success : (e.take call).1.isSuccess with
    | false => simpa using ih _
    | true =>
      have rest : ((e.take call).2.1.history calls).countP (fun x => x.2.isSuccess) = 0 := by
        simpa [List.countP_eq_zero] using unsuccessful_of_started (started_of_success success) calls
      simp [rest]

/-- Starts that fail may be left out; every other call gets the reply that it got. -/
theorem history_of_sublist (e : Entry) (calls : List Call) (kept : List (Call × Reply))
    (sub : kept.Sublist (e.history calls))
    (others : kept.filter (!·.2.isFailure) = (e.history calls).filter (!·.2.isFailure)) :
    e.history (kept.map Prod.fst) = kept ∧ e.after (kept.map Prod.fst) = e.after calls := by
  induction calls generalizing e kept with
  | nil =>
    rw [List.sublist_nil.mp sub]
    exact ⟨rfl, rfl⟩
  | cons call calls ih =>
    rw [history_cons] at sub others
    rcases List.sublist_cons_iff.mp sub with sub' | ⟨rest, rfl, sub'⟩
    -- the call was left out, so it failed
    · have failed : (e.take call).1.isFailure := by
        by_contra fine
        have longer := (sub'.filter (!·.2.isFailure)).length_le
        rw [others, List.filter_cons_of_pos (by simpa using fine), List.length_cons] at longer
        omega
      rw [List.filter_cons_of_neg (by simp [failed])] at others
      rw [after_cons, take_of_failure failed] at *
      exact ih e kept sub' others
    · have others : rest.filter (!·.2.isFailure) =
          ((e.take call).2.1.history calls).filter (!·.2.isFailure) := by
        simp only [List.filter_cons] at others
        split at others
        · exact List.cons_injective others
        · exact others
      obtain ⟨history, after⟩ := ih _ rest sub' others
      rw [List.map_cons, history_cons, after_cons, history, after]
      exact ⟨rfl, rfl⟩

end Entry

end Session

end PseudoTerminal
