import PseudoTerminal.Proofs.Coordination.JobInvariants
import PseudoTerminal.Proofs.Host.Endings
import PseudoTerminal.Session.World

/-! Where the jobs of a world come to rest. Every step of a job lowers its rank, so a world whose time stands
still comes to rest. A job at rest has its result, or its child runs on, or its watcher sleeps in a timed wait
of the cancel action. -/

namespace PseudoTerminal.Session

open Host (Kernel Program Minds custody)
open Child (Custody Handle Standing)

/-- A watcher waits within the action until a moment that is to come. -/
def Job.IsAsleep (j : Job) (now : ℕ) : Prop :=
  ∃ rest pause, j.work = .acting rest (some pause) ∧ now < pause.wake

namespace World

variable {w v u : World} {i pid n : ℕ} {j k : Job}

/-- How the child of a job stands with the host. -/
def standing (w : World) (j : Job) : Standing := (custody j.handle.pid).standing w.kernel

/-! ### What a step does to the world -/

/-- A step makes `k` out of a job with a child of that number, and needs no time for it. It leaves the other
jobs alone, and gives life to no process. -/
structure Moves (w v : World) (i pid : ℕ) (k : Job) : Prop where
  jobs : v.jobs = w.jobs.set i k
  pid : k.handle.pid = pid
  kernel : w.kernel.Withers v.kernel

theorem Moves.trans (first : w.Moves u i pid j) (second : u.Moves v i pid k) : w.Moves v i pid k where
  jobs := by rw [second.jobs, first.jobs, List.set_set]
  pid := second.pid
  kernel := first.kernel.trans second.kernel

theorem moves_setJob (w : World) (i : ℕ) (k : Job) : w.Moves (w.setJob i k) i k.handle.pid k :=
  ⟨rfl, rfl, .refl _⟩

theorem Moves.setJob (moves : w.Moves v i pid j) (same : k.handle.pid = pid) :
    w.Moves (v.setJob i k) i pid k := moves.trans (same ▸ moves_setJob v i k)

theorem moves_self (has : w.jobs[i]? = some j) : w.Moves w i j.handle.pid j := by
  obtain ⟨inside, rfl⟩ := List.getElem?_eq_some_iff.mp has
  exact ⟨(List.set_getElem_self inside).symm, rfl, .refl _⟩

theorem Moves.note (moves : w.Moves v i pid k) (n : Note) : w.Moves (v.note n) i pid k :=
  ⟨moves.jobs, moves.pid, moves.kernel⟩

theorem Moves.noteStatus (moves : w.Moves v i pid k) (status : Except Fault (Option ExitKind)) :
    w.Moves (v.noteStatus status) i pid k := by
  cases status <;> exact moves.note _

theorem jobs_unregister (has : w.jobs[i]? = some j) :
    (w.unregister i).jobs = w.jobs.set i { j with registration := none } := by
  unfold unregister
  rw [has]
  dsimp only
  cases registered : j.registration with
  | some registration =>
    dsimp only
    split <;> rfl
  | none =>
    obtain ⟨inside, rfl⟩ := List.getElem?_eq_some_iff.mp has
    rw [show { w.jobs[i] with registration := none } = w.jobs[i] by rw [← registered]]
    exact (List.set_getElem_self inside).symm

@[simp] theorem kernel_unregister (w : World) (i : ℕ) : (w.unregister i).kernel = w.kernel := by
  unfold unregister
  split
  case h_1 =>
    split
    case h_1 =>
      dsimp only
      split <;> rfl
    case h_2 => rfl
  case h_2 => rfl

theorem moves_conclude (there : i < w.jobs.length) (j : Job) (result : Except Fault ExitState) :
    w.Moves (w.conclude i j result) i j.handle.pid
      { j with work := .finished result, registration := none } := by
  refine ⟨?_, rfl, .of_eq ?_ ?_⟩
  · rw [conclude, jobs_unregister (j := { j with work := .finished result }) (List.getElem?_set_self there)]
    exact List.set_set _
  all_goals rw [conclude, kernel_unregister]; rfl

/-- What is done by the handle of a job leaves the job as it was but for the handle. -/
theorem byHandle_cases {α : Type} {f : Custody (Kernel Program) → Handle → Kernel Program →
      α × Handle × Kernel Program} (minds : Minds f) (w : World) (i : ℕ) (j : Job) :
    ∃ result handle v, w.byHandle i j f = (result, { j with handle }, v) ∧
      w.Moves v i j.handle.pid { j with handle } ∧
        (f (custody j.handle.pid) j.handle w.kernel).1 = result := by
  obtain ⟨pid, kernel⟩ := minds j.handle w.kernel
  exact ⟨_, _, _, rfl, ⟨rfl, pid, kernel⟩, rfl⟩

/-! ### The rank of a job -/

/-- Neither the handle of a job nor its work counts among what it has not taken up yet. -/
theorem backlog_congr (reaped : k.reaped = j.reaped) (notices : k.notices = j.notices)
    (action : k.action = j.action) (cancelled : k.watch.cancelled = j.watch.cancelled) :
    k.backlog = j.backlog := by
  rw [Job.backlog, reaped, notices, action, cancelled, Job.backlog]

theorem rank_of_listening (work : j.work = .listening) :
    j.rank = j.backlog + if j.watch.deadline.isSome then 2 else 1 := by
  rw [Job.rank, work]

theorem rank_le_of_listening (work : j.work = .listening) : j.rank ≤ j.backlog + 2 := by
  rw [rank_of_listening work]
  split <;> omega

/-- A step takes a job below a rank, and leaves its watcher in no timed wait of the action. -/
def Calms (w v : World) (i pid n : ℕ) : Prop :=
  ∃ k, w.Moves v i pid k ∧ k.rank < n ∧ ∀ rest pause, k.work ≠ .acting rest (some pause)

theorem Moves.calms (moves : w.Moves u i pid k) (calms : u.Calms v i pid n) : w.Calms v i pid n := by
  obtain ⟨k', moves', low, awake⟩ := calms
  exact ⟨k', moves.trans moves', low, awake⟩

theorem Calms.mono {m : ℕ} (calms : w.Calms v i pid n) (le : n ≤ m) : w.Calms v i pid m := by
  obtain ⟨k, moves, low, awake⟩ := calms
  exact ⟨k, moves, low.trans_le le, awake⟩

theorem calms_conclude (there : i < w.jobs.length) (j : Job) (result : Except Fault ExitState) :
    w.Calms (w.conclude i j result) i j.handle.pid (j.backlog + 1) :=
  ⟨_, moves_conclude there j result, Nat.lt_succ_self _, nofun⟩

/-- A watcher that listens again has its notices before it, and a deadline at most. -/
theorem Moves.calms_listening (moves : w.Moves v i pid k) (work : k.work = .listening)
    (backlog : k.backlog = n) : w.Calms v i pid (n + 3) :=
  ⟨k, moves, Nat.lt_succ_of_le (backlog ▸ rank_le_of_listening work),
    fun _ _ acting => nomatch work.symm.trans acting⟩

theorem calms_killInstead (w : World) (i : ℕ) (j : Job) :
    w.Calms (w.killInstead i j) i j.handle.pid (j.backlog + 3) := by
  obtain ⟨result, handle, v, killed, moves, -⟩ := byHandle_cases Host.minds_kill w i j
  rw [killInstead, killJob, killed]
  refine Moves.calms_listening (moves.setJob moves.pid) rfl (backlog_congr rfl rfl rfl ?_)
  exact Coordination.reachedInstead_cancelled _ result

theorem calms_settleReached (there : i < w.jobs.length) (j : Job) (result : Except Fault Unit) :
    w.Calms (w.settleReached i j result) i j.handle.pid (j.backlog + 3) := by
  have cancelled := Coordination.reached_cancelled j.watch w.clock result
  unfold settleReached
  generalize j.watch.reached w.clock result = r at cancelled ⊢
  obtain ⟨demand, watch⟩ := r
  have same : { j with watch }.backlog = j.backlog := backlog_congr rfl rfl rfl cancelled
  cases demand with
  | killInstead => exact same ▸ calms_killInstead w i { j with watch }
  | finish result => exact (same ▸ calms_conclude there { j with watch } result).mono (by omega)
  | listen | act | kill => exact (moves_setJob w i _).calms_listening rfl same

/-- Taking up a notice costs no more than the notice stood for, and what it asks for is paid with what the
first cancellation stood for. -/
theorem calms_comply (there : i < w.jobs.length) (work : j.work = .listening) {n : Notice}
    {notices : List Notice} (waiting : j.notices = n :: notices) :
    w.Calms (w.comply i { j with notices, watch := (j.watch.notice n).2 } (j.watch.notice n).1) i
      j.handle.pid j.rank := by
  have before : j.backlog = { j with notices }.backlog + 1 := by
    simp only [Job.backlog, waiting, List.length_cons]
    omega
  have listens : j.backlog < j.rank := by
    rw [rank_of_listening work]
    split <;> omega
  cases n with
  | exited result =>
    obtain ⟨ended, finish⟩ : ∃ ended, j.watch.notice (.exited result) = (.finish ended, j.watch) := by
      cases result <;> exact ⟨_, rfl⟩
    rw [finish]
    exact (calms_conclude there { j with notices } ended).mono (by omega)
  | cancelled =>
    rcases first : j.watch.cancelled with _ | _
    case true =>
      have listen : j.watch.notice .cancelled = (.listen, j.watch) := by
        simp only [Watch.notice, first, if_true]
      rw [listen]
      refine ⟨_, moves_setJob w i { j with notices }, ?_, fun _ _ acting => ?_⟩
      case refine_2 => cases work.symm.trans acting
      rw [rank_of_listening (j := { j with notices }) work, rank_of_listening work]
      dsimp only
      omega
    case false =>
      -- What the first cancellation stood for is free now.
      let heard : Job := { j with notices, watch := { j.watch with cancelled := true } }
      have free : heard.backlog + actionRank (j.action.getD []) none + 3 = j.backlog := by
        simp only [heard, Job.backlog, waiting, first, List.length_cons, if_true, Bool.false_eq_true, if_false]
        omega
      rcases has : j.watch.hasAction with _ | _
      case true =>
        have act : j.watch.notice .cancelled = (.act, { j.watch with cancelled := true }) := by
          simp only [Watch.notice, first, has, Bool.false_eq_true, if_false, if_true]
        rw [act]
        refine ⟨_, moves_setJob w i _, ?_, by rintro _ _ ⟨⟩⟩
        have spent : { heard with action := none }.backlog ≤ heard.backlog := by
          simp only [heard, Job.backlog, if_true]
          rfl
        show { heard with action := none }.backlog + (actionRank (j.action.getD []) none + 3) < j.rank
        omega
      case false =>
        have kill : j.watch.notice .cancelled = (.kill, { j.watch with cancelled := true }) := by
          simp only [Watch.notice, first, has, Bool.false_eq_true, if_false]
        obtain ⟨result, handle, v, killed, moves, -⟩ := byHandle_cases Host.minds_kill w i heard
        rw [kill, comply, killJob, killed]
        have inside : i < v.jobs.length := by rwa [moves.jobs, List.length_set]
        have same : { heard with handle }.backlog = heard.backlog := rfl
        exact (moves.calms (moves.pid ▸ calms_settleReached inside { heard with handle } result)).mono (by omega)

/-! ### Steps -/

theorem observe_running {s : Standing} (waits : Child.observe s = none) : s = .running := by
  cases s with
  | running => rfl
  | gone => cases waits
  | ended kind => cases kind <;> cases waits

/-- A look that finds no end finds the child running. -/
theorem standing_of_tryWait {h : Handle} {k : Kernel Program}
    (looked : (h.tryWait (custody h.pid) k).1 = .ok none) : (custody h.pid).standing k = .running := by
  unfold Handle.tryWait at looked
  split at looked
  case h_1 => cases looked
  case h_2 =>
    split at looked
    case h_1 running => exact running
    case h_2 => cases looked
    case h_3 => cases looked

theorem one_le_moveRank (move : Move) : 1 ≤ moveRank move := by
  cases move <;> simp [moveRank]

/-- A move that is made leaves the moves behind it. -/
theorem actionRank_rest_lt (move : Move) (rest : Action) (pause : Option Pause) :
    actionRank rest none < actionRank (move :: rest) pause := by
  have := one_le_moveRank move
  cases pause with
  | none =>
    simp only [actionRank, List.foldr_cons]
    omega
  | some pause =>
    simp only [actionRank, List.tail_cons]
    omega

/-- A step takes a job below its rank; its watcher comes into a timed wait only when it was in it, or while
the child runs. -/
def Steps (w v : World) (i : ℕ) (j : Job) : Prop :=
  ∃ k, w.Moves v i j.handle.pid k ∧ k.rank < j.rank ∧
    ∀ rest pause, k.work = .acting rest (some pause) → k.work = j.work ∨ w.standing j = .running

theorem Calms.steps (calms : w.Calms v i j.handle.pid j.rank) : w.Steps v i j := by
  obtain ⟨k, moves, low, awake⟩ := calms
  exact ⟨k, moves, low, fun rest pause acting => absurd acting (awake rest pause)⟩

/-- From one look of a timed wait to the next time goes by. -/
theorem actionRank_pause_lt {duration d : ℕ} {pause : Option Pause} {p : Pause} (rest : Action)
    (began : w.pause? duration pause = some p) (due : ¬ w.clock < p.wake)
    (paused : Child.TimedWait.move p.deadline w.clock none = .pause d) :
    actionRank (.noteEndWithin duration :: rest) (some { p with wake := w.clock + d }) <
      actionRank (.noteEndWithin duration :: rest) pause := by
  have ahead : w.clock < p.deadline ∧ 0 < d := by
    simp only [Child.TimedWait.move] at paused
    split at paused
    case isTrue => cases paused
    case isFalse early =>
      cases paused
      have : 0 < Child.TimedWait.interval := by decide
      omega
  cases pause with
  | some pause =>
    obtain rfl : pause = p := Option.some.inj began
    simp only [actionRank]
    omega
  | none =>
    obtain ⟨deadline, after, rfl⟩ := Option.map_eq_some_iff.mp began
    have sum : deadline = w.clock + duration := by
      unfold Instant.after? at after
      split at after
      case isTrue => exact (Option.some.inj after).symm
      case isFalse => cases after
    simp only [actionRank, List.foldr_cons, List.tail_cons, moveRank]
    omega

section

variable {action rest : Action} {pause : Option Pause}

theorem rank_of_acting (work : j.work = .acting action pause) :
    j.rank = j.backlog + actionRank action pause + 3 := by
  rw [Job.rank, work]
  rfl

/-- A watcher that goes on with less of its action. -/
theorem Moves.goesOn_steps (moves : w.Moves u i j.handle.pid k) (work : j.work = .acting action pause)
    (backlog : k.backlog = j.backlog) (lower : actionRank rest none < actionRank action pause) :
    w.Steps (u.setJob i { k with work := .acting rest none }) i j := by
  have rank := rank_of_acting work
  refine Calms.steps ⟨_, moves.setJob moves.pid, ?_, by rintro _ _ ⟨⟩⟩
  show k.backlog + (actionRank rest none + 3) < j.rank
  omega

/-- A watcher whose action is over. -/
theorem Moves.ends_steps (moves : w.Moves u i j.handle.pid k) (there : i < w.jobs.length)
    (work : j.work = .acting action pause) (backlog : k.backlog = j.backlog) (result : Except Fault Unit) :
    w.Steps (u.settleReached i k result) i j := by
  have rank := rank_of_acting work
  have inside : i < u.jobs.length := by rwa [moves.jobs, List.length_set]
  have calms := moves.calms (moves.pid ▸ calms_settleReached inside k result)
  exact (calms.mono (by omega)).steps

/-- A watcher that breaks down in its action. -/
theorem conclude_steps (there : i < w.jobs.length) (work : j.work = .acting action pause)
    (result : Except Fault ExitState) : w.Steps (w.conclude i j result) i j := by
  have rank := rank_of_acting work
  exact ((calms_conclude there j result).mono (by omega)).steps

/-- One look of a timed wait: the watcher breaks down, has its answer, or sleeps until the next look. -/
theorem noteEndWithin_steps {duration : ℕ} (has : w.jobs[i]? = some j)
    (work : j.work = .acting (.noteEndWithin duration :: rest) pause)
    (acted : w.act i j pause (.noteEndWithin duration :: rest) = some v) : w.Steps v i j := by
  have rank := rank_of_acting work
  have there : i < w.jobs.length := (List.getElem?_eq_some_iff.mp has).1
  have lower := actionRank_rest_lt (.noteEndWithin duration) rest pause
  obtain ⟨result, handle, u, looked, moves, found⟩ := byHandle_cases Host.minds_tryWait w i j
  simp only [act, looked] at acted
  split at acted
  case h_1 =>
    cases acted
    exact conclude_steps there work _
  case h_2 pause' began =>
    split at acted
    case isTrue => cases acted
    case isFalse due =>
      split at acted
      case h_1 =>
        cases acted
        exact (moves.note _).goesOn_steps work rfl lower
      case h_2 status =>
        split at acted
        case h_1 =>
          cases acted
          exact (moves.noteStatus _).goesOn_steps work rfl lower
        case h_2 d paused =>
          cases acted
          have clock : u.clock = w.clock := moves.kernel.clock
          rw [clock] at paused
          obtain rfl : status = none := by
            cases status with
            | none => rfl
            | some kind => cases paused
          have lower := actionRank_pause_lt rest began due paused
          refine ⟨_, moves.setJob moves.pid, ?_, fun _ _ _ => .inr (standing_of_tryWait found)⟩
          show j.backlog + (actionRank _ (some _) + 3) < j.rank
          rw [clock, rank]
          omega

theorem act_steps (has : w.jobs[i]? = some j) (work : j.work = .acting action pause)
    (acted : w.act i j pause action = some v) : w.Steps v i j := by
  have there : i < w.jobs.length := (List.getElem?_eq_some_iff.mp has).1
  have still := moves_self has
  cases action with
  | nil =>
    cases acted
    exact still.ends_steps there work rfl _
  | cons move rest =>
    have lower := actionRank_rest_lt move rest pause
    cases move with
    | signal s =>
      obtain ⟨result, handle, u, sent, moves, -⟩ := byHandle_cases (Host.minds_signal s) w i j
      simp only [act, sent] at acted
      split at acted
      case isTrue =>
        split at acted
        case h_1 =>
          cases acted
          exact moves.goesOn_steps work rfl lower
        case h_2 =>
          cases acted
          exact moves.ends_steps there work rfl _
      case isFalse =>
        cases acted
        exact still.ends_steps there work rfl _
    | noteId =>
      cases acted
      exact (still.note _).goesOn_steps work rfl lower
    | noteStatus =>
      obtain ⟨result, handle, u, looked, moves, -⟩ := byHandle_cases Host.minds_tryWait w i j
      simp only [act, looked] at acted
      cases acted
      exact (moves.noteStatus result).goesOn_steps work rfl lower
    | noteEnd =>
      obtain ⟨result, handle, u, waited, moves, -⟩ := byHandle_cases Host.minds_wait w i j
      simp only [act, waited] at acted
      obtain ⟨result, -, rfl⟩ := Option.map_eq_some_iff.mp acted
      exact (moves.noteStatus _).goesOn_steps work rfl lower
    | noteEndWithin duration => exact noteEndWithin_steps has work acted
    | fail f =>
      cases acted
      exact still.ends_steps there work rfl _
    | breakDown =>
      cases acted
      exact conclude_steps there work _

end

theorem stepWatcher_steps (has : w.jobs[i]? = some j) (stepped : w.stepWatcher i j = some v) :
    w.Steps v i j := by
  have there : i < w.jobs.length := (List.getElem?_eq_some_iff.mp has).1
  unfold stepWatcher at stepped
  split at stepped
  case h_1 => cases stepped
  case h_2 rest pause work => exact act_steps has work stepped
  case h_3 work =>
    split at stepped
    case h_1 n notices waiting =>
      cases stepped
      exact (calms_comply there work waiting).steps
    case h_2 =>
      split at stepped
      case isTrue =>
        cases stepped
        refine ((calms_conclude there j _).mono ?_).steps
        rw [rank_of_listening work]
        split <;> omega
      case isFalse =>
        split at stepped
        case isTrue overdue =>
          obtain ⟨result, handle, u, killed, moves, -⟩ := byHandle_cases Host.minds_kill w i j
          rw [killJob, killed] at stepped
          cases stepped
          refine Calms.steps ⟨_, moves.setJob moves.pid, ?_, fun _ _ acting => nomatch work.symm.trans acting⟩
          have deadline : j.watch.deadline.isSome := by
            unfold Watch.isOverdue at overdue
            cases same : j.watch.deadline with
            | none => simp [same] at overdue
            | some moment => rfl
          rw [rank_of_listening work, if_pos deadline, rank_of_listening (by exact work)]
          show j.backlog + 1 < j.backlog + 2
          omega
        case isFalse => cases stepped

/-- One step of a job, its reaper's or its watcher's. -/
theorem stepJob_steps (stepped : w.stepJob i = some v) : ∃ j, w.jobs[i]? = some j ∧ w.Steps v i j := by
  simp only [stepJob, bind, Option.bind_eq_some_iff] at stepped
  obtain ⟨j, has, stepped⟩ := stepped
  refine ⟨j, has, ?_⟩
  split at stepped
  case isTrue => exact stepWatcher_steps has stepped
  case isFalse unreaped =>
    obtain ⟨result, handle, u, waited, moves, -⟩ := byHandle_cases Host.minds_wait w i j
    rw [waited] at stepped
    cases result with
    | none => exact stepWatcher_steps has stepped
    | some result =>
      dsimp only at stepped
      cases stepped
      refine ⟨{ j with handle, reaped := true, notices := j.notices ++ [.exited result] }, ?_, ?_, ?_⟩
      · refine Moves.setJob (j := { j with handle }) ?_ moves.pid
        split
        case h_1 => exact ⟨moves.jobs, moves.pid, moves.kernel⟩
        case h_2 => exact moves
      · simp only [Job.rank, Job.backlog, unreaped, if_true, if_false, List.length_append,
          List.length_singleton, Bool.false_eq_true]
        omega
      · exact fun _ _ _ => .inl rfl

/-! ### Going on -/

section

variable {P : World → Prop}

theorem cancel_induction (tokens : ∀ w tokens, P w → P { w with tokens }) (tell : ∀ w i, P w → P (w.tell i))
    (token : ℕ) (holds : P w) : P (w.cancel token) := by
  have told (jobs : List ℕ) (w : World) (holds : P w) : P (jobs.foldl World.tell w) := by
    induction jobs generalizing w with
    | nil => exact holds
    | cons job jobs ih => exact ih _ (tell w job holds)
  unfold cancel
  split
  case h_1 => exact told _ _ (tokens w _ holds)
  case h_2 => exact holds

theorem expire_induction (timers : ∀ w timers, P w → P { w with timers })
    (cancel : ∀ w token, P w → P (w.cancel token)) (holds : P w) : P w.expire := by
  have cancelled (timers : List (ℕ × ℕ)) (w : World) (holds : P w) :
      P (timers.foldl (fun w timer => w.cancel timer.2) w) := by
    induction timers generalizing w with
    | nil => exact holds
    | cons timer timers ih => exact ih _ (cancel w timer.2 holds)
  unfold expire
  dsimp only
  split
  case isTrue => exact holds
  case isFalse => exact cancelled _ _ (timers w _ holds)

theorem settleJobs_induction (step : ∀ w i v, P w → w.stepJob i = some v → P v) (fuel : ℕ) (holds : P w) :
    P (settleJobs fuel w) := by
  induction fuel generalizing w with
  | zero => exact holds
  | succ fuel ih =>
    unfold settleJobs
    split
    case h_1 v stepped =>
      obtain ⟨i, -, stepped⟩ := List.exists_of_findSome?_eq_some stepped
      exact ih (step w i v holds stepped)
    case h_2 => exact holds

/-- What tokens that expire and steps of jobs keep holds when the world has settled. -/
theorem settle_induction (tokens : ∀ w tokens, P w → P { w with tokens })
    (timers : ∀ w timers, P w → P { w with timers }) (tell : ∀ w i, P w → P (w.tell i))
    (step : ∀ w i v, P w → w.stepJob i = some v → P v) (holds : P w) : P w.settle :=
  settleJobs_induction step _ (expire_induction timers (fun _ => cancel_induction tokens tell) holds)

/-- A run ends with an attempt in a world that has settled. -/
theorem run_cases {α : Type} (attempt : World → Option α × World) (own : World → List ℕ) (fuel : ℕ)
    (settle : ∀ w, P w → P w.settle) (keeps : ∀ w, P w → P (attempt w).2)
    (onward : ∀ w kernel, P w → P { w with kernel }) (holds : P w) :
    ∃ u, P u ∧
      ((∃ a v, attempt u.settle = (some a, v) ∧ run attempt own fuel w = (some a, v.settle)) ∨
        ∃ v, attempt u.settle = (none, v) ∧ run attempt own fuel w = (none, v)) := by
  induction fuel generalizing w with
  | zero =>
    refine ⟨w, holds, ?_⟩
    unfold run
    split
    case h_1 a v tried => exact .inl ⟨a, v, tried, rfl⟩
    case h_2 v tried => exact .inr ⟨v, tried, rfl⟩
  | succ fuel ih =>
    unfold run
    split
    case h_1 a v tried => exact ⟨w, holds, .inl ⟨a, v, tried, rfl⟩⟩
    case h_2 v tried =>
      split
      case h_1 fuel' kernel same advanced =>
        cases same
        have kept := keeps w.settle (settle w holds)
        rw [tried] at kept
        exact ih (onward v kernel kept)
      case h_2 => exact ⟨w, holds, .inr ⟨v, tried, rfl⟩⟩

end

/-! ### Rest -/

/-- No job has a step to make. -/
def Rests (w : World) : Prop := ∀ i, w.stepJob i = none

theorem rank_eq_sum (w : World) : w.rank = (w.jobs.map Job.rank).sum := by
  rw [rank, List.sum_eq_foldr, List.foldr_map]

theorem rank_lt_of_stepJob (stepped : w.stepJob i = some v) : v.rank < w.rank := by
  obtain ⟨j, has, k, moves, lower, -⟩ := stepJob_steps stepped
  have before : w.rank = ((w.jobs.set i j).map Job.rank).sum := by rw [← (moves_self has).jobs, rank_eq_sum]
  have there : i < (w.jobs.map Job.rank).length := by
    rw [List.length_map]
    exact (List.getElem?_eq_some_iff.mp has).1
  rw [rank_eq_sum, moves.jobs, before, List.map_set, List.map_set, List.sum_set, List.sum_set, if_pos there,
    if_pos there]
  omega

theorem rests_settleJobs {fuel : ℕ} (enough : w.rank ≤ fuel) : (settleJobs fuel w).Rests := by
  induction fuel generalizing w with
  | zero =>
    intro i
    cases stepped : w.stepJob i with
    | none => exact stepped
    | some v =>
      have := rank_lt_of_stepJob stepped
      omega
  | succ fuel ih =>
    unfold settleJobs
    split
    case h_1 v stepped =>
      obtain ⟨i, -, stepped⟩ := List.exists_of_findSome?_eq_some stepped
      have := rank_lt_of_stepJob stepped
      exact ih (by omega)
    case h_2 still =>
      intro i
      cases stepped : w.stepJob i with
      | none => rfl
      | some v =>
        obtain ⟨j, has, -⟩ := stepJob_steps stepped
        have there := List.mem_range.mpr (List.getElem?_eq_some_iff.mp has).1
        exact stepped.symm.trans (List.findSome?_eq_none_iff.mp still i there)

theorem rests_settle (w : World) : w.settle.Rests := rests_settleJobs le_rfl

theorem standing_of_wait {h : Handle} {k : Kernel Program} (waits : (h.wait? (custody h.pid) k).1 = none) :
    (custody h.pid).standing k = .running := by
  unfold Handle.wait? at waits
  split at waits
  case h_1 still => exact observe_running still
  case h_2 => cases waits
  case h_3 =>
    split at waits
    case h_1 => cases waits
    case h_2 => cases waits
    case h_3 looked => exact standing_of_tryWait (congrArg Prod.fst looked)

theorem act_none {action : Action} {pause : Option Pause} (work : j.work = .acting action pause)
    (stuck : w.act i j pause action = none) : w.standing j = .running ∨ j.IsAsleep w.clock := by
  cases action with
  | nil => cases stuck
  | cons move rest =>
    cases move with
    | signal s =>
      simp only [act] at stuck
      split at stuck
      case isTrue => split at stuck <;> cases stuck
      case isFalse => cases stuck
    | noteId | noteStatus | fail | breakDown => cases stuck
    | noteEnd => exact .inl (standing_of_wait (Option.map_eq_none_iff.mp stuck))
    | noteEndWithin duration =>
      simp only [act] at stuck
      split at stuck
      case h_1 => cases stuck
      case h_2 p began =>
        split at stuck
        case isTrue early =>
          cases pause with
          | some pause =>
            obtain rfl : pause = p := Option.some.inj began
            exact .inr ⟨_, pause, work, early⟩
          | none =>
            obtain ⟨deadline, -, rfl⟩ := Option.map_eq_some_iff.mp began
            exact absurd early (lt_irrefl _)
        case isFalse =>
          split at stuck
          case h_1 => cases stuck
          case h_2 => split at stuck <;> cases stuck

/-- A job at rest has its result, unless its child runs on or its watcher sleeps. -/
theorem outcome_of_rests (rests : w.Rests) (has : w.jobs[i]? = some j) :
    (w.outcome? i).isSome ∨ w.standing j = .running ∨ j.IsAsleep w.clock := by
  have still := rests i
  simp only [stepJob, has, bind, Option.bind_some] at still
  split at still
  case isTrue reaped =>
    unfold stepWatcher at still
    split at still
    case h_1 result work =>
      refine .inl ?_
      simp [outcome?, has, reaped, work]
    case h_2 rest pause work => exact .inr (act_none work still)
    case h_3 =>
      split at still
      case h_1 => cases still
      case h_2 =>
        rw [if_pos reaped] at still
        cases still
  case isFalse =>
    obtain ⟨result, handle, u, waited, -, found⟩ := byHandle_cases Host.minds_wait w i j
    rw [waited] at still
    cases result with
    | some result => cases still
    | none => exact .inr (.inl (standing_of_wait found))

/-! ### Children that have ended -/

/-- The child of a job has ended, and the watcher does not sleep. -/
def Roused (w : World) (i pid : ℕ) : Prop :=
  w.kernel.IsOver pid ∧ ∃ j, w.jobs[i]? = some j ∧ j.handle.pid = pid ∧ ¬ j.IsAsleep w.clock

theorem roused_set {i' : ℕ} (roused : w.Roused i pid) (kernel : w.kernel.Withers v.kernel)
    (jobs : v.jobs = w.jobs.set i' k)
    (stays : ∀ j, w.jobs[i']? = some j → j.handle.pid = pid → ¬ j.IsAsleep w.clock →
      k.handle.pid = pid ∧ ¬ k.IsAsleep w.clock) : v.Roused i pid := by
  obtain ⟨gone, j, has, same, awake⟩ := roused
  refine ⟨gone.withers kernel, ?_⟩
  rw [jobs, List.getElem?_set, clock, kernel.clock]
  split
  case isTrue here =>
    subst here
    rw [if_pos (List.getElem?_eq_some_iff.mp has).1]
    exact ⟨k, rfl, stays j has same awake⟩
  case isFalse => exact ⟨j, has, same, awake⟩

theorem roused_tell (i' : ℕ) (roused : w.Roused i pid) : (w.tell i').Roused i pid := by
  unfold tell
  split
  case h_1 j has =>
    refine roused_set roused (.refl _) rfl fun j' has' same awake => ?_
    obtain rfl : j = j' := Option.some.inj (has.symm.trans has')
    exact ⟨same, awake⟩
  case h_2 => exact roused

/-- A watcher does not go to sleep for a child that has ended. -/
theorem roused_stepJob {i' : ℕ} (roused : w.Roused i pid) (stepped : w.stepJob i' = some v) :
    v.Roused i pid := by
  obtain ⟨j, has, k, moves, -, sleeps⟩ := stepJob_steps stepped
  refine roused_set roused moves.kernel moves.jobs fun j' has' same awake => ?_
  obtain rfl : j = j' := Option.some.inj (has.symm.trans has')
  refine ⟨moves.pid.trans same, ?_⟩
  rintro ⟨rest, pause, acting, early⟩
  rcases sleeps rest pause acting with still | running
  · exact awake ⟨rest, pause, still ▸ acting, early⟩
  · exact Host.standing_ne_running (same ▸ roused.1) running

theorem roused_settle (roused : w.Roused i pid) : w.settle.Roused i pid :=
  settle_induction (P := fun w => w.Roused i pid) (fun _ _ => id) (fun _ _ => id)
    (fun _ i' roused => roused_tell i' roused) (fun _ _ _ roused stepped => roused_stepJob roused stepped) roused

/-- Once the child has ended, its job comes to a result at once. -/
theorem outcome_of_roused (roused : w.Roused i pid) : (w.settle.outcome? i).isSome := by
  obtain ⟨gone, j, has, same, awake⟩ := roused_settle roused
  rcases outcome_of_rests (rests_settle w) has with done | running | asleep
  · exact done
  · exact absurd running (Host.standing_ne_running (same ▸ gone))
  · exact absurd asleep awake

end World

end PseudoTerminal.Session
