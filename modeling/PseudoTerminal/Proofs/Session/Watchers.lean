import PseudoTerminal.Proofs.Coordination.Watching
import PseudoTerminal.Proofs.Session.Shutters

/-! The watchers of a world make the rounds of the loop: a step of a watcher leaves its loop where it was,
in the middle of the action, or it takes the loop a round further. Nothing else that happens in the world
moves a loop. -/

namespace PseudoTerminal.Session

open Watch (Log Round Event)

/-- How far the loop of a job has come, when its rounds so far led to `l`. -/
inductive Stands (l : Log) (j : Job) : Prop
  | listening (work : j.work = .listening) (watch : j.watch = l.watch) (goes : l.returned = none)
  /-- The action is under way, in the round of the first cancellation. -/
  | acting (rest : Action) (pause : Option Pause) (work : j.work = .acting rest pause)
      (watch : j.watch = { l.watch with cancelled := true }) (first : l.watch.cancelled = false)
      (has : l.watch.hasAction) (goes : l.returned = none)
  /-- A watcher may end in the middle of the action, when the action panics. -/
  | finished (result : Except Fault ExitState) (work : j.work = .finished result)
      (returned : l.returned = some result ∨ result = .error Watch.brokenDown)

/-- A job may get notices, be reaped or be registered: its loop stands where it did. -/
theorem Stands.congr {l : Log} {j k : Job} (stands : Stands l j) (work : k.work = j.work)
    (watch : k.watch = j.watch) : Stands l k := by
  cases stands with
  | listening work' watch' goes => exact .listening (work.trans work') (watch.trans watch') goes
  | acting rest pause work' watch' first has goes =>
    exact .acting rest pause (work.trans work') (watch.trans watch') first has goes
  | finished result work' returned => exact .finished result (work.trans work') returned

/-- What a watcher meets in the round that it is in, or that comes next. -/
def Job.meets (j : Job) : Event :=
  match j.work, j.notices with
  | .listening, n :: _ => .notice n
  | .listening, [] => if j.reaped then .silence else .lapse
  | _, _ => .notice .cancelled

namespace World

variable {w v : World} {i : ℕ} {j : Job} {l : Log} {r : Round}

/-! ### A step of a watcher -/

/-- No other job changed, and the loop of this one stands where it did or a round further, in which it met
the event. -/
def Advances (w v : World) (i : ℕ) (l : Log) (e : Event) : Prop :=
  ∃ k, v.jobs = w.jobs.set i k ∧ (Stands l k ∨ ∃ r : Round, r.event = e ∧ Stands (l.round r) k)

/-- The watcher kills after a failed action as the loop does. -/
theorem killInstead_stands (watch : j.watch = l.watch) (goes : l.returned = none)
    (kill : r.kill = (w.killJob i j).1) :
    ∃ k, (w.killInstead i j).jobs = w.jobs.set i k ∧ Stands (l.killInstead r) k := by
  refine ⟨_, List.set_set _, .listening rfl ?_ goes⟩
  show (j.watch.reachedInstead (w.killJob i j).1).2 = (l.watch.reachedInstead r.kill).2
  rw [watch, kill]

theorem conclude_stands (there : i < w.jobs.length) {result : Except Fault ExitState}
    (returned : l.returned = some result ∨ result = .error Watch.brokenDown) :
    ∃ k, (w.conclude i j result).jobs = w.jobs.set i k ∧ Stands l k :=
  ⟨_, (moves_conclude there j result).jobs, .finished result rfl returned⟩

/-- The watcher goes on after the action, or after the kill for want of one, as the loop does. -/
theorem settleReached_stands (there : i < w.jobs.length) (watch : j.watch = l.watch)
    (goes : l.returned = none) (now : r.now = w.clock) (kill : r.kill = (w.killJob i j).1) :
    ∃ k, (w.settleReached i j r.reach).jobs = w.jobs.set i k ∧ Stands (l.settleReached r) k := by
  unfold settleReached Log.settleReached
  rw [watch, ← now]
  rcases l.watch.reached r.now r.reach with ⟨_ | _ | _ | _ | result, watch'⟩
  case killInstead => exact killInstead_stands (l := { l with watch := watch' }) rfl goes kill
  case finish => exact conclude_stands there (.inl rfl)
  all_goals exact ⟨_, rfl, .listening rfl rfl goes⟩

theorem round_of_notice {n : Notice} (goes : l.returned = none) (event : r.event = .notice n) :
    l.round r = Log.comply { l with watch := (l.watch.notice n).2 } r (l.watch.notice n).1 := by
  obtain ⟨watch, deeds, returned⟩ := l
  cases goes
  rw [Log.round, event]

/-- The round of the first cancellation, when there is an action. -/
theorem round_of_hasAction (first : l.watch.cancelled = false) (has : l.watch.hasAction)
    (goes : l.returned = none) (event : r.event = .notice .cancelled) :
    l.round r =
      (Log.noted { l with watch := { l.watch with cancelled := true } } .act r).settleReached r := by
  rw [round_of_notice goes event]
  simp only [Watch.notice, first, has, Bool.false_eq_true, if_false, if_true, Log.comply]

@[simp] theorem jobs_noteStatus (w : World) (status : Except Fault (Option ExitKind)) :
    (w.noteStatus status).jobs = w.jobs := by
  cases status <;> rfl

/-- One move of the action; the last one ends the round. -/
theorem act_advances (there : i < w.jobs.length) {pause : Option Pause} {action : Action}
    (watch : j.watch = { l.watch with cancelled := true }) (first : l.watch.cancelled = false)
    (has : l.watch.hasAction) (goes : l.returned = none) (acted : w.act i j pause action = some v) :
    w.Advances v i l (.notice .cancelled) := by
  -- A move leaves `u` and `k`, where nothing but the job itself changed.
  have goesOn {u : World} {k : Job} (rest : Action) (pause : Option Pause)
      (same : ∀ k', u.jobs.set i k' = w.jobs.set i k') (watch : k.watch = { l.watch with cancelled := true }) :
      w.Advances (u.setJob i { k with work := .acting rest pause }) i l (.notice .cancelled) :=
    ⟨_, same _, .inl (.acting rest pause rfl watch first has goes)⟩
  have ends {u : World} {k : Job} (result : Except Fault Unit)
      (same : ∀ k', u.jobs.set i k' = w.jobs.set i k') (watch : k.watch = { l.watch with cancelled := true }) :
      w.Advances (u.settleReached i k result) i l (.notice .cancelled) := by
    have inside : i < u.jobs.length := by
      have size := congrArg List.length (same k)
      rw [List.length_set, List.length_set] at size
      rwa [size]
    let r : Round := ⟨.notice .cancelled, u.clock, result, (u.killJob i k).1⟩
    obtain ⟨k', jobs, stands⟩ := settleReached_stands (r := r) (w := u) (i := i) (j := k)
      (l := Log.noted { l with watch := { l.watch with cancelled := true } } .act r) inside watch goes rfl rfl
    exact ⟨k', jobs.trans (same k'), .inr ⟨r, rfl, round_of_hasAction (r := r) first has goes rfl ▸ stands⟩⟩
  have byHandle (k : Job) : ∀ k', (w.jobs.set i k).set i k' = w.jobs.set i k' := fun _ => List.set_set _
  cases action with
  | nil =>
    cases acted
    exact ends _ (fun _ => rfl) watch
  | cons move rest =>
    cases move with
    | signal s =>
      simp only [act] at acted
      split at acted
      case isTrue =>
        split at acted
        case h_1 =>
          cases acted
          exact goesOn _ _ (byHandle _) watch
        case h_2 =>
          cases acted
          exact ends _ (byHandle _) watch
      case isFalse =>
        cases acted
        exact ends _ (fun _ => rfl) watch
    | noteId =>
      cases acted
      exact goesOn _ _ (fun _ => rfl) watch
    | noteStatus =>
      cases acted
      exact goesOn _ _ (by rw [jobs_noteStatus]; exact byHandle _) watch
    | noteEnd =>
      obtain ⟨result, -, rfl⟩ := Option.map_eq_some_iff.mp acted
      exact goesOn _ _ (by rw [jobs_noteStatus]; exact byHandle _) watch
    | noteEndWithin duration =>
      simp only [act] at acted
      split at acted
      case h_1 =>
        cases acted
        obtain ⟨k, jobs, stands⟩ := conclude_stands (j := j) there (.inr rfl)
        exact ⟨k, jobs, .inl stands⟩
      case h_2 =>
        split at acted
        case isTrue => cases acted
        case isFalse =>
          split at acted
          case h_1 =>
            cases acted
            exact goesOn _ _ (byHandle _) watch
          case h_2 =>
            split at acted
            case h_1 =>
              cases acted
              exact goesOn _ _ (by rw [jobs_noteStatus]; exact byHandle _) watch
            case h_2 =>
              cases acted
              exact goesOn _ _ (byHandle _) watch
    | fail f =>
      cases acted
      exact ends _ (fun _ => rfl) watch
    | breakDown =>
      cases acted
      obtain ⟨k, jobs, stands⟩ := conclude_stands (j := j) there (.inr rfl)
      exact ⟨k, jobs, .inl stands⟩

/-- A notice that the watcher takes up. -/
theorem comply_advances (there : i < w.jobs.length) (work : j.work = .listening) (watch : j.watch = l.watch)
    (goes : l.returned = none) (n : Notice) (notices : List Notice) :
    w.Advances (w.comply i { j with notices, watch := (j.watch.notice n).2 } (j.watch.notice n).1) i l
      (.notice n) := by
  rw [watch]
  cases n with
  | exited result =>
    let r : Round := { event := .notice (.exited result) }
    obtain ⟨ended, finish⟩ : ∃ ended, l.watch.notice (.exited result) = (.finish ended, l.watch) := by
      cases result <;> exact ⟨_, rfl⟩
    have round : l.round r = { l with returned := some ended } := by
      rw [round_of_notice goes rfl, finish]
      rfl
    rw [finish]
    obtain ⟨k, jobs, stands⟩ := conclude_stands (w := w) (i := i) (j := { j with notices, watch := l.watch })
      (l := l.round r) there (.inl (by rw [round]))
    exact ⟨k, jobs, .inr ⟨r, rfl, stands⟩⟩
  | cancelled =>
    rcases first : l.watch.cancelled with _ | _
    case true =>
      let r : Round := { event := .notice .cancelled }
      have listen : l.watch.notice .cancelled = (.listen, l.watch) := by
        simp only [Watch.notice, first, if_true]
      have round : l.round r = l := by
        rw [round_of_notice goes rfl, listen]
        rfl
      rw [listen]
      exact ⟨_, rfl, .inr ⟨r, rfl, round.symm ▸ .listening work rfl goes⟩⟩
    case false =>
      rcases has : l.watch.hasAction with _ | _
      case true =>
        -- The action begins, and with it the round, which goes on until the action ends.
        have act : l.watch.notice .cancelled = (.act, { l.watch with cancelled := true }) := by
          simp only [Watch.notice, first, has, Bool.false_eq_true, if_false, if_true]
        rw [act]
        exact ⟨_, rfl, .inl (.acting _ none rfl rfl first has goes)⟩
      case false =>
        have kill : l.watch.notice .cancelled = (.kill, { l.watch with cancelled := true }) := by
          simp only [Watch.notice, first, has, Bool.false_eq_true, if_false]
        rw [kill]
        let killed := w.killJob i { j with notices, watch := { l.watch with cancelled := true } }
        let r : Round :=
          ⟨.notice .cancelled, killed.2.2.clock, killed.1, (killed.2.2.killJob i killed.2.1).1⟩
        have round : l.round r =
            (Log.noted { l with watch := { l.watch with cancelled := true } } .kill r).settleReached r := by
          rw [round_of_notice goes rfl, kill]
          rfl
        have inside : i < killed.2.2.jobs.length := by
          rw [show killed.2.2.jobs = w.jobs.set i killed.2.1 from rfl, List.length_set]
          exact there
        obtain ⟨k, jobs, stands⟩ := settleReached_stands (r := r) (w := killed.2.2) (i := i) (j := killed.2.1)
          (l := Log.noted { l with watch := { l.watch with cancelled := true } } .kill r) inside rfl goes rfl rfl
        exact ⟨k, jobs.trans (List.set_set _), .inr ⟨r, rfl, round ▸ stands⟩⟩

theorem stepWatcher_advances (has : w.jobs[i]? = some j) (stands : Stands l j)
    (stepped : w.stepWatcher i j = some v) : w.Advances v i l j.meets := by
  have there : i < w.jobs.length := (List.getElem?_eq_some_iff.mp has).1
  unfold stepWatcher at stepped
  cases stands with
  | finished result work returned =>
    rw [work] at stepped
    cases stepped
  | acting rest pause work watch first has goes =>
    rw [work] at stepped
    rw [Job.meets, work]
    exact act_advances there watch first has goes stepped
  | listening work watch goes =>
    rw [work] at stepped
    rw [Job.meets, work]
    rcases waiting : j.notices with _ | ⟨n, notices⟩
    case cons =>
      rw [waiting] at stepped
      cases stepped
      have taken := comply_advances there work watch goes n notices
      rw [work] at taken
      exact taken
    case nil =>
      rw [waiting] at stepped
      dsimp only at stepped ⊢
      split at stepped
      case isTrue reaped =>
        cases stepped
        let r : Round := { event := .silence }
        have round : l.round r = { l with returned := some (.error Watch.reaperGone) } := by
          rw [Log.round, goes]
        obtain ⟨k, jobs, stands⟩ := conclude_stands (w := w) (i := i) (j := j) (l := l.round r) there
          (.inl (by rw [round]))
        rw [if_pos reaped]
        exact ⟨k, jobs, .inr ⟨r, rfl, stands⟩⟩
      case isFalse unreaped =>
        split at stepped
        case isFalse => cases stepped
        case isTrue overdue =>
          cases stepped
          let r : Round := ⟨.lapse, w.clock, .ok (), .ok ()⟩
          have round : l.round r = { l.noted .killOverdue r with watch := l.watch.expire } := by
            rw [Log.round, goes]
            simp only [r, ← watch, overdue, if_true]
          rw [if_neg unreaped]
          refine ⟨_, List.set_set _, .inr ⟨r, rfl, round ▸ .listening work ?_ goes⟩⟩
          rw [← watch]
          rfl

/-! ### Worlds -/

/-- Every watcher stands where some rounds of its loop led. -/
def Watched (w : World) : Prop :=
  ∀ (i : ℕ) (j : Job), w.jobs[i]? = some j →
    ∃ hasAction delay rounds, Stands (Watch.run hasAction delay rounds) j

theorem watched_of_jobs (watched : w.Watched) (same : v.jobs = w.jobs) : v.Watched := by
  intro i j has
  exact watched i j (same ▸ has)

theorem watched_set {k : Job} (watched : w.Watched) (same : v.jobs = w.jobs.set i k)
    (stands : ∃ hasAction delay rounds, Stands (Watch.run hasAction delay rounds) k) : v.Watched := by
  intro i' j has
  rw [same, List.getElem?_set] at has
  split at has
  case isTrue here =>
    split at has
    case isTrue =>
      cases has
      exact stands
    case isFalse => cases has
  case isFalse => exact watched i' j has

theorem watched_setJob {k : Job} (watched : w.Watched) (has : w.jobs[i]? = some j) (work : k.work = j.work)
    (watch : k.watch = j.watch) : (w.setJob i k).Watched := by
  obtain ⟨hasAction, delay, rounds, stands⟩ := watched i j has
  exact watched_set watched rfl ⟨hasAction, delay, rounds, stands.congr work watch⟩

theorem watched_tell (watched : w.Watched) (i : ℕ) : (w.tell i).Watched := by
  unfold tell
  split
  case h_1 j has => exact watched_setJob watched has rfl rfl
  case h_2 => exact watched

theorem watched_register (watched : w.Watched) (i token : ℕ) : (w.register i token).Watched := by
  unfold register
  split
  case h_1 t j _ has =>
    split
    case h_1 id t' _ =>
      exact watched_setJob (watched_of_jobs (v := { w with tokens := w.tokens.set token t' }) watched rfl)
        has rfl rfl
    case h_2 => exact watched_tell watched i
  case h_2 => exact watched

/-- The loop of a job that is new made no round yet. -/
theorem watched_attach (watched : w.Watched) (terminal pid : ℕ) (c : Command Action ℕ) :
    (w.attach terminal pid c).2.Watched := by
  have added (j : Job) (fresh : j.work = .listening)
      (watch : j.watch = { hasAction := c.action.isSome, delay := c.delay }) :
      World.Watched { w with jobs := w.jobs ++ [j] } := by
    intro i k has
    rcases lt_or_ge i w.jobs.length with old | new
    · rw [List.getElem?_append_left old] at has
      exact watched i k has
    · rw [List.getElem?_append_right new] at has
      obtain rfl : k = j := List.mem_singleton.mp (List.mem_of_getElem? has)
      exact ⟨c.action.isSome, c.delay, [], .listening fresh watch rfl⟩
  unfold attach
  split
  case h_1 => exact watched_register (added _ rfl rfl) _ _
  case h_2 => exact added _ rfl rfl

theorem watched_start (watched : w.Watched) (terminal : ℕ) (c : Command Action ℕ) (l : Lifecycle) :
    (w.start terminal c l).2.2.Watched := by
  have kept : (l.start (launchpad terminal c) w).2.2.jobs = w.jobs :=
    kept_launchpad jobs (fun _ _ => rfl) (fun _ _ _ _ _ => rfl) terminal c l w
  unfold start startWith
  split
  case h_1 started =>
    rw [started] at kept
    exact watched_of_jobs watched kept
  case h_2 started =>
    rw [started] at kept
    exact watched_attach (watched_of_jobs watched kept) _ _ _

theorem watched_stepJob (watched : w.Watched) (stepped : w.stepJob i = some v) : v.Watched := by
  simp only [stepJob, bind, Option.bind_eq_some_iff] at stepped
  obtain ⟨j, has, stepped⟩ := stepped
  have ofWatcher (stepped : w.stepWatcher i j = some v) : v.Watched := by
    obtain ⟨hasAction, delay, rounds, stands⟩ := watched i j has
    obtain ⟨k, jobs, still | ⟨r, -, further⟩⟩ := stepWatcher_advances has stands stepped
    · exact watched_set watched jobs ⟨hasAction, delay, rounds, still⟩
    · exact watched_set watched jobs ⟨hasAction, delay, rounds ++ [r], Watch.run_concat rounds r ▸ further⟩
  split at stepped
  case isTrue => exact ofWatcher stepped
  case isFalse =>
    split at stepped
    case h_1 result j' w' reaped =>
      have same (k : Job) : w'.jobs.set i k = w.jobs.set i k :=
        (congrArg (·.2.2.jobs.set i k) reaped.symm).trans (List.set_set _)
      have work : j'.work = j.work := congrArg (·.2.1.work) reaped.symm
      have watch : j'.watch = j.watch := congrArg (·.2.1.watch) reaped.symm
      obtain ⟨hasAction, delay, rounds, stands⟩ := watched i j has
      cases stepped
      let k : Job := { j' with reaped := true, notices := j'.notices ++ [.exited result] }
      refine watched_set (i := i) (k := k) watched ?_ ⟨hasAction, delay, rounds, stands.congr work watch⟩
      rw [← same]
      split <;> rfl
    case h_2 => exact ofWatcher stepped

theorem watched_settle (watched : w.Watched) : w.settle.Watched :=
  settle_induction (fun _ _ watched => watched_of_jobs watched rfl) (fun _ _ watched => watched_of_jobs watched rfl)
    (fun _ i watched => watched_tell watched i) (fun _ _ _ => watched_stepJob) watched

theorem returned_of_outcome (watched : w.Watched) {result : Except Fault ExitState}
    (done : w.outcome? i = some result) :
    (∃ hasAction delay rounds, (Watch.run hasAction delay rounds).returned = some result) ∨
      result = .error Watch.brokenDown := by
  simp only [outcome?, bind, Option.bind_eq_some_iff] at done
  obtain ⟨j, has, done⟩ := done
  split at done
  case h_1 result' reaped work =>
    cases done
    obtain ⟨hasAction, delay, rounds, stands⟩ := watched i j has
    cases stands with
    | listening work' | acting _ _ work' =>
      rw [work] at work'
      cases work'
    | finished result work' returned =>
      rw [work] at work'
      cases work'
      exact returned.imp_left fun returned => ⟨hasAction, delay, rounds, returned⟩
  case h_2 => cases done

/-- What a wait for a job gives is what the loop of its watcher returned, unless the action panicked. -/
theorem returned_of_await (watched : w.Watched) {result : Except Fault ExitState}
    (done : (w.await i).1 = some result) :
    (∃ hasAction delay rounds, (Watch.run hasAction delay rounds).returned = some result) ∨
      result = .error Watch.brokenDown := by
  obtain ⟨u, watched, ⟨a, v, tried, ran⟩ | ⟨v, tried, ran⟩⟩ :=
    run_cases (P := Watched) (fun w => (w.outcome? i, w)) (fun _ => []) patience (fun _ => watched_settle)
      (fun _ => id) (fun _ _ watched => watched_of_jobs watched rfl) watched
  · rw [await, ran] at done
    cases done
    exact returned_of_outcome (watched_settle watched) (congrArg Prod.fst tried)
  · rw [await, ran] at done
    cases done

end World

end PseudoTerminal.Session
