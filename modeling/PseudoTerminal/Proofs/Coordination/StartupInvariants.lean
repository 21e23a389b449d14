import PseudoTerminal.Proofs.Coordination.Startup

/-! What holds of a command from its start on, whatever others do to its token and its host: how far the
start has come tells which of child, reaper, registration and watcher there are, and the notices of a
cancellation that the watcher was sent are the runs of the callback. -/

namespace PseudoTerminal.Coordination

open Cancellation

variable {σ : Type} {u : Setup σ} {s t : State σ} {turn : Turn σ}

/-! ### Stages -/

theorem hasChild_of_hasRegistered {stage : Start} (h : stage.hasRegistered) : stage.hasChild := by
  unfold Start.hasRegistered at h
  grind [Start.hasChild]

/-! ### Notices -/

@[simp, grind =] theorem tell_reaper (n : ℕ) (j : Job) : (j.tell n).reaper = j.reaper := rfl

@[simp, grind =] theorem tell_watcher (n : ℕ) (j : Job) : (j.tell n).watcher = j.watcher := rfl

@[simp, grind =] theorem tell_watch (n : ℕ) (j : Job) : (j.tell n).watch = j.watch := rfl

/-- How often the watcher was told that the token was cancelled. -/
def Job.sent (j : Job) : ℕ := j.heard.countP Notice.isCancelled + j.notices.countP Notice.isCancelled

@[simp, grind =] theorem sent_tell (n : ℕ) (j : Job) : (j.tell n).sent = j.sent + n := by
  simp [Job.sent, Job.tell, List.countP_append, List.countP_replicate, Notice.isCancelled]
  omega

theorem sent_step {j k : Job} {m : Move} (h : Change j m k) : k.sent = j.sent := by
  cases h with
  | tell result stage =>
    show _ + (j.notices ++ [Notice.exited result]).countP Notice.isCancelled = _
    rw [List.countP_append]
    rfl
  | hear a n rest stage queue =>
    show (n :: j.heard).countP Notice.isCancelled + rest.countP Notice.isCancelled = _
    rw [Job.sent, queue, List.countP_cons, List.countP_cons]
    omega
  | miss a p kind stage ended => rw [Job.sent, Job.settle_heard, Job.settle_notices]; rfl
  | deliver a p stage => rw [Job.sent, Job.delivered_heard, Job.delivered_notices]; rfl
  | _ => rfl

theorem inv_tell {j : Job} (n : ℕ) (inv : Inv j) : Inv (j.tell n) where
  known := ⟨inv.known.handle, inv.known.reaped⟩
  exclusion := ⟨inv.exclusion.reaper, inv.exclusion.watcher⟩
  settles := inv.settles
  sending := inv.sending
  reports := {
    past := inv.reports.past
    report := inv.reports.report
    notices := by
      intro result among
      rw [Job.tell, List.mem_append] at among
      rcases among with among | among
      · exact inv.reports.notices result among
      · cases List.eq_of_mem_replicate among
    heard := inv.reports.heard
    once := by
      have := inv.reports.once
      grind [Job.tell, Notice.isExit, List.countP_replicate] }
  hearing := ⟨inv.hearing.cancelled, inv.hearing.busy, inv.hearing.cause, inv.hearing.deadline,
    inv.hearing.exit, inv.hearing.finished⟩

@[simp, grind =] theorem setCalls_start (calls : Calls.State) :
    (s.setCalls calls).start = s.start := rfl

@[simp, grind =] theorem setCalls_wait (calls : Calls.State) :
    (s.setCalls calls).wait = s.wait := rfl

@[simp, grind =] theorem setCalls_life (calls : Calls.State) :
    (s.setCalls calls).life = s.life := rfl

@[simp, grind =] theorem setCalls_calls (calls : Calls.State) :
    (s.setCalls calls).calls = calls := rfl

/-- A job after calls on the token is the job before them, told of the runs of its callback. -/
@[grind =] theorem setCalls_job (calls : Calls.State) :
    (s.setCalls calls).job =
      s.job.map (Job.tell (calls.log.count own - s.calls.log.count own)) := rfl

/-! ### The job -/

theorem reaper_absent_step {j k : Job} {m : Move} (h : Change j m k) :
    k.reaper = .absent ↔ j.reaper = .absent := by
  cases h with
  | wake stage | wakeUnnamed f stage | lockReaper stage | take kind stage | release result stage
  | tell result stage => simp [stage]
  | miss a p kind stage ended => rw [Job.settle_reaper]; rfl
  | deliver a p stage => rw [Job.delivered_reaper]
  | _ => rfl

theorem ne_absent_of_isFree {w : Watcher} (h : w.isFree) : w ≠ .absent := by
  rintro rfl
  cases h

theorem ofDemand_ne_absent (d : Watch.Demand) : Watcher.ofDemand d ≠ .absent := by
  cases d <;> nofun

theorem watcher_absent_step {j k : Job} {m : Move} (h : Change j m k) :
    k.watcher = .absent ↔ j.watcher = .absent := by
  cases h with
  | hear a n rest stage => exact iff_of_false (ofDemand_ne_absent _) (by simp [stage])
  | miss a p kind stage => exact iff_of_false (ne_absent_of_isFree (settle_isFree ..)) (by simp [stage])
  | deliver a p stage => exact iff_of_false (ne_absent_of_isFree (settle_isFree ..)) (by simp [stage])
  | conclude result stage => exact iff_of_false (ofDemand_ne_absent _) (by simp [stage])
  | lose a stage | lockWatcher a p stage | find a p stage | expire stage | send signal stage
  | breakDown stage => simp [stage]
  | _ => rfl

theorem inv_spawned (handle : Child.Handle) (fresh : handle.known = none) (watch : Watch)
    (clear : watch.cancelled = false) (cause : watch.cause = false)
    (deadline : watch.deadline = none) : Inv { handle, watch } where
  known := ⟨fresh, by simp⟩
  exclusion := ⟨by simp, by simp [Watcher.isLocked]⟩
  settles := by simp
  sending := by simp
  reports := ⟨by simp [Reaper.isPastEnd], by simp [Reaper.report?], by simp, by simp, by simp⟩
  hearing := ⟨by simp [clear], by simp [Watcher.isBusy], by simp [cause], by simp [deadline], by simp,
    by simp⟩

theorem inv_attached {j : Job} (inv : Inv j) (stage : j.reaper = .absent) :
    Inv { j with reaper := .blocking } where
  known := ⟨inv.known.handle, inv.known.reaped⟩
  exclusion := ⟨by simpa [stage] using inv.exclusion.reaper, inv.exclusion.watcher⟩
  settles := inv.settles
  sending := inv.sending
  reports := ⟨by simp [Reaper.isPastEnd], by simp [Reaper.report?], inv.reports.notices,
    inv.reports.heard, by simpa [stage] using inv.reports.once⟩
  hearing := ⟨inv.hearing.cancelled, inv.hearing.busy, inv.hearing.cause, inv.hearing.deadline,
    inv.hearing.exit, inv.hearing.finished⟩

theorem inv_watched {j : Job} (inv : Inv j) (stage : j.watcher = .absent) :
    Inv { j with watcher := .listening } where
  known := ⟨inv.known.handle, inv.known.reaped⟩
  exclusion := ⟨inv.exclusion.reaper, by
    simpa [stage, Watcher.isLocked] using inv.exclusion.watcher⟩
  settles := inv.settles
  sending := by simp [Watcher.isSending]
  reports := ⟨inv.reports.past, inv.reports.report, inv.reports.notices, inv.reports.heard,
    inv.reports.once⟩
  hearing := {
    cancelled := inv.hearing.cancelled
    busy := by simp [Watcher.isBusy]
    cause := inv.hearing.cause
    deadline := inv.hearing.deadline
    exit := by
      intro result among
      have := inv.hearing.exit result among
      rw [stage] at this
      cases this
    finished := by simp }

/-- What holds of the parts of a command, each for itself. -/
structure Parts (s : State σ) : Prop where
  calls : Calls.Inv s.calls
  job : ∀ j, s.job = some j → Inv j

/-- Which parts there are when a start has come so far. -/
structure Staged (u : Setup σ) (s : State σ) : Prop where
  job : s.job.isSome = s.start.hasChild
  reaper : ∀ j, s.job = some j → (j.reaper = .absent ↔ ∃ pid, s.start = .spawned pid)
  watcher : ∀ j, s.job = some j → (j.watcher = .absent ↔ s.start.hasWatcher = false)
  unregistered : s.start.hasRegistered = false →
    (s.calls.registrations own).isKept = false ∧ s.calls.registrations own ≠ .dropped
  registered : u.hasToken → s.start.hasRegistered →
    (s.calls.registrations own).isKept ∨ s.calls.registrations own = .dropped
  tokenless : u.hasToken = false → s.calls.registrations own = .idle
  sent : ∀ j, s.job = some j → j.sent = s.calls.log.count own

theorem change_of_other {c d : Calls.State} {m : Calls.Move} (h : c.step m = some d)
    (other : isOwn m = false) : d.registrations own = c.registrations own := by
  cases m with
  | cancel i => rw [Calls.registrations_stepCancel h]
  | register k => exact Calls.registrations_stepRegister h (by grind [isOwn])
  | drop k => exact Calls.registrations_stepDrop h (by grind [isOwn])

theorem parts_setCalls {calls : Calls.State} (inv : Parts s) (change : Calls.Change s.calls calls) :
    Parts (s.setCalls calls) where
  calls := Calls.inv_step change inv.calls
  job := by
    intro j has
    obtain ⟨k, had, rfl⟩ := Option.map_eq_some_iff.mp has
    exact inv_tell _ (inv.job k had)

theorem parts_advance (h : Advance u s turn t) (staged : Staged u s) (inv : Parts s) : Parts t := by
  cases h with
  | token m calls other made => exact parts_setCalls inv (Calls.change_of_step made)
  | register pid calls stage token made =>
    have := parts_setCalls inv (Calls.change_of_stepRegister made)
    exact ⟨this.calls, this.job⟩
  | unregister calls token finished made => exact parts_setCalls inv (Calls.change_of_stepDrop made)
  | spawn path pid host stage =>
    refine ⟨inv.calls, ?_⟩
    rintro j ⟨⟩
    exact inv_spawned _ rfl _ rfl rfl rfl
  | attach pid stage =>
    refine ⟨inv.calls, ?_⟩
    intro k has
    obtain ⟨j, had, rfl⟩ := Option.map_eq_some_iff.mp has
    exact inv_attached (inv.job j had) ((staged.reaper j had).mpr ⟨pid, stage⟩)
  | watch pid stage =>
    refine ⟨inv.calls, ?_⟩
    intro k has
    obtain ⟨j, had, rfl⟩ := Option.map_eq_some_iff.mp has
    exact inv_watched (inv.job j had) ((staged.watcher j had).mpr (by rw [stage]; rfl))
  | job m j next host has made =>
    refine ⟨inv.calls, ?_⟩
    rintro k ⟨⟩
    exact inv_step made (inv.job j has)
  | _ => exact ⟨inv.calls, inv.job⟩


section

variable (hasJob : s.job.isSome = s.start.hasChild)

include hasJob

theorem no_job (before : s.start.hasChild = false) {j : Job} : s.job ≠ some j := by
  intro has
  rw [before, has] at hasJob
  cases hasJob

theorem hasChild_advance (h : Advance u s turn t) : t.job.isSome = t.start.hasChild := by
  cases h with
  | token | unregister => simpa [setCalls_job] using hasJob
  | register pid calls stage token made =>
    rw [stage] at hasJob
    have kept : (s.setCalls calls).job.isSome := by
      rw [setCalls_job, Option.isSome_map, hasJob]; rfl
    show (s.setCalls calls).job.isSome = _
    rw [kept]
    split <;> rfl
  | fail e host before more => rw [before] at hasJob; exact hasJob
  | spawn | job => simp_all [Start.hasChild]
  | attach pid stage | watch pid stage =>
    rw [stage] at hasJob
    simpa [Start.hasChild] using hasJob
  | enter stage | want stage | resolve path stage | acquire path host stage | skip pid stage
  | finish pid stage =>
    rw [stage] at hasJob
    exact hasJob
  | _ => exact hasJob

theorem reaper_advance (h : Advance u s turn t) (parts : Parts s)
    (inv : ∀ j, s.job = some j → (j.reaper = .absent ↔ ∃ pid, s.start = .spawned pid)) :
    ∀ k, t.job = some k → (k.reaper = .absent ↔ ∃ pid, t.start = .spawned pid) := by
  intro k has
  cases h with
  | token | unregister =>
    obtain ⟨j, had, rfl⟩ := Option.map_eq_some_iff.mp has
    exact inv j had
  | register pid calls stage token made =>
    obtain ⟨j, had, rfl⟩ := Option.map_eq_some_iff.mp has
    rw [tell_reaper, inv j had, stage]
    split <;> simp
  | fail e host before more => exact absurd has (no_job hasJob before)
  | enter stage | want stage | resolve path stage | acquire path host stage =>
    exact absurd has (no_job hasJob (by rw [stage]; rfl))
  | spawn path pid host stage => cases has; simp
  | attach pid stage =>
    obtain ⟨j, had, rfl⟩ := Option.map_eq_some_iff.mp has
    simp
  | watch pid stage =>
    obtain ⟨j, had, rfl⟩ := Option.map_eq_some_iff.mp has
    simpa [stage] using inv j had
  | skip pid stage | finish pid stage => simpa [stage] using inv k has
  | job m j next host had made =>
    cases has
    rw [reaper_absent_step (Job.change_of_step (parts.job j had).known made)]
    exact inv j had
  | _ => exact inv k has

theorem watcher_advance (h : Advance u s turn t) (parts : Parts s)
    (inv : ∀ j, s.job = some j → (j.watcher = .absent ↔ s.start.hasWatcher = false)) :
    ∀ k, t.job = some k → (k.watcher = .absent ↔ t.start.hasWatcher = false) := by
  intro k has
  cases h with
  | token | unregister =>
    obtain ⟨j, had, rfl⟩ := Option.map_eq_some_iff.mp has
    exact inv j had
  | register pid calls stage token made =>
    obtain ⟨j, had, rfl⟩ := Option.map_eq_some_iff.mp has
    rw [tell_watcher, inv j had, stage]
    split <;> rfl
  | fail e host before more => exact absurd has (no_job hasJob before)
  | enter stage | want stage | resolve path stage | acquire path host stage =>
    exact absurd has (no_job hasJob (by rw [stage]; rfl))
  | spawn path pid host stage => cases has; simp [Start.hasWatcher]
  | attach pid stage =>
    obtain ⟨j, had, rfl⟩ := Option.map_eq_some_iff.mp has
    simpa [stage, Start.hasWatcher] using inv j had
  | watch pid stage =>
    obtain ⟨j, had, rfl⟩ := Option.map_eq_some_iff.mp has
    simp [Start.hasWatcher]
  | skip pid stage | finish pid stage => simpa [stage, Start.hasWatcher] using inv k has
  | job m j next host had made =>
    cases has
    rw [watcher_absent_step (Job.change_of_step (parts.job j had).known made)]
    exact inv j had
  | _ => exact inv k has

end

theorem unregistered_advance (h : Advance u s turn t)
    (inv : s.start.hasRegistered = false →
      (s.calls.registrations own).isKept = false ∧ s.calls.registrations own ≠ .dropped) :
    t.start.hasRegistered = false →
      (t.calls.registrations own).isKept = false ∧ t.calls.registrations own ≠ .dropped := by
  intro early
  cases h with
  | token m calls other made =>
    rw [setCalls_calls, change_of_other made other]
    exact inv early
  | register pid calls stage token made =>
    obtain ⟨kept, called⟩ := Calls.stepRegister_isKept made
    have unheld : (calls.registrations own).isHeld = false := by
      cases held : (calls.registrations own).isHeld with
      | false => rfl
      | true => simp [held, Start.hasRegistered] at early
    refine ⟨kept.trans unheld, ?_⟩
    intro dropped
    rw [show calls.registrations own = .dropped from dropped] at called
    cases called
  | unregister calls token finished made =>
    have unkept := (inv early).1
    rw [(Calls.stepDrop_isKept made).1] at unkept
    cases unkept
  | fail e host before more =>
    apply inv
    cases registered : s.start.hasRegistered with
    | false => rfl
    | true => rw [hasChild_of_hasRegistered registered] at before; cases before
  | enter stage | want stage | resolve path stage | acquire path host stage
  | spawn path pid host stage | attach pid stage => exact inv (by rw [stage]; rfl)
  | skip | watch | finish => cases early
  | _ => exact inv early

theorem registered_advance (h : Advance u s turn t) (token : u.hasToken)
    (inv : s.start.hasRegistered →
      (s.calls.registrations own).isKept ∨ s.calls.registrations own = .dropped) :
    t.start.hasRegistered →
      (t.calls.registrations own).isKept ∨ t.calls.registrations own = .dropped := by
  intro late
  cases h with
  | token m calls other made =>
    rw [setCalls_calls, change_of_other made other]
    exact inv late
  | register pid calls stage token made =>
    left
    show (calls.registrations own).isKept
    rw [(Calls.stepRegister_isKept made).1]
    cases held : (calls.registrations own).isHeld with
    | false => simp [held, Start.hasRegistered] at late
    | true => rfl
  | unregister calls token finished made => exact (Calls.stepDrop_isKept made).2
  | skip pid stage tokenless => rw [token] at tokenless; cases tokenless
  | watch pid stage | finish pid stage => exact inv (by rw [stage]; rfl)
  | fail | enter | want | resolve | acquire | spawn | attach => cases late
  | _ => exact inv late

theorem sent_advance (h : Advance u s turn t) (parts : Parts s)
    (unregistered : s.start.hasRegistered = false →
      (s.calls.registrations own).isKept = false ∧ s.calls.registrations own ≠ .dropped)
    (inv : ∀ j, s.job = some j → j.sent = s.calls.log.count own) :
    ∀ k, t.job = some k → k.sent = t.calls.log.count own := by
  have told {calls : Calls.State} (change : Calls.Change s.calls calls) {k : Job}
      (has : (s.setCalls calls).job = some k) : k.sent = calls.log.count own := by
    have grows := Calls.count_log_le_step change own
    obtain ⟨j, had, rfl⟩ := Option.map_eq_some_iff.mp has
    rw [sent_tell, inv j had]
    omega
  intro k has
  cases h with
  | token m calls other made => exact told (Calls.change_of_step made) has
  | register pid calls stage token made => exact told (Calls.change_of_stepRegister made) has
  | unregister calls token finished made => exact told (Calls.change_of_stepDrop made) has
  | spawn path pid host stage =>
    cases has
    have unkept := unregistered (by rw [stage]; rfl)
    have silent := Calls.count_log_eq_zero parts.calls unkept.1 unkept.2
    rw [silent]
    rfl
  | attach pid stage | watch pid stage =>
    obtain ⟨j, had, rfl⟩ := Option.map_eq_some_iff.mp has
    exact inv j had
  | job m j next host had made =>
    cases has
    rw [sent_step (Job.change_of_step (parts.job j had).known made)]
    exact inv j had
  | _ => exact inv k has

theorem staged_advance (h : Advance u s turn t) (parts : Parts s) (inv : Staged u s) : Staged u t where
  job := hasChild_advance inv.job h
  reaper := reaper_advance inv.job h parts inv.reaper
  watcher := watcher_advance inv.job h parts inv.watcher
  unregistered := unregistered_advance h inv.unregistered
  registered := fun token => registered_advance h token (inv.registered token)
  tokenless := by
    intro none
    have idle := inv.tokenless none
    cases h with
    | token m calls other made =>
      rw [setCalls_calls, change_of_other made other]
      exact idle
    | register pid calls stage token made => rw [none] at token; cases token
    | unregister calls token finished made => rw [none] at token; cases token
    | _ => exact idle
  sent := sent_advance h parts inv.unregistered inv.sent

/-! ### The end -/

/-- The drop of the registration and the first wait follow the watcher's end, and the phase tells how far
that has come. -/
structure Ending (s : State σ) : Prop where
  dropped : (s.calls.registrations own).isDropped → s.isFinished
  started : s.wait ≠ .idle → s.start = .returned (.ok ())
  phase : s.life.phase =
    if s.start = .returned (.ok ()) then if s.wait = .idle then .running else .awaited else .idle
  joined : ∀ result, s.wait = .joined result →
    ∃ j, s.job = some j ∧ j.watcher = .finished result
  returned : ∀ result, s.wait = .returned result →
    ∃ j outcome, s.job = some j ∧ j.watcher = .finished outcome ∧
      result = outcome.mapError WaitError.os

theorem isFinished_iff : s.isFinished ↔ ∃ j, s.job = some j ∧ j.watcher.isFinished := by
  simp [State.isFinished, Option.any_eq_true]

theorem watcher_finished_step {j k : Job} {m : Move} {outcome : Except Fault ExitState}
    (h : Change j m k) (finished : j.watcher = .finished outcome) : k.watcher = .finished outcome := by
  cases h with
  | hear a n rest stage | lose a stage | lockWatcher a p stage | find a p stage | miss a p kind stage
  | deliver a p stage | expire stage | look stage | send signal stage | conclude result stage
  | breakDown stage => rw [stage] at finished; cases finished
  | _ => exact finished

/-- A watcher that is at its end stays there. -/
theorem finished_advance (h : Advance u s turn t) (parts : Parts s) (staged : Staged u s) {j : Job}
    {outcome : Except Fault ExitState} (has : s.job = some j) (finished : j.watcher = .finished outcome) :
    ∃ k, t.job = some k ∧ k.watcher = .finished outcome := by
  have child : s.start.hasChild := by rw [← staged.job, has]; rfl
  have watched : s.start.hasWatcher := by
    by_contra unwatched
    have := (staged.watcher j has).mpr (by simpa using unwatched)
    rw [finished] at this
    cases this
  cases h with
  | token | register | unregister =>
    exact ⟨_, Option.map_eq_some_iff.mpr ⟨j, has, rfl⟩, finished⟩
  | spawn path pid host stage => rw [stage] at child; cases child
  | attach pid stage | watch pid stage => rw [stage] at watched; cases watched
  | job m j' next host has' made =>
    cases has.symm.trans has'
    exact ⟨next, rfl, watcher_finished_step (Job.change_of_step (parts.job j has).known made) finished⟩
  | _ => exact ⟨j, has, finished⟩

theorem isFinished_advance (h : Advance u s turn t) (parts : Parts s) (staged : Staged u s)
    (finished : s.isFinished) : t.isFinished := by
  obtain ⟨j, has, stage⟩ := isFinished_iff.mp finished
  cases outcome : j.watcher with
  | finished result =>
    obtain ⟨k, had, same⟩ := finished_advance h parts staged has outcome
    exact isFinished_iff.mpr ⟨k, had, by rw [same]; rfl⟩
  | _ => rw [outcome] at stage; cases stage

theorem dropped_advance (h : Advance u s turn t) (parts : Parts s) (staged : Staged u s)
    (inv : (s.calls.registrations own).isDropped → s.isFinished) :
    (t.calls.registrations own).isDropped → t.isFinished := by
  intro dropped
  refine isFinished_advance h parts staged ?_
  cases h with
  | token m calls other made =>
    rw [setCalls_calls, change_of_other made other] at dropped
    exact inv dropped
  | register pid calls stage token made =>
    have called : (calls.registrations own).isDropped := dropped
    rw [(Calls.stepRegister_isKept made).2] at called
    cases called
  | unregister calls token finished made => exact finished
  | _ => exact inv dropped

theorem started_advance (h : Advance u s turn t) (inv : s.start = .returned (.ok ())) :
    t.start = .returned (.ok ()) := by
  cases h with
  | fail e host before more => exact absurd inv (more _)
  | enter stage | want stage | resolve path stage | acquire path host stage | spawn path pid host stage
  | attach pid stage | register pid calls stage | skip pid stage | watch pid stage =>
    rw [stage] at inv
    cases inv
  | finish => rfl
  | _ => exact inv

theorem ending_advance (h : Advance u s turn t) (parts : Parts s) (staged : Staged u s)
    (inv : Ending s) : Ending t where
  dropped := dropped_advance h parts staged inv.dropped
  started := by
    intro waiting
    refine started_advance h ?_
    cases h with
    | join life stage started first => exact started
    | refuse e stage started late => exact started
    | joinWatcher j result stage => exact inv.started (by simp [stage])
    | joinReaper j result stage => exact inv.started (by simp [stage])
    | _ => exact inv.started waiting
  phase := by
    have := inv.phase
    have := inv.started
    cases h <;> grind [Lifecycle.beginWait]
  joined := by
    intro result
    have := inv.joined result
    have keep {j : Job} (has : s.job = some j) (finished : j.watcher = .finished result) :=
      finished_advance h parts staged has finished
    cases h <;> grind
  returned := by
    intro result
    have := inv.returned result
    have := inv.joined
    have := inv.phase
    have keep {j : Job} {outcome : Except Fault ExitState} (has : s.job = some j)
      (finished : j.watcher = .finished outcome) := finished_advance h parts staged has finished
    cases h <;> grind [Lifecycle.beginWait]

/-! ### Every run -/

structure SystemInv (u : Setup σ) (s : State σ) : Prop where
  parts : Parts s
  staged : Staged u s
  ending : Ending s

theorem exists_job_iff (inv : SystemInv u s) : (∃ j, s.job = some j) ↔ s.start.hasChild := by
  rw [← inv.staged.job, Option.isSome_iff_exists]

theorem systemInv_advance (h : Advance u s turn t) (inv : SystemInv u s) : SystemInv u t where
  parts := parts_advance h inv.staged inv.parts
  staged := staged_advance h inv.parts inv.staged
  ending := ending_advance h inv.parts inv.staged inv.ending

theorem systemInv_init (host : σ) : SystemInv u { host } where
  parts := ⟨Calls.inv_init, by simp⟩
  staged := by
    constructor <;>
      simp [Start.hasChild, Start.hasWatcher, Start.hasRegistered, Calls.Registration.isKept]
  ending := by constructor <;> simp [Calls.Registration.isDropped]

theorem systemInv_run {host : σ} {turns : List (Turn σ)}
    (h : State.run u { host } turns = some s) : SystemInv u s :=
  State.run_induction (fun _ _ _ _ inv advance => systemInv_advance advance inv) h (systemInv_init host)

end PseudoTerminal.Coordination
