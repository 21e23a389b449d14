import PseudoTerminal.Proofs.Coordination.Truth
import PseudoTerminal.Proofs.Coordination.Delivery

/-! The first wait for a command that is killed for want of an action returns once the child has ended.
The reaper, the watcher and the wait have only so many steps left, and as long as the wait did not
return one of them can be made, unless somebody else is at the waiting callbacks of the token. -/

namespace PseudoTerminal.Coordination

open Cancellation

variable {σ : Type} {u : Setup σ} {s t : State σ} {turn : Turn σ} {j k : Job} {m : Move}

/-! ### Steps that are left -/

/-- The steps that a reaper has left. -/
def Reaper.rank : Reaper → ℕ
  | absent => 6
  | blocking => 5
  | observed => 4
  | locked => 3
  | releasing _ => 2
  | sending _ => 1
  | done => 0

/-- The steps that a watcher has left before it listens. A kill for want of an action may set a deadline,
which is worth four. -/
def Watcher.rank : Watcher → ℕ
  | absent => 2
  | listening => 1
  | acting => 0
  | calling .cancel => 8
  | holding .cancel => 7
  | sending .cancel => 6
  | calling _ => 4
  | holding _ => 3
  | sending _ => 2
  | finished _ => 0

/-- What the deadline of a watch is worth. -/
def deadlineRank (w : Watch) : ℕ := if w.deadline.isSome then 4 else 0

/-- What the notices are worth: each of them the kill that may follow it, also the one that the reaper
did not send yet. -/
def Job.queueRank (j : Job) : ℕ := 8 * (j.notices.length + if j.reaper = .done then 0 else 1)

/-- The steps that a job has left, at most. -/
def Job.rank (j : Job) : ℕ := j.reaper.rank + j.watcher.rank + deadlineRank j.watch + j.queueRank

/-- Whether a step is the reaper's or the watcher's. -/
def Move.isOwn : Move → Bool
  | .leave _ | .ends | .pass _ => false
  | _ => true

theorem rank_notice (w : Watch) (n : Notice) (noAction : w.hasAction = false) :
    (Watcher.ofDemand (w.notice n).1).rank ≤ 8 ∧
      deadlineRank (w.notice n).2 = deadlineRank w := by
  unfold Watch.notice
  grind [Watcher.ofDemand, Watcher.rank, deadlineRank]

theorem rank_reached (w : Watch) (now : ℕ) (result : Except Fault Unit) :
    (Watcher.ofDemand (w.reached now result).1).rank + deadlineRank (w.reached now result).2 ≤
      5 + deadlineRank w := by
  rcases w.reached_cases now result with ⟨-, -, demand⟩ | ⟨-, -, demand⟩ | ⟨-, demand⟩ | ⟨f, -, -, demand⟩ <;>
    rw [demand] <;> grind [Watcher.ofDemand, Watcher.rank, deadlineRank]

theorem settle_queueRank (result : Except Fault Unit) (p : Purpose) :
    (j.settle result p).queueRank = j.queueRank := by
  cases p <;> rfl

/-- After a signal less is left than while the watcher was about to send it. -/
theorem rank_settle (result : Except Fault Unit) {p : Purpose} (plain : p.isPlain) :
    (j.settle result p).rank + 1 ≤
      j.reaper.rank + (Watcher.sending p).rank + deadlineRank j.watch + j.queueRank := by
  rw [Job.rank, settle_queueRank, Job.settle_reaper]
  cases p with
  | cancel =>
    have := rank_reached j.watch j.clock result
    have : (Watcher.sending .cancel).rank = 6 := rfl
    rw [Job.settle, Job.reach_watcher, Job.reach_watch]
    omega
  | overdue =>
    have : (Watcher.sending .overdue).rank = 2 := rfl
    have : Watcher.listening.rank = 1 := rfl
    simp only [Job.settle]
    omega
  | instead | action => cases plain

theorem rank_holding (p : Purpose) : (Watcher.holding p).rank = (Watcher.sending p).rank + 1 := by
  cases p <;> rfl

theorem rank_calling (p : Purpose) : (Watcher.calling p).rank = (Watcher.sending p).rank + 2 := by
  cases p <;> rfl

theorem rank_step (h : Change j m k) (plain : Plain j) :
    k.rank + (if m.isOwn then 1 else 0) ≤ j.rank := by
  have watcher := plain.watcher
  cases h with
  | hear a n rest stage queue =>
    have := rank_notice j.watch n plain.hasAction
    grind [Job.rank, Job.queueRank, Move.isOwn, Watcher.rank]
  | miss a p kind stage ended =>
    rw [stage] at watcher
    have := rank_settle (j := { j.looked with lock := none }) (.error .processDone) watcher
    have := rank_holding p
    grind [Job.rank, Job.queueRank, Job.looked, Move.isOwn]
  | deliver a p stage =>
    rw [stage] at watcher
    let delivery := Child.Handle.deliver (custody a) j.record p.signal
    let before := { j with record := delivery.2, lock := none, tries := (p, delivery.1) :: j.tries }
    have := rank_settle (j := before) delivery.1 watcher
    grind [Job.rank, Job.queueRank, Job.delivered, Move.isOwn]
  | lockWatcher a p stage free =>
    have := rank_holding p
    have := rank_calling p
    grind [Job.rank, Job.queueRank, Move.isOwn]
  | find a p stage alive =>
    have := rank_holding p
    grind [Job.rank, Job.queueRank, Job.looked, Move.isOwn]
  | expire stage due =>
    have := isSome_of_isOverdue due
    grind [Job.rank, Job.queueRank, Watcher.rank, Watch.expire, Move.isOwn, deadlineRank]
  | look stage | send signal stage | conclude result stage | breakDown stage =>
    rw [stage] at watcher
    cases watcher
  | _ => grind [Job.rank, Job.queueRank, Reaper.rank, Watcher.rank, Move.isOwn, Job.looked]

/-! ### Somebody can go on -/

theorem observe_isSome (ended : j.record.fate.isSome) :
    (Child.observe j.record.standing).isSome := by
  unfold Child.observe Record.standing
  grind

/-- The reaper of a child that has ended waits for nothing but a watcher that holds the lock. -/
theorem stepReaper_isSome (inv : Inv j) (ended : j.record.fate.isSome) (present : j.reaper ≠ .absent)
    (more : j.reaper ≠ .done) (free : j.watcher.isLocked = false) : j.stepReaper.isSome := by
  have reaper := inv.exclusion.reaper
  have watcher := inv.exclusion.watcher
  obtain ⟨kind, fate⟩ := Option.isSome_iff_exists.mp ended
  cases stage : j.reaper with
  | blocking =>
    have := observe_isSome ended
    simp only [Job.stepReaper, stage]
    grind
  | observed =>
    have unlocked : j.lock = none := by
      rcases lock : j.lock with _ | _ | _ <;> simp_all
    simp [Job.stepReaper, stage, unlocked]
  | locked => simp [Job.stepReaper, stage, Job.look_eq inv.known, fate]
  | releasing result => simp [Job.stepReaper, stage]
  | sending result => simp [Job.stepReaper, stage]
  | absent => exact absurd stage present
  | done => exact absurd stage more

/-- A watcher that is not at its end can go on, or else the reaper can. -/
theorem stepJob_isSome (inv : Inv j) (plain : Plain j) (ended : j.record.fate.isSome)
    (present : j.reaper ≠ .absent) (watching : j.watcher ≠ .absent)
    (more : j.watcher.isFinished = false) : j.stepReaper.isSome ∨ (j.stepWatcher {}).isSome := by
  have reaper := inv.exclusion.reaper
  have watcher := inv.exclusion.watcher
  obtain ⟨kind, fate⟩ := Option.isSome_iff_exists.mp ended
  cases stage : j.watcher with
  | listening =>
    cases queue : j.notices with
    | cons n rest =>
      right
      simp [Job.stepWatcher, Job.hear, stage, queue]
    | nil =>
      left
      refine stepReaper_isSome inv ended present ?_ (by rw [stage]; rfl)
      intro done
      exact queue_ne_nil inv.reports inv.hearing done stage queue
  | calling p =>
    by_cases locked : j.reaper = .locked
    · left
      exact stepReaper_isSome inv ended present (by simp [locked]) (by rw [stage]; rfl)
    · right
      have unlocked : j.lock = none := by
        rcases lock : j.lock with _ | _ | _ <;> simp_all [Watcher.isLocked]
      simp [Job.stepWatcher, stage, unlocked]
  | holding p =>
    right
    simp [Job.stepWatcher, stage, Job.look_eq inv.known, fate]
  | sending p =>
    right
    simp [Job.stepWatcher, stage]
  | absent => exact absurd stage watching
  | finished outcome => simp [stage, Watcher.isFinished] at more
  | acting =>
    have := plain.watcher
    rw [stage] at this
    cases this

/-! ### The command -/

def Wait.rank : Wait → ℕ
  | idle => 3
  | joining => 2
  | joined _ => 1
  | returned _ => 0

/-- The steps that a drop has left. -/
def dropRank : Calls.Registration → ℕ
  | .held _ => 3
  | .dropping _ => 2
  | .removing _ => 1
  | _ => 0

/-- The steps that a started command has left, at most; its callback may still send a notice. -/
def State.rank (s : State σ) : ℕ :=
  s.wait.rank + dropRank (s.calls.registrations own) + 8 * (1 - s.calls.log.count own) +
    (s.job.elim 0 Job.rank)

/-- Whether a step is the reaper's, the watcher's or the wait's. -/
def Turn.isOwn : Turn σ → Bool
  | .job m => m.isOwn
  | .unregister | .wait => true
  | _ => false

theorem rank_tell (n : ℕ) : (j.tell n).rank = j.rank + 8 * n := by
  have : (j.tell n).queueRank = j.queueRank + 8 * n := by
    grind [Job.queueRank, Job.tell]
  rw [Job.rank, Job.rank, this]
  simp only [tell_reaper, tell_watcher, tell_watch]
  omega

theorem dropRank_lt {c d : Calls.State} {l : ℕ} (h : c.stepDrop l = some d) :
    dropRank (d.registrations l) < dropRank (c.registrations l) := by
  unfold Calls.State.stepDrop at h
  grind [dropRank]

theorem rank_setCalls {calls : Calls.State} (change : Calls.Change s.calls calls)
    (inv : Calls.Inv s.calls) :
    (s.setCalls calls).job.elim 0 Job.rank + 8 * (1 - calls.log.count own) ≤
      s.job.elim 0 Job.rank + 8 * (1 - s.calls.log.count own) := by
  have grows := Calls.count_log_le_step change own
  have once := Calls.count_log_le (Calls.inv_step change inv) own
  rw [setCalls_job]
  cases s.job with
  | none => simp; omega
  | some j =>
    simp only [Option.map_some, Option.elim_some, rank_tell]
    omega

theorem rank_advance (h : Advance u s turn t) (system : SystemInv u s)
    (plain : ∀ j, s.job = some j → Plain j) (started : s.start = .returned (.ok ())) :
    t.rank + (if turn.isOwn then 1 else 0) ≤ s.rank := by
  cases h with
  | token m calls other made =>
    have := rank_setCalls (Calls.change_of_step made) system.parts.calls
    have := change_of_other made other
    grind [State.rank, Turn.isOwn]
  | unregister calls token finished made =>
    have := rank_setCalls (Calls.change_of_stepDrop made) system.parts.calls
    have := dropRank_lt made
    grind [State.rank, Turn.isOwn]
  | job m j next host has made =>
    have := rank_step (Job.change_of_step (system.parts.job j has).known made) (plain j has)
    grind [State.rank, Turn.isOwn]
  | fail e host before more => exact absurd started (more _)
  | refuse e stage started late => grind [State.rank, Turn.isOwn, Wait.rank]
  | _ => grind [State.rank, Turn.isOwn, Wait.rank]

/-- The reaper, the watcher and the wait make no more steps than they have left. -/
theorem rank_run {turns : List (Turn σ)} (noAction : u.hasAction = false)
    (ordinary : ∀ turn ∈ turns, turn.IsOrdinary) (h : s.run u turns = some t)
    (system : SystemInv u s) (plain : ∀ j, s.job = some j → Plain j)
    (started : s.start = .returned (.ok ())) : t.rank + turns.countP Turn.isOwn ≤ s.rank := by
  induction turns generalizing s with
  | nil => cases h; simp
  | cons turn turns ih =>
    rw [State.run_cons] at h
    obtain ⟨next, made, h⟩ := Option.bind_eq_some_iff.mp h
    have advance := State.advance_of_step made
    have rest := ih (fun turn among => ordinary turn (List.mem_cons_of_mem _ among)) h
      (systemInv_advance advance system)
      (plain_advance advance (ordinary turn List.mem_cons_self) noAction system plain)
      (started_advance advance started)
    have first := rank_advance advance system plain started
    rw [List.countP_cons]
    omega

theorem stepJob_isSome_of (has : s.job = some j) (h : (j.step m).isSome) :
    (s.step u (.job m)).isSome := by
  obtain ⟨next, made⟩ := Option.isSome_iff_exists.mp h
  simp only [State.step, State.stepJob, has, made]
  split <;> rfl

/-- The drop of the registration is held up by nobody but somebody at the waiting callbacks. -/
theorem unregister_not_stuck (system : SystemInv u s) (token : u.hasToken)
    (finished : s.isFinished) (kept : (s.calls.registrations own).isKept) :
    (s.step u .unregister).isSome ∨ Held u s := by
  cases made : s.calls.stepDrop own with
  | some calls =>
    left
    simp [State.step, State.stepUnregister, token, finished, made]
  | none =>
    right
    obtain ⟨⟨id, stage⟩, lock⟩ := Calls.stepDrop_eq_none made kept
    exact held_of_lock system.parts.calls.exclusion lock (by rw [stage]; rfl)

/-- A wait for a child that has ended is held up by nobody but somebody at the waiting callbacks. -/
theorem wait_not_stuck (system : SystemInv u s) (plain : ∀ j, s.job = some j → Plain j)
    (started : s.start = .returned (.ok ())) (has : s.job = some j) (ended : j.record.fate.isSome)
    (more : ∀ result, s.wait ≠ .returned result) :
    (∃ turn, turn.isOwn ∧ turn.IsOrdinary ∧ (s.step u turn).isSome) ∨ Held u s := by
  have inv := system.parts.job j has
  have present : j.reaper ≠ .absent := by
    intro absent
    obtain ⟨pid, stage⟩ := (system.staged.reaper j has).mp absent
    rw [started] at stage
    cases stage
  have watching : j.watcher ≠ .absent := by
    intro absent
    have := (system.staged.watcher j has).mp absent
    rw [started] at this
    cases this
  have reap (h : j.stepReaper.isSome) :
      ∃ turn, turn.isOwn ∧ turn.IsOrdinary ∧ (s.step u turn).isSome :=
    ⟨.job .reap, rfl, trivial, stepJob_isSome_of has h⟩
  cases stage : s.wait with
  | idle =>
    left
    refine ⟨.wait, rfl, trivial, ?_⟩
    have phase := system.ending.phase
    rw [if_pos started, if_pos stage] at phase
    simp [State.step, State.stepWait, stage, started, Lifecycle.beginWait, phase]
  | joining =>
    cases watcher : j.watcher with
    | finished outcome =>
      have finished : s.isFinished := isFinished_iff.mpr ⟨j, has, by rw [watcher]; rfl⟩
      by_cases kept : u.hasToken ∧ (s.calls.registrations own).isKept
      · rcases unregister_not_stuck system kept.1 finished kept.2 with next | held
        · exact .inl ⟨.unregister, rfl, trivial, next⟩
        · exact .inr held
      · left
        refine ⟨.wait, rfl, trivial, ?_⟩
        have dropped : u.hasToken → s.calls.registrations own = .dropped := by
          intro token
          rcases system.staged.registered token (by rw [started]; rfl) with h | h
          · exact absurd ⟨token, h⟩ kept
          · exact h
        simp only [State.step, State.stepWait, stage, has, Option.map_some, watcher]
        grind
    | _ =>
      left
      have := stepJob_isSome inv (plain j has) ended present watching (by rw [watcher]; rfl)
      rcases this with next | next
      · exact reap next
      · exact ⟨.job (.watch {}), rfl, rfl, stepJob_isSome_of has next⟩
  | joined outcome =>
    left
    obtain ⟨k, had, finished⟩ := system.ending.joined outcome stage
    rw [has] at had
    cases had
    by_cases done : j.reaper = .done
    · refine ⟨.wait, rfl, trivial, ?_⟩
      simp [State.step, State.stepWait, stage, has, done]
    · exact reap (stepReaper_isSome inv ended present done (by rw [finished]; rfl))
  | returned result => exact absurd stage (more result)

end PseudoTerminal.Coordination
