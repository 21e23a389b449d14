import PseudoTerminal.Proofs.Coordination.StartupInvariants
import PseudoTerminal.Proofs.Host.Spawning
import PseudoTerminal.Session.World

/-! Any number of commands on one terminal. They share the host, and each of them is started and waited
for by itself. A command has a guard of the lease from the moment that its start takes the lease until its
reaper gives it back, and that comes after the end of the child; so one child lives at a time. -/

namespace PseudoTerminal.Coordination

open Session (World)
open Host (Kernel Program)

variable {σ : Type}

/-! ### The lease -/

/-- A launchpad of a terminal whose lease is where `lease` finds it, if the terminal is there at all. -/
structure Keeps (pad : Launchpad σ) (lease : σ → Option Lease) : Prop where
  acquire : ∀ s, (pad.acquire s).map lease = ((lease s).bind Lease.acquire?).map some
  release : ∀ s, lease (pad.release s) = (lease s).map Lease.release
  spawn : ∀ s path pid t, pad.spawn s path = .ok (pid, t) → lease t = lease s

namespace Keeps

variable {pad : Launchpad σ} {lease : σ → Option Lease} {s t : σ}

theorem acquire_eq_some (keeps : Keeps pad lease) (h : pad.acquire s = some t) :
    lease s = some ⟨false⟩ ∧ lease t = some ⟨true⟩ := by
  have law := keeps.acquire s
  rw [h] at law
  rcases found : lease s with _ | ⟨_ | _⟩
  · rw [found] at law
    cases law
  · rw [found] at law
    exact ⟨rfl, Option.some.inj law⟩
  · rw [found] at law
    cases law

theorem acquire_eq_none (keeps : Keeps pad lease) (taken : lease s = some ⟨true⟩) :
    pad.acquire s = none := by
  have law := keeps.acquire s
  rw [taken] at law
  exact Option.map_eq_none_iff.mp law

end Keeps

/-- The lease of a terminal. -/
def leaseOf (master : ℕ) (w : World) : Option Lease := w.masters[master]?.map Host.Master.lease

theorem leaseOf_setMaster {master : ℕ} {w : World} {m : Host.Master} (there : w.masters[master]? = some m)
    (lease : Lease) : leaseOf master (w.setMaster master { m with lease }) = some lease := by
  have inside := (List.getElem?_eq_some_iff.mp there).1
  simp [leaseOf, World.setMaster, inside]

theorem keeps_launchpad (master : ℕ) (c : Command Action ℕ) :
    Keeps (World.launchpad master c) (leaseOf master) where
  acquire w := by
    cases there : w.masters[master]? with
    | none => simp [World.launchpad, leaseOf, there]
    | some m =>
      cases taken : m.lease.acquire? with
      | none => simp [World.launchpad, leaseOf, there, taken]
      | some lease =>
        have after := leaseOf_setMaster there lease
        simp_all [World.launchpad, leaseOf]
  release w := by
    cases there : w.masters[master]? with
    | none => simp [World.launchpad, leaseOf, there]
    | some m =>
      have after := leaseOf_setMaster there m.lease.release
      simp_all [World.launchpad, leaseOf]
  spawn w path pid v spawned := by
    simp only [World.launchpad] at spawned
    split at spawned
    case h_1 => cases spawned
    case h_2 m there =>
      split at spawned
      case isTrue => cases spawned
      case isFalse =>
        split at spawned
        case h_1 => cases spawned; rfl
        case h_2 => cases spawned

/-- Commands as they are handed to their starts on a terminal. -/
def setups (master : ℕ) (c : ℕ → Command Action ℕ) (i : ℕ) : Setup World where
  pad := World.launchpad master (c i)
  hasToken := (c i).token.isSome
  hasAction := (c i).action.isSome
  delay := (c i).delay

/-! ### The guard -/

/-- Whether the lease was not given back yet. -/
def Reaper.hasGuard : Reaper → Bool
  | sending _ | done => false
  | _ => true

namespace State

/-- Whether the command has a guard of the lease. The start takes it and leaves it to the reaper. -/
def hasGuard (s : State σ) : Bool :=
  match s.start with
  | .leased _ => true
  | _ => s.job.any fun j => j.reaper.hasGuard

/-- Whether there is a child that has not ended. -/
def isLive (s : State σ) : Bool := s.job.any fun j => j.record.fate.isNone

end State

variable {u : Setup σ} {lease : σ → Option Lease} {s t : State σ} {turn : Turn σ}

theorem hasGuard_of_isLive (parts : Parts s) (live : s.isLive) : s.hasGuard := by
  obtain ⟨j, has, alive⟩ := (Option.any_eq_true ..).mp live
  have past := (parts.job j has).reports.past
  have holds : j.reaper.hasGuard := by
    cases stage : j.reaper with
    | sending | done =>
      rw [stage] at past
      rw [Option.isNone_iff_eq_none.mp alive] at past
      cases past rfl
    | _ => rfl
  unfold State.hasGuard
  split
  · rfl
  · rw [has]
    exact holds

theorem hasGuard_of_job (hasJob : s.job.isSome = s.start.hasChild) {j : Job} (has : s.job = some j) :
    s.hasGuard = j.reaper.hasGuard := by
  unfold State.hasGuard
  split
  case h_1 path stage => rw [stage, has] at hasJob; cases hasJob
  case h_2 => rw [has]; rfl

/-- What a step of a command does to the lease and to its guard. -/
inductive Transfer (lease : σ → Option Lease) (s t : State σ) : Prop
  | keep (same : lease t.host = lease s.host) (guard : t.hasGuard = s.hasGuard)
  | take (free : lease s.host = some ⟨false⟩) (taken : lease t.host = some ⟨true⟩)
      (before : s.hasGuard = false) (after : t.hasGuard)
  | giveBack (freed : lease t.host = (lease s.host).map Lease.release) (before : s.hasGuard)
      (after : t.hasGuard = false)

theorem hasGuard_setCalls (calls : Cancellation.Calls.State) :
    (s.setCalls calls).hasGuard = s.hasGuard := by
  unfold State.hasGuard State.setCalls
  cases s.start <;> cases s.job <;> rfl

theorem transfer_of_stepStart (keeps : Keeps u.pad lease) (staged : Staged u s)
    (h : s.stepStart u = some t) : Transfer lease s t := by
  have hasJob := staged.job
  unfold State.stepStart at h
  split at h
  case h_1 stage =>
    split at h
    case isTrue => cases h; exact .keep rfl (by simp [State.hasGuard, stage])
    case isFalse => split at h <;> cases h <;> exact .keep rfl (by simp [State.hasGuard, stage])
  case h_2 stage => split at h <;> cases h <;> exact .keep rfl (by simp [State.hasGuard, stage])
  case h_3 stage => split at h <;> cases h <;> exact .keep rfl (by simp [State.hasGuard, stage])
  case h_4 path stage =>
    split at h
    case h_1 => cases h; exact .keep rfl (by simp [State.hasGuard, stage])
    case h_2 host acquired =>
      obtain ⟨free, taken⟩ := keeps.acquire_eq_some acquired
      have none : s.job = none := by simpa [stage, Start.hasChild] using hasJob
      cases h
      exact .take free taken (by simp [State.hasGuard, stage, none]) rfl
  case h_5 path stage =>
    have guarded : s.hasGuard := by simp [State.hasGuard, stage]
    split at h
    case h_1 =>
      have none : s.job = none := by simpa [stage, Start.hasChild] using hasJob
      cases h
      exact .giveBack (keeps.release s.host) guarded (by simp [State.hasGuard, none])
    case h_2 pid host spawned =>
      cases h
      exact .keep (keeps.spawn _ _ _ _ spawned) guarded.symm
  case h_6 pid stage =>
    cases h
    refine .keep rfl ?_
    obtain ⟨j, has⟩ := Option.isSome_iff_exists.mp (hasJob.trans (by rw [stage]; rfl))
    have absent := (staged.reaper j has).mpr ⟨pid, stage⟩
    simp [State.hasGuard, stage, has, absent, Reaper.hasGuard]
  case h_7 pid stage =>
    split at h
    case isTrue =>
      split at h
      case h_1 calls made =>
        cases h
        refine .keep rfl (Eq.trans ?_ (hasGuard_setCalls calls))
        unfold State.hasGuard
        rw [setCalls_start, stage]
        cases (calls.registrations own).isHeld <;> rfl
      case h_2 => cases h
    case isFalse => cases h; exact .keep rfl (by simp [State.hasGuard, stage])
  case h_8 pid stage =>
    cases h
    exact .keep rfl (by simp [State.hasGuard, stage, Option.any_map])
  case h_9 pid stage => cases h; exact .keep rfl (by simp [State.hasGuard, stage])
  case h_10 => cases h

/-- The reaper keeps its guard until it is to give the lease back. -/
theorem hasGuard_step {j k : Job} {m : Move} (h : Change j m k)
    (kept : m = .reap → ∀ result, j.reaper ≠ .releasing result) :
    k.reaper.hasGuard = j.reaper.hasGuard := by
  cases h with
  | wake stage | wakeUnnamed f stage | lockReaper stage | take kind stage | tell result stage =>
    rw [stage]
    rfl
  | release result stage => exact absurd stage (kept rfl result)
  | miss a p kind stage ended => rw [Job.settle_reaper]; rfl
  | deliver a p stage => rw [Job.delivered_reaper]
  | _ => rfl

theorem transfer_of_stepJob (keeps : Keeps u.pad lease) (inv : SystemInv u s) {m : Move}
    (h : s.stepJob u m = some t) : Transfer lease s t := by
  have after := hasChild_advance inv.staged.job (State.advance_of_stepJob h)
  unfold State.stepJob at h
  split at h
  case h_1 => cases h
  case h_2 j has =>
    have holds := hasGuard_of_job inv.staged.job has
    split at h
    case h_1 => cases h
    case h_2 k made =>
      have change := Job.change_of_step (inv.parts.job j has).known made
      split at h
      case h_1 result stage =>
        have gone : k.reaper.hasGuard = false := by
          rw [Job.step, Job.stepReaper, stage] at made
          cases made
          rfl
        cases h
        refine .giveBack (keeps.release s.host) ?_ ((hasGuard_of_job after rfl).trans gone)
        rw [holds, stage]
        rfl
      case h_2 other =>
        cases h
        refine .keep rfl ((hasGuard_of_job after rfl).trans ((hasGuard_step change ?_).trans holds.symm))
        rintro rfl result stage
        exact other result rfl stage

theorem transfer_of_stepWait (h : s.stepWait u = some t) : Transfer lease s t := by
  cases State.advance_of_stepWait h <;> exact .keep rfl rfl

/-- The lease and the guard of a command change hands together. -/
theorem transfer_of_step (keeps : Keeps u.pad lease) (inv : SystemInv u s)
    (foreign : ∀ host, turn ≠ .others host) (h : s.step u turn = some t) : Transfer lease s t := by
  cases turn with
  | others host => exact absurd rfl (foreign host)
  | token m =>
    simp only [State.step] at h
    split at h
    case isTrue => cases h
    case isFalse =>
      obtain ⟨calls, -, rfl⟩ := Option.map_eq_some_iff.mp h
      exact .keep rfl (hasGuard_setCalls calls)
  | start => exact transfer_of_stepStart keeps inv.staged h
  | job m => exact transfer_of_stepJob keeps inv h
  | unregister =>
    simp only [State.step, State.stepUnregister] at h
    split at h
    case isTrue =>
      obtain ⟨calls, -, rfl⟩ := Option.map_eq_some_iff.mp h
      exact .keep rfl (hasGuard_setCalls calls)
    case isFalse => cases h
  | wait => exact transfer_of_stepWait h

/-! ### After a wait -/

/-- Whoever waited for the command saw its reaper out. -/
def Waited (s : State σ) : Prop :=
  ∀ result, s.wait = .returned result → ∃ j, s.job = some j ∧ j.reaper = .done

/-- Whether the first wait has begun and not returned. -/
def Wait.isInProgress : Wait → Bool
  | joining | joined _ => true
  | _ => false

theorem returned_of_awaited (ending : Ending s) (awaited : s.life.phase = .awaited)
    (ended : s.wait.isInProgress = false) : ∃ result, s.wait = .returned result := by
  have phase := ending.phase
  cases stage : s.wait with
  | idle =>
    rw [awaited, stage] at phase
    split at phase <;> cases phase
  | joining | joined => rw [stage] at ended; cases ended
  | returned result => exact ⟨result, rfl⟩

theorem done_step {j k : Job} {m : Move} (h : Change j m k) (done : j.reaper = .done) :
    k.reaper = .done := by
  cases h with
  | wake stage | wakeUnnamed f stage | lockReaper stage | take kind stage | release result stage =>
    rw [stage] at done
    cases done
  | tell => rfl
  | miss a p kind stage ended => rw [Job.settle_reaper]; exact done
  | deliver a p stage => rw [Job.delivered_reaper]; exact done
  | _ => exact done

theorem done_advance (h : Advance u s turn t) (inv : SystemInv u s) {j : Job} (has : s.job = some j)
    (done : j.reaper = .done) : ∃ k, t.job = some k ∧ k.reaper = .done := by
  have child : s.start.hasChild := by rw [← inv.staged.job, has]; rfl
  cases h with
  | token | register | unregister => exact ⟨_, Option.map_eq_some_iff.mpr ⟨j, has, rfl⟩, done⟩
  | watch => exact ⟨_, Option.map_eq_some_iff.mpr ⟨j, has, rfl⟩, done⟩
  | spawn path pid host stage => rw [stage] at child; cases child
  | attach pid stage =>
    have absent := (inv.staged.reaper j has).mpr ⟨pid, stage⟩
    rw [done] at absent
    cases absent
  | job m k next host has' made =>
    cases has.symm.trans has'
    exact ⟨next, rfl, done_step (Job.change_of_step (inv.parts.job j has).known made) done⟩
  | _ => exact ⟨j, has, done⟩

theorem waited_advance (h : Advance u s turn t) (inv : SystemInv u s) (waited : Waited s) :
    Waited t := by
  intro result returned
  have kept (earlier : s.wait = .returned result) : ∃ k, t.job = some k ∧ k.reaper = .done := by
    obtain ⟨j, has, done⟩ := waited result earlier
    exact done_advance h inv has done
  cases h with
  | join => cases returned
  | refuse e stage started late =>
    have running := inv.ending.phase
    rw [if_pos started, if_pos stage] at running
    rw [Lifecycle.beginWait, running] at late
    cases late
  | joinWatcher => cases returned
  | joinReaper j outcome stage has done => exact ⟨j, has, done⟩
  | _ => exact kept returned

/-! ### The commands of one terminal -/

/-- Commands on one host, which a command is given whenever it makes a step. -/
structure Shared (σ : Type) where
  host : σ
  commands : ℕ → State σ

namespace Shared

inductive Move (σ : Type)
  /-- Others change the host, but not the lease of the terminal. -/
  | others (host : σ)
  /-- A step of a command or on its token. -/
  | command (i : ℕ) (turn : Turn σ)
  /-- A command whose start failed is to be started once more. -/
  | retry (i : ℕ)
  /-- A call on a command comes too early or too late. -/
  | refuse (i : ℕ) (call : Call)

def init (host : σ) : Shared σ := { host, commands := fun _ => { host } }

/-- A command together with the host. -/
def focus (s : Shared σ) (i : ℕ) : State σ := { s.commands i with host := s.host }

def setCommand (s : Shared σ) (i : ℕ) (c : State σ) : Shared σ :=
  { host := c.host, commands := Function.update s.commands i c }

/-- Makes a step; nothing when whoever is to make it waits or is done. -/
def step (u : ℕ → Setup σ) (lease : σ → Option Lease) (s : Shared σ) : Move σ → Option (Shared σ)
  | .others host => if lease host = lease s.host then some { s with host } else none
  | .command _ (.others _) => none
  | .command i turn => ((s.focus i).step (u i) turn).map (s.setCommand i)
  | .retry i =>
    match (s.commands i).start with
    | .returned (.error _) => some (s.setCommand i { s.focus i with start := .idle })
    | _ => none
  | .refuse i call => ((s.focus i).refuse (u i) call).map (s.setCommand i)

/-- Makes steps one after the other. -/
def run (u : ℕ → Setup σ) (lease : σ → Option Lease) (s : Shared σ) (moves : List (Move σ)) :
    Option (Shared σ) := moves.foldlM (step u lease) s

variable {us : ℕ → Setup σ} {lease : σ → Option Lease} {s t : Shared σ}

@[simp] theorem run_nil : s.run us lease [] = some s := rfl

@[simp] theorem run_cons (m : Move σ) (moves : List (Move σ)) :
    s.run us lease (m :: moves) = (s.step us lease m).bind fun s => s.run us lease moves := rfl

theorem setCommand_commands (i j : ℕ) (c : State σ) :
    (s.setCommand i c).commands j = if j = i then c else s.commands j :=
  Function.update_apply s.commands i c j

/-- What holds of the commands of a terminal, whatever they and others do. -/
structure Inv (us : ℕ → Setup σ) (lease : σ → Option Lease) (s : Shared σ) : Prop where
  each : ∀ i, SystemInv (us i) (s.commands i)
  waited : ∀ i, Waited (s.commands i)
  /-- One guard is out at a time. -/
  alone : ∀ i j, (s.commands i).hasGuard → (s.commands j).hasGuard → i = j
  /-- The lease is taken as long as a guard is out. -/
  taken : lease s.host = some ⟨true⟩ ↔ ∃ i, (s.commands i).hasGuard

theorem inv_init {host : σ} (free : lease host ≠ some ⟨true⟩) : Inv us lease (init host) where
  each _ := systemInv_init host
  waited _ := nofun
  alone _ _ := nofun
  taken := iff_of_false free (by rintro ⟨_, ⟨⟩⟩)

/-- The guards that are out after a step of a command. -/
theorem guards_setCommand {i : ℕ} {c : State σ} (inv : Inv us lease s)
    (h : Transfer lease (s.focus i) c) :
    (∀ j k, ((s.setCommand i c).commands j).hasGuard → ((s.setCommand i c).commands k).hasGuard →
      j = k) ∧
      (lease c.host = some ⟨true⟩ ↔ ∃ j, ((s.setCommand i c).commands j).hasGuard) := by
  simp only [setCommand_commands]
  cases h with
  | keep same guard =>
    have kept (j : ℕ) : (if j = i then c else s.commands j).hasGuard = (s.commands j).hasGuard := by
      split
      case isTrue here => rw [here]; exact guard
      case isFalse => rfl
    simp only [kept, same]
    exact ⟨inv.alone, inv.taken⟩
  | take free taken before after =>
    have none (j : ℕ) : (s.commands j).hasGuard = false := by
      rw [← Bool.not_eq_true]
      intro holds
      have busy := inv.taken.mpr ⟨j, holds⟩
      cases free.symm.trans busy
    have only (j : ℕ) (holds : (if j = i then c else s.commands j).hasGuard) : j = i := by
      by_contra other
      rw [if_neg other, none j] at holds
      cases holds
    refine ⟨fun j k one two => (only j one).trans (only k two).symm, iff_of_true taken ⟨i, ?_⟩⟩
    rw [if_pos rfl]
    exact after
  | giveBack freed before after =>
    have none (j : ℕ) : (if j = i then c else s.commands j).hasGuard = false := by
      split
      case isTrue => exact after
      case isFalse other =>
        rw [← Bool.not_eq_true]
        exact fun holds => other (inv.alone j i holds before)
    have busy : lease s.host = some ⟨true⟩ := inv.taken.mpr ⟨i, before⟩
    simp only [none]
    refine ⟨nofun, iff_of_false ?_ (by rintro ⟨_, ⟨⟩⟩)⟩
    rw [freed, show lease (s.focus i).host = some ⟨true⟩ from busy]
    nofun

theorem inv_setCommand {i : ℕ} {c : State σ} (inv : Inv us lease s) (each : SystemInv (us i) c)
    (waited : Waited c) (h : Transfer lease (s.focus i) c) : Inv us lease (s.setCommand i c) where
  each j := by
    rw [setCommand_commands]
    split
    case isTrue here => rw [here]; exact each
    case isFalse => exact inv.each j
  waited j := by
    rw [setCommand_commands]
    split
    case isTrue => exact waited
    case isFalse => exact inv.waited j
  alone := (guards_setCommand inv h).1
  taken := (guards_setCommand inv h).2

theorem systemInv_focus (inv : Inv us lease s) (i : ℕ) : SystemInv (us i) (s.focus i) :=
  systemInv_advance (.others s.host) (inv.each i)

/-- A command whose start failed is as good as new. -/
theorem systemInv_retry {u : Setup σ} {c : State σ} {e : StartError} (inv : SystemInv u c)
    (failed : c.start = .returned (.error e)) : SystemInv u { c with start := .idle } where
  parts := ⟨inv.parts.calls, inv.parts.job⟩
  staged := by
    obtain ⟨job, reaper, watcher, unregistered, registered, tokenless, sent⟩ := inv.staged
    rw [failed] at job reaper watcher unregistered registered
    exact ⟨job, by simpa using reaper, watcher, unregistered, registered, tokenless, sent⟩
  ending := by
    obtain ⟨dropped, started, phase, joined, returned⟩ := inv.ending
    rw [failed] at started phase
    exact ⟨dropped, fun waiting => absurd (started waiting) nofun, phase, joined, returned⟩

theorem inv_step (keeps : ∀ i, Keeps (us i).pad lease) (inv : Inv us lease s) {m : Move σ}
    (h : s.step us lease m = some t) : Inv us lease t := by
  cases m with
  | others host =>
    simp only [step] at h
    split at h
    case isTrue same =>
      cases h
      exact ⟨inv.each, inv.waited, inv.alone, same ▸ inv.taken⟩
    case isFalse => cases h
  | command i turn =>
    have own : ∀ host, turn ≠ .others host := by rintro host rfl; cases h
    obtain ⟨c, made, rfl⟩ : ∃ c, (s.focus i).step (us i) turn = some c ∧ s.setCommand i c = t := by
      cases turn with
      | others host => cases h
      | _ => exact Option.map_eq_some_iff.mp h
    have each := systemInv_focus inv i
    have advance := State.advance_of_step made
    exact inv_setCommand inv (systemInv_advance advance each) (waited_advance advance each (inv.waited i))
      (transfer_of_step (keeps i) each own made)
  | retry i =>
    simp only [step] at h
    split at h
    case h_1 e failed =>
      cases h
      refine inv_setCommand inv (systemInv_retry (systemInv_focus inv i) failed) (inv.waited i)
        (.keep rfl ?_)
      simp [State.hasGuard, focus, failed]
    case h_2 => cases h
  | refuse i call =>
    obtain ⟨c, refused, rfl⟩ := Option.map_eq_some_iff.mp h
    rw [State.refuse_eq refused]
    exact inv_setCommand inv (systemInv_focus inv i) (inv.waited i) (.keep rfl rfl)

theorem inv_run (keeps : ∀ i, Keeps (us i).pad lease) (inv : Inv us lease s) {moves : List (Move σ)}
    (h : s.run us lease moves = some t) : Inv us lease t := by
  induction moves generalizing s with
  | nil => cases h; exact inv
  | cons m moves ih =>
    rw [run_cons] at h
    obtain ⟨next, made, h⟩ := Option.bind_eq_some_iff.mp h
    exact ih (inv_step keeps inv made) h

/-- A start that comes to a taken lease is refused, and changes nothing else. -/
theorem step_busy {i : ℕ} {path : Octets} (keeps : Keeps (us i).pad lease)
    (staged : Staged (us i) (s.commands i)) (stage : (s.commands i).start = .resolved path)
    (taken : lease s.host = some ⟨true⟩) :
    ∃ t, s.step us lease (.command i .start) = some t ∧
      (t.commands i).start = .returned (.error .busy) ∧ (t.commands i).job = none ∧
      t.host = s.host ∧ ∀ j, j ≠ i → t.commands j = s.commands j := by
  have none : (s.commands i).job = none := by simpa [stage, Start.hasChild] using staged.job
  refine ⟨s.setCommand i { s.focus i with start := .returned (.error .busy) }, ?_, ?_, ?_, rfl, ?_⟩
  · simp [step, State.step, State.stepStart, focus, stage, keeps.acquire_eq_none taken]
  · simp [setCommand_commands]
  · simpa [setCommand_commands, focus] using none
  · intro j other
    rw [setCommand_commands, if_neg other]

/-- A start that fails leaves no child and no guard, and frees the lease that it had taken. -/
theorem failed_step (keeps : ∀ i, Keeps (us i).pad lease) (inv : Inv us lease s) {i : ℕ} {e : StartError}
    (h : s.step us lease (.command i .start) = some t)
    (failed : (t.commands i).start = .returned (.error e)) :
    (t.commands i).job = none ∧ (t.commands i).hasGuard = false ∧
      ((s.commands i).hasGuard → lease t.host = some ⟨false⟩) := by
  obtain ⟨c, made, rfl⟩ := Option.map_eq_some_iff.mp h
  have after := inv_step keeps inv h
  have none : ((s.setCommand i c).commands i).job = none := by
    simpa [failed, Start.hasChild] using (after.each i).staged.job
  have unguarded : ((s.setCommand i c).commands i).hasGuard = false := by
    simp [State.hasGuard, failed, none]
  refine ⟨none, unguarded, fun guarded => ?_⟩
  rw [setCommand_commands, if_pos rfl] at unguarded
  have taken : lease (s.focus i).host = some ⟨true⟩ := inv.taken.mpr ⟨i, guarded⟩
  show lease c.host = some ⟨false⟩
  have own (host : σ) : (Turn.start : Turn σ) ≠ .others host := by rintro ⟨⟩
  cases transfer_of_step (keeps i) (systemInv_focus inv i) own made with
  | keep same guard => cases unguarded.symm.trans (guard.trans guarded)
  | take free => cases free.symm.trans taken
  | giveBack freed => rw [freed, taken]; rfl

end Shared

variable {master : ℕ} {c : ℕ → Command Action ℕ}

/-- One child lives on a terminal at a time, whichever commands are started there. A start that comes to a
taken lease is refused and spawns nothing; one that fails after it took the lease leaves it free. The
lease is taken as long as a command has a guard of it, and a command that was waited for has none, also
when a later wait for it is refused. -/
theorem one_live_child {w : World} (free : leaseOf master w ≠ some ⟨true⟩)
    {moves : List (Shared.Move World)} {s : Shared World}
    (h : (Shared.init w).run (setups master c) (leaseOf master) moves = some s) :
    (∀ i j, (s.commands i).isLive → (s.commands j).isLive → i = j) ∧
      (∀ i path, (s.commands i).start = .resolved path → leaseOf master s.host = some ⟨true⟩ →
        ∃ t, s.step (setups master c) (leaseOf master) (.command i .start) = some t ∧
          (t.commands i).start = .returned (.error .busy) ∧ (t.commands i).job = none ∧
          t.host = s.host ∧ ∀ j, j ≠ i → t.commands j = s.commands j) ∧
      (∀ i t e, s.step (setups master c) (leaseOf master) (.command i .start) = some t →
        (t.commands i).start = .returned (.error e) →
        (t.commands i).job = none ∧ (t.commands i).hasGuard = false ∧
          ((s.commands i).hasGuard → leaseOf master t.host = some ⟨false⟩)) ∧
      (∀ i, (∃ result, (s.commands i).wait = .returned result) ∨
          (s.commands i).life.phase = .awaited ∧ (s.commands i).wait.isInProgress = false →
        (∃ j, (s.commands i).job = some j ∧ j.reaper = .done) ∧ (s.commands i).hasGuard = false) ∧
      (leaseOf master s.host = some ⟨true⟩ ↔ ∃ i, (s.commands i).hasGuard) := by
  have keeps (i : ℕ) : Keeps (setups master c i).pad (leaseOf master) :=
    keeps_launchpad master (c i)
  have inv := Shared.inv_run keeps (Shared.inv_init free) h
  have live (i : ℕ) (lives : (s.commands i).isLive) := hasGuard_of_isLive (inv.each i).parts lives
  refine ⟨fun i j one two => inv.alone i j (live i one) (live j two), ?_, ?_, ?_, inv.taken⟩
  · exact fun i path stage taken => Shared.step_busy (keeps i) (inv.each i).staged stage taken
  · exact fun i t e made failed => Shared.failed_step keeps inv made failed
  · intro i waited
    have returned : ∃ result, (s.commands i).wait = .returned result := by
      rcases waited with returned | ⟨awaited, ended⟩
      · exact returned
      · exact returned_of_awaited (inv.each i).ending awaited ended
    obtain ⟨result, returned⟩ := returned
    obtain ⟨j, has, done⟩ := inv.waited i result returned
    refine ⟨⟨j, has, done⟩, ?_⟩
    rw [hasGuard_of_job (inv.each i).staged.job has, done]
    rfl

/-- There is a host on which a command can be started. -/
theorem exists_launch :
    ∃ (w v x : World) (c : Command Action ℕ) (path : Octets) (pid : ℕ), leaseOf 0 w = some ⟨false⟩ ∧
      (World.launchpad 0 c).isClosed w = false ∧ (World.launchpad 0 c).resolve w = .ok path ∧
      (World.launchpad 0 c).acquire w = some v ∧ (World.launchpad 0 c).spawn v path = .ok (pid, x) := by
  let path : Octets := [Path.slash, 112]
  let c : Command Action ℕ := { program := path }
  let kernel := Kernel.lone [(0, {})]
  let w : World := { kernel, masters := [{ device := 0 }] }
  let v : World := { kernel, masters := [{ device := 0, lease := ⟨true⟩ }] }
  have spawnable : kernel.Spawnable c path [] [] :=
    Kernel.spawnable_lone _ rfl rfl rfl (by decide) (by decide)
  have resolved : (World.launchpad 0 c).resolve w = .ok path := by
    obtain ⟨place, at_, mode, name, dir, found, executable⟩ := spawnable.found
    cases dir
    show (if kernel.files.isExecutable (some []) path then .ok path else .error (.notFound path) :
      Except StartError Path) = .ok path
    rw [FileTree.isExecutable, found, if_pos (by simpa using executable)]
  obtain ⟨k, spawned⟩ := Kernel.spawnOn_of_spawnable spawnable 0
  refine ⟨w, v, { v with kernel := k }, c, path, 1000, rfl, rfl, resolved, rfl, ?_⟩
  have started : kernel.spawnOn 0 c path [] [] = .ok (1000, k) := spawned
  simp [World.launchpad, v, started]

/-- As long as the child of one command lives, another command is refused. -/
theorem one_live_child_refused :
    ∃ (w : World) (c : ℕ → Command Action ℕ) (moves : List (Shared.Move World)) (s t : Shared World),
      (Shared.init w).run (setups 0 c) (leaseOf 0) moves = some s ∧ (s.commands 0).isLive ∧
      (∀ i, (s.commands i).isLive → i = 0) ∧
      s.step (setups 0 c) (leaseOf 0) (.command 1 .start) = some t ∧
      (t.commands 1).start = .returned (.error .busy) ∧ (t.commands 1).job = none := by
  obtain ⟨w, v, x, c, path, pid, free, opened, resolved, acquired, spawned⟩ := exists_launch
  have taken : leaseOf 0 x = some ⟨true⟩ :=
    ((keeps_launchpad 0 c).spawn _ _ _ _ spawned).trans
      ((keeps_launchpad 0 c).acquire_eq_some acquired).2
  let moves : List (Shared.Move World) :=
    List.replicate 3 (.command 1 .start) ++ List.replicate 5 (.command 0 .start)
  have facts : ((Shared.init w).run (setups 0 fun _ => c) (leaseOf 0) moves).map (fun s =>
      ((s.commands 0).isLive, (s.commands 1).start, s.host)) = some (true, .resolved path, x) := by
    simp [moves, List.replicate, Shared.step, State.step, State.stepStart, Shared.focus,
      Shared.setCommand, Shared.init, setups, opened, resolved, acquired, spawned, State.isLive]
  obtain ⟨s, run, facts⟩ := Option.map_eq_some_iff.mp facts
  obtain ⟨live, stage, host⟩ : (s.commands 0).isLive ∧ (s.commands 1).start = .resolved path ∧
    s.host = x := by simpa using facts
  obtain ⟨one, busy, -⟩ := one_live_child (by simp [free]) run
  obtain ⟨t, made, refused, none, -⟩ := busy 1 path stage (by rw [host, taken])
  exact ⟨w, fun _ => c, moves, s, t, run, live, fun i lives => one i 0 lives live, made, refused, none⟩

end PseudoTerminal.Coordination
