import PseudoTerminal.Proofs.Cancellation.Renaming
import PseudoTerminal.Proofs.Cancellation.Withdrawal
import PseudoTerminal.Proofs.Coordination.Delivery
import PseudoTerminal.Proofs.Coordination.Tenancy

/-! Any number of commands that share a token, on whichever terminals of a host. Each of them registers when
it is started and drops its registration when its watcher is at its end, and each sees the token as if its
own registration were the first. As long as the token is not cancelled, the callbacks that wait are those of
the commands that registered and did not drop the registration. -/

namespace PseudoTerminal.Coordination

open Cancellation

variable {σ : Type}

/-! ### One command -/

section

variable {u : Setup σ} {s t : State σ} {turn : Turn σ}

/-- A step of the command itself is its own step on the token, or none. -/
theorem calls_advance (h : Advance u s turn t) (foreign : ∀ m, turn ≠ .token m) :
    t.calls = s.calls ∨ ∃ m, isOwn m ∧ s.calls.step m = some t.calls := by
  cases h with
  | token m => exact absurd rfl (foreign m)
  | register pid calls stage token made => exact .inr ⟨.register own, rfl, made⟩
  | unregister calls token finished made => exact .inr ⟨.drop own, rfl, made⟩
  | _ => exact .inl rfl

/-- A start changes the waiting callbacks with the step after which it has registered, and with no other. -/
theorem token_advance (h : Advance u s .start t) (unregistered : t.start.hasRegistered = false) :
    t.calls.token = s.calls.token := by
  cases h with
  | register pid calls stage token made =>
    refine Calls.token_stepRegister made (Bool.eq_false_iff.mpr ?_)
    intro (held : (calls.registrations own).isHeld)
    simp [held, Start.hasRegistered] at unregistered
  | _ => rfl

/-- Whether the wait got past the watcher. -/
def Wait.hasJoined : Wait → Bool
  | joined _ | returned _ => true
  | _ => false

/-- A wait that got past the watcher saw the registration dropped. -/
def Released (u : Setup σ) (s : State σ) : Prop :=
  u.hasToken → s.wait.hasJoined → s.calls.registrations own = .dropped

theorem calls_dropped_advance (h : Advance u s turn t) (dropped : s.calls.registrations own = .dropped) :
    t.calls.registrations own = .dropped := by
  cases h with
  | token m calls other made => exact Calls.dropped_step (Calls.change_of_step made) dropped
  | register pid calls stage token made =>
    exact Calls.dropped_step (Calls.change_of_stepRegister made) dropped
  | unregister calls token finished made =>
    exact Calls.dropped_step (Calls.change_of_stepDrop made) dropped
  | _ => exact dropped

theorem released_advance (h : Advance u s turn t) (ending : Ending s) (released : Released u s) :
    Released u t := by
  intro token joined
  have kept (earlier : s.wait.hasJoined) := calls_dropped_advance h (released token earlier)
  cases h with
  | join => cases joined
  | refuse e stage started late =>
    have running := ending.phase
    rw [if_pos started, if_pos stage] at running
    rw [Lifecycle.beginWait, running] at late
    cases late
  | joinWatcher j result stage has finished dropped => exact dropped token
  | joinReaper j result stage => exact kept (by rw [stage]; rfl)
  | _ => exact kept joined

theorem setCalls_self (s : State σ) : s.setCalls s.calls = s := by
  have untold : Job.tell 0 = id := by
    funext j
    simp [Job.tell]
  simp [State.setCalls, untold]

/-- What holds of a command that shares its token. -/
structure Sound (u : Setup σ) (s : State σ) : Prop where
  system : SystemInv u s
  released : Released u s

theorem sound_init (host : σ) : Sound u { host } where
  system := systemInv_init host
  released _ joined := nomatch joined

theorem sound_advance (h : Advance u s turn t) (sound : Sound u s) : Sound u t where
  system := systemInv_advance h sound.system
  released := released_advance h sound.system.ending sound.released

theorem sound_retry {e : StartError} (sound : Sound u s) (failed : s.start = .returned (.error e)) :
    Sound u { s with start := .idle } where
  system := Shared.systemInv_retry sound.system failed
  released := sound.released

end

/-- Commands of one host with one token. A command is given the host and the token, as it sees them, whenever
it makes a step. -/
structure Joint (σ : Type) where
  host : σ
  calls : Calls.State := {}
  commands : ℕ → State σ

namespace Joint

inductive Move (σ : Type)
  /-- Others change the host. -/
  | others (host : σ)
  /-- Somebody goes on with a cancellation of the token. -/
  | cancel (n : ℕ)
  /-- A step of a command. -/
  | command (i : ℕ) (turn : Turn σ)
  /-- A command whose start failed is to be started once more. -/
  | retry (i : ℕ)
  /-- A call on a command comes too early or too late. -/
  | refuse (i : ℕ) (call : Call)

def init (host : σ) : Joint σ := { host, commands := fun _ => { host } }

/-- The numbers of the registrations as a command sees them, its own one first. -/
def view (i : ℕ) : Equiv.Perm ℕ := Equiv.swap i own

/-- A command together with the host and the token. -/
def focus (s : Joint σ) (i : ℕ) : State σ :=
  { s.commands i with host := s.host, calls := s.calls.rename (view i) }

/-- Goes on with the token, and tells every command whose callback ran. -/
def setCalls (s : Joint σ) (calls : Calls.State) : Joint σ :=
  { s with
    calls
    commands := fun i =>
      { s.commands i with
        job := (s.commands i).job.map (Job.tell (calls.log.count i - s.calls.log.count i)) } }

/-- Goes on after a step of a command. -/
def setCommand (s : Joint σ) (i : ℕ) (c : State σ) : Joint σ :=
  let s := s.setCalls (c.calls.rename (view i))
  { s with host := c.host, commands := Function.update s.commands i c }

/-- Makes a step; nothing when whoever is to make it waits or is done. -/
def step (u : ℕ → Setup σ) (s : Joint σ) : Move σ → Option (Joint σ)
  | .others host => some { s with host }
  | .cancel n => (s.calls.stepCancel n).map s.setCalls
  | .command _ (.others _) | .command _ (.token _) => none
  | .command i turn => ((s.focus i).step (u i) turn).map (s.setCommand i)
  | .retry i =>
    match (s.commands i).start with
    | .returned (.error _) => some (s.setCommand i { s.focus i with start := .idle })
    | _ => none
  | .refuse i call => ((s.focus i).refuse (u i) call).map (s.setCommand i)

/-- Makes steps one after the other. -/
def run (u : ℕ → Setup σ) (s : Joint σ) (moves : List (Move σ)) : Option (Joint σ) :=
  moves.foldlM (step u) s

variable {us : ℕ → Setup σ} {s t : Joint σ}

@[simp] theorem run_nil : s.run us [] = some s := rfl

@[simp] theorem run_cons (m : Move σ) (moves : List (Move σ)) :
    s.run us (m :: moves) = (s.step us m).bind fun s => s.run us moves := rfl

/-! ### Views -/

theorem view_self (i : ℕ) : view i i = own := Equiv.swap_apply_left i own

theorem view_own (i : ℕ) : view i own = i := Equiv.swap_apply_right i own

theorem rename_view_view (calls : Calls.State) (i : ℕ) :
    (calls.rename (view i)).rename (view i) = calls := by
  have twice : (view i).trans (view i) = Equiv.refl ℕ := Equiv.swap_swap i own
  rw [Calls.State.rename_rename, twice, Calls.State.rename_refl]

/-- A step on the token is seen by every command, and is a step on its own registration for one of them. -/
theorem step_view {calls next : Calls.State} {m : Calls.Move} (made : calls.step m = some next) (i : ℕ) :
    (calls.rename (view i)).step (m.rename (view i)) = some (next.rename (view i)) := by
  rw [Calls.State.rename_step, made]
  rfl

theorem registrations_view (calls : Calls.State) (i : ℕ) :
    (calls.rename (view i)).registrations own = calls.registrations i := by
  rw [← view_self i, Calls.State.rename_registrations]

theorem count_log_view (calls : Calls.State) (i : ℕ) :
    (calls.rename (view i)).log.count own = calls.log.count i := by
  rw [← view_self i, Calls.State.count_log_rename]

/-- What a command is told is what it sees of the token. -/
theorem focus_setCalls (calls : Calls.State) (i : ℕ) :
    (s.setCalls calls).focus i = (s.focus i).setCalls (calls.rename (view i)) := by
  simp only [focus, setCalls, State.setCalls, count_log_view]

theorem setCommand_focus_self (i : ℕ) (c : State σ) : (s.setCommand i c).focus i = c := by
  simp only [focus, setCommand, setCalls, Function.update_self, rename_view_view]

theorem setCommand_focus_other {i j : ℕ} (other : j ≠ i) (c : State σ) :
    (s.setCommand i c).focus j =
      { (s.focus j).setCalls ((c.calls.rename (view i)).rename (view j)) with host := c.host } := by
  rw [← focus_setCalls]
  simp only [focus, setCommand, Function.update_of_ne other]

/-! ### What holds of the commands -/

/-- What holds of the commands of a token, whatever they and others do. -/
def Inv (us : ℕ → Setup σ) (s : Joint σ) : Prop := ∀ i, Sound (us i) (s.focus i)

theorem inv_init (host : σ) : Inv us (init host) := fun _ => sound_init host

/-- For any other command, a step is one of somebody else. -/
theorem isOwn_view {i j : ℕ} (other : j ≠ i) {m : Calls.Move} (mine : isOwn m) :
    isOwn ((m.rename (view i)).rename (view j)) = false := by
  have elsewhere : view j (view i own) ≠ own := by
    rw [view_own, ← view_self j]
    exact fun same => other ((view j).injective same).symm
  cases m with
  | cancel n => cases mine
  | register k | drop k =>
    cases eq_of_beq mine
    exact beq_false_of_ne elsewhere

theorem inv_setCommand {i : ℕ} {c : State σ} (inv : Inv us s) (sound : Sound (us i) c)
    (calls : c.calls = (s.focus i).calls ∨
      ∃ m, isOwn m ∧ (s.focus i).calls.step m = some c.calls) : Inv us (s.setCommand i c) := by
  intro j
  by_cases here : j = i
  · rw [here, setCommand_focus_self]
    exact sound
  rw [setCommand_focus_other here]
  refine sound_advance (.others c.host) ?_
  rcases calls with same | ⟨m, mine, made⟩
  · rw [same, show (s.focus i).calls = s.calls.rename (view i) from rfl, rename_view_view]
    exact (setCalls_self (s.focus j)).symm ▸ inv j
  · have seen := step_view made i
    rw [show (s.focus i).calls = s.calls.rename (view i) from rfl, rename_view_view] at seen
    exact sound_advance (.token _ _ (isOwn_view here mine) (step_view seen j)) (inv j)

theorem inv_step (inv : Inv us s) {m : Move σ} (h : s.step us m = some t) : Inv us t := by
  cases m with
  | others host =>
    cases h
    exact fun i => sound_advance (.others host) (inv i)
  | cancel n =>
    obtain ⟨calls, made, rfl⟩ := Option.map_eq_some_iff.mp h
    intro i
    rw [focus_setCalls]
    exact sound_advance (.token (.cancel n) _ rfl (step_view (m := .cancel n) made i)) (inv i)
  | command i turn =>
    have foreign (m : Calls.Move) : turn ≠ .token m := by rintro rfl; cases h
    obtain ⟨c, made, rfl⟩ : ∃ c, (s.focus i).step (us i) turn = some c ∧ s.setCommand i c = t := by
      cases turn with
      | others | token => cases h
      | _ => exact Option.map_eq_some_iff.mp h
    have advance := State.advance_of_step made
    exact inv_setCommand inv (sound_advance advance (inv i)) (calls_advance advance foreign)
  | retry i =>
    simp only [step] at h
    split at h
    case h_1 e failed =>
      cases h
      exact inv_setCommand inv (sound_retry (inv i) failed) (.inl rfl)
    case h_2 => cases h
  | refuse i call =>
    obtain ⟨c, refused, rfl⟩ := Option.map_eq_some_iff.mp h
    rw [State.refuse_eq refused]
    exact inv_setCommand inv (inv i) (.inl rfl)

theorem inv_run (inv : Inv us s) {moves : List (Move σ)} (h : s.run us moves = some t) : Inv us t := by
  induction moves generalizing s with
  | nil => cases h; exact inv
  | cons m moves ih =>
    rw [run_cons] at h
    obtain ⟨next, made, h⟩ := Option.bind_eq_some_iff.mp h
    exact ih (inv_step inv made) h

/-! ### The callbacks that wait -/

/-- The callback of a command waits from the step that registers it to the one that drops it. -/
def IsRegistered (us : ℕ → Setup σ) (s : Joint σ) (i : ℕ) : Prop :=
  (us i).hasToken ∧ (s.commands i).start.hasRegistered ∧ s.calls.registrations i ≠ .dropped

theorem calls_inv (inv : Inv us s) : Calls.Inv s.calls := by
  have same : s.calls.rename (view own) = s.calls := by
    rw [view, Equiv.swap_self, Calls.State.rename_refl]
  exact same ▸ (inv own).system.parts.calls

theorem isRegistered_iff (inv : Inv us s) (i : ℕ) :
    IsRegistered us s i ↔ (s.calls.registrations i).isKept := by
  obtain ⟨-, -, -, unregistered, registered, tokenless, -⟩ := (inv i).system.staged
  rw [show (s.focus i).calls.registrations own = _ from registrations_view s.calls i] at *
  constructor
  · rintro ⟨token, stage, undropped⟩
    exact (registered token stage).resolve_right undropped
  · intro kept
    refine ⟨?_, ?_, ?_⟩
    · by_contra none
      rw [tokenless (by simpa using none)] at kept
      cases kept
    · by_contra early
      rw [(unregistered (Bool.eq_false_iff.mpr early)).1] at kept
      cases kept
    · intro dropped
      rw [dropped] at kept
      cases kept

/-- As long as the token is not cancelled, a callback waits once if its registration is kept, and else not
at all. -/
theorem count_pending (inv : Calls.Inv s.calls) (down : s.calls.token.cancelled = false) (i : ℕ) :
    (s.calls.token.pending.map Prod.snd).count i = if (s.calls.registrations i).isKept then 1 else 0 := by
  have untaken : ¬ s.calls.Taken := by
    rintro ⟨n, taken⟩
    have up := inv.flag.up_of_hasRaised (Calls.Cancel.hasRaised_of_hasTaken taken)
    cases down.symm.trans up
  have silent : s.calls.log.count i = 0 := by
    rw [List.count_eq_zero]
    intro ran
    cases down.symm.trans (inv.flag.ran i ran)
  have allowed := inv.copies i
  rw [Calls.State.copies, Calls.owed_eq_nil untaken, silent, List.count_nil, add_zero, add_zero] at allowed
  cases stage : s.calls.registrations i with
  | dropped => exact List.count_eq_zero.mpr (Calls.not_waiting_of_dropped inv.naming stage)
  | _ => rw [stage] at allowed; exact allowed

/-- A step of a start that has not registered leaves the token as it was. -/
theorem token_of_start {i : ℕ} (h : s.step us (.command i .start) = some t)
    (unregistered : (t.commands i).start.hasRegistered = false) : t.calls.token = s.calls.token := by
  obtain ⟨c, made, rfl⟩ := Option.map_eq_some_iff.mp h
  have stage : ((s.setCommand i c).commands i).start = c.start :=
    congrArg State.start (Function.update_self ..)
  rw [stage] at unregistered
  have same : c.calls.token = (s.focus i).calls.token :=
    token_advance (State.advance_of_step made) unregistered
  have back := congrArg Calls.State.token (rename_view_view s.calls i)
  rw [← back]
  exact congrArg (Calls.renameToken (view i)) same

/-- The callbacks that wait on a token which was not cancelled are those of the commands that registered with
it and whose watcher did not drop the registration, each there once and under the id of its registration. A
start that has not registered, as one that fails never does, leaves them alone, and there is none of a
command whose wait has returned. -/
theorem callbacks_of_commands {host : σ} {moves : List (Move σ)} (h : (init host).run us moves = some s)
    (down : s.calls.token.cancelled = false) :
    (s.calls.token.pending.map Prod.snd).Nodup ∧
      (∀ i, i ∈ s.calls.token.pending.map Prod.snd ↔ IsRegistered us s i) ∧
      (∀ e ∈ s.calls.token.pending, (s.calls.registrations e.2).id? = some e.1) ∧
      (∀ i t, s.step us (.command i .start) = some t → (t.commands i).start.hasRegistered = false →
        t.calls.token = s.calls.token) ∧
      (∀ i result, (s.commands i).wait = .returned result →
        i ∉ s.calls.token.pending.map Prod.snd) := by
  have inv := inv_run (inv_init host) h
  have calls := calls_inv inv
  have waits (i : ℕ) : i ∈ s.calls.token.pending.map Prod.snd ↔ IsRegistered us s i := by
    rw [isRegistered_iff inv, ← List.count_pos_iff, count_pending calls down]
    split <;> simp_all
  refine ⟨?_, waits, calls.naming.entry, fun i t => token_of_start, ?_⟩
  · rw [List.nodup_iff_count_le_one]
    intro i
    rw [count_pending calls down]
    split <;> omega
  · intro i result returned
    rw [waits]
    rintro ⟨token, -, undropped⟩
    have dropped := (inv i).released token (by rw [show (s.focus i).wait = _ from returned]; rfl)
    exact undropped (registrations_view s.calls i ▸ dropped)

/-- Two commands overlap, and the start of a third one fails in between. When the first one was waited for, the
callback of the second one waits, and none of the others. -/
theorem callbacks_of_commands_overlapping :
    let refusing : Launchpad Unit := { granting with spawn := fun _ _ => .error .closed }
    let us : ℕ → Setup Unit := fun i => ⟨if i = 2 then refusing else granting, true, false, none⟩
    ∃ moves s, (init ()).run us moves = some s ∧ s.calls.token.cancelled = false ∧
      (s.commands 0).wait = .returned (.ok ⟨.code 0, false⟩) ∧
      (s.commands 2).start = .returned (.error .closed) ∧
      0 ∉ s.calls.token.pending.map Prod.snd ∧ 1 ∈ s.calls.token.pending.map Prod.snd ∧
      2 ∉ s.calls.token.pending.map Prod.snd := by
  intro refusing us
  let moves : List (Move Unit) := [List.replicate 7 (.command 0 .start),
    List.replicate 12 (.command 1 .start), List.replicate 5 (.command 2 .start),
    List.replicate 5 (.command 0 .start), [.command 0 .wait, .command 0 (.job (.leave (.code 0))),
    .command 0 (.job .ends)], List.replicate 5 (.command 0 (.job .reap)), [.command 0 (.job (.watch {}))],
    List.replicate 3 (.command 0 .unregister), List.replicate 2 (.command 0 .wait)].flatten
  have facts : ((init ()).run us moves).map (fun s => (s.calls.token.cancelled, (s.commands 0).wait,
      (s.commands 1).start, s.calls.registrations 1, (s.commands 2).start)) =
      some (false, .returned (.ok ⟨.code 0, false⟩), .returned (.ok ()), .held (some 0),
        .returned (.error .closed)) := by decide +kernel
  obtain ⟨s, run, facts⟩ := Option.map_eq_some_iff.mp facts
  obtain ⟨down, returned, started, held, failed⟩ : s.calls.token.cancelled = false ∧
    (s.commands 0).wait = .returned (.ok ⟨.code 0, false⟩) ∧ (s.commands 1).start = .returned (.ok ()) ∧
    s.calls.registrations 1 = .held (some 0) ∧
    (s.commands 2).start = .returned (.error .closed) := by simpa using facts
  obtain ⟨-, waits, -, -, gone⟩ := callbacks_of_commands run down
  refine ⟨moves, s, run, down, returned, failed, gone 0 _ returned, ?_, ?_⟩
  · exact (waits 1).mpr ⟨rfl, by rw [started]; rfl, by rw [held]; nofun⟩
  · rw [waits]
    rintro ⟨-, registered, -⟩
    rw [failed] at registered
    cases registered

end Joint

end PseudoTerminal.Coordination
