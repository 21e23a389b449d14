import PseudoTerminal.Proofs.Coordination.StartupInvariants

/-! A cancellation reaches the watcher of a started command, whatever comes between: a token that is
cancelled before the start keeps the child from being made, and one that is cancelled during the start
or after it tells the watcher once, unless the watcher was at its end already. -/

namespace PseudoTerminal.Coordination

open Cancellation

variable {σ : Type} {u : Setup σ} {s t : State σ} {turn : Turn σ}

/-! ### A start on a cancelled token -/

/-- The token is cancelled, and the start did not get past its look at it. -/
def Barred (s : State σ) : Prop :=
  s.calls.token.cancelled ∧ s.job = none ∧
    (s.start = .idle ∨ s.start = .opened ∨ ∃ e, s.start = .returned (.error e))

theorem barred_advance (token : u.hasToken) (h : Advance u s turn t) (inv : Barred s) : Barred t := by
  obtain ⟨up, none, stage⟩ := inv
  cases h with
  | token m calls other made =>
    have := Calls.cancelled_step (Calls.change_of_step made) up
    exact ⟨this, by simp [setCalls_job, none], stage⟩
  | unregister calls token finished made =>
    have := Calls.cancelled_step (Calls.change_of_stepDrop made) up
    exact ⟨this, by simp [setCalls_job, none], stage⟩
  | fail e host before more => exact ⟨up, none, .inr (.inr ⟨e, rfl⟩)⟩
  | enter stage => exact ⟨up, none, .inr (.inl rfl)⟩
  | _ => grind [Barred]

/-! ### A start is not held up -/

/-- Somebody else is at the waiting callbacks, and can go on. -/
def Held (u : Setup σ) (s : State σ) : Prop :=
  ∃ holder, s.calls.lock = some holder ∧ (s.step u (.token (holder.move s.calls))).isSome

theorem held_of_lock (inv : Calls.Exclusion s.calls) (lock : s.calls.lock ≠ none)
    (outside : (s.calls.registrations own).isLocked = false) : Held u s := by
  obtain ⟨holder, lock⟩ := Option.ne_none_iff_exists'.mp lock
  refine ⟨holder, lock, ?_⟩
  have other : isOwn (holder.move s.calls) = false := by
    cases holder with
    | cancel i => rfl
    | registration k =>
      have ne : k ≠ own := by
        rintro rfl
        rw [(inv.registration own).mp lock] at outside
        cases outside
      simp only [Calls.Holder.move]
      split <;> simpa [isOwn] using ne
  have next := Calls.holder_step inv lock
  simpa [State.step, other] using next

/-- A start in progress can go on, unless somebody else is at the waiting callbacks. -/
theorem start_not_stuck (inv : SystemInv u s) (h : s.start.isInProgress) :
    (s.step u .start).isSome ∨ Held u s := by
  cases stage : s.start with
  | attached pid =>
    obtain ⟨kept, dropped⟩ := inv.staged.unregistered (by rw [stage]; rfl)
    cases made : s.calls.stepRegister own with
    | none =>
      obtain ⟨called, lock⟩ := Calls.stepRegister_eq_none made kept dropped
      by_cases token : u.hasToken
      · right
        exact held_of_lock inv.parts.calls.exclusion lock (by rw [called]; rfl)
      · left
        simp [State.step, State.stepStart, stage, token]
    | some calls =>
      left
      simp only [State.step, State.stepStart, stage, made]
      split <;> rfl
  | idle | returned => simp [stage, Start.isInProgress] at h
  | _ =>
    left
    simp only [State.step, State.stepStart, stage]
    grind

/-! ### A start that returned -/

/-- The watcher came to its end because it was told of the child's. -/
def EndedByExit (j : Job) : Prop :=
  j.watcher.isFinished ∧ j.record.fate.isSome ∧ ∃ result, .exited result ∈ j.heard

theorem sent_le_one (inv : SystemInv u s) {j : Job} (has : s.job = some j) : j.sent ≤ 1 := by
  rw [inv.staged.sent j has]
  exact Calls.count_log_le inv.parts.calls own

theorem endedByExit {j : Job} (inv : Inv j) (finished : j.watcher.isFinished)
    (silent : j.sent = 0) : EndedByExit j := by
  have unheard : .cancelled ∉ j.heard := by
    intro among
    have : 0 < j.heard.countP Notice.isCancelled :=
      List.countP_pos_iff.mpr ⟨.cancelled, among, rfl⟩
    rw [Job.sent] at silent
    omega
  obtain ⟨outcome, stage⟩ : ∃ outcome, j.watcher = .finished outcome := by
    cases stage : j.watcher <;> simp_all [Watcher.isFinished]
  rcases inv.hearing.finished outcome stage with ⟨result, among, -⟩ | ⟨cancelled, -⟩
  · exact ⟨finished, (inv.reports.heard result among).isSome, result, among⟩
  · exact absurd (inv.hearing.cancelled.mp cancelled) unheard

/-- When the token is cancelled and nobody is at it, the watcher of a started command was told. -/
theorem sent_of_quiet (inv : SystemInv u s) (token : u.hasToken)
    (started : s.start = .returned (.ok ())) (up : s.calls.token.cancelled)
    (quiet : ∀ i, (s.calls.cancels i).inProgress = false) {j : Job} (has : s.job = some j) :
    j.sent = 1 ∨ j.sent = 0 ∧ EndedByExit j := by
  rcases inv.staged.registered token (by rw [started]; rfl) with kept | dropped
  · left
    rw [inv.staged.sent j has]
    exact Calls.count_log_eq_one inv.parts.calls up quiet kept
  · have finished : j.watcher.isFinished := by
      obtain ⟨k, had, finished⟩ := isFinished_iff.mp (inv.ending.dropped (by rw [dropped]; rfl))
      rw [has] at had
      cases had
      exact finished
    have := sent_le_one inv has
    rcases Nat.le_one_iff_eq_zero_or_eq_one.mp this with silent | told
    · exact .inr ⟨silent, endedByExit (inv.parts.job j has) finished silent⟩
    · exact .inl told

/-- Calls of `cancel` are made by others. -/
theorem cancels_run {turns : List (Turn σ)} (h : s.run u turns = some t) (i : ℕ)
    (other : ∀ turn ∈ turns, turn ≠ .token (.cancel i)) :
    t.calls.cancels i = s.calls.cancels i := by
  refine State.run_induction (P := fun t => t.calls.cancels i = s.calls.cancels i) ?_ h rfl
  intro s t turn among same advance
  rw [← same]
  cases advance with
  | token m calls foreign made =>
    cases m with
    | cancel l => exact Calls.cancels_stepCancel made fun eq => other _ among (by rw [eq])
    | register l => exact congrFun (Calls.cancels_stepRegister made) i
    | drop l => exact congrFun (Calls.cancels_stepDrop made) i
  | register pid calls stage token made => exact congrFun (Calls.cancels_stepRegister made) i
  | unregister calls token finished made => exact congrFun (Calls.cancels_stepDrop made) i
  | _ => rfl

/-- No cancellation is lost around a start. Between `s`, any state of a command with a token, and `t`, any
later one: a start that fails leaves no child; it fails when the token was cancelled before it began;
it is held up by nothing but somebody at the waiting callbacks who can go on; and once it returned and
the token is cancelled with no call in progress, the watcher was told once, unless it was at its end
because the child was. The watcher is never told twice. -/
theorem cancellation_delivered (token : u.hasToken) {host : σ} {p q : List (Turn σ)}
    (before : State.run u { host } p = some s) (after : s.run u q = some t) :
    (∀ e, t.start = .returned (.error e) → t.job = none) ∧
      (s.start = .idle → s.calls.token.cancelled →
        t.job = none ∧ ∀ result, t.start = .returned result → ∃ e, result = .error e) ∧
      (t.start.isInProgress → (t.step u .start).isSome ∨ Held u t) ∧
      (t.start = .returned (.ok ()) → ∃ j, t.job = some j ∧
        (t.calls.token.cancelled → (∀ i, (t.calls.cancels i).inProgress = false) →
          j.sent = 1 ∨ j.sent = 0 ∧ EndedByExit j)) ∧
      ∀ j, t.job = some j → j.sent ≤ 1 := by
  have whole : State.run u { host } (p ++ q) = some t := by
    rw [State.run_append, before]
    exact after
  have inv := systemInv_run whole
  refine ⟨?_, ?_, start_not_stuck inv, ?_, fun j => sent_le_one inv⟩
  · intro e failed
    have := inv.staged.job
    rw [failed] at this
    exact Option.isSome_eq_false_iff.mp this |> Option.isNone_iff_eq_none.mp
  · intro idle up
    have none : s.job = none := by
      have := (systemInv_run before).staged.job
      rw [idle] at this
      simpa [Start.hasChild] using this
    have barred : Barred t := State.run_induction
      (fun _ _ _ _ inv advance => barred_advance token advance inv) after ⟨up, none, .inl idle⟩
    refine ⟨barred.2.1, ?_⟩
    intro result returned
    rcases barred.2.2 with stage | stage | ⟨e, stage⟩ <;> rw [returned] at stage <;> cases stage
    exact ⟨e, rfl⟩
  · intro started
    obtain ⟨j, has⟩ := (exists_job_iff inv).mpr (by rw [started]; rfl)
    exact ⟨j, has, fun up quiet => sent_of_quiet inv token started up quiet has⟩

/-- A host that grants whatever a start wants. -/
def granting : Launchpad Unit where
  isClosed _ := false
  isCancelled _ := false
  resolve _ := .ok []
  acquire := some
  release := id
  spawn _ _ := .ok (7, ())

/-- The flag goes up after the start looked at it and before it registered. -/
theorem cancellation_delivered_between :
    ∃ s t, State.run ⟨granting, true, false, none⟩ { host := () } (List.replicate 2 .start) = some s ∧
      s.run ⟨granting, true, false, none⟩ ([List.replicate 2 (.token (.cancel 0)),
        List.replicate 10 .start, List.replicate 3 (.token (.cancel 0))].flatten) = some t ∧
      t.calls.token.cancelled ∧
      ∃ j, t.job = some j ∧ (j.sent = 1 ∨ j.sent = 0 ∧ EndedByExit j) := by
  let u : Setup Unit := ⟨granting, true, false, none⟩
  let s : State Unit := { host := (), start := .wanted }
  let q : List (Turn Unit) := [List.replicate 2 (.token (.cancel 0)), List.replicate 10 .start,
    List.replicate 3 (.token (.cancel 0))].flatten
  have facts : (s.run u q).map (fun t => (t.start, t.calls.token.cancelled, t.calls.cancels 0)) =
      some (.returned (.ok ()), true, .fired) := by decide +kernel
  obtain ⟨t, after, facts⟩ := Option.map_eq_some_iff.mp facts
  obtain ⟨started, up, fired⟩ : t.start = .returned (.ok ()) ∧ t.calls.token.cancelled ∧
    t.calls.cancels 0 = .fired := by simpa using facts
  have quiet (i : ℕ) : (t.calls.cancels i).inProgress = false := by
    by_cases zero : i = 0
    · rw [zero, fired]; rfl
    · have := cancels_run after i (by simp [q, List.replicate, Ne.symm zero])
      rw [this]; rfl
  obtain ⟨j, has, told⟩ :=
    (cancellation_delivered (u := u) (p := List.replicate 2 .start) rfl rfl after).2.2.2.1 started
  exact ⟨s, t, rfl, after, up, j, has, told up quiet⟩

end PseudoTerminal.Coordination
