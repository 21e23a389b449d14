import PseudoTerminal.Proofs.Cancellation.Accounting

/-! What becomes of every callback that was ever registered with a token, whatever the order in which
the steps of the calls come. A callback is withdrawn when it waited and its registration was dropped
before the winner took the waiting ones. Those never run; every other one has run once as soon as the
token is cancelled and no call is in progress. -/

namespace PseudoTerminal.Cancellation.Calls

variable {s t : State} {k : ℕ}

/-- Whether a call that registers or a drop is in progress. -/
def Registration.inProgress : Registration → Bool
  | called | locked | clear | late | dropping _ | removing _ => true
  | _ => false

namespace State

/-- No call is in progress. -/
def Quiet (s : State) : Prop :=
  (∀ i, (s.cancels i).inProgress = false) ∧ ∀ k, (s.registrations k).inProgress = false

/-- Some call has taken the waiting callbacks. -/
def Taken (s : State) : Prop := ∃ i, (s.cancels i).hasTaken

end State

/-- In the course of the moves the callback waited, and its registration was dropped before the waiting
callbacks were taken. -/
def Withdrawn (moves : List Move) (k : ℕ) : Prop :=
  ∃ p q r u v, moves = p ++ q ++ r ∧ State.run {} p = some u ∧ u.run q = some v ∧
    k ∈ u.token.pending.map Prod.snd ∧ v.registrations k = .dropped ∧ ¬v.Taken

theorem Withdrawn.append {p : List Move} (h : Withdrawn p k) (q : List Move) :
    Withdrawn (p ++ q) k := by
  obtain ⟨p₁, p₂, r, u, v, rfl, early, later, waits, dropped, untaken⟩ := h
  exact ⟨p₁, p₂, r ++ q, u, v, by simp only [List.append_assoc], early, later, waits, dropped, untaken⟩

/-! ### What stays for good -/

theorem taken_step (h : Change s t) (taken : s.Taken) : t.Taken := by
  obtain ⟨i, taken⟩ := taken
  refine ⟨i, ?_⟩
  cases h with
  | call j stage | refuse j stage | raise j stage | lock j stage | fire j k rest stage
  | finish j stage =>
    rw [cancels_setCancel Cancel.hasTaken (by rw [stage]; rfl)]
    exact taken
  | take j stage =>
    rw [State.setCancel_cancels]
    split
    · rfl
    · exact taken
  | _ => exact taken

theorem dropped_step (h : Change s t) (dropped : s.registrations k = .dropped) :
    t.registrations k = .dropped := by
  cases h <;> grind

theorem copies_setCancel {i : ℕ} {c : Cancel} (same : c.owed = (s.cancels i).owed) :
    (s.setCancel i c).copies k = s.copies k := by
  have owed : (s.setCancel i c).owed = s.owed := by
    cases winner : s.winner with
    | none => simp [State.owed, winner]
    | some j => simpa [State.owed, winner] using cancels_setCancel Cancel.owed same j
  rw [State.copies, owed]
  rfl

/-- The copies of a callback change only with a step of its registration. -/
theorem copies_step_eq (h : Change s t) (naming : Naming s) (flag : Flag s)
    (same : t.registrations k = s.registrations k) : t.copies k = s.copies k := by
  cases h with
  | raise i stage down =>
    refine copies_raise i k ?_
    have := flag.up
    cases winner : s.winner <;> simp_all
  | take i stage => exact copies_take i k stage ((flag.raised i).mp (by rw [stage]; rfl))
  | fire i l rest stage =>
    exact copies_fire i k l rest stage ((flag.raised i).mp (by rw [stage]; rfl))
  | enlist l stage =>
    have other : k ≠ l := by rintro rfl; simp [stage] at same
    rw [copies_enlist, if_neg other, Nat.add_zero]
  | runLate l stage =>
    have other : k ≠ l := by rintro rfl; simp [stage] at same
    rw [copies_runLate, if_neg other, Nat.add_zero]
  | remove l id stage =>
    have other : k ≠ l := by rintro rfl; simp [stage] at same
    have : ∀ e ∈ s.token.pending, e.1 = id → e.2 ≠ k := by
      rintro e among rfl rfl
      exact other (naming.unique e.2 l e.1 (naming.entry e among) (by rw [stage]; rfl))
    simp only [State.copies, State.setRegistration_token, count_unregister this]
    rfl
  | call i stage | refuse i stage | lock i stage | finish i stage =>
    exact copies_setCancel (by rw [stage]; rfl)
  | _ => rfl

/-! ### Callbacks that wait -/

/-- Until the waiting callbacks are taken, that of every registration with an id is among them. -/
def Waiting (s : State) : Prop :=
  ¬s.Taken → ∀ k id, (s.registrations k).id? = some id → (id, k) ∈ s.token.pending

theorem waiting_step (h : Change s t) (naming : Naming s) (inv : Waiting s) : Waiting t := by
  intro untaken k id has
  replace inv := inv (fun taken => untaken (taken_step h taken)) k id
  cases h with
  | take i stage => exact absurd ⟨i, by simp [Cancel.hasTaken]⟩ untaken
  | enlist l stage =>
    rw [State.setRegistration_registrations] at has
    split at has
    case isTrue here =>
      cases has
      rw [here]
      exact List.mem_append_right _ List.mem_cons_self
    case isFalse => exact List.mem_append_left _ (inv has)
  | remove l id' stage =>
    rw [State.setRegistration_registrations] at has
    split at has
    case isTrue => cases has
    case isFalse other =>
      refine List.mem_filter.mpr ⟨inv has, ?_⟩
      have : id ≠ id' := by
        rintro rfl
        exact other (naming.unique k l id has (by rw [stage]; rfl))
      simpa using this
  | callRegister l stage | lockRegister l stage | tooLate l stage | inTime l stage | runLate l stage
  | callDrop l id' stage | dropNothing l stage | lockDrop l id' stage =>
    rw [registrations_setRegistration Registration.id? (by rw [stage]; rfl)] at has
    exact inv has
  | _ => exact inv has

theorem waiting_run {moves : List Move} (h : State.run {} moves = some s) : Waiting s :=
  (run_induction (P := fun s => Inv s ∧ Waiting s)
    (fun _ _ inv change => ⟨inv_step change inv.1, waiting_step change inv.1.naming inv.2⟩) h
    ⟨inv_init, by simp [Waiting, Registration.id?]⟩).2

/-! ### Callbacks that were withdrawn -/

theorem owed_eq_nil (untaken : ¬s.Taken) : s.owed = [] := by
  unfold State.owed
  cases winner : s.winner with
  | none => rfl
  | some i =>
    cases stage : s.cancels i with
    | firing => exact absurd ⟨i, by rw [stage]; rfl⟩ untaken
    | _ => simp [stage, Cancel.owed]

theorem not_waiting_of_dropped (naming : Naming s) (dropped : s.registrations k = .dropped) :
    k ∉ s.token.pending.map Prod.snd := by
  intro waits
  obtain ⟨e, among, rfl⟩ := List.mem_map.mp waits
  have := naming.entry e among
  rw [dropped] at this
  cases this

/-- The callback did not run, and cannot before the waiting ones are taken. -/
def Unfired (k : ℕ) (s : State) : Prop :=
  k ∉ s.log ∧ ((s.registrations k).isKept ∨ s.registrations k = .dropped)

theorem unfired_of_waiting (inv : Inv s) (waits : k ∈ s.token.pending.map Prod.snd) : Unfired k s := by
  have once := (inv.copies k).le_one
  have : 0 < (s.token.pending.map Prod.snd).count k := List.count_pos_iff.mpr waits
  refine ⟨?_, ?_⟩
  · rw [← List.count_eq_zero]
    unfold State.copies at once
    omega
  · obtain ⟨e, among, rfl⟩ := List.mem_map.mp waits
    have has := inv.naming.entry e among
    left
    cases stage : s.registrations e.2 <;> simp_all [Registration.id?, Registration.isKept]

theorem unfired_step (h : Change s t) (inv : s.Taken ∨ Unfired k s) : t.Taken ∨ Unfired k t := by
  rcases inv with taken | ⟨silent, stage⟩
  · exact .inl (taken_step h taken)
  cases h with
  | fire i l rest firing => exact .inl ⟨i, by simp [Cancel.hasTaken]⟩
  | runLate l late =>
    have other : k ≠ l := by
      rintro rfl
      simp [late, Registration.isKept] at stage
    refine .inr ⟨?_, by simpa [other] using stage⟩
    simpa [other] using silent
  | _ => exact .inr ⟨silent, by grind [Registration.isKept]⟩

/-- The registration was dropped, and no copy of the callback is left. -/
def Discarded (k : ℕ) (s : State) : Prop := s.registrations k = .dropped ∧ s.copies k = 0

theorem discarded_step (h : Change s t) (inv : Inv s) (discarded : Discarded k s) : Discarded k t := by
  have stays := dropped_step h discarded.1
  have same := copies_step_eq h inv.naming inv.flag (stays.trans discarded.1.symm)
  exact ⟨stays, same.trans discarded.2⟩

/-- A withdrawn callback is gone, at every later time. -/
theorem discarded_of_withdrawn {moves : List Move} (h : State.run {} moves = some t)
    (withdrawn : Withdrawn moves k) : Discarded k t := by
  obtain ⟨p, q, r, u, v, rfl, early, later, waits, dropped, untaken⟩ := withdrawn
  have invU := inv_run early
  have invV : Inv v := run_induction (fun _ _ inv change => inv_step change inv) later invU
  have silent : k ∉ v.log := by
    have := run_induction (P := fun s => s.Taken ∨ Unfired k s)
      (fun _ _ inv change => unfired_step change inv) later (.inr (unfired_of_waiting invU waits))
    exact (this.resolve_left untaken).1
  have gone : Discarded k v := by
    refine ⟨dropped, ?_⟩
    rw [State.copies, owed_eq_nil untaken,
      List.count_eq_zero.mpr (not_waiting_of_dropped invV.naming dropped), List.count_eq_zero.mpr silent]
    rfl
  have rest : v.run r = some t := by
    rw [State.run_append, State.run_append, early, Option.bind_some, later] at h
    exact h
  exact (run_induction (P := fun s => Inv s ∧ Discarded k s)
    (fun _ _ inv change => ⟨inv_step change inv.1, discarded_step change inv.1 inv.2⟩) rest
    ⟨invV, gone⟩).2

theorem not_mem_log_of_withdrawn {moves : List Move} (h : State.run {} moves = some t)
    (withdrawn : Withdrawn moves k) : k ∉ t.log := by
  have none := (discarded_of_withdrawn h withdrawn).2
  have := count_log_le_copies (s := t) k
  rw [← List.count_eq_zero]
  omega

/-! ### All others -/

/-- The step that drops a registration removes the only copy of a callback that waits, and leaves alone
that of any other one. -/
theorem copies_of_dropping (h : Change s t) (inv : Inv s) (waiting : Waiting s)
    (before : s.registrations k ≠ .dropped) (after : t.registrations k = .dropped) :
    k ∈ s.token.pending.map Prod.snd ∧ ¬t.Taken ∨ t.copies k = 1 := by
  have allowed := inv.copies k
  cases h with
  | dropNothing l stage =>
    have here : k = l := by by_contra other; simp [other] at after; exact before after
    rw [here, stage] at allowed
    exact .inr (here ▸ allowed)
  | remove l id stage =>
    have here : k = l := by by_contra other; simp [other] at after; exact before after
    subst here
    rw [stage] at allowed
    by_cases taken : s.Taken
    · right
      obtain ⟨i, taken⟩ := taken
      have empty := inv.emptied.pending i taken
      simpa [State.copies, State.owed, Token.unregister, empty, Registration.Allows] using allowed
    · left
      exact ⟨List.mem_map.mpr ⟨_, waiting taken k id (by rw [stage]; rfl), rfl⟩, taken⟩
  | _ => grind

/-- A registration that was dropped had its callback withdrawn, or left a copy of it. -/
theorem withdrawn_or_copies_eq_one {moves : List Move} (h : State.run {} moves = some t)
    (dropped : t.registrations k = .dropped) : Withdrawn moves k ∨ t.copies k = 1 := by
  induction moves using List.reverseRecOn generalizing t with
  | nil => cases h; cases dropped
  | append_singleton p m ih =>
    have whole := h
    rw [State.run_append, Option.bind_eq_some_iff] at h
    obtain ⟨s, early, last⟩ := h
    have change : Change s t := change_of_step (m := m) (by simpa using last)
    have inv := inv_run early
    by_cases before : s.registrations k = .dropped
    · rcases ih early before with withdrawn | one
      · exact .inl (withdrawn.append [m])
      · right
        rw [copies_step_eq change inv.naming inv.flag (dropped.trans before.symm)]
        exact one
    · rcases copies_of_dropping change inv (waiting_run early) before dropped with
        ⟨waits, untaken⟩ | one
      · exact .inl ⟨p, [m], [], s, t, by simp, early, last, waits, dropped, untaken⟩
      · exact .inr one

/-- With the token cancelled and nobody at it, the copies of a callback are the times it ran. -/
theorem copies_eq_count_log (inv : Inv s) (up : s.token.cancelled)
    (quiet : ∀ i, (s.cancels i).inProgress = false) (k : ℕ) : s.copies k = s.log.count k := by
  obtain ⟨i, winner, stage⟩ := winner_fired inv up quiet
  have pending := inv.emptied.pending i (by rw [stage]; rfl)
  simp [State.copies, State.owed, pending, winner, stage, Cancel.owed]

theorem count_log_of_not_withdrawn {moves : List Move} (h : State.run {} moves = some s)
    (up : s.token.cancelled) (quiet : s.Quiet) (registered : s.registrations k ≠ .idle)
    (kept : ¬Withdrawn moves k) : s.log.count k = 1 := by
  have inv := inv_run h
  have through := quiet.2 k
  cases stage : s.registrations k with
  | idle => exact absurd stage registered
  | held id => exact count_log_eq_one inv up quiet.1 (by rw [stage]; rfl)
  | dropped =>
    rw [← copies_eq_count_log inv up quiet.1]
    exact (withdrawn_or_copies_eq_one h stage).resolve_left kept
  | _ => rw [stage] at through; cases through

/-- Each id took a step of its own, so a counter that wraps lasts for as many steps as it has values. -/
theorem nextId_le_length {moves : List Move} (h : State.run {} moves = some s) :
    s.token.nextId ≤ moves.length := by
  induction moves using List.reverseRecOn generalizing s with
  | nil => cases h; rfl
  | append_singleton p m ih =>
    rw [State.run_append, Option.bind_eq_some_iff] at h
    obtain ⟨u, early, last⟩ := h
    have change : Change u s := change_of_step (m := m) (by simpa using last)
    have before := ih early
    rw [List.length_append, List.length_singleton]
    cases change with
    | enlist => exact Nat.add_le_add_right before 1
    | _ => exact before.trans (Nat.le_succ _)

/-- Between `s`, any state, and `t`, any later one: a cancelled token stays cancelled; a callback runs at
most once; once the waiting callbacks were taken none ever waits; a withdrawn callback never runs; and
when `s` is cancelled with no call in progress, every other callback that was registered has run
once. -/
theorem callbacks_accounted {p q : List Move} (before : State.run {} p = some s)
    (after : s.run q = some t) :
    (s.token.cancelled → t.token.cancelled) ∧
      (∀ k, t.log.count k ≤ 1) ∧
      (s.Taken → t.token.pending = []) ∧
      (∀ k, Withdrawn p k → k ∉ t.log) ∧
      (s.token.cancelled → s.Quiet →
        ∀ k, s.registrations k ≠ .idle → ¬Withdrawn p k → s.log.count k = 1) := by
  have whole : State.run {} (p ++ q) = some t := by
    rw [State.run_append, before]
    exact after
  have inv := inv_run whole
  refine ⟨?_, count_log_le inv, ?_, ?_, ?_⟩
  · exact run_induction (P := fun s => s.token.cancelled)
      (fun _ _ up change => cancelled_step change up) after
  · intro taken
    obtain ⟨i, taken⟩ := run_induction (fun _ _ taken change => taken_step change taken) after taken
    exact inv.emptied.pending i taken
  · exact fun k withdrawn => not_mem_log_of_withdrawn whole (withdrawn.append q)
  · exact fun up quiet k registered kept => count_log_of_not_withdrawn before up quiet registered kept

/-- A call that makes no step stays where it is. -/
theorem untouched_run {moves : List Move} (h : s.run moves = some t) :
    (∀ i, .cancel i ∉ moves → t.cancels i = s.cancels i) ∧
      ∀ k, .register k ∉ moves → .drop k ∉ moves → t.registrations k = s.registrations k := by
  induction moves generalizing s with
  | nil => cases h; exact ⟨fun _ _ => rfl, fun _ _ _ => rfl⟩
  | cons m moves ih =>
    rw [State.run_cons] at h
    obtain ⟨u, made, h⟩ := Option.bind_eq_some_iff.mp h
    obtain ⟨cancels, registrations⟩ := ih h
    simp only [List.mem_cons, not_or]
    refine ⟨fun i out => (cancels i out.2).trans ?_,
      fun k out out' => (registrations k out.2 out'.2).trans ?_⟩
    · cases m with
      | cancel j => exact cancels_stepCancel made (by rintro rfl; exact out.1 rfl)
      | register l => exact congrFun (cancels_stepRegister made) i
      | drop l => exact congrFun (cancels_stepDrop made) i
    · cases m with
      | cancel j => exact congrFun (registrations_stepCancel made) k
      | register l => exact registrations_stepRegister made (by rintro rfl; exact out.1 rfl)
      | drop l => exact registrations_stepDrop made (by rintro rfl; exact out'.1 rfl)

/-- The first callback is withdrawn, the second waits until it is run, and the third comes too late to
wait. -/
theorem callbacks_accounted_each :
    ∃ p q r s, State.run {} (p ++ q ++ r) = some s ∧ s.token.cancelled ∧ s.Quiet ∧
      Withdrawn (p ++ q) 0 ∧ 0 ∉ s.log ∧ s.log.count 1 = 1 ∧ s.log.count 2 = 1 := by
  let p : List Move := List.replicate 4 (.register 0)
  let q : List Move := List.replicate 3 (.drop 0)
  let r : List Move := [List.replicate 4 (.register 1), List.replicate 2 (.cancel 0),
    List.replicate 4 (.register 2), List.replicate 4 (.cancel 0)].flatten
  have facts : (State.run {} (p ++ q ++ r)).map (fun s => (s.token.cancelled, s.cancels 0,
      s.registrations 0, s.registrations 1, s.registrations 2)) =
      some (true, .fired, .dropped, .held (some 1), .held none) := by decide +kernel
  obtain ⟨s, run, facts⟩ := Option.map_eq_some_iff.mp facts
  obtain ⟨up, fired, zero, one, two⟩ : s.token.cancelled ∧ s.cancels 0 = .fired ∧
    s.registrations 0 = .dropped ∧ s.registrations 1 = .held (some 1) ∧
    s.registrations 2 = .held none := by simpa using facts
  have quiet : s.Quiet := by
    obtain ⟨cancels, registrations⟩ := untouched_run run
    constructor
    · intro i
      by_cases here : i = 0
      · rw [here, fired]; rfl
      · rw [cancels i (by simp [p, q, r, here])]; rfl
    · intro k
      by_cases here : k < 3
      · interval_cases k
        · rw [zero]; rfl
        · rw [one]; rfl
        · rw [two]; rfl
      · rw [registrations k (by simp [p, q, r]; omega) (by simp [p, q, r]; omega)]; rfl
  have kept {k : ℕ} (stage : s.registrations k ≠ .dropped) : ¬Withdrawn (p ++ q ++ r) k :=
    fun withdrawn => stage (discarded_of_withdrawn run withdrawn).1
  have withdrawn : Withdrawn (p ++ q) 0 := by
    have : (State.run {} p).map (fun u => u.token.pending) = some [(0, 0)] := by decide
    obtain ⟨u, early, waits⟩ := Option.map_eq_some_iff.mp this
    have : (State.run {} (p ++ q)).map (fun v => (v.registrations 0)) = some .dropped := by decide
    obtain ⟨v, later, dropped⟩ := Option.map_eq_some_iff.mp this
    refine ⟨p, q, [], u, v, by simp, early, ?_, by simp [waits], dropped, ?_⟩
    · rw [State.run_append, early] at later
      exact later
    · rintro ⟨i, taken⟩
      rw [(untouched_run later).1 i (by simp [p, q])] at taken
      cases taken
  obtain ⟨-, -, -, silent, once⟩ := callbacks_accounted (q := []) run rfl
  refine ⟨p, q, r, s, run, up, quiet, withdrawn, ?_, ?_, ?_⟩
  · exact silent 0 (withdrawn.append r)
  · exact once up quiet 1 (by simp [one]) (kept (by simp [one]))
  · exact once up quiet 2 (by simp [two]) (kept (by simp [two]))

end PseudoTerminal.Cancellation.Calls
