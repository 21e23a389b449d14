import PseudoTerminal.Proofs.Cancellation.Calls

/-! Where a callback is while calls on its token overlap. The call that raised the flag is the winner;
a callback of a registration that was made and not dropped is at one place: it waits, the winner is to
run it, or it ran. When the winner took the waiting callbacks, no registration is past its look at a
flag that was down, so none is added afterwards. -/

namespace PseudoTerminal.Cancellation.Calls

variable {s t : State}

namespace State

/-- The callbacks that the winner took and did not run yet. -/
def owed (s : State) : List ℕ :=
  match s.winner with
  | none => []
  | some i => (s.cancels i).owed

/-- The copies of a callback: waiting, to be run, and run. -/
def copies (s : State) (k : ℕ) : ℕ :=
  (s.token.pending.map Prod.snd).count k + s.owed.count k + s.log.count k

end State

/-- Whether there may be so many copies of a callback whose registration has come so far. -/
def Registration.Allows : Registration → ℕ → Prop
  | held _, n | dropping _, n | removing _, n => n = 1
  | dropped, n => n ≤ 1
  | _, n => n = 0

/-- The lock has one holder, who is inside of it. -/
structure Exclusion (s : State) : Prop where
  cancel : ∀ i, s.lock = some (.cancel i) ↔ s.cancels i = .locked
  registration : ∀ k, s.lock = some (.registration k) ↔ (s.registrations k).isLocked

/-- Every waiting callback is there under the id of its registration, which no other one has. -/
structure Naming (s : State) : Prop where
  entry : ∀ e ∈ s.token.pending, (s.registrations e.2).id? = some e.1
  bound : ∀ k id, (s.registrations k).id? = some id → id < s.token.nextId
  unique : ∀ k l id,
    (s.registrations k).id? = some id → (s.registrations l).id? = some id → k = l

/-- The flag is up when there is a winner, and whoever acts on it being up does so rightly. -/
structure Flag (s : State) : Prop where
  raised : ∀ i, (s.cancels i).hasRaised ↔ s.winner = some i
  up : s.token.cancelled ↔ s.winner.isSome
  late : ∀ k, s.registrations k = .late → s.token.cancelled
  ran : ∀ k ∈ s.log, s.token.cancelled

/-- Once the waiting callbacks were taken, none waits, and no registration is about to add one. -/
structure Emptied (s : State) : Prop where
  pending : ∀ i, (s.cancels i).hasTaken → s.token.pending = []
  clear : ∀ i, (s.cancels i).hasTaken → ∀ k, s.registrations k ≠ .clear

/-- What holds whenever no call is inside of a step. -/
structure Inv (s : State) : Prop where
  exclusion : Exclusion s
  naming : Naming s
  flag : Flag s
  emptied : Emptied s
  copies : ∀ k, (s.registrations k).Allows (s.copies k)

/-! ### The lock and the ids -/

/-- A change of one call that a property does not see changes it of none. -/
theorem cancels_setCancel {α : Type} (f : Cancel → α) {i : ℕ} {c : Cancel}
    (same : f c = f (s.cancels i)) (j : ℕ) : f ((s.setCancel i c).cancels j) = f (s.cancels j) := by
  by_cases here : j = i
  · rw [State.setCancel_cancels, if_pos here, here, same]
  · rw [State.setCancel_cancels, if_neg here]

theorem registrations_setRegistration {α : Type} (f : Registration → α) {k : ℕ} {r : Registration}
    (same : f r = f (s.registrations k)) (l : ℕ) :
    f ((s.setRegistration k r).registrations l) = f (s.registrations l) := by
  by_cases here : l = k
  · rw [State.setRegistration_registrations, if_pos here, here, same]
  · rw [State.setRegistration_registrations, if_neg here]

def Cancel.isLocked : Cancel → Bool
  | locked => true
  | _ => false

theorem Cancel.isLocked_iff {c : Cancel} : c.isLocked ↔ c = .locked := by
  cases c <;> simp [isLocked]

/-- A step that neither takes the lock nor gives it back. -/
theorem Exclusion.of_same (inv : Exclusion s) (lock : t.lock = s.lock)
    (cancels : ∀ i, (t.cancels i).isLocked = (s.cancels i).isLocked)
    (registrations : ∀ k, (t.registrations k).isLocked = (s.registrations k).isLocked) :
    Exclusion t where
  cancel i := by
    rw [lock, ← Cancel.isLocked_iff, cancels, Cancel.isLocked_iff]
    exact inv.cancel i
  registration k := by
    rw [lock, registrations]
    exact inv.registration k

theorem exclusion_step (h : Change s t) (inv : Exclusion s) : Exclusion t := by
  cases h with
  | call i stage | refuse i stage | raise i stage | fire i k rest stage | finish i stage =>
    exact inv.of_same rfl (cancels_setCancel Cancel.isLocked (by rw [stage]; rfl)) fun _ => rfl
  | callRegister k stage | inTime k stage | runLate k stage | callDrop k id stage
  | dropNothing k stage =>
    exact inv.of_same rfl (fun _ => rfl)
      (registrations_setRegistration Registration.isLocked (by rw [stage]; rfl))
  | lock i stage free | take i stage =>
    have cancel := inv.cancel
    have registration := inv.registration
    constructor <;> grind
  | lockRegister k stage free | lockDrop k id stage free | tooLate k stage | enlist k stage
  | remove k id stage =>
    have cancel := inv.cancel
    have registration := inv.registration
    constructor <;> grind [Registration.isLocked]

/-- A step that adds no callback and removes none. -/
theorem Naming.of_same (inv : Naming s) (pending : t.token.pending = s.token.pending)
    (next : t.token.nextId = s.token.nextId)
    (ids : ∀ k, (t.registrations k).id? = (s.registrations k).id?) : Naming t where
  entry e among := by
    rw [ids]
    exact inv.entry e (pending ▸ among)
  bound k id has := by
    rw [next]
    exact inv.bound k id (ids k ▸ has)
  unique k l id has also := inv.unique k l id (ids k ▸ has) (ids l ▸ also)

theorem naming_enlist {k : ℕ} (stage : s.registrations k = .clear) (inv : Naming s) :
    Naming ({ s with token := (s.token.enlist k).2, lock := none }.setRegistration k
      (.held (some (s.token.enlist k).1))) := by
  have own {l id : ℕ} (has : (if l = k then Registration.held (some s.token.nextId)
      else s.registrations l).id? = some id) : l = k ∧ id = s.token.nextId ∨
      l ≠ k ∧ (s.registrations l).id? = some id := by
    by_cases here : l = k
    · rw [if_pos here] at has
      cases has
      exact .inl ⟨here, rfl⟩
    · rw [if_neg here] at has
      exact .inr ⟨here, has⟩
  constructor
  · intro e among
    rw [State.setRegistration_registrations]
    rcases List.mem_append.mp among with before | last
    · have has := inv.entry e before
      have other : e.2 ≠ k := by
        rintro rfl
        rw [stage] at has
        cases has
      rw [if_neg other]
      exact has
    · cases List.mem_singleton.mp last
      rw [if_pos rfl]
      rfl
  · intro l id has
    rw [State.setRegistration_registrations] at has
    show id < s.token.nextId + 1
    rcases own has with ⟨-, rfl⟩ | ⟨-, has⟩
    · omega
    · have := inv.bound l id has
      omega
  · intro l m id has also
    rw [State.setRegistration_registrations] at has also
    rcases own has with ⟨atl, fresh⟩ | ⟨-, old⟩ <;> rcases own also with ⟨atm, fresh'⟩ | ⟨-, old'⟩
    · rw [atl, atm]
    · have := inv.bound m id old'
      omega
    · have := inv.bound l id old
      omega
    · exact inv.unique l m id old old'

theorem naming_remove {k id : ℕ} (stage : s.registrations k = .removing id) (inv : Naming s) :
    Naming ({ s with token := s.token.unregister id, lock := none }.setRegistration k .dropped) := by
  have own : (s.registrations k).id? = some id := by rw [stage]; rfl
  have other {l id' : ℕ} (has : (if l = k then Registration.dropped else s.registrations l).id? =
      some id') : (s.registrations l).id? = some id' := by
    by_cases here : l = k
    · rw [if_pos here] at has
      cases has
    · rwa [if_neg here] at has
  constructor
  · intro e among
    obtain ⟨before, kept⟩ := List.mem_filter.mp among
    have has := inv.entry e before
    rw [State.setRegistration_registrations, if_neg]
    · exact has
    · rintro here
      rw [here, own] at has
      cases has
      simp at kept
  · intro l id' has
    rw [State.setRegistration_registrations] at has
    exact inv.bound l id' (other has)
  · intro l m id' has also
    rw [State.setRegistration_registrations] at has also
    exact inv.unique l m id' (other has) (other also)

theorem naming_step (h : Change s t) (inv : Naming s) : Naming t := by
  cases h with
  | take => exact ⟨nofun, inv.bound, inv.unique⟩
  | enlist k stage => exact naming_enlist stage inv
  | remove k id stage => exact naming_remove stage inv
  | callRegister k stage | lockRegister k stage | tooLate k stage | inTime k stage | runLate k stage
  | callDrop k id stage | dropNothing k stage | lockDrop k id stage =>
    exact inv.of_same rfl rfl (registrations_setRegistration Registration.id? (by rw [stage]; rfl))
  | _ => exact inv.of_same rfl rfl fun _ => rfl

/-! ### The flag -/

/-- A step after which nobody else raised the flag, and after which a callback that ran or is to be run
on account of it could be before. -/
theorem Flag.of_same (inv : Flag s) (flag : t.token.cancelled = s.token.cancelled)
    (winner : t.winner = s.winner) (raised : ∀ i, (t.cancels i).hasRaised = (s.cancels i).hasRaised)
    (late : ∀ k, t.registrations k = .late → s.registrations k = .late ∨ s.token.cancelled)
    (ran : ∀ k ∈ t.log, k ∈ s.log ∨ s.token.cancelled) : Flag t where
  raised i := by
    rw [raised, winner]
    exact inv.raised i
  up := by
    rw [flag, winner]
    exact inv.up
  late k stage := by
    rw [flag]
    exact (late k stage).elim (inv.late k) id
  ran k among := by
    rw [flag]
    exact (ran k among).elim (inv.ran k) id

/-- Whoever raised the flag left it up. -/
theorem Flag.up_of_hasRaised (inv : Flag s) {i : ℕ} (raised : (s.cancels i).hasRaised) :
    s.token.cancelled := by
  rw [inv.up, (inv.raised i).mp raised]
  rfl

theorem late_setRegistration {k : ℕ} {r : Registration} (other : r ≠ .late) (l : ℕ)
    (late : (s.setRegistration k r).registrations l = .late) : s.registrations l = .late := by
  by_cases here : l = k
  · rw [State.setRegistration_registrations, if_pos here] at late
    exact absurd late other
  · rwa [State.setRegistration_registrations, if_neg here] at late

theorem flag_raise {i : ℕ} (down : s.token.cancelled = false) (inv : Flag s) :
    Flag ({ s with token := s.token.raise, winner := some i }.setCancel i .raised) := by
  have nobody (j : ℕ) : (s.cancels j).hasRaised = false := by
    cases raised : (s.cancels j).hasRaised with
    | false => rfl
    | true => rw [inv.up_of_hasRaised raised] at down; cases down
  refine ⟨?_, by simp [Token.raise], fun _ _ => rfl, fun _ _ => rfl⟩
  intro j
  rw [State.setCancel_cancels, State.setCancel_winner]
  by_cases here : j = i
  · simp [here, Cancel.hasRaised]
  · simp [here, nobody j, Ne.symm here]

theorem flag_step (h : Change s t) (inv : Flag s) : Flag t := by
  have raised {u : State} {i : ℕ} {c : Cancel} (same : c.hasRaised = (u.cancels i).hasRaised) :=
    cancels_setCancel (s := u) Cancel.hasRaised same
  have late {u : State} {k : ℕ} {r : Registration} (other : r ≠ .late) (l : ℕ)
      (late : (u.setRegistration k r).registrations l = .late) :
      u.registrations l = .late ∨ s.token.cancelled := .inl (late_setRegistration other l late)
  cases h with
  | raise i stage down => exact flag_raise down inv
  | call i stage | refuse i stage | lock i stage | take i stage | finish i stage =>
    exact inv.of_same rfl rfl (raised (by rw [stage]; rfl)) (fun _ => .inl) fun _ => .inl
  | fire i k rest stage =>
    have up := inv.up_of_hasRaised (i := i) (by rw [stage]; rfl)
    exact inv.of_same rfl rfl (raised (by rw [stage]; rfl)) (fun _ => .inl) fun _ _ => .inr up
  | tooLate k stage up =>
    exact inv.of_same rfl rfl (fun _ => rfl) (fun _ _ => .inr up) fun _ => .inl
  | runLate k stage =>
    exact inv.of_same rfl rfl (fun _ => rfl) (late nofun) fun _ _ => .inr (inv.late k stage)
  | callRegister | lockRegister | inTime | enlist | callDrop | dropNothing | lockDrop | remove =>
    exact inv.of_same rfl rfl (fun _ => rfl) (late nofun) fun _ => .inl

theorem Cancel.hasRaised_of_hasTaken {c : Cancel} (h : c.hasTaken) : c.hasRaised := by
  cases c with
  | firing | fired => rfl
  | _ => cases h

/-! ### The waiting callbacks -/

/-- A step that takes no callbacks and adds none, and brings no registration past its look. -/
theorem Emptied.of_same (inv : Emptied s) (taken : ∀ i, (t.cancels i).hasTaken = (s.cancels i).hasTaken)
    (pending : s.token.pending = [] → t.token.pending = [])
    (clear : ∀ k, t.registrations k = .clear → s.registrations k = .clear) : Emptied t where
  pending i has := pending (inv.pending i (taken i ▸ has))
  clear i has k stage := inv.clear i (taken i ▸ has) k (clear k stage)

theorem clear_setRegistration {k : ℕ} {r : Registration} (other : r ≠ .clear) (l : ℕ)
    (clear : (s.setRegistration k r).registrations l = .clear) : s.registrations l = .clear := by
  by_cases here : l = k
  · rw [State.setRegistration_registrations, if_pos here] at clear
    exact absurd clear other
  · rwa [State.setRegistration_registrations, if_neg here] at clear

theorem emptied_step (h : Change s t) (exclusion : Exclusion s) (flag : Flag s) (inv : Emptied s) :
    Emptied t := by
  cases h with
  | take i stage =>
    -- a registration past its look holds the lock, as this call does
    refine ⟨fun _ _ => rfl, ?_⟩
    intro _ _ k clear
    have registration := (exclusion.registration k).mpr (by
      rw [show s.registrations k = .clear from clear]; rfl)
    rw [(exclusion.cancel i).mpr stage] at registration
    cases registration
  | inTime k stage down =>
    have nobody (i : ℕ) : (s.cancels i).hasTaken = false := by
      cases taken : (s.cancels i).hasTaken with
      | false => rfl
      | true =>
        have up := flag.up_of_hasRaised (Cancel.hasRaised_of_hasTaken taken)
        rw [up] at down
        cases down
    constructor
    · intro i taken
      rw [State.setRegistration_cancels, nobody i] at taken
      cases taken
    · intro i taken
      rw [State.setRegistration_cancels, nobody i] at taken
      cases taken
  | enlist k stage =>
    constructor
    · exact fun i taken => absurd stage (inv.clear i taken k)
    · exact fun i taken => absurd stage (inv.clear i taken k)
  | remove k id stage =>
    refine inv.of_same (fun _ => rfl) ?_ (clear_setRegistration nofun)
    intro empty
    simp [Token.unregister, empty]
  | call i stage | refuse i stage | raise i stage | lock i stage | fire i k rest stage
  | finish i stage =>
    exact inv.of_same (cancels_setCancel Cancel.hasTaken (by rw [stage]; rfl)) id fun _ => id
  | callRegister | lockRegister | tooLate | runLate | callDrop | dropNothing | lockDrop =>
    exact inv.of_same (fun _ => rfl) id (clear_setRegistration nofun)

/-- Removing the callback under an id leaves the other callbacks waiting. -/
theorem count_unregister {token : Token ℕ} {id j : ℕ}
    (other : ∀ e ∈ token.pending, e.1 = id → e.2 ≠ j) :
    ((token.unregister id).pending.map Prod.snd).count j = (token.pending.map Prod.snd).count j := by
  simp only [Token.unregister, List.count_eq_countP, List.countP_map, List.countP_filter]
  refine List.countP_congr fun e he => ?_
  have := other e he
  grind

theorem count_unregister_le (token : Token ℕ) (id j : ℕ) :
    ((token.unregister id).pending.map Prod.snd).count j ≤
      (token.pending.map Prod.snd).count j :=
  (List.filter_sublist.map Prod.snd).count_le j

theorem copies_raise (i j : ℕ) (winner : s.winner = none) :
    ({ s with token := s.token.raise, winner := some i }.setCancel i .raised).copies j =
      s.copies j := by
  simp [State.copies, State.owed, Token.raise, Cancel.owed, winner]

theorem copies_take (i j : ℕ) (stage : s.cancels i = .locked) (winner : s.winner = some i) :
    ({ s with token := s.token.take.2, lock := none }.setCancel i
      (.firing s.token.take.1)).copies j = s.copies j := by
  simp [State.copies, State.owed, Token.take, Cancel.owed, winner, stage]

theorem copies_fire (i j k : ℕ) (rest : List ℕ) (stage : s.cancels i = .firing (k :: rest))
    (winner : s.winner = some i) :
    ({ s with log := k :: s.log }.setCancel i (.firing rest)).copies j = s.copies j := by
  simp only [State.copies, State.owed, winner, State.setCancel_cancels, if_true, stage, Cancel.owed,
    State.setCancel_token, State.setCancel_log, State.setCancel_winner, List.count_cons]
  omega

theorem copies_enlist (j k : ℕ) (r : Registration) :
    ({ s with token := (s.token.enlist k).2, lock := none }.setRegistration k r).copies j =
      s.copies j + if j = k then 1 else 0 := by
  simp [State.copies, State.owed, Token.enlist, List.count_cons, @eq_comm _ j k]
  omega

theorem copies_runLate (j k : ℕ) (r : Registration) :
    ({ s with log := k :: s.log }.setRegistration k r).copies j =
      s.copies j + if j = k then 1 else 0 := by
  simp [State.copies, State.owed, List.count_cons, @eq_comm _ j k]
  omega

theorem copies_step (h : Change s t) (naming : Naming s) (flag : Flag s)
    (inv : ∀ k, (s.registrations k).Allows (s.copies k)) (j : ℕ) :
    (t.registrations j).Allows (t.copies j) := by
  have := inv j
  cases h with
  | raise i stage down =>
    have winner : s.winner = none := by
      have := flag.up
      cases h : s.winner <;> simp_all
    rw [copies_raise i j winner]
    exact inv j
  | take i stage =>
    have winner := (flag.raised i).mp (by rw [stage]; rfl)
    rw [copies_take i j stage winner]
    exact inv j
  | fire i k rest stage =>
    have winner := (flag.raised i).mp (by rw [stage]; rfl)
    rw [copies_fire i j k rest stage winner]
    exact inv j
  | enlist k stage =>
    rw [copies_enlist]
    grind [Registration.Allows]
  | runLate k stage =>
    rw [copies_runLate]
    grind [Registration.Allows]
  | remove k id stage =>
    by_cases same : j = k
    · have := count_unregister_le s.token id j
      grind [State.owed, State.copies, Registration.Allows]
    · have : ∀ e ∈ s.token.pending, e.1 = id → e.2 ≠ j := by
        rintro e he rfl rfl
        exact same (naming.unique e.2 k e.1 (naming.entry e he) (by rw [stage]; rfl))
      have := count_unregister this
      grind [State.owed, State.copies]
  | _ => grind [State.owed, State.copies, Registration.Allows, Cancel.owed]

theorem inv_step (h : Change s t) (inv : Inv s) : Inv t where
  exclusion := exclusion_step h inv.exclusion
  naming := naming_step h inv.naming
  flag := flag_step h inv.flag
  emptied := emptied_step h inv.exclusion inv.flag inv.emptied
  copies := copies_step h inv.naming inv.flag inv.copies

theorem inv_init : Inv {} := by
  refine ⟨⟨?_, ?_⟩, ⟨?_, ?_, ?_⟩, ⟨?_, ?_, ?_, ?_⟩, ⟨?_, ?_⟩, ?_⟩ <;>
    simp [Registration.isLocked, Registration.id?, Registration.Allows, Cancel.hasRaised,
      Cancel.hasTaken, State.copies, State.owed]

/-- Whatever the order of the steps of any calls. -/
theorem inv_run {moves : List Move} (h : State.run {} moves = some s) : Inv s :=
  run_induction (fun _ _ inv change => inv_step change inv) h inv_init

/-! ### What becomes of a callback -/

/-- The flag is never lowered. -/
theorem cancelled_step (h : Change s t) (up : s.token.cancelled) : t.token.cancelled := by
  cases h with
  | raise => rfl
  | _ => exact up

theorem Registration.Allows.le_one {r : Registration} {n : ℕ} (h : r.Allows n) : n ≤ 1 := by
  cases r <;> simp only [Allows] at h <;> omega

theorem count_log_le_copies (k : ℕ) : s.log.count k ≤ s.copies k := Nat.le_add_left _ _

/-- A callback runs at most once. -/
theorem count_log_le (inv : Inv s) (k : ℕ) : s.log.count k ≤ 1 :=
  (count_log_le_copies k).trans (inv.copies k).le_one

/-- A callback whose registration was not made yet did not run. -/
theorem count_log_eq_zero (inv : Inv s) {k : ℕ} (kept : (s.registrations k).isKept = false)
    (dropped : s.registrations k ≠ .dropped) : s.log.count k = 0 := by
  have allowed := inv.copies k
  have le := count_log_le_copies (s := s) k
  cases stage : s.registrations k <;>
    simp_all only [Registration.Allows, Registration.isKept, Nat.le_zero, Bool.true_eq_false, ne_eq,
      not_true_eq_false]

/-- When the token is cancelled and nobody is at it, the winner is through. -/
theorem winner_fired (inv : Inv s) (up : s.token.cancelled)
    (quiet : ∀ i, (s.cancels i).inProgress = false) :
    ∃ i, s.winner = some i ∧ s.cancels i = .fired := by
  obtain ⟨i, winner⟩ := Option.isSome_iff_exists.mp (inv.flag.up.mp up)
  refine ⟨i, winner, ?_⟩
  have raised := (inv.flag.raised i).mpr winner
  have through := quiet i
  cases stage : s.cancels i <;> simp_all [Cancel.hasRaised, Cancel.inProgress]

/-- Then every callback whose registration is kept ran once. -/
theorem count_log_eq_one (inv : Inv s) (up : s.token.cancelled)
    (quiet : ∀ i, (s.cancels i).inProgress = false) {k : ℕ} (kept : (s.registrations k).isKept) :
    s.log.count k = 1 := by
  obtain ⟨i, winner, stage⟩ := winner_fired inv up quiet
  have pending := inv.emptied.pending i (by rw [stage]; rfl)
  have owed : s.owed = [] := by simp [State.owed, winner, stage, Cancel.owed]
  have copies : s.copies k = s.log.count k := by simp [State.copies, pending, owed]
  have allowed := inv.copies k
  rw [copies] at allowed
  cases stage : s.registrations k <;> simp_all [Registration.Allows, Registration.isKept]

/-! ### What a step leaves alone -/

theorem registrations_stepCancel {i : ℕ} (h : s.stepCancel i = some t) :
    t.registrations = s.registrations := by
  unfold State.stepCancel at h
  grind

theorem registrations_stepRegister {k l : ℕ} (h : s.stepRegister k = some t) (other : l ≠ k) :
    t.registrations l = s.registrations l := by
  unfold State.stepRegister at h
  grind

theorem registrations_stepDrop {k l : ℕ} (h : s.stepDrop k = some t) (other : l ≠ k) :
    t.registrations l = s.registrations l := by
  unfold State.stepDrop at h
  grind

theorem cancels_stepCancel {i l : ℕ} (h : s.stepCancel i = some t) (other : l ≠ i) :
    t.cancels l = s.cancels l := by
  unfold State.stepCancel at h
  grind

theorem cancels_stepRegister {k : ℕ} (h : s.stepRegister k = some t) : t.cancels = s.cancels := by
  unfold State.stepRegister at h
  grind

theorem cancels_stepDrop {k : ℕ} (h : s.stepDrop k = some t) : t.cancels = s.cancels := by
  unfold State.stepDrop at h
  grind

/-- A call that registers ends when its registration is held. -/
theorem stepRegister_isKept {k : ℕ} (h : s.stepRegister k = some t) :
    (t.registrations k).isKept = (t.registrations k).isHeld ∧
      (t.registrations k).isDropped = false := by
  unfold State.stepRegister at h
  grind [Registration.isKept, Registration.isHeld, Registration.isDropped]

/-- The token is the same until the registration is held. -/
theorem token_stepRegister {k : ℕ} (h : s.stepRegister k = some t)
    (unheld : (t.registrations k).isHeld = false) : t.token = s.token := by
  unfold State.stepRegister at h
  grind [Registration.isHeld]

/-- Only a registration that was made is dropped. -/
theorem stepDrop_isKept {k : ℕ} (h : s.stepDrop k = some t) :
    (s.registrations k).isKept ∧
      ((t.registrations k).isKept ∨ t.registrations k = .dropped) := by
  unfold State.stepDrop at h
  grind [Registration.isKept]

theorem count_log_le_step (h : Change s t) (k : ℕ) : s.log.count k ≤ t.log.count k := by
  cases h with
  | fire | runLate => exact (List.sublist_cons_self _ _).count_le k
  | _ => exact le_rfl

/-! ### The lock -/

/-- The next step of whoever holds the lock. -/
def Holder.move (s : State) : Holder → Move
  | cancel i => .cancel i
  | registration k =>
    match s.registrations k with
    | .removing _ => .drop k
    | _ => .register k

/-- Whoever holds the lock can go on. -/
theorem holder_step (inv : Exclusion s) {holder : Holder} (h : s.lock = some holder) :
    (s.step (holder.move s)).isSome := by
  cases holder with
  | cancel i =>
    have stage := (inv.cancel i).mp h
    simp [Holder.move, State.step, State.stepCancel, stage]
  | registration k =>
    have locked := (inv.registration k).mp h
    cases stage : s.registrations k with
    | locked =>
      simp only [Holder.move, State.step, State.stepRegister, stage]
      split <;> rfl
    | clear => simp [Holder.move, State.step, State.stepRegister, stage]
    | removing id => simp [Holder.move, State.step, State.stepDrop, stage]
    | _ => simp [stage, Registration.isLocked] at locked

/-- A call that registers waits for nothing but the lock. -/
theorem stepRegister_eq_none {k : ℕ} (h : s.stepRegister k = none)
    (kept : (s.registrations k).isKept = false) (dropped : s.registrations k ≠ .dropped) :
    s.registrations k = .called ∧ s.lock ≠ none := by
  cases stage : s.registrations k with
  | called =>
    refine ⟨rfl, ?_⟩
    rintro free
    simp [State.stepRegister, stage, free] at h
  | dropped => exact absurd stage dropped
  | held | dropping | removing => simp [stage, Registration.isKept] at kept
  | _ => grind [State.stepRegister]

/-- A drop waits for nothing but the lock. -/
theorem stepDrop_eq_none {k : ℕ} (h : s.stepDrop k = none) (kept : (s.registrations k).isKept) :
    (∃ id, s.registrations k = .dropping (some id)) ∧ s.lock ≠ none := by
  cases stage : s.registrations k with
  | dropping id =>
    cases id with
    | none => simp [State.stepDrop, stage] at h
    | some id =>
      refine ⟨⟨id, rfl⟩, ?_⟩
      rintro free
      simp [State.stepDrop, stage, free] at h
  | held | removing => simp [State.stepDrop, stage] at h
  | _ => simp [stage, Registration.isKept] at kept

end PseudoTerminal.Cancellation.Calls
