import PseudoTerminal.Proofs.Child.Signals

/-! How the end of a child is told to those who wait for it and to those who look at it now and then. All
hear the same, with one exception: a wait that wakes up to a death by a signal without a name fails,
although a look tells that death. It does not fail when the end was taken before it came to look, unless the
number went to another child that ends like that. -/

namespace PseudoTerminal.Child.Calls

variable {r : ℕ → Request} {s t : State} {m : Move} {i : ℕ}

/-- A wait wakes up to a death that it cannot read. -/
def Misread (r : ℕ → Request) (s : State) (moves : List Move) (i : ℕ) : Prop :=
  ∃ p a q u n, moves = p ++ .call i a :: q ∧ s.run r p = some u ∧ u.calls i = .blocking ∧
    u.number.bearer = .ended (.signal n) ∧ 31 < n

theorem returned_step {answer : Answer} (h : Change r s m t) (returned : s.calls i = .returned answer) :
    t.calls i = .returned answer := by
  cases own : m.isOf i with
  | false => rw [calls_step h own, returned]
  | true =>
    obtain ⟨a, rfl⟩ := Move.exists_of_isOf own
    cases h <;> simp_all

/-- A wait fails in no other way than by what it wakes up to. -/
theorem misread_of_failed {f : Fault} (h : Change r s m t) (inv : Inv r s) (asks : r i = .wait)
    (before : s.calls i ≠ .returned (.failed f)) (after : t.calls i = .returned (.failed f)) :
    ∃ a n, m = .call i a ∧ s.calls i = .blocking ∧ s.number.bearer = .ended (.signal n) ∧ 31 < n := by
  cases own : m.isOf i with
  | false => exact absurd (calls_step h own ▸ after) before
  | true =>
    obtain ⟨a, rfl⟩ := Move.exists_of_isOf own
    have sound := inv.sound i
    cases h with
    | start _ _ stage =>
      rw [State.setCall_self, asks] at after
      cases after
    | misread _ _ g stage ended =>
      obtain ⟨-, n, stands, high⟩ := unread_of_observe ended
      exact ⟨a, n, rfl, stage, stands, high⟩
    | wake | resume => rw [State.setCall_self] at after; cases after
    | lock => rw [State.proceed_self] at after; cases after
    | look _ _ e stage =>
      rw [stage] at sound
      rw [State.proceed_self] at after
      cases e with
      | send signal => cases asks ▸ sound.1
      | _ => cases ended : s.fate <;> rw [ended] at after <;> cases after
    | group _ _ signal next stage | alone _ _ signal answer stage =>
      rw [stage] at sound
      cases asks ▸ sound.1
    | decide _ _ deadline found stage =>
      rw [stage] at sound
      obtain ⟨d, timed⟩ := sound.1
      cases asks.symm.trans timed

/-- What a wait comes to that wakes up to a death that it cannot read. -/
theorem failed_of_misread (inv : Inv r s) {moves : List Move} (h : s.run r moves = some t)
    (misread : Misread r s moves i) : t.calls i = .returned (.failed .invalidArgument) := by
  obtain ⟨p, a, q, u, n, rfl, before, stage, stands, high⟩ := misread
  rw [State.run_append, before, Option.bind_some, State.run_cons] at h
  obtain ⟨v, made, after⟩ := Option.bind_eq_some_iff.mp h
  have start := inv_run inv before
  have fails : v.calls i = .returned (.failed .invalidArgument) := by
    have unread : ¬n ≤ 31 := by omega
    simp only [State.step, State.stepCall, stage, stands, observe, if_neg unread] at made
    cases made
    simp
  exact (run_induction (fun _ kept change => returned_step change kept) (inv_step start made) fails
    after).2

theorem misread_run {f : Fault} (inv : Inv r s) (asks : r i = .wait)
    (before : s.calls i ≠ .returned (.failed f)) {moves : List Move} (h : s.run r moves = some t)
    (after : t.calls i = .returned (.failed f)) : Misread r s moves i := by
  induction moves generalizing s with
  | nil => cases h; exact absurd after before
  | cons m moves ih =>
    rw [State.run_cons] at h
    obtain ⟨u, made, h⟩ := Option.bind_eq_some_iff.mp h
    by_cases here : u.calls i = .returned (.failed f)
    · obtain ⟨a, n, rfl, stage, stands, high⟩ :=
        misread_of_failed (change_of_step inv.remembers (unstuck inv) made) inv asks before here
      exact ⟨[], a, moves, s, n, rfl, rfl, stage, stands, high⟩
    · obtain ⟨p, a, q, v, n, rfl, run, rest⟩ := ih (inv_step inv made) here h
      refine ⟨m :: p, a, q, v, n, rfl, ?_, rest⟩
      rw [State.run_cons, made]
      exact run

/-- The end that is told is the end of the child. -/
theorem ends_of_fate {kind : ExitKind} (inv : Inv r s) (alive : s.fate = none) {moves : List Move}
    (h : s.run r moves = some t) (ended : t.fate = some kind) : .ends kind ∈ moves := by
  induction moves generalizing s with
  | nil => cases h; rw [alive] at ended; cases ended
  | cons m moves ih =>
    rw [State.run_cons] at h
    obtain ⟨u, made, h⟩ := Option.bind_eq_some_iff.mp h
    have change := change_of_step inv.remembers (unstuck inv) made
    have next := inv_step inv made
    cases fate : u.fate with
    | none => exact List.mem_cons_of_mem _ (ih next fate h)
    | some other =>
      obtain rfl : other = kind := by
        have kept := (run_induction (fun inv kept change => fate_step change inv.remembers kept) next
          fate h).2
        exact Option.some.inj (kept.symm.trans ended)
      have unknown : s.handle.known = none := (Option.or_eq_none_iff.mp alive).1
      refine List.mem_cons.mpr (.inl ?_)
      cases change with
      | ends kind running =>
        simp only [State.fate, unknown, Standing.end?, Option.none_or, Option.some.injEq] at fate
        rw [fate]
      | look i a e stage => cases alive.symm.trans (s.fate_looked.symm.trans fate)
      | _ => cases alive.symm.trans fate

/-- A wait answers how the child ended, as everybody else hears it, unless it woke up to a death that it
cannot read; then it fails. As soon as the number belongs to nobody who runs, nothing but the lock holds it
up. -/
theorem wait_agrees_iff {pid : ℕ} {moves : List Move}
    (h : State.run r { handle := { pid } } moves = some t) :
    (∀ i answer, r i = .wait → t.calls i = .returned answer →
      (Misread r { handle := { pid } } moves i → answer = .failed .invalidArgument) ∧
      (¬Misread r { handle := { pid } } moves i → ∃ kind, answer = .ended kind ∧ t.fate = some kind)) ∧
      (∀ i kind, t.calls i = .returned (.ended kind) → t.fate = some kind) ∧
      (∀ kind, t.fate = some kind → .ends kind ∈ moves ∧
        ∀ a, (t.handle.tryWait (custody a) t.number).1 = .ok (some kind)) ∧
      ∀ i, r i = .wait →
        (t.number.bearer ≠ .running → (t.calls i).isReturned = false →
          ∃ j, (j = i ∨ t.lock = some j) ∧ ∀ a, (t.step r (.call j a)).isSome) ∧
        moves.countP (Move.isOf i) ≤ 5 := by
  have start := inv_init (r := r) pid
  have inv := inv_run start h
  have tells (i : ℕ) (kind : ExitKind) (ended : t.calls i = .returned (.ended kind)) :
      t.fate = some kind := by
    have sound := inv.sound i
    rw [ended] at sound
    rw [State.fate, sound.2.1 kind rfl, Option.some_or]
  refine ⟨fun i answer asks returned => ⟨fun misread => ?_, fun read => ?_⟩, tells, ?_, ?_⟩
  · have failed := failed_of_misread start h misread
    rw [returned] at failed
    cases failed
    rfl
  · have sound := inv.sound i
    rw [returned] at sound
    have fits := sound.1
    rw [asks] at fits
    cases answer with
    | ended kind => exact ⟨kind, rfl, tells i kind returned⟩
    | running => rcases fits with other | ⟨d, other⟩ <;> cases other
    | sent => cases fits
    | failed f => exact absurd (misread_run start asks (by rintro ⟨⟩) h returned) read
  · intro kind ended
    refine ⟨ends_of_fate start rfl h ended, fun a => ?_⟩
    rw [State.tryWait_eq inv.remembers, ended]
  · intro i asks
    have untimed (d : ℕ) : r i ≠ .waitWithin d := by rw [asks]; rintro ⟨⟩
    refine ⟨fun ended unreturned => not_held_up inv untimed unreturned fun _ => ended, ?_⟩
    have bound := rank_run start untimed h
    exact le_trans (Nat.le_add_left _ _) bound

/-- A child dies by the first real-time signal. The wait that sleeps at that time fails, a look tells the
death, and a wait that comes after the look tells it too. -/
theorem wait_agrees_iff_realtime :
    ∃ (r : ℕ → Request) (moves : List Move) (t : State),
      State.run r { handle := { pid := 100 } } moves = some t ∧ r 0 = .wait ∧ r 1 = .tryWait ∧
      r 2 = .wait ∧ t.calls 0 = .returned (.failed .invalidArgument) ∧
      t.calls 1 = .returned (.ended (.signal 34)) ∧ t.calls 2 = t.calls 1 := by
  let r (i : ℕ) : Request := [.wait, .tryWait].getD i .wait
  let moves : List Move := [[.call 0 {}, .ends (.signal 34), .call 0 {}], List.replicate 3 (.call 1 {}),
    List.replicate 4 (.call 2 {})].flatten
  have facts : (State.run r { handle := { pid := 100 } } moves).map (fun t =>
      ((t.calls 0).isReturned, t.calls 1, t.calls 2)) =
      some (true, .returned (.ended (.signal 34)), .returned (.ended (.signal 34))) := by decide
  obtain ⟨t, run, facts⟩ := Option.map_eq_some_iff.mp facts
  obtain ⟨zero, one, two⟩ : (t.calls 0).isReturned ∧ t.calls 1 = .returned (.ended (.signal 34)) ∧
    t.calls 2 = .returned (.ended (.signal 34)) := by simpa using facts
  have misread : Misread r { handle := { pid := 100 } } moves 0 := by
    have stands : (State.run r { handle := { pid := 100 } } (moves.take 2)).map (fun u =>
        (u.calls 0, u.number.bearer)) = some (.blocking, .ended (.signal 34)) := by decide
    obtain ⟨u, before, facts⟩ := Option.map_eq_some_iff.mp stands
    obtain ⟨sleeps, dead⟩ : u.calls 0 = .blocking ∧ u.number.bearer = .ended (.signal 34) := by
      simpa using facts
    exact ⟨moves.take 2, {}, moves.drop 3, u, 34, rfl, before, sleeps, dead, by decide⟩
  refine ⟨r, moves, t, run, rfl, rfl, rfl, ?_, one, two.trans one.symm⟩
  cases stage : t.calls 0 with
  | returned answer => rw [((wait_agrees_iff run).1 0 answer rfl stage).1 misread]
  | _ => rw [stage] at zero; cases zero

end PseudoTerminal.Child.Calls
