import PseudoTerminal.Proofs.Child.Reaping

/-! Signals to a child whose end was told. Whoever was told that the child has ended or is done knows
that its end was taken. From then on every signal is refused and the host is not asked for any. A call
gets to its answer in few steps, and nobody keeps the lock from it for good. -/

namespace PseudoTerminal.Child.Calls

variable {r : ℕ → Request} {s t : State} {m : Move} {i : ℕ}

/-! ### Progress -/

/-- The steps that a call without a deadline has left, at most. -/
def Call.rank : Call → ℕ
  | idle => 5
  | wanting (.send _) => 4
  | blocking | holding (.send _) => 3
  | wanting _ | group _ => 2
  | holding _ | alone _ => 1
  | _ => 0

theorem rank_own {a : Replies} (h : Change r s (.call i a) t) (inv : Inv r s)
    (untimed : ∀ d, r i ≠ .waitWithin d) : (t.calls i).rank < (s.calls i).rank := by
  have sound := inv.sound i
  cases h with
  | start _ _ stage =>
    rw [State.setCall_self, stage]
    cases r i <;> simp [Request.start, Call.rank]
  | wake _ _ stage | misread _ _ _ stage =>
    rw [State.setCall_self, stage]
    simp [Call.rank]
  | lock _ _ e stage =>
    rw [State.proceed_self, stage]
    cases e <;> exact Nat.lt_succ_self _
  | look _ _ e stage =>
    rw [stage] at sound
    rw [State.proceed_self, stage]
    cases e with
    | lookUntil deadline =>
      obtain ⟨d, timed⟩ := sound.1
      exact absurd timed (untimed d)
    | send signal => cases s.fate <;> simp [Errand.next, Call.rank]
    | _ => cases s.fate <;> exact Nat.succ_pos _
  | group _ _ signal next stage after =>
    rw [State.proceed_self, stage]
    rcases after with rfl | rfl
    · exact Nat.succ_pos _
    · exact Nat.lt_succ_self _
  | alone _ _ signal answer stage =>
    rw [State.proceed_self, stage]
    exact Nat.succ_pos _
  | decide _ _ deadline found stage =>
    rw [stage] at sound
    obtain ⟨d, timed⟩ := sound.1
    exact absurd timed (untimed d)
  | resume _ _ deadline wake stage =>
    rw [stage] at sound
    obtain ⟨d, timed⟩ := sound
    exact absurd timed (untimed d)

theorem rank_step (h : Change r s m t) (inv : Inv r s) (untimed : ∀ d, r i ≠ .waitWithin d) :
    (t.calls i).rank + (if m.isOf i then 1 else 0) ≤ (s.calls i).rank := by
  cases own : m.isOf i with
  | false => simp [calls_step h own]
  | true =>
    obtain ⟨a, rfl⟩ := Move.exists_of_isOf own
    exact rank_own h inv untimed

/-- A call without a deadline makes no more steps than it has left. -/
theorem rank_run (inv : Inv r s) (untimed : ∀ d, r i ≠ .waitWithin d) {moves : List Move}
    (h : s.run r moves = some t) :
    (t.calls i).rank + moves.countP (Move.isOf i) ≤ (s.calls i).rank := by
  induction moves generalizing s with
  | nil => cases h; simp
  | cons m moves ih =>
    rw [State.run_cons] at h
    obtain ⟨u, made, h⟩ := Option.bind_eq_some_iff.mp h
    have step := rank_step (change_of_step inv.remembers (unstuck inv) made) inv untimed
    have rest := ih (inv_step inv made) h
    rw [List.countP_cons]
    omega

/-- The holder of the lock never waits. -/
theorem holder_isSome (inv : Inv r s) (locked : (s.calls i).isLocked) (a : Replies) :
    (s.step r (.call i a)).isSome := by
  show (s.stepCall (r i) i a).isSome
  cases stage : s.calls i with
  | holding e => simp [State.stepCall, stage]
  | group signal | alone signal =>
    simp only [State.stepCall, stage]
    split <;> rfl
  | stuck => exact absurd stage (unstuck inv i)
  | _ => rw [stage] at locked; cases locked

/-- A call without a deadline that is not over goes on, or else somebody who has the lock does, unless
it sleeps because the number belongs to a child that runs. -/
theorem not_held_up (inv : Inv r s) (untimed : ∀ d, r i ≠ .waitWithin d)
    (unreturned : (s.calls i).isReturned = false)
    (awake : r i = .wait → s.number.bearer ≠ .running) :
    ∃ j, (j = i ∨ s.lock = some j) ∧ ∀ a, (s.step r (.call j a)).isSome := by
  have sound := inv.sound i
  have alone (own : ∀ a, (s.stepCall (r i) i a).isSome) :
      ∃ j, (j = i ∨ s.lock = some j) ∧ ∀ a, (s.step r (.call j a)).isSome := ⟨i, .inl rfl, own⟩
  cases stage : s.calls i with
  | idle => exact alone fun a => by simp [State.stepCall, stage]
  | blocking =>
    rw [stage] at sound
    have ended := awake sound
    refine alone fun a => ?_
    rcases stands : s.number.bearer with _ | (code | n) | _
    · exact absurd stands ended
    · simp [State.stepCall, stage, stands, observe]
    · simp only [State.stepCall, stage, stands, observe]
      split <;> simp_all
    · simp [State.stepCall, stage, stands, observe]
  | wanting e =>
    rcases lock : s.lock with _ | j
    · exact lock ▸ alone fun a => by simp [State.stepCall, stage, lock]
    · exact ⟨j, .inr rfl, fun a => holder_isSome inv ((inv.exclusion j).mp lock) a⟩
  | holding | group | alone => exact alone fun a => holder_isSome inv (by rw [stage]; rfl) a
  | stuck => exact absurd stage (unstuck inv i)
  | looked =>
    rw [stage] at sound
    obtain ⟨d, timed⟩ := sound.1
    exact absurd timed (untimed d)
  | pausing =>
    rw [stage] at sound
    obtain ⟨d, timed⟩ := sound
    exact absurd timed (untimed d)
  | returned a => rw [stage] at unreturned; cases unreturned

/-! ### After the end was told -/

/-- Whether an answer says that the child is not there any more. -/
def Answer.tellsEnd : Answer → Bool
  | ended _ | failed .processDone => true
  | _ => false

/-- Somebody was told that the child is not there any more. -/
def State.Told (s : State) : Prop := ∃ i a, s.calls i = .returned a ∧ a.tellsEnd

theorem known_of_told (inv : Inv r s) (told : s.Told) : s.handle.known.isSome := by
  obtain ⟨i, a, stage, tells⟩ := told
  have sound := inv.sound i
  rw [stage] at sound
  unfold Answer.tellsEnd at tells
  split at tells
  · rw [sound.2.1 _ rfl]
    rfl
  · exact sound.2.2 rfl
  · cases tells

theorem known_isSome_step (h : Change r s m t) (knows : s.handle.known.isSome) :
    t.handle.known.isSome :=
  isSome_of_imp (fun _ => known_step h) knows

theorem not_isSending (inv : Inv r s) (knows : s.handle.known.isSome) (i : ℕ) :
    (s.calls i).isSending = false := by
  have gone := inv.remembers.iff.mpr knows
  have sound := inv.sound i
  cases stage : s.calls i with
  | group signal | alone signal =>
    rw [stage] at sound
    exact absurd gone sound.2
  | _ => rfl

theorem sent_step (h : Change r s m t) (inv : Inv r s) (knows : s.handle.known.isSome) :
    t.number.sent = s.number.sent := by
  have idle := not_isSending inv knows
  cases h with
  | look i a e stage => unfold State.looked; split <;> rfl
  | group i a signal next stage | alone i a signal answer stage =>
    have := idle i
    rw [stage] at this
    cases this
  | _ => rfl

/-- A signal that comes to its answer once the end was taken is refused. -/
theorem refused_own {a : Replies} (h : Change r s (.call i a) t) (inv : Inv r s)
    (knows : s.handle.known.isSome) (asks : (r i).signal?.isSome) {answer : Answer}
    (answered : t.calls i = .returned answer) : answer = .failed .processDone := by
  have sound := inv.sound i
  have idle := not_isSending inv knows i
  cases h with
  | start _ _ stage =>
    rw [State.setCall_self] at answered
    cases request : r i <;> rw [request] at answered <;> cases answered
  | wake _ _ stage | misread _ _ _ stage =>
    rw [stage] at sound
    rw [show r i = .wait from sound] at asks
    cases asks
  | lock _ _ e stage =>
    rw [State.proceed_self] at answered
    cases answered
  | look _ _ e stage =>
    obtain ⟨kind, ended⟩ := Option.isSome_iff_exists.mp knows
    rw [stage] at sound
    rw [State.proceed_self, State.fate, ended, Option.some_or] at answered
    cases e with
    | send signal => cases answered; rfl
    | lookUntil deadline => cases answered
    | look | take =>
      rw [show r i = _ from sound.1] at asks
      cases asks
  | group _ _ signal next stage | alone _ _ signal answer stage =>
    rw [stage] at idle
    cases idle
  | decide _ _ deadline found stage =>
    rw [stage] at sound
    obtain ⟨d, timed⟩ := sound.1
    rw [timed] at asks
    cases asks
  | resume _ _ deadline wake stage =>
    rw [State.setCall_self] at answered
    cases answered

theorem refused_step (h : Change r s m t) (inv : Inv r s) (knows : s.handle.known.isSome)
    (asks : (r i).signal?.isSome)
    (refused : ∀ answer, s.calls i = .returned answer → answer = .failed .processDone)
    {answer : Answer} (answered : t.calls i = .returned answer) : answer = .failed .processDone := by
  cases own : m.isOf i with
  | false => exact refused answer (calls_step h own ▸ answered)
  | true =>
    obtain ⟨a, rfl⟩ := Move.exists_of_isOf own
    exact refused_own h inv knows asks answered

/-- No signal is sent to a number whose child is gone. Once somebody was told that the child is not
there any more, no signal is sent at all, and one that is asked for is refused without waiting for anybody
but the holder of the lock. Whoever is told how the child ended is told the same, and no call sleeps while it
holds the lock. -/
theorem signals_spared {pid : ℕ} {p q : List Move}
    (before : State.run r { handle := { pid } } p = some s) (after : s.run r q = some t) :
    (∀ d ∈ t.number.sent, d.2 ≠ .gone) ∧
      (s.Told → t.number.sent = s.number.sent ∧
        ∀ i, (r i).signal?.isSome → (s.calls i).isReturned = false →
          (∀ answer, t.calls i = .returned answer → answer = .failed .processDone) ∧
          ((t.calls i).isReturned = false →
            ∃ j, (j = i ∨ t.lock = some j) ∧ ∀ a, (t.step r (.call j a)).isSome) ∧
          (t.calls i).rank + q.countP (Move.isOf i) ≤ (s.calls i).rank) ∧
      (∀ i j kind other, t.calls i = .returned (.ended kind) → t.calls j = .returned (.ended other) →
        kind = other) ∧
      ∀ i, t.calls i ≠ .stuck := by
  have start := inv_run (inv_init pid) before
  have inv := inv_run start after
  refine ⟨inv.spared, fun told => ⟨?_, fun i asks unreturned => ⟨?_, ?_, ?_⟩⟩, ?_, unstuck inv⟩
  · have silent := run_induction
      (P := fun u => u.handle.known.isSome ∧ u.number.sent = s.number.sent)
      (fun inv kept change =>
        ⟨known_isSome_step change kept.1, (sent_step change inv kept.1).trans kept.2⟩)
      start ⟨known_of_told start told, rfl⟩ after
    exact silent.2.2
  · have unanswered (answer : Answer) (answered : s.calls i = .returned answer) :
        answer = .failed .processDone := by
      rw [answered] at unreturned
      cases unreturned
    have refused := run_induction
      (P := fun u => u.handle.known.isSome ∧
        ∀ answer, u.calls i = .returned answer → answer = .failed .processDone)
      (fun inv kept change => ⟨known_isSome_step change kept.1,
        fun _ answered => refused_step change inv kept.1 asks kept.2 answered⟩)
      start ⟨known_of_told start told, unanswered⟩ after
    exact refused.2.2
  · intro unreturned
    refine not_held_up inv (fun d timed => ?_) unreturned fun waits => ?_
    · rw [timed] at asks; cases asks
    · rw [waits] at asks; cases asks
  · exact rank_run start (fun d timed => by rw [timed] at asks; cases asks) after
  · intro i j kind other ended same
    have one := inv.sound i
    have two := inv.sound j
    rw [ended] at one
    rw [same] at two
    exact Option.some.inj ((one.2.1 kind rfl).symm.trans (two.2.1 other rfl))

/-- One signal gets to a child that then exits while a wait sleeps. A look takes the end, the number goes
to another child, and a kill that comes then is refused. -/
theorem signals_spared_recycled :
    ∃ (r : ℕ → Request) (p q : List Move) (s t : State),
      State.run r { handle := { pid := 100 } } p = some s ∧ s.run r q = some t ∧ s.Told ∧
      t.number.heir = some .running ∧ r 2 = .kill ∧ t.calls 2 = .returned (.failed .processDone) ∧
      t.number.sent = [(Signal.terminate, .running)] ∧ t.calls 3 = t.calls 1 := by
  let r (i : ℕ) : Request := [.signal Signal.terminate, .tryWait, .kill].getD i .wait
  let p : List Move := [List.replicate 4 (.call 0 {}), [.call 3 {}, .ends (.code 3), .call 3 {}],
    List.replicate 3 (.call 1 {})].flatten
  let q : List Move := [[.pass (some .running)], List.replicate 3 (.call 2 {}),
    List.replicate 2 (.call 3 {})].flatten
  have start : (State.run r { handle := { pid := 100 } } p).map (fun s =>
      (s.number.sent, s.calls 1, s.calls 2)) =
      some ([(Signal.terminate, .running)], .returned (.ended (.code 3)), .idle) := by decide
  obtain ⟨s, before, facts⟩ := Option.map_eq_some_iff.mp start
  obtain ⟨sent, looked, idle⟩ : s.number.sent = [(Signal.terminate, .running)] ∧
    s.calls 1 = .returned (.ended (.code 3)) ∧ s.calls 2 = .idle := by simpa using facts
  have done : ((State.run r { handle := { pid := 100 } } p).bind (State.run r · q)).map (fun t =>
      (t.number.heir, (t.calls 1), (t.calls 2).isReturned, t.calls 3)) =
      some (some .running, .returned (.ended (.code 3)), true, .returned (.ended (.code 3))) := by
    decide
  rw [before, Option.bind_some] at done
  obtain ⟨t, after, facts⟩ := Option.map_eq_some_iff.mp done
  obtain ⟨heir, one, closed, three⟩ : t.number.heir = some .running ∧
    t.calls 1 = .returned (.ended (.code 3)) ∧ (t.calls 2).isReturned ∧
    t.calls 3 = .returned (.ended (.code 3)) := by simpa using facts
  have told : s.Told := ⟨1, _, looked, rfl⟩
  obtain ⟨-, silent, -, -⟩ := signals_spared before after
  obtain ⟨same, refused⟩ := silent told
  refine ⟨r, p, q, s, t, before, after, told, heir, rfl, ?_, same.trans sent, three.trans one.symm⟩
  cases stage : t.calls 2 with
  | returned answer => rw [(refused 2 rfl (by rw [idle]; rfl)).1 answer stage]
  | _ => rw [stage] at closed; cases closed

end PseudoTerminal.Child.Calls
