import PseudoTerminal.Proofs.Child.Calls

/-! What holds of a child and its handle whatever the order of the steps of any calls. The handle
remembers the end of the child as soon as it was taken, and from then on no call signals: a call that is
to signal holds the lock and found the child running, and the end is taken only with the lock. So no
signal goes to whoever bears the number next. -/

namespace PseudoTerminal.Child

/-- The end of a child that its host still keeps. -/
def Standing.end? : Standing → Option ExitKind
  | ended kind => some kind
  | _ => none

end PseudoTerminal.Child

namespace PseudoTerminal.Child.Calls

variable {r : ℕ → Request} {s t : State} {m : Move} {i : ℕ}

/-! ### What a step can do -/

namespace State

/-- How the child ended, once it has. -/
def fate (s : State) : Option ExitKind := s.handle.known.or s.number.child.end?

/-- The handle remembers what was taken. -/
def Remembers (s : State) : Prop := s.number.child = .gone ↔ s.handle.known.isSome

theorem Remembers.iff (inv : s.Remembers) : s.number.child = .gone ↔ s.handle.known.isSome := inv

theorem Remembers.kept (inv : s.Remembers) (unknown : s.handle.known = none) :
    s.number.child ≠ .gone := by
  rw [ne_eq, inv.iff, unknown]
  nofun

/-- After a look: an end is taken and remembered. -/
def looked (s : State) : State :=
  { s with
    handle := { s.handle with known := s.fate }
    number := if s.fate.isSome then { s.number with child := .gone } else s.number }

theorem fate_looked (s : State) : s.looked.fate = s.fate := by
  cases ended : s.fate with
  | some kind =>
    show s.fate.or _ = some kind
    rw [ended]
    rfl
  | none =>
    show s.fate.or (if s.fate.isSome then _ else s.number : Number).child.end? = none
    rw [ended]
    exact (Option.or_eq_none_iff.mp ended).2

/-- What a look finds, and what it leaves. -/
theorem tryWait_eq (inv : s.Remembers) (replies : Replies) :
    s.handle.tryWait (custody replies) s.number =
      (.ok s.fate, s.looked.handle, s.looked.number) := by
  obtain ⟨⟨child, heir, sent⟩, ⟨pid, known⟩, lock, calls, clock⟩ := s
  cases known with
  | some kind =>
    cases inv.iff.mpr rfl
    rfl
  | none =>
    cases child with
    | running => rfl
    | ended kind => simp [Handle.tryWait, custody, Number.bearer, Number.reap, fate, looked, Standing.end?]
    | gone => cases inv.iff.mp rfl

end State

/-- The steps, each with what it found. -/
inductive Change (r : ℕ → Request) (s : State) : Move → State → Prop
  | ends (kind : ExitKind) (alive : s.number.child = .running) :
      Change r s (.ends kind) { s with number := { s.number with child := .ended kind } }
  | pass (heir : Option Standing) (free : s.number.child = .gone) :
      Change r s (.pass heir) { s with number := { s.number with heir } }
  | elapse (duration : ℕ) : Change r s (.elapse duration) { s with clock := s.clock + duration }
  | start (i : ℕ) (a : Replies) (stage : s.calls i = .idle) :
      Change r s (.call i a) (s.setCall i ((r i).start s.clock))
  | wake (i : ℕ) (a : Replies) (stage : s.calls i = .blocking)
      (ended : observe s.number.bearer = some (.ok ())) :
      Change r s (.call i a) (s.setCall i (.wanting .take))
  | misread (i : ℕ) (a : Replies) (f : Fault) (stage : s.calls i = .blocking)
      (ended : observe s.number.bearer = some (.error f)) :
      Change r s (.call i a) (s.setCall i (.returned (.failed f)))
  | lock (i : ℕ) (a : Replies) (e : Errand) (stage : s.calls i = .wanting e) (free : s.lock = none) :
      Change r s (.call i a) (s.proceed i (.holding e))
  | look (i : ℕ) (a : Replies) (e : Errand) (stage : s.calls i = .holding e) :
      Change r s (.call i a) (s.looked.proceed i (e.next (.ok s.fate)))
  | group (i : ℕ) (a : Replies) (signal : Signal) (next : Call) (stage : s.calls i = .group signal)
      (after : next = .returned .sent ∨ next = .alone signal) :
      Change r s (.call i a)
        ({ s with number := (s.number.send signal a.group).2 }.proceed i next)
  | alone (i : ℕ) (a : Replies) (signal : Signal) (answer : Answer) (stage : s.calls i = .alone signal)
      (after : answer = .sent ∨ ∃ errno, answer = .failed (.os errno)) :
      Change r s (.call i a)
        ({ s with number := (s.number.send signal a.alone).2 }.proceed i (.returned answer))
  | decide (i : ℕ) (a : Replies) (deadline : ℕ) (found : Option ExitKind)
      (stage : s.calls i = .looked deadline found) :
      Change r s (.call i a)
        (s.setCall i (.ofMove deadline s.clock (TimedWait.move deadline s.clock found)))
  | resume (i : ℕ) (a : Replies) (deadline wake : ℕ) (stage : s.calls i = .pausing deadline wake)
      (due : wake ≤ s.clock) :
      Change r s (.call i a) (s.setCall i (.wanting (.lookUntil deadline)))

theorem change_of_stepCall {a : Replies} (inv : s.Remembers) (unstuck : s.calls i ≠ .stuck)
    (h : s.stepCall (r i) i a = some t) : Change r s (.call i a) t := by
  unfold State.stepCall at h
  split at h
  case h_1 stage => cases h; exact .start i a stage
  case h_2 stage =>
    split at h
    case h_1 => cases h
    case h_2 ended => cases h; exact .wake i a stage ended
    case h_3 f ended => cases h; exact .misread i a f stage ended
  case h_3 e stage =>
    split at h
    case h_1 free => cases h; exact .lock i a e stage free
    case h_2 => cases h
  case h_4 e stage =>
    rw [State.tryWait_eq inv] at h
    cases h
    exact .look i a e stage
  case h_5 signal stage =>
    split at h
    case h_1 number delivered =>
      cases h
      cases congrArg Prod.snd delivered
      exact .group i a signal _ stage (.inl rfl)
    case h_2 f number refused =>
      cases h
      cases congrArg Prod.snd refused
      exact .group i a signal _ stage (.inr rfl)
  case h_6 signal stage =>
    split at h
    case h_1 number delivered =>
      cases h
      cases congrArg Prod.snd delivered
      exact .alone i a signal _ stage (.inl rfl)
    case h_2 f number refused =>
      cases h
      cases congrArg Prod.snd refused
      refine .alone i a signal _ stage (.inr ?_)
      cases reply : a.alone with
      | none => simp [custody, Number.send, reply] at refused
      | some errno =>
        simp only [custody, Number.send, reply, Prod.mk.injEq, Except.error.injEq] at refused
        exact ⟨errno, by rw [refused.1]⟩
  case h_7 stage => exact absurd stage unstuck
  case h_8 deadline found stage => cases h; exact .decide i a deadline found stage
  case h_9 deadline wake stage =>
    split at h
    case isTrue due => cases h; exact .resume i a deadline wake stage due
    case isFalse => cases h
  case h_10 => cases h

theorem change_of_step (inv : s.Remembers) (unstuck : ∀ i, s.calls i ≠ .stuck)
    (h : s.step r m = some t) : Change r s m t := by
  cases m with
  | call i a => exact change_of_stepCall inv (unstuck i) h
  | ends kind =>
    simp only [State.step] at h
    split at h
    case h_1 alive => cases h; exact .ends kind alive
    case h_2 => cases h
  | pass heir =>
    simp only [State.step] at h
    split at h
    case isTrue free => cases h; exact .pass heir free
    case isFalse => cases h
  | elapse duration => cases h; exact .elapse duration

/-! ### What a step leaves alone -/

theorem known_step {kind : ExitKind} (h : Change r s m t) (knows : s.handle.known = some kind) :
    t.handle.known = some kind := by
  cases h with
  | look i a e stage => simp [State.looked, State.fate, knows]
  | _ => exact knows

/-- A child ends once. -/
theorem fate_step {kind : ExitKind} (h : Change r s m t) (inv : s.Remembers)
    (ended : s.fate = some kind) : t.fate = some kind := by
  cases h with
  | ends other alive =>
    have unknown : s.handle.known = none := by
      rw [← Option.not_isSome_iff_eq_none, ← inv.iff, alive]
      nofun
    simp [State.fate, unknown, alive, Standing.end?] at ended
  | look i a e stage => exact s.fate_looked.trans ended
  | _ => exact ended

theorem remembers_step (h : Change r s m t) (inv : s.Remembers) : t.Remembers := by
  cases h with
  | ends kind alive =>
    exact iff_of_false nofun fun knows => nomatch alive.symm.trans (inv.iff.mpr knows)
  | look i a e stage =>
    show s.looked.number.child = .gone ↔ s.fate.isSome
    cases ended : s.fate with
    | some kind => simp [State.looked, ended]
    | none =>
      have unknown : s.handle.known = none := (Option.or_eq_none_iff.mp ended).1
      simpa [State.looked, ended] using inv.kept unknown
  | _ => exact inv

/-! ### Calls that keep to what they were asked for -/

namespace Errand

/-- Whether a request gives such an errand. -/
def Serves : Errand → Request → Prop
  | look, q => q = .tryWait
  | lookUntil _, q => ∃ duration, q = .waitWithin duration
  | take, q => q = .wait
  | send signal, q => q.signal? = some signal

end Errand

/-- What may be answered to a request: a look and a wait with a deadline never fail, a wait fails when
the host cannot tell the end, and a signal when the child is done or the host refuses it. -/
def Answer.Fits : Answer → Request → Prop
  | ended _, q => q.signal? = none
  | running, q => q = .tryWait ∨ ∃ duration, q = .waitWithin duration
  | sent, q => q.signal?.isSome
  | failed f, q =>
    q = .wait ∧ f = .invalidArgument ∨
      q.signal?.isSome ∧ (f = .processDone ∨ ∃ errno, f = .os errno)

/-- What holds of a call that has come so far, and of what it knows about the child. -/
def Call.Sound (q : Request) (s : State) : Call → Prop
  | idle => True
  | blocking => q = .wait
  | wanting e | holding e => e.Serves q ∧ (e = .take → s.fate.isSome)
  | group signal | alone signal => q.signal? = some signal ∧ s.number.child ≠ .gone
  | stuck => False
  | looked _ found =>
    (∃ duration, q = .waitWithin duration) ∧ ∀ kind, found = some kind → s.handle.known = some kind
  | pausing _ _ => ∃ duration, q = .waitWithin duration
  | returned a =>
    a.Fits q ∧ (∀ kind, a = .ended kind → s.handle.known = some kind) ∧
      (a = .failed .processDone → s.handle.known.isSome)

theorem isSome_of_imp {a b : Option ExitKind} (imp : ∀ kind, a = some kind → b = some kind)
    (h : a.isSome) : b.isSome := by
  obtain ⟨kind, h⟩ := Option.isSome_iff_exists.mp h
  exact Option.isSome_iff_exists.mpr ⟨kind, imp kind h⟩

/-- Steps of others leave a call sound that is not to signal, or whose child they leave alone. -/
theorem Call.Sound.of_kept {q : Request} {c : Call} (sound : c.Sound q s)
    (known : ∀ kind, s.handle.known = some kind → t.handle.known = some kind)
    (fate : ∀ kind, s.fate = some kind → t.fate = some kind)
    (kept : c.isSending → s.number.child ≠ .gone → t.number.child ≠ .gone) : c.Sound q t := by
  cases c with
  | wanting e | holding e => exact ⟨sound.1, fun take => isSome_of_imp fate (sound.2 take)⟩
  | group signal | alone signal => exact ⟨sound.1, kept rfl sound.2⟩
  | looked deadline found => exact ⟨sound.1, fun kind h => known kind (sound.2 kind h)⟩
  | returned a =>
    exact ⟨sound.1, fun kind h => known kind (sound.2.1 kind h), fun h => isSome_of_imp known (sound.2.2 h)⟩
  | _ => exact sound

theorem sound_start (q : Request) (clock : ℕ) : (q.start clock).Sound q s := by
  cases q with
  | waitWithin duration => exact ⟨⟨duration, rfl⟩, nofun⟩
  | wait => exact rfl
  | _ => exact ⟨rfl, nofun⟩

/-- What follows a look is sound when the end was taken with it. -/
theorem sound_next {q : Request} {e : Errand} (sound : (Call.holding e).Sound q s)
    (inv : s.Remembers) : (e.next (.ok s.fate)).Sound q s.looked := by
  have knows : s.looked.handle.known = s.fate := rfl
  have serves := sound.1
  cases ended : s.fate with
  | some kind =>
    rw [ended] at knows
    cases e with
    | look | take =>
      refine ⟨?_, ?_, nofun⟩
      · rw [show q = _ from serves]; rfl
      · rintro _ ⟨⟩; exact knows
    | lookUntil deadline => exact ⟨serves, fun _ same => knows.trans same⟩
    | send signal =>
      refine ⟨.inr ⟨?_, .inl rfl⟩, nofun, fun _ => by rw [knows]; rfl⟩
      rw [show q.signal? = some signal from serves]; rfl
  | none =>
    cases e with
    | look => exact ⟨.inl serves, nofun, nofun⟩
    | lookUntil deadline => exact ⟨serves, nofun⟩
    | take =>
      have := sound.2 rfl
      rw [ended] at this
      cases this
    | send signal =>
      refine ⟨serves, ?_⟩
      rw [show s.looked.number = s.number by simp [State.looked, ended]]
      exact inv.kept (Option.or_eq_none_iff.mp ended).1

/-! ### Every run -/

/-- What holds after any steps. -/
structure Inv (r : ℕ → Request) (s : State) : Prop where
  remembers : s.Remembers
  /-- The lock has one holder, who is inside of it. -/
  exclusion : ∀ i, s.lock = some i ↔ (s.calls i).isLocked
  sound : ∀ i, (s.calls i).Sound (r i) s
  /-- No signal was sent to a number whose child was gone. -/
  spared : ∀ d ∈ s.number.sent, d.2 ≠ .gone

theorem exclusion_setCall {c : Call} (inv : ∀ i, s.lock = some i ↔ (s.calls i).isLocked)
    (same : c.isLocked = (s.calls i).isLocked) (j : ℕ) :
    (s.setCall i c).lock = some j ↔ ((s.setCall i c).calls j).isLocked := by
  rw [State.setCall_lock, State.setCall_calls, inv j]
  by_cases here : j = i
  · rw [if_pos here, here, same]
  · rw [if_neg here]

/-- A call that has the lock, or gets it when nobody has, goes on. -/
theorem exclusion_proceed {c : Call} (inv : ∀ i, s.lock = some i ↔ (s.calls i).isLocked)
    (alone : ∀ j, s.lock = some j → j = i) (j : ℕ) :
    (s.proceed i c).lock = some j ↔ ((s.proceed i c).calls j).isLocked := by
  rw [State.proceed_lock, State.proceed_calls]
  by_cases here : j = i
  · rw [if_pos here, here]
    cases c.isLocked <;> simp
  · have out : (s.calls j).isLocked = false := by
      rw [← Bool.not_eq_true, ← inv j]
      exact fun holds => here (alone j holds)
    rw [if_neg here, out]
    split
    · simp [Ne.symm here]
    · simp

theorem alone_of_locked (inv : ∀ i, s.lock = some i ↔ (s.calls i).isLocked)
    (locked : (s.calls i).isLocked) (j : ℕ) (holds : s.lock = some j) : j = i := by
  rw [(inv i).mpr locked] at holds
  exact (Option.some.inj holds).symm

theorem exclusion_step (h : Change r s m t) (inv : Inv r s) (j : ℕ) :
    t.lock = some j ↔ (t.calls j).isLocked := by
  have exclusion := inv.exclusion
  cases h with
  | start i a stage =>
    refine exclusion_setCall exclusion ?_ j
    rw [stage]
    cases r i <;> rfl
  | wake i a stage | misread i a f stage | resume i a deadline wake stage =>
    exact exclusion_setCall exclusion (by rw [stage]; rfl) j
  | decide i a deadline found stage =>
    refine exclusion_setCall exclusion ?_ j
    rw [stage]
    rcases TimedWait.move deadline s.clock found with (_ | kind) | duration <;> rfl
  | lock i a e stage free => exact exclusion_proceed exclusion (by simp [free]) j
  | look i a e stage =>
    have locked : (s.calls i).isLocked := by rw [stage]; rfl
    exact exclusion_proceed (s := s.looked) exclusion (alone_of_locked exclusion locked) j
  | group i a signal next stage =>
    have locked : (s.calls i).isLocked := by rw [stage]; rfl
    exact exclusion_proceed (s := { s with number := _ }) exclusion (alone_of_locked exclusion locked) j
  | alone i a signal answer stage =>
    have locked : (s.calls i).isLocked := by rw [stage]; rfl
    exact exclusion_proceed (s := { s with number := _ }) exclusion (alone_of_locked exclusion locked) j
  | _ => exact exclusion j

theorem Call.isLocked_of_isSending {c : Call} (h : c.isSending) : c.isLocked := by
  cases c <;> first | rfl | cases h

/-- The child of a call that is to signal stays: an end is taken only with the lock. -/
theorem kept_step (h : Change r s m t) (inv : Inv r s) {j : ℕ} (sending : (s.calls j).isSending)
    (kept : s.number.child ≠ .gone) : t.number.child ≠ .gone := by
  cases h with
  | ends kind alive => nofun
  | look i a e stage =>
    -- whoever looks has the lock, and so has whoever is to signal
    have holds : s.lock = some i := (inv.exclusion i).mpr (by rw [stage]; rfl)
    obtain rfl := alone_of_locked inv.exclusion (Call.isLocked_of_isSending sending) i holds
    rw [stage] at sending
    cases sending
  | _ => exact kept

theorem fate_of_observe (inv : s.Remembers) (ended : (observe s.number.bearer).isSome) :
    s.fate.isSome := by
  unfold Number.bearer at ended
  split at ended
  case isTrue gone => simp [State.fate, inv.iff.mp gone]
  case isFalse =>
    cases stands : s.number.child with
    | running => rw [stands] at ended; cases ended
    | ended kind => simp [State.fate, stands, Standing.end?]
    | gone => contradiction

/-- A look after a sleep fails at a death by a signal without a name only. -/
theorem unread_of_observe {st : Standing} {f : Fault} (h : observe st = some (.error f)) :
    f = .invalidArgument ∧ ∃ n, st = .ended (.signal n) ∧ 31 < n := by
  unfold observe at h
  split at h
  case h_2 n =>
    split at h
    case isTrue => cases h
    case isFalse high => cases h; exact ⟨rfl, n, rfl, by omega⟩
  all_goals cases h

theorem sound_decide {q : Request} {deadline now : ℕ} {found : Option ExitKind}
    (sound : (Call.looked deadline found).Sound q s) :
    (Call.ofMove deadline now (TimedWait.move deadline now found)).Sound q s := by
  obtain ⟨⟨duration, rfl⟩, knows⟩ := sound
  cases found with
  | some kind =>
    refine ⟨rfl, ?_, nofun⟩
    rintro _ ⟨⟩
    exact knows kind rfl
  | none =>
    simp only [TimedWait.move]
    split
    · exact ⟨.inr ⟨duration, rfl⟩, nofun, nofun⟩
    · exact ⟨duration, rfl⟩

/-- A call is left where it is by the steps of others. -/
theorem calls_step (h : Change r s m t) (other : m.isOf i = false) : t.calls i = s.calls i := by
  cases h with
  | ends | pass | elapse => rfl
  | _ =>
    have out := ne_of_beq_false other
    simp [State.looked, out.symm]

/-- A call stays sound by its own steps. -/
theorem sound_own {a : Replies} (h : Change r s (.call i a) t) (inv : Inv r s) :
    (t.calls i).Sound (r i) t := by
  have sound := inv.sound i
  cases h with
  | start _ _ stage =>
    rw [State.setCall_self]
    exact sound_start (r i) s.clock
  | wake _ _ stage ended =>
    have ended : s.fate.isSome := fate_of_observe inv.remembers (by rw [ended]; rfl)
    rw [stage] at sound
    rw [State.setCall_self]
    exact ⟨sound, fun _ => ended⟩
  | misread _ _ f stage ended =>
    rw [stage] at sound
    rw [State.setCall_self, (unread_of_observe ended).1]
    exact ⟨.inl ⟨sound, rfl⟩, nofun, nofun⟩
  | lock _ _ e stage free =>
    rw [stage] at sound
    rw [State.proceed_self]
    exact sound
  | look _ _ e stage =>
    rw [stage] at sound
    rw [State.proceed_self]
    exact sound_next sound inv.remembers
  | group _ _ signal next stage after =>
    rw [stage] at sound
    rw [State.proceed_self]
    rcases after with rfl | rfl
    · exact ⟨by rw [Answer.Fits, sound.1]; rfl, nofun, nofun⟩
    · exact sound
  | alone _ _ signal answer stage after =>
    rw [stage] at sound
    have asks : (r i).signal?.isSome := by rw [sound.1]; rfl
    rw [State.proceed_self]
    rcases after with rfl | ⟨errno, rfl⟩
    · exact ⟨asks, nofun, nofun⟩
    · exact ⟨.inr ⟨asks, .inr ⟨errno, rfl⟩⟩, nofun, nofun⟩
  | decide _ _ deadline found stage =>
    rw [stage] at sound
    rw [State.setCall_self]
    exact sound_decide sound
  | resume _ _ deadline wake stage due =>
    rw [stage] at sound
    rw [State.setCall_self]
    exact ⟨sound, nofun⟩

theorem sound_step (h : Change r s m t) (inv : Inv r s) (j : ℕ) : (t.calls j).Sound (r j) t := by
  cases own : m.isOf j with
  | false =>
    rw [calls_step h own]
    exact (inv.sound j).of_kept (fun _ => known_step h) (fun _ => fate_step h inv.remembers)
      (kept_step h inv)
  | true =>
    obtain ⟨a, rfl⟩ := Move.exists_of_isOf own
    exact sound_own h inv

/-- Signals are sent for calls that found the child there. -/
theorem spared_step (h : Change r s m t) (inv : Inv r s) : ∀ d ∈ t.number.sent, d.2 ≠ .gone := by
  have spared := inv.spared
  cases h with
  | look i a e stage =>
    have same : s.looked.number.sent = s.number.sent := by
      unfold State.looked
      split <;> rfl
    exact fun d mem => spared d (same ▸ mem)
  | group i a signal next stage | alone i a signal answer stage =>
    have sound := inv.sound i
    rw [stage] at sound
    exact List.forall_mem_cons.mpr ⟨sound.2, spared⟩
  | _ => exact spared

theorem inv_init (pid : ℕ) : Inv r { handle := { pid } } where
  remembers := iff_of_false nofun nofun
  exclusion _ := iff_of_false nofun nofun
  sound _ := trivial
  spared := nofun

theorem unstuck (inv : Inv r s) (i : ℕ) : s.calls i ≠ .stuck := by
  intro stage
  have sound := inv.sound i
  rw [stage] at sound
  exact sound

theorem inv_step (inv : Inv r s) (h : s.step r m = some t) : Inv r t :=
  have change := change_of_step inv.remembers (unstuck inv) h
  { remembers := remembers_step change inv.remembers
    exclusion := exclusion_step change inv
    sound := sound_step change inv
    spared := spared_step change inv }

/-- What steps keep, runs keep. -/
theorem run_induction {P : State → Prop} (kept : ∀ {s m t}, Inv r s → P s → Change r s m t → P t)
    (inv : Inv r s) (start : P s) {moves : List Move} (h : s.run r moves = some t) : Inv r t ∧ P t := by
  induction moves generalizing s with
  | nil => cases h; exact ⟨inv, start⟩
  | cons m moves ih =>
    rw [State.run_cons] at h
    obtain ⟨u, made, h⟩ := Option.bind_eq_some_iff.mp h
    exact ih (inv_step inv made)
      (kept inv start (change_of_step inv.remembers (unstuck inv) made)) h

theorem inv_run (inv : Inv r s) {moves : List Move} (h : s.run r moves = some t) : Inv r t :=
  (run_induction (P := fun _ => True) (fun _ _ _ => trivial) inv trivial h).1

end PseudoTerminal.Child.Calls
