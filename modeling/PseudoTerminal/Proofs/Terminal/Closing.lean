import Mathlib.Algebra.Order.BigOperators.Group.Finset
import PseudoTerminal.Proofs.Terminal.Sharing

/-! A close gets through. Once the flag is up every call has few steps left: a poll sees the octet in the
wake pipe, which stays there, and no call looks again without seeing the flag. A close that waits for the
lock waits for calls inside, and each of them can go on or waits for the one whose turn it is. So the close
and the calls inside can end it by themselves, and what they can do ends soon. -/

namespace PseudoTerminal.Terminal.Calls

variable {r : ℕ → Request} {s t : State} {m : Move} {i c : ℕ}

/-! ### How many steps are left -/

/-- How many steps a call inside has left at most once the flag is up, if its turn takes so many. -/
def Use.rank (effort : ℕ) : Use → ℕ
  | entered => effort + 5
  | queueing => effort + 4
  | controlling left => left + 3
  | polling => 4
  | trying => 3
  | looking | controlled _ => 2
  | barred | leaving _ => 1

def Closing.rank : Closing → ℕ
  | raised => 10
  | waking _ => 9
  | wanting _ => 8
  | alone _ => 7
  | unlocking _ parts => parts.length + 3
  | releasing parts => parts.length + 1

/-- How many steps a call has left at most once the flag is up. -/
def Call.rank (effort : ℕ) : Call → ℕ
  | idle => 1
  | wanting => effort + 6
  | inside use => use.rank effort
  | closing stage => stage.rank
  | returned _ => 0

/-- How many steps a call of a number has left at most once the flag is up. -/
def State.rank (r : ℕ → Request) (s : State) (i : ℕ) : ℕ := (s.calls i).rank (r i).effort

theorem rank_ofStage_le {α : Type} {ans : Except TransferError α → Answer} {onward : Use} {e bound : ℕ}
    (step : onward.rank e ≤ bound) (least : 3 ≤ bound) (stage : Stage α) :
    (Use.ofStage ans onward stage).rank e ≤ bound := by
  cases stage with
  | looking => exact step
  | trying => exact least
  | finished => exact (by decide : 1 ≤ 3).trans least

/-- An attempt ends the call, or the call looks again. -/
theorem rank_tried_le (q : Request) (reply : Reply) (e : ℕ) : (q.tried reply).rank e ≤ 2 := by
  cases q with
  | read =>
    unfold Request.tried afterFetch
    dsimp only
    split
    · exact Nat.le_succ 1
    · exact le_rfl
    · split <;> exact Nat.le_succ 1
  | write =>
    unfold Request.tried afterStore
    dsimp only
    split <;> first | exact le_rfl | exact Nat.le_succ 1
  | resize | size | control | close => exact Nat.le_succ 1

/-- A look at a raised flag ends the call. -/
theorem look_closed (q : Request) : q.look true = .barred ∨ q.look true = .leaving q.barred := by
  cases q <;> first | exact .inl rfl | exact .inr rfl

theorem rank_next {q : Request} {reply : Reply} {use next : Use} (closed : s.closed = true)
    (h : s.next? q reply use = some next) : next.rank q.effort < use.rank q.effort := by
  cases use with
  | entered =>
    cases h
    split
    case isTrue =>
      refine Nat.lt_succ_of_le ?_
      cases q with
      | read room within => cases within <;> exact rank_ofStage_le (Nat.le_add_left 2 2) (by omega) _
      | write data => exact rank_ofStage_le (Nat.le_add_left 2 2) (by omega) _
      | resize | size | control => exact le_rfl
      | close => exact Nat.le_add_left 1 3
    case isFalse => exact Nat.lt_add_left q.effort (by decide : 1 < 5)
  | looking =>
    cases h
    rw [closed]
    rcases look_closed q with ends | ends <;> rw [ends] <;> exact Nat.one_lt_two
  | polling =>
    obtain ⟨look, -, rfl⟩ := Option.map_eq_some_iff.mp h
    refine Nat.lt_succ_of_le ?_
    cases q with
    | read | write => exact rank_ofStage_le (Nat.le_succ 2) le_rfl _
    | resize | size | control | close => exact Nat.le_add_left 1 2
  | trying =>
    cases h
    exact Nat.lt_succ_of_le (rank_tried_le q reply _)
  | controlling left =>
    cases left <;> cases h <;> simp [Use.rank]
  | barred | queueing | controlled | leaving => cases h

theorem rank_step (h : Change r s m t) (closed : s.closed = true) :
    t.rank r m.call < s.rank r m.call := by
  have self (u : State) (next : Call) :
      (u.setCall m.call next).rank r m.call = next.rank (r m.call).effort := by
    rw [State.rank, State.setCall_self]
  cases h with
  | lineUp _ opened | raise _ opened =>
    rw [closed] at opened
    cases opened
  | goOn use next stage follows =>
    rw [self, State.rank, stage]
    exact rank_next closed follows
  | leave use answer stage done =>
    rw [State.leave, self, State.rank, stage]
    rcases done with rfl | ⟨rfl, -⟩ <;> exact Nat.one_pos
  | takeDevices has stage =>
    rw [self, State.rank, stage]
    show (if s.devices then Part.shared else []).length + 3 < 7
    split <;> simp [Part.shared]
  | unlock has parts stage =>
    rw [self, State.rank, stage]
    show (parts ++ if has then [Part.wakeWriter] else []).length + 1 < parts.length + 3
    cases has <;> simp
  | answer _ stage | enter stage | takeTurn stage | endTurn _ stage | takeWriter stage | wake _ stage
  | lock _ stage | release _ _ stage | finish stage =>
    rw [self, State.rank, stage]
    simp [Call.rank, Use.rank, Closing.rank]

theorem closed_step (h : Change r s m t) (closed : s.closed = true) : t.closed = true := by
  cases h <;> first | exact closed | rfl

/-- The steps of one call are counted by what it had left. -/
theorem countP_add_rank_le {q : List Move} (closed : s.closed = true) (h : s.run r q = some t) (i : ℕ) :
    q.countP (·.call = i) + t.rank r i ≤ s.rank r i := by
  induction q generalizing s with
  | nil =>
    cases h
    simp
  | cons m q ih =>
    obtain ⟨u, stepped, rest⟩ := Option.bind_eq_some_iff.mp h
    have change := change_of_step stepped
    have later := ih (closed_step change closed) rest
    rw [List.countP_cons]
    by_cases own : m.call = i
    · subst own
      have lower := rank_step change closed
      simp only [decide_true, if_true]
      omega
    · have same : u.rank r i = s.rank r i := by
        rw [State.rank, calls_step change (Ne.symm own), State.rank]
      simp only [own, decide_false, Bool.false_eq_true, if_false, add_zero]
      omega

theorem rank_le (inv : Inv r s) (inside : i ∈ s.readers) : s.rank r i ≤ (r i).effort + 5 := by
  obtain ⟨use, call⟩ := Call.exists_of_isInside ((inv.inside i).mp inside)
  rw [State.rank, call]
  cases use with
  | controlling left => exact Nat.add_le_add (inv.effort i left call) (by decide : 3 ≤ 5)
  | _ => simp [Call.rank, Use.rank]

theorem rank_pos (inv : Inv r s) (inside : i ∈ s.readers) : 0 < s.rank r i := by
  obtain ⟨use, call⟩ := Call.exists_of_isInside ((inv.inside i).mp inside)
  rw [State.rank, call]
  cases use <;> simp [Call.rank, Use.rank]

/-! ### What becomes of a poll -/

/-- A call that returns that the terminal is closed, once the flag is up. -/
def Call.IsDue (q : Request) : Call → Prop
  | inside .looking | inside .barred => True
  | inside (.leaving answer) | returned answer => answer = q.barred
  | _ => False

theorem isDue_step (h : Change r s m t) (closed : s.closed = true) (due : (s.calls i).IsDue (r i)) :
    (t.calls i).IsDue (r i) := by
  by_cases own : i = m.call
  case neg =>
    rw [calls_step h own]
    exact due
  subst own
  cases h with
  | goOn use next stage follows =>
    rw [stage] at due
    rw [State.setCall_self]
    cases use with
    | looking =>
      cases follows
      rw [closed]
      rcases look_closed (r m.call) with ends | ends <;> rw [ends]
      · trivial
      · rfl
    | barred | leaving => cases follows
    | entered | polling | trying | queueing | controlling | controlled => exact due.elim
  | leave use answer stage done =>
    rw [State.leave, State.setCall_self]
    rw [stage] at due
    rcases done with rfl | ⟨rfl, same⟩
    · exact due
    · exact same
  | answer _ stage | lineUp stage | raise stage | enter stage | takeTurn stage | endTurn _ stage
  | takeWriter stage | wake _ stage | lock _ stage | takeDevices _ stage | unlock _ _ stage
  | release _ _ stage | finish stage =>
    rw [stage] at due
    exact due.elim

theorem isDue_run {q : List Move} (closed : s.closed = true) (due : (s.calls i).IsDue (r i))
    (h : s.run r q = some t) : (t.calls i).IsDue (r i) := by
  induction q generalizing s with
  | nil =>
    cases h
    exact due
  | cons m q ih =>
    obtain ⟨u, stepped, rest⟩ := Option.bind_eq_some_iff.mp h
    have change := change_of_step stepped
    exact ih (closed_step change closed) (isDue_step change closed due) rest

/-- A poll that has seen the wake octet, or was interrupted, is the last one. -/
theorem isDue_polled {q : Request} {look : Look} (aware : isUnaware look = false) :
    (Call.inside (q.polled look)).IsDue q := by
  cases look with
  | interrupted => cases q <;> trivial
  | noticed woken ready =>
    cases woken with
    | true => cases q <;> first | rfl | trivial
    | false => cases aware
  | expired | failed => cases aware

theorem polled_of_step (h : s.step r m = some t) (polling : s.calls m.call = .inside .polling) :
    ∃ look, poll? s.woken (r m.call).isTimed m.reply.poll = some look ∧
      t.calls m.call = .inside ((r m.call).polled look) := by
  rw [State.step, polling] at h
  obtain ⟨next, follows, rfl⟩ := Option.map_eq_some_iff.mp h
  obtain ⟨look, polled, rfl⟩ := Option.map_eq_some_iff.mp follows
  exact ⟨look, polled, State.setCall_self _ _⟩

/-- A call polls, and the poll returns without having seen the wake octet. -/
def ReturnsUnaware (r : ℕ → Request) (s : State) (i : ℕ) (m : Move) : Prop :=
  m.call = i ∧ s.calls i = .inside .polling ∧
    ∃ look, poll? s.woken (r i).isTimed m.reply.poll = some look ∧ isUnaware look

/-- A call that polls when the flag is up answers that the terminal is closed, unless this poll returns
without having seen the wake octet. -/
theorem barred_or_unaware {q : List Move} {answer : Answer} (closed : s.closed = true)
    (polling : s.calls i = .inside .polling) (h : s.run r q = some t)
    (returned : t.calls i = .returned answer) :
    answer = (r i).barred ∨ ∃ p m rest u, q = p ++ m :: rest ∧ (∀ m ∈ p, m.call ≠ i) ∧
      s.run r p = some u ∧ ReturnsUnaware r u i m := by
  induction q generalizing s with
  | nil =>
    cases h
    rw [polling] at returned
    cases returned
  | cons m q ih =>
    obtain ⟨u, stepped, rest⟩ := Option.bind_eq_some_iff.mp h
    have change := change_of_step stepped
    have closed' := closed_step change closed
    by_cases own : m.call = i
    · subst own
      obtain ⟨look, polled, next⟩ := polled_of_step stepped polling
      cases unaware : isUnaware look with
      | true =>
        have here : ReturnsUnaware r s m.call m := ⟨rfl, polling, look, polled, unaware⟩
        exact .inr ⟨[], m, q, s, rfl, List.forall_mem_nil _, State.run_nil, here⟩
      | false =>
        have due := isDue_run closed' (by rw [next]; exact isDue_polled unaware) rest
        rw [returned] at due
        exact .inl due
    · have same : u.calls i = .inside .polling := (calls_step change (Ne.symm own)).trans polling
      refine (ih closed' same rest).imp_right ?_
      rintro ⟨p, m', rest', v, rfl, others, ran, unaware⟩
      refine ⟨m :: p, m', rest', v, rfl, List.forall_mem_cons.mpr ⟨own, others⟩, ?_, unaware⟩
      rw [State.run_cons, stepped]
      exact ran

/-! ### Somebody can go on -/

/-- Whether a call can make a step, even when the host has nothing to report. -/
def State.CanGoOn (r : ℕ → Request) (s : State) (i : ℕ) : Prop := ∃ t, s.step r ⟨i, {}⟩ = some t

theorem canGoOn_of_next {use next : Use} (stage : s.calls i = .inside use)
    (h : s.next? (r i) {} use = some next) : s.CanGoOn r i :=
  ⟨_, by rw [State.step, stage]; exact State.stepUse_of_next h⟩

/-- Whoever has the mutex of the control calls can go on. -/
theorem canGoOn_of_hasTurn (turn : (s.calls i).hasTurn) : s.CanGoOn r i := by
  cases call : s.calls i with
  | inside use =>
    cases use with
    | controlling left => cases left <;> exact canGoOn_of_next call rfl
    | controlled answer => exact ⟨_, by rw [State.step, call]; rfl⟩
    | _ => rw [call] at turn; cases turn
  | _ => rw [call] at turn; cases turn

/-- With an octet in the wake pipe a call inside can go on, or waits for one that can. -/
theorem canGoOn_or_waits (inv : Inv r s) (woken : s.woken = true) (inside : i ∈ s.readers) :
    s.CanGoOn r i ∨
      s.calls i = .inside .queueing ∧ ∃ j ∈ s.readers, s.control = some j ∧ s.CanGoOn r j := by
  obtain ⟨use, call⟩ := Call.exists_of_isInside ((inv.inside i).mp inside)
  cases use with
  | entered | looking | trying => exact .inl (canGoOn_of_next call rfl)
  | polling => exact .inl (canGoOn_of_next call (by rw [State.next?, woken]; rfl))
  | barred | leaving => exact .inl ⟨_, by rw [State.step, call]; rfl⟩
  | controlling | controlled => exact .inl (canGoOn_of_hasTurn (by rw [call]; rfl))
  | queueing =>
    cases owner : s.control with
    | none => exact .inl ⟨_, by rw [State.step, call]; simp only [State.stepUse, owner]; rfl⟩
    | some j =>
      have turn := (inv.turn j).mp owner
      exact .inr ⟨call, j, (inv.inside j).mpr (Call.isInside_of_hasTurn turn), rfl,
        canGoOn_of_hasTurn turn⟩

theorem Inv.exists_won (inv : Inv r s) (closing : (s.calls c).isClosing) :
    s.closed = true ∧ Won r s c := by
  rcases inv.won with ⟨-, untouched⟩ | ⟨closed, c', won⟩
  · rw [untouched.noClosing c] at closing
    cases closing
  · by_cases same : c = c'
    · exact ⟨closed, same ▸ won⟩
    · rw [won.only c same] at closing
      cases closing

/-- While a close waits for the lock, the octet that it wrote is in the wake pipe. -/
theorem Inv.wakes_of_wanting (inv : Inv r s) {has : Bool} (call : s.calls c = .closing (.wanting has)) :
    s.wakes = 1 := by
  have reached := (inv.exists_won (by rw [call]; rfl)).2.reached
  rw [call] at reached
  exact reached.2.1

/-- No call has many steps left, whether it is inside, waits for that or is the close. -/
theorem rank_le_add_ten (inv : Inv r s) (i : ℕ) : s.rank r i ≤ (r i).effort + 10 := by
  cases call : s.calls i with
  | inside use =>
    have inside := rank_le inv ((inv.inside i).mpr (by rw [call]; rfl))
    omega
  | closing stage =>
    have reached := (inv.exists_won (by rw [call]; rfl)).2.reached
    rw [call] at reached
    rw [State.rank, call]
    cases stage with
    | unlocking has parts =>
      rw [reached.2.2.2.2]
      show 6 ≤ _
      omega
    | releasing parts =>
      have length := congrArg List.length reached.2.2
      rw [List.length_append, show Part.all.length = 4 from rfl] at length
      show parts.length + 1 ≤ _
      omega
    | raised | waking | wanting | alone => simp [Call.rank, Closing.rank]
  | idle | wanting | returned => simp [State.rank, call, Call.rank]

/-- Nobody has the lock alone but a close on its way. -/
theorem Inv.writer_eq_none (inv : Inv r s) (won : Won r s c) (free : (s.calls c).isAlone = false) :
    s.writer = none := by
  cases held : s.writer with
  | none => rfl
  | some j =>
    have alone := (inv.alone j).mp held
    by_cases same : j = c
    · rw [same, free] at alone
      cases alone
    · have other := won.only j same
      rw [Call.isClosing_of_isAlone alone] at other
      cases other

theorem canGoOn_of_closing (inv : Inv r s) {stage : Closing} (call : s.calls c = .closing stage)
    (unused : ∀ has, stage = .wanting has → s.readers = ∅) : s.CanGoOn r c := by
  cases stage with
  | wanting has =>
    have won := (inv.exists_won (by rw [call]; rfl)).2
    have free := inv.writer_eq_none won (by rw [call]; rfl)
    have locks : s.stepClosing c (.wanting has) = some _ := if_pos ⟨unused has rfl, free⟩
    exact ⟨_, by rw [State.step, call]; exact locks⟩
  | releasing parts => cases parts <;> exact ⟨_, by rw [State.step, call]; rfl⟩
  | raised | waking | alone | unlocking => exact ⟨_, by rw [State.step, call]; rfl⟩

/-- A close on its way can go on, or waits for the lock and somebody inside can. -/
theorem exists_canGoOn (inv : Inv r s) (closing : (s.calls c).isClosing) :
    ∃ i, (i = c ∨ i ∈ s.readers) ∧ s.CanGoOn r i := by
  obtain ⟨stage, call⟩ := Call.exists_of_isClosing closing
  by_cases unused : ∀ has, stage = .wanting has → s.readers = ∅
  · exact ⟨c, .inl rfl, canGoOn_of_closing inv call unused⟩
  · push Not at unused
    obtain ⟨has, rfl, i, inside⟩ := unused
    have woken : s.woken = true := by simp [State.woken, inv.wakes_of_wanting call]
    rcases canGoOn_or_waits inv woken inside with goesOn | ⟨-, j, inside, -, goesOn⟩
    · exact ⟨i, .inr inside, goesOn⟩
    · exact ⟨j, .inr inside, goesOn⟩

/-! ### What was let go of -/

namespace Won

theorem released_eq_nil (won : Won r s c) (there : s.devices = true) : s.released = [] := by
  have reached := won.reached
  cases call : s.calls c with
  | closing stage =>
    rw [call] at reached
    cases stage with
    | raised | waking | wanting | alone => exact reached.2.2.2
    | unlocking => exact reached.2.2.2.1
    | releasing => exact nomatch there.symm.trans reached.2.1
  | returned =>
    rw [call] at reached
    exact nomatch there.symm.trans reached.2.1
  | idle | wanting | inside => rw [call] at reached; exact reached.elim

theorem released_of_ended (won : Won r s c) (ended : (s.calls c).isClosing = false) :
    s.released.reverse = Part.all := by
  have reached := won.reached
  cases call : s.calls c with
  | closing => rw [call] at ended; cases ended
  | returned => rw [call] at reached; exact reached.2.2
  | idle | wanting | inside => rw [call] at reached; exact reached.elim

/-- What was let go of is a part of all there is, in order. -/
theorem exists_released_append (won : Won r s c) : ∃ parts, s.released.reverse ++ parts = Part.all := by
  cases there : s.devices with
  | true => exact ⟨Part.all, by rw [won.released_eq_nil there]; rfl⟩
  | false =>
    have reached := won.reached
    cases call : s.calls c with
    | closing stage =>
      rw [call] at reached
      cases stage with
      | raised | waking | wanting | alone => exact nomatch there.symm.trans reached.2.2.1
      | unlocking => exact ⟨Part.all, by rw [reached.2.2.2.1]; rfl⟩
      | releasing parts => exact ⟨parts, reached.2.2⟩
    | returned => exact ⟨[], by rw [List.append_nil, won.released_of_ended (by rw [call]; rfl)]⟩
    | idle | wanting | inside => rw [call] at reached; exact reached.elim

end Won

theorem count_released_le_one (inv : Inv r s) (part : Part) : s.released.count part ≤ 1 := by
  rcases inv.won with ⟨-, untouched⟩ | ⟨-, c, won⟩
  · simp [untouched.released]
  · obtain ⟨parts, all⟩ := won.exists_released_append
    have total := Part.count_all part
    rw [← all, List.count_append, List.count_reverse] at total
    omega

/-! ### The close ends -/

/-- How many steps a close and the calls inside have left together. -/
def State.load (r : ℕ → Request) (s : State) (c : ℕ) : ℕ := s.rank r c + ∑ i ∈ s.readers, s.rank r i

/-- No call gets inside but one that waited for that. -/
theorem readers_step (h : Change r s m t) (settled : (s.calls m.call).isInside ∨ (s.calls m.call).isClosing) :
    t.readers ⊆ s.readers := by
  cases h with
  | enter stage =>
    rw [stage] at settled
    rcases settled with settled | settled <;> cases settled
  | leave => exact Finset.erase_subset _ _
  | _ => exact Finset.Subset.refl _

theorem load_step (h : Change r s m t) (closed : s.closed = true) (inv : Inv r s)
    (closing : (s.calls c).isClosing) (mover : m.call = c ∨ m.call ∈ s.readers) :
    t.readers ⊆ s.readers ∧ t.load r c < s.load r c := by
  have settled : (s.calls m.call).isInside ∨ (s.calls m.call).isClosing := by
    rcases mover with same | inside
    · exact .inr (by rw [same]; exact closing)
    · exact .inl ((inv.inside _).mp inside)
  have outside : c ∉ s.readers := by
    obtain ⟨stage, call⟩ := Call.exists_of_isClosing closing
    rw [inv.inside c, call]
    nofun
  have lower := rank_step h closed
  have same (i : ℕ) (other : i ≠ m.call) : t.rank r i = s.rank r i := by
    rw [State.rank, calls_step h other, State.rank]
  have fewer := readers_step h settled
  have below : ∑ i ∈ t.readers, t.rank r i ≤ ∑ i ∈ s.readers, t.rank r i :=
    Finset.sum_le_sum_of_subset fewer
  refine ⟨fewer, ?_⟩
  unfold State.load
  rcases mover with rfl | inside
  · have kept : ∑ i ∈ s.readers, t.rank r i = ∑ i ∈ s.readers, s.rank r i :=
      Finset.sum_congr rfl fun i among => same i fun own => outside (own ▸ among)
    omega
  · have kept : t.rank r c = s.rank r c := same c fun own => outside (own ▸ inside)
    have less : ∑ i ∈ s.readers, t.rank r i < ∑ i ∈ s.readers, s.rank r i := by
      refine Finset.sum_lt_sum (fun i _ => ?_) ⟨m.call, inside, lower⟩
      by_cases own : i = m.call
      · exact own ▸ lower.le
      · exact (same i own).le
    omega

/-- A step of the close leaves it on its way, or ends it. -/
theorem closing_step (h : Change r s m t) (closing : (s.calls c).isClosing) :
    (t.calls c).isClosing ∨ t.calls c = .returned .closed := by
  by_cases own : c = m.call
  case neg => exact .inl (by rw [calls_step h own]; exact closing)
  subst own
  cases h with
  | finish => exact .inr (State.setCall_self _ _)
  | takeWriter | wake | lock | takeDevices | unlock | release =>
    exact .inl (by rw [State.setCall_self]; rfl)
  | answer _ stage | lineUp stage | raise stage | enter stage | goOn _ _ stage | takeTurn stage
  | endTurn _ stage | leave _ _ stage =>
    rw [stage] at closing
    cases closing

/-- The close and the calls inside can end the close by themselves, and then everything was let go of. -/
theorem exists_returned (inv : Inv r s) (closing : (s.calls c).isClosing) :
    ∃ q t, s.run r q = some t ∧ t.calls c = .returned .closed ∧ t.released.reverse = Part.all ∧
      ∀ m ∈ q, m.call = c ∨ m.call ∈ s.readers := by
  induction measured : s.load r c using Nat.strong_induction_on generalizing s with
  | _ n ih =>
    obtain ⟨i, among, t, stepped⟩ := exists_canGoOn inv closing
    have change := change_of_step stepped
    obtain ⟨closed, won⟩ := inv.exists_won closing
    obtain ⟨fewer, less⟩ := load_step change closed inv closing among
    rcases closing_step change closing with onward | ended
    · obtain ⟨q, u, ran, returned, released, movers⟩ :=
        ih _ (measured ▸ less) (inv_step change inv) onward rfl
      refine ⟨⟨i, {}⟩ :: q, u, ?_, returned, released,
        List.forall_mem_cons.mpr ⟨among, fun m member => ?_⟩⟩
      · rw [State.run_cons, stepped]
        exact ran
      · exact (movers m member).imp_right fun inside => fewer inside
    · have released := (won_step change closed won).2.released_of_ended (by rw [ended]; rfl)
      exact ⟨[⟨i, {}⟩], t, by rw [State.run_cons, stepped]; rfl, ended, released, by simpa using among⟩

/-- A close gets through and releases everybody.

Every part is let go of once, and never while a call holds the devices. A close that waits for the lock
waits for calls inside: each of them can make a step, or waits for the mutex of the control calls, whose
owner is inside too and can make one. Once the flag is up every call has few steps left, and those inside
leave after a few; so the close and the calls inside can always end it, and whoever waited to get inside
gets there. A call that polls when the flag is up answers that the terminal is closed, unless this very poll
returns without having seen the wake octet. -/
theorem close_gets_through {p : List Move} (ran : State.run r {} p = some s) :
    (∀ part, s.released.count part ≤ 1) ∧
      (∀ i, (s.calls i).holds → s.devices = true ∧ s.released = []) ∧
      (s.closed = true → (∀ i, (s.calls i).isClosing = false) →
        (∀ part, s.released.count part = 1) ∧ ∀ i, s.calls i = .wanting → s.CanGoOn r i) ∧
      (∀ c has, s.calls c = .closing (.wanting has) →
        s.wakes = 1 ∧ (s.readers = ∅ → s.CanGoOn r c) ∧
          ∀ i ∈ s.readers, s.CanGoOn r i ∨ s.calls i = .inside .queueing ∧
            ∃ j ∈ s.readers, s.control = some j ∧ s.CanGoOn r j) ∧
      (∀ c, (s.calls c).isClosing → ∃ q t, s.run r q = some t ∧ t.calls c = .returned .closed ∧
        t.released.reverse = Part.all ∧ ∀ m ∈ q, m.call = c ∨ m.call ∈ s.readers) ∧
      (s.closed = true → ∀ q t, s.run r q = some t → ∀ i,
        q.countP (·.call = i) ≤ (r i).effort + 10 ∧
          (i ∈ s.readers → i ∈ t.readers → q.countP (·.call = i) ≤ (r i).effort + 4) ∧
          ∀ answer, s.calls i = .inside .polling → t.calls i = .returned answer →
            answer = (r i).barred ∨ ∃ p m rest u, q = p ++ m :: rest ∧ (∀ m ∈ p, m.call ≠ i) ∧
              s.run r p = some u ∧ ReturnsUnaware r u i m) := by
  have inv : Inv r s := inv_run inv_init ran
  refine ⟨count_released_le_one inv, fun i holds => ?_, fun closed ended => ?_, fun c has call => ?_,
    fun c => exists_returned inv, fun closed q t later i => ⟨?_, fun before after => ?_, ?_⟩⟩
  · have there : s.devices = true := by
      by_contra gone
      rw [inv.gone (by simpa using gone) i] at holds
      cases holds
    refine ⟨there, ?_⟩
    rcases inv.won with ⟨-, untouched⟩ | ⟨-, c, won⟩
    · exact untouched.released
    · exact won.released_eq_nil there
  · rcases inv.won with ⟨opened, -⟩ | ⟨-, c, won⟩
    · rw [closed] at opened
      cases opened
    refine ⟨fun part => ?_, fun i waits => ?_⟩
    · rw [← List.count_reverse, won.released_of_ended (ended c), Part.count_all]
    · have free : s.writer = none := by
        refine inv.writer_eq_none won ?_
        rw [← Bool.not_eq_true]
        intro alone
        have closing := Call.isClosing_of_isAlone alone
        rw [ended c] at closing
        cases closing
      exact ⟨_, by rw [State.step, waits]; simp only [free]; rfl⟩
  · have wakes := inv.wakes_of_wanting call
    exact ⟨wakes, fun unused => canGoOn_of_closing inv call fun _ _ => unused,
      fun i => canGoOn_or_waits inv (by simp [State.woken, wakes])⟩
  · have counted := countP_add_rank_le closed later i
    have most := rank_le_add_ten inv i
    omega
  · have counted := countP_add_rank_le closed later i
    have most := rank_le inv before
    have least := rank_pos (inv_run inv later) after
    omega
  · exact fun answer polling returned => barred_or_unaware closed polling later returned

/-- A read polls, one control call has its turn and another call waits for its own. A close waits for all of
them, and a second one has returned. -/
theorem close_gets_through_crowded :
    ∃ (r : ℕ → Request) (p : List Move) (s : State), State.run r {} p = some s ∧
      s.calls 0 = .inside .polling ∧ s.calls 1 = .inside (.controlling 3) ∧
      s.calls 2 = .inside .queueing ∧ s.calls 3 = .closing (.wanting true) ∧
      s.calls 4 = .returned .closed ∧
      (∀ part, s.released.count part ≤ 1) ∧
      (∃ q t, s.run r q = some t ∧ t.calls 3 = .returned .closed ∧ t.released.reverse = Part.all) ∧
      ∃ q t, s.run r q = some t ∧ t.calls 0 = .returned (.read (.error .closed)) ∧
        (.read (.error .closed) = (r 0).barred ∨ ∃ p m rest u, q = p ++ m :: rest ∧
          (∀ m ∈ p, m.call ≠ 0) ∧ s.run r p = some u ∧ ReturnsUnaware r u 0 m) := by
  let r : ℕ → Request
    | 0 => .read 64 none
    | 1 => .control 3
    | 2 => .size
    | _ => .close
  let p : List Move := [0, 0, 0, 0, 1, 1, 1, 1, 2, 2, 2, 3, 3, 3, 4].map fun i => ⟨i, {}⟩
  let q : List Move := [⟨0, {}⟩, ⟨0, {}⟩]
  obtain ⟨s, ran, polls, hasTurn, queues, waits, late, closed, t, later, returned⟩ :
      ∃ s, State.run r {} p = some s ∧ s.calls 0 = .inside .polling ∧
        s.calls 1 = .inside (.controlling 3) ∧ s.calls 2 = .inside .queueing ∧
        s.calls 3 = .closing (.wanting true) ∧ s.calls 4 = .returned .closed ∧ s.closed = true ∧
        ∃ t, s.run r q = some t ∧ t.calls 0 = .returned (.read (.error .closed)) :=
    ⟨_, rfl, rfl, rfl, rfl, rfl, rfl, rfl, _, rfl, rfl⟩
  obtain ⟨once, -, -, -, through, released⟩ := close_gets_through ran
  obtain ⟨q', t', ends, ended, all, -⟩ := through 3 (by rw [waits]; rfl)
  obtain ⟨-, -, answered⟩ := released closed q t later 0
  exact ⟨r, p, s, ran, polls, hasTurn, queues, waits, late, once, ⟨q', t', ends, ended, all⟩, q, t, later,
    returned, answered _ polls returned⟩

end PseudoTerminal.Terminal.Calls
