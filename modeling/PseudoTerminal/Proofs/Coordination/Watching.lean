import PseudoTerminal.Proofs.Coordination.Job

/-! The watcher's loop over everything that it may meet. In a round it takes up a notice, or no notice comes
and its wait may run out; the round says how the action and the kills would end there. What the watcher does
before it returns depends on two rounds only: the first cancellation, and the first round without a notice
that is past the delay after it. No round after the exit counts. If the clock cannot hold the end of the delay,
the watcher breaks down in the round of the first cancellation. -/

namespace PseudoTerminal.Watch

/-! ### Rounds -/

/-- What a round meets. -/
inductive Event
  | notice (n : Notice)
  /-- No notice comes. -/
  | lapse
  /-- Nobody is left to give notice. -/
  | silence

structure Round where
  event : Event
  /-- The time when the action has ended, or up to which no notice came. -/
  now : ℕ := 0
  /-- How the action ends, or the kill for want of one. -/
  reach : Except Fault Unit := .ok ()
  /-- How any other kill ends. -/
  kill : Except Fault Unit := .ok ()

namespace Round

def isCancelled (r : Round) : Bool :=
  match r.event with
  | .notice .cancelled => true
  | _ => false

/-- Whether the loop ends with the round. -/
def isEnd (r : Round) : Bool :=
  match r.event with
  | .notice (.exited _) | .silence => true
  | _ => false

/-- Whether no notice came up to that moment. -/
def isPast (r : Round) (moment : ℕ) : Bool :=
  match r.event with
  | .lapse => moment ≤ r.now
  | _ => false

/-- Whether the action failed, for another reason than that the program was gone. -/
def hasFailed (r : Round) : Bool :=
  match r.reach with
  | .ok () | .error .processDone => false
  | .error _ => true

/-- When a program that was cancelled in the round has to be gone, if the clock can hold that. -/
def due (r : Round) (delay : Option ℕ) : Option ℕ :=
  match r.reach with
  | .ok () => delay.map (r.now + ·)
  | .error _ => none

/-- Whether a watcher breaks down when it is cancelled in the round. -/
def breaksDown (r : Round) (delay : Option ℕ) : Bool :=
  match r.reach with
  | .ok () => overruns delay r.now
  | .error _ => false

end Round

/-- What a watcher does to the program. -/
inductive Deed
  /-- It runs the action. -/
  | act
  /-- It kills for want of an action. -/
  | kill
  /-- It kills because the action failed. -/
  | killInstead
  /-- It kills because the delay is over. -/
  | killOverdue
  deriving DecidableEq, Repr

/-- How far the loop has come. -/
structure Log where
  watch : Watch
  /-- What was done, and in which round. -/
  deeds : List (Deed × Round) := []
  returned : Option (Except Fault ExitState) := none

namespace Log

def noted (l : Log) (d : Deed) (r : Round) : Log := { l with deeds := l.deeds ++ [(d, r)] }

/-- Kills after a failed action. -/
def killInstead (l : Log) (r : Round) : Log :=
  { l.noted .killInstead r with watch := (l.watch.reachedInstead r.kill).2 }

/-- Goes on after the action, or the kill for want of one. -/
def settleReached (l : Log) (r : Round) : Log :=
  match l.watch.reached r.now r.reach with
  | (.killInstead, watch) => { l with watch }.killInstead r
  | (.finish result, watch) => { l with watch, returned := some result }
  | (_, watch) => { l with watch }

/-- Carries out what the watch demands after a notice. -/
def comply (l : Log) (r : Round) : Demand → Log
  | .listen => l
  | .act => (l.noted .act r).settleReached r
  | .kill => (l.noted .kill r).settleReached r
  | .killInstead => l.killInstead r
  | .finish result => { l with returned := some result }

/-- One round; none after the loop returned. -/
def round (l : Log) (r : Round) : Log :=
  match l.returned, r.event with
  | some _, _ => l
  | none, .notice n => { l with watch := (l.watch.notice n).2 }.comply r (l.watch.notice n).1
  | none, .lapse =>
    if l.watch.isOverdue r.now then { l.noted .killOverdue r with watch := l.watch.expire } else l
  | none, .silence => { l with returned := some (.error reaperGone) }

end Log

variable {hasAction : Bool} {delay : Option ℕ} {l : Log} {r c e : Round} {heard before after rest : List Round}

/-- The loop of a watcher that starts out with an action or without one, and maybe with a delay. -/
def run (hasAction : Bool) (delay : Option ℕ) (rounds : List Round) : Log :=
  rounds.foldl Log.round { watch := { hasAction, delay } }

theorem run_append (rounds more : List Round) :
    run hasAction delay (rounds ++ more) = more.foldl Log.round (run hasAction delay rounds) :=
  List.foldl_append

theorem run_concat (rounds : List Round) (r : Round) :
    run hasAction delay (rounds ++ [r]) = (run hasAction delay rounds).round r :=
  run_append rounds [r]

theorem Log.round_of_returned (returned : l.returned.isSome) : l.round r = l := by
  obtain ⟨result, has⟩ := Option.isSome_iff_exists.mp returned
  rw [round, has]

theorem Log.foldl_of_returned (returned : l.returned.isSome) : rest.foldl Log.round l = l := by
  induction rest with
  | nil => rfl
  | cons r rest ih => rw [List.foldl_cons, round_of_returned returned, ih]

/-! ### Before the first cancellation -/

/-- A round that is neither an end nor a cancellation finds no notice. -/
theorem Round.event_eq_lapse (goes : r.isEnd = false) (quiet : r.isCancelled = false) :
    r.event = .lapse := by
  obtain ⟨event, now, reach, kill⟩ := r
  rcases event with ⟨_ | _⟩ | _ | _
  case lapse => rfl
  all_goals simp_all [isEnd, isCancelled]

theorem run_quiet (goes : ∀ r ∈ before, r.isEnd = false) (quiet : ∀ r ∈ before, r.isCancelled = false) :
    run hasAction delay before = { watch := { hasAction, delay } } := by
  induction before using List.reverseRecOn with
  | nil => rfl
  | append_singleton before r ih =>
    rw [run_concat, ih (fun r among => goes r (List.mem_append_left _ among))
      fun r among => quiet r (List.mem_append_left _ among)]
    have last : r ∈ before ++ [r] := List.mem_append_right _ (List.mem_singleton_self r)
    rw [Log.round, Round.event_eq_lapse (goes r last) (quiet r last)]
    rfl

/-! ### After the first cancellation -/

/-- What the first cancellation brings about. -/
def firstDeeds (hasAction : Bool) (c : Round) : List (Deed × Round) :=
  (if hasAction then .act else .kill, c) :: if c.hasFailed then [(.killInstead, c)] else []

/-- The first round without a notice that is past the delay. -/
def overdue (delay : Option ℕ) (c : Round) (after : List Round) : Option Round :=
  (c.due delay).bind fun moment => after.find? (·.isPast moment)

/-- Whether the cancellation in the round reached the program, or the kill after it did. -/
def Reached (c : Round) : Prop :=
  c.reach = .ok () ∨ c.hasFailed ∧ c.kill ≠ .error .processDone

instance (c : Round) : Decidable (Reached c) := inferInstanceAs (Decidable (_ ∨ _))

/-- The loop after a first cancellation that breaks the watcher down. -/
def afterBreakdown (hasAction : Bool) (delay : Option ℕ) (c : Round) : Log where
  watch := { hasAction, delay, cancelled := true, cause := true, killed := !hasAction }
  deeds := firstDeeds hasAction c
  returned := some (.error brokenDown)

/-- The loop after any other first cancellation and more rounds that do not end it. -/
def afterCancel (hasAction : Bool) (delay : Option ℕ) (c : Round) (after : List Round) : Log where
  watch :=
    { hasAction, delay
      cancelled := true
      cause := Reached c
      killed := hasAction = false ∧ c.reach = .ok ()
      deadline := if (overdue delay c after).isSome then none else c.due delay }
  deeds := firstDeeds hasAction c ++ (overdue delay c after).toList.map (Prod.mk .killOverdue)

theorem overdue_nil : overdue delay c [] = none := by
  cases due : c.due delay <;> simp [overdue, due]

theorem Round.reach_cases (c : Round) :
    c.reach = .ok () ∨ c.reach = .error .processDone ∨ c.hasFailed := by
  rcases reach : c.reach with ⟨_ | _ | _ | _⟩ | ⟨⟩ <;> simp [hasFailed, reach]

theorem Round.reach_ne_of_failed {c : Round} (failed : c.hasFailed) : c.reach ≠ .ok () := by
  intro ok
  rw [hasFailed, ok] at failed
  cases failed

theorem reachedInstead_eq (w : Watch) (result : Except Fault Unit) :
    (w.reachedInstead result).2 = { w with cause := w.cause || result ≠ .error .processDone } := by
  rcases result with ⟨_ | _ | _ | _⟩ | ⟨⟩ <;> simp [reachedInstead]

theorem Log.settleReached_of_ok (ok : c.reach = .ok ()) (fits : c.breaksDown l.watch.delay = false) :
    l.settleReached c =
      { l with
        watch :=
          { l.watch with cause := true, killed := !l.watch.hasAction, deadline := c.due l.watch.delay } } := by
  rw [Round.breaksDown, ok] at fits
  rw [settleReached, ok, reached_of_fits fits, Round.due, ok]

theorem Log.settleReached_of_breaksDown (breaks : c.breaksDown l.watch.delay) :
    l.settleReached c =
      { l with
        watch := { l.watch with cause := true, killed := !l.watch.hasAction }
        returned := some (.error brokenDown) } := by
  unfold Round.breaksDown at breaks
  split at breaks
  case h_1 ok => rw [settleReached, ok, reached_of_overruns breaks]
  case h_2 => cases breaks

theorem Log.settleReached_of_done (done : c.reach = .error .processDone) : l.settleReached c = l := by
  simp only [settleReached, reached, done]

theorem Log.settleReached_of_failed (failed : c.hasFailed) : l.settleReached c = l.killInstead c := by
  rw [Round.hasFailed] at failed
  unfold settleReached reached
  split at failed <;> simp_all

/-- The first cancellation is taken up. -/
theorem round_first_eq (first : c.isCancelled) :
    Log.round { watch := { hasAction, delay } } c =
      (Log.noted { watch := { hasAction, delay, cancelled := true } }
        (if hasAction then .act else .kill) c).settleReached c := by
  obtain ⟨event, now, reach, kill⟩ := c
  rcases event with ⟨_ | _⟩ | _ | _
  case notice.cancelled => cases hasAction <;> rfl
  all_goals cases first

theorem round_breaksDown (first : c.isCancelled) (breaks : c.breaksDown delay) :
    Log.round { watch := { hasAction, delay } } c = afterBreakdown hasAction delay c := by
  have fine : c.hasFailed = false := by
    unfold Round.breaksDown at breaks
    unfold Round.hasFailed
    split at breaks
    case h_1 ok => rw [ok]
    case h_2 => cases breaks
  rw [round_first_eq first, Log.settleReached_of_breaksDown breaks]
  simp [Log.noted, afterBreakdown, firstDeeds, fine]

theorem round_first (first : c.isCancelled) (fits : c.breaksDown delay = false) :
    Log.round { watch := { hasAction, delay } } c = afterCancel hasAction delay c [] := by
  rw [round_first_eq first]
  rcases c.reach_cases with ok | done | failed
  · have fine : c.hasFailed = false := by rw [Round.hasFailed, ok]
    rw [Log.settleReached_of_ok ok fits]
    simp [Log.noted, afterCancel, firstDeeds, overdue_nil, Reached, ok, fine]
  · have fine : c.hasFailed = false := by rw [Round.hasFailed, done]
    simp [Log.settleReached_of_done done, Log.noted, afterCancel, firstDeeds, overdue_nil, Reached, done,
      fine, Round.due]
  · have bad : c.reach ≠ .ok () := c.reach_ne_of_failed failed
    have never : c.due delay = none := by
      unfold Round.due
      split <;> simp_all
    rw [Log.settleReached_of_failed failed, Log.killInstead, reachedInstead_eq]
    simp [Log.noted, afterCancel, firstDeeds, overdue_nil, Reached, failed, bad, never]

/-- A cancellation after the first one counts for nothing. -/
theorem round_again (again : r.isCancelled) :
    (afterCancel hasAction delay c after).round r = afterCancel hasAction delay c after := by
  obtain ⟨event, now, reach, kill⟩ := r
  rcases event with ⟨_ | _⟩ | _ | _
  case notice.cancelled => rfl
  all_goals cases again

theorem overdue_concat (r : Round) :
    overdue delay c (after ++ [r]) =
      (overdue delay c after).or (if (c.due delay).any r.isPast then some r else none) := by
  cases due : c.due delay <;> simp [overdue, due, List.find?_append]

theorem Round.isPast_of_lapse (lapse : r.event = .lapse) (moment : ℕ) :
    r.isPast moment = decide (moment ≤ r.now) := by
  rw [isPast, lapse]

theorem Round.not_isPast_of_isCancelled (again : r.isCancelled) (moment : ℕ) : r.isPast moment = false := by
  obtain ⟨event, now, reach, kill⟩ := r
  rcases event with ⟨_ | _⟩ | _ | _
  case notice.cancelled => rfl
  all_goals cases again

/-- A round that finds no notice kills if it is the first one past the delay. -/
theorem round_lapse (lapse : r.event = .lapse) :
    (afterCancel hasAction delay c after).round r = afterCancel hasAction delay c (after ++ [r]) := by
  have past : r.isPast = fun moment => decide (moment ≤ r.now) := funext (Round.isPast_of_lapse lapse)
  have step : (afterCancel hasAction delay c after).round r =
      let l := afterCancel hasAction delay c after
      if l.watch.isOverdue r.now then { l.noted .killOverdue r with watch := l.watch.expire } else l := by
    rw [Log.round, lapse]
    rfl
  rw [step]
  rcases fired : overdue delay c after with _ | late
  · by_cases past_due : (c.due delay).any r.isPast
    · rw [past] at past_due
      simp [afterCancel, isOverdue, expire, Log.noted, overdue_concat, fired, past, past_due]
    · rw [past] at past_due
      simp [afterCancel, isOverdue, overdue_concat, fired, past, past_due]
  · simp [afterCancel, isOverdue, overdue_concat, fired]

/-- Rounds that do not end the loop, after the first cancellation. -/
theorem round_afterCancel (goes : r.isEnd = false) :
    (afterCancel hasAction delay c after).round r = afterCancel hasAction delay c (after ++ [r]) := by
  by_cases again : r.isCancelled
  · have never : (c.due delay).any r.isPast = false := by
      rw [funext (Round.not_isPast_of_isCancelled again)]
      cases c.due delay <;> rfl
    rw [round_again again, afterCancel, afterCancel, overdue_concat, never]
    simp
  · exact round_lapse (Round.event_eq_lapse goes (by simpa using again))

theorem run_afterCancel (goes : ∀ r ∈ before ++ c :: after, r.isEnd = false)
    (quiet : ∀ r ∈ before, r.isCancelled = false) (first : c.isCancelled) (fits : c.breaksDown delay = false) :
    run hasAction delay (before ++ c :: after) = afterCancel hasAction delay c after := by
  induction after using List.reverseRecOn with
  | nil =>
    rw [run_concat, run_quiet (fun r among => goes r (List.mem_append_left _ among)) quiet,
      round_first first fits]
  | append_singleton after r ih =>
    have shape : before ++ c :: (after ++ [r]) = (before ++ c :: after) ++ [r] := by simp
    rw [shape] at goes ⊢
    rw [run_concat, ih fun r among => goes r (List.mem_append_left _ among),
      round_afterCancel (goes r (List.mem_append_right _ (List.mem_singleton_self r)))]

/-- Nothing happens any more after the watcher broke down. -/
theorem run_afterBreakdown (goes : ∀ r ∈ before, r.isEnd = false) (quiet : ∀ r ∈ before, r.isCancelled = false)
    (first : c.isCancelled) (breaks : c.breaksDown delay) :
    run hasAction delay (before ++ c :: after) = afterBreakdown hasAction delay c := by
  rw [run_append, List.foldl_cons, run_quiet goes quiet, round_breaksDown first breaks,
    Log.foldl_of_returned rfl]

/-! ### The exit -/

/-- Rounds after the exit change nothing. -/
theorem run_of_exit {result : Except Fault ExitKind} (running : (run hasAction delay heard).returned = none)
    (exit : e.event = .notice (.exited result)) :
    run hasAction delay (heard ++ e :: rest) =
      let l := run hasAction delay heard
      { l with
        returned := some (result.map fun kind =>
          ⟨kind, l.watch.cause && !(l.watch.killed && kind.code?.isSome)⟩) } := by
  have ending : (run hasAction delay heard).round e =
      let l := run hasAction delay heard
      { l with
        returned := some (result.map fun kind =>
          ⟨kind, l.watch.cause && !(l.watch.killed && kind.code?.isSome)⟩) } := by
    rw [Log.round, running, exit]
    cases result <;> rfl
  rw [run_append, List.foldl_cons, ending, Log.foldl_of_returned rfl]

/-- Whether an exit of that kind counts as cancelled. A program that exits with a code was not killed for
want of an action. -/
def Counts (hasAction : Bool) (c : Round) (kind : ExitKind) : Prop :=
  c.reach = .ok () ∧ ¬ (hasAction = false ∧ kind.code?.isSome) ∨
    c.hasFailed ∧ c.kill ≠ .error .processDone

instance (c : Round) (kind : ExitKind) : Decidable (Counts hasAction c kind) :=
  inferInstanceAs (Decidable (_ ∨ _))

theorem cause_afterCancel (kind : ExitKind) :
    ((afterCancel hasAction delay c after).watch.cause &&
      !((afterCancel hasAction delay c after).watch.killed && kind.code?.isSome)) =
        decide (Counts hasAction c kind) := by
  have bad := c.reach_ne_of_failed
  simp only [afterCancel, Counts, Reached]
  grind

/-- The loop returns at the first exit, with its kind or its error, and not before, unless the watcher breaks
down. Without a cancellation before that it does nothing to the program. Otherwise it runs the action, or kills,
in the round of the first one. If the action succeeds and the clock cannot hold the end of the delay, the watcher
breaks down there, and that is its result. Else it kills there once more if the action failed, and then only at
the first round past the delay, if the action succeeded. Nothing else that happens moves that deadline. -/
theorem first_cancellation_decides (hasAction : Bool) (delay : Option ℕ) {heard : List Round} {e : Round}
    {result : Except Fault ExitKind} (rest : List Round) (goes : ∀ r ∈ heard, r.isEnd = false)
    (exit : e.event = .notice (.exited result)) :
    let log := run hasAction delay (heard ++ e :: rest)
    ((∀ r ∈ heard, r.isCancelled = false) →
      (run hasAction delay heard).returned = none ∧
      log.deeds = [] ∧ log.returned = some (result.map fun kind => ⟨kind, false⟩)) ∧
    (∀ before c after, heard = before ++ c :: after → (∀ r ∈ before, r.isCancelled = false) →
      c.isCancelled →
        (run hasAction delay before).returned = none ∧
        (c.breaksDown delay = true →
          (run hasAction delay (before ++ [c])).returned = some (.error brokenDown) ∧
          log.deeds = firstDeeds hasAction c ∧ log.returned = some (.error brokenDown)) ∧
        (c.breaksDown delay = false →
          (run hasAction delay heard).returned = none ∧
          log.deeds = firstDeeds hasAction c ++ (overdue delay c after).toList.map (Prod.mk .killOverdue) ∧
          log.watch.deadline = (if (overdue delay c after).isSome then none else c.due delay) ∧
          log.returned = some (result.map fun kind => ⟨kind, Counts hasAction c kind⟩))) := by
  intro log
  constructor
  · intro quiet
    have start : run hasAction delay heard = { watch := { hasAction, delay } } := run_quiet goes quiet
    have running : (run hasAction delay heard).returned = none := by rw [start]
    rw [show log = _ from run_of_exit running exit, start]
    exact ⟨rfl, rfl, rfl⟩
  · rintro before c after rfl quiet first
    have early := fun r among => goes r (List.mem_append_left _ among)
    refine ⟨by rw [run_quiet early quiet], fun breaks => ?_, fun fits => ?_⟩
    · have broken : log = afterBreakdown hasAction delay c := by
        have whole : run hasAction delay (before ++ c :: (after ++ e :: rest)) =
            afterBreakdown hasAction delay c := run_afterBreakdown early quiet first breaks
        rw [← whole, ← List.cons_append, ← List.append_assoc]
      rw [run_afterBreakdown early quiet first breaks, broken]
      exact ⟨rfl, rfl, rfl⟩
    · have cancelled : run hasAction delay (before ++ c :: after) = afterCancel hasAction delay c after :=
        run_afterCancel goes quiet first fits
      have running : (run hasAction delay (before ++ c :: after)).returned = none := by rw [cancelled]; rfl
      rw [show log = _ from run_of_exit running exit, cancelled]
      refine ⟨rfl, rfl, rfl, ?_⟩
      simp only [cause_afterCancel]

/-- A lapse in time, the cancellation, one too many, and two lapses around the end of the delay: the program
is killed once more there, and dies of it. With a delay beyond the last moment of the clock the watcher breaks
down at the cancellation. -/
theorem first_cancellation_decides_overdue :
    let c : Round := { event := .notice .cancelled, now := 3 }
    let again : Round := { event := .notice .cancelled, now := 8 }
    let lapse (now : ℕ) : Round := { event := .lapse, now }
    let e : Round := { event := .notice (.exited (.ok (.signal 9))), now := 15 }
    let log (delay : ℕ) :=
      run true (some delay) ([lapse 2, c, again, lapse 12, lapse 13, lapse 14] ++ e :: [again])
    (log 10).deeds = [(.act, c), (.killOverdue, lapse 13)] ∧
      (log 10).returned = some (.ok ⟨.signal 9, true⟩) ∧
      (log Instant.horizon).deeds = [(.act, c)] ∧
      (log Instant.horizon).returned = some (.error brokenDown) := by
  intro c again lapse e log
  have goes : ∀ r ∈ [lapse 2, c, again, lapse 12, lapse 13, lapse 14], r.isEnd = false := by
    simp [c, again, lapse, Round.isEnd]
  have exit : e.event = .notice (.exited (.ok (.signal 9))) := rfl
  have decided (delay : ℕ) := (first_cancellation_decides true (some delay) [again] goes exit).2
    [lapse 2] c [again, lapse 12, lapse 13, lapse 14] rfl (by simp [lapse, Round.isCancelled]) rfl
  obtain ⟨-, deeds, -, returned⟩ := (decided 10).2.2 (by decide +kernel)
  obtain ⟨-, broken, failed⟩ := (decided Instant.horizon).2.1 (by decide +kernel)
  exact ⟨deeds, returned, broken, failed⟩

end PseudoTerminal.Watch
