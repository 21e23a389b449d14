import PseudoTerminal.Proofs.Coordination.StartupInvariants

/-! The exit state of a command that is killed for want of an action, on a host that lets a kill through
to every child whose end was not taken. The state says how the child ended, and that a cancellation
ended it only if a kill was delivered to a child that the watcher had found running. There is no state just
when the kill was followed by a delay that the clock cannot hold the end of. -/

namespace PseudoTerminal.Coordination

variable {σ : Type} {u : Setup σ} {s t : State σ} {turn : Turn σ} {j k : Job} {m : Move}

/-! ### Ordinary steps -/

/-- An exit with a code, or a death by a signal that has a name. -/
def IsStandard : ExitKind → Prop
  | .code _ => True
  | .signal n => 1 ≤ n ∧ n ≤ 31

/-- The child sets out to end in a standard way, and the host lets the watcher's signals through. -/
def Move.IsOrdinary : Move → Prop
  | .leave kind => IsStandard kind
  | .watch a => a.accept
  | _ => True

def Turn.IsOrdinary : Turn σ → Prop
  | .job m => m.IsOrdinary
  | _ => True

theorem deliver_of_accept {a : Answers} (r : Record) (signal : Signal) (accept : a.accept) :
    Child.Handle.deliver (custody a) r signal =
      (.ok (), r.receive signal) := by
  obtain ⟨group, alone⟩ := a
  cases group with
  | ok => rfl
  | error f =>
    cases alone with
    | ok => rfl
    | error g => cases accept

/-! ### Kills for want of an action -/

def Purpose.isPlain : Purpose → Bool
  | cancel | overdue => true
  | _ => false

/-- Whether the watcher kills for want of an action or after the delay, if it is at a signal at all. -/
def Watcher.isPlain : Watcher → Bool
  | acting => false
  | calling p | holding p | sending p => p.isPlain
  | _ => true

/-- The watcher only kills, for want of an action or after the delay; a kill counts when it got
through. -/
structure Plain (j : Job) : Prop where
  hasAction : j.watch.hasAction = false
  settled : ∀ kind, j.record.settled = some kind → IsStandard kind
  watcher : j.watcher.isPlain
  killed : j.watch.killed = j.watch.cause
  received : j.watch.cause → Signal.kill ∈ j.record.received

/-- A step that leaves alone what the child received and what the watch makes of it. -/
theorem Plain.of_same (plain : Plain j) (hasAction : k.watch.hasAction = j.watch.hasAction)
    (settled : k.record.settled = j.record.settled) (killed : k.watch.killed = j.watch.killed)
    (cause : k.watch.cause = j.watch.cause) (received : k.record.received = j.record.received)
    (watcher : k.watcher.isPlain) : Plain k where
  hasAction := by rw [hasAction]; exact plain.hasAction
  settled := by rw [settled]; exact plain.settled
  watcher := watcher
  killed := by rw [killed, cause]; exact plain.killed
  received := by rw [cause, received]; exact plain.received

theorem plain_hear {n : Notice} {rest : List Notice} (plain : Plain j) :
    Plain ({ j with notices := rest, heard := n :: j.heard }.follow (j.watch.notice n)) := by
  have noAction := plain.hasAction
  cases n with
  | exited result => cases result <;> exact plain.of_same rfl rfl rfl rfl rfl rfl
  | cancelled =>
    by_cases again : j.watch.cancelled
    · have same : j.watch.notice .cancelled = (.listen, j.watch) := by simp [Watch.notice, again]
      rw [same]
      exact plain.of_same rfl rfl rfl rfl rfl rfl
    · have first : j.watch.notice .cancelled = (.kill, { j.watch with cancelled := true }) := by
        simp [Watch.notice, again, noAction]
      rw [first]
      exact plain.of_same rfl rfl rfl rfl rfl rfl

theorem plain_miss {p : Purpose} (stage : j.watcher = .holding p) (plain : Plain j) :
    Plain ({ j.looked with lock := none }.settle (.error .processDone) p) := by
  have watcher := plain.watcher
  rw [stage] at watcher
  cases p with
  | cancel | overdue => exact plain.of_same rfl rfl rfl rfl rfl rfl
  | instead | action => cases watcher

theorem plain_deliver {a : Answers} {p : Purpose} (stage : j.watcher = .sending p) (accept : a.accept)
    (inv : Inv j) (plain : Plain j) : Plain (j.delivered a p) := by
  have watcher := plain.watcher
  rw [stage] at watcher
  have kept := inv.sending (by rw [stage]; rfl)
  have standard : ∀ kind, (j.record.receive p.signal).settled = some kind → IsStandard kind := by
    intro kind settled
    rcases settled_of_receive settled with before | rfl
    · exact plain.settled kind before
    · exact ⟨by decide, by decide⟩
  have received : (j.record.receive p.signal).received = p.signal :: j.record.received := by
    rw [Record.receive, if_neg (by simp [kept])]
  rw [Job.delivered, deliver_of_accept j.record p.signal accept]
  cases p with
  | cancel =>
    have got : Signal.kill ∈ (j.record.receive Signal.kill).received := by
      rw [show (j.record.receive Signal.kill).received = _ from received]
      exact List.mem_cons_self
    have killed : (!j.watch.hasAction) = true := by rw [plain.hasAction]; rfl
    -- The kill counts, whether or not the delay has an end.
    cases late : Watch.overruns j.watch.delay j.clock with
    | true =>
      rw [Job.settle, Job.reach, Watch.reached_of_overruns late]
      exact ⟨plain.hasAction, standard, rfl, killed, fun _ => got⟩
    | false =>
      rw [Job.settle, Job.reach, Watch.reached_of_fits late]
      exact ⟨plain.hasAction, standard, rfl, killed, fun _ => got⟩
  | overdue =>
    refine ⟨plain.hasAction, standard, rfl, plain.killed, ?_⟩
    intro cause
    show Signal.kill ∈ (j.record.receive Signal.kill).received
    rw [show (j.record.receive Signal.kill).received = _ from received]
    exact List.mem_cons_of_mem _ (plain.received cause)
  | instead | action => cases watcher

theorem plain_step (h : Change j m k) (ordinary : m.IsOrdinary) (inv : Inv j) (plain : Plain j) :
    Plain k := by
  have watcher := plain.watcher
  cases h with
  | hear a n rest stage queue => exact plain_hear plain
  | miss a p kind stage ended => exact plain_miss stage plain
  | deliver a p stage => exact plain_deliver stage ordinary inv plain
  | lose a stage queue done =>
    exact absurd queue (queue_ne_nil inv.reports inv.hearing done stage)
  | leave kind unsettled =>
    refine ⟨plain.hasAction, ?_, plain.watcher, plain.killed, plain.received⟩
    intro kind' settled
    rw [Record.settled] at settled
    split at settled
    case isTrue killed => exact plain.settled kind' (by rw [Record.settled, if_pos killed]; exact settled)
    case isFalse => cases settled; exact ordinary
  | lockWatcher a p stage | find a p stage =>
    rw [stage] at watcher
    exact plain.of_same rfl rfl rfl rfl rfl watcher
  | expire stage due => exact plain.of_same rfl rfl rfl rfl rfl rfl
  | send signal stage | conclude result stage | breakDown stage =>
    rw [stage] at watcher
    cases watcher
  | _ =>
    exact ⟨plain.hasAction, plain.settled, plain.watcher, plain.killed, plain.received⟩

/-! ### Delays without an end -/

/-- Whether the delay was counted from a moment after which it has no end. -/
def Job.overran (j : Job) : Bool := j.reachedAt.any (Watch.overruns j.watch.delay)

/-- The watcher broke down just when the delay has no end, and else it returned what it was told. -/
structure Resolved (j : Job) : Prop where
  reached : j.reachedAt.isSome = j.watch.cause
  going : j.watcher.isFinished = false → j.overran = false
  outcome : ∀ outcome, j.watcher = .finished outcome →
    j.overran = true ∧ outcome = .error Watch.brokenDown ∨
      j.overran = false ∧
        ∃ result, .exited result ∈ j.heard ∧ (j.watch.notice (.exited result)).1 = .finish outcome

/-- A watcher that goes on after a step that has nothing to do with the delay. -/
theorem Resolved.of_going (resolved : Resolved j) (going : j.watcher.isFinished = false)
    (reachedAt : k.reachedAt = j.reachedAt) (delay : k.watch.delay = j.watch.delay)
    (cause : k.watch.cause = j.watch.cause) (on : k.watcher.isFinished = false) : Resolved k where
  reached := by rw [reachedAt, cause]; exact resolved.reached
  going _ := by rw [Job.overran, reachedAt, delay]; exact resolved.going going
  outcome := by
    intro outcome finished
    rw [finished] at on
    cases on

theorem resolved_hear {n : Notice} {rest : List Notice} (stage : j.watcher = .listening) (plain : Plain j)
    (resolved : Resolved j) :
    Resolved ({ j with notices := rest, heard := n :: j.heard }.follow (j.watch.notice n)) := by
  have going : j.watcher.isFinished = false := by rw [stage]; rfl
  cases n with
  | exited result =>
    have same : (j.watch.notice (.exited result)).2 = j.watch := by cases result <;> rfl
    refine ⟨by rw [Job.follow_watch, same]; exact resolved.reached, ?_, ?_⟩
    · intro _
      rw [Job.overran, Job.follow_watch, same]
      exact resolved.going going
    · intro outcome finished
      rw [Job.overran, Job.follow_watch, same]
      refine .inr ⟨resolved.going going, result, List.mem_cons_self, ?_⟩
      cases result <;> exact congrArg Watch.Demand.finish (Watcher.finished.inj finished)
  | cancelled =>
    by_cases again : j.watch.cancelled
    · have same : j.watch.notice .cancelled = (.listen, j.watch) := by simp [Watch.notice, again]
      rw [same]
      exact resolved.of_going going rfl rfl rfl rfl
    · have first : j.watch.notice .cancelled = (.kill, { j.watch with cancelled := true }) := by
        simp [Watch.notice, again, plain.hasAction]
      rw [first]
      exact resolved.of_going going rfl rfl rfl rfl

theorem resolved_deliver {a : Answers} {p : Purpose} (stage : j.watcher = .sending p) (accept : a.accept)
    (plain : Plain j) (resolved : Resolved j) : Resolved (j.delivered a p) := by
  have watcher := plain.watcher
  rw [stage] at watcher
  rw [Job.delivered, deliver_of_accept j.record p.signal accept]
  cases p with
  | cancel =>
    cases late : Watch.overruns j.watch.delay j.clock with
    | true =>
      rw [Job.settle, Job.reach, Watch.reached_of_overruns late]
      refine ⟨rfl, by rintro ⟨⟩, ?_⟩
      rintro _ ⟨⟩
      exact .inl ⟨late, rfl⟩
    | false =>
      rw [Job.settle, Job.reach, Watch.reached_of_fits late]
      exact ⟨rfl, fun _ => late, by rintro _ ⟨⟩⟩
  | overdue => exact resolved.of_going (by rw [stage]; rfl) rfl rfl rfl rfl
  | instead | action => cases watcher

theorem resolved_step (h : Change j m k) (ordinary : m.IsOrdinary) (inv : Inv j) (plain : Plain j)
    (resolved : Resolved j) : Resolved k := by
  have watcher := plain.watcher
  cases h with
  | hear a n rest stage queue => exact resolved_hear stage plain resolved
  | deliver a p stage => exact resolved_deliver stage ordinary plain resolved
  | miss a p kind stage ended =>
    rw [stage] at watcher
    cases p with
    | cancel | overdue => exact resolved.of_going (by rw [stage]; rfl) rfl rfl rfl rfl
    | instead | action => cases watcher
  | lose a stage queue done =>
    exact absurd queue (queue_ne_nil inv.reports inv.hearing done stage)
  | lockWatcher a p stage | find a p stage | expire stage due =>
    exact resolved.of_going (by rw [stage]; rfl) rfl rfl rfl rfl
  | send signal stage | conclude result stage | breakDown stage =>
    rw [stage] at watcher
    cases watcher
  | _ => exact ⟨resolved.reached, resolved.going, resolved.outcome⟩

/-! ### The exit state -/

/-- The watcher says how the child ended, unless the delay has no end; a death by a signal counts as a
cancellation if a kill was delivered, an exit with a code never does. -/
theorem finished_plain (inv : Inv j) (plain : Plain j) (resolved : Resolved j)
    {outcome : Except Fault ExitState} (finished : j.watcher = .finished outcome) :
    j.overran = true ∧ outcome = .error Watch.brokenDown ∨
      j.overran = false ∧
        ∃ kind, j.record.fate = some kind ∧ outcome = .ok ⟨kind, j.watch.cause && kind.code?.isNone⟩ := by
  refine (resolved.outcome outcome finished).imp_right (And.imp_right ?_)
  rintro ⟨result, among, demand⟩
  obtain ⟨kind, fate, result_eq⟩ := inv.reports.heard result among
  refine ⟨kind, fate, ?_⟩
  rcases result_eq with rfl | ⟨-, n, rfl, large⟩
  · have := plain.killed
    simp only [Watch.notice, Watch.Demand.finish.injEq, this] at demand
    rw [← demand]
    cases j.watch.cause <;> cases kind.code? <;> rfl
  · have := (plain.settled _ (inv.settles _ fate)).2
    omega

theorem delay_notice (w : Watch) (n : Notice) : (w.notice n).2.delay = w.delay := by
  unfold Watch.notice
  grind

theorem delay_settle (result : Except Fault Unit) (p : Purpose) :
    (j.settle result p).watch.delay = j.watch.delay := by
  cases p with
  | cancel =>
    show (j.watch.reached j.clock result).2.delay = _
    rcases j.watch.reached_cases j.clock result with
      ⟨-, -, demand⟩ | ⟨-, -, demand⟩ | ⟨-, demand⟩ | ⟨f, -, -, demand⟩ <;> rw [demand]
  | instead =>
    show (j.watch.reachedInstead result).2.delay = _
    unfold Watch.reachedInstead
    split <;> rfl
  | overdue | action => rfl

theorem delay_step (h : Change j m k) : k.watch.delay = j.watch.delay := by
  cases h with
  | hear a n => exact delay_notice j.watch n
  | miss => exact delay_settle ..
  | deliver => exact delay_settle ..
  | conclude result => exact delay_settle (j := j) result .cancel
  | _ => rfl

/-- The child had ended before a kill for want of an action found it running. -/
structure Spared (j : Job) : Prop where
  ended : j.record.fate.isSome
  cause : j.watch.cause = false
  sending : j.watcher ≠ .sending .cancel

theorem notice_cause (w : Watch) (n : Notice) : (w.notice n).2.cause = w.cause := by
  unfold Watch.notice
  grind

theorem spared_step (h : Change j m k) (plain : Plain j) (spared : Spared j) : Spared k := by
  have watcher := plain.watcher
  have ended := spared.ended
  have same (now : k.watch.cause = j.watch.cause) (sending : k.watcher ≠ .sending .cancel) : Spared k :=
    ⟨by rw [fate_step h ended]; exact ended, by rw [now]; exact spared.cause, sending⟩
  cases h with
  | hear a n rest stage queue =>
    refine same (notice_cause j.watch n) ?_
    intro sending
    have out := notice_not_isLocked j.watch n
    rw [show Watcher.ofDemand (j.watch.notice n).1 = _ from sending] at out
    cases out
  | find a p stage alive => rw [alive] at ended; cases ended
  | miss a p kind stage gone =>
    rw [stage] at watcher
    cases p with
    | cancel | overdue => exact same rfl nofun
    | instead | action => cases watcher
  | deliver a p stage =>
    rw [stage] at watcher
    cases p with
    | cancel => exact absurd stage spared.sending
    | overdue => exact same rfl nofun
    | instead | action => cases watcher
  | conclude result stage | breakDown stage | send signal stage => rw [stage] at watcher; cases watcher
  | lose | lockWatcher | expire => exact same rfl nofun
  | _ => exact same rfl spared.sending

/-! ### The command -/

theorem tell_plain (n : ℕ) (inv : Plain j) : Plain (j.tell n) :=
  ⟨inv.hasAction, inv.settled, inv.watcher, inv.killed, inv.received⟩

theorem tell_resolved (n : ℕ) (inv : Resolved j) : Resolved (j.tell n) :=
  ⟨inv.reached, inv.going, inv.outcome⟩

theorem tell_spared (n : ℕ) (inv : Spared j) : Spared (j.tell n) :=
  ⟨inv.ended, inv.cause, inv.sending⟩

theorem plain_advance (h : Advance u s turn t) (ordinary : turn.IsOrdinary)
    (noAction : u.hasAction = false) (system : SystemInv u s)
    (inv : ∀ j, s.job = some j → Plain j) : ∀ j, t.job = some j → Plain j := by
  intro k
  cases h with
  | token | register | unregister =>
    intro has
    obtain ⟨j, had, rfl⟩ := Option.map_eq_some_iff.mp has
    exact tell_plain _ (inv j had)
  | spawn path pid host stage =>
    rintro ⟨⟩
    exact ⟨noAction, by simp [Record.settled], rfl, rfl, by simp⟩
  | attach pid stage =>
    intro has
    obtain ⟨j, had, rfl⟩ := Option.map_eq_some_iff.mp has
    have plain := inv j had
    exact ⟨plain.hasAction, plain.settled, plain.watcher, plain.killed, plain.received⟩
  | watch pid stage =>
    intro has
    obtain ⟨j, had, rfl⟩ := Option.map_eq_some_iff.mp has
    have plain := inv j had
    exact ⟨plain.hasAction, plain.settled, rfl, plain.killed, plain.received⟩
  | job m j next host has made =>
    rintro ⟨⟩
    have parts := system.parts.job j has
    exact plain_step (Job.change_of_step parts.known made) ordinary parts (inv j has)
  | _ => exact inv k

theorem resolved_advance (h : Advance u s turn t) (ordinary : turn.IsOrdinary) (system : SystemInv u s)
    (plain : ∀ j, s.job = some j → Plain j) (inv : ∀ j, s.job = some j → Resolved j) :
    ∀ j, t.job = some j → Resolved j := by
  intro k
  cases h with
  | token | register | unregister =>
    intro has
    obtain ⟨j, had, rfl⟩ := Option.map_eq_some_iff.mp has
    exact tell_resolved _ (inv j had)
  | spawn path pid host stage =>
    rintro ⟨⟩
    exact ⟨rfl, fun _ => rfl, nofun⟩
  | attach pid stage =>
    intro has
    obtain ⟨j, had, rfl⟩ := Option.map_eq_some_iff.mp has
    have resolved := inv j had
    exact ⟨resolved.reached, resolved.going, resolved.outcome⟩
  | watch pid stage =>
    intro has
    obtain ⟨j, had, rfl⟩ := Option.map_eq_some_iff.mp has
    have absent : j.watcher = .absent := (system.staged.watcher j had).mpr (by rw [stage]; rfl)
    exact (inv j had).of_going (by rw [absent]; rfl) rfl rfl rfl rfl
  | job m j next host has made =>
    rintro ⟨⟩
    have parts := system.parts.job j has
    exact resolved_step (Job.change_of_step parts.known made) ordinary parts (plain j has) (inv j has)
  | _ => exact inv k

/-- The delay of a command is that of its watcher. -/
theorem delay_advance (h : Advance u s turn t) (system : SystemInv u s)
    (inv : ∀ j, s.job = some j → j.watch.delay = u.delay) : ∀ j, t.job = some j → j.watch.delay = u.delay := by
  intro k
  cases h with
  | token | register | unregister | attach | watch =>
    intro has
    obtain ⟨j, had, rfl⟩ := Option.map_eq_some_iff.mp has
    exact inv j had
  | spawn => rintro ⟨⟩; rfl
  | job m j next host has made =>
    rintro ⟨⟩
    exact (delay_step (Job.change_of_step (system.parts.job j has).known made)).trans (inv j has)
  | _ => exact inv k

theorem spared_advance (h : Advance u s turn t) (system : SystemInv u s)
    (plain : ∀ j, s.job = some j → Plain j) (inv : ∃ j, s.job = some j ∧ Spared j) :
    ∃ j, t.job = some j ∧ Spared j := by
  obtain ⟨j, has, spared⟩ := inv
  have child : s.start.hasChild := (exists_job_iff system).mp ⟨j, has⟩
  cases h with
  | token m calls other made => exact ⟨_, by rw [setCalls_job, has]; rfl, tell_spared _ spared⟩
  | register pid calls stage token made =>
    exact ⟨_, by simp only [setCalls_job, has]; rfl, tell_spared _ spared⟩
  | unregister calls token finished made =>
    exact ⟨_, by rw [setCalls_job, has]; rfl, tell_spared _ spared⟩
  | spawn path pid host stage => simp [stage, Start.hasChild] at child
  | attach pid stage =>
    exact ⟨{ j with reaper := .blocking }, by simp [has], spared.ended, spared.cause, spared.sending⟩
  | watch pid stage =>
    exact ⟨{ j with watcher := .listening }, by simp [has], spared.ended, spared.cause, by simp⟩
  | job m j' next host has' made =>
    rw [has] at has'
    cases has'
    refine ⟨next, rfl, ?_⟩
    exact spared_step (Job.change_of_step (system.parts.job j has).known made) (plain j has) spared
  | _ => exact ⟨j, has, spared⟩

end PseudoTerminal.Coordination
