import PseudoTerminal.Proofs.Coordination.StartupInvariants

/-! Starts, waits and signals that nobody interrupts. The steps of a start then come to what the
lifecycle says of it, and those of the reaper and of a signal to what the handle says. -/

namespace PseudoTerminal.Coordination

open Cancellation
open Child (Handle)

variable {σ : Type} {u : Setup σ} {s t : State σ} {j : Job}

/-! ### The start -/

/-- A start that nobody interrupts gets from one state to another. -/
def Reaches (u : Setup σ) (s t : State σ) : Prop :=
  ∃ n, s.run u (List.replicate n .start) = some t

theorem Reaches.refl (s : State σ) : Reaches u s s := ⟨0, rfl⟩

theorem Reaches.head {next : State σ} (made : s.stepStart u = some next) (rest : Reaches u next t) :
    Reaches u s t := by
  obtain ⟨n, run⟩ := rest
  refine ⟨n + 1, ?_⟩
  rw [List.replicate_succ, State.run_cons, State.step, made]
  exact run

theorem Reaches.trans {next : State σ} (first : Reaches u s next) (rest : Reaches u next t) :
    Reaches u s t := by
  obtain ⟨n, run⟩ := first
  obtain ⟨m, more⟩ := rest
  refine ⟨n + m, ?_⟩
  rw [List.replicate_add, State.run_append, run]
  exact more

/-- The steps of a registration are steps of the start that makes it. -/
theorem reaches_of_register {pid n : ℕ} {calls : Calls.State} (token : u.hasToken)
    (stage : s.start = .attached pid) (unheld : (s.calls.registrations own).isHeld = false)
    (run : s.calls.run (List.replicate n (.register own)) = some calls)
    (held : (calls.registrations own).isHeld) :
    ∃ t, Reaches u s t ∧ t.start = .registered pid ∧ t.host = s.host ∧ t.life = s.life ∧
      t.calls = calls := by
  induction n generalizing s with
  | zero =>
    cases run
    rw [unheld] at held
    cases held
  | succ n ih =>
    rw [List.replicate_succ, Calls.State.run_cons] at run
    obtain ⟨d, made, run⟩ := Option.bind_eq_some_iff.mp run
    have step : s.stepStart u = some { s.setCalls d with
        start := if (d.registrations own).isHeld then .registered pid else .attached pid } := by
      rw [State.stepStart, stage]
      simp only [token, if_true]
      rw [show s.calls.stepRegister own = some d from made]
    cases now : (d.registrations own).isHeld with
    | true =>
      -- nothing follows a registration that was made
      have last : n = 0 := by
        cases n with
        | zero => rfl
        | succ n =>
          rw [List.replicate_succ, Calls.State.run_cons] at run
          obtain ⟨e, more, -⟩ := Option.bind_eq_some_iff.mp run
          have : d.stepRegister own = some e := more
          unfold Calls.State.stepRegister at this
          cases stage : d.registrations own <;> simp_all [Calls.Registration.isHeld]
      subst last
      cases run
      exact ⟨_, .head step (.refl _), by simp [now], rfl, rfl, rfl⟩
    | false =>
      simp only [now, Bool.false_eq_true, if_false] at step
      obtain ⟨t, reaches, rest⟩ := ih (s := { s.setCalls d with start := .attached pid }) rfl now run
      exact ⟨t, .head step reaches, rest⟩

theorem reaches_registered {pid : ℕ} (stage : s.start = .attached pid)
    (idle : s.calls.registrations own = .idle) (free : s.calls.lock = none) :
    ∃ t, Reaches u s t ∧ t.start = .registered pid ∧ t.host = s.host ∧ t.life = s.life ∧
      t.calls.token =
        if u.hasToken then (s.calls.token.register own).2 else s.calls.token := by
  cases token : u.hasToken with
  | true =>
    obtain ⟨n, calls, run, held, after, -⟩ := Calls.register_alone idle free
    obtain ⟨t, reaches, start, host, life, same⟩ :=
      reaches_of_register token stage (by rw [idle]; rfl) run (by rw [held]; rfl)
    exact ⟨t, reaches, start, host, life, by rw [same, after]; rfl⟩
  | false =>
    refine ⟨{ s with start := .registered pid }, .head ?_ (.refl _), rfl, rfl, rfl, rfl⟩
    rw [State.stepStart, stage]
    simp [token]

/-- A start that nobody interrupts is the one of the lifecycle. -/
theorem start_alone (idle : s.start = .idle) (unregistered : s.calls.registrations own = .idle)
    (free : s.calls.lock = none)
    (agree : u.pad.isCancelled s.host = (u.hasToken && s.calls.token.cancelled)) :
    ∃ t, Reaches u s t ∧ t.start = .returned (s.life.start u.pad s.host).1 ∧
      (t.life, t.host) = (s.life.start u.pad s.host).2 := by
  unfold Lifecycle.start
  by_cases started : s.life.phase ≠ .idle
  · rw [if_pos started]
    refine ⟨{ s with start := .returned (.error .alreadyStarted) }, .head ?_ (.refl _), rfl, rfl⟩
    simp [State.stepStart, idle, started]
  rw [if_neg started]
  by_cases closed : u.pad.isClosed s.host
  · rw [if_pos closed]
    refine ⟨{ s with start := .returned (.error .closed) }, .head ?_ (.refl _), rfl, rfl⟩
    simp [State.stepStart, idle, started, closed]
  rw [if_neg closed, agree]
  have opened : s.stepStart u = some { s with start := .opened } := by
    simp [State.stepStart, idle, started, closed]
  by_cases cancelled : u.hasToken && s.calls.token.cancelled
  · rw [if_pos cancelled]
    refine ⟨{ s with start := .returned (.error .cancelled) }, .head opened (.head ?_ (.refl _)), rfl,
      rfl⟩
    rw [State.stepStart, if_pos cancelled]
  rw [if_neg cancelled]
  have wanted : State.stepStart u { s with start := .opened } = some { s with start := .wanted } := by
    rw [State.stepStart, if_neg cancelled]
  rcases resolve : u.pad.resolve s.host with e | path
  · refine ⟨{ s with start := .returned (.error e) },
      .head opened (.head wanted (.head ?_ (.refl _))), rfl, rfl⟩
    simp [State.stepStart, resolve]
  have resolved : State.stepStart u { s with start := .wanted } =
      some { s with start := .resolved path } := by
    simp [State.stepStart, resolve]
  rcases acquire : u.pad.acquire s.host with _ | host
  · refine ⟨{ s with start := .returned (.error .busy) },
      .head opened (.head wanted (.head resolved (.head ?_ (.refl _)))), rfl, rfl⟩
    simp [State.stepStart, acquire]
  have leased : State.stepStart u { s with start := .resolved path } =
      some { s with host, start := .leased path } := by
    simp [State.stepStart, acquire]
  rcases spawn : u.pad.spawn host path with e | ⟨pid, host'⟩
  · refine ⟨{ s with host := u.pad.release host, start := .returned (.error e) },
      .head opened (.head wanted (.head resolved (.head leased (.head ?_ (.refl _))))), ?_, ?_⟩ <;>
      simp [State.stepStart, spawn]
  let job : Job := { handle := ⟨pid, none⟩, watch := { hasAction := u.hasAction, delay := u.delay } }
  let attached : State σ :=
    { s with host := host', start := .attached pid, job := some { job with reaper := .blocking } }
  have spawned : State.stepStart u { s with host, start := .leased path } =
      some { s with host := host', start := .spawned pid, job := some job } := by
    simp [State.stepStart, spawn, job]
  have attaches : Reaches u s attached :=
    .head opened (.head wanted (.head resolved (.head leased (.head spawned (.head rfl (.refl _))))))
  obtain ⟨t, registers, registered, host, life, -⟩ :=
    reaches_registered (s := attached) rfl unregistered free
  have watches : t.stepStart u = some { t with
      start := .watched pid, job := t.job.map ({ · with watcher := .listening }) } := by
    rw [State.stepStart, registered]
  refine ⟨_, attaches.trans (registers.trans (.head watches (.head rfl (.refl _)))), ?_, ?_⟩
  · simp only [spawn]
  · simp only [spawn, host]
    rfl

/-! ### The reaper and a signal -/

/-- A reaper that nobody interrupts waits as the handle says. -/
theorem reap_alone (known : j.Known) (stage : j.reaper = .blocking) (free : j.lock = none)
    {result : Except Fault ExitKind} {handle : Handle} {record : Record}
    (waited : j.handle.wait? (custody {}) j.record = (some result, handle, record)) :
    ∃ n, (List.replicate n Move.reap).foldlM Job.step j = some { j with
      handle, record, reaper := .done, notices := j.notices ++ [.exited result] } := by
  have tell (t : Job) (told : t.reaper = .releasing result) :
      (List.replicate 2 Move.reap).foldlM Job.step t =
        some { t with reaper := .done, notices := t.notices ++ [.exited result] } := by
    simp [List.replicate, Job.step, Job.stepReaper, told]
  unfold Handle.wait? at waited
  rw [Job.tryWait_eq known, show (custody {}).standing j.record = j.record.standing from rfl] at waited
  cases seen : Child.observe j.record.standing with
  | none => rw [seen] at waited; cases waited
  | some observed =>
    rw [seen] at waited
    cases observed with
    | error f =>
      cases waited
      refine ⟨1 + 2, ?_⟩
      rw [List.replicate_add, List.foldlM_append]
      have wakes : (List.replicate 1 Move.reap).foldlM Job.step j =
          some { j with reaper := .releasing (.error f) } := by
        simp [List.replicate, Job.step, Job.stepReaper, stage, seen]
      rw [wakes]
      exact tell { j with reaper := .releasing (.error f) } rfl
    | ok =>
      obtain ⟨kind, fate⟩ := Option.isSome_iff_exists.mp (isSome_of_observe known seen)
      rw [fate] at waited
      cases waited
      refine ⟨3 + 2, ?_⟩
      rw [List.replicate_add, List.foldlM_append]
      have takes : (List.replicate 3 Move.reap).foldlM Job.step j =
          some { j.looked with lock := none, reaper := .releasing (.ok kind) } := by
        have locked : Job.look { j with lock := some .reaper, reaper := .locked } = _ :=
          Job.look_eq ⟨known.handle, known.reaped⟩
        simp [List.replicate, Job.step, Job.stepReaper, stage, seen, free, locked, fate, Job.looked]
      rw [takes]
      have told := tell { j.looked with lock := none, reaper := .releasing (.ok kind) } rfl
      rw [show j.lock = none from free]
      exact told

/-- A signal that nobody interrupts is the handle's, followed by what its purpose asks for. -/
theorem signal_alone (known : j.Known) {p : Purpose} (stage : j.watcher = .calling p)
    (free : j.lock = none) {a : Answers} {result : Except Fault Unit} {handle : Handle}
    {record : Record}
    (sent : j.handle.signal (custody a) j.record p.signal = (result, handle, record)) :
    ∃ n t, (List.replicate n (Move.watch a)).foldlM Job.step j = some t ∧ t.handle = handle ∧
      t.record = record ∧ t.lock = none ∧ t.watch = (j.settle result p).watch ∧
      t.watcher = (j.settle result p).watcher := by
  unfold Handle.signal at sent
  rw [Job.tryWait_eq known] at sent
  have locked : Job.look { j with lock := some .watcher, watcher := .holding p } = _ :=
    Job.look_eq ⟨known.handle, known.reaped⟩
  cases fate : j.record.fate with
  | some kind =>
    rw [fate] at sent
    cases sent
    refine ⟨2, ({ j.looked with lock := none, watcher := .holding p }).settle (.error .processDone) p,
      ?_, ?_⟩
    · simp [List.replicate, Job.step, Job.stepWatcher, stage, free, locked, fate, Job.looked]
    · cases p <;> exact ⟨rfl, rfl, rfl, rfl, rfl⟩
  | none =>
    rw [fate] at sent
    cases sent
    let delivery := Handle.deliver (custody a) j.looked.record p.signal
    refine ⟨3, { j.looked with
      record := delivery.2, lock := none, watcher := .sending p
      tries := (p, delivery.1) :: j.tries }.settle delivery.1 p, ?_, ?_⟩
    · simp [List.replicate, Job.step, Job.stepWatcher, stage, free, locked, fate, Job.looked, delivery]
    · cases p <;> exact ⟨rfl, rfl, rfl, rfl, rfl⟩

end PseudoTerminal.Coordination
