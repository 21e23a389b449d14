import PseudoTerminal.Proofs.Coordination.Progress

/-! What the first wait for a command returns when there is no cancel action: how the child ended, and
whether a cancellation ended it. A delay that the clock cannot hold the end of breaks the watcher down when it
is to begin, and then the wait fails. -/

namespace PseudoTerminal.Coordination

open Cancellation

variable {σ : Type} {u : Setup σ} {s t : State σ} {j : Job}

/-! ### Causes -/

/-- A watcher that took up a cancellation was told by the token. -/
theorem token_cancelled (system : SystemInv u s) (has : s.job = some j)
    (cancelled : j.watch.cancelled) : u.hasToken ∧ s.calls.token.cancelled := by
  have told : 0 < j.sent := by
    have among := (system.parts.job j has).hearing.cancelled.mp cancelled
    have : 0 < j.heard.countP Notice.isCancelled :=
      List.countP_pos_iff.mpr ⟨.cancelled, among, rfl⟩
    rw [Job.sent]
    omega
  rw [system.staged.sent j has] at told
  constructor
  · by_contra token
    have idle := system.staged.tokenless (by simpa using token)
    have := Calls.count_log_eq_zero system.parts.calls (k := own) (by rw [idle]; rfl) (by simp [idle])
    omega
  · exact system.parts.calls.flag.ran own (List.count_pos_iff.mp told)

/-- What holds of a watcher that has no cancel action. -/
structure Unaided (u : Setup σ) (j : Job) : Prop where
  plain : Plain j
  resolved : Resolved j
  delay : j.watch.delay = u.delay

/-- What a wait returned says how the child ended, and names a cancellation only for a reason, unless the
delay has no end. -/
theorem returned_unaided (system : SystemInv u s) (unaided : ∀ j, s.job = some j → Unaided u j)
    {result : Except WaitError ExitState} (returned : s.wait = .returned result) :
    ∃ j, s.job = some j ∧
      (j.overran = true ∧ result = .error (.os Watch.brokenDown) ∨
        j.overran = false ∧ ∃ state, result = .ok state ∧ j.record.fate = some state.kind ∧
          state.cancelled = (j.watch.cause && state.kind.code?.isNone)) := by
  obtain ⟨j, outcome, has, finished, rfl⟩ := system.ending.returned result returned
  have own := unaided j has
  refine ⟨j, has, ?_⟩
  rcases finished_plain (system.parts.job j has) own.plain own.resolved finished with
    ⟨late, rfl⟩ | ⟨fits, kind, fate, rfl⟩
  · exact .inl ⟨late, rfl⟩
  · exact .inr ⟨fits, ⟨kind, j.watch.cause && kind.code?.isNone⟩, rfl, fate, rfl⟩

theorem unaided_run {turns : List (Turn σ)} (noAction : u.hasAction = false)
    (ordinary : ∀ turn ∈ turns, turn.IsOrdinary) (h : s.run u turns = some t)
    (system : SystemInv u s) (unaided : ∀ j, s.job = some j → Unaided u j) :
    SystemInv u t ∧ ∀ j, t.job = some j → Unaided u j := by
  refine State.run_induction (P := fun s => SystemInv u s ∧ ∀ j, s.job = some j → Unaided u j)
    ?_ h ⟨system, unaided⟩
  intro s t turn among ⟨system, unaided⟩ advance
  have ordinary := ordinary turn among
  have plain := fun j has => (unaided j has).plain
  have plain' := plain_advance advance ordinary noAction system plain
  have resolved' := resolved_advance advance ordinary system plain fun j has => (unaided j has).resolved
  have delay' := delay_advance advance system fun j has => (unaided j has).delay
  exact ⟨systemInv_advance advance system, fun j has => ⟨plain' j has, resolved' j has, delay' j has⟩⟩

theorem spared_run {turns : List (Turn σ)} (noAction : u.hasAction = false)
    (ordinary : ∀ turn ∈ turns, turn.IsOrdinary) (h : s.run u turns = some t)
    (system : SystemInv u s) (plain : ∀ j, s.job = some j → Plain j)
    (spared : ∃ j, s.job = some j ∧ Spared j) : ∃ j, t.job = some j ∧ Spared j := by
  refine (State.run_induction (P := fun s => (SystemInv u s ∧ ∀ j, s.job = some j → Plain j) ∧
    ∃ j, s.job = some j ∧ Spared j) ?_ h ⟨⟨system, plain⟩, spared⟩).2
  intro s t turn among ⟨inv, spared⟩ advance
  exact ⟨⟨systemInv_advance advance inv.1,
    plain_advance advance (ordinary turn among) noAction inv.1 inv.2⟩,
    spared_advance advance inv.1 inv.2 spared⟩

/-- A child that was spared was not killed, so no delay began. -/
theorem Spared.overran (spared : Spared j) (resolved : Resolved j) : j.overran = false := by
  have never : j.reachedAt = none := by
    rw [← Option.isNone_iff_eq_none, ← Option.not_isSome, resolved.reached, spared.cause]
    rfl
  rw [Job.overran, never]
  rfl

/-- What the first wait for a command without a cancel action returns. Between `s`, any state, and `t`, any
later one: the wait fails just when a kill reached the child at a moment from which the clock cannot hold the
end of the delay, and the token was cancelled then. Otherwise it returned a state that says how the child
ended; an exit with a code was not cancelled, and what was cancelled is so because the token was and a kill was
delivered before the end was taken. If the child had ended before a kill had found it running, the wait does
not fail, and it was not cancelled. Once the child has ended, a wait that did not return can go on, and it does
so only finitely often. -/
theorem exit_state_truthful (noAction : u.hasAction = false) {host : σ} {p q : List (Turn σ)}
    (ordinary : ∀ turn ∈ p ++ q, turn.IsOrdinary) (before : State.run u { host } p = some s)
    (after : s.run u q = some t) :
    (∀ result, t.wait = .returned result → ∃ j, t.job = some j ∧
      ((∃ moment, j.reachedAt = some moment ∧ Watch.overruns u.delay moment) ∧
          result = .error (.os Watch.brokenDown) ∧
          u.hasToken ∧ t.calls.token.cancelled ∧ Signal.kill ∈ j.record.received ∨
        (∀ moment, j.reachedAt = some moment → Watch.overruns u.delay moment = false) ∧
          ∃ state, result = .ok state ∧ j.record.fate = some state.kind ∧
            (∀ n, state.kind = .code n → state.cancelled = false) ∧
            (state.cancelled →
              u.hasToken ∧ t.calls.token.cancelled ∧ Signal.kill ∈ j.record.received))) ∧
    ((∃ j, s.job = some j ∧ Spared j) →
      ∀ result, t.wait = .returned result → ∃ state, result = .ok state ∧ state.cancelled = false) ∧
    (t.start = .returned (.ok ()) → ∃ j, t.job = some j ∧
      (j.record.fate.isSome → (∀ result, t.wait ≠ .returned result) →
        (∃ turn, turn.isOwn ∧ turn.IsOrdinary ∧ (t.step u turn).isSome) ∨ Held u t)) ∧
    (s.start = .returned (.ok ()) → t.rank + q.countP Turn.isOwn ≤ s.rank) := by
  have early := fun turn among => ordinary turn (List.mem_append_left q among)
  have late := fun turn among => ordinary turn (List.mem_append_right p among)
  obtain ⟨system₀, unaided₀⟩ := unaided_run noAction early before (systemInv_init host) (by simp)
  obtain ⟨system, unaided⟩ := unaided_run noAction late after system₀ unaided₀
  have plain₀ := fun j has => (unaided₀ j has).plain
  -- A kill that counts was delivered on account of the token.
  have caused (j : Job) (has : t.job = some j) (cause : j.watch.cause) :
      u.hasToken ∧ t.calls.token.cancelled ∧ Signal.kill ∈ j.record.received := by
    obtain ⟨token, up⟩ := token_cancelled system has ((system.parts.job j has).hearing.cause cause)
    exact ⟨token, up, (unaided j has).plain.received cause⟩
  refine ⟨?_, ?_, ?_, rank_run noAction late after system₀ plain₀⟩
  · intro result returned
    obtain ⟨j, has, either⟩ := returned_unaided system unaided returned
    have own := unaided j has
    rw [Job.overran, own.delay] at either
    refine ⟨j, has, ?_⟩
    rcases either with ⟨overran, failed⟩ | ⟨fits, state, ok, fate, cancelled⟩
    · left
      obtain ⟨moment, reached, overruns⟩ := (Option.any_eq_true _ _).mp overran
      have cause : j.watch.cause := by rw [← own.resolved.reached, reached]; rfl
      exact ⟨⟨moment, reached, overruns⟩, failed, caused j has cause⟩
    · right
      refine ⟨?_, state, ok, fate, ?_, ?_⟩
      · intro moment reached
        rw [reached] at fits
        exact fits
      · intro n code
        rw [cancelled, code]
        simp [ExitKind.code?]
      · intro counts
        rw [cancelled, Bool.and_eq_true] at counts
        exact caused j has counts.1
  · intro spared result returned
    obtain ⟨j, has, either⟩ := returned_unaided system unaided returned
    obtain ⟨k, had, spared⟩ := spared_run noAction late after system₀ plain₀ spared
    rw [has] at had
    cases had
    rcases either with ⟨overran, -⟩ | ⟨-, state, ok, -, cancelled⟩
    · rw [spared.overran (unaided j has).resolved] at overran
      cases overran
    · exact ⟨state, ok, by rw [cancelled, spared.cause, Bool.false_and]⟩
  · intro started
    obtain ⟨j, has⟩ := (exists_job_iff system).mpr (by rw [started]; rfl)
    exact ⟨j, has, fun ended more =>
      wait_not_stuck system (fun j has => (unaided j has).plain) started has ended more⟩

/-- The token is cancelled while the wait is on, the kill finds the child running, and the child dies of it.
With a delay of five microseconds the wait says so, and with one beyond the last moment of the clock it fails. -/
theorem exit_state_truthful_killed :
    let killed : List (Turn Unit) := [List.replicate 12 .start, [.wait],
      List.replicate 6 (.token (.cancel 0)), List.replicate 4 (.job (.watch {})),
      [.job .ends], List.replicate 5 (.job .reap)].flatten
    let dropped : List (Turn Unit) := List.replicate 3 .unregister ++ List.replicate 2 .wait
    (∃ t, State.run ⟨granting, true, false, some 5⟩ { host := () }
        (killed ++ [.job (.watch {})] ++ dropped) = some t ∧
      t.wait = .returned (.ok ⟨.signal 9, true⟩) ∧ t.calls.token.cancelled ∧
      ∃ j, t.job = some j ∧ Signal.kill ∈ j.record.received) ∧
    ∃ t, State.run ⟨granting, true, false, some Instant.horizon⟩ { host := () } (killed ++ dropped) = some t ∧
      t.wait = .returned (.error (.os Watch.brokenDown)) ∧ t.calls.token.cancelled ∧
      ∃ j, t.job = some j ∧ Signal.kill ∈ j.record.received ∧ j.reachedAt = some 0 := by
  intro killed dropped
  have ordinary : ∀ turn ∈ killed ++ [.job (.watch {})] ++ dropped, turn.IsOrdinary := by
    simp [killed, dropped, List.replicate, Turn.IsOrdinary, Move.IsOrdinary, Answers.accept]
  constructor
  · let u : Setup Unit := ⟨granting, true, false, some 5⟩
    have returned : (State.run u { host := () } (killed ++ [.job (.watch {})] ++ dropped)).map State.wait =
        some (.returned (.ok ⟨.signal 9, true⟩)) := by decide +kernel
    obtain ⟨t, after, returned⟩ := Option.map_eq_some_iff.mp returned
    obtain ⟨j, has, ⟨-, failed, -⟩ | ⟨-, state, ok, -, -, counts⟩⟩ :=
      (exit_state_truthful (u := u) (p := []) rfl ordinary rfl after).1 _ returned
    · cases failed
    · cases ok
      exact ⟨t, after, returned, (counts rfl).2.1, j, has, (counts rfl).2.2⟩
  · let u : Setup Unit := ⟨granting, true, false, some Instant.horizon⟩
    have returned : (State.run u { host := () } (killed ++ dropped)).map State.wait =
        some (.returned (.error (.os Watch.brokenDown))) := by decide +kernel
    have reached : ((State.run u { host := () } (killed ++ dropped)).bind State.job).bind Job.reachedAt =
        some 0 := by decide +kernel
    obtain ⟨t, after, returned⟩ := Option.map_eq_some_iff.mp returned
    rw [after, Option.bind_some] at reached
    have fewer : ∀ turn ∈ killed ++ dropped, turn.IsOrdinary := by
      intro turn among
      refine ordinary turn ?_
      rcases List.mem_append.mp among with before | after
      · exact List.mem_append_left _ (List.mem_append_left _ before)
      · exact List.mem_append_right _ after
    obtain ⟨j, has, ⟨-, -, -, up, got⟩ | ⟨-, state, ok, -⟩⟩ :=
      (exit_state_truthful (u := u) (p := []) rfl fewer rfl after).1 _ returned
    · rw [has, Option.bind_some] at reached
      exact ⟨t, after, returned, up, j, has, got, reached⟩
    · cases ok

end PseudoTerminal.Coordination
