import Mathlib.Tactic
import PseudoTerminal.Console
import PseudoTerminal.Session.Script

/-! The pump over all the turns of its loop. What a turn brings is free: how the read comes back, whether the
sink takes everything and can be flushed, whether the program is done when the pump looks, and the two readings
of the clock behind a chunk. What was read goes to the sink in order and without gaps until the sink fails, and
it is said exactly when the pump stops. Once the program is done it stops on every clock that passes the limit,
even if something is shown all the time. -/

namespace PseudoTerminal.Relay.Pumping

/-! ### Turns -/

/-- What one turn of the loop meets. -/
structure Turn where
  result : Except TransferError (Option Octets)
  /-- Whether the sink can be flushed behind a chunk. -/
  flushed : Bool := true
  /-- Whether the program is done when the pump looks, behind a chunk or a read that brought nothing. -/
  done : Bool
  /-- The clock when the limit is set, if it is set in this turn. -/
  noted : ℕ
  /-- The clock when it is held against the limit. -/
  now : ℕ

/-- What a read brought. -/
def Turn.chunk (t : Turn) : Octets :=
  match t.result with
  | .ok (some data) => data
  | _ => []

structure State where
  pump : Pump := {}
  sink : Sink
  stopped : Bool := false

/-- Makes a turn, unless the pump has stopped. -/
def State.turn (s : State) (t : Turn) : State :=
  if s.stopped then s
  else match Pump.afterRead t.done t.result with
  | .stop => { s with stopped := true }
  | .read => s
  | .write data =>
    let (all, sink) := s.sink.write data
    let (next, pump) := s.pump.afterWrite (all && t.flushed) t.done t.noted t.now
    { pump, sink, stopped := next = .stop }

/-- The pump after so many turns, over a sink that has so much room. -/
def after (room : Option ℕ) (turns : ℕ → Turn) : ℕ → State
  | 0 => { sink := { room } }
  | n + 1 => (after room turns n).turn (turns n)

/-! ### The loops that run -/

/-- Each turn of the pump at the console is one of these, over a sink that has room for everything. -/
theorem servePump_turn {p : Console.Parties} {w v : Session.World} {terminal : Host.Master}
    {deadline fuel : ℕ} {result : Except TransferError (Option Octets)}
    (reading : p.reading = some deadline) (master : w.masters[0]? = some terminal)
    (finished : terminal.readOnce w.kernel chunkSize (deadline ≤ w.clock)
      (Terminal.startTimedRead terminal.closed chunkSize) = (.finished result, v.kernel))
    (later : v = { w with kernel := v.kernel }) :
    ∃ s : State, s = ({ pump := p.pump, sink := { pieces := p.pieces } } : State).turn
        { result, done := p.outcome.isSome, noted := v.clock, now := v.clock } ∧
      Console.servePump (fuel + 1) p w =
        if s.stopped then ({ p with pieces := s.sink.pieces, pump := s.pump, reading := none }, v)
        else Console.servePump fuel
          { p with pieces := s.sink.pieces, pump := s.pump, reading := some (v.clock + outputPoll) } v := by
  refine ⟨_, rfl, ?_⟩
  rw [Console.servePump]
  simp only [reading, master, finished, ← later]
  match result with
  | .error _ | .ok (some []) => rfl
  | .ok none => cases p.outcome.isSome <;> rfl
  | .ok (some (b :: data)) =>
    simp only [State.turn, Pump.afterRead, Sink.write, Bool.and_true]
    rcases p.pump.afterWrite true p.outcome.isSome v.clock v.clock with ⟨_ | _ | _, pump⟩ <;> rfl

/-- So is each turn of the pump of a session, whose program is done. -/
theorem pump_turn {i : ℕ} {p : Pump} {sink : Sink} {w v : Session.World} {terminal : Host.Master}
    {since fuel : ℕ} {result : Except TransferError (Option Octets)}
    (master : w.settle.masters[i]? = some terminal)
    (finished : terminal.readOnce w.settle.kernel chunkSize
      (Session.Script.State.deadline since outputPoll w.settle ≤ w.settle.clock)
      (Terminal.startTimedRead terminal.closed chunkSize) = (.finished result, v.kernel))
    (later : v = { w.settle with kernel := v.kernel }) :
    ∃ s : State, s = ({ pump := p, sink } : State).turn
        { result, done := true, noted := v.clock, now := v.clock } ∧
      Session.Script.State.pump.go i p sink since (fuel + 1) w =
        if s.stopped then (s.sink, v)
        else Session.Script.State.pump.go i s.pump s.sink v.clock fuel v := by
  refine ⟨_, rfl, ?_⟩
  rw [Session.Script.State.pump.go]
  simp only [master, finished, ← later]
  match result with
  | .error _ | .ok (some []) | .ok none => rfl
  | .ok (some (b :: data)) =>
    simp only [State.turn, Pump.afterRead, Bool.and_true]
    rcases sink.write (b :: data) with ⟨all, sink⟩
    rcases p.afterWrite all true v.clock v.clock with ⟨_ | _ | _, pump⟩ <;> rfl

/-! ### What is copied, and when it ends -/

/-- As much as there is room for. -/
def cut (room : Option ℕ) (data : Octets) : Octets :=
  match room with
  | none => data
  | some n => data.take n

section Turns

variable (room : Option ℕ) (turns : ℕ → Turn)

/-- What the reads of the first `n` turns brought, in order. -/
def brought (n : ℕ) : Octets := (List.range n).flatMap fun i => (turns i).chunk

/-- Whether the sink fails in a turn: there is no room for its chunk, or it cannot be flushed. -/
def Fails (n : ℕ) : Prop :=
  (turns n).chunk ≠ [] ∧ (cut room (brought turns (n + 1)) ≠ brought turns (n + 1) ∨ (turns n).flushed = false)

/-- Whether a chunk is handled with the program done. -/
def IsLate (n : ℕ) : Prop := (turns n).chunk ≠ [] ∧ (turns n).done

/-- Whether this is the first one. -/
def IsFirstLate (n : ℕ) : Prop := IsLate turns n ∧ ∀ i < n, ¬ IsLate turns i

/-- Whether the limit has passed, which counts from the first chunk that was handled with the program done. -/
def IsOverdue (n : ℕ) : Prop :=
  ∃ m ≤ n, IsFirstLate turns m ∧ (turns m).noted + drainLimit ≤ (turns n).now

/-- Whether a turn is the last one. Whether the program is done or not, the end of the terminal, a read that
fails and a sink that fails end the loop; when it is done, so do silence and a chunk when the limit has
passed. -/
def Ends (n : ℕ) : Prop :=
  (turns n).result = .ok (some []) ∨ (∃ e, (turns n).result = .error e) ∨ Fails room turns n ∨
    (turns n).done ∧ ((turns n).result = .ok none ∨ (turns n).chunk ≠ [] ∧ IsOverdue turns n)

end Turns

variable {room : Option ℕ} {turns : ℕ → Turn} {n : ℕ}

@[simp] theorem brought_zero : brought turns 0 = [] := rfl

theorem brought_succ : brought turns (n + 1) = brought turns n ++ (turns n).chunk := by
  rw [brought, List.range_succ, List.flatMap_append, List.flatMap_singleton, brought]

/-- The first chunk with the program done is one only. -/
theorem IsFirstLate.unique {m : ℕ} (first : IsFirstLate turns n) (first' : IsFirstLate turns m) : n = m := by
  rcases lt_trichotomy n m with before | same | behind
  · exact absurd first.1 (first'.2 n before)
  · exact same
  · exact absurd first'.1 (first.2 m behind)

theorem exists_isFirstLate (late : IsLate turns n) : ∃ m ≤ n, IsFirstLate turns m := by
  classical
  have some : ∃ m, IsLate turns m := ⟨n, late⟩
  exact ⟨Nat.find some, Nat.find_min' some late, Nat.find_spec some, fun i => Nat.find_min some⟩

/-- How things stand before a turn that the pump makes: everything was written, and the limit is set just when a
chunk was handled with the program done. -/
structure Runs (room : Option ℕ) (turns : ℕ → Turn) (n : ℕ) (s : State) : Prop where
  going : s.stopped = false
  written : s.sink.written = brought turns n
  left : s.sink.room = room.map (· - (brought turns n).length)
  fits : cut room (brought turns n) = brought turns n
  limit : ∀ l, s.pump.drainUntil = some l ↔ ∃ m < n, IsFirstLate turns m ∧ (turns m).noted + drainLimit = l

theorem runs_zero : Runs room turns 0 (after room turns 0) where
  going := rfl
  written := rfl
  left := by cases room <;> rfl
  fits := by cases room <;> simp [cut]
  limit l := by simp [after]

variable {s : State}

theorem afterRead_of_chunk {t : Turn} (some : t.chunk ≠ []) :
    Pump.afterRead t.done t.result = .write t.chunk := by
  rcases result : t.result with e | _ | _ | ⟨b, data⟩ <;> simp_all [Turn.chunk, Pump.afterRead]

namespace Runs

/-- A write goes on where the last one ended, and is whole just when everything so far fits. -/
theorem write (runs : Runs room turns n s) :
    ((s.sink.write (turns n).chunk).1 ↔ cut room (brought turns (n + 1)) = brought turns (n + 1)) ∧
    (s.sink.write (turns n).chunk).2.written = cut room (brought turns (n + 1)) ∧
    (s.sink.write (turns n).chunk).2.room = room.map (· - (brought turns (n + 1)).length) := by
  obtain ⟨-, written, left, fits, -⟩ := runs
  obtain ⟨pump, ⟨pieces, room'⟩, stopped⟩ := s
  rw [Sink.written] at written
  cases room with
  | none =>
    cases left
    simp [Sink.write, Sink.written, cut, written, brought_succ]
  | some r =>
    cases left
    have short : (brought turns n).length ≤ r := by simpa [cut] using fits
    have reach : (brought turns n ++ (turns n).chunk).take r =
        brought turns n ++ (turns n).chunk.take (r - (brought turns n).length) := by
      rw [List.take_append, List.take_of_length_le short]
    refine ⟨?_, ?_, ?_⟩
    · simp only [Sink.write, cut, brought_succ, List.take_eq_self_iff, List.length_append, decide_eq_true_eq]
      omega
    · simp [Sink.write, Sink.written, cut, written, brought_succ, reach]
    · simp [Sink.write, brought_succ, Nat.sub_sub]

/-- A chunk with the program done sets the limit, unless an earlier one did. -/
theorem limit_of_isLate (runs : Runs room turns n s) (late : IsLate turns n) (l : ℕ) :
    s.pump.drainUntil.getD ((turns n).noted + drainLimit) = l ↔
      ∃ m < n + 1, IsFirstLate turns m ∧ (turns m).noted + drainLimit = l := by
  obtain ⟨first, first_le, is_first⟩ := exists_isFirstLate late
  have only : (∃ m < n + 1, IsFirstLate turns m ∧ (turns m).noted + drainLimit = l) ↔
      (turns first).noted + drainLimit = l :=
    ⟨fun ⟨m, _, also, is⟩ => is_first.unique also ▸ is, fun is => ⟨first, by omega, is_first, is⟩⟩
  rw [only]
  rcases first_le.lt_or_eq with before | rfl
  · rw [(runs.limit _).mpr ⟨first, before, is_first, rfl⟩, Option.getD_some]
  · have unset : s.pump.drainUntil = none := Option.eq_none_iff_forall_ne_some.mpr fun l set => by
      obtain ⟨m, before, also, -⟩ := (runs.limit l).mp set
      exact before.ne (also.unique is_first)
    rw [unset, Option.getD_none]

/-- Without such a chunk the limit stays as it was. -/
theorem limit_of_not_isLate (runs : Runs room turns n s) (early : ¬ IsLate turns n) (l : ℕ) :
    s.pump.drainUntil = some l ↔
      ∃ m < n + 1, IsFirstLate turns m ∧ (turns m).noted + drainLimit = l := by
  rw [runs.limit]
  refine exists_congr fun m => and_congr_left fun ⟨first, _⟩ => ?_
  have other : m ≠ n := fun same => early (same ▸ first.1)
  omega

/-- A turn without a chunk writes nothing. -/
theorem of_silent (runs : Runs room turns n s) (silent : (turns n).chunk = []) :
    Runs room turns (n + 1) s ∧ s.sink.written = cut room (brought turns (n + 1)) := by
  have same : brought turns (n + 1) = brought turns n := by rw [brought_succ, silent, List.append_nil]
  have early : ¬ IsLate turns n := fun late => late.1 silent
  refine ⟨⟨runs.going, ?_, ?_, ?_, runs.limit_of_not_isLate early⟩, ?_⟩
  · rw [same, runs.written]
  · rw [same, runs.left]
  · rw [same, runs.fits]
  · rw [same, runs.fits, runs.written]

theorem fails_iff (runs : Runs room turns n s) (some : (turns n).chunk ≠ []) :
    Fails room turns n ↔ ((s.sink.write (turns n).chunk).1 && (turns n).flushed) = false := by
  rw [Fails, and_iff_right some, Ne, ← runs.write.1]
  cases (s.sink.write (turns n).chunk).1 <;> simp

/-- When the limit has passed, by the limit that the pump keeps. -/
theorem isOverdue_iff (runs : Runs room turns n s) (late : IsLate turns n) : IsOverdue turns n ↔
    s.pump.drainUntil.getD ((turns n).noted + drainLimit) ≤ (turns n).now := by
  obtain ⟨m, m_le, first, limit⟩ := (runs.limit_of_isLate late _).mp rfl
  rw [← limit]
  exact ⟨fun ⟨_, _, also, passed⟩ => first.unique also ▸ passed, fun passed =>
    ⟨m, Nat.le_of_lt_succ m_le, first, passed⟩⟩

/-- A turn with a chunk writes it and goes on, unless the sink fails or the limit has passed. -/
theorem turn_of_chunk (runs : Runs room turns n s) (some : (turns n).chunk ≠ []) :
    (s.turn (turns n)).sink.written = cut room (brought turns (n + 1)) ∧
    ((s.turn (turns n)).stopped ↔ Fails room turns n ∨ (turns n).done ∧ IsOverdue turns n) ∧
    ((s.turn (turns n)).stopped = false → Runs room turns (n + 1) (s.turn (turns n))) := by
  obtain ⟨whole, written, left⟩ := runs.write
  have unfolded : s.turn (turns n) =
      { pump := (s.pump.afterWrite ((s.sink.write (turns n).chunk).1 && (turns n).flushed) (turns n).done
          (turns n).noted (turns n).now).2
        sink := (s.sink.write (turns n).chunk).2
        stopped := (s.pump.afterWrite ((s.sink.write (turns n).chunk).1 && (turns n).flushed) (turns n).done
          (turns n).noted (turns n).now).1 = .stop } := by
    rw [State.turn, runs.going, afterRead_of_chunk some]
    rfl
  rw [unfolded, runs.fails_iff some]
  refine ⟨written, ?_⟩
  cases accepted : (s.sink.write (turns n).chunk).1 && (turns n).flushed with
  | false => exact ⟨by simp [Pump.afterWrite], by simp [Pump.afterWrite]⟩
  | true =>
    have all : cut room (brought turns (n + 1)) = brought turns (n + 1) :=
      whole.mp (Bool.and_eq_true_iff.mp accepted).1
    rw [all] at written
    cases done : (turns n).done with
    | false =>
      have early : ¬ IsLate turns n := fun late => by simp [IsLate, done] at late
      exact ⟨by simp [Pump.afterWrite],
        fun _ => ⟨rfl, written, left, all, runs.limit_of_not_isLate early⟩⟩
    | true =>
      have late : IsLate turns n := ⟨some, done⟩
      refine ⟨?_, fun going => ⟨going, written, left, all, fun l => ?_⟩⟩
      · rw [runs.isOverdue_iff late]
        simp [Pump.afterWrite]
      · rw [← runs.limit_of_isLate late l]
        simp [Pump.afterWrite]

/-- A turn that the pump makes. -/
theorem step (runs : Runs room turns n s) :
    (s.turn (turns n)).sink.written = cut room (brought turns (n + 1)) ∧
    ((s.turn (turns n)).stopped ↔ Ends room turns n) ∧
    ((s.turn (turns n)).stopped = false → Runs room turns (n + 1) (s.turn (turns n))) := by
  rcases result : (turns n).result with e | _ | _ | ⟨b, data⟩
  · have silent : (turns n).chunk = [] := by simp only [Turn.chunk, result]
    obtain ⟨next, written⟩ := runs.of_silent silent
    simp [State.turn, Pump.afterRead, runs.going, result, written, Ends]
  · have silent : (turns n).chunk = [] := by simp only [Turn.chunk, result]
    obtain ⟨next, written⟩ := runs.of_silent silent
    cases done : (turns n).done <;>
      simp [State.turn, Pump.afterRead, runs.going, result, written, Ends, done, silent, Fails, next]
  · have silent : (turns n).chunk = [] := by simp only [Turn.chunk, result]
    obtain ⟨next, written⟩ := runs.of_silent silent
    simp [State.turn, Pump.afterRead, runs.going, result, written, Ends]
  · have some : (turns n).chunk ≠ [] := by simp [Turn.chunk, result]
    have ends : Ends room turns n ↔ Fails room turns n ∨ (turns n).done ∧ IsOverdue turns n := by
      simp [Ends, result, some]
    rw [ends]
    exact runs.turn_of_chunk some

end Runs

/-- Before a turn that the pump makes, everything is as the turns so far brought it. -/
theorem runs_after (going : (after room turns n).stopped = false) :
    Runs room turns n (after room turns n) := by
  induction n with
  | zero => exact runs_zero
  | succ n ih =>
    have before : (after room turns n).stopped = false := by
      by_contra stopped
      rw [after, State.turn, if_pos (by simpa using stopped)] at going
      exact stopped going
    exact (ih before).step.2.2 going

/-- Once the program is done, and stays so, the pump stops on a clock that passes the limit. -/
theorem exists_stopped (stays : ∀ i, (turns i).done → (turns (i + 1)).done) {k : ℕ} (done : (turns k).done)
    (passes : ∀ m, IsFirstLate turns m → ∃ n ≥ m, (turns m).noted + drainLimit ≤ (turns n).now) :
    ∃ n, (after room turns n).stopped := by
  have still {i j : ℕ} (le : i ≤ j) (done : (turns i).done) : (turns j).done :=
    Nat.le_induction done (fun j _ => stays j) j le
  by_contra never
  simp only [not_exists, Bool.not_eq_true] at never
  have go_on (n : ℕ) : ¬ Ends room turns n := fun ends => by
    have stopped := (runs_after (never n)).step.2.1.mpr ends
    rw [← after, never (n + 1)] at stopped
    cases stopped
  have chunks {n : ℕ} (done : (turns n).done) : (turns n).chunk ≠ [] := by
    intro silent
    apply go_on n
    rcases result : (turns n).result with e | _ | _ | ⟨b, data⟩
    · exact .inr (.inl ⟨e, result⟩)
    · exact .inr (.inr (.inr ⟨done, .inl result⟩))
    · exact .inl result
    · simp [Turn.chunk, result] at silent
  obtain ⟨m, -, first⟩ := exists_isFirstLate ⟨chunks done, done⟩
  obtain ⟨n, le, passed⟩ := passes m first
  have done : (turns n).done := still le first.1.2
  exact go_on n (.inr (.inr (.inr ⟨done, .inr ⟨chunks done, m, le, first, passed⟩⟩)))

/-- What the pump has written is what the reads of its turns brought, in order and without gaps, and only the chunk
of its last turn may be cut, where the sink had no more room; a pump that has stopped writes nothing more. It
stops in exactly those turns that end it. Once the program is done, and stays so, it stops on every clock that
passes the limit. -/
theorem copies_until_done (room : Option ℕ) (turns : ℕ → Turn)
    (stays : ∀ i, (turns i).done → (turns (i + 1)).done) :
    (∀ n, (after room turns n).stopped = false →
      (after room turns n).sink.written = brought turns n ∧
      (after room turns (n + 1)).sink.written = cut room (brought turns (n + 1)) ∧
      ((after room turns (n + 1)).stopped ↔ Ends room turns n)) ∧
    (∀ n, (after room turns n).stopped → after room turns (n + 1) = after room turns n) ∧
    ∀ k, (turns k).done →
      (∀ m, IsFirstLate turns m → ∃ n ≥ m, (turns m).noted + drainLimit ≤ (turns n).now) →
      ∃ n, (after room turns n).stopped := by
  refine ⟨fun n going => ?_, fun n stopped => ?_, fun k done passes => exists_stopped stays done passes⟩
  · obtain ⟨written, ends, -⟩ := (runs_after going).step
    exact ⟨(runs_after going).written, written, ends⟩
  · rw [after, State.turn, if_pos stopped]

/-- Something is shown in every turn, and the program is done from the third one on. -/
def endless (i : ℕ) : Turn where
  result := .ok (some [0x2e])
  done := 2 ≤ i
  noted := 400000 * i
  now := 400000 * i

/-- A program that was left behind shows something all the time. -/
theorem copies_until_done_endless : (∀ i, (endless i).done → (endless (i + 1)).done) ∧
    (after none endless 1).stopped = false ∧
    (after none endless 2).sink.written = cut none (brought endless 2) ∧
    ∃ n, (after none endless n).stopped := by
  have stays : ∀ i, (endless i).done → (endless (i + 1)).done := by
    intro i done
    have late : 2 ≤ i := by simpa [endless] using done
    have later : 2 ≤ i + 1 := by omega
    simpa [endless] using later
  obtain ⟨writes, -, stops⟩ := copies_until_done none endless stays
  have going : (after none endless 1).stopped = false := by decide
  refine ⟨stays, going, (writes 1 going).2.1, stops 2 (by decide) fun m _ => ⟨m + 3, by omega, ?_⟩⟩
  show 400000 * m + drainLimit ≤ 400000 * (m + 3)
  rw [drainLimit]
  omega

end PseudoTerminal.Relay.Pumping
