import Mathlib.Tactic
import PseudoTerminal.Console

/-! The pump beside a program, step by step. A read that comes back, the look at whether the program is
done, and the write are steps of their own, and between them the program may write and exit, and the pump
may be told. Everything that is shown goes to the sink in order, and nothing is skipped on the way. But the
pump stops by a read that came back earlier: what the program wrote since then is lost, although the pump
was told only after the program had exited. If a read comes back after the exit, nothing is lost. While
nobody else takes a step, the pump of the relay does what these steps do. -/

namespace PseudoTerminal.Relay.Draining

/-! ### Steps -/

/-- How far the pump has come. -/
inductive Stage
  | reading
  /-- A read came back. -/
  | answered (result : Except TransferError (Option Octets))
  | writing (data : Octets)
  /-- A write came back, of everything or not. -/
  | wrote (all : Bool)
  | stopped

namespace Stage

def ofNext : Pump.Next → Stage
  | .stop => stopped
  | .read => reading
  | .write data => writing data

/-- What the pump has read and not written. -/
def held : Stage → Octets
  | answered (.ok (some data)) | writing data => data
  | _ => []

@[simp] theorem held_reading : reading.held = [] := rfl

@[simp] theorem held_answered (result : Option Octets) :
    (answered (.ok result)).held = result.getD [] := by
  cases result <;> rfl

@[simp] theorem held_writing (data : Octets) : (writing data).held = data := rfl

@[simp] theorem held_wrote (all : Bool) : (wrote all).held = [] := rfl

@[simp] theorem held_stopped : stopped.held = [] := rfl

/-- What a read brought is what is written next. -/
theorem held_afterRead (done : Bool) (result : Except TransferError (Option Octets)) :
    (ofNext (Pump.afterRead done result)).held = (answered result).held :=
  match result, done with
  | .error _, _ | .ok (some []), _ | .ok (some (_ :: _)), _ | .ok none, true | .ok none, false => rfl

/-- Whether the pump has no more to do than to look whether the program is done, or not even that. -/
def IsIdle : Stage → Prop
  | answered (.ok none) | stopped => True
  | _ => False

/-- Whether no read has failed or met the end, and no write has failed. -/
def IsSmooth : Stage → Prop
  | answered (.ok (some [])) | answered (.error _) | wrote false => False
  | _ => True

end Stage

/-- How a read comes back. -/
inductive Reading
  /-- Nothing was there in time. -/
  | silence
  /-- With so many octets. -/
  | data (n : ℕ)
  | hangup
  | failure (e : TransferError)

inductive Move
  /-- The program writes to the terminal. -/
  | print (data : Octets)
  /-- Somebody else writes to it. -/
  | intrude (data : Octets)
  | exit
  /-- The pump is told that the program is done. -/
  | tell
  | wait (time : ℕ)
  | read (r : Reading)
  /-- The pump goes on from a read or a write. -/
  | go

namespace Move

def shown : Move → Octets
  | print data | intrude data => data
  | _ => []

def printed : Move → Octets
  | print data => data
  | _ => []

/-- Whether this is no read that fails or meets the end. -/
def IsSmooth : Move → Prop
  | read .hangup | read (.failure _) => False
  | _ => True

end Move

/-- What the terminal is to show. -/
def shown (moves : List Move) : Octets := moves.flatMap Move.shown

/-- What the program writes. -/
def printed (moves : List Move) : Octets := moves.flatMap Move.printed

structure State where
  /-- What was shown and not read. -/
  pending : Octets := []
  stage : Stage := .reading
  pump : Pump := {}
  sink : Sink := {}
  exited : Bool := false
  /-- Whether the pump was told. -/
  done : Bool := false
  clock : ℕ := 0

namespace State

/-- What a read reports, and what it leaves. -/
def read? (s : State) : Reading → Option (Except TransferError (Option Octets) × Octets)
  | .silence => if s.pending = [] then some (.ok none, []) else none
  | .data n =>
    if 0 < n ∧ n ≤ chunkSize ∧ n ≤ s.pending.length then
      some (.ok (some (s.pending.take n)), s.pending.drop n)
    else none
  | .hangup => some (.ok (some []), s.pending)
  | .failure e => some (.error e, s.pending)

def go? (s : State) : Option State :=
  match s.stage with
  | .answered result => some { s with stage := .ofNext (Pump.afterRead s.done result) }
  | .writing data =>
    let (all, sink) := s.sink.write data
    some { s with sink, stage := .wrote all }
  | .wrote all =>
    let (next, pump) := s.pump.afterWrite all s.done s.clock s.clock
    some { s with pump, stage := .ofNext next }
  | .reading | .stopped => none

def step (s : State) : Move → Option State
  | .print data => if s.exited then none else some { s with pending := s.pending ++ data }
  | .intrude data => some { s with pending := s.pending ++ data }
  | .exit => if s.exited then none else some { s with exited := true }
  | .tell => if s.exited then some { s with done := true } else none
  | .wait time => some { s with clock := s.clock + time }
  | .read r =>
    match s.stage with
    | .reading => (s.read? r).map fun (result, pending) => { s with pending, stage := .answered result }
    | _ => none
  | .go => s.go?

/-- Makes steps one after the other. -/
def run (s : State) (moves : List Move) : Option State := moves.foldlM step s

/-- Everything that was shown, written or not. -/
def content (s : State) : Octets := s.sink.written ++ s.stage.held ++ s.pending

/-- Whether the limit has not passed. -/
def InTime (s : State) : Prop := ∀ limit ∈ s.pump.drainUntil, s.clock < limit

variable {s t : State} {m : Move} {moves : List Move}

@[simp] theorem run_nil : s.run [] = some s := rfl

theorem run_cons (m : Move) (moves : List Move) :
    s.run (m :: moves) = (s.step m).bind fun s => s.run moves := rfl

theorem run_append (before after : List Move) :
    s.run (before ++ after) = (s.run before).bind fun s => s.run after := List.foldlM_append

theorem run_concat (moves : List Move) (m : Move) :
    s.run (moves ++ [m]) = (s.run moves).bind fun s => s.step m := by
  rw [run_append]
  congr 1
  funext u
  rw [run_cons]
  exact Option.bind_fun_some (u.step m)

/-- A step that is not the pump's. -/
structure Aside (s : State) (m : Move) (t : State) : Prop where
  not_read : ∀ r, m ≠ .read r
  pending : t.pending = s.pending ++ m.shown
  stage : t.stage = s.stage
  pump : t.pump = s.pump
  sink : t.sink = s.sink
  clock : s.clock ≤ t.clock
  /-- A program that has exited writes nothing. -/
  exited : s.exited = true → t.exited = true ∧ m.printed = []

theorem step_cases (h : s.step m = some t) :
    Aside s m t ∨
    (∃ r result pending, m = .read r ∧ s.stage = .reading ∧ s.read? r = some (result, pending) ∧
      t = { s with pending, stage := .answered result }) ∨
    (m = .go ∧ s.go? = some t) := by
  cases m with
  | print data =>
    rw [step] at h
    split_ifs at h with exited
    cases h
    exact .inl ⟨nofun, rfl, rfl, rfl, rfl, le_rfl, fun ended => absurd ended exited⟩
  | intrude data =>
    cases h
    exact .inl ⟨nofun, rfl, rfl, rfl, rfl, le_rfl, fun ended => ⟨ended, rfl⟩⟩
  | exit =>
    rw [step] at h
    split_ifs at h
    cases h
    exact .inl ⟨nofun, (List.append_nil _).symm, rfl, rfl, rfl, le_rfl, fun _ => ⟨rfl, rfl⟩⟩
  | tell =>
    rw [step] at h
    split_ifs at h
    cases h
    exact .inl ⟨nofun, (List.append_nil _).symm, rfl, rfl, rfl, le_rfl, fun ended => ⟨ended, rfl⟩⟩
  | wait time =>
    cases h
    have later := Nat.le_add_right s.clock time
    exact .inl ⟨nofun, (List.append_nil _).symm, rfl, rfl, rfl, later, fun ended => ⟨ended, rfl⟩⟩
  | read r =>
    rw [step] at h
    split at h
    case h_1 reading =>
      obtain ⟨⟨result, pending⟩, found, rfl⟩ := Option.map_eq_some_iff.mp h
      exact .inr (.inl ⟨r, result, pending, rfl, reading, found, rfl⟩)
    case h_2 => cases h
  | go => exact .inr (.inr ⟨rfl, h⟩)

theorem go_cases (h : s.go? = some t) :
    (∃ result, s.stage = .answered result ∧
      t = { s with stage := .ofNext (Pump.afterRead s.done result) }) ∨
    (∃ data, s.stage = .writing data ∧
      t = { s with sink := (s.sink.write data).2, stage := .wrote (s.sink.write data).1 }) ∨
    (∃ all, s.stage = .wrote all ∧
      t = { s with
        pump := (s.pump.afterWrite all s.done s.clock s.clock).2
        stage := .ofNext (s.pump.afterWrite all s.done s.clock s.clock).1 }) := by
  unfold go? at h
  split at h <;> cases h
  case h_1 result answered => exact .inl ⟨result, answered, rfl⟩
  case h_2 data writing => exact .inr (.inl ⟨data, writing, rfl⟩)
  case h_3 all wrote => exact .inr (.inr ⟨all, wrote, rfl⟩)

end State

@[simp] theorem shown_append (before after : List Move) :
    shown (before ++ after) = shown before ++ shown after := List.flatMap_append

@[simp] theorem printed_append (before after : List Move) :
    printed (before ++ after) = printed before ++ printed after := List.flatMap_append

variable {s t : State} {m : Move} {moves before after : List Move}

/-! ### The pump that nobody interrupts -/

theorem afterWrite_stop_or_read (p : Pump) (all done : Bool) (noted now : ℕ) :
    (p.afterWrite all done noted now).1 = .stop ∨ (p.afterWrite all done noted now).1 = .read := by
  unfold Pump.afterWrite
  split_ifs
  · exact .inl rfl
  · exact .inr rfl
  · exact (ite_eq_or_eq ..).imp id id

/-- From a read that came back, the pump of the relay goes on as its own steps do, and then it reads again
or has stopped. -/
theorem servePump_eq {p : Console.Parties} {w v : Session.World} {terminal : Host.Master}
    {deadline fuel : ℕ} {result : Except TransferError (Option Octets)}
    (reading : p.reading = some deadline) (master : w.masters[0]? = some terminal)
    (finished : terminal.readOnce w.kernel chunkSize (deadline ≤ w.clock)
      (Terminal.startTimedRead terminal.closed chunkSize) = (.finished result, v.kernel))
    (later : v = { w with kernel := v.kernel })
    (answered : s.stage = .answered result) (pump : s.pump = p.pump)
    (sink : s.sink = { pieces := p.pieces }) (done : s.done = p.outcome.isSome) (clock : s.clock = v.clock) :
    ∃ n t, s.run (List.replicate n .go) = some t ∧
      (t.stage = .reading ∧ Console.servePump (fuel + 1) p w = Console.servePump fuel
          { p with pieces := t.sink.pieces, pump := t.pump, reading := some (v.clock + outputPoll) } v ∨
        t.stage = .stopped ∧ Console.servePump (fuel + 1) p w =
          ({ p with pieces := t.sink.pieces, pump := t.pump, reading := none }, v)) := by
  obtain ⟨pending, stage, _, _, exited, _, _⟩ := s
  subst answered pump sink done clock
  rw [Console.servePump]
  simp only [reading, master, finished, ← later]
  match result with
  | .error _ | .ok (some []) => exact ⟨1, _, rfl, .inr ⟨rfl, rfl⟩⟩
  | .ok none =>
    cases outcome : p.outcome.isSome with
    | true => exact ⟨1, _, rfl, .inr ⟨rfl, rfl⟩⟩
    | false => exact ⟨1, _, rfl, .inl ⟨rfl, rfl⟩⟩
  | .ok (some (b :: data)) =>
    have stop_or_read := afterWrite_stop_or_read p.pump true p.outcome.isSome v.clock v.clock
    rcases wrote : p.pump.afterWrite true p.outcome.isSome v.clock v.clock with ⟨next, pump⟩
    rw [wrote] at stop_or_read
    refine ⟨3, { pending, exited, pump, stage := .ofNext next, sink := ⟨(b :: data) :: p.pieces, none⟩
                 done := p.outcome.isSome, clock := v.clock }, ?_, ?_⟩
    · simp [State.run_cons, State.step, State.go?, List.replicate, Stage.ofNext, Pump.afterRead,
        Sink.write, wrote]
    · obtain rfl | rfl := stop_or_read
      · exact .inr ⟨rfl, rfl⟩
      · exact .inl ⟨rfl, rfl⟩

/-! ### The limit -/

/-- The limit is set once. -/
theorem drainUntil_afterWrite {p : Pump} {all done : Bool} {noted now limit : ℕ}
    (found : limit ∈ p.drainUntil) : limit ∈ (p.afterWrite all done noted now).2.drainUntil := by
  rw [Option.mem_def] at found ⊢
  unfold Pump.afterWrite
  split_ifs
  · exact found
  · exact found
  · rw [found]
    rfl

/-- A pump that wrote everything stops only when the limit has passed. -/
theorem next_afterWrite {p : Pump} {done : Bool} {noted now : ℕ}
    (in_time : ∀ limit ∈ (p.afterWrite true done noted now).2.drainUntil, now < limit) :
    (p.afterWrite true done noted now).1 = .read := by
  unfold Pump.afterWrite at in_time ⊢
  cases done with
  | false => rfl
  | true => exact if_neg (not_le.mpr (in_time _ rfl))

namespace State

/-- The clock never goes back, nor does the limit. -/
theorem InTime.of_step (in_time : t.InTime) (h : s.step m = some t) : s.InTime := by
  intro limit found
  rcases step_cases h with aside | ⟨_, _, _, -, -, -, rfl⟩ | ⟨-, went⟩
  · exact aside.clock.trans_lt (in_time limit (aside.pump ▸ found))
  · exact in_time limit found
  · rcases go_cases went with ⟨_, -, rfl⟩ | ⟨_, -, rfl⟩ | ⟨_, -, rfl⟩
    · exact in_time limit found
    · exact in_time limit found
    · exact in_time limit (drainUntil_afterWrite found)

end State

/-! ### What was written -/

theorem write_endless {sink : Sink} (endless : sink.room = none) (data : Octets) :
    (sink.write data).1 = true ∧ (sink.write data).2.room = none ∧
      (sink.write data).2.written = sink.written ++ data := by
  obtain ⟨pieces, room⟩ := sink
  subst endless
  refine ⟨rfl, rfl, ?_⟩
  simp [Sink.write, Sink.written]

/-- How things stand after some moves, of which no read failed or met the end: everything shown is there
in order, and if the pump is idle, all that had been shown when it last looked has been written. -/
structure Calm (moves : List Move) (s : State) : Prop where
  endless : s.sink.room = none
  smooth : s.stage.IsSmooth
  content : s.content = shown moves
  quiet : s.stage.IsIdle → ∃ before after, moves = before ++ .read .silence :: after ∧
    (∀ r, .read r ∉ after) ∧ s.sink.written = shown before

namespace Calm

theorem initial : Calm [] {} where
  endless := rfl
  smooth := trivial
  content := rfl
  quiet := nofun

/-- Moves that are not reads leave what the pump saw as it was. -/
theorem quiet_concat (c : Calm moves s) (not_read : ∀ r, m ≠ .read r) (sink : t.sink = s.sink)
    (idle : s.stage.IsIdle) : ∃ before after, moves ++ [m] = before ++ .read .silence :: after ∧
      (∀ r, .read r ∉ after) ∧ t.sink.written = shown before := by
  obtain ⟨before, after, rfl, no_read, written⟩ := c.quiet idle
  refine ⟨before, after ++ [m], by simp, fun r among => ?_, sink ▸ written⟩
  rcases List.mem_append.mp among with among | among
  · exact no_read r among
  · exact not_read r (List.mem_singleton.mp among).symm

theorem aside (c : Calm moves s) (h : s.Aside m t) : Calm (moves ++ [m]) t where
  endless := h.sink ▸ c.endless
  smooth := h.stage ▸ c.smooth
  content := by
    have before := c.content
    rw [State.content] at before ⊢
    rw [h.sink, h.stage, h.pending, ← List.append_assoc, before, shown_append]
    simp [shown]
  quiet idle := c.quiet_concat h.not_read h.sink (h.stage ▸ idle)

theorem shown_concat (silent : m.shown = []) : shown (moves ++ [m]) = shown moves := by
  simp [shown, silent]

theorem read {r : Reading} {result : Except TransferError (Option Octets)} {pending : Octets}
    (c : Calm moves s) (smooth : (Move.read r).IsSmooth) (reading : s.stage = .reading)
    (found : s.read? r = some (result, pending)) :
    Calm (moves ++ [.read r]) { s with pending, stage := .answered result } := by
  have content : s.sink.written ++ s.pending = shown moves := by
    rw [← c.content, State.content, reading, Stage.held_reading, List.append_nil]
  have same : shown (moves ++ [.read r]) = shown moves := shown_concat rfl
  cases r with
  | silence =>
    rw [State.read?] at found
    split_ifs at found with empty
    cases found
    rw [empty, List.append_nil] at content
    refine ⟨c.endless, trivial, ?_, fun _ => ⟨moves, [], rfl, fun r => List.not_mem_nil, content⟩⟩
    rw [same, ← content]
    simp [State.content]
  | data n =>
    rw [State.read?] at found
    split_ifs at found with fits
    cases found
    refine ⟨c.endless, ?_, ?_, nofun⟩
    · obtain ⟨b, rest, shape⟩ := List.exists_cons_of_length_pos (fits.1.trans_le fits.2.2)
      obtain ⟨k, rfl⟩ := Nat.exists_eq_add_one.mpr fits.1
      rw [shape]
      trivial
    · rw [same, ← content]
      simp [State.content]
  | hangup => exact smooth.elim
  | failure e => exact smooth.elim

/-- The pump's own steps. -/
theorem go (c : Calm moves s) (h : s.go? = some t) (in_time : t.InTime) : Calm (moves ++ [.go]) t := by
  have same : shown (moves ++ [.go]) = shown moves := shown_concat rfl
  have content := c.content
  rw [State.content] at content
  rcases State.go_cases h with ⟨result, answered, rfl⟩ | ⟨data, writing, rfl⟩ | ⟨all, wrote, rfl⟩
  · have kept : { s with stage := .ofNext (Pump.afterRead s.done result) }.content =
        shown (moves ++ [.go]) := by
      rw [State.content, Stage.held_afterRead, ← answered, same, content]
    have smooth := c.smooth
    rw [answered] at smooth
    match result with
    | .error _ | .ok (some []) => exact smooth.elim
    | .ok (some (_ :: _)) => exact ⟨c.endless, trivial, kept, nofun⟩
    | .ok none =>
      have quiet := c.quiet_concat (m := .go) nofun rfl (answered ▸ trivial)
      refine ⟨c.endless, ?_, kept, fun _ => quiet⟩
      cases s.done <;> trivial
  · obtain ⟨all, endless, written⟩ := write_endless c.endless data
    rw [writing] at content
    refine ⟨endless, all ▸ trivial, ?_, nofun⟩
    rw [State.content, written, same, ← content]
    simp
  · have smooth := c.smooth
    rw [wrote] at content smooth
    cases all with
    | false => exact smooth.elim
    | true =>
      have next := next_afterWrite in_time
      refine ⟨c.endless, next ▸ trivial, ?_, next ▸ nofun⟩
      rw [State.content, next, same, ← content]
      rfl

theorem step (c : Calm moves s) (h : s.step m = some t) (smooth : m.IsSmooth) (in_time : t.InTime) :
    Calm (moves ++ [m]) t := by
  rcases State.step_cases h with aside | ⟨r, result, pending, rfl, reading, found, rfl⟩ | ⟨rfl, went⟩
  · exact c.aside aside
  · exact c.read smooth reading found
  · exact c.go went in_time

theorem run (h : State.run {} moves = some t) (smooth : ∀ m ∈ moves, m.IsSmooth) (in_time : t.InTime) :
    Calm moves t := by
  induction moves using List.reverseRecOn generalizing t with
  | nil =>
    cases h
    exact initial
  | append_singleton moves m ih =>
    rw [State.run_concat, Option.bind_eq_some_iff] at h
    obtain ⟨s, before, last⟩ := h
    rw [List.forall_mem_append] at smooth
    have c : Calm moves s := ih before smooth.1 (in_time.of_step last)
    exact c.step last (smooth.2 m List.mem_cons_self) in_time

end Calm

/-! ### What was lost -/

/-- What the program wrote is all among what was written to the sink. -/
def Relayed (moves : List Move) (sink : Sink) : Prop :=
  ∃ before after, moves = before ++ after ∧ sink.written = shown before ∧ printed after = []

theorem printed_eq_nil_of_shown (h : shown moves = []) : printed moves = [] := by
  rw [shown, List.flatMap_eq_nil_iff] at h
  rw [printed, List.flatMap_eq_nil_iff]
  intro m among
  cases m with
  | print data => exact h _ among
  | _ => rfl

/-- Everything was relayed just when the program wrote nothing later. -/
theorem relayed_append_iff {sink : Sink} (written : sink.written = shown before) :
    Relayed (before ++ after) sink ↔ printed after = [] := by
  refine ⟨?_, fun nothing => ⟨before, after, rfl, written, nothing⟩⟩
  rintro ⟨front, back, same, written', nothing⟩
  rcases List.append_eq_append_iff.mp same with ⟨between, rfl, rfl⟩ | ⟨between, rfl, rfl⟩
  · rw [written, shown_append, List.self_eq_append_right] at written'
    rw [printed_append, printed_eq_nil_of_shown written', nothing, List.append_nil]
  · rw [printed_append, List.append_eq_nil_iff] at nothing
    exact nothing.2

theorem exited_of_step (h : s.step m = some t) (exited : s.exited = true) :
    t.exited = true ∧ m.printed = [] := by
  rcases State.step_cases h with aside | ⟨_, _, _, rfl, -, -, rfl⟩ | ⟨rfl, went⟩
  · exact aside.exited exited
  · exact ⟨exited, rfl⟩
  · rcases State.go_cases went with ⟨_, -, rfl⟩ | ⟨_, -, rfl⟩ | ⟨_, -, rfl⟩ <;> exact ⟨exited, rfl⟩

theorem printed_of_exited (h : s.run moves = some t) (exited : s.exited = true) : printed moves = [] := by
  induction moves generalizing s with
  | nil => rfl
  | cons m moves ih =>
    rw [State.run_cons, Option.bind_eq_some_iff] at h
    obtain ⟨u, first, rest⟩ := h
    obtain ⟨still, nothing⟩ := exited_of_step first exited
    rw [printed, List.flatMap_cons, nothing, List.nil_append]
    exact ih rest still

/-- After the exit, the program writes nothing. -/
theorem printed_after_exit (h : s.run (before ++ .exit :: after) = some t) : printed after = [] := by
  rw [State.run_append, Option.bind_eq_some_iff] at h
  obtain ⟨u, -, h⟩ := h
  rw [State.run_cons, Option.bind_eq_some_iff] at h
  obtain ⟨v, exit, rest⟩ := h
  rw [State.step] at exit
  split_ifs at exit
  cases exit
  exact printed_of_exited rest rfl

variable (h : State.run {} moves = some t) (smooth : ∀ m ∈ moves, m.IsSmooth) (in_time : t.InTime)
  (stopped : t.stage = .stopped)

include h smooth in_time stopped

/-- The pump stops by a read that nothing came to in time. What was shown before that read has been
written, in order, and what was shown since then has not; so nothing of the program is lost just when it
wrote nothing since then. -/
theorem relayed_iff_of_stopped : ∃ before after, moves = before ++ .read .silence :: after ∧
    (∀ r, .read r ∉ after) ∧ t.sink.written = shown before ∧ t.pending = shown after ∧
    (Relayed moves t.sink ↔ printed after = []) := by
  have c : Calm moves t := Calm.run h smooth in_time
  obtain ⟨before, after, rfl, no_read, written⟩ := c.quiet (stopped ▸ trivial)
  have pending : t.pending = shown after := by
    have content := c.content
    rw [State.content, stopped, written, Stage.held_stopped, List.append_nil, shown_append] at content
    exact List.append_cancel_left content
  exact ⟨before, after, rfl, no_read, written, pending, relayed_append_iff written⟩

/-- Nothing is lost if a read came back after the program had exited. -/
theorem relayed_of_exit {r : Reading} (shape : moves = before ++ .exit :: after)
    (looked : .read r ∈ after) : Relayed moves t.sink := by
  obtain ⟨front, back, last, no_read, -, -, relayed⟩ := relayed_iff_of_stopped h smooth in_time stopped
  apply relayed.mpr
  subst shape
  have nothing := printed_after_exit h
  rcases List.append_eq_append_iff.mp last with ⟨between, -, same⟩ | ⟨between, -, same⟩
  · rcases List.cons_eq_append_iff.mp same with ⟨-, clash⟩ | ⟨between, -, rfl⟩
    · cases clash
    · rw [printed_append, List.append_eq_nil_iff] at nothing
      exact nothing.2
  · -- the exit cannot come after the last read, for another one comes after it
    rcases List.cons_eq_append_iff.mp same with ⟨-, clash⟩ | ⟨between, -, rfl⟩
    · cases clash
    · exact absurd (List.mem_append_right _ (List.mem_cons_of_mem _ looked)) (no_read r)

omit h smooth in_time stopped

/-- The program writes and exits between a read and the look whether it is done. -/
theorem exists_not_relayed : ∃ moves t, State.run {} moves = some t ∧ (∀ m ∈ moves, m.IsSmooth) ∧
    t.InTime ∧ t.stage = .stopped ∧ ¬ Relayed moves t.sink := by
  refine ⟨[] ++ .read .silence :: [.print [0x21], .exit, .tell, .go],
    { pending := [0x21], stage := .stopped, exited := true, done := true }, rfl, ?_, nofun, rfl, ?_⟩
  · simp [Move.IsSmooth]
  · rw [relayed_append_iff rfl]
    decide

end PseudoTerminal.Relay.Draining
