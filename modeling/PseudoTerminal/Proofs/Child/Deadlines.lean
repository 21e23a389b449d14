import Mathlib.Algebra.Order.Floor.Div
import PseudoTerminal.Proofs.Child.Reaping
import PseudoTerminal.Session.HandleScript

/-! Waiting for a child up to a deadline, look by look. Between two steps of the wait time goes by as it likes, the
child may end, and others may look at it; a pause lasts at least as long as was asked for. The clock may have any
number of ticks to a microsecond; a wait whose deadline it cannot hold panics before the first look. A pause is one
interval long unless the deadline cuts it short, so after so many turns as many intervals have gone by, or the
deadline has passed, and then the next look is the last. -/

namespace PseudoTerminal.Child.TimedWait

/-- What to do after a look, by a clock with so many ticks to a microsecond. -/
def moveBy (ticks deadline now : ℕ) : Option ExitKind → Move
  | some kind => .answer (some kind)
  | none => if deadline ≤ now then .answer none else .pause (min (interval * ticks) (deadline - now))

theorem moveBy_one : moveBy 1 = move := by
  funext deadline now found
  cases found <;> rfl

/-! ### Surroundings -/

/-- What may happen between two steps of the wait. -/
inductive Event
  | elapse (time : ℕ)
  | ends (kind : ExitKind)
  /-- Somebody else looks at the child by the same handle, and takes its end if it has ended. -/
  | look
  deriving DecidableEq

/-- A host that keeps the child until its end is taken. -/
def custody : Custody Standing where
  standing := id
  reap _ := .gone
  signalGroup child _ := (.ok (), child)
  signalAlone child _ := (.ok (), child)

/-- The clock, the child, and its handle, which remembers the end that was taken. -/
structure Scene where
  clock : ℕ
  child : Standing
  handle : Handle
  remembers : child = .gone ↔ handle.known.isSome

theorem remembers_tryWait {handle : Handle} {child : Standing}
    (remembers : child = .gone ↔ handle.known.isSome) :
    (handle.tryWait custody child).2.2 = .gone ↔ (handle.tryWait custody child).2.1.known.isSome := by
  obtain ⟨pid, _ | kind⟩ := handle
  · cases child with
    | ended kind => exact iff_of_true rfl rfl
    | running | gone => exact remembers
  · exact remembers

namespace Scene

variable {c d e : Scene}

/-- A child that was just spawned. -/
def spawned (pid : ℕ) : Scene where
  clock := 0
  child := .running
  handle := { pid }
  remembers := iff_of_false nofun nofun

/-- How the child ended, once it has. -/
def fate (c : Scene) : Option ExitKind := c.handle.known.or c.child.end?

def look (c : Scene) : Except Fault (Option ExitKind) × Scene :=
  ((c.handle.tryWait custody c.child).1,
    { c with
      child := (c.handle.tryWait custody c.child).2.2
      handle := (c.handle.tryWait custody c.child).2.1
      remembers := remembers_tryWait c.remembers })

def finish (c : Scene) (kind : ExitKind) : Scene :=
  if running : c.child = .running then
    { c with child := .ended kind, remembers := by simp [← c.remembers, running] }
  else c

def meet (c : Scene) : Event → Scene
  | .elapse time => { c with clock := c.clock + time }
  | .ends kind => c.finish kind
  | .look => c.look.2

def pass (c : Scene) (events : List Event) : Scene := events.foldl meet c

/-- A pause, and what happens behind it. -/
def sleep (c : Scene) (duration : ℕ) (events : List Event) : Scene :=
  (c.meet (.elapse duration)).pass events

/-- A look tells the end of the child just when it has ended, and leaves it the same. -/
theorem look_spec (c : Scene) : c.look.1 = .ok c.fate ∧ c.look.2.clock = c.clock ∧ c.look.2.fate = c.fate := by
  obtain ⟨clock, child, ⟨pid, _ | kind⟩, remembers⟩ := c
  · cases child with
    | gone => cases remembers.mp rfl
    | running | ended => exact ⟨rfl, rfl, rfl⟩
  · exact ⟨rfl, rfl, rfl⟩

/-- One scene came before another: the clock does not go back, and an end is for good. -/
structure Before (c d : Scene) : Prop where
  clock : c.clock ≤ d.clock
  fate : ∀ kind, c.fate = some kind → d.fate = some kind

theorem Before.refl (c : Scene) : c.Before c := ⟨le_rfl, fun _ => id⟩

theorem Before.trans (h : c.Before d) (h' : d.Before e) : c.Before e :=
  ⟨h.clock.trans h'.clock, fun kind ended => h'.fate kind (h.fate kind ended)⟩

theorem before_look (c : Scene) : c.Before c.look.2 :=
  ⟨c.look_spec.2.1.ge, fun _ ended => c.look_spec.2.2.trans ended⟩

/-- A child ends once. -/
theorem fate_finish (c : Scene) (kind : ExitKind) : (c.finish kind).fate = some (c.fate.getD kind) := by
  obtain ⟨clock, child, ⟨pid, _ | known⟩, remembers⟩ := c
  · cases child with
    | gone => cases remembers.mp rfl
    | running | ended => rfl
  · cases remembers.mpr rfl
    rfl

theorem before_finish (c : Scene) (kind : ExitKind) : c.Before (c.finish kind) where
  clock := by unfold finish; split_ifs <;> rfl
  fate ended was := by rw [fate_finish, was, Option.getD_some]

theorem before_meet (c : Scene) : ∀ e, c.Before (c.meet e)
  | .elapse _ => ⟨Nat.le_add_right _ _, fun _ => id⟩
  | .ends kind => c.before_finish kind
  | .look => c.before_look

theorem before_pass (c : Scene) (events : List Event) : c.Before (c.pass events) := by
  induction events generalizing c with
  | nil => exact .refl c
  | cons e events ih => exact (c.before_meet e).trans (ih _)

/-- A pause lasts at least as long as was asked for. -/
theorem before_sleep (c : Scene) (duration : ℕ) (events : List Event) :
    c.Before (c.sleep duration events) ∧ c.clock + duration ≤ (c.sleep duration events).clock := by
  have behind := (c.meet (.elapse duration)).before_pass events
  exact ⟨(c.before_meet _).trans behind, behind.clock⟩

end Scene

/-! ### The wait -/

/-- A pause: when it began, and how long it was to be. -/
structure Pause where
  start : ℕ
  duration : ℕ
  deriving DecidableEq

/-- What happens in one turn of the wait: before the look, behind it until the clock is read, and from the end
of a pause on until the wait goes on. -/
structure Turn where
  before : List Event := []
  behind : List Event := []
  asleep : List Event := []

structure State where
  scene : Scene
  /-- How often the child was looked at. -/
  looks : ℕ := 0
  pauses : List Pause := []
  answer : Option (Except Fault (Option ExitKind)) := none

namespace State

/-- The scene in which a turn looks at the child. -/
def looking (s : State) (t : Turn) : Scene := s.scene.pass t.before

/-- The scene in which it reads the clock. -/
def reading (s : State) (t : Turn) : Scene := (s.looking t).look.2.pass t.behind

/-- Makes a turn, unless the wait is over. -/
def turn (ticks deadline : ℕ) (s : State) (t : Turn) : State :=
  if s.answer.isSome then s
  else
    let scene := s.reading t
    let looked := { s with scene, looks := s.looks + 1 }
    match (s.looking t).look.1 with
    | .error f => { looked with answer := some (.error f) }
    | .ok found =>
      match moveBy ticks deadline scene.clock found with
      | .answer kind => { looked with answer := some (.ok kind) }
      | .pause duration =>
        { looked with
          scene := scene.sleep duration t.asleep
          pauses := s.pauses ++ [⟨scene.clock, duration⟩] }

end State

/-- Whether the clock can hold the deadline of a wait that begins now. -/
def Fits (ticks timeout now : ℕ) : Prop := now + timeout < Instant.horizon * ticks

instance (ticks timeout now : ℕ) : Decidable (Fits ticks timeout now) := inferInstanceAs (Decidable (_ < _))

/-- A wait before its first turn; it panics there unless the clock can hold its deadline. -/
def opening (ticks timeout : ℕ) (start : Scene) : State where
  scene := start
  answer := if Fits ticks timeout start.clock then none else some (.error overflow)

/-- A wait for so long that begins in a scene, after so many turns. -/
def after (ticks timeout : ℕ) (start : Scene) (turns : ℕ → Turn) : ℕ → State
  | 0 => opening ticks timeout start
  | n + 1 => (after ticks timeout start turns n).turn ticks (start.clock + timeout) (turns n)

/-! ### The loop that runs -/

section

open Session.HandleScript.State (byHandle tryWait waitUntil waitWithin)

/-- The clock, the child and the handle of a script stand as in the scene. -/
structure Shows (s : Session.HandleScript.State) (c : Scene) : Prop where
  clock : s.world.clock = c.clock
  child : (Host.custody s.handle.pid).standing s.world.kernel = c.child
  handle : s.handle = c.handle

/-- A wait of a script begins like this, by a clock that counts microseconds. -/
theorem waitWithin_opening {s : Session.HandleScript.State} {c : Scene} (shows : Shows s c) (timeout : ℕ) :
    s.waitWithin timeout =
      match (opening 1 timeout c).answer with
      | some _ => (.fault overflow, s)
      | none => waitUntil (c.clock + timeout) (timeout / interval + 2) s := by
  have same : Fits 1 timeout c.clock ↔ c.clock + timeout < Instant.horizon := by rw [Fits, Nat.mul_one]
  rw [waitWithin, shows.clock, Instant.after?, opening]
  by_cases fits : c.clock + timeout < Instant.horizon
  · rw [if_pos fits, if_pos (same.mpr fits)]
  · rw [if_neg fits, if_neg (mt same.mp fits)]

/-- Each turn of a wait of a script is one of these, by a clock that counts microseconds. -/
theorem waitUntil_turn {s : Session.HandleScript.State} {c : Scene} (shows : Shows s c) (deadline fuel : ℕ) :
    let u := ({ scene := c } : State).turn 1 deadline {}
    waitUntil deadline (fuel + 1) s =
      match u.answer with
      | some (.ok found) => (.status found, s.tryWait.2)
      | some (.error f) => (.fault f, s.tryWait.2)
      | none => waitUntil deadline fuel { s.tryWait.2 with world := s.tryWait.2.world.sleepUntil u.scene.clock } := by
  obtain ⟨⟨pid, known⟩, w⟩ := s
  obtain ⟨clock, child, handle, remembers⟩ := c
  obtain ⟨rfl, stands, rfl⟩ := shows
  rw [waitUntil]
  cases known with
  | some kind => rfl
  | none =>
    simp only at stands
    simp only [tryWait, byHandle, Handle.tryWait, stands]
    cases child with
    | ended | gone => rfl
    | running =>
      by_cases late : deadline ≤ w.clock <;>
        simp [State.turn, State.looking, State.reading, Scene.look, Scene.sleep, Scene.meet, Scene.pass,
          Handle.tryWait, custody, moveBy_one, move, late]

end

/-! ### Turns -/

variable {ticks timeout deadline n m : ℕ} {start : Scene} {turns : ℕ → Turn} {s u : State} {t : Turn}

/-- What a turn comes to. -/
inductive Change (ticks deadline : ℕ) (s : State) (t : Turn) : State → Prop
  | ended (kind : ExitKind) (ended : (s.looking t).fate = some kind) :
      Change ticks deadline s t
        { s with scene := s.reading t, looks := s.looks + 1, answer := some (.ok (some kind)) }
  | late (running : (s.looking t).fate = none) (late : deadline ≤ (s.reading t).clock) :
      Change ticks deadline s t
        { s with scene := s.reading t, looks := s.looks + 1, answer := some (.ok none) }
  | pause (duration : ℕ) (running : (s.looking t).fate = none) (early : (s.reading t).clock < deadline)
      (cut : duration = min (interval * ticks) (deadline - (s.reading t).clock)) :
      Change ticks deadline s t
        { s with
          scene := (s.reading t).sleep duration t.asleep
          looks := s.looks + 1
          pauses := s.pauses ++ [⟨(s.reading t).clock, duration⟩] }

theorem change_turn (unanswered : s.answer = none) : Change ticks deadline s t (s.turn ticks deadline t) := by
  rw [State.turn, if_neg (by simp [unanswered])]
  simp only [(s.looking t).look_spec.1]
  cases fate : (s.looking t).fate with
  | some kind => exact .ended kind fate
  | none =>
    rw [moveBy]
    by_cases late : deadline ≤ (s.reading t).clock
    · rw [if_pos late]
      exact .late fate late
    · rw [if_neg late]
      exact .pause _ fate (Nat.lt_of_not_le late) rfl

/-- A pause begins before the deadline, and does not go beyond it. -/
structure Pause.Keeps (longest deadline : ℕ) (p : Pause) : Prop where
  early : p.start < deadline
  lasting : 0 < p.duration
  short : p.duration ≤ longest
  within : p.start + p.duration ≤ deadline

/-- A pause that the deadline may cut short. -/
theorem Pause.keeps_cut {longest deadline now : ℕ} (positive : 0 < longest) (early : now < deadline) :
    Pause.Keeps longest deadline ⟨now, min longest (deadline - now)⟩ where
  early := early
  lasting := Nat.lt_min.mpr ⟨positive, Nat.sub_pos_of_lt early⟩
  short := Nat.min_le_left _ _
  within := (Nat.add_le_add_left (Nat.min_le_right _ _) now).trans_eq (Nat.add_sub_cancel' early.le)

/-- How things stand before a turn of a wait that is not over. So many intervals have gone by as turns were made,
unless the deadline has passed. -/
structure Waits (ticks timeout : ℕ) (start : Scene) (n : ℕ) (s : State) : Prop where
  unanswered : s.answer = none
  looks : s.looks = n
  since : start.Before s.scene
  spent : start.clock + min timeout (interval * ticks * n) ≤ s.scene.clock
  pauses : ∀ p ∈ s.pauses, p.Keeps (interval * ticks) (start.clock + timeout)

theorem waits_opening (fits : Fits ticks timeout start.clock) :
    Waits ticks timeout start 0 (opening ticks timeout start) where
  unanswered := if_pos fits
  looks := rfl
  since := .refl start
  spent := by simp [opening]
  pauses := nofun

namespace Waits

theorem before_looking (waits : Waits ticks timeout start n s) (t : Turn) : start.Before (s.looking t) :=
  waits.since.trans (s.scene.before_pass t.before)

theorem before_reading (waits : Waits ticks timeout start n s) (t : Turn) :
    start.Before (s.reading t) ∧ s.scene.clock ≤ (s.reading t).clock := by
  have read : s.scene.Before (s.reading t) :=
    (s.scene.before_pass t.before).trans ((s.looking t).before_look.trans (Scene.before_pass _ t.behind))
  exact ⟨waits.since.trans read, read.clock⟩

/-- A turn after which the wait goes on. -/
theorem turn (waits : Waits ticks timeout start n s) (positive : 0 < interval * ticks)
    (change : Change ticks (start.clock + timeout) s t u) (unanswered : u.answer = none) :
    Waits ticks timeout start (n + 1) u := by
  cases change with
  | ended | late => cases unanswered
  | pause duration running early cut =>
    obtain ⟨since, passed⟩ := waits.before_reading t
    obtain ⟨slept, awake⟩ := (s.reading t).before_sleep duration t.asleep
    have spent := waits.spent
    refine ⟨unanswered, congrArg (· + 1) waits.looks, since.trans slept, ?_, ?_⟩
    · -- The pause adds an interval, or reaches the deadline.
      rw [Nat.mul_succ]
      refine le_trans ?_ awake
      omega
    · rw [List.forall_mem_append, List.forall_mem_singleton, cut]
      exact ⟨waits.pauses, Pause.keeps_cut positive early⟩

/-- When as many intervals have gone by as the wait is long, the next turn is the last. -/
theorem answered (waits : Waits ticks timeout start n s) (enough : timeout ≤ interval * ticks * n)
    (change : Change ticks (start.clock + timeout) s t u) : u.answer.isSome := by
  cases change with
  | ended | late => rfl
  | pause duration running early =>
    have reached := waits.spent.trans (waits.before_reading t).2
    rw [Nat.min_eq_left enough] at reached
    exact absurd early reached.not_gt

/-- The last turn answers what its look found, and nothing only at the deadline. -/
theorem last (waits : Waits ticks timeout start n s)
    (change : Change ticks (start.clock + timeout) s t u) (answered : u.answer.isSome) :
    u.looks = n + 1 ∧ u.answer = some (.ok (s.looking t).fate) ∧
      ((s.looking t).fate = none → start.clock + timeout ≤ u.scene.clock) ∧
      ∀ p ∈ u.pauses, p.Keeps (interval * ticks) (start.clock + timeout) := by
  have looks : s.looks + 1 = n + 1 := congrArg (· + 1) waits.looks
  cases change with
  | ended kind ended => exact ⟨looks, by rw [ended], (nomatch ended ▸ ·), waits.pauses⟩
  | late running late => exact ⟨looks, by rw [running], fun _ => late, waits.pauses⟩
  | pause =>
    rw [show _ = none from waits.unanswered] at answered
    cases answered

end Waits

/-! ### All turns -/

/-- Before a turn of a wait that is not over, things stand as the turns so far left them. -/
theorem waits_after (fits : Fits ticks timeout start.clock) (positive : 0 < interval * ticks)
    (unanswered : (after ticks timeout start turns n).answer = none) :
    Waits ticks timeout start n (after ticks timeout start turns n) := by
  induction n with
  | zero => exact waits_opening fits
  | succ n ih =>
    have before : (after ticks timeout start turns n).answer = none := by
      by_contra answered
      rw [after, State.turn, if_pos (Option.isSome_iff_ne_none.mpr answered)] at unanswered
      exact answered unanswered
    exact (ih before).turn positive (change_turn before) unanswered

theorem after_of_answered (answered : (after ticks timeout start turns m).answer.isSome) (le : m ≤ n) :
    after ticks timeout start turns n = after ticks timeout start turns m := by
  induction n, le using Nat.le_induction with
  | base => rfl
  | succ n _ ih => rw [after, ih, State.turn, if_pos answered]

/-- There is a last turn, and no more turns come before it than intervals fit into the time. -/
theorem exists_last (fits : Fits ticks timeout start.clock) (turns : ℕ → Turn) (positive : 0 < interval * ticks) :
    ∃ m ≤ timeout ⌈/⌉ (interval * ticks), (after ticks timeout start turns m).answer = none ∧
      (after ticks timeout start turns (m + 1)).answer.isSome := by
  have bound : timeout ≤ interval * ticks * (timeout ⌈/⌉ (interval * ticks)) := le_smul_ceilDiv positive
  generalize timeout ⌈/⌉ (interval * ticks) = most at bound
  obtain ⟨n, le, answered⟩ : ∃ n ≤ most, (after ticks timeout start turns (n + 1)).answer.isSome := by
    by_cases unanswered : (after ticks timeout start turns most).answer = none
    · exact ⟨most, le_rfl, (waits_after fits positive unanswered).answered bound (change_turn unanswered)⟩
    · rcases most with _ | k
      · exact absurd (if_pos fits) unanswered
      · exact ⟨k, k.le_succ, Option.isSome_iff_ne_none.mpr unanswered⟩
  have some : ∃ n, (after ticks timeout start turns (n + 1)).answer.isSome := ⟨n, answered⟩
  refine ⟨Nat.find some, (Nat.find_min' some answered).trans le, ?_, Nat.find_spec some⟩
  rcases first : Nat.find some with _ | k
  · exact if_pos fits
  · have before := Nat.find_min some (m := k) (by omega)
    simpa using before

/-- The second pause begins late, and the child ends in it, unseen until somebody else looks. -/
def oversleeping : ℕ → Turn
  | 0 => { before := [.elapse 300], asleep := [.elapse 7] }
  | 1 => { asleep := [.ends (.code 3), .look] }
  | _ => {}

/-- A wait of 25 ms, by a clock that counts nanoseconds. -/
def overslept (n : ℕ) : State := after 1000 25000000 (Scene.spawned 100) oversleeping n

end PseudoTerminal.Child.TimedWait
