import Mathlib.Tactic
import PseudoTerminal.Session.Script

/-! The time that a read with a timeout spends on its looks. A look that is interrupted, that finds nothing, or
behind which somebody else takes the data, leads to another one, which gets the same time again. So the timeout
is one of each look: a read that looks once gives up in time, and one that looks more often may take as many times
as long. -/

namespace PseudoTerminal.Terminal.TimedRead

theorem lookTime_le (timeout : ℕ) : lookTime timeout ≤ timeout :=
  (Nat.mul_le_mul_right _ (Nat.min_le_left _ _)).trans (Nat.div_mul_le_self timeout _)

theorem lookTime_pos {timeout : ℕ} (long : 1000 ≤ timeout) : 0 < lookTime timeout := by
  have : 0 < longestLook := by decide
  unfold lookTime
  omega

/-- A look gets more than half of a timeout, if that is neither too short nor too long. -/
theorem lt_two_mul_lookTime {timeout : ℕ} (long : 1000 ≤ timeout) (short : timeout < (longestLook + 1) * 1000) :
    timeout < 2 * lookTime timeout := by
  unfold lookTime
  omega

/-! ### Rounds -/

/-- What a read meets in one round. -/
structure Round where
  /-- Whether the terminal was closed before the look. -/
  closed : Bool := false
  look : Look
  attempt : Attempt Octets := .again

namespace Round

/-- What a look leads to, with the attempt behind it. -/
def respond (r : Round) : Stage (Option Octets) :=
  match afterReadLook r.look with
  | .trying => afterFetch r.attempt
  | stage => stage

/-- What a round makes of a read. -/
def after (r : Round) (stage : Stage (Option Octets)) : Stage (Option Octets) :=
  match stage.beforeLook r.closed with
  | .looking => r.respond
  | stage => stage

/-- Whether a look leads to another one: it was interrupted, nothing was there, or the data were gone again. -/
def isRetried (r : Round) : Bool :=
  match r.look, r.attempt with
  | .interrupted, _ | .noticed false false, _ | .noticed false true, .again => true
  | _, _ => false

end Round

def isLooking : Stage (Option Octets) → Bool
  | .looking => true
  | _ => false

theorem isLooking_iff {stage : Stage (Option Octets)} : isLooking stage ↔ stage = .looking := by
  cases stage <;> simp [isLooking]

theorem isLooking_respond (r : Round) : isLooking r.respond = r.isRetried := by
  obtain ⟨closed, look, attempt⟩ := r
  rcases look with _ | _ | f | ⟨_ | _, _ | _⟩
  case noticed.false.true =>
    cases attempt with
    | failed f =>
      show isLooking (afterFetch (.failed f)) = false
      rw [afterFetch]
      split_ifs <;> rfl
    | done | again => rfl
  all_goals cases attempt <;> rfl

/-- Whether a read looks in a round. -/
def looksIn (stage : Stage (Option Octets)) (r : Round) : Bool := isLooking (stage.beforeLook r.closed)

variable {stage : Stage (Option Octets)} {r : Round}

theorem looking_of_looksIn (looks : looksIn stage r) : stage = .looking := by
  unfold looksIn Stage.beforeLook at looks
  split at looks
  case h_1 => rfl
  case h_2 => exact isLooking_iff.mp looks

theorem isLooking_after : isLooking (r.after stage) ↔ looksIn stage r ∧ r.isRetried := by
  unfold Round.after looksIn
  split
  case h_1 looking =>
    rw [looking, isLooking_respond]
    exact (and_iff_right rfl).symm
  case h_2 other => simp [Bool.eq_false_iff.mpr fun looking => other (isLooking_iff.mp looking)]

/-- Each round of a read at the host side is one of these. -/
theorem readOnce_eq {π : Type} (m : Host.Master) (k : Host.Kernel π) (room : ℕ) (late : Bool)
    (stage : Stage (Option Octets)) :
    ∃ r : Round, r.closed = m.closed ∧ (m.readOnce k room late stage).1 = r.after stage := by
  refine ⟨⟨m.closed, if late && m.lookToRead k == .noticed false false then .expired else m.lookToRead k,
    (m.fetch k room).1⟩, rfl, ?_⟩
  unfold Host.Master.readOnce Round.after Round.respond
  dsimp only
  cases stage.beforeLook m.closed with
  | looking =>
    generalize afterReadLook _ = next
    cases next <;> rfl
  | trying | finished => rfl

/-! ### Reads -/

/-- How long a look takes, which is at most as long as it was handed. -/
structure Pace where
  time : ℕ → ℕ
  within : ∀ handed, time handed ≤ handed

namespace Pace

/-- A look that takes all the time it was handed. -/
def full : Pace := ⟨id, fun _ => le_rfl⟩

theorem time_full (handed : ℕ) : full.time handed = handed := rfl

/-- A look that ends after so long, or when its time is over. -/
def upTo (moment : ℕ) : Pace := ⟨min moment, fun _ => Nat.min_le_right _ _⟩

end Pace

/-- A look that was made: the time that it was handed, what it took, and whether another one followed from it. -/
structure Made where
  handed : ℕ
  took : ℕ
  isRetried : Bool
  deriving DecidableEq

/-- Where a read stands, and the looks that it made. -/
structure Read where
  stage : Stage (Option Octets)
  looks : List Made := []

namespace Read

/-- One round of a read with a timeout. Every look is handed what a look gets of the timeout, whatever went
before. -/
def round (timeout : ℕ) (s : Read) (r : Round) (pace : Pace) : Read where
  stage := r.after s.stage
  looks :=
    if looksIn s.stage r then
      s.looks ++ [⟨lookTime timeout, pace.time (lookTime timeout), r.isRetried⟩]
    else s.looks

/-- The time that the looks took. -/
def spent (s : Read) : ℕ := (s.looks.map Made.took).sum

/-- How many looks led to another one. -/
def retries (s : Read) : ℕ := s.looks.countP Made.isRetried

end Read

variable {timeout : ℕ} {s : Read}

/-- A read after so many rounds. -/
def after (timeout : ℕ) (closed : Bool) (room : ℕ) (rounds : ℕ → Round) (paces : ℕ → Pace) : ℕ → Read
  | 0 => { stage := startTimedRead closed room }
  | n + 1 => (after timeout closed room rounds paces n).round timeout (rounds n) (paces n)

/-- What holds of a read after any rounds. There is one look more than retries, at most; while the read is to look,
each look led to another one. -/
structure Read.Holds (timeout : ℕ) (s : Read) : Prop where
  handed : ∀ m ∈ s.looks, m.handed = lookTime timeout ∧ m.took ≤ m.handed
  retries : s.looks.length ≤ s.retries + 1
  looking : isLooking s.stage → s.looks.length = s.retries

theorem Read.Holds.round (holds : s.Holds timeout) (r : Round) (pace : Pace) :
    (s.round timeout r pace).Holds timeout := by
  obtain ⟨handed, retries, looking⟩ := holds
  by_cases looks : looksIn s.stage r
  · -- A look is made only while all looks before it led to another one.
    have all := looking (isLooking_iff.mpr (looking_of_looksIn looks))
    have made : (s.round timeout r pace).looks =
        s.looks ++ [⟨lookTime timeout, pace.time (lookTime timeout), r.isRetried⟩] := if_pos looks
    have counted : (s.round timeout r pace).retries = s.retries + if r.isRetried then 1 else 0 := by
      rw [Read.retries, made, List.countP_append, List.countP_singleton]
      rfl
    refine ⟨?_, ?_, fun goes => ?_⟩
    · rw [made, List.forall_mem_append, List.forall_mem_singleton]
      exact ⟨handed, rfl, pace.within _⟩
    · rw [made, counted, List.length_append, List.length_singleton]
      omega
    · rw [made, counted, if_pos (isLooking_after.mp goes).2, List.length_append, List.length_singleton, all]
  · have same : (s.round timeout r pace).looks = s.looks := if_neg looks
    refine ⟨by rwa [same], by rwa [Read.retries, same], fun goes => ?_⟩
    exact absurd (isLooking_after.mp goes).1 looks

theorem holds_after (timeout : ℕ) (closed : Bool) (room : ℕ) (rounds : ℕ → Round) (paces : ℕ → Pace) (n : ℕ) :
    (after timeout closed room rounds paces n).Holds timeout := by
  induction n with
  | zero => exact ⟨nofun, Nat.zero_le _, fun _ => rfl⟩
  | succ n ih => exact ih.round _ _

/-- The pace of the looks has no part in how a read goes on. -/
theorem after_congr (timeout : ℕ) (closed : Bool) (room : ℕ) (rounds : ℕ → Round) (paces paces' : ℕ → Pace) (n : ℕ) :
    let s := after timeout closed room rounds paces n
    let s' := after timeout closed room rounds paces' n
    s.stage = s'.stage ∧ s.looks.map Made.isRetried = s'.looks.map Made.isRetried := by
  induction n with
  | zero => exact ⟨rfl, rfl⟩
  | succ n ih =>
    obtain ⟨stage, looks⟩ := ih
    refine ⟨congrArg (rounds n).after stage, ?_⟩
    simp only [after, Read.round, stage]
    split
    case isTrue => rw [List.map_append, List.map_append, looks]; rfl
    case isFalse => exact looks

theorem Read.Holds.spent_le (holds : s.Holds timeout) : s.spent ≤ s.looks.length * lookTime timeout := by
  rw [Read.spent, ← List.length_map (f := Made.took), ← smul_eq_mul]
  refine List.sum_le_card_nsmul _ _ fun took among => ?_
  obtain ⟨m, made, rfl⟩ := List.mem_map.mp among
  exact (holds.handed m made).2.trans_eq (holds.handed m made).1

/-- Looks that take all their time take as much as that comes to. -/
theorem spent_full (timeout : ℕ) (closed : Bool) (room : ℕ) (rounds : ℕ → Round) (n : ℕ) :
    let s := after timeout closed room rounds (fun _ => .full) n
    s.spent = s.looks.length * lookTime timeout := by
  induction n with
  | zero => simp [after, Read.spent]
  | succ n ih =>
    simp only [Read.spent] at ih ⊢
    simp only [after, Read.round]
    split
    case isTrue =>
      rw [List.map_append, List.sum_append, ih, List.length_append, Nat.add_mul]
      simp [Pace.time_full]
    case isFalse => exact ih

/-- A read of an open terminal looks again as long as its looks are interrupted. -/
theorem looking_of_interrupted (timeout room : ℕ) (paces : ℕ → Pace) (n : ℕ) :
    (after timeout false (room + 1) (fun _ => { look := .interrupted }) paces n).stage = .looking := by
  induction n with
  | zero => rfl
  | succ n ih =>
    rw [after, Read.round, ih]
    rfl

/-- Signals can draw a read out for any time. -/
theorem exists_lt_spent (long : 1000 ≤ timeout) (room bound : ℕ) :
    ∃ n, bound < (after timeout false (room + 1) (fun _ => { look := .interrupted }) (fun _ => .full) n).spent := by
  have looks (n : ℕ) :
      (after timeout false (room + 1) (fun _ => { look := .interrupted }) (fun _ => .full) n).looks.length = n := by
    induction n with
    | zero => rfl
    | succ n ih =>
      rw [after, Read.round, looking_of_interrupted]
      exact (List.length_append.trans (congrArg (· + 1) ih))
  refine ⟨bound + 1, ?_⟩
  rw [spent_full, looks]
  exact Nat.le_mul_of_pos_right (bound + 1) (lookTime_pos long)

/-- A read of a script that was interrupted so far gives up when this one does. -/
theorem deadline_eq_spent (timeout room since n : ℕ) (paces : ℕ → Pace) (w : Session.World) :
    let s := after timeout false (room + 1) (fun _ => { look := .interrupted }) paces n
    max since w.kernel.interrupted = since + s.spent →
      Session.Script.State.deadline since (lookTime timeout) w =
        since + (s.round timeout { look := .expired } .full).spent := by
  intro s begun
  have looks : looksIn s.stage { look := .expired } := by
    rw [show s.stage = .looking from looking_of_interrupted timeout room paces n]
    rfl
  rw [Session.Script.State.deadline, begun, Read.spent, Read.spent, Read.round, if_pos looks, List.map_append,
    List.sum_append, Nat.add_assoc, List.map_singleton, List.sum_singleton, Pace.time_full]

/-- A read with a timeout looks once, and once more for each look that leads to another one, at most. It hands
each look the whole of what a look gets of the timeout, and a look takes at most that. So the timeout is kept,
whatever time the looks take, just when there is at most one, or when what a look gets fits into the timeout as
often as the read looks. With more than one look that needs a timeout below a millisecond, or one beyond the
longest time that a look can get. -/
theorem gives_up_in_time_iff (timeout : ℕ) (closed : Bool) (room : ℕ) (rounds : ℕ → Round) (n : ℕ) :
    let read (paces : ℕ → Pace) : Read := after timeout closed room rounds paces n
    ∃ looks,
      (∀ paces, (read paces).looks.length = looks ∧ looks ≤ (read paces).retries + 1 ∧
        (∀ m ∈ (read paces).looks, m.handed = lookTime timeout ∧ m.took ≤ m.handed) ∧
        (read paces).spent ≤ looks * lookTime timeout) ∧
      ((∀ paces, (read paces).spent ≤ timeout) ↔ looks ≤ 1 ∨ looks * lookTime timeout ≤ timeout) ∧
      (1000 ≤ timeout → timeout < (longestLook + 1) * 1000 → looks * lookTime timeout ≤ timeout → looks ≤ 1) := by
  intro read
  let looks := (read fun _ => .full).looks.length
  have same (paces : ℕ → Pace) : (read paces).looks.length = looks := by
    have flags := (after_congr timeout closed room rounds paces (fun _ => .full) n).2
    simpa using congrArg List.length flags
  have spends (paces : ℕ → Pace) : (read paces).spent ≤ looks * lookTime timeout :=
    same paces ▸ (holds_after timeout closed room rounds paces n).spent_le
  refine ⟨looks, fun paces => ?_, ⟨fun every => ?_, fun enough paces => ?_⟩, fun long short fits => ?_⟩
  · obtain ⟨handed, retries, -⟩ := holds_after timeout closed room rounds paces n
    exact ⟨same paces, same paces ▸ retries, handed, spends paces⟩
  · exact .inr ((spent_full timeout closed room rounds n).symm.trans_le (every fun _ => .full))
  · refine (spends paces).trans ?_
    rcases enough with once | enough
    · exact (Nat.mul_le_mul_right _ once).trans ((one_mul _).trans_le (lookTime_le timeout))
    · exact enough
  · by_contra more
    have twice : 2 * lookTime timeout ≤ looks * lookTime timeout := Nat.mul_le_mul_right _ (Nat.lt_of_not_le more)
    exact ((lt_two_mul_lookTime long short).trans_le twice).not_ge fits

/-- The timeout is half a second. The first look is interrupted after 300 ms, and the data come 300 ms later. -/
theorem gives_up_in_time_iff_interrupted :
    let rounds : ℕ → Round
      | 0 => { look := .interrupted }
      | _ => { look := .noticed false true, attempt := .done [33] }
    let read (paces : ℕ → Pace) : Read := after 500000 false 64 rounds paces 2
    1000 ≤ 500000 ∧ 500000 < (longestLook + 1) * 1000 ∧
      (read fun _ => .upTo 300000).stage = .finished (.ok (some [33])) ∧
      (read fun _ => .upTo 300000).spent = 600000 ∧ ¬ ∀ paces, (read paces).spent ≤ 500000 := by
  intro rounds read
  have long : 1000 ≤ 500000 := by decide
  have short : 500000 < (longestLook + 1) * 1000 := by decide
  obtain ⟨looks, made, kept, once⟩ := gives_up_in_time_iff 500000 false 64 rounds 2
  have twice : (read fun _ => .upTo 300000).looks.length = 2 := by decide
  have same := twice.symm.trans (made fun _ => .upTo 300000).1
  refine ⟨long, short, rfl, by decide, fun every => ?_⟩
  have : looks ≤ 1 := (kept.mp every).elim id (once long short)
  omega

end PseudoTerminal.Terminal.TimedRead
