import PseudoTerminal.Proofs.CommandLine.Scanning

/-! The reading of a command line by two nested loops over its places. The outer one skips blanks and begins
an argument; the inner one reads an argument up to a blank or the end of the line. Both stop at the end of
the line, and a read behind it would be a fault. One or two turns take the next character, so after at most
two turns for each the loops stand at the end, where the scan of the line stands. -/

namespace PseudoTerminal.CommandLine

/-- The place in the line, the complete arguments, and the one in work. The outer loop is at its head when no
argument is in work, the inner one when there is one. -/
structure Loops where
  place : ℕ := 0
  args : List (List Char) := []
  word : Option Word := none

/-- What a turn of the loops comes to. -/
inductive Turn
  | goes (l : Loops)
  | returns (args : List (List Char))
  /-- A character was read where the line has none. -/
  | fault

/-- Nothing was read behind the end of the line, and the loops do not stand behind it. -/
def Turn.IsInside (chars : List Char) : Turn → Prop
  | goes l => l.place ≤ chars.length
  | returns _ => True
  | fault => False

namespace Loops

variable {chars : List Char} {l l' : Loops} {w : Word} {c : Char} {n m : ℕ}

/-- The inner loop is left with a whole argument. -/
def leave (l : Loops) (w : Word) : Loops := { l with args := l.args ++ [w.close], word := none }

/-- A turn of the loop that is at its head. -/
def turn (chars : List Char) (l : Loops) : Turn :=
  match l.word with
  | none =>
    if l.place < chars.length then
      match chars[l.place]? with
      | none => .fault
      | some c => if isBlank c then .goes { l with place := l.place + 1 } else .goes { l with word := some {} }
    else .returns l.args
  | some w =>
    if l.place < chars.length then
      match chars[l.place]? with
      | none => .fault
      | some c =>
        if isBlank c ∧ w.quoted = false then .goes (l.leave w)
        else
          let next := chars[l.place + 1]?
          .goes { l with place := l.place + w.taken c next, word := some (w.read c next) }
    else .goes (l.leave w)

/-- So many turns, or fewer if the loops end before. -/
def run (chars : List Char) : ℕ → Loops → Turn
  | 0, l => .goes l
  | n + 1, l =>
    match turn chars l with
    | .goes l => run chars n l
    | t => t

theorem run_succ (h : turn chars l = .goes l') : run chars (n + 1) l = run chars n l' := by
  rw [run, h]

theorem run_add (h : run chars n l = .goes l') : run chars (n + m) l = run chars m l' := by
  induction n generalizing l with
  | zero =>
    cases h
    rw [Nat.zero_add]
  | succ n ih =>
    rw [Nat.add_right_comm]
    rcases on : turn chars l with k | args | _
    · rw [run_succ on] at h ⊢
      exact ih h
    · simp [run, on] at h
    · simp [run, on] at h

/-! ### One turn -/

theorem turn_skip (between : l.word = none) (here : chars[l.place]? = some c) (blank : isBlank c) :
    turn chars l = .goes { l with place := l.place + 1 } := by
  have within : l.place < chars.length := (List.getElem?_eq_some_iff.mp here).1
  simp only [turn, between, if_pos within, here, if_pos blank]

theorem turn_begin (between : l.word = none) (here : chars[l.place]? = some c) (letter : ¬ isBlank c) :
    turn chars l = .goes { l with word := some {} } := by
  have within : l.place < chars.length := (List.getElem?_eq_some_iff.mp here).1
  simp only [turn, between, if_pos within, here, if_neg letter]

theorem turn_leave (reading : l.word = some w) (here : chars[l.place]? = some c)
    (separates : Separates (some w) c) : turn chars l = .goes (l.leave w) := by
  have within : l.place < chars.length := (List.getElem?_eq_some_iff.mp here).1
  have ends : isBlank c ∧ w.quoted = false := separates
  simp only [turn, reading, if_pos within, here, if_pos ends]

theorem turn_read (reading : l.word = some w) (here : chars[l.place]? = some c)
    (inside : ¬ Separates (some w) c) :
    turn chars l = .goes { l with
      place := l.place + w.taken c chars[l.place + 1]?
      word := some (w.read c chars[l.place + 1]?) } := by
  have within : l.place < chars.length := (List.getElem?_eq_some_iff.mp here).1
  have stays : ¬ (isBlank c ∧ w.quoted = false) := inside
  simp only [turn, reading, if_pos within, here, if_neg stays]

theorem turn_over (reading : l.word = some w) (ended : chars.length ≤ l.place) :
    turn chars l = .goes (l.leave w) := by
  simp only [turn, reading, if_neg (Nat.not_lt.mpr ended)]

theorem turn_returns (between : l.word = none) (ended : chars.length ≤ l.place) :
    turn chars l = .returns l.args := by
  simp only [turn, between, if_neg (Nat.not_lt.mpr ended)]

/-- Two characters are taken only where there are two. -/
theorem place_read_le (here : chars[l.place]? = some c) :
    l.place + w.taken c chars[l.place + 1]? ≤ chars.length := by
  obtain ⟨within, rfl⟩ := List.getElem?_eq_some_iff.mp here
  have taken := w.taken_le_length chars[l.place] (chars.drop (l.place + 1))
  rw [List.head?_drop, ← List.drop_eq_getElem_cons within, List.length_drop] at taken
  omega

theorem turn_inside (inside : l.place ≤ chars.length) : (turn chars l).IsInside chars := by
  rcases Nat.lt_or_ge l.place chars.length with within | ended
  · have here : chars[l.place]? = some chars[l.place] := List.getElem?_eq_getElem within
    rcases reading : l.word with _ | w
    · by_cases blank : isBlank chars[l.place]
      · rw [turn_skip reading here blank]
        exact within
      · rw [turn_begin reading here blank]
        exact inside
    · by_cases separates : Separates (some w) chars[l.place]
      · rw [turn_leave reading here separates]
        exact inside
      · rw [turn_read reading here separates]
        exact place_read_le here
  · rcases reading : l.word with _ | w
    · rw [turn_returns reading ended]
      trivial
    · rw [turn_over reading ended]
      exact inside

theorem run_inside (inside : l.place ≤ chars.length) (n : ℕ) : (run chars n l).IsInside chars := by
  induction n generalizing l with
  | zero => exact inside
  | succ n ih =>
    have first := turn_inside inside
    rw [run]
    split
    case h_1 l' on =>
      rw [on] at first
      exact ih first
    case h_2 => exact first

/-! ### The way to the end -/

/-- The end of the line, as the scan of what is left of it foretells it. -/
def ahead (chars : List Char) (l : Loops) : Loops where
  place := chars.length
  args := l.args ++ (scan l.word (chars.drop l.place)).1
  word := (scan l.word (chars.drop l.place)).2

theorem ahead_of_place_eq (h : l.place = chars.length) : l.ahead chars = l := by
  obtain ⟨place, args, word⟩ := l
  subst h
  simp [ahead, scan]

/-- The outer loop skips what separates. -/
theorem ahead_skip (between : l.word = none) (here : chars[l.place]? = some c) (blank : isBlank c) :
    ({ l with place := l.place + 1 } : Loops).ahead chars = l.ahead chars := by
  obtain ⟨within, rfl⟩ := List.getElem?_eq_some_iff.mp here
  have separates : Separates none chars[l.place] := ⟨blank, rfl⟩
  rw [ahead, ahead, between, List.drop_eq_getElem_cons within, scan, if_pos separates]
  rfl

/-- A new argument changes nothing in front of a character that goes to it. -/
theorem ahead_begin (between : l.word = none) (here : chars[l.place]? = some c) (letter : ¬ isBlank c) :
    ({ l with word := some {} } : Loops).ahead chars = l.ahead chars := by
  obtain ⟨within, rfl⟩ := List.getElem?_eq_some_iff.mp here
  have inside (s : Option Word) : ¬ Separates s chars[l.place] := fun separates => letter separates.1
  rw [ahead, ahead, between, List.drop_eq_getElem_cons within, scan, if_neg (inside _), scan,
    if_neg (inside _)]
  rfl

/-- The inner loop leaves a separating character to the outer one. -/
theorem ahead_leave (reading : l.word = some w) (here : chars[l.place]? = some c)
    (separates : Separates (some w) c) : (l.leave w).ahead chars = l.ahead chars := by
  obtain ⟨within, rfl⟩ := List.getElem?_eq_some_iff.mp here
  have between : Separates none chars[l.place] := ⟨separates.1, rfl⟩
  rw [ahead, ahead, leave, reading, List.drop_eq_getElem_cons within, scan, if_pos between, scan,
    if_pos separates]
  simp

theorem ahead_read (reading : l.word = some w) (here : chars[l.place]? = some c)
    (inside : ¬ Separates (some w) c) :
    ({ l with
      place := l.place + w.taken c chars[l.place + 1]?
      word := some (w.read c chars[l.place + 1]?) } : Loops).ahead chars = l.ahead chars := by
  obtain ⟨within, rfl⟩ := List.getElem?_eq_some_iff.mp here
  rw [ahead, ahead, reading, ← List.drop_drop, List.drop_eq_getElem_cons within, scan, if_neg inside,
    List.head?_drop]
  rfl

theorem exists_turn_skip (between : l.word = none) (here : chars[l.place]? = some c) (blank : isBlank c) :
    ∃ l', turn chars l = .goes l' ∧ l.place < l'.place ∧ l'.ahead chars = l.ahead chars :=
  ⟨_, turn_skip between here blank, Nat.lt_succ_self l.place, ahead_skip between here blank⟩

theorem exists_turn_read (reading : l.word = some w) (here : chars[l.place]? = some c)
    (inside : ¬ Separates (some w) c) :
    ∃ l', turn chars l = .goes l' ∧ l.place < l'.place ∧ l'.ahead chars = l.ahead chars :=
  ⟨_, turn_read reading here inside, Nat.lt_add_of_pos_right (Word.taken_pos ..),
    ahead_read reading here inside⟩

/-- One or two turns take the next character. -/
theorem exists_run_forward (within : l.place < chars.length) :
    ∃ n ≤ 2, ∃ l', run chars n l = .goes l' ∧ l.place < l'.place ∧ l'.ahead chars = l.ahead chars := by
  have here : chars[l.place]? = some chars[l.place] := List.getElem?_eq_getElem within
  rcases reading : l.word with _ | w
  · by_cases blank : isBlank chars[l.place]
    · obtain ⟨k, skipped, forward, same⟩ := exists_turn_skip reading here blank
      exact ⟨1, by omega, k, by rw [run_succ skipped, run], forward, same⟩
    · have inside : ¬ Separates (some {}) chars[l.place] := fun separates => blank separates.1
      obtain ⟨k, read, forward, same⟩ := exists_turn_read (l := { l with word := some {} }) rfl here inside
      refine ⟨2, le_rfl, k, ?_, forward, same.trans (ahead_begin reading here blank)⟩
      rw [run_succ (turn_begin reading here blank), run_succ read, run]
  · by_cases separates : Separates (some w) chars[l.place]
    · obtain ⟨k, skipped, forward, same⟩ := exists_turn_skip (l := l.leave w) rfl here separates.1
      refine ⟨2, le_rfl, k, ?_, forward, same.trans (ahead_leave reading here separates)⟩
      rw [run_succ (turn_leave reading here separates), run_succ skipped, run]
    · obtain ⟨k, read, forward, same⟩ := exists_turn_read reading here separates
      exact ⟨1, by omega, k, by rw [run_succ read, run], forward, same⟩

/-- The loops come to the end of the line. -/
theorem exists_run_eq_ahead (chars : List Char) (l : Loops) (inside : l.place ≤ chars.length) :
    ∃ n ≤ 2 * (chars.length - l.place), run chars n l = .goes (l.ahead chars) := by
  induction left : chars.length - l.place using Nat.strong_induction_on generalizing l with
  | _ left ih =>
    rcases inside.lt_or_eq with within | ended
    · obtain ⟨n, n_le, k, reached, forward, same⟩ := exists_run_forward within
      have k_inside : (Turn.goes k).IsInside chars := reached ▸ run_inside inside n
      obtain ⟨m, m_le, rest⟩ := ih (chars.length - k.place) (by omega) k k_inside rfl
      refine ⟨n + m, by omega, ?_⟩
      rw [run_add reached, rest, same]
    · exact ⟨0, Nat.zero_le _, by rw [ahead_of_place_eq ended, run]⟩

/-- At the end of the line an open argument is closed, and the arguments are given back. -/
theorem exists_run_eq_returns (h : l.place = chars.length) :
    ∃ n ≤ 2, run chars n l = .returns (l.args ++ (l.word.map Word.close).toList) := by
  rcases reading : l.word with _ | w
  · refine ⟨1, by omega, ?_⟩
    rw [run, turn_returns reading h.ge]
    simp
  · refine ⟨2, le_rfl, ?_⟩
    rw [run_succ (turn_over reading h.ge), run, turn_returns (by rfl) (by exact h.ge)]
    rfl

/-- From the beginning of the line the loops come to its end with the scan of the line, and return its
arguments. -/
theorem exists_run_eq_split (chars : List Char) :
    ∃ n ≤ 2 * chars.length + 2, run chars n {} = .returns (split chars) := by
  obtain ⟨n, n_le, reached⟩ := exists_run_eq_ahead chars {} (Nat.zero_le _)
  obtain ⟨m, m_le, returned⟩ := exists_run_eq_returns (l := ({} : Loops).ahead chars) rfl
  refine ⟨n + m, by simp only [Nat.sub_zero] at n_le; omega, ?_⟩
  rw [run_add reached, returned]
  simp [ahead, split, splitFrom_eq_scan]

end Loops

end PseudoTerminal.CommandLine
