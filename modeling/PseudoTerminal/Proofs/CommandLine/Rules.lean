import PseudoTerminal.Proofs.CommandLine.Loops

/-! The rules by which a command line is read, stated over runs of backslashes. One pass takes the longest run
at hand together with the character behind it: in front of a quote every two backslashes give one, and the
quote is literal after an odd number of them, or when it is the first of two inside quotes; anywhere else
backslashes are literal. The loops over the line, which count backslashes as they go, give the same
arguments. -/

namespace PseudoTerminal.CommandLine

namespace Rules

variable {arg : Option (List Char)} {quoted : Bool} {c : Char} {line rest : List Char} {n : ℕ}

/-- How many backslashes a line begins with. -/
def run (line : List Char) : ℕ := (line.takeWhile (· = '\\')).length

/-- What follows them. -/
def behind (line : List Char) : List Char := line.dropWhile (· = '\\')

theorem length_lt_of_behind (shape : behind line = c :: rest) : rest.length < line.length := by
  have shorter := (List.dropWhile_suffix (l := line) (· = '\\')).length_le
  rw [← behind, shape, List.length_cons] at shorter
  omega

/-- So many literal backslashes behind what there is of an argument; none begin no argument. -/
def literal (arg : Option (List Char)) (n : ℕ) : Option (List Char) :=
  if n = 0 then arg else some (arg.getD [] ++ List.replicate n '\\')

/-- The arguments of what is left of a line, behind what there is of an argument. -/
def pass (arg : Option (List Char)) (quoted : Bool) (line : List Char) : List (List Char) :=
  let n := run line
  match _ : behind line with
  -- the end of the line also ends a quote that is open
  | [] => (literal arg n).toList
  | c :: rest =>
    if c = '"' then
      let halved := arg.getD [] ++ List.replicate (n / 2) '\\'
      if n % 2 = 1 then pass (some (halved ++ ['"'])) quoted rest
      else if quoted ∧ rest.head? = some '"' then pass (some (halved ++ ['"'])) quoted rest.tail
      else pass (some halved) (!quoted) rest
    else if isBlank c ∧ quoted = false then (literal arg n).toList ++ pass none quoted rest
    else pass (some ((literal arg n).getD [] ++ [c])) quoted rest
termination_by line.length
decreasing_by
  all_goals
    have shorter := length_lt_of_behind ‹behind line = c :: rest›
    have tail_le : rest.tail.length ≤ rest.length := by simp
    omega

/-- The arguments of a line. -/
def read (line : List Char) : List (List Char) := pass none false line

/-! ### Runs of backslashes -/

theorem replicate_append_behind (line : List Char) :
    List.replicate (run line) '\\' ++ behind line = line := by
  have all_slashes : line.takeWhile (· = '\\') = List.replicate (run line) '\\' :=
    List.eq_replicate_of_mem fun c among => by
      simpa using List.all_eq_true.mp List.all_takeWhile c among
  rw [← all_slashes, behind, List.takeWhile_append_dropWhile]

theorem head?_behind_ne (line : List Char) : (behind line).head? ≠ some '\\' := by
  intro slash
  have stopped := List.head?_dropWhile_not (· = '\\') line
  rw [← behind, slash] at stopped
  simp at stopped

/-- The word that is read when there is so much of an argument. -/
def begun (arg : Option (List Char)) (quoted : Bool) : Option Word :=
  arg.map fun cs => { chars := cs.reverse, quoted }

theorem getD_begun (h : arg = none → quoted = false) :
    (begun arg quoted).getD {} = { chars := (arg.getD []).reverse, quoted } := by
  rcases arg with _ | cs
  · rw [h rfl]
    rfl
  · rfl

theorem map_close_begun (arg : Option (List Char)) (quoted : Bool) :
    (begun arg quoted).map Word.close = arg := by
  rcases arg with _ | cs
  · rfl
  · simp [begun, Word.close, Word.pad]

theorem unquoted_of_some {cs : List Char} : some cs = none → quoted = false :=
  fun absent => absurd absent (Option.some_ne_none cs)

theorem unquoted_of_literal (h : arg = none → quoted = false) : literal arg n = none → quoted = false := by
  unfold literal
  split
  · exact h
  · exact unquoted_of_some

/-- A run goes to the argument, which it may begin, as does what follows it without a blank. -/
theorem splitFrom_begun_run (h : arg = none → quoted = false) (n : ℕ) (rest : List Char)
    (further : 0 < n ∨ ∃ c cs, rest = c :: cs ∧ isBlank c = false) :
    splitFrom (begun arg quoted) (List.replicate n '\\' ++ rest) =
      splitFrom (some { chars := (arg.getD []).reverse, slashes := n, quoted }) rest := by
  obtain ⟨c, cs, shape, letter⟩ :
      ∃ c cs, List.replicate n '\\' ++ rest = c :: cs ∧ isBlank c = false := by
    rcases n with _ | n
    · exact further.resolve_left (Nat.lt_irrefl 0)
    · exact ⟨'\\', _, rfl, by decide⟩
  have inside : ¬ Separates (begun arg quoted) c := fun separates => by simp [separates.1] at letter
  rw [shape, splitFrom_inside inside, ← shape, getD_begun h, splitFrom_replicate, Nat.zero_add]

/-- Backslashes that are pending become literal in front of anything but a quote or another one. -/
theorem splitFrom_settle (w : Word) (quote : rest.head? ≠ some '"') (slash : rest.head? ≠ some '\\') :
    splitFrom (some w) rest = splitFrom (some { w with chars := w.pad w.slashes, slashes := 0 }) rest := by
  rcases rest with _ | ⟨c, cs⟩
  · simp [splitFrom_nil, Word.close, Word.pad]
  · rw [splitFrom_cons, splitFrom_cons (some { w with chars := w.pad w.slashes, slashes := 0 })]
    have no_quote : c ≠ '"' := by simpa using quote
    have no_slash : c ≠ '\\' := by simpa using slash
    simp [no_quote, no_slash, Word.close, Word.push, Word.pad]

theorem splitFrom_begun_quote (h : arg = none → quoted = false) (shape : behind line = '"' :: rest) :
    splitFrom (begun arg quoted) line =
      splitFrom (some { chars := (arg.getD []).reverse, slashes := run line, quoted }) ('"' :: rest) := by
  rw [← splitFrom_begun_run h _ _ (.inr ⟨'"', rest, rfl, by decide⟩), ← shape, replicate_append_behind]

/-- A run that no quote follows is literal. -/
theorem splitFrom_begun_literal (h : arg = none → quoted = false) (quote : (behind line).head? ≠ some '"') :
    splitFrom (begun arg quoted) line = splitFrom (begun (literal arg (run line)) quoted) (behind line) := by
  rcases Nat.eq_zero_or_pos (run line) with none_there | some_there
  · have whole := replicate_append_behind line
    rw [none_there, List.replicate_zero, List.nil_append] at whole
    rw [none_there, whole]
    rfl
  · rw [← replicate_append_behind line, splitFrom_begun_run h _ _ (.inl some_there),
      splitFrom_settle _ quote (head?_behind_ne line), replicate_append_behind, literal,
      if_neg some_there.ne']
    simp [begun, Word.pad]

/-! ### The pass -/

/-- The pass and the scanner that counts as it goes give the same arguments. -/
theorem pass_eq_splitFrom (arg : Option (List Char)) (quoted : Bool) (line : List Char)
    (h : arg = none → quoted = false) : pass arg quoted line = splitFrom (begun arg quoted) line := by
  fun_induction pass arg quoted line with
  | case1 arg quoted line n shape =>
    rw [splitFrom_begun_literal h (by simp [shape]), shape, splitFrom_nil, map_close_begun]
  | case2 arg quoted line n rest halved odd shape ih =>
    rw [ih unquoted_of_some, splitFrom_begun_quote h shape, splitFrom_literalQuote odd]
    simp [begun, halved, Word.literalQuote, Word.pad, n]
  | case3 arg quoted line n rest halved odd doubled shape ih =>
    obtain ⟨open_quote, quote⟩ := doubled
    obtain ⟨tail, rfl⟩ := List.head?_eq_some_iff.mp quote
    have even : run line % 2 = 0 := by omega
    rw [ih unquoted_of_some, splitFrom_begun_quote h shape, splitFrom_pair even open_quote]
    simp [begun, halved, Word.literalQuote, Word.pad, n]
  | case4 arg quoted line n rest halved odd single shape ih =>
    have even : run line % 2 = 0 := by omega
    rw [ih unquoted_of_some, splitFrom_begun_quote h shape,
      splitFrom_switch even fun open_quote quote => single ⟨open_quote, quote⟩]
    simp [begun, halved, Word.switch, Word.pad, n]
  | case5 arg quoted line n c rest shape no_quote separates ih =>
    have quote : (behind line).head? ≠ some '"' := by simpa [shape] using no_quote
    have lit := getD_begun (unquoted_of_literal (n := n) h)
    rw [ih fun _ => separates.2, splitFrom_begun_literal h quote, shape,
      splitFrom_separator ⟨separates.1, by rw [lit]; exact separates.2⟩, map_close_begun]
    rfl
  | case6 arg quoted line n c rest shape no_quote inside ih =>
    have quote : (behind line).head? ≠ some '"' := by simpa [shape] using no_quote
    have no_slash : c ≠ '\\' := by simpa [shape] using head?_behind_ne line
    have lit := getD_begun (unquoted_of_literal (n := n) h)
    have stays : ¬ Separates (begun (literal arg n) quoted) c := by
      rw [Separates, lit]
      exact inside
    rw [ih unquoted_of_some, splitFrom_begun_literal h quote, shape, splitFrom_inside stays, lit,
      splitFrom_push (by simpa using inside) no_slash no_quote]
    simp [begun, Word.push, Word.pad]

theorem split_eq_read (line : List Char) : split line = read line :=
  (pass_eq_splitFrom none false line fun _ => rfl).symm

/-- The loops never read behind the end of a line, and after at most two turns for each of its characters and
two more they return the arguments that the rules give, as the running scanner does. -/
theorem loops_follow_rules (line : List Char) :
    (∀ n, (Loops.run line n {}).IsInside line) ∧
    (∃ n ≤ 2 * line.length + 2, Loops.run line n {} = .returns (read line)) ∧
    split line = read line := by
  refine ⟨fun n => Loops.run_inside (Nat.zero_le _) n, ?_, split_eq_read line⟩
  rw [← split_eq_read]
  exact Loops.exists_run_eq_split line

/-- Inside quotes two quotes are a literal one, and a quote that stays open ends with the line. -/
example : split ['"', 'a', '"', '"', 'b', '\\', '"', ' ', 'c'] = [['a', '"', 'b', '"', ' ', 'c']] := rfl

end Rules

end PseudoTerminal.CommandLine
