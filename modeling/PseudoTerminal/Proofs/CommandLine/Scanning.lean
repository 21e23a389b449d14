import PseudoTerminal.Proofs.CommandLine.RoundTrip

/-! How far the reading of a command line reaches. A scan keeps the arguments that are complete and the one
that is still open; what follows can change that only by a quote right behind the scanned part. So a line
that leaves no quote open is kept apart from anything else by blanks, and every written argument is such a
line, whatever it holds. -/

namespace PseudoTerminal.CommandLine

variable {s : Option Word} {w : Word} {c : Char} {next : Option Char} {cs line rest : List Char}
  {blanks gap : List Char}

/-! ### One character -/

/-- Whether a character ends the argument, or stands between two. -/
def Separates (s : Option Word) (c : Char) : Prop := isBlank c ∧ (s.getD {}).quoted = false

instance : Decidable (Separates s c) := inferInstanceAs (Decidable (_ ∧ _))

namespace Word

/-- Whether a character is the first of a doubled quote inside quotes. -/
def pairs (w : Word) (c : Char) (next : Option Char) : Bool :=
  c = '"' ∧ w.slashes % 2 = 0 ∧ w.quoted ∧ next = some '"'

/-- The word after a character that does not separate. -/
def read (w : Word) (c : Char) (next : Option Char) : Word :=
  if c = '\\' then { w with slashes := w.slashes + 1 }
  else if c = '"' then if w.slashes % 2 = 1 ∨ w.pairs c next then w.literalQuote else w.switch
  else w.push c

/-- How many characters that takes. -/
def taken (w : Word) (c : Char) (next : Option Char) : ℕ := if w.pairs c next then 2 else 1

theorem pairs_iff :
    w.pairs c next ↔ c = '"' ∧ w.slashes % 2 = 0 ∧ w.quoted ∧ next = some '"' := by
  simp [pairs]

theorem pairs_of_ne (h : next ≠ some '"') : w.pairs c next = false := by
  simp [pairs, h]

theorem taken_of_pairs (h : w.pairs c next) : w.taken c next = 2 := if_pos h

theorem taken_of_not_pairs (h : ¬ w.pairs c next) : w.taken c next = 1 := if_neg h

theorem taken_pos (w : Word) (c : Char) (next : Option Char) : 0 < w.taken c next := by
  unfold taken
  split <;> simp

theorem taken_le_length (w : Word) (c : Char) (cs : List Char) : w.taken c cs.head? ≤ (c :: cs).length := by
  by_cases paired : w.pairs c cs.head?
  · obtain ⟨-, -, -, quote⟩ := pairs_iff.mp paired
    obtain ⟨ds, rfl⟩ := List.head?_eq_some_iff.mp quote
    rw [taken_of_pairs paired]
    simp
  · rw [taken_of_not_pairs paired]
    simp

end Word

theorem splitFrom_separator (h : Separates s c) :
    splitFrom s (c :: cs) = (s.map Word.close).toList ++ splitFrom none cs := by
  obtain ⟨blank, unquoted⟩ := h
  rw [splitFrom_cons]
  simp [blank, unquoted]

/-- A character that does not separate is read into an argument, which it may begin. -/
theorem splitFrom_inside (h : ¬ Separates s c) :
    splitFrom s (c :: cs) = splitFrom (some (s.getD {})) (c :: cs) := by
  rcases s with _ | w
  · exact splitFrom_none (by simpa [Separates] using h)
  · rfl

theorem splitFrom_pair (even : w.slashes % 2 = 0) (quoted : w.quoted) :
    splitFrom (some w) ('"' :: '"' :: cs) = splitFrom (some w.literalQuote) cs := by
  rw [splitFrom_cons]
  simp [isBlank, even, quoted]

/-- It takes the next character along if the two are a doubled quote. -/
theorem splitFrom_read (h : ¬ Separates s c) :
    splitFrom s (c :: cs) =
      splitFrom (some ((s.getD {}).read c cs.head?)) ((c :: cs).drop ((s.getD {}).taken c cs.head?)) := by
  rw [splitFrom_inside h]
  generalize hw : s.getD {} = w
  by_cases paired : w.pairs c cs.head?
  · obtain ⟨rfl, even, quoted, quote⟩ := Word.pairs_iff.mp paired
    obtain ⟨ds, rfl⟩ := List.head?_eq_some_iff.mp quote
    rw [splitFrom_pair even quoted, Word.taken_of_pairs paired, Word.read, if_neg (by decide), if_pos rfl,
      if_pos (.inr paired)]
    rfl
  · rw [Word.taken_of_not_pairs paired, List.drop_one, List.tail_cons]
    by_cases slash : c = '\\'
    · subst slash
      rw [splitFrom_backslash, Word.read, if_pos rfl]
    by_cases quote : c = '"'
    · subst quote
      rw [Word.read, if_neg slash, if_pos rfl]
      by_cases odd : w.slashes % 2 = 1
      · rw [splitFrom_literalQuote odd, if_pos (.inl odd)]
      · have even : w.slashes % 2 = 0 := by omega
        have single (quoted : w.quoted) : cs.head? ≠ some '"' :=
          fun quote => paired (Word.pairs_iff.mpr ⟨rfl, even, quoted, quote⟩)
        rw [splitFrom_switch even single, if_neg (not_or.mpr ⟨odd, paired⟩)]
    · have quoted (blank : isBlank c) : w.quoted := by
        by_contra unquoted
        exact h ⟨blank, by simpa [hw] using unquoted⟩
      rw [splitFrom_push quoted slash quote, Word.read, if_neg slash, if_neg quote]

/-! ### A scan -/

/-- The arguments that a line completes, and the one that is open at its end. -/
def scan (s : Option Word) (line : List Char) : List (List Char) × Option Word :=
  match line with
  | [] => ([], s)
  | c :: cs =>
    if Separates s c then ((s.map Word.close).toList ++ (scan none cs).1, (scan none cs).2)
    else scan (some ((s.getD {}).read c cs.head?)) ((c :: cs).drop ((s.getD {}).taken c cs.head?))
termination_by line.length
decreasing_by
  · exact Nat.lt_succ_self cs.length
  · have advances := (s.getD {}).taken_pos c cs.head?
    simp only [List.length_drop, List.length_cons]
    omega

/-- What follows a scanned line is read from where the scan stands, unless it begins with a quote. -/
theorem splitFrom_append (s : Option Word) (line rest : List Char) (apart : rest.head? ≠ some '"') :
    splitFrom s (line ++ rest) = (scan s line).1 ++ splitFrom (scan s line).2 rest := by
  fun_induction scan s line with
  | case1 s => rfl
  | case2 s c cs separates ih =>
    rw [List.cons_append, splitFrom_separator separates, ih, List.append_assoc]
  | case3 s c cs inside ih =>
    -- the lookahead sees the same as at the end of the scanned line
    have unseen : (s.getD {}).pairs c (cs ++ rest).head? = (s.getD {}).pairs c cs.head? := by
      rcases cs with _ | ⟨d, ds⟩
      · rw [List.nil_append, Word.pairs_of_ne apart, Word.pairs_of_ne (by simp)]
      · rfl
    have same_read : (s.getD {}).read c (cs ++ rest).head? = (s.getD {}).read c cs.head? := by
      rw [Word.read, unseen, ← Word.read]
    have same_taken : (s.getD {}).taken c (cs ++ rest).head? = (s.getD {}).taken c cs.head? := by
      rw [Word.taken, unseen, ← Word.taken]
    rw [List.cons_append, splitFrom_read inside, same_read, same_taken, ← List.cons_append,
      List.drop_append_of_le_length (Word.taken_le_length ..), ih]

/-- The scan of the whole line, with the open argument closed. -/
theorem splitFrom_eq_scan (s : Option Word) (line : List Char) :
    splitFrom s line = (scan s line).1 ++ ((scan s line).2.map Word.close).toList := by
  rw [← splitFrom_nil, ← splitFrom_append s line [] (by simp), List.append_nil]

/-! ### Lines side by side -/

/-- No quote is open when the line has been scanned. -/
def EndsOutside (line : List Char) : Prop := ∀ w ∈ (scan none line).2, w.quoted = false

theorem endsOutside_nil : EndsOutside [] := by
  simp [EndsOutside, scan]

/-- One or more blanks. -/
def IsGap (gap : List Char) : Prop := gap ≠ [] ∧ ∀ c ∈ gap, isBlank c

theorem IsGap.ends (h : IsGap gap) (rest : List Char) : Ends (gap ++ rest) := by
  obtain ⟨nonempty, blank⟩ := h
  obtain ⟨c, cs, rfl⟩ := List.exists_cons_of_ne_nil nonempty
  exact blank c List.mem_cons_self

theorem splitFrom_none_blanks (blank : ∀ c ∈ blanks, isBlank c) :
    splitFrom none (blanks ++ rest) = splitFrom none rest := by
  induction blanks with
  | nil => rfl
  | cons c blanks ih =>
    rw [List.cons_append, splitFrom_none_blank (blank c List.mem_cons_self),
      ih fun d hd => blank d (List.mem_cons_of_mem c hd)]

/-- A gap ends an argument in which no quote is open. -/
theorem splitFrom_gap (outside : ∀ w ∈ s, w.quoted = false) (h : IsGap gap) :
    splitFrom s (gap ++ rest) = (s.map Word.close).toList ++ splitFrom none rest := by
  obtain ⟨nonempty, blank⟩ := h
  obtain ⟨c, cs, rfl⟩ := List.exists_cons_of_ne_nil nonempty
  have unquoted : (s.getD {}).quoted = false := by
    rcases s with _ | w
    · rfl
    · exact outside w rfl
  rw [List.cons_append, splitFrom_separator ⟨blank c List.mem_cons_self, unquoted⟩,
    splitFrom_none_blanks fun d hd => blank d (List.mem_cons_of_mem c hd)]

theorem split_append_gap (outside : EndsOutside line) (h : IsGap gap) :
    split (line ++ gap ++ rest) = split line ++ split rest := by
  unfold split
  rw [List.append_assoc, splitFrom_append none line _ (h.ends rest).head?_ne, splitFrom_gap outside h,
    splitFrom_eq_scan none line, List.append_assoc]

/-- In an open quote, one blank more is one character more. -/
theorem split_append_space (h : (scan none line).2 = some w) (quoted : w.quoted) :
    split (line ++ [' ']) ≠ split line := by
  unfold split
  rw [splitFrom_append none line [' '] (by decide), splitFrom_eq_scan none line, h,
    splitFrom_push (fun _ => quoted) (by decide) (by decide)]
  simp [splitFrom_nil]

theorem split_quote_append (arg rest : List Char) (h : Ends rest) :
    split (quote arg ++ rest) = arg :: split rest := splitFrom_quote arg rest h

theorem split_quote (arg : List Char) : split (quote arg) = [arg] := by
  simpa [split, splitFrom_nil] using split_quote_append arg [] trivial

theorem isGap_space : IsGap [' '] := ⟨by simp, by simp [isBlank]⟩

/-- A line that a space leaves as it is has no open quote. -/
theorem endsOutside_of_split_eq (h : split (line ++ [' ']) = split line) : EndsOutside line := by
  intro w among
  by_contra quoted
  exact split_append_space among (by simpa using quoted) h

theorem endsOutside_quote (arg : List Char) : EndsOutside (quote arg) := by
  apply endsOutside_of_split_eq
  rw [split_quote_append arg [' '] rfl, split_quote]
  rfl

/-- The empty line leaves no quote open, and any line does so exactly if every gap keeps its arguments apart
from those of every line after it.
A written argument is read as that one argument and leaves no quote open, so between gaps it changes nothing
about the lines before and after it. -/
theorem arguments_kept_apart :
    EndsOutside [] ∧
    (∀ line, EndsOutside line ↔
      ∀ gap rest, IsGap gap → split (line ++ gap ++ rest) = split line ++ split rest) ∧
    (∀ arg, EndsOutside (quote arg) ∧ split (quote arg) = [arg]) ∧
    ∀ line arg rest before after, EndsOutside line → IsGap before → IsGap after →
      split (line ++ before ++ (quote arg ++ after ++ rest)) = split line ++ [arg] ++ split rest := by
  refine ⟨endsOutside_nil, fun line => ⟨?_, fun apart => ?_⟩,
    fun arg => ⟨endsOutside_quote arg, split_quote arg⟩, ?_⟩
  · intro outside gap rest h
    exact split_append_gap outside h
  · apply endsOutside_of_split_eq
    simpa [split, splitFrom_nil] using apart [' '] [] isGap_space
  · intro line arg rest before after outside gap_before gap_after
    rw [split_append_gap outside gap_before, split_append_gap (endsOutside_quote arg) gap_after,
      split_quote, List.append_assoc]

/-- The first line ends with a backslash pending, and the second one opens a quote and does not close it. -/
theorem arguments_kept_apart_pending :
    EndsOutside ['"', 'a', ' ', 'b', '"', '\\'] ∧ IsGap [' ', '\t'] ∧
    split (['"', 'a', ' ', 'b', '"', '\\'] ++ [' ', '\t'] ++ ['"', 'c', ' ', 'd']) =
      [['a', ' ', 'b', '\\'], ['c', ' ', 'd']] := by
  have outside : EndsOutside ['"', 'a', ' ', 'b', '"', '\\'] := by
    simp [EndsOutside, scan, Separates, Word.read, Word.taken, Word.pairs, Word.switch, Word.push, isBlank]
  have gap : IsGap [' ', '\t'] := ⟨by simp, by simp [isBlank]⟩
  refine ⟨outside, gap, ?_⟩
  rw [(arguments_kept_apart.2.1 _).mp outside _ _ gap]
  rfl

end PseudoTerminal.CommandLine
