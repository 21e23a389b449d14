import Mathlib.Tactic
import PseudoTerminal.CommandLine.Split

/-! Splitting undoes composition. The scanner is described one character at a time; an escaped
argument then extends the word being read by exactly that argument, whatever backslashes are pending,
and a written argument that a blank or the end follows is read as itself. -/

namespace PseudoTerminal.CommandLine

variable {w : Word} {c : Char} {cs : List Char}

/-! ### The word being read -/

namespace Word

@[simp] theorem close_slash (w : Word) :
    ({ w with slashes := w.slashes + 1 } : Word).close = w.close ++ ['\\'] := by
  simp only [close, pad, List.replicate_succ, List.cons_append, List.reverse_cons]

@[simp] theorem close_push (w : Word) (c : Char) : (w.push c).close = w.close ++ [c] := by
  simp [close, pad, push]

/-- An odd quote leaves half of the backslashes, rounded down, and itself. -/
theorem close_literalQuote (w : Word) (n : ℕ) (h : w.slashes = 2 * n + 1) :
    w.literalQuote.close = ({ w with slashes := n } : Word).close ++ ['"'] := by
  have hn : w.slashes / 2 = n := by omega
  simp [close, pad, literalQuote, hn]

/-- An even quote leaves half of the backslashes and no character of its own. -/
theorem close_switch (w : Word) (n : ℕ) (h : w.slashes = 2 * n) :
    w.switch.close = ({ w with slashes := n } : Word).close := by
  have hn : w.slashes / 2 = n := by omega
  simp [close, pad, switch, hn]

end Word

/-! ### One character -/

theorem splitFrom_nil (s : Option Word) : splitFrom s [] = (s.map Word.close).toList := by
  rcases s with _ | w <;> rfl

/-- What one character does to the word being read. The one behind a quote is looked at, and skipped if the
two are a doubled quote. -/
theorem splitFrom_cons (s : Option Word) (c : Char) (cs : List Char) :
    splitFrom s (c :: cs) =
      if isBlank c ∧ !(s.getD {}).quoted then (s.map Word.close).toList ++ splitFrom none cs
      else if c = '\\' then splitFrom (some { s.getD {} with slashes := (s.getD {}).slashes + 1 }) cs
      else if c = '"' then
        if (s.getD {}).slashes % 2 = 1 then splitFrom (some (s.getD {}).literalQuote) cs
        else if (s.getD {}).quoted ∧ cs.head? = some '"' then
          splitFrom (some (s.getD {}).literalQuote) cs.tail
        else splitFrom (some (s.getD {}).switch) cs
      else splitFrom (some ((s.getD {}).push c)) cs := by
  rw [splitFrom.eq_def]
  -- the two differ in how a doubled quote is recognised
  rcases cs with _ | ⟨d, cs⟩
  · simp
  · by_cases doubled : d = '"'
    · subst doubled
      simp
    · simp [doubled]

theorem splitFrom_backslash (w : Word) (cs : List Char) :
    splitFrom (some w) ('\\' :: cs) = splitFrom (some { w with slashes := w.slashes + 1 }) cs := by
  rw [splitFrom_cons]
  simp [isBlank]

theorem splitFrom_push (hb : isBlank c = true → w.quoted = true) (hs : c ≠ '\\') (hq : c ≠ '"') :
    splitFrom (some w) (c :: cs) = splitFrom (some (w.push c)) cs := by
  rw [splitFrom_cons]
  rcases h : isBlank c with _ | _
  · simp [hs, hq]
  · simp [hb h, hs, hq]

theorem splitFrom_literalQuote (h : w.slashes % 2 = 1) :
    splitFrom (some w) ('"' :: cs) = splitFrom (some w.literalQuote) cs := by
  rw [splitFrom_cons]
  simp [isBlank, h]

/-- A quote after an even number of backslashes switches, unless it opens a doubled one. -/
theorem splitFrom_switch (h : w.slashes % 2 = 0) (hc : w.quoted = true → cs.head? ≠ some '"') :
    splitFrom (some w) ('"' :: cs) = splitFrom (some w.switch) cs := by
  have ho : w.slashes % 2 ≠ 1 := by omega
  have not_doubled : ¬ (w.quoted = true ∧ cs.head? = some '"') := fun both => hc both.1 both.2
  rw [splitFrom_cons]
  simp [isBlank, ho, not_doubled]

theorem splitFrom_blank (hc : isBlank c = true) (hq : w.quoted = false) :
    splitFrom (some w) (c :: cs) = w.close :: splitFrom none cs := by
  rw [splitFrom_cons]
  simp [hc, hq]

theorem splitFrom_none_blank (hc : isBlank c = true) : splitFrom none (c :: cs) = splitFrom none cs := by
  rw [splitFrom_cons]
  simp [hc]

/-- A character that is no blank begins an argument. -/
theorem splitFrom_none (hc : isBlank c = false) :
    splitFrom none (c :: cs) = splitFrom (some {}) (c :: cs) := by
  rw [splitFrom_cons, splitFrom_cons (some {})]
  simp [hc]

theorem splitFrom_replicate (w : Word) (n : ℕ) (cs : List Char) :
    splitFrom (some w) (List.replicate n '\\' ++ cs) =
      splitFrom (some { w with slashes := w.slashes + n }) cs := by
  induction n generalizing w with
  | zero => rfl
  | succ n ih =>
    rw [List.replicate_succ, List.cons_append, splitFrom_backslash, ih]
    simp only [Nat.add_assoc, Nat.add_comm 1 n]

/-! ### One argument -/

/-- What may follow an argument: a blank or the end of the line. -/
def Ends : List Char → Prop
  | [] => True
  | c :: _ => isBlank c = true

theorem Ends.head?_ne (h : Ends cs) : cs.head? ≠ some '"' := by
  rcases cs with _ | ⟨c, cs⟩
  · simp
  · rintro hc
    obtain rfl : c = '"' := by simpa using hc
    simp [Ends, isBlank] at h

theorem splitFrom_of_ends (hq : w.quoted = false) (h : Ends cs) :
    splitFrom (some w) cs = w.close :: splitFrom none cs := by
  rcases cs with _ | ⟨c, cs⟩
  · simp [splitFrom_nil]
  · rw [splitFrom_blank h hq, splitFrom_none_blank h]

/-- Reading an escaped argument adds that argument to the word, when as many backslashes are pending
as the writer counted. Without enclosing quotes the argument may hold no blank. -/
theorem splitFrom_escape (arg rest : List Char) (w : Word)
    (hb : w.quoted = false → ∀ c ∈ arg, isBlank c = false) (hr : Ends rest) :
    splitFrom (some w) (escape w.quoted w.slashes arg ++ rest) =
      (w.close ++ arg) :: splitFrom none rest := by
  induction arg generalizing w with
  | nil =>
    rcases hq : w.quoted with _ | _
    · simpa [escape, hq] using splitFrom_of_ends hq hr
    · -- the closing quote comes after twice the pending backslashes
      have hs : w.slashes + w.slashes = 2 * w.slashes := by omega
      rw [escape, if_pos rfl, List.append_assoc, splitFrom_replicate, List.singleton_append,
        splitFrom_switch (by simp only [hs]; omega) (fun _ => hr.head?_ne),
        splitFrom_of_ends (by simp [Word.switch, hq]) hr, Word.close_switch _ w.slashes hs,
        List.append_nil]
  | cons c arg ih =>
    have hb' : w.quoted = false → ∀ d ∈ arg, isBlank d = false :=
      fun hq d hd => hb hq d (List.mem_cons_of_mem c hd)
    by_cases hs : c = '\\'
    · subst hs
      have := ih { w with slashes := w.slashes + 1 } hb'
      rw [escape, if_pos rfl, List.cons_append, splitFrom_backslash, this]
      simp
    by_cases hq : c = '"'
    · subst hq
      have ho : w.slashes + (w.slashes + 1) = 2 * w.slashes + 1 := by omega
      have := ih ({ w with slashes := w.slashes + (w.slashes + 1) } : Word).literalQuote hb'
      rw [escape, if_neg (by decide), if_pos rfl, List.append_assoc, splitFrom_replicate,
        List.cons_append, splitFrom_literalQuote (by simp only [ho]; omega)]
      refine this.trans ?_
      rw [Word.close_literalQuote _ w.slashes ho]
      simp
    · have := ih (w.push c) hb'
      rw [escape, if_neg hs, if_neg hq, List.cons_append,
        splitFrom_push (fun h => by
          by_contra hw
          simp [hb (by simpa using hw) c List.mem_cons_self] at h) hs hq]
      refine this.trans ?_
      simp

/-- The first written character is a backslash or that of the argument. -/
theorem exists_escape_eq_cons (enclosed : Bool) (slashes : ℕ) (cs : List Char)
    (hc : isBlank c = false) :
    ∃ d ds, isBlank d = false ∧ escape enclosed slashes (c :: cs) = d :: ds := by
  by_cases hs : c = '\\'
  · exact ⟨'\\', _, by decide, by rw [escape, if_pos hs]⟩
  by_cases hq : c = '"'
  · exact ⟨'\\', _, by decide, by rw [escape, if_neg hs, if_pos hq]; rfl⟩
  · exact ⟨c, _, hc, by rw [escape, if_neg hs, if_neg hq]⟩

/-- A written argument is read as itself. -/
theorem splitFrom_quote (arg rest : List Char) (hr : Ends rest) :
    splitFrom none (quote arg ++ rest) = arg :: splitFrom none rest := by
  by_cases h : arg = [] ∨ arg.any isBlank
  · have := splitFrom_escape arg rest { quoted := true } (by simp) hr
    rw [quote, if_pos h, List.cons_append, splitFrom_none (by decide),
      splitFrom_switch (by decide) (by simp)]
    exact this
  · rw [not_or] at h
    obtain ⟨hne, hb⟩ := h
    have hb : ∀ c ∈ arg, isBlank c = false := by simpa using hb
    have := splitFrom_escape arg rest {} (fun _ => hb) hr
    obtain ⟨c, cs, rfl⟩ := List.exists_cons_of_ne_nil hne
    obtain ⟨d, ds, hd, he⟩ := exists_escape_eq_cons false 0 cs (hb c List.mem_cons_self)
    rw [quote, if_neg (by simpa using hb), he, List.cons_append, splitFrom_none hd,
      ← List.cons_append, ← he]
    exact this

/-! ### The line -/

/-- Splitting a composed line gives the arguments back. -/
theorem split_compose (args : List (List Char)) : split (compose args) = args := by
  unfold split
  induction args with
  | nil => rfl
  | cons arg args ih =>
    rcases args with _ | ⟨next, args⟩
    · simpa [compose, splitFrom_nil] using splitFrom_quote arg [] trivial
    · rw [compose, splitFrom_quote arg _ (by simp [Ends, isBlank]), splitFrom_none_blank (by decide), ih]
      simp

/-- The backslash in front of the closing quote is written twice, and an empty argument as two quotes. -/
example : compose [['a', ' ', '\\'], []] = ['"', 'a', ' ', '\\', '\\', '"', ' ', '"', '"'] := rfl

end PseudoTerminal.CommandLine
