import PseudoTerminal.Environment.Basic
import PseudoTerminal.Proofs.Text.Utf8

/-! Which variables are left when only the last of every key is kept: those with a key that no variable
after them has. No two of them have the same key, and no key is lost. -/

namespace PseudoTerminal

/-! ### Empty keys -/

namespace Uppercase

theorem ofChar_ne_nil (c : Char) : ofChar c ≠ [] := by
  have expanded : ∀ e ∈ expansions, e.2 ≠ [] := by decide
  simp only [ofChar]
  split_ifs
  · simp
  split
  case h_1 ns found =>
    obtain ⟨before, after, shape, -⟩ := List.lookup_eq_some_iff.mp found
    have whole := expanded (c.toNat, ns) (shape ▸ List.mem_append_right _ List.mem_cons_self)
    simpa using whole
  case h_2 => split <;> simp

theorem ofText_eq_nil_iff {cs : List Char} : ofText cs = [] ↔ cs = [] := by
  cases cs <;> simp [ofText, ofChar_ne_nil]

end Uppercase

namespace Environment

variable {mode : KeyCase} {key : Octets} {v w : Variable} {vars : List Variable}

theorem KeyCase.normalize_eq_nil_iff : mode.normalize key = [] ↔ key = [] := by
  cases mode <;> simp [normalize, Uppercase.ofText_eq_nil_iff, Utf8.decode_eq_nil_iff]

/-! ### Last variables -/

/-- Whether one of the variables has a key, as the mode compares keys. -/
def HasKey (mode : KeyCase) (key : Octets) (vars : List Variable) : Prop :=
  ∃ w ∈ vars, mode.normalize w.key = mode.normalize key

/-- Whether a variable stands somewhere in a list with none of its key after it. -/
def IsLast (mode : KeyCase) (v : Variable) (vars : List Variable) : Prop :=
  ∃ before after, vars = before ++ v :: after ∧ ¬ HasKey mode v.key after

theorem hasKey_cons :
    HasKey mode key (w :: vars) ↔ mode.normalize w.key = mode.normalize key ∨ HasKey mode key vars := by
  simp [HasKey]

theorem isLast_cons :
    IsLast mode v (w :: vars) ↔ (w = v ∧ ¬ HasKey mode v.key vars) ∨ IsLast mode v vars := by
  constructor
  · rintro ⟨_ | ⟨u, before⟩, after, shape, last⟩
    · cases shape
      exact .inl ⟨rfl, last⟩
    · cases shape
      exact .inr ⟨before, after, rfl, last⟩
  · rintro (⟨rfl, last⟩ | ⟨before, after, rfl, last⟩)
    · exact ⟨[], vars, rfl, last⟩
    · exact ⟨w :: before, after, rfl, last⟩

theorem IsLast.mem (h : IsLast mode v vars) : v ∈ vars := by
  obtain ⟨before, after, rfl, -⟩ := h
  exact List.mem_append_right _ List.mem_cons_self

/-! ### What is kept -/

theorem dedup_cons_of_dropped (h : v.key = [] ∨ HasKey mode v.key (dedup mode vars)) :
    dedup mode (v :: vars) = dedup mode vars := by
  refine if_pos (h.imp_right fun ⟨w, among, same⟩ => ?_)
  exact List.any_eq_true.mpr ⟨w, among, by rw [same]; exact beq_self_eq_true _⟩

theorem dedup_cons_of_kept (named : v.key ≠ []) (last : ¬ HasKey mode v.key (dedup mode vars)) :
    dedup mode (v :: vars) = v :: dedup mode vars := by
  refine if_neg (not_or.mpr ⟨named, fun found => last ?_⟩)
  obtain ⟨w, among, same⟩ := List.any_eq_true.mp found
  exact ⟨w, among, eq_of_beq same⟩

theorem hasKey_dedup (named : key ≠ []) : HasKey mode key (dedup mode vars) ↔ HasKey mode key vars := by
  induction vars with
  | nil => rfl
  | cons v vars ih =>
    rw [hasKey_cons]
    by_cases dropped : v.key = [] ∨ HasKey mode v.key (dedup mode vars)
    · rw [dedup_cons_of_dropped dropped, ih]
      refine ⟨.inr, fun found => found.elim (fun same => ?_) id⟩
      rcases dropped with unnamed | ⟨w, among, later⟩
      · rw [unnamed, KeyCase.normalize_eq_nil_iff.mpr rfl, eq_comm,
          KeyCase.normalize_eq_nil_iff] at same
        exact absurd same named
      · exact ih.mp ⟨w, among, later.trans same⟩
    · obtain ⟨named', last⟩ := not_or.mp dropped
      rw [dedup_cons_of_kept named' last, hasKey_cons, ih]

/-- A variable is kept when it has a key and is the last with it. -/
theorem mem_dedup_iff : v ∈ dedup mode vars ↔ v.key ≠ [] ∧ IsLast mode v vars := by
  induction vars with
  | nil => exact iff_of_false (by simp [dedup]) (fun ⟨_, last⟩ => nomatch last.mem)
  | cons w vars ih =>
    rw [isLast_cons]
    by_cases dropped : w.key = [] ∨ HasKey mode w.key (dedup mode vars)
    · rw [dedup_cons_of_dropped dropped, ih]
      refine and_congr_right fun named => ⟨.inr, fun found => found.resolve_left ?_⟩
      rintro ⟨rfl, last⟩
      exact last ((hasKey_dedup named).mp (dropped.resolve_left named))
    · obtain ⟨named, last⟩ := not_or.mp dropped
      rw [dedup_cons_of_kept named last, List.mem_cons, ih]
      rw [hasKey_dedup named] at last
      constructor
      · rintro (rfl | ⟨named', later⟩)
        · exact ⟨named, .inl ⟨rfl, last⟩⟩
        · exact ⟨named', .inr later⟩
      · rintro ⟨named', ⟨rfl, -⟩ | later⟩
        · exact .inl rfl
        · exact .inr ⟨named', later⟩

/-- No two variables that are kept have the same key. -/
theorem keys_dedup_nodup : ((dedup mode vars).map fun v => mode.normalize v.key).Nodup := by
  induction vars with
  | nil => exact List.nodup_nil
  | cons v vars ih =>
    by_cases dropped : v.key = [] ∨ HasKey mode v.key (dedup mode vars)
    · rw [dedup_cons_of_dropped dropped]
      exact ih
    · obtain ⟨named, last⟩ := not_or.mp dropped
      rw [dedup_cons_of_kept named last, List.map_cons, List.nodup_cons]
      exact ⟨fun among => last (List.mem_map.mp among), ih⟩

/-- A key that some variable has is the key of exactly one that is kept. -/
theorem existsUnique_dedup (among : w ∈ vars) (named : w.key ≠ []) :
    ∃! v, v ∈ dedup mode vars ∧ mode.normalize v.key = mode.normalize w.key := by
  have found : HasKey mode w.key (dedup mode vars) := (hasKey_dedup named).mpr ⟨w, among, rfl⟩
  obtain ⟨v, kept, same⟩ := found
  refine ⟨v, ⟨kept, same⟩, fun u ⟨also, equal⟩ => ?_⟩
  exact List.inj_on_of_nodup_map keys_dedup_nodup also kept (equal.trans same.symm)

end Environment

end PseudoTerminal
