import PseudoTerminal.Proofs.Environment.LastOfKey

/-! Keeping the last of every key in pieces. Whether a variable is kept depends on the keys behind it only,
and leaving out variables that are not kept anyway loses no key. So a part may be seen to before the whole
is, and also with case before it is done without. -/

namespace PseudoTerminal.Environment

variable {mode fine coarse : KeyCase} {v : Variable} {vars front back : List Variable}

/-- Keys that are the same in the one way are the same in the other. -/
def Refines (fine coarse : KeyCase) : Prop :=
  ∀ key other, fine.normalize key = fine.normalize other → coarse.normalize key = coarse.normalize other

theorem Refines.refl (mode : KeyCase) : Refines mode mode := fun _ _ same => same

/-- Keys that are the same text are the same without case, whether they can be decoded or not. -/
theorem refines_sensitive (coarse : KeyCase) : Refines .sensitive coarse := by
  intro key other same
  cases coarse with
  | sensitive => exact same
  | insensitive => exact congrArg Uppercase.ofText same

/-! ### Parts -/

/-- Only what is kept of the variables behind one decides about it. -/
theorem dedup_cons_congr (same : dedup mode front = dedup mode back) :
    dedup mode (v :: front) = dedup mode (v :: back) := by
  by_cases dropped : v.key = [] ∨ HasKey mode v.key (dedup mode back)
  · rw [dedup_cons_of_dropped dropped, dedup_cons_of_dropped (same ▸ dropped), same]
  · obtain ⟨named, last⟩ := not_or.mp dropped
    rw [dedup_cons_of_kept named last, dedup_cons_of_kept named (same ▸ last), same]

/-- A variable whose key comes again is left out. -/
theorem dedup_cons_of_hasKey (again : HasKey mode v.key vars) : dedup mode (v :: vars) = dedup mode vars := by
  by_cases named : v.key = []
  · exact dedup_cons_of_dropped (.inl named)
  · exact dedup_cons_of_dropped (.inr ((hasKey_dedup named).mpr again))

/-- What a finer comparison leaves out of a first part, the coarser one would leave out as well. -/
theorem dedup_dedup_append (refines : Refines fine coarse) (front back : List Variable) :
    dedup coarse (dedup fine front ++ back) = dedup coarse (front ++ back) := by
  induction front with
  | nil => rfl
  | cons v front ih =>
    by_cases dropped : v.key = [] ∨ HasKey fine v.key (dedup fine front)
    · rw [dedup_cons_of_dropped dropped, ih, List.cons_append]
      rcases dropped with unnamed | ⟨w, kept, same⟩
      · rw [dedup_cons_of_dropped (.inl unnamed)]
      · have again : HasKey coarse v.key (front ++ back) :=
          ⟨w, List.mem_append_left _ (mem_dedup_iff.mp kept).2.mem, refines _ _ same⟩
        rw [dedup_cons_of_hasKey again]
    · obtain ⟨named, last⟩ := not_or.mp dropped
      rw [dedup_cons_of_kept named last, List.cons_append, List.cons_append]
      exact dedup_cons_congr ih

theorem dedup_dedup (refines : Refines fine coarse) (vars : List Variable) :
    dedup coarse (dedup fine vars) = dedup coarse vars := by
  simpa using dedup_dedup_append refines vars []

theorem dedup_append_dedup (mode : KeyCase) (front back : List Variable) :
    dedup mode (front ++ dedup mode back) = dedup mode (front ++ back) := by
  induction front with
  | nil => exact dedup_dedup (Refines.refl mode) back
  | cons v front ih => exact dedup_cons_congr ih

/-! ### Lists that are kept whole -/

/-- Variables with different keys are all kept. -/
theorem dedup_eq_self (named : ∀ v ∈ vars, v.key ≠ [])
    (distinct : (vars.map fun v => mode.normalize v.key).Nodup) : dedup mode vars = vars := by
  induction vars with
  | nil => rfl
  | cons v vars ih =>
    rw [List.map_cons, List.nodup_cons] at distinct
    obtain ⟨new, distinct⟩ := distinct
    have rest : dedup mode vars = vars := ih (fun w among => named w (List.mem_cons_of_mem v among)) distinct
    have last : ¬ HasKey mode v.key (dedup mode vars) := by
      rw [rest]
      rintro ⟨w, among, same⟩
      exact new (List.mem_map.mpr ⟨w, among, same⟩)
    rw [dedup_cons_of_kept (named v List.mem_cons_self) last, rest]

/-- What the coarser comparison tells apart, the finer one does. -/
theorem dedup_fine_dedup (refines : Refines fine coarse) (vars : List Variable) :
    dedup fine (dedup coarse vars) = dedup coarse vars := by
  refine dedup_eq_self (fun v kept => (mem_dedup_iff.mp kept).1) ?_
  have distinct : ((dedup coarse vars).map fun v => coarse.normalize v.key).Nodup := keys_dedup_nodup
  rw [List.Nodup, List.pairwise_map] at distinct ⊢
  exact distinct.imp fun differ same => differ (refines _ _ same)

/-- The last of every key may be kept in either part first, and with case before it is without; what was kept
without case stays as it is with case. -/
theorem dedup_in_pieces (mode : KeyCase) (front back : List Variable) :
    dedup mode (dedup mode front ++ back) = dedup mode (front ++ back) ∧
    dedup mode (front ++ back) = dedup mode (front ++ dedup mode back) ∧
    dedup .insensitive (dedup .sensitive front) = dedup .insensitive front ∧
    dedup .insensitive front = dedup .sensitive (dedup .insensitive front) :=
  ⟨dedup_dedup_append (Refines.refl mode) front back, (dedup_append_dedup mode front back).symm,
    dedup_dedup (refines_sensitive _) front, (dedup_fine_dedup (refines_sensitive _) front).symm⟩

end PseudoTerminal.Environment
