import Mathlib.Data.Finset.Max
import Mathlib.Data.Fintype.Basic
import Mathlib.Data.List.FinRange
import PseudoTerminal.Proofs.Environment.LastOfKey

/-! Which places of an environment are left when only the last of every key is kept. One pass from the end
takes a variable unless its key is empty or was seen before, and turns the result round. So the variables
that survive are those whose key no later place has, in their order and as they were, and of the places of
one key exactly the last survives. -/

namespace PseudoTerminal.Environment

variable {mode : KeyCase} {v : Variable} {vars : List Variable}

/-! ### The pass from the end -/

/-- The keys that were seen, and the variables that were taken, the later ones first. -/
structure Sweep where
  seen : Finset (List Char) := ∅
  out : List Variable := []

/-- A variable is taken when it has a key that was not seen. -/
def Sweep.visit (mode : KeyCase) (p : Sweep) (v : Variable) : Sweep :=
  if v.key = [] then p
  else if mode.normalize v.key ∈ p.seen then p
  else { seen := insert (mode.normalize v.key) p.seen, out := p.out ++ [v] }

/-- The pass over all variables. -/
def Sweep.run (mode : KeyCase) (vars : List Variable) : Sweep := vars.reverse.foldl (visit mode) {}

theorem Sweep.run_cons : run mode (v :: vars) = (run mode vars).visit mode v := by
  rw [run, List.reverse_cons, List.foldl_append]
  rfl

/-- After a pass the keys that were seen are those of the variables that were taken. -/
theorem Sweep.run_eq (mode : KeyCase) (vars : List Variable) :
    (∀ key, mode.normalize key ∈ (run mode vars).seen ↔ HasKey mode key (dedup mode vars)) ∧
      (run mode vars).out.reverse = dedup mode vars := by
  induction vars with
  | nil => exact ⟨fun key => by simp [run, HasKey, dedup], rfl⟩
  | cons v vars ih =>
    obtain ⟨seen, out⟩ := ih
    rw [run_cons]
    by_cases named : v.key = []
    · rw [visit, if_pos named, dedup_cons_of_dropped (.inl named)]
      exact ⟨seen, out⟩
    · by_cases later : HasKey mode v.key (dedup mode vars)
      · rw [visit, if_neg named, if_pos ((seen v.key).mpr later), dedup_cons_of_dropped (.inr later)]
        exact ⟨seen, out⟩
      · rw [visit, if_neg named, if_neg fun among => later ((seen v.key).mp among),
          dedup_cons_of_kept named later]
        refine ⟨fun key => ?_, ?_⟩
        · rw [Finset.mem_insert, seen key, hasKey_cons, eq_comm]
        · rw [List.reverse_append, List.reverse_singleton, List.singleton_append, out]

/-! ### Places -/

/-- Whether the variable at a place has a key, and no later place has that key. -/
def Survives (mode : KeyCase) (vars : List Variable) (i : Fin vars.length) : Prop :=
  vars[i].key ≠ [] ∧ ∀ j, i < j → mode.normalize vars[j].key ≠ mode.normalize vars[i].key

instance : DecidablePred (Survives mode vars) := fun _ => inferInstanceAs (Decidable (_ ∧ _))

/-- The places that survive, in order. -/
def survivors (mode : KeyCase) (vars : List Variable) : List (Fin vars.length) :=
  (List.finRange vars.length).filter fun i => Survives mode vars i

theorem hasKey_iff_exists_place {key : Octets} :
    HasKey mode key vars ↔ ∃ i : Fin vars.length, mode.normalize vars[i].key = mode.normalize key := by
  rw [HasKey, List.exists_mem_iff_get]
  rfl

/-- The first place. -/
def firstPlace (v : Variable) (vars : List Variable) : Fin (v :: vars).length := ⟨0, Nat.zero_lt_succ _⟩

theorem finRange_cons (v : Variable) (vars : List Variable) :
    List.finRange (v :: vars).length = firstPlace v vars :: (List.finRange vars.length).map Fin.succ :=
  List.finRange_succ

theorem survives_firstPlace :
    Survives mode (v :: vars) (firstPlace v vars) ↔ v.key ≠ [] ∧ ¬ HasKey mode v.key vars := by
  rw [hasKey_iff_exists_place, not_exists]
  refine and_congr_right fun _ => ⟨fun last i => ?_, fun last j later => ?_⟩
  · exact last i.succ (Fin.succ_pos i)
  · obtain ⟨i, rfl⟩ := Fin.exists_succ_eq.mpr later.ne'
    exact last i

theorem survives_succ (i : Fin vars.length) : Survives mode (v :: vars) i.succ ↔ Survives mode vars i := by
  refine and_congr_right fun _ => ⟨fun last j later => ?_, fun last j later => ?_⟩
  · exact last j.succ (Fin.succ_lt_succ_iff.mpr later)
  · obtain ⟨k, rfl⟩ := Fin.exists_succ_eq.mpr (Fin.ne_zero_of_lt later)
    exact last k (Fin.succ_lt_succ_iff.mp later)

theorem filter_succ (v : Variable) (vars : List Variable) :
    ((List.finRange vars.length).map Fin.succ).filter (fun i => Survives mode (v :: vars) i) =
      (survivors mode vars).map Fin.succ := by
  rw [List.filter_map, survivors]
  congr 2
  funext i
  exact decide_eq_decide.mpr (survives_succ i)

theorem survivors_cons_of_survives (first : Survives mode (v :: vars) (firstPlace v vars)) :
    survivors mode (v :: vars) = firstPlace v vars :: (survivors mode vars).map Fin.succ := by
  rw [survivors, finRange_cons, List.filter_cons_of_pos (by simpa using first), filter_succ]

theorem survivors_cons_of_not_survives (first : ¬ Survives mode (v :: vars) (firstPlace v vars)) :
    survivors mode (v :: vars) = (survivors mode vars).map Fin.succ := by
  rw [survivors, finRange_cons, List.filter_cons_of_neg (by simpa using first), filter_succ]

/-- What is kept are the variables at the places that survive. -/
theorem dedup_eq_map_survivors (mode : KeyCase) (vars : List Variable) :
    dedup mode vars = (survivors mode vars).map vars.get := by
  induction vars with
  | nil => rfl
  | cons v vars ih =>
    by_cases first : Survives mode (v :: vars) (firstPlace v vars)
    · obtain ⟨named, last⟩ := survives_firstPlace.mp first
      rw [survivors_cons_of_survives first, dedup_cons_of_kept named ((hasKey_dedup named).not.mpr last), ih,
        List.map_cons, List.map_map]
      rfl
    · have dropped : v.key = [] ∨ HasKey mode v.key (dedup mode vars) := by
        by_contra kept
        obtain ⟨named, last⟩ := not_or.mp kept
        exact first (survives_firstPlace.mpr ⟨named, (hasKey_dedup named).not.mp last⟩)
      rw [survivors_cons_of_not_survives first, dedup_cons_of_dropped dropped, ih, List.map_map]
      rfl

/-! ### The last place of a key -/

/-- Whether two places have the same key. -/
def SameKey (mode : KeyCase) (vars : List Variable) (i j : Fin vars.length) : Prop :=
  mode.normalize vars[i].key = mode.normalize vars[j].key

/-- A key that some place has has a last place, and that one survives. -/
theorem exists_survives (mode : KeyCase) {i : Fin vars.length} (named : vars[i].key ≠ []) :
    ∃ j, Survives mode vars j ∧ SameKey mode vars j i ∧ ∀ k, SameKey mode vars k i → k ≤ j := by
  classical
  let same := Finset.univ.filter fun k => SameKey mode vars k i
  have nonempty : same.Nonempty := ⟨i, Finset.mem_filter.mpr ⟨Finset.mem_univ i, rfl⟩⟩
  have among : SameKey mode vars (same.max' nonempty) i :=
    (Finset.mem_filter.mp (same.max'_mem nonempty)).2
  have greatest (k : Fin vars.length) (equal : SameKey mode vars k i) : k ≤ same.max' nonempty :=
    same.le_max' k (Finset.mem_filter.mpr ⟨Finset.mem_univ k, equal⟩)
  refine ⟨same.max' nonempty, ⟨?_, fun k later equal => ?_⟩, among, greatest⟩
  · intro unnamed
    rw [SameKey, unnamed, KeyCase.normalize_eq_nil_iff.mpr rfl, eq_comm, KeyCase.normalize_eq_nil_iff] at among
    exact named among
  · exact absurd later (not_lt.mpr (greatest k (equal.trans among)))

/-- Where a key survives it is the last, so no key survives twice. -/
theorem Survives.le {i j : Fin vars.length} (survives : Survives mode vars j) (same : SameKey mode vars i j) :
    i ≤ j :=
  not_lt.mp fun later => survives.2 i later same

/-- The pass from the end leaves exactly the variables, in their order and as they were, that have a key and
are not followed by one with the same key. Of the places of each key exactly one survives, which is the last
of them. -/
theorem last_of_key_survives (mode : KeyCase) (vars : List Variable) :
    (Sweep.run mode vars).out.reverse = dedup mode vars ∧
    dedup mode vars = (survivors mode vars).map vars.get ∧
    ∀ i : Fin vars.length, vars[i].key ≠ [] →
      ∃ j, (Survives mode vars j ∧ SameKey mode vars j i) ∧
        (∀ k, Survives mode vars k ∧ SameKey mode vars k i → k = j) ∧
        ∀ k, SameKey mode vars k i → k ≤ j := by
  refine ⟨(Sweep.run_eq mode vars).2, dedup_eq_map_survivors mode vars, fun i named => ?_⟩
  obtain ⟨j, survives, same, last⟩ := exists_survives mode named
  refine ⟨j, ⟨survives, same⟩, fun k ⟨also, equal⟩ => ?_, last⟩
  exact le_antisymm (last k equal) (also.le (same.trans equal.symm))

/-- Of `PA`, `H` and `pa` the first is left out when case does not count. -/
theorem last_of_key_survives_otherCase :
    ∃ (vars : List Variable) (i j : Fin vars.length),
      vars = [⟨[80, 65], [49]⟩, ⟨[72], [50]⟩, ⟨[112, 97], [51]⟩] ∧ i.val = 0 ∧ vars[i].key ≠ [] ∧
      j.val = 2 ∧ Survives .insensitive vars j ∧ SameKey .insensitive vars j i ∧
      dedup .insensitive vars = [⟨[72], [50]⟩, ⟨[112, 97], [51]⟩] := by
  let vars : List Variable := [⟨[80, 65], [49]⟩, ⟨[72], [50]⟩, ⟨[112, 97], [51]⟩]
  have named : vars[(0 : Fin 3)].key ≠ [] := by decide
  obtain ⟨-, -, each⟩ := last_of_key_survives .insensitive vars
  obtain ⟨j, ⟨survives, same⟩, -, last⟩ := each (0 : Fin 3) named
  have third : (2 : Fin 3) ≤ j := last (2 : Fin 3) (by unfold SameKey; decide)
  refine ⟨vars, (0 : Fin 3), j, rfl, rfl, named, ?_, survives, same, by decide⟩
  exact le_antisymm (Nat.le_of_lt_succ j.isLt) third

end PseudoTerminal.Environment
