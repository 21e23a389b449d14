import PseudoTerminal.Proofs.Environment.LastOfKey

/-! The keys of an environment that the system root was added to. Whether there is one already is asked in
ASCII, and without case there are other keys of the same text: the long s and the ligatures of s and t
become letters of `SYSTEMROOT` in upper case. Such a key and the one that is added are the only two that can
be the same. -/

namespace PseudoTerminal.Environment

variable {mode : KeyCase} {root : Option Octets} {value : Octets} {vars : List Variable} {v : Variable}

/-- The text of the key that is added. -/
def systemRootText : List Char := "SYSTEMROOT".toList

/-- Some variable has the name of the system root in ASCII. -/
def HasSystemRoot (vars : List Variable) : Prop := ∃ v ∈ vars, isSystemRoot v.key

/-- Another key that stands for the system root when case does not count. -/
def IsOtherRoot (key : Octets) : Prop :=
  isSystemRoot key = false ∧ KeyCase.insensitive.normalize key = systemRootText

theorem isSystemRoot_added : isSystemRoot (Octets.ofString "SYSTEMROOT") := by
  rw [isSystemRoot, Utf8.decode_ofString]
  decide

theorem normalize_added : mode.normalize (Octets.ofString "SYSTEMROOT") = systemRootText := by
  cases mode <;> rw [KeyCase.normalize, Utf8.decode_ofString]
  · rfl
  · decide

/-- With case, a key of that text has that name. -/
theorem isSystemRoot_of_decode {key : Octets} (same : Utf8.decode key = systemRootText) :
    isSystemRoot key := by
  rw [isSystemRoot, same]
  decide

/-! ### What is added -/

theorem ensureSystemRoot_of_has (has : HasSystemRoot vars) : ensureSystemRoot root vars = vars := by
  obtain ⟨v, among, named⟩ := has
  exact if_pos (List.any_eq_true.mpr ⟨v, among, named⟩)

theorem ensureSystemRoot_none : ensureSystemRoot none vars = vars := by
  unfold ensureSystemRoot
  split <;> rfl

theorem ensureSystemRoot_some (lacks : ¬ HasSystemRoot vars) :
    ensureSystemRoot (some value) vars = vars ++ [⟨Octets.ofString "SYSTEMROOT", value⟩] :=
  if_neg fun found => lacks (List.any_eq_true.mp found)

/-- What was there is still there, in order, and at most one variable follows. -/
theorem prefix_ensureSystemRoot : vars <+: ensureSystemRoot root vars := by
  by_cases has : HasSystemRoot vars
  · rw [ensureSystemRoot_of_has has]
  · cases root with
    | none => rw [ensureSystemRoot_none]
    | some value =>
      rw [ensureSystemRoot_some has]
      exact List.prefix_append ..

theorem hasSystemRoot_ensureSystemRoot : HasSystemRoot (ensureSystemRoot (some value) vars) := by
  by_cases has : HasSystemRoot vars
  · rw [ensureSystemRoot_of_has has]
    exact has
  · rw [ensureSystemRoot_some has]
    exact ⟨_, List.mem_append_right _ (List.mem_singleton_self _), isSystemRoot_added⟩

/-! ### Which keys are the same -/

/-- Where the name is lacking, a key that is the same as the one to be added is another root, and case does
not count. -/
theorem normalize_eq_added_iff (lacks : ¬ HasSystemRoot vars) (among : v ∈ vars) :
    mode.normalize v.key = mode.normalize (Octets.ofString "SYSTEMROOT") ↔
      mode = .insensitive ∧ IsOtherRoot v.key := by
  have unnamed : isSystemRoot v.key = false := by
    simpa using fun named => lacks ⟨v, among, named⟩
  rw [normalize_added]
  cases mode with
  | sensitive =>
    refine iff_of_false (fun same => ?_) (by simp)
    exact lacks ⟨v, among, isSystemRoot_of_decode same⟩
  | insensitive => exact ⟨fun same => ⟨rfl, unnamed, same⟩, fun other => other.2.2⟩

theorem hasKey_added_iff (lacks : ¬ HasSystemRoot vars) :
    HasKey mode (Octets.ofString "SYSTEMROOT") vars ↔
      mode = .insensitive ∧ ∃ v ∈ vars, IsOtherRoot v.key := by
  constructor
  · rintro ⟨v, among, same⟩
    obtain ⟨insensitive, other⟩ := (normalize_eq_added_iff lacks among).mp same
    exact ⟨insensitive, v, among, other⟩
  · rintro ⟨insensitive, v, among, other⟩
    exact ⟨v, among, (normalize_eq_added_iff lacks among).mpr ⟨insensitive, other⟩⟩

/-- Of two keys that are the same, the later one is what follows the variables that were there, and the earlier
one is another root. -/
theorem same_key_iff (distinct : (vars.map fun v => mode.normalize v.key).Nodup) {i j : ℕ} (before : i < j)
    {u w : Variable} (first : (ensureSystemRoot root vars)[i]? = some u)
    (second : (ensureSystemRoot root vars)[j]? = some w) :
    mode.normalize u.key = mode.normalize w.key ↔ j = vars.length ∧ mode = .insensitive ∧ IsOtherRoot u.key := by
  rcases lt_or_ge j vars.length with inside | behind
  · refine iff_of_false (fun same => ?_) (fun ⟨last, _⟩ => inside.ne last)
    obtain ⟨rest, whole⟩ : vars <+: ensureSystemRoot root vars := prefix_ensureSystemRoot
    rw [← whole, List.getElem?_append_left (before.trans inside)] at first
    rw [← whole, List.getElem?_append_left inside] at second
    have keys {n : ℕ} {x : Variable} (there : vars[n]? = some x) :
        (vars.map fun v => mode.normalize v.key)[n]? = some (mode.normalize x.key) := by
      rw [List.getElem?_map, there, Option.map_some]
    have places := (List.getElem?_inj (by rw [List.length_map]; exact before.trans inside) distinct).mp
      ((keys first).trans ((congrArg some same).trans (keys second).symm))
    exact before.ne places
  · by_cases has : HasSystemRoot vars
    · rw [ensureSystemRoot_of_has has, List.getElem?_eq_none behind] at second
      cases second
    · cases root with
      | none =>
        rw [ensureSystemRoot_none, List.getElem?_eq_none behind] at second
        cases second
      | some value =>
        rw [ensureSystemRoot_some has] at first second
        have last : j = vars.length := by
          have := (List.getElem?_eq_some_iff.mp second).1
          rw [List.length_append, List.length_singleton] at this
          omega
        subst last
        rw [List.getElem?_concat_length] at second
        cases second
        rw [List.getElem?_append_left before] at first
        rw [normalize_eq_added_iff has (List.mem_of_getElem? first), and_iff_right rfl]

/-- A list of variables of different keys to which another variable is appended. -/
theorem keys_concat_nodup_iff (distinct : (vars.map fun v => mode.normalize v.key).Nodup) :
    ((vars ++ [v]).map fun v => mode.normalize v.key).Nodup ↔ ¬ HasKey mode v.key vars := by
  rw [List.map_append, List.map_singleton, ← List.concat_eq_append, List.nodup_concat,
    and_iff_left distinct, List.mem_map, HasKey]

/-- When the last of every key was kept and the system root was added, what was kept is still there, in
order, and the root is there if it was given; it is all that follows, where its name is lacking. No two keys
are the same, but for one case: case does not count, a root was given, and among the keys, none of which is
`SYSTEMROOT` in ASCII, is another one that stands for it. Two keys are the same just when the later one is
the root that was added, and the earlier one that other key. -/
theorem keys_ensureSystemRoot_nodup_iff (mode : KeyCase) (root : Option Octets) (vars : List Variable) :
    let kept := dedup mode vars
    let all := ensureSystemRoot root kept
    kept <+: all ∧
    (root.isSome → HasSystemRoot all) ∧
    (all = kept ∨ ¬ HasSystemRoot kept ∧ ∃ value, root = some value ∧
      all = kept ++ [⟨Octets.ofString "SYSTEMROOT", value⟩]) ∧
    ((all.map fun v => mode.normalize v.key).Nodup ↔
      ¬ (mode = .insensitive ∧ root.isSome ∧ ¬ HasSystemRoot kept ∧ ∃ v ∈ kept, IsOtherRoot v.key)) ∧
    ∀ i j u w, i < j → all[i]? = some u → all[j]? = some w →
      (mode.normalize u.key = mode.normalize w.key ↔
        j = kept.length ∧ mode = .insensitive ∧ IsOtherRoot u.key) := by
  intro kept all
  refine ⟨prefix_ensureSystemRoot, ?_, ?_, ?_, fun i j u w before => same_key_iff keys_dedup_nodup before⟩
  · intro given
    obtain ⟨value, rfl⟩ := Option.isSome_iff_exists.mp given
    exact hasSystemRoot_ensureSystemRoot
  · by_cases has : HasSystemRoot kept
    · exact .inl (ensureSystemRoot_of_has has)
    · cases root with
      | none => exact .inl ensureSystemRoot_none
      | some value => exact .inr ⟨has, value, rfl, ensureSystemRoot_some has⟩
  · by_cases has : HasSystemRoot (dedup mode vars)
    · rw [show all = dedup mode vars from ensureSystemRoot_of_has has]
      exact iff_of_true keys_dedup_nodup fun ⟨_, _, lacks, _⟩ => lacks has
    · cases root with
      | none =>
        rw [show all = dedup mode vars from ensureSystemRoot_none]
        exact iff_of_true keys_dedup_nodup fun ⟨_, given, _⟩ => Bool.false_ne_true given
      | some value =>
        rw [show all = _ from ensureSystemRoot_some has, keys_concat_nodup_iff keys_dedup_nodup,
          hasKey_added_iff has]
        simp [has, kept]

/-- A key that begins with a long s is the last of its text, and `SYSTEMROOT` is added all the same. -/
theorem keys_ensureSystemRoot_longS :
    ¬ (((ensureSystemRoot (some (Octets.ofString "C:\\Windows"))
        (dedup .insensitive [⟨Octets.ofString "ſYSTEMROOT", Octets.ofString "D:\\Other"⟩])).map
      fun v => KeyCase.insensitive.normalize v.key).Nodup) := by
  simp only [ensureSystemRoot, Utf8.ofString_eq]
  decide

end PseudoTerminal.Environment
