import Mathlib.Tactic
import Mathlib.Data.List.DropRight
import PseudoTerminal.Executable

/-! Which executable a program name stands for. A name with a directory part is looked up at one place, which
does not depend on the search path; any other name is searched for along the search path, and the directory of
the command does not count. On the way of a search each directory gives a match, or is passed, or cannot be
looked into because it is relative and there is no working directory; the leftmost one that is not passed
decides. -/

namespace PseudoTerminal

namespace Path

/-- Whether a part names nothing: it is empty or a dot. -/
def isBlank (part : Octets) : Bool := part == [] || part == [dot]

/-- What a relative path leads through before its last name. Parts that name nothing are left out at the end of
the path and in front of that name; a dot at the beginning is a name. -/
def parent (p : Path) : Path :=
  let kept := p.parts.tail.rdropWhile isBlank
  if kept = [] then []
  else Octets.joinWith slash (p.parts.headD [] :: kept.dropLast.rdropWhile isBlank)

variable {p base : Path}

theorem parts_of_not_isAbsolute (relative : p.isAbsolute = false) (some : p ≠ []) :
    ∃ first rest, p.parts = first :: rest ∧ first ≠ [] := by
  cases p with
  | nil => exact absurd rfl some
  | cons b p =>
    have other : b ≠ slash := by simpa [isAbsolute] using relative
    rw [parts, Octets.splitOn, if_neg other]
    split
    · exact ⟨_, _, rfl, List.cons_ne_nil _ _⟩
    · exact ⟨_, _, rfl, List.cons_ne_nil _ _⟩

theorem joinWith_cons_ne_nil {sep : UInt8} {piece : Octets} {pieces : List Octets} (some : piece ≠ []) :
    Octets.joinWith sep (piece :: pieces) ≠ [] := by
  cases pieces with
  | nil => exact some
  | cons next pieces => simp [Octets.joinWith]

/-- A path leads through a directory just when it is absolute or something comes before its last name. -/
theorem hasDirectory_iff (some : p ≠ []) : p.hasDirectory ↔ p.isAbsolute ∨ p.parent ≠ [] := by
  rw [hasDirectory, Bool.or_eq_true, decide_eq_true_iff]
  cases relative : p.isAbsolute with
  | true => simp
  | false =>
    obtain ⟨first, rest, parts, nonempty⟩ := parts_of_not_isAbsolute relative some
    have names : p.names = first :: rest.filter (!isBlank ·) := by
      simp [Path.names, parts, nonempty, isBlank, bne]
    have parent : p.parent ≠ [] ↔ rest.rdropWhile isBlank ≠ [] := by
      simp only [Path.parent, parts, List.tail_cons, List.headD_cons]
      split_ifs with none
      · simp [none]
      · exact iff_of_true (joinWith_cons_ne_nil nonempty) none
    rw [names, parent]
    simp [List.rdropWhile_eq_nil_iff, Nat.succ_le_iff, List.length_pos_iff, List.filter_eq_nil_iff]

/-- A path below another one is absolute just when one of the two is. -/
theorem isAbsolute_join (nonempty : base ≠ []) (p : Path) :
    (base.join p).isAbsolute = (p.isAbsolute || base.isAbsolute) := by
  obtain ⟨b, base, rfl⟩ := List.exists_cons_of_ne_nil nonempty
  cases absolute : p.isAbsolute with
  | true => simp [join, absolute]
  | false =>
    have begins : (join (b :: base) p).head? = some b := by
      simp only [join, absolute, Bool.false_or, List.isEmpty_cons, Bool.false_eq_true, if_false]
      split_ifs <;> rfl
    rw [isAbsolute, begins]
    rfl

end Path

namespace FileTree

variable {t : FileTree} {p : Path}

theorem isAbsolute_pathOf (place : Place) : (pathOf place).isAbsolute := by
  cases place with
  | nil => rfl
  | cons name place => rfl

theorem pathOf_ne_nil (place : Place) : pathOf place ≠ [] := by
  intro empty
  have absolute := isAbsolute_pathOf place
  rw [empty] at absolute
  cases absolute

/-- Whether a mode has an execute bit: of the owner, the group or the others. -/
def IsExecutableMode (mode : ℕ) : Prop := mode.testBit 6 ∨ mode.testBit 3 ∨ mode.testBit 0

theorem testBit_execute (i : ℕ) : Nat.testBit 0o111 i = decide (i = 6 ∨ i = 3 ∨ i = 0) := by
  by_cases small : i < 7
  · interval_cases i <;> rfl
  · have le : 2 ^ 7 ≤ 2 ^ i := Nat.pow_le_pow_right (by omega) (by omega)
    rw [Nat.testBit_lt_two_pow (by omega)]
    exact (decide_eq_false (by omega)).symm

theorem and_execute_ne_zero_iff (mode : ℕ) : mode &&& 0o111 ≠ 0 ↔ IsExecutableMode mode := by
  have bits (i : ℕ) : (mode &&& 0o111).testBit i = (mode.testBit i && decide (i = 6 ∨ i = 3 ∨ i = 0)) := by
    rw [Nat.testBit_and, testBit_execute]
  constructor
  · intro nonzero
    obtain ⟨i, bit⟩ := Nat.exists_testBit_of_ne_zero nonzero
    rw [bits, Bool.and_eq_true, decide_eq_true_iff] at bit
    obtain ⟨bit, rfl | rfl | rfl⟩ := bit
    · exact .inl bit
    · exact .inr (.inl bit)
    · exact .inr (.inr bit)
  · rintro (bit | bit | bit) zero
    · simpa [zero, bit] using bits 6
    · simpa [zero, bit] using bits 3
    · simpa [zero, bit] using bits 0

/-- Whether an absolute path names, links followed, a regular file with an execute bit. -/
def NamesExecutable (t : FileTree) (p : Path) : Prop :=
  ∃ place mode content, t.find none p = .ok (place, .file mode content) ∧ IsExecutableMode mode

/-- An absolute path names the same from every working directory. -/
theorem find_of_isAbsolute (absolute : p.isAbsolute) (cwd : Option Place) : t.find cwd p = t.find none p := by
  simp only [find, locate, absolute, if_true]

theorem isExecutable_iff (absolute : p.isAbsolute) (cwd : Option Place) :
    t.isExecutable cwd p ↔ t.NamesExecutable p := by
  rw [isExecutable, find_of_isAbsolute absolute, NamesExecutable]
  split
  case h_1 place mode content found =>
    rw [bne_iff_ne, and_execute_ne_zero_iff, found]
    simp
  case h_2 other =>
    exact iff_of_false nofun fun ⟨place, mode, content, found, _⟩ => other _ _ _ found

end FileTree

namespace Executable

variable {s : Surroundings} {program : Octets} {dir : Option Path} {dirs : List Path} {name p q entry : Path}

/-- A path made absolute by the working directory; without one, a relative path stands for nothing. -/
def absolute? (s : Surroundings) (p : Path) : Option Path :=
  if p.isAbsolute then some p else s.cwd.map fun here => (FileTree.pathOf here).join p

theorem isAbsolute_of_absolute? (made : absolute? s p = some q) : q.isAbsolute := by
  rw [absolute?] at made
  split_ifs at made with absolute
  · cases made
    exact absolute
  · obtain ⟨here, -, rfl⟩ := Option.map_eq_some_iff.mp made
    rw [Path.isAbsolute_join (FileTree.pathOf_ne_nil here), FileTree.isAbsolute_pathOf, Bool.or_true]

theorem absolute?_eq_none_iff : absolute? s p = none ↔ p.isAbsolute = false ∧ s.cwd = none := by
  rw [absolute?]
  split_ifs with absolute
  · simp [absolute]
  · simp [absolute]

theorem absolute_eq (s : Surroundings) (p : Path) : absolute s p =
    match absolute? s p with
    | some q => .ok q
    | none => .error (.spawn .noEntry) := by
  rw [absolute, absolute?]
  split_ifs
  · rfl
  · cases s.cwd <;> rfl

/-! ### Names with a directory part -/

/-- The path that a name with a directory part stands for: a relative one is below the directory of the
command, if there is one. -/
def below (dir : Option Path) (program : Path) : Path :=
  if program.isAbsolute then program
  else match dir with
    | some d => d.join program
    | none => program

theorem join_getD (dir : Option Path) (program : Path) : (dir.getD []).join program = below dir program := by
  unfold below
  split_ifs with absolute
  · simp [Path.join, absolute]
  · cases dir with
    | none => simp [Path.join]
    | some d => rfl

theorem isExecutable_iff (made : absolute? s p = some q) :
    s.files.isExecutable s.cwd q ↔ s.files.NamesExecutable q :=
  FileTree.isExecutable_iff (isAbsolute_of_absolute? made) s.cwd

/-- How a look at one path ends. -/
inductive LookedUp (s : Surroundings) (path : Path) : Except StartError Path → Prop
  | found (p : Path) (made : absolute? s path = some p) (is : s.files.NamesExecutable p) : LookedUp s path (.ok p)
  | missed (p : Path) (made : absolute? s path = some p) (isNot : ¬ s.files.NamesExecutable p) :
      LookedUp s path (.error (.notFound p))
  | lost (relative : path.isAbsolute = false) (gone : s.cwd = none) :
      LookedUp s path (.error (.spawn .noEntry))

/-- A name with a directory part is looked up at one path and nowhere else. -/
theorem resolve_of_hasDirectory (nonempty : program ≠ []) (path : Path.hasDirectory program) :
    resolve s program dir =
      match absolute? s (below dir program) with
      | some p => if s.files.isExecutable s.cwd p then .ok p else .error (.notFound p)
      | none => .error (.spawn .noEntry) := by
  have some : program.isEmpty = false := by simpa using nonempty
  simp only [resolve, some, path, join_getD, absolute_eq, Bool.false_eq_true, if_false, if_true]
  cases absolute? s (below dir program) <;> rfl

theorem resolve_eq_iff_lookedUp {r : Except StartError Path} (nonempty : program ≠ [])
    (path : Path.hasDirectory program) : resolve s program dir = r ↔ LookedUp s (below dir program) r := by
  rw [resolve_of_hasDirectory nonempty path]
  constructor
  · rintro rfl
    cases made : absolute? s (below dir program) with
    | none =>
      obtain ⟨relative, gone⟩ := absolute?_eq_none_iff.mp made
      exact .lost relative gone
    | some p =>
      dsimp only
      split_ifs with found
      · exact .found p made ((isExecutable_iff made).mp found)
      · exact .missed p made (mt (isExecutable_iff made).mpr found)
  · rintro (⟨p, made, found⟩ | ⟨p, made, other⟩ | ⟨relative, gone⟩)
    · rw [made]
      exact if_pos ((isExecutable_iff made).mpr found)
    · rw [made]
      exact if_neg (mt (isExecutable_iff made).mp other)
    · rw [absolute?_eq_none_iff.mpr ⟨relative, gone⟩]

/-! ### Names that are searched for -/

/-- Whether a search for a name finds a match in a directory. -/
def Matches (s : Surroundings) (name dir p : Path) : Prop :=
  absolute? s (dir.join name) = some p ∧ s.files.NamesExecutable p

/-- Whether a search for a name passes a directory: it can be looked into, and there is no match. -/
def Passes (s : Surroundings) (name dir : Path) : Prop :=
  ∃ p, absolute? s (dir.join name) = some p ∧ ¬ s.files.NamesExecutable p

theorem resolve_of_not_hasDirectory (nonempty : program ≠ []) (bare : Path.hasDirectory program = false) :
    resolve s program dir = search s program (searched s) := by
  have some : program.isEmpty = false := by simpa using nonempty
  simp only [resolve, some, bare, Bool.false_eq_true, if_false, search_eraseDups]

theorem search_cons_of_matches (found : Matches s name entry p) : search s name (entry :: dirs) = .ok p := by
  rw [search, absolute_eq, found.1]
  exact if_pos ((isExecutable_iff found.1).mpr found.2)

theorem search_cons_of_passes (passes : Passes s name entry) :
    search s name (entry :: dirs) = search s name dirs := by
  obtain ⟨p, made, other⟩ := passes
  rw [search, absolute_eq, made]
  exact if_neg (mt (isExecutable_iff made).mp other)

theorem search_cons_of_lost (lost : absolute? s (entry.join name) = none) :
    search s name (entry :: dirs) = .error (.spawn .noEntry) := by
  rw [search, absolute_eq, lost]

theorem search_append_of_passes {before : List Path} (passes : ∀ b ∈ before, Passes s name b) :
    search s name (before ++ dirs) = search s name dirs := by
  induction before with
  | nil => rfl
  | cons b before ih =>
    rw [List.forall_mem_cons] at passes
    rw [List.cons_append, search_cons_of_passes passes.1, ih passes.2]

/-- How a search along some directories ends: by the leftmost one that it does not pass. -/
inductive Searched (s : Surroundings) (name : Path) (dirs : List Path) : Except StartError Path → Prop
  | found (before : List Path) (d : Path) (behind : List Path) (p : Path) (shape : dirs = before ++ d :: behind)
      (passes : ∀ b ∈ before, Passes s name b) (here : Matches s name d p) : Searched s name dirs (.ok p)
  | missed (passes : ∀ d ∈ dirs, Passes s name d) : Searched s name dirs (.error (.notFound name))
  | lost (before : List Path) (d : Path) (behind : List Path) (shape : dirs = before ++ d :: behind)
      (passes : ∀ b ∈ before, Passes s name b) (relative : d.isAbsolute = false) (gone : s.cwd = none) :
      Searched s name dirs (.error (.spawn .noEntry))

theorem Searched.cons {r : Except StartError Path} (passes : Passes s name entry)
    (searched : Searched s name dirs r) : Searched s name (entry :: dirs) r := by
  have all {l : List Path} (rest : ∀ b ∈ l, Passes s name b) : ∀ b ∈ entry :: l, Passes s name b :=
    List.forall_mem_cons.mpr ⟨passes, rest⟩
  cases searched with
  | found before d behind p shape rest here =>
    exact .found (entry :: before) d behind p (by rw [shape]; rfl) (all rest) here
  | missed rest => exact .missed (all rest)
  | lost before d behind shape rest relative gone =>
    exact .lost (entry :: before) d behind (by rw [shape]; rfl) (all rest) relative gone

/-- A directory in which a bare name is looked up is absolute just when the path there is. -/
theorem absolute?_join_eq_none_iff (bare : name.isAbsolute = false) (nonempty : entry ≠ []) :
    absolute? s (entry.join name) = none ↔ entry.isAbsolute = false ∧ s.cwd = none := by
  rw [absolute?_eq_none_iff, Path.isAbsolute_join nonempty, bare, Bool.false_or]

theorem searched_search (bare : name.isAbsolute = false) (nonempty : ∀ d ∈ dirs, d ≠ []) :
    Searched s name dirs (search s name dirs) := by
  induction dirs with
  | nil => exact .missed nofun
  | cons d dirs ih =>
    rw [List.forall_mem_cons] at nonempty
    cases made : absolute? s (d.join name) with
    | none =>
      obtain ⟨relative, gone⟩ := (absolute?_join_eq_none_iff bare nonempty.1).mp made
      rw [search_cons_of_lost made]
      exact .lost [] d dirs rfl nofun relative gone
    | some p =>
      by_cases found : s.files.NamesExecutable p
      · have here : Matches s name d p := ⟨made, found⟩
        rw [search_cons_of_matches here]
        exact .found [] d dirs p rfl nofun here
      · have passes : Passes s name d := ⟨p, made, found⟩
        rw [search_cons_of_passes passes]
        exact (ih nonempty.2).cons passes

theorem search_eq_iff_searched {r : Except StartError Path} (bare : name.isAbsolute = false)
    (nonempty : ∀ d ∈ dirs, d ≠ []) : search s name dirs = r ↔ Searched s name dirs r := by
  constructor
  · rintro rfl
    exact searched_search bare nonempty
  · rintro (⟨before, d, behind, p, rfl, passes, here⟩ | ⟨passes⟩ | ⟨before, d, behind, rfl, passes, relative, gone⟩)
    · rw [search_append_of_passes passes, search_cons_of_matches here]
    · rw [← List.append_nil dirs, search_append_of_passes passes, search]
    · have some : d ≠ [] := nonempty d (by simp)
      have lost := (absolute?_join_eq_none_iff bare some).mpr ⟨relative, gone⟩
      rw [search_append_of_passes passes, search_cons_of_lost lost]

/-- The entries of a search path that is set, in order. -/
def entries (searchPath : Option Octets) : List Path :=
  match searchPath with
  | some line => Octets.splitOn 58 line
  | none => []

theorem searched_eq (s : Surroundings) : searched s = (entries s.searchPath).filter (!·.isEmpty) := by
  unfold searched entries
  cases s.searchPath <;> rfl

theorem ne_nil_of_mem_searched (among : entry ∈ searched s) : entry ≠ [] := by
  rw [searched_eq, List.mem_filter] at among
  rintro rfl
  exact absurd among.2 Bool.false_ne_true

/-! ### All names -/

theorem resolve_ok {dir : Option Path} (found : resolve s program dir = .ok p) :
    p.isAbsolute ∧ s.files.NamesExecutable p := by
  have nonempty : program ≠ [] := by
    rintro rfl
    cases found
  by_cases path : Path.hasDirectory program
  · cases (resolve_eq_iff_lookedUp nonempty path).mp found with
    | found p made is => exact ⟨isAbsolute_of_absolute? made, is⟩
  · rw [Bool.not_eq_true] at path
    have bare : Path.isAbsolute program = false := (Bool.or_eq_false_iff.mp path).1
    rw [resolve_of_not_hasDirectory nonempty path] at found
    cases (search_eq_iff_searched bare fun _ => ne_nil_of_mem_searched).mp found with
    | found before d behind p shape passes here => exact ⟨isAbsolute_of_absolute? here.1, here.2⟩

/-- A path that is returned is absolute and names an executable, links followed. A name with a directory part
is looked up at one path, which the search path does not change. Any other name is searched for, and the
directory of the command does not change where. Both end as they are said to, and in no other way. -/
theorem resolves_to_executable (s : Surroundings) (program : Octets) (dir : Option Path) (nonempty : program ≠ []) :
    (∀ p, resolve s program dir = .ok p → p.isAbsolute ∧ s.files.NamesExecutable p) ∧
    (Path.isAbsolute program ∨ Path.parent program ≠ [] →
      (∀ searchPath, resolve { s with searchPath } program dir = resolve s program dir) ∧
      ∀ r, resolve s program dir = r ↔ LookedUp s (below dir program) r) ∧
    (¬ (Path.isAbsolute program ∨ Path.parent program ≠ []) →
      (∀ dir', resolve s program dir' = resolve s program dir) ∧
      ∀ r, resolve s program dir = r ↔
        Searched s program ((entries s.searchPath).filter (!·.isEmpty)) r) := by
  rw [← Path.hasDirectory_iff nonempty]
  refine ⟨fun p => resolve_ok, fun path => ⟨fun searchPath => ?_, fun r => ?_⟩, fun bare => ?_⟩
  · rw [resolve_of_hasDirectory nonempty path, resolve_of_hasDirectory nonempty path]
    rfl
  · exact resolve_eq_iff_lookedUp nonempty path
  · rw [Bool.not_eq_true] at bare
    refine ⟨fun dir' => ?_, fun r => ?_⟩
    · rw [resolve_of_not_hasDirectory nonempty bare, resolve_of_not_hasDirectory nonempty bare]
    · rw [resolve_of_not_hasDirectory nonempty bare, ← searched_eq]
      exact search_eq_iff_searched (Bool.or_eq_false_iff.mp bare).1 fun _ => ne_nil_of_mem_searched

/-- A path spelled by its characters. -/
def spelled (text : String) : Path := Utf8.encode text.toList

/-- Surroundings without a working directory. The search path has an empty entry, one with a file that may not
be executed, one with a link to an executable, and a relative one. -/
def homeless : Surroundings where
  files := [
    ([spelled "a"], .directory 0o755), ([spelled "a", spelled "sh"], .file 0o644 (.program "sh")),
    ([spelled "b"], .directory 0o755), ([spelled "b", spelled "sh"], .link (spelled "../c")),
    ([spelled "c"], .file 0o711 (.program "sh"))]
  cwd := none
  searchPath := some (spelled ":/a:/b:d")

theorem find_file_homeless : homeless.files.find none (spelled "/a/sh") =
    .ok ([spelled "a", spelled "sh"], .file 0o644 (.program "sh")) := by
  have root : homeless.files.node? [] = some (.directory 0o755) := rfl
  have a : homeless.files.node? [[97]] = some (.directory 0o755) := rfl
  have sh : homeless.files.node? [[97], [115, 104]] = some (.file 0o644 (.program "sh")) := rfl
  have walked : homeless.files.walk true FileTree.linkLimit [] [[], [97], [115, 104]] =
      .ok [[97], [115, 104]] := by
    simp [FileTree.walk, FileTree.isDirectory, root, a, sh, Path.dot, FileTree.nameLimit]
  have located : homeless.files.locate none (spelled "/a/sh") = .ok [[97], [115, 104]] := walked
  rw [FileTree.find, located]
  rfl

theorem find_link_homeless : homeless.files.find none (spelled "/b/sh") =
    .ok ([spelled "c"], .file 0o711 (.program "sh")) := by
  have root : homeless.files.node? [] = some (.directory 0o755) := rfl
  have b : homeless.files.node? [[98]] = some (.directory 0o755) := rfl
  have sh : homeless.files.node? [[98], [115, 104]] = some (.link [46, 46, 47, 99]) := rfl
  have c : homeless.files.node? [[99]] = some (.file 0o711 (.program "sh")) := rfl
  have walked : homeless.files.walk true FileTree.linkLimit [] [[], [98], [115, 104]] = .ok [[99]] := by
    simp [FileTree.walk, FileTree.isDirectory, root, b, sh, c, Path.dot, FileTree.nameLimit, FileTree.linkLimit,
      Path.isAbsolute, Path.parts, Path.slash, Octets.splitOn]
  have located : homeless.files.locate none (spelled "/b/sh") = .ok [[99]] := walked
  rw [FileTree.find, located]
  rfl

/-- A bare name gets as far as the link, an absolute one names the file that may not be executed, and a relative
directory of the command leaves a name with a directory part relative. -/
theorem resolves_to_executable_homeless :
    resolve homeless (spelled "sh") none = .ok (spelled "/b/sh") ∧
    resolve homeless (spelled "/a/sh") none = .error (.notFound (spelled "/a/sh")) ∧
    resolve homeless (spelled "./sh") (some (spelled "d")) = .error (.spawn .noEntry) := by
  have file : ¬ homeless.files.NamesExecutable (spelled "/a/sh") := by
    rintro ⟨place, mode, content, found, executable⟩
    rw [find_file_homeless] at found
    cases found
    exact absurd executable (by unfold FileTree.IsExecutableMode; decide)
  have link : homeless.files.NamesExecutable (spelled "/b/sh") :=
    ⟨_, _, _, find_link_homeless, .inl (by decide)⟩
  refine ⟨?_, ?_, ?_⟩
  · refine (((resolves_to_executable homeless (spelled "sh") none (by decide)).2.2 (by decide)).2 _).mpr ?_
    exact .found [spelled "/a"] (spelled "/b") [spelled "d"] _ (by decide)
      (List.forall_mem_singleton.mpr ⟨spelled "/a/sh", by decide, file⟩) ⟨by decide, link⟩
  · refine (((resolves_to_executable homeless (spelled "/a/sh") none (by decide)).2.1 (by decide)).2 _).mpr ?_
    exact .missed _ (by decide) file
  · refine (((resolves_to_executable homeless (spelled "./sh") (some (spelled "d")) (by decide)).2.1
      (by decide)).2 _).mpr ?_
    exact .lost (by decide) rfl

end Executable

end PseudoTerminal
