import PseudoTerminal.Environment.Basic
import PseudoTerminal.Error
import PseudoTerminal.Files.Tree

/-! Finding the executable that a program name stands for. A name with a directory part is looked up
where it points, below the command's own directory when one is given; a bare name is searched for in the
directories of `PATH`, from the left. The answer is an absolute path. -/

namespace PseudoTerminal

/-- What a look-up depends on: the files, the working directory unless it is gone, and `PATH`. -/
structure Surroundings where
  files : FileTree
  cwd : Option Place
  searchPath : Option Octets
  deriving Inhabited

namespace Executable

/-- A path made absolute by the working directory. -/
def absolute (s : Surroundings) (p : Path) : Except StartError Path :=
  if p.isAbsolute then .ok p
  else match s.cwd with
    | some here => .ok ((FileTree.pathOf here).join p)
    | none => .error (.spawn .noEntry)

/-- The directories of a search path, in order; empty ones do not count. -/
def directories (searchPath : Octets) : List Path :=
  (Octets.splitOn 58 searchPath).filter (!·.isEmpty)

/-- The first match of a bare name in the given directories. -/
def search (s : Surroundings) (name : Path) : List Path → Except StartError Path
  | [] => .error (.notFound name)
  | dir :: dirs =>
    match absolute s (dir.join name) with
    | .error e => .error e
    | .ok p => if s.files.isExecutable s.cwd p then .ok p else search s name dirs

/-- Directories that a search passes count for nothing. -/
theorem search_filter {s : Surroundings} {name dir : Path}
    (passes : ∀ dirs, search s name (dir :: dirs) = search s name dirs) (dirs : List Path) :
    search s name (dirs.filter (!· == dir)) = search s name dirs := by
  induction dirs with
  | nil => rfl
  | cons d dirs ih =>
    by_cases same : d = dir
    · rw [List.filter_cons_of_neg (by simp [same]), ih, same, passes]
    · rw [List.filter_cons_of_pos (by simpa using same), search, search]
      split
      · rfl
      · rw [ih]

/-- A directory that was looked into need not be looked into again. -/
theorem search_eraseDups (s : Surroundings) (name : Path) :
    ∀ dirs : List Path, search s name dirs.eraseDups = search s name dirs
  | [] => by rw [List.eraseDups_nil]
  | dir :: dirs => by
    rw [List.eraseDups_cons, search, search, search_eraseDups s name (dirs.filter (!· == dir))]
    split
    case h_1 => rfl
    case h_2 p found =>
      split
      case isTrue => rfl
      case isFalse none =>
        exact search_filter (fun more => by rw [search, found]; exact if_neg none) dirs
termination_by dirs => dirs.length
decreasing_by exact Nat.lt_succ_of_le (List.length_filter_le _ _)

/-- The directories in which a bare name is searched for. -/
def searched (s : Surroundings) : List Path := (s.searchPath.map directories).getD []

/-- The executable that `program` stands for, for a command with working directory `dir`. -/
def resolve (s : Surroundings) (program : Octets) (dir : Option Path) : Except StartError Path :=
  if program.isEmpty then .error (.invalidCommand "empty program name")
  else if Path.hasDirectory program then
    match absolute s ((dir.getD []).join program) with
    | .error e => .error e
    | .ok p => if s.files.isExecutable s.cwd p then .ok p else .error (.notFound p)
  else search s program (searched s).eraseDups

/-- Whether a search for a bare name ends in a directory. -/
def isLast (s : Surroundings) (name dir : Path) : Bool :=
  match absolute s (dir.join name) with
  | .error _ => true
  | .ok p => s.files.isExecutable s.cwd p

/-- How many directories are looked into for a program, one that is named twice also twice. -/
def looks (s : Surroundings) (program : Octets) : Nat :=
  if program.isEmpty || Path.hasDirectory program then 0
  else match (searched s).eraseDups.find? (isLast s program) with
    | some dir => (searched s).idxOf dir + 1
    | none => (searched s).length

end Executable

end PseudoTerminal
