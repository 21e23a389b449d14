import Mathlib.Tactic
import PseudoTerminal.Host.Launch

/-! What a command is spawned with. The process that a spawn makes has the variables of the command, whatever
interpreters stand in between. A spawn of a program that is there and may be run succeeds, unless something
about the command is out of bounds; so the variables do not keep it from that. -/

namespace PseudoTerminal.Host.Kernel

variable {π : Type} {k : Kernel π} {pid : ℕ}

theorem process?_update {f : Process π → Process π} (same : ∀ p, (f p).pid = p.pid) :
    (k.update pid f).process? pid = (k.process? pid).map f := by
  have found (p : Process π) :
      ((fun p => p.pid == pid) ∘ fun p => if p.pid == pid then f p else p) p = (p.pid == pid) := by
    by_cases here : p.pid == pid <;> simp_all
  rw [update, process?, process?, List.find?_map, funext found]
  cases has : k.processes.find? (fun p => p.pid == pid) with
  | none => rfl
  | some p => exact congrArg some (if_pos (List.find?_some has))

theorem environment_replaceProgram {p : Process π} (has : k.process? pid = some p)
    (args environment : List Octets) (title : Octets) (program : π) :
    ∃ q, (k.replaceProgram pid args environment title program).process? pid = some q ∧
      q.environment = environment := by
  rw [replaceProgram]
  refine ⟨_, (process?_update fun p => ?_).trans (congrArg (Option.map _) has), ?_⟩ <;> rfl

variable {k k' : Kernel Program} {path : Path} {args environment : List Octets}

/-- Whatever interpreters stand in between, the program gets the variables that were handed over. -/
theorem environment_execute {title : Option Octets} {depth : ℕ}
    (h : k.execute pid path args environment title depth = .ok k') :
    ∃ q, k'.process? pid = some q ∧ q.environment = environment := by
  induction depth generalizing path args title with
  | zero => cases h
  | succ depth ih =>
    simp only [execute, bind, Except.bind, throw, throwThe, MonadExceptOf.throw, pure, Except.pure] at h
    split at h
    case h_2 => cases h
    case h_1 p has =>
      split_ifs at h
      split at h
      case h_1 => cases h
      case h_2 found =>
        split at h
        case h_2 => cases h
        case h_1 mode content =>
          split_ifs at h
          split at h
          case h_1 name =>
            cases h
            exact environment_replaceProgram has ..
          case h_2 text =>
            split at h
            case h_1 => cases h
            case h_2 name given =>
              split_ifs at h
              exact ih h

theorem environment_start (h : k.start pid path args environment = .ok k') :
    ∃ q, k'.process? pid = some q ∧ q.environment = environment := by
  unfold start at h
  split at h
  case h_1 => exact environment_execute h
  case h_2 => exact environment_execute h

/-- A command that was spawned runs with its own variables. -/
theorem environment_spawnOn {α τ : Type} {device : ℕ} {c : Command α τ} {host : List Variable}
    {cwd : Place} (h : k.spawnOn device c path host cwd = .ok (pid, k')) :
    ∃ p, k'.process? pid = some p ∧ p.environment = Environment.entries (c.environment host) := by
  simp only [spawnOn, bind, Except.bind, throw, throwThe, MonadExceptOf.throw, pure, Except.pure] at h
  split_ifs at h
  split at h
  case h_1 => cases h
  case h_2 place found =>
    split at h
    case h_1 => cases h
    case h_2 started =>
      cases h
      exact environment_start started

/-! ### Spawns that succeed -/

/-- A command finds its program, the program may be run, and nothing about the command is out of bounds. -/
structure Spawnable {α τ : Type} (k : Kernel Program) (c : Command α τ) (path : Path) (host : List Variable)
    (cwd : Place) : Prop where
  handable : c.isHandable
  group : c.attributes.group ≠ some nobody
  user : c.attributes.user ≠ some nobody
  found : ∃ place at_ mode name, k.directoryFor cwd c.dir = .ok place ∧
    k.files.find (some place) path = .ok (at_, .file mode (.program name)) ∧ mode &&& 0o111 ≠ 0
  words : ∀ s ∈ c.program :: c.args ++ Environment.entries (c.environment host), s.length < wordLimit
  space : (c.program :: c.args ++ Environment.entries (c.environment host)).foldl
    (fun n s => n + s.length + 9) 0 ≤ spaceLimit
  /-- The next number is nobody's. -/
  fresh : k.process? k.nextPid = none

/-- A process keeps its directory when it is given a file. -/
theorem process?_install {l : Kernel π} {p : Process π} (has : l.process? pid = some p) (number : ℕ)
    (o : OpenFile) : ∃ q, (l.install pid number o).process? pid = some q ∧ q.cwd = p.cwd := by
  rw [install]
  refine ⟨_, (process?_update fun p => ?_).trans (congrArg (Option.map _) has), ?_⟩ <;> rfl

/-- The child that is added is there, and works in the directory that was given. -/
theorem process?_addChild {k : Kernel Program} (fresh : k.process? k.nextPid = none) (leads : Bool)
    (attributes : Attributes) (cwd : Place) (standard : OpenFile) :
    ∃ q, (k.addChild leads attributes cwd standard).2.process? k.nextPid = some q ∧ q.cwd = cwd := by
  let p : Process Program := {
    pid := k.nextPid, parent := owner, group := if leads then k.nextPid else owner
    session := if leads then k.nextPid else owner
    user := attributes.user.getD 0, userGroup := attributes.group.getD 0
    moreGroups := if attributes.user.isSome then [] else [0]
    args := [], environment := [], title := [], cwd, program := .print [] 0 }
  let added : Kernel Program := { k with processes := k.processes ++ [p], nextPid := k.nextPid + 1 }
  have has : added.process? k.nextPid = some p := by
    have new : [p].find? (·.pid == k.nextPid) = some p := by simp [p]
    rw [process?] at fresh
    rw [process?, List.find?_append, fresh, new, Option.none_or]
  obtain ⟨q, has, first⟩ := process?_install has 0 standard
  obtain ⟨q', has, second⟩ := process?_install has 1 standard
  obtain ⟨q'', has, third⟩ := process?_install has 2 standard
  exact ⟨q'', has, third.trans (second.trans first)⟩

/-- A process that finds a program may run it. -/
theorem start_program {p : Process Program} (has : k.process? pid = some p) {at_ : Place} {mode : ℕ}
    {name : String} (found : k.files.find (some p.cwd) path = .ok (at_, .file mode (.program name)))
    (executable : mode &&& 0o111 ≠ 0) (words : ∀ s ∈ args ++ environment, s.length < wordLimit)
    (space : (args ++ environment).foldl (fun n s => n + s.length + 9) 0 ≤ spaceLimit) :
    k.start pid path args environment =
      .ok (k.replaceProgram pid args environment (baseName path) (.fresh name)) := by
  have short : (args ++ environment).any (fun s => wordLimit ≤ s.length) = false :=
    List.any_eq_false.mpr fun s among => by simpa using words s among
  have fits : ¬spaceLimit < (args ++ environment).foldl (fun n s => n + s.length + 9) 0 := space.not_gt
  have may : (mode &&& 0o111 == 0) = false := by simpa using executable
  have executed : k.execute pid path args environment none 5 =
      .ok (k.replaceProgram pid args environment (baseName path) (.fresh name)) := by
    simp only [execute, has, found, short, fits, may, bind, Except.bind, pure, Except.pure]
    rfl
  rw [start, executed]

/-- The terminal of a session that a process leads, if there is one, is the session's. -/
theorem setTerminal_keeps (l : Kernel π) (device pid : ℕ) :
    let m := match l.terminal? device with
      | some d => l.setTerminal device { d with session := some pid, foreground := some pid }
      | none => l
    m.processes = l.processes ∧ m.files = l.files := by
  intro m
  simp only [m]
  split <;> exact ⟨rfl, rfl⟩

/-- Nothing keeps such a command from being spawned, under the next number. -/
theorem spawnOn_of_spawnable {α τ : Type} {c : Command α τ} {host : List Variable} {cwd : Place}
    (spawnable : k.Spawnable c path host cwd) (device : ℕ) :
    ∃ k', k.spawnOn device c path host cwd = .ok (k.nextPid, k') := by
  obtain ⟨place, at_, mode, name, dir, found, executable⟩ := spawnable.found
  have group : (c.attributes.group == some nobody) = false := by simpa using spawnable.group
  have user : (c.attributes.user == some nobody) = false := by simpa using spawnable.user
  obtain ⟨p, has, rfl⟩ := process?_addChild spawnable.fresh true c.attributes place
    { target := .terminal device }
  obtain ⟨processes, files⟩ := setTerminal_keeps
    (k.addChild true c.attributes p.cwd { target := .terminal device }).2 device k.nextPid
  have started := start_program (by rw [process?, processes]; exact has)
    (by rw [files]; exact found) executable spawnable.words spawnable.space
  refine ⟨_, Eq.trans ?_ (congrArg (Except.map (Prod.mk k.nextPid)) started)⟩
  simp only [spawnOn, spawnable.handable, group, user, dir, bind, Except.bind, pure, Except.pure]
  rfl

/-- A host whose only file is a program. -/
def lone (terminals : List (ℕ × Terminal.Device)) : Kernel Program :=
  { files := [([[112]], .file 0o755 (.program "true"))], terminals }

/-- It can spawn that program with a few words. -/
theorem spawnable_lone {α τ : Type} {c : Command α τ} {host : List Variable}
    (terminals : List (ℕ × Terminal.Device)) (handable : c.isHandable) (attributes : c.attributes = {})
    (dir : c.dir = none)
    (words : ∀ s ∈ c.program :: c.args ++ Environment.entries (c.environment host), s.length < wordLimit)
    (space : (c.program :: c.args ++ Environment.entries (c.environment host)).foldl
      (fun n s => n + s.length + 9) 0 ≤ spaceLimit) :
    (lone terminals).Spawnable c [Path.slash, 112] host [] where
  handable
  group := by rw [attributes]; nofun
  user := by rw [attributes]; nofun
  words
  space
  fresh := rfl
  found := by
    refine ⟨[], [[112]], 0o755, "true", by rw [dir]; rfl, ?_, by decide⟩
    let files := (lone terminals).files
    have root : files.isDirectory [] := rfl
    have there : files.node? [[112]] = some (.file 0o755 (.program "true")) := rfl
    have walked : files.locate (some []) [Path.slash, 112] = .ok [[112]] := by
      show files.walk true FileTree.linkLimit [] [[], [112]] = .ok [[112]]
      simp [FileTree.walk, root, there, Path.dot, FileTree.nameLimit]
    rw [FileTree.find, walked]
    rfl

end PseudoTerminal.Host.Kernel
