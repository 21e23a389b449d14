import Mathlib.Data.List.DropRight
import PseudoTerminal.Proofs.Environment.LastOfKey
import PseudoTerminal.Proofs.Host.Spawning
import PseudoTerminal.Session.Script

/-! The environment that a program gets on a terminal. Without a call that sets or clears variables it is
the host's. Otherwise it is made of the variables that were set since the last call that cleared them, on
top of the host's when none did, and of those with the same key only the last is left. The program gets them as
entries, and tells them apart in these as long as no key has a `=` behind its first octet. -/

namespace PseudoTerminal

/-! ### Key order -/

namespace Command

theorem insertSorted_perm {v : Variable} {vars : List Variable} (new : v.key ∉ vars.map Variable.key) :
    (insertSorted v vars).Perm (v :: vars) := by
  induction vars with
  | nil => exact .refl _
  | cons w vars ih =>
    rw [List.map_cons, List.mem_cons, not_or] at new
    simp only [insertSorted, beq_iff_eq, if_neg new.1]
    split
    · exact .refl _
    · exact ((ih new.2).cons w).trans (.swap v w vars)

theorem foldl_insertSorted_perm {start vars : List Variable}
    (distinct : ((vars ++ start).map Variable.key).Nodup) :
    (vars.foldl (fun vs v => insertSorted v vs) start).Perm (vars ++ start) := by
  induction vars generalizing start with
  | nil => exact .refl _
  | cons v vars ih =>
    obtain ⟨new, rest⟩ := List.nodup_cons.mp distinct
    have inserted : (insertSorted v start).Perm (v :: start) :=
      insertSorted_perm fun among => new (by simp [List.map_append, among])
    have moved : (vars ++ insertSorted v start).Perm (v :: (vars ++ start)) :=
      (inserted.append_left vars).trans List.perm_middle
    refine (ih ?_).trans moved
    exact (moved.map Variable.key).nodup_iff.mpr distinct

/-- Variables with different keys are all there in key order. -/
theorem sorted_perm {vars : List Variable} (distinct : (vars.map Variable.key).Nodup) :
    (sorted vars).Perm vars := by
  have whole : (sorted vars).Perm (vars ++ []) := foldl_insertSorted_perm (by rwa [List.append_nil])
  rwa [List.append_nil] at whole

/-- The program gets the last variable of every key. -/
theorem environment_perm {α τ : Type} {c : Command α τ} {vars : List Variable}
    (set : c.vars = some vars) (host : List Variable) :
    (c.environment host).Perm (Environment.dedup .sensitive vars) := by
  rw [environment, set]
  apply sorted_perm
  -- keys that are the same octets are the same text
  have texts : ((Environment.dedup .sensitive vars).map fun v => Utf8.decode v.key).Nodup :=
    @Environment.keys_dedup_nodup .sensitive vars
  exact List.Nodup.of_map Utf8.decode (by rwa [List.map_map])

end Command

/-! ### Entries -/

namespace Environment

/-- The variable that a program reads from an entry. The first octet belongs to its key. -/
def readEntry? : Octets → Option Variable
  | [] => none
  | o :: rest =>
    match Octets.breakAt 61 rest with
    | (name, some value) => some ⟨o :: name, value⟩
    | (_, none) => none

/-- The variables that a program reads from its entries. -/
def readEntries (entries : List Octets) : List Variable := entries.filterMap readEntry?

theorem breakAt_append {sep : UInt8} {name rest : Octets} (absent : sep ∉ name) :
    Octets.breakAt sep (name ++ sep :: rest) = (name, some rest) := by
  induction name with
  | nil => rw [List.nil_append, Octets.breakAt, if_pos rfl]
  | cons o name ih =>
    obtain ⟨other, absent⟩ := List.ne_and_not_mem_of_not_mem_cons absent
    rw [List.cons_append, Octets.breakAt, if_neg other.symm, ih absent]

/-- Variables whose keys have no `=` behind their first octet are read as they were. -/
theorem readEntries_entries {vars : List Variable} (named : ∀ v ∈ vars, v.key ≠ [] ∧ 61 ∉ v.key.tail) :
    readEntries (entries vars) = vars := by
  rw [readEntries, entries, List.filterMap_map]
  refine (List.filterMap_congr fun v among => ?_).trans (List.filterMap_some)
  obtain ⟨key, value⟩ := v
  cases key with
  | nil => exact absurd rfl (named _ among).1
  | cons o name =>
    have broken : Octets.breakAt 61 (name ++ 61 :: value) = (name, some value) :=
      breakAt_append (named _ among).2
    simp only [Function.comp_apply, List.cons_append, readEntry?, broken]

end Environment

/-! ### Building -/

namespace Session.Script

namespace Build

def clears : Build → Bool
  | .clearVars => true
  | _ => false

/-- The variables that a call sets, if it sets any. -/
def sets? : Build → Option (List Variable)
  | .vars added => some added
  | _ => none

/-- Whether a call has to do with variables. -/
def concernsVars (b : Build) : Bool := b.clears || b.sets?.isSome

end Build

variable {calls : List (State × Build)} {s : State} {b : Build}

/-- The host's variables at the first call that sets some. -/
def firstHost (calls : List (State × Build)) : List Variable :=
  ((calls.find? fun call => call.2.sets?.isSome).map fun call => call.1.world.vars).getD []

/-- What the variables of a command are made of: those that were set after the last call that cleared
them, on top of the host's when none did. -/
def entered (calls : List (State × Build)) : List Variable :=
  (if calls.any fun call => call.2.clears then [] else firstHost calls)
    ++ (calls.rtakeWhile fun call => !call.2.clears).flatMap fun call => call.2.sets?.getD []

/-- Whether one of the calls has to do with variables. -/
def touched (calls : List (State × Build)) : Bool := calls.any fun call => call.2.concernsVars

theorem touched_concat : touched (calls ++ [(s, b)]) = (touched calls || b.concernsVars) := by
  simp [touched]

theorem entered_clear (clears : b.clears) : entered (calls ++ [(s, b)]) = [] := by
  simp [entered, clears]

theorem entered_other (keeps : b.clears = false) (unset : b.sets? = none) :
    entered (calls ++ [(s, b)]) = entered calls := by
  have cleared : (calls ++ [(s, b)]).any (fun call => call.2.clears) =
      calls.any fun call => call.2.clears := by
    simp [keeps]
  rw [entered, entered, cleared]
  simp [firstHost, keeps, unset]

/-- The first variables are set on top of the host's. -/
theorem entered_first {added : List Variable} (keeps : b.clears = false) (sets : b.sets? = some added)
    (untouched : touched calls = false) : entered (calls ++ [(s, b)]) = s.world.vars ++ added := by
  have before (s : State) (b : Build) (among : (s, b) ∈ calls) : b.clears = false ∧ b.sets? = none := by
    simpa [Build.concernsVars] using List.any_eq_false.mp untouched (s, b) among
  have cleared : calls.any (fun call => call.2.clears) = false := by
    simpa using fun s b among => (before s b among).1
  have unset : calls.find? (fun call => call.2.sets?.isSome) = none := by
    simpa using fun s b among => (before s b among).2
  have since : (calls.rtakeWhile fun call => !call.2.clears) = calls := by
    simpa [List.rtakeWhile_eq_self_iff] using fun s b among => (before s b among).1
  have none : calls.flatMap (fun call => call.2.sets?.getD []) = [] := by
    simpa [List.flatMap_eq_nil_iff] using fun s b among => by rw [(before s b among).2]; rfl
  simp [entered, firstHost, keeps, sets, cleared, unset, since, none]

/-- Further variables come after those that are there. -/
theorem entered_more {added : List Variable} (keeps : b.clears = false) (sets : b.sets? = some added)
    (before : touched calls) : entered (calls ++ [(s, b)]) = entered calls ++ added := by
  cases cleared : calls.any fun call => call.2.clears with
  | true => simp [entered, keeps, sets, cleared]
  | false =>
    obtain ⟨call, among, concerns⟩ := List.any_eq_true.mp before
    have kept := List.any_eq_false.mp cleared call among
    have found : (calls.find? fun call => call.2.sets?.isSome).isSome := by
      refine List.find?_isSome.mpr ⟨call, among, ?_⟩
      simpa [Build.concernsVars, kept] using concerns
    simp [entered, firstHost, keeps, sets, cleared, Option.or_of_isSome found]

theorem vars_of_clears (c : Command Action ℕ) (clears : b.clears) : (s.build c b).vars = some [] := by
  cases b with
  | clearVars => rfl
  | _ => cases clears

theorem vars_of_sets (c : Command Action ℕ) {added : List Variable} (sets : b.sets? = some added) :
    (s.build c b).vars = some (c.vars.getD s.world.vars ++ added) := by
  cases b with
  | vars => cases sets; rfl
  | _ => cases sets

theorem vars_of_other (c : Command Action ℕ) (keeps : b.clears = false) (unset : b.sets? = none) :
    (s.build c b).vars = c.vars := by
  cases b with
  | clearVars => cases keeps
  | vars => cases unset
  | _ => rfl

/-- A command that some calls built, each in the state of its time. -/
def built (program : Octets) (calls : List (State × Build)) : Command Action ℕ :=
  calls.foldl (fun c call => call.1.build c call.2) { program }

theorem vars_built (program : Octets) (calls : List (State × Build)) :
    (built program calls).vars = if touched calls then some (entered calls) else none := by
  induction calls using List.reverseRecOn with
  | nil => rfl
  | append_singleton calls call ih =>
    obtain ⟨s, b⟩ := call
    rw [touched_concat, built, List.foldl_concat, ← built]
    by_cases clears : b.clears
    · rw [vars_of_clears _ clears, entered_clear clears]
      simp [Build.concernsVars, clears]
    rw [Bool.not_eq_true] at clears
    cases sets : b.sets? with
    | none =>
      rw [vars_of_other _ clears sets, entered_other clears sets, ih]
      simp [Build.concernsVars, clears, sets]
    | some added =>
      rw [vars_of_sets _ sets, ih]
      simp only [Build.concernsVars, sets, Option.isSome_some, Bool.or_true, if_true]
      cases before : touched calls with
      | true => rw [entered_more clears sets before]; rfl
      | false => rw [entered_first clears sets before]; rfl

/-- The environment of a command that some calls built. Without a call that concerns variables it is the
host's. Otherwise every non-empty key among the variables that were entered has one variable, the last of
them with that key, and there is no other; keys that decode to the same text are one key. Variables without
zero octets never keep a command from being spawned. The program that is spawned has this environment, and
reads the same variables from it when none of their keys has a `=` behind its first octet. -/
theorem environment_build (program : Octets) (calls : List (State × Build)) (host : List Variable) :
    let c := built program calls
    (touched calls = false → c.environment host = host ∧
      ((∀ v ∈ host, v.key ≠ [] ∧ 61 ∉ v.key.tail) →
        Environment.readEntries (Environment.entries (c.environment host)) = c.environment host)) ∧
    (touched calls →
      (∀ v, v ∈ c.environment host ↔
        v.key ≠ [] ∧ Environment.IsLast .sensitive v (entered calls)) ∧
      (∀ w ∈ entered calls, w.key ≠ [] →
        ∃! v, v ∈ c.environment host ∧ Utf8.decode v.key = Utf8.decode w.key) ∧
      ((c.environment host).map fun v => Utf8.decode v.key).Nodup ∧
      ((∀ v ∈ entered calls, 61 ∉ v.key.tail) →
        Environment.readEntries (Environment.entries (c.environment host)) = c.environment host) ∧
      ((∀ v ∈ entered calls, Command.isPlain v.key ∧ Command.isPlain v.value) →
        c.isHandable =
          (Command.isPlain c.program && c.args.all Command.isPlain && c.dir.all Command.isPlain))) ∧
    (∀ k device path cwd, Host.Kernel.Spawnable k c path host cwd →
      ∃ k', Host.Kernel.spawnOn k device c path host cwd = .ok (k.nextPid, k')) ∧
    ∀ k device path cwd pid k', Host.Kernel.spawnOn k device c path host cwd = .ok (pid, k') →
      ∃ p, k'.process? pid = some p ∧ p.environment = Environment.entries (c.environment host) := by
  intro c
  have vars : c.vars = if touched calls then some (entered calls) else none := vars_built program calls
  refine ⟨fun untouched => ?_, fun before => ?_,
    fun _ device _ _ spawnable => Host.Kernel.spawnOn_of_spawnable spawnable device,
    fun _ _ _ _ _ _ => Host.Kernel.environment_spawnOn⟩
  · have same : c.environment host = host := by
      rw [Command.environment, vars, untouched]
      rfl
    refine ⟨same, fun named => ?_⟩
    rw [same]
    exact Environment.readEntries_entries named
  · rw [before, if_pos rfl] at vars
    have kept := Command.environment_perm vars host
    have last (v : Variable) : v ∈ c.environment host ↔
        v.key ≠ [] ∧ Environment.IsLast .sensitive v (entered calls) :=
      kept.mem_iff.trans Environment.mem_dedup_iff
    refine ⟨last, fun w among named => ?_, ?_, fun plain => ?_, fun plain => ?_⟩
    · simp only [kept.mem_iff]
      exact @Environment.existsUnique_dedup .sensitive _ _ among named
    · exact (kept.map _).nodup_iff.mpr (@Environment.keys_dedup_nodup .sensitive _)
    · refine Environment.readEntries_entries fun v among => ?_
      obtain ⟨named, is⟩ := (last v).mp among
      exact ⟨named, plain v is.mem⟩
    · have all : (Environment.dedup .sensitive (entered calls)).all
          (fun v => Command.isPlain v.key && Command.isPlain v.value) := by
        rw [List.all_eq_true]
        intro v kept
        rw [Bool.and_eq_true]
        exact plain v (Environment.mem_dedup_iff.mp kept).2.mem
      rw [Command.isHandable, vars]
      exact (congrArg (_ && ·) all).trans (Bool.and_true _)

/-- A key is set, everything is cleared, and two keys are set that are different octets but both look
like the replacement character: the program that is spawned has only the last variable. -/
theorem environment_build_replaced :
    ∃ (calls : List (State × Build)) (k k' : Host.Kernel Host.Program) (path : Path)
      (p : Host.Process Host.Program), touched calls ∧ (entered calls).length = 2 ∧
      k.spawnOn 0 (built path calls) path [⟨[75], []⟩] [] = .ok (k.nextPid, k') ∧
      k'.process? k.nextPid = some p ∧ Environment.readEntries p.environment = [⟨[0xFE], [50]⟩] := by
  let s : State := { world := { kernel := { files := [] }, vars := [⟨[75], []⟩] } }
  let calls : List (State × Build) :=
    [(s, .vars [⟨[75], [49]⟩]), (s, .clearVars), (s, .vars [⟨[0xFF], [49]⟩]), (s, .vars [⟨[0xFE], [50]⟩])]
  let path : Path := [Path.slash, 112]
  have given : entered calls = [⟨[0xFF], [49]⟩, ⟨[0xFE], [50]⟩] := rfl
  obtain ⟨-, set, spawns, inherits⟩ := environment_build path calls [⟨[75], []⟩]
  obtain ⟨kept, one, distinct, reads, handable⟩ := set rfl
  have last : Environment.IsLast .sensitive ⟨[0xFE], [50]⟩ (entered calls) :=
    ⟨[⟨[0xFF], [49]⟩], [], given, by simp [Environment.HasKey]⟩
  have among := (kept ⟨[0xFE], [50]⟩).mpr ⟨by decide, last⟩
  have only (v : Variable) : v ∈ (built path calls).environment [⟨[75], []⟩] ↔ v = ⟨[0xFE], [50]⟩ := by
    refine ⟨fun has => ?_, fun same => same ▸ among⟩
    obtain ⟨u, -, unique⟩ := one ⟨[0xFE], [50]⟩ last.mem (by decide)
    have alike : Utf8.decode v.key = Utf8.decode [0xFE] := by
      have either := ((kept v).mp has).2.mem
      rw [given] at either
      rcases List.mem_pair.mp either with rfl | rfl <;> decide
    exact (unique v ⟨has, alike⟩).trans (unique _ ⟨among, rfl⟩).symm
  have whole : (built path calls).environment [⟨[75], []⟩] = [⟨[0xFE], [50]⟩] :=
    List.perm_singleton.mp ((List.perm_ext_iff_of_nodup distinct.of_map (List.nodup_singleton _)).mpr
      fun v => (only v).trans List.mem_singleton.symm)
  have spawnable : (Host.Kernel.lone []).Spawnable (built path calls) path [⟨[75], []⟩] [] :=
    Host.Kernel.spawnable_lone [] ((handable (by rw [given]; decide)).trans rfl) rfl rfl
      (by rw [whole]; decide) (by rw [whole]; decide)
  obtain ⟨k', spawned⟩ := spawns _ 0 path [] spawnable
  obtain ⟨p, has, environment⟩ := inherits _ 0 path [] _ _ spawned
  refine ⟨calls, _, k', path, p, rfl, rfl, spawned, has, ?_⟩
  rw [environment, reads (by rw [given]; decide), whole]

/-- A key may have a `=` behind its first octet. Then the program reads another variable from its entry,
which may have the key of one that is there. -/
theorem environment_build_ambiguous :
    ∃ (calls : List (State × Build)) (k k' : Host.Kernel Host.Program) (path : Path)
      (p : Host.Process Host.Program), touched calls ∧
      (∀ v ∈ entered calls, Command.isPlain v.key ∧ Command.isPlain v.value) ∧
      k.spawnOn 0 (built path calls) path [] [] = .ok (k.nextPid, k') ∧ k'.process? k.nextPid = some p ∧
      Environment.readEntries p.environment = [⟨[65], [120]⟩, ⟨[65], [66, 61, 99]⟩] ∧
      ⟨[65], [66, 61, 99]⟩ ∉ entered calls ∧
      ¬∃! v, v ∈ Environment.readEntries p.environment ∧ Utf8.decode v.key = Utf8.decode [65] := by
  let s : State := { world := { kernel := { files := [] } } }
  let calls : List (State × Build) :=
    [(s, .clearVars), (s, .vars [⟨[65], [120]⟩]), (s, .vars [⟨[65, 61, 66], [99]⟩])]
  let path : Path := [Path.slash, 112]
  have given : entered calls = [⟨[65], [120]⟩, ⟨[65, 61, 66], [99]⟩] := rfl
  have whole : (built path calls).environment [] = [⟨[65], [120]⟩, ⟨[65, 61, 66], [99]⟩] := by decide
  have spawnable : (Host.Kernel.lone []).Spawnable (built path calls) path [] [] :=
    Host.Kernel.spawnable_lone [] (by decide) rfl rfl (by rw [whole]; decide) (by rw [whole]; decide)
  obtain ⟨k', spawned⟩ := Host.Kernel.spawnOn_of_spawnable spawnable 0
  obtain ⟨p, has, environment⟩ := Host.Kernel.environment_spawnOn spawned
  have read : Environment.readEntries p.environment = [⟨[65], [120]⟩, ⟨[65], [66, 61, 99]⟩] := by
    rw [environment, whole]
    decide
  refine ⟨calls, _, k', path, p, rfl, by rw [given]; decide, spawned, has, read, by rw [given]; decide, ?_⟩
  rintro ⟨v, -, unique⟩
  have one := unique ⟨[65], [120]⟩ ⟨by rw [read]; decide, rfl⟩
  have two := unique ⟨[65], [66, 61, 99]⟩ ⟨by rw [read]; decide, rfl⟩
  cases one.trans two.symm

end Session.Script

end PseudoTerminal
