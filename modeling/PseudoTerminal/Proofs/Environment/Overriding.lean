import PseudoTerminal.Console
import PseudoTerminal.Proofs.Environment.Inheritance

/-! What overriding some variables leaves of the host's others. A variable of the host whose key was not
overridden is never changed, but it is left out when a key that stands for the same text with other octets
comes after it, later in the host's environment or among the overrides. Keys that are valid UTF-8 stand for
different texts, so among them no variable is lost. -/

namespace PseudoTerminal

/-! ### Overriding -/

namespace Session.Script

/-- The variables that some calls set. -/
def overridden (calls : List (State × Build)) : List Variable :=
  calls.flatMap fun call => call.2.sets?.getD []

/-- Without a call that clears, variables are set on top of the host's. -/
theorem entered_of_keeps {calls : List (State × Build)} (keeps : ∀ call ∈ calls, call.2.clears = false) :
    entered calls = firstHost calls ++ overridden calls := by
  have cleared : calls.any (fun call => call.2.clears) = false := by simpa using keeps
  have since : (calls.rtakeWhile fun call => !call.2.clears) = calls := by
    simpa [List.rtakeWhile_eq_self_iff] using keeps
  rw [entered, cleared, since, if_neg Bool.false_ne_true, overridden]

end Session.Script

namespace Console

/-- The variables that the configuration and the command line set. -/
def settings (o : Options) (config : Config) : List Variable :=
  (config.vars ++ o.vars).map fun (key, value) => ⟨Octets.ofString key, Octets.ofString value⟩

theorem vars_commandOf {o : Options} {config : Config} (given : settings o config ≠ [])
    (host : List Variable) (token : ℕ) :
    (commandOf o config host token).vars = some (host ++ settings o config) := by
  have nonempty : ¬ (settings o config).isEmpty := by simpa using given
  unfold settings at nonempty
  unfold commandOf
  simp only [if_neg nonempty]
  split <;> rfl

end Console

namespace Environment

open Session.Script (State Build built touched firstHost overridden)

/-- A command whose variables are overrides on top of a host's: calls set them and never cleared, or they
come from the configuration and the command line. -/
inductive Overrides (host : List Variable) : List Variable → Command Action ℕ → Prop
  | calls {program : Octets} {calls : List (State × Build)}
      (keeps : ∀ call ∈ calls, call.2.clears = false) (sets : touched calls)
      (copied : firstHost calls = host) : Overrides host (overridden calls) (built program calls)
  | settings {o : Options} {config : Config} {token : ℕ} (given : Console.settings o config ≠ []) :
      Overrides host (Console.settings o config) (Console.commandOf o config host token)

variable {host overrides : List Variable} {c : Command Action ℕ}

theorem Overrides.vars (h : Overrides host overrides c) : c.vars = some (host ++ overrides) := by
  cases h with
  | @calls program calls keeps sets copied =>
    rw [Session.Script.vars_built, if_pos sets, Session.Script.entered_of_keeps keeps, copied]
  | settings given => exact Console.vars_commandOf given host _

/-! ### What is spared -/

section

variable {before after : List Variable} {v : Variable} (distinct : (host.map Variable.key).Nodup)
  (shape : host = before ++ v :: after) (spared : v.key ∉ overrides.map Variable.key)

include distinct shape spared

/-- No variable after a spared one has its key. -/
theorem key_notMem_append : v.key ∉ (after ++ overrides).map Variable.key := by
  subst shape
  rw [List.map_append, List.map_cons, List.nodup_append, List.nodup_cons] at distinct
  rw [List.map_append, List.mem_append, not_or]
  exact ⟨distinct.2.1.1, spared⟩

/-- A spared variable stands at one place only. -/
theorem isLast_append_iff :
    IsLast .sensitive v (host ++ overrides) ↔ ¬ HasKey .sensitive v.key (after ++ overrides) := by
  have not_after : v ∉ after ++ overrides := fun among =>
    key_notMem_append distinct shape spared (List.mem_map_of_mem among)
  subst shape
  rw [List.map_append, List.map_cons, List.nodup_append] at distinct
  have not_before : v ∉ before := fun among =>
    distinct.2.2 v.key (List.mem_map_of_mem among) v.key List.mem_cons_self rfl
  constructor
  · rintro ⟨front, back, same, last⟩
    rw [List.append_assoc, List.cons_append] at same
    obtain ⟨-, -, rfl⟩ := (List.append_cons_inj_of_notMem not_before not_after).mp same
    exact last
  · intro last
    exact ⟨before, after ++ overrides, by rw [List.append_assoc, List.cons_append], last⟩

end

theorem eq_of_key_eq {u v : Variable} (distinct : (host.map Variable.key).Nodup) (hosted : v ∈ host)
    (spared : v.key ∉ overrides.map Variable.key) (among : u ∈ host ++ overrides)
    (same : u.key = v.key) : u = v := by
  rcases List.mem_append.mp among with among | among
  · exact List.inj_on_of_nodup_map distinct among hosted same
  · exact absurd (same ▸ List.mem_map_of_mem among) spared

/-- A variable of a host, whose keys are different and not empty, when some variables are overridden and its
own key is not among theirs. It reaches the program just when no variable after it has a key of the same
text, later on the host or among the overrides. No other variable ever takes its key, and if all keys are
valid UTF-8 it does reach the program. The program that is spawned has this environment. -/
theorem spared_reaches_iff (h : Overrides host overrides c)
    (distinct : (host.map Variable.key).Nodup) (named : ∀ v ∈ host, v.key ≠ [])
    (before after : List Variable) (v : Variable) (shape : host = before ++ v :: after)
    (spared : v.key ∉ overrides.map Variable.key) (now : List Variable) :
    (v ∈ c.environment now ↔ ∀ w ∈ after ++ overrides, Utf8.decode w.key ≠ Utf8.decode v.key) ∧
    (∀ u ∈ c.environment now, u.key = v.key → u = v) ∧
    ((∀ w ∈ host ++ overrides, w.key.toByteArray.IsValidUTF8) → v ∈ c.environment now) ∧
    ∀ k device path cwd pid k', Host.Kernel.spawnOn k device c path now cwd = .ok (pid, k') →
      ∃ p, k'.process? pid = some p ∧ p.environment = entries (c.environment now) := by
  have hosted : v ∈ host := shape ▸ List.mem_append_right _ List.mem_cons_self
  have kept (u : Variable) :
      u ∈ c.environment now ↔ u.key ≠ [] ∧ IsLast .sensitive u (host ++ overrides) :=
    (Command.environment_perm h.vars now).mem_iff.trans mem_dedup_iff
  have reaches : v ∈ c.environment now ↔
      ∀ w ∈ after ++ overrides, Utf8.decode w.key ≠ Utf8.decode v.key := by
    rw [kept, and_iff_right (named v hosted), isLast_append_iff distinct shape spared]
    simp only [HasKey, KeyCase.normalize, not_exists, not_and]
  refine ⟨reaches, fun u among same => ?_, fun valid => reaches.mpr fun w among same => ?_,
    fun _ _ _ _ _ _ => Host.Kernel.environment_spawnOn⟩
  · exact eq_of_key_eq distinct hosted spared ((kept u).mp among).2.mem same
  · have listed : w ∈ host ++ overrides := by
      rw [shape, List.append_assoc]
      exact List.mem_append_right _ (List.mem_cons_of_mem _ among)
    have octets : w.key = v.key :=
      Utf8.eq_of_decode_eq (Utf8.isValid_iff.mpr (valid w listed))
        (Utf8.isValid_iff.mpr (valid v (List.mem_append_left _ hosted))) same
    exact key_notMem_append distinct shape spared (octets ▸ List.mem_map_of_mem among)

/-- The host has a variable whose name ends in the replacement character, and another one. A key that
ends in an octet which no text has is set: the first is lost, and the second is not. -/
theorem spared_reaches_iff_replacement :
    ∃ (host : List Variable) (v w : Variable) (overrides : List Variable) (c : Command Action ℕ),
      host = [v, w] ∧ (host.map Variable.key).Nodup ∧ (∀ v ∈ host, v.key ≠ []) ∧
      Overrides host overrides c ∧ v.key ∉ overrides.map Variable.key ∧
      w.key ∉ overrides.map Variable.key ∧ v ∉ c.environment [] ∧ w ∈ c.environment [] := by
  let v : Variable := ⟨[0x21, 0xEF, 0xBF, 0xBD], [49]⟩
  let w : Variable := ⟨[0x41], [50]⟩
  let s : State := { world := { kernel := { files := [] }, vars := [v, w] } }
  let calls : List (State × Build) := [(s, .vars [⟨[0x21, 0xFF], [51]⟩])]
  have overrides : Overrides [v, w] (overridden calls) (built [] calls) :=
    .calls (by simp [calls, Session.Script.Build.clears]) rfl rfl
  have distinct : ([v, w].map Variable.key).Nodup := by decide
  have named : ∀ u ∈ [v, w], u.key ≠ [] := by simp [v, w]
  have v_spared : v.key ∉ (overridden calls).map Variable.key := by decide
  have w_spared : w.key ∉ (overridden calls).map Variable.key := by decide
  obtain ⟨v_reaches, -⟩ := spared_reaches_iff overrides distinct named [] [w] v rfl v_spared []
  obtain ⟨w_reaches, -⟩ := spared_reaches_iff overrides distinct named [v] [] w rfl w_spared []
  refine ⟨[v, w], v, w, _, _, rfl, distinct, named, overrides, v_spared, w_spared, ?_, ?_⟩
  · rw [v_reaches]
    decide
  · rw [w_reaches]
    decide

end Environment

end PseudoTerminal
