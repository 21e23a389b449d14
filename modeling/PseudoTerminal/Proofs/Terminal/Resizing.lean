import Mathlib.Tactic
import PseudoTerminal.Host.Master

/-! The sizes of the terminals of a host. Signals and the ends that they bring about leave them alone, and so
a size that was set is the size that is asked for next. -/

namespace PseudoTerminal.Host

open Terminal (Device)

variable {π : Type} {k l : Kernel π}

namespace Kernel

/-- The sizes of the terminals, by number. -/
def sizes (k : Kernel π) : List (ℕ × WindowSize) := k.terminals.map (Prod.map id Device.size)

/-- No two terminals have the same number. -/
def Numbered (k : Kernel π) : Prop := (k.sizes.map Prod.fst).Nodup

instance (k : Kernel π) : Decidable k.Numbered := inferInstanceAs (Decidable (List.Nodup _))

theorem lookup_sizes (k : Kernel π) (n : ℕ) : k.sizes.lookup n = (k.terminal? n).map Device.size := by
  unfold sizes terminal?
  induction k.terminals with
  | nil => rfl
  | cons e rest ih =>
    rw [List.map_cons, List.lookup_cons, List.lookup_cons, ih]
    show (match n == e.1 with | true => some e.2.size | false => _) = _
    cases n == e.1 <;> rfl

theorem Numbered.of_sizes (numbered : k.Numbered) (same : l.sizes = k.sizes) : l.Numbered := by
  rw [Numbered, same]
  exact numbered

/-- The terminals that are found under a number are one. -/
theorem eq_of_mem (numbered : k.Numbered) {n : ℕ} {d e : Device} (one : (n, d) ∈ k.terminals)
    (two : (n, e) ∈ k.terminals) : d = e := by
  have distinct : (k.terminals.map Prod.fst).Nodup := by
    simpa [Numbered, sizes, Function.comp_def] using numbered
  exact congrArg Prod.snd (List.inj_on_of_nodup_map distinct one two rfl)

/-- What else a terminal does leaves its size alone. -/
theorem sizes_setTerminal (numbered : k.Numbered) {n : ℕ} {d d' : Device} (found : (n, d) ∈ k.terminals)
    (same : d'.size = d.size) : (k.setTerminal n d').sizes = k.sizes := by
  unfold sizes setTerminal
  rw [List.map_map]
  refine List.map_congr_left ?_
  rintro ⟨m, e⟩ among
  by_cases here : m = n
  · subst here
    simp [same, eq_of_mem numbered among found]
  · simp [here]

/-- What follows from step to step in a fold. -/
theorem sizes_foldl {α : Type} {f : Kernel π → α → Kernel π}
    (step : ∀ k a, k.Numbered → (f k a).sizes = k.sizes) (as : List α) (numbered : k.Numbered) :
    (as.foldl f k).sizes = k.sizes := by
  induction as generalizing k with
  | nil => rfl
  | cons a as ih =>
    have once := step k a numbered
    rw [List.foldl_cons, ih (numbered.of_sizes once), once]

/-! ### Signals -/

/-- A way to signal to a group that leaves the sizes alone. -/
def Spares (post : Kernel π → ℕ → Signal → Kernel π) : Prop :=
  ∀ k group s, k.Numbered → (post k group s).sizes = k.sizes

/-- Two signals, one after the other. -/
theorem Spares.twice {post : Kernel π → ℕ → Signal → Kernel π} (spares : Spares post)
    (numbered : k.Numbered) (group : ℕ) (s s' : Signal) :
    (post (post k group s) group s').sizes = k.sizes := by
  have once := spares k group s numbered
  rw [spares _ _ _ (numbered.of_sizes once), once]

theorem sizes_releaseOrphans {post : Kernel π → ℕ → Signal → Kernel π} (spares : Spares post)
    (numbered : k.Numbered) (children : List (Process π)) :
    (k.releaseOrphans children post).sizes = k.sizes := by
  refine sizes_foldl (fun k group numbered => ?_) _ numbered
  dsimp only
  split
  · exact spares.twice numbered group _ _
  · rfl

theorem sizes_bury {post : Kernel π → ℕ → Signal → Kernel π} (spares : Spares post) (numbered : k.Numbered)
    (pid : ℕ) : (k.bury pid post).sizes = k.sizes := by
  unfold bury
  split
  case h_1 => rfl
  case h_2 p found =>
    dsimp only
    generalize released : Kernel.releaseOrphans _ _ post = l
    have same : l.sizes = k.sizes := by
      rw [← released]
      refine (sizes_releaseOrphans spares ?_ _).trans ?_
      · exact numbered
      · rfl
    rw [← same]
    replace numbered : l.Numbered := numbered.of_sizes same
    show Kernel.sizes (if p.session != pid then l else _) = _
    split
    case isTrue => rfl
    case isFalse =>
      split
      case h_1 => rfl
      case h_2 n d leads =>
        have cleared : (l.setTerminal n { d with session := none, foreground := none }).sizes = l.sizes :=
          sizes_setTerminal numbered (List.mem_of_find?_eq_some leads) rfl
        have still := numbered.of_sizes cleared
        split
        case h_1 => exact cleared
        case h_2 group _ =>
          split
          case isTrue => rw [spares.twice still, cleared]
          case isFalse => rw [spares _ _ _ still, cleared]

theorem sizes_deliver (numbered : k.Numbered) (chosen : Process π → Bool) (s : Signal) (fuel : ℕ) :
    (k.deliver chosen s fuel).sizes = k.sizes := by
  induction fuel generalizing k chosen s with
  | zero => rfl
  | succ fuel ih =>
    refine sizes_foldl (fun k p numbered => ?_) _ numbered
    split
    case h_1 q found =>
      split
      case isTrue => exact sizes_bury (fun k group s numbered => ih numbered _ _) numbered _
      case isFalse => rfl
    case h_2 => rfl

theorem sizes_signalForeground (numbered : k.Numbered) (d : Device) (signals : List Signal) :
    (k.signalForeground d signals).sizes = k.sizes := by
  unfold signalForeground
  split
  · exact sizes_foldl (fun k s numbered => sizes_deliver numbered _ _ _) signals numbered
  · rfl

/-! ### Resizing -/

theorem Numbered.setTerminal (numbered : k.Numbered) (n : ℕ) (d : Device) : (k.setTerminal n d).Numbered := by
  have numbers : (k.setTerminal n d).sizes.map Prod.fst = k.sizes.map Prod.fst := by
    unfold sizes Kernel.setTerminal
    simp only [List.map_map]
    refine List.map_congr_left fun e _ => ?_
    by_cases here : e.1 = n <;> simp [here]
  rw [Numbered, numbers]
  exact numbered

theorem terminal?_setTerminal {n : ℕ} (there : (k.terminal? n).isSome) (d : Device) :
    (k.setTerminal n d).terminal? n = some d := by
  unfold Kernel.terminal? at there ⊢
  unfold Kernel.setTerminal
  generalize k.terminals = terminals at there
  induction terminals with
  | nil => cases there
  | cons e rest ih =>
    rw [List.lookup_cons] at there
    rw [List.map_cons, List.lookup_cons]
    by_cases here : e.1 = n
    · simp [here]
    · have other : (n == e.1) = false := beq_false_of_ne (Ne.symm here)
      rw [other] at there
      simpa [here, other] using ih there

/-- A terminal that is there has the size that it was resized to. -/
theorem size_resizeTerminal (numbered : k.Numbered) {n : ℕ} (there : (k.terminal? n).isSome)
    (size : WindowSize) : ((k.resizeTerminal n size).terminal? n).map Device.size = some size := by
  obtain ⟨d, found⟩ := Option.isSome_iff_exists.mp there
  have set := terminal?_setTerminal there (d.resize size).2
  have spared (signals : List Signal) (d' : Device) :=
    sizes_signalForeground (numbered.setTerminal n (d.resize size).2) d' signals
  rw [← lookup_sizes, resizeTerminal, found]
  dsimp only
  split
  case isTrue =>
    rw [spared, lookup_sizes, set]
    rfl
  case isFalse =>
    rw [lookup_sizes, set]
    rfl

end Kernel

namespace Master

variable {m : Master} {size : WindowSize}

/-- A size that was set is the size that is asked for next. -/
theorem size_resize (numbered : k.Numbered) (set : m.resize k size = .ok l) : m.size l = .ok size := by
  unfold resize control at set
  split at set
  case isTrue => cases set
  case isFalse =>
    split at set
    case h_1 d opened found =>
      cases set
      have sized := Kernel.size_resizeTerminal numbered (Option.isSome_of_mem found) size
      obtain ⟨e, there, rfl⟩ := Option.map_eq_some_iff.mp sized
      rw [Master.size, control, opened, there]
    case h_2 => cases set

/-- A terminal that is open can be resized. -/
theorem exists_resize {before : WindowSize} (sized : m.size k = .ok before) (valid : size.isValid) :
    ∃ l, m.resize k size = .ok l := by
  unfold Master.size control at sized
  split at sized
  case h_1 d opened found =>
    refine ⟨k.resizeTerminal m.device size, ?_⟩
    simp [resize, control, valid, opened, found, Except.map]
  case h_2 => cases sized

end Master

end PseudoTerminal.Host
