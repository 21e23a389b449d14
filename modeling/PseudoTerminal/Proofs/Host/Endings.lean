import Mathlib.Tactic
import PseudoTerminal.Host.Launch

/-! What has ended stays so. Signals, burials and the taking of an end need no time, and they give life to no
process; so a child that has ended never looks alive to its handle again, while its host's clock stands. -/

namespace PseudoTerminal.Host

namespace Process

variable {π : Type} {p : Process π}

theorem isBeyond_of_hasEnded (ended : p.hasEnded) : p.isBeyond := by
  unfold hasEnded at ended
  unfold isBeyond
  split at ended
  case h_1 kind same => rw [same]
  case h_2 => cases ended

end Process

namespace Kernel

variable {π : Type} {k l m : Kernel π} {pid n : ℕ}

/-- A kernel comes out of another one in no time, and no process came to life. -/
structure Withers (k l : Kernel π) : Prop where
  clock : l.clock = k.clock
  processes : ∀ q ∈ l.processes, ∃ p ∈ k.processes, p.pid = q.pid ∧ (p.hasEnded → q.hasEnded)

/-- No process of that number lives. -/
def IsOver (k : Kernel π) (pid : ℕ) : Prop := ∀ p ∈ k.processes, p.pid = pid → p.hasEnded

theorem IsOver.withers (gone : k.IsOver pid) (withers : k.Withers l) : l.IsOver pid := by
  rintro q among rfl
  obtain ⟨p, among, same, ends⟩ := withers.processes q among
  exact ends (gone p among same)

namespace Withers

theorem of_subset (clock : l.clock = k.clock) (fewer : ∀ p ∈ l.processes, p ∈ k.processes) : k.Withers l :=
  ⟨clock, fun q among => ⟨q, fewer q among, rfl, id⟩⟩

theorem of_eq (clock : l.clock = k.clock) (same : l.processes = k.processes) : k.Withers l :=
  of_subset clock fun _ among => same ▸ among

theorem refl (k : Kernel π) : k.Withers k := of_eq rfl rfl

theorem trans (first : k.Withers l) (second : l.Withers m) : k.Withers m := by
  refine ⟨second.clock.trans first.clock, fun r among => ?_⟩
  obtain ⟨q, among, pid, ends⟩ := second.processes r among
  obtain ⟨p, among, pid', ends'⟩ := first.processes q among
  exact ⟨p, among, pid'.trans pid, fun ended => ends (ends' ended)⟩

theorem of_map {f : Process π → Process π} (clock : l.clock = k.clock)
    (mapped : l.processes = k.processes.map f) (pid : ∀ p, (f p).pid = p.pid)
    (ends : ∀ p, p.hasEnded → (f p).hasEnded) : k.Withers l := by
  refine ⟨clock, fun q among => ?_⟩
  rw [mapped] at among
  obtain ⟨p, from', rfl⟩ := List.mem_map.mp among
  exact ⟨p, from', (pid p).symm, ends p⟩

/-- What goes through a list goes on from where the last step led. -/
theorem foldl {α : Type} {f : Kernel π → α → Kernel π} (step : ∀ (k : Kernel π) a, k.Withers (f k a))
    (as : List α) (k : Kernel π) : k.Withers (as.foldl f k) := by
  induction as generalizing k with
  | nil => exact refl k
  | cons a as ih => exact (step k a).trans (ih _)

end Withers

/-! ### Signals and ends -/

theorem withers_update {f : Process π → Process π} (same : ∀ p, (f p).pid = p.pid)
    (ends : ∀ p, p.hasEnded → (f p).hasEnded) (k : Kernel π) (pid : ℕ) : k.Withers (k.update pid f) := by
  refine .of_map rfl rfl (fun p => ?_) (fun p ended => ?_)
  · split
    · exact same p
    · rfl
  · split
    · exact ends p ended
    · exact ended

theorem withers_setTerminal (k : Kernel π) (number : ℕ) (d : Terminal.Device) :
    k.Withers (k.setTerminal number d) := .of_eq rfl rfl

theorem postTo_of_hasEnded {p : Process π} (ended : p.hasEnded) (s : Signal) (orphaned : Bool) :
    postTo p s orphaned = p := if_pos (Process.isBeyond_of_hasEnded ended)

theorem pid_postTo (p : Process π) (s : Signal) (orphaned : Bool) : (postTo p s orphaned).pid = p.pid := by
  unfold postTo
  extract_lets q
  have same : q.pid = p.pid := by
    dsimp only [q]
    split_ifs <;> rfl
  cases s.reaction with
  | ignore | resume | stop | terminate =>
    dsimp only
    split_ifs
    all_goals first | rfl | exact same

theorem wakeUp_of_hasEnded {p : Process π} (ended : p.hasEnded) : wakeUp p = p := by
  unfold Process.hasEnded at ended
  split at ended
  case h_1 kind same => simp [wakeUp, same]
  case h_2 => cases ended

theorem pid_wakeUp (p : Process π) : (wakeUp p).pid = p.pid := by
  unfold wakeUp
  split
  case isTrue => split <;> rfl
  case isFalse => rfl

section

variable {post : Kernel π → ℕ → Signal → Kernel π}
  (posts : ∀ (k : Kernel π) group s, k.Withers (post k group s))
include posts

theorem withers_releaseOrphans (k : Kernel π) (children : List (Process π)) :
    k.Withers (k.releaseOrphans children post) := by
  refine .foldl (fun k group => ?_) _ k
  dsimp only
  split
  · exact (posts _ _ _).trans (posts _ _ _)
  · exact .refl k

theorem withers_bury (k : Kernel π) (pid : ℕ) : k.Withers (k.bury pid post) := by
  unfold bury
  split
  case h_1 => exact .refl k
  case h_2 p _ =>
    extract_lets left children survivors buried released hungUp
    have survived : k.Withers buried := by
      refine ⟨rfl, fun q among => ?_⟩
      obtain ⟨p, from', rfl⟩ := List.mem_map.mp (List.mem_filter.mp among).1
      refine ⟨p, from', ?_, fun ended => ?_⟩
      all_goals
        dsimp only [left]
        split_ifs
        all_goals first | rfl | exact ended
    have orphans : buried.Withers released := withers_releaseOrphans posts buried children
    have foreground : released.Withers hungUp := by
      dsimp only [hungUp]
      split
      case isTrue => exact .refl released
      case isFalse =>
        split
        case h_1 => exact .refl released
        case h_2 t d _ =>
          have freed := withers_setTerminal released t { d with session := none, foreground := none }
          split
          case h_1 => exact freed
          case h_2 group _ =>
            split
            case isTrue => exact (freed.trans (posts _ _ _)).trans (posts _ _ _)
            case isFalse => exact freed.trans (posts _ _ _)
    refine ((survived.trans orphans).trans foreground).trans (withers_update ?_ ?_ _ _)
    · exact fun q => pid_postTo q _ _
    · exact fun q ended => (postTo_of_hasEnded ended _ _).symm ▸ ended

end

/-- A signal may end processes, and their ends may send signals in turn. -/
theorem withers_deliver (k : Kernel π) (chosen : Process π → Bool) (s : Signal) (fuel : ℕ) :
    k.Withers (k.deliver chosen s fuel) := by
  induction fuel generalizing k chosen s with
  | zero => exact .refl k
  | succ fuel ih =>
    unfold deliver
    extract_lets live reach hit
    have reached : k.Withers hit := by
      refine .of_map rfl rfl (fun p => ?_) (fun p ended => ?_)
      · split
        case isTrue => exact (pid_wakeUp _).trans (pid_postTo _ _ _)
        case isFalse => rfl
      · have still : reach p = p := by
          rw [show reach p = wakeUp (postTo p s _) from rfl, postTo_of_hasEnded ended,
            wakeUp_of_hasEnded ended]
        rwa [still, ite_self]
    refine reached.trans (.foldl (fun k p => ?_) live hit)
    split
    case h_1 q _ =>
      split
      case isTrue => exact withers_bury (fun k group s => ih k _ s) k p.pid
      case isFalse => exact .refl k
    case h_2 => exact .refl k

theorem withers_interrupt (k : Kernel π) (s : Signal) : k.Withers (k.interrupt s) := by
  unfold interrupt
  split
  · exact .of_eq rfl rfl
  · exact .refl k

theorem withers_send {sender : ℕ} {target : ℤ} {s : Signal} (sent : k.send sender target s = .ok l) :
    k.Withers l := by
  unfold send at sent
  extract_lets own concerned at sent
  split_ifs at sent
  all_goals cases sent
  · exact .refl k
  · exact withers_interrupt k s
  · exact .refl k
  · exact withers_deliver k _ s _

theorem withers_reap (k : Kernel π) (parent : ℕ) (child : Option ℕ) : k.Withers (k.reap parent child).2 := by
  unfold reap
  dsimp only
  split
  case h_1 p _ =>
    split
    case h_1 => exact .of_subset rfl fun q among => (List.mem_filter.mp among).1
    case h_2 => exact .refl k
  case h_2 => exact .refl k

end Kernel

/-! ### What is done by a handle -/

open Child (Custody Handle)

/-- A call by a handle keeps to its child, and it wakes no process up. -/
def Minds {α : Type}
    (f : Custody (Kernel Program) → Handle → Kernel Program → α × Handle × Kernel Program) : Prop :=
  ∀ h k, (f (custody h.pid) h k).2.1.pid = h.pid ∧ k.Withers (f (custody h.pid) h k).2.2

theorem minds_tryWait : Minds fun c h k => h.tryWait c k := by
  intro h k
  dsimp only [Handle.tryWait]
  split
  case h_1 => exact ⟨rfl, .refl k⟩
  case h_2 =>
    split
    case h_1 => exact ⟨rfl, .refl k⟩
    case h_2 => exact ⟨rfl, Kernel.withers_reap k _ _⟩
    case h_3 => exact ⟨rfl, .refl k⟩

theorem minds_wait : Minds fun c h k => h.wait? c k := by
  intro h k
  have looked := minds_tryWait h k
  dsimp only [Handle.wait?]
  split
  case h_1 => exact ⟨rfl, .refl k⟩
  case h_2 => exact ⟨rfl, .refl k⟩
  case h_3 =>
    dsimp only at looked
    generalize h.tryWait (custody h.pid) k = r at looked ⊢
    obtain ⟨f | kind | _, h', k'⟩ := r <;> exact looked

theorem withers_sent (pid : ℕ) (k : Kernel Program) (s : Signal) :
    k.Withers ((custody pid).signalGroup k s).2 ∧ k.Withers ((custody pid).signalAlone k s).2 := by
  constructor
  all_goals
    dsimp only [custody]
    split
    case h_1 sent => exact Kernel.withers_send sent
    case h_2 => exact .refl k

theorem minds_signal (s : Signal) : Minds fun c h k => h.signal c k s := by
  intro h k
  have looked := minds_tryWait h k
  dsimp only [Handle.signal] at looked ⊢
  generalize h.tryWait (custody h.pid) k = r at looked ⊢
  obtain ⟨f | kind | _, h', k'⟩ := r
  case error => exact looked
  case ok.some => exact looked
  case ok.none =>
    refine ⟨looked.1, looked.2.trans ?_⟩
    have group := (withers_sent h.pid k' s).1
    dsimp only [Handle.deliver]
    split
    case h_1 sent =>
      rw [sent] at group
      exact group
    case h_2 failed =>
      rw [failed] at group
      exact group.trans (withers_sent h.pid _ s).2

theorem minds_kill : Minds fun c h k => h.kill c k := minds_signal Signal.kill

/-- A child that has ended does not look alive. -/
theorem standing_ne_running {k : Kernel Program} {pid : ℕ} (gone : k.IsOver pid) :
    (custody pid).standing k ≠ .running := by
  dsimp only [custody]
  split
  case h_1 => nofun
  case h_2 p found =>
    have ended := gone p (List.mem_of_find?_eq_some found) (by simpa using List.find?_some found)
    cases same : p.condition with
    | ended kind => nofun
    | _ => simp [Process.hasEnded, same] at ended

end PseudoTerminal.Host
