import PseudoTerminal.Console
import PseudoTerminal.Proofs.Terminal.Resizing

/-! How a terminal follows the size of a console. It is opened with the size that the console has then, and
the relay looks at the console anew when it begins; only what differs from that second look is passed on. So
a size that the console takes on in between, and keeps, never gets to the terminal, and that is the only one
which does not. -/

namespace PseudoTerminal

namespace Relay

/-- The size of a terminal, and the resizer that sees to it. -/
structure Following where
  terminal : WindowSize
  resizer : Resizer
  deriving DecidableEq

namespace Following

variable {opened begun size : WindowSize} {looks : List WindowSize} {f : Following}

/-- The resizer looks at the console, and sets what it finds if need be. -/
def look (f : Following) (console : WindowSize) : Following where
  terminal := (f.resizer.poll (some console)).1.getD f.terminal
  resizer := (f.resizer.poll (some console)).2

/-- Looks at a console that had one size when the terminal was opened without a size of its own, and another
one when the relay began. -/
def run (opened begun : WindowSize) (looks : List WindowSize) : Following :=
  looks.foldl look ⟨initialSize none none (some opened), ⟨some begun⟩⟩

theorem run_concat (looks : List WindowSize) (size : WindowSize) :
    run opened begun (looks ++ [size]) = (run opened begun looks).look size := by
  rw [run, List.foldl_append]
  rfl

theorem initialSize_of_isValid (valid : opened.isValid) : initialSize none none (some opened) = opened := by
  simp [initialSize, Option.filter, valid]

theorem last_look (f : Following) (size : WindowSize) : (f.look size).resizer.last = some size := by
  unfold look Resizer.poll
  split_ifs with same
  · exact same.symm
  · rfl

/-- What differs from the look before is set. -/
theorem terminal_look (f : Following) (size : WindowSize) :
    (f.look size).terminal = if some size = f.resizer.last then f.terminal else size := by
  unfold look Resizer.poll
  split_ifs <;> rfl

/-- The resizer remembers its last look. -/
theorem last_run (looks : List WindowSize) :
    (run opened begun looks).resizer.last = some (looks.getLastD begun) := by
  induction looks using List.reverseRecOn with
  | nil => rfl
  | append_singleton looks size => rw [run_concat, last_look, List.getLastD_concat]

theorem getLastD_eq_of_forall (still : ∀ s ∈ looks, s = begun) : looks.getLastD begun = begun := by
  cases looks using List.reverseRecOn with
  | nil => rfl
  | append_singleton looks size =>
    rw [List.getLastD_concat]
    exact still size (List.mem_append_right _ (List.mem_singleton_self size))

/-- As long as the console stays as the relay found it, the terminal stays as it was opened; after that it
has the size of the last look. -/
theorem terminal_run (valid : opened.isValid) (looks : List WindowSize) :
    (run opened begun looks).terminal = if ∀ s ∈ looks, s = begun then opened else looks.getLastD begun := by
  induction looks using List.reverseRecOn with
  | nil => simpa [run] using initialSize_of_isValid valid
  | append_singleton looks size ih =>
    have all_iff : (∀ s ∈ looks ++ [size], s = begun) ↔ (∀ s ∈ looks, s = begun) ∧ size = begun := by
      simp [or_imp, forall_and]
    simp only [run_concat, terminal_look, last_run, ih, List.getLastD_concat, Option.some.injEq]
    by_cases still : ∀ s ∈ looks, s = begun
    · rw [getLastD_eq_of_forall still]
      simp only [all_iff, eq_true still, true_and, if_true]
    · rw [if_neg still, if_neg fun all => still (all_iff.mp all).1]
      split
      · next same => exact same.symm
      · rfl

/-- After a look the terminal has the size of the console, unless that is still the one which the relay found
and not the one with which the terminal was opened. -/
theorem terminal_run_eq_iff (valid : opened.isValid) :
    (run opened begun (looks ++ [size])).terminal = size ↔
      ¬ (opened ≠ begun ∧ ∀ s ∈ looks ++ [size], s = begun) := by
  rw [terminal_run valid]
  split
  case isTrue still =>
    have last : size = begun := still size (List.mem_append_right _ (List.mem_singleton_self size))
    rw [last] at still ⊢
    exact ⟨fun same lost => lost.1 same, fun kept => by_contra fun differs => kept ⟨differs, still⟩⟩
  case isFalse changed =>
    rw [List.getLastD_concat]
    exact iff_of_true rfl fun lost => changed lost.2

end Following

end Relay

namespace Console

open Host (Master)
open Relay (Following)
open Session (World)

variable {m : Master} {opened begun size before : WindowSize} {looks : List WindowSize} {p q : Parties}
  {w v : World}

theorem console_serveResizer (p : Parties) (w : World) : (serveResizer p w).1.console = p.console := by
  unfold serveResizer
  split
  · rfl
  · dsimp only
    split
    · split <;> rfl
    · rfl

/-- A turn of the resizer that is due is a look, also when the program is done. -/
theorem serveResizer_eq {moment : ℕ} (there : w.masters[0]? = some m) (numbered : w.kernel.Numbered)
    (sized : m.size w.kernel = .ok before) (due : p.nextPoll = some moment) (late : moment ≤ w.clock)
    (console : p.console = some size) (valid : size.isValid) :
    (serveResizer p w).1.resizer = (Following.look ⟨before, p.resizer⟩ size).resizer ∧
      (serveResizer p w).2.masters[0]? = some m ∧
      m.size (serveResizer p w).2.kernel = .ok (Following.look ⟨before, p.resizer⟩ size).terminal := by
  have turn : (p.nextPoll.all fun moment => w.clock < moment) = false := by
    simp [due, late]
  unfold serveResizer
  rw [turn, console]
  unfold Following.look
  rcases polled : p.resizer.poll (some size) with ⟨_ | found, resizer⟩
  · simp [there, sized]
  · have same : found = size := by
      unfold Relay.Resizer.poll at polled
      split at polled <;> cases polled
      rfl
    subst same
    obtain ⟨kernel, set⟩ := Master.exists_resize sized valid
    simp [there, set, Master.size_resize numbered set]

/-- A relay from its beginning on, with the sizes that its resizer found. The terminal was opened without a
size of its own. Between the turns of the resizer anything may happen, but nobody else sets the size. -/
inductive Followed (m : Master) (opened begun : WindowSize) : List WindowSize → Parties → World → Prop
  | assembled {i : Invocation} {c : Config} {play : Option Play} {shown : Octets} {moment job : ℕ} {w : World}
      (console : i.console = some opened) (there : w.masters[0]? = some m)
      (sized : m.size w.kernel = .ok (Relay.initialSize none none i.console))
      (found : (assemble i c play shown moment job w).console = some begun) :
      Followed m opened begun [] (assemble i c play shown moment job w) w
  | meanwhile {looks : List WindowSize} {p q : Parties} {w v : World} (so_far : Followed m opened begun looks p w)
      (resizer : q.resizer = p.resizer) (there : v.masters[0]? = some m)
      (sized : m.size v.kernel = m.size w.kernel) : Followed m opened begun looks q v
  | looked {looks : List WindowSize} {size : WindowSize} {p : Parties} {w : World} {moment : ℕ}
      (so_far : Followed m opened begun looks p w) (due : p.nextPoll = some moment) (late : moment ≤ w.clock)
      (numbered : w.kernel.Numbered) (console : p.console = some size) (valid : size.isValid) :
      Followed m opened begun (looks ++ [size]) (serveResizer p w).1 (serveResizer p w).2

theorem Followed.eq_run (h : Followed m opened begun looks p w) :
    w.masters[0]? = some m ∧ m.size w.kernel = .ok (Following.run opened begun looks).terminal ∧
      p.resizer = (Following.run opened begun looks).resizer := by
  induction h with
  | assembled console there sized found =>
    refine ⟨there, ?_, ?_⟩
    · rw [sized, console]
      rfl
    · show (⟨(assemble ..).console⟩ : Relay.Resizer) = ⟨some begun⟩
      rw [found]
  | meanwhile so_far resizer there sized ih => exact ⟨there, sized.trans ih.2.1, resizer.trans ih.2.2⟩
  | looked so_far due late numbered console valid ih =>
    obtain ⟨there, sized, resizer⟩ := ih
    obtain ⟨resizer', there', sized'⟩ := serveResizer_eq there numbered sized due late console valid
    rw [resizer] at resizer' sized'
    rw [Following.run_concat]
    exact ⟨there', sized', resizer'⟩

/-- After every look the terminal has the size of the console then, but for one case: the console changed
between the opening and the beginning of the relay, and no look found it otherwise since. -/
theorem terminal_follows_iff (valid : opened.isValid)
    (h : Followed m opened begun (looks ++ [size]) p w) :
    m.size w.kernel = .ok size ↔ ¬ (opened ≠ begun ∧ ∀ s ∈ looks ++ [size], s = begun) := by
  rw [h.eq_run.2.1, Except.ok.injEq, Following.terminal_run_eq_iff valid]

/-- The console grows while the program is searched for, and keeps its size: the terminal stays small. -/
theorem terminal_follows_iff_missed :
    ∃ (m : Master) (p : Parties) (w : World), Followed m ⟨24, 80⟩ ⟨40, 50⟩ ([] ++ [⟨40, 50⟩]) p w ∧
      p.console = some ⟨40, 50⟩ ∧ m.size w.kernel ≠ .ok ⟨40, 50⟩ := by
  let i : Invocation := { (default : Invocation) with console := some ⟨24, 80⟩ }
  let play : Play := { after := [], resize := some ⟨40, 50⟩ }
  let m : Master := { device := 0 }
  let world (clock : ℕ) : World :=
    { kernel := { clock, files := [], terminals := [(0, { size := ⟨24, 80⟩ })] }, masters := [m] }
  let p := assemble i {} play [] 0 0 (world 600000)
  have begins : Followed m ⟨24, 80⟩ ⟨40, 50⟩ [] p (world 600000) := .assembled rfl rfl rfl rfl
  have waits : Followed m ⟨24, 80⟩ ⟨40, 50⟩ [] p (world 9000000) := .meanwhile begins rfl rfl rfl
  have looks := waits.looked rfl (by decide) (by decide) rfl rfl
  refine ⟨m, _, _, looks, console_serveResizer _ _, ?_⟩
  rw [Ne, terminal_follows_iff rfl looks]
  decide

end Console

end PseudoTerminal
