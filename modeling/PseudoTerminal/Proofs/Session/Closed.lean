import PseudoTerminal.Proofs.Session.Shutters

/-! A terminal after its first close. It stays closed, and what is asked of it is rejected before the
device is touched: transfers, sizes, control calls and spawns. Only a read without room, if it has all the
time it needs, does not look at the terminal at all; there is nothing to wait for, and it answers that. -/

namespace PseudoTerminal

open Host (Kernel Master Program)
open Terminal (Device)

/-! ### The host side -/

namespace Host.Master

variable {m : Master}

/-- Every call on a host side ends at once, and the host is as it was. -/
structure Rejects (m : Master) : Prop where
  timedRead (k : Kernel Program) (room : ℕ) (late : Bool) :
    m.readOnce k room late (Terminal.startTimedRead m.closed room) = (.finished (.error .closed), k)
  read (k : Kernel Program) (room : ℕ) (late : Bool) :
    m.readOnce k room late (Terminal.startRead m.closed room) =
      (.finished (if room = 0 then .ok (some []) else .error .closed), k)
  write (k : Kernel Program) (data : Octets) :
    m.writeOnce k data (Terminal.startWrite m.closed data) = (.finished (.error .closed), k)
  resize (k : Kernel Program) (size : WindowSize) (valid : size.isValid) :
    m.resize k size = .error .closed
  control {α : Type} (k : Kernel Program) (f : Device → α) : m.control k f = .error .closed
  close (k : Kernel Program) : m.close k = (m, k)

theorem rejects_of_closed (closed : m.closed = true) : m.Rejects where
  timedRead k room late := by
    rw [Terminal.startTimedRead, if_pos closed]
    rfl
  read k room late := by
    rw [Terminal.startRead, if_pos closed]
    split <;> rfl
  write k data := by
    rw [Terminal.startWrite, if_pos closed]
    rfl
  resize k size valid := by simp [resize, valid, control, closed, Except.map]
  control k f := by simp [control, closed]
  close k := if_pos closed

end Host.Master

namespace Session

namespace World

variable {w : World} {i : ℕ}

theorem isShut_iff : w.IsShut i ↔ ∃ m, w.masters[i]? = some m ∧ m.closed = true := by
  rw [IsShut, shutters, List.getElem?_map, Option.map_eq_some_iff]

/-- Nothing is spawned on a closed terminal. -/
theorem launchpad_spawn_of_isShut (shut : w.IsShut i) (c : Command Action ℕ) (path : Octets) :
    (launchpad i c).spawn w path = .error .closed := by
  obtain ⟨m, there, closed⟩ := isShut_iff.mp shut
  simp [launchpad, there, closed]

theorem start_of_isShut (shut : w.IsShut i) (c : Command Action ℕ) {l : Lifecycle}
    (idle : l.phase = .idle) : w.start i c l = (.error .closed, l, w) := by
  obtain ⟨m, there, closed⟩ := isShut_iff.mp shut
  simp [start, startWith, Lifecycle.start, idle, launchpad, there, closed]

end World

/-! ### Steps of a script -/

namespace Script.State

variable {s : State} {i : ℕ} {name : String}

/-- What steps make of a state. -/
def after (s : State) (steps : List Step) : State := steps.foldl (fun s step => (s.perform step).2) s

theorem isShut_after (shut : s.world.IsShut i) (steps : List Step) : (s.after steps).world.IsShut i := by
  induction steps generalizing s with
  | nil => exact shut
  | cons step steps ih => exact ih (isShut_perform shut step)

/-- A call that ends without the device leaves the world to itself. -/
theorem attempt_of_rejected {α : Type} {own : World → List ℕ} {answer : α → Answer} {a : α}
    {f : Master → World → Option α × World} (shut : s.world.IsShut i)
    (rejected : ∀ m w, m.closed = true → f m w = (some a, w)) :
    s.attempt i own answer f = (answer a, { s with world := s.world.settle.settle }) := by
  have settled : s.world.settle.IsShut i := isShut_of_shutters (World.shutters_settle _) shut
  obtain ⟨m, there, closed⟩ := World.isShut_iff.mp settled
  unfold attempt
  rw [World.run_of_some (a := a) (v := s.world.settle)]
  rw [there]
  exact rejected m _ closed

/-- The state after a call in which the device has no part: its jobs may have gone on. -/
def rested (s : State) : State := { s with world := s.world.settle.settle }

/-- Every step that asks something of a terminal answers that it is closed. -/
structure Rejects (s : State) (name : String) : Prop where
  isClosed : s.perform (.isClosed name) = (.truth true, s)
  timedRead (room d : ℕ) :
    s.perform (.read name room (some d)) = (.error (.transferring .closed), s.rested)
  read (room : ℕ) :
    s.perform (.read name room none) =
      (if room = 0 then .octets [] else .error (.transferring .closed), s.rested)
  write (data : Octets) : s.perform (.write name data) = (.error (.transferring .closed), s.rested)
  resize (size : WindowSize) (valid : size.isValid) :
    s.perform (.resize name size) = (.error (.resizing .closed), s)
  size : s.perform (.size name) = (.error (.resizing .closed), s)
  control : s.perform (.control name) = (.error (.resizing .closed), s)
  close : s.perform (.close name) = (.done, { s with world := s.world.settle })

theorem rejects_of_isShut (shut : s.world.IsShut i) (bound : s.terminals.lookup name = some i) :
    s.Rejects name := by
  obtain ⟨m, there, closed⟩ := World.isShut_iff.mp shut
  have rejects := Master.rejects_of_closed closed
  have inside := (List.getElem?_eq_some_iff.mp there).1
  have reached (f : ℕ → Master → Answer × State) : s.withTerminal name f = f i m := by
    have found : s.master? name = some (i, m) := by
      rw [master?, bound]
      simp [there]
    rw [withTerminal, found]
  constructor
  case isClosed => rw [perform, reached, closed]
  case timedRead =>
    intro room d
    rw [perform, reached, State.read, closed, Terminal.startTimedRead, if_pos rfl]
    exact attempt_of_rejected shut fun _ _ _ => rfl
  case read =>
    intro room
    rw [perform, reached, State.read, closed, Terminal.startRead]
    split
    case isTrue => exact attempt_of_rejected shut fun _ _ _ => rfl
    case isFalse => exact attempt_of_rejected shut fun _ _ _ => rfl
  case write =>
    intro data
    rw [perform, reached, closed, Terminal.startWrite, if_pos rfl]
    exact attempt_of_rejected shut fun _ _ _ => rfl
  case resize =>
    intro size valid
    rw [perform, reached, rejects.resize _ size valid]
  case size => rw [perform, reached, Master.size, rejects.control]
  case control => rw [perform, reached, rejects.control]
  case close =>
    have same : s.world.masters.set i m = s.world.masters := by
      rw [← (List.getElem?_eq_some_iff.mp there).2]
      exact List.set_getElem_self inside
    rw [perform, reached, closeTerminal, there]
    simp only [rejects.close, World.setMaster, same]

/-- Once a terminal was closed, it is closed whatever comes after, and rejects every call. The host side
of it has no business with the device any more, nothing is spawned on it and no command is started. The
exception is a read without time limit that has no room for data: it gets no data, as on an open terminal. -/
theorem closed_for_good {pty : String} {m : Master} (opened : s.master? pty = some (i, m))
    (more : List Step) :
    let t := (s.perform (.close pty)).2.after more
    (∃ now, t.world.masters[i]? = some now ∧ now.closed = true ∧ now.Rejects) ∧
      (∀ name, t.terminals.lookup name = some i → t.Rejects name) ∧
      (∀ c path, (World.launchpad i c).spawn t.world path = .error .closed) ∧
      ∀ cmd e, t.commands.lookup cmd = some e → e.terminal = i → e.life.phase = .idle →
        t.perform (.start cmd) = (.error (.starting .closed), t.setEntry cmd e) := by
  intro t
  have there : s.world.masters[i]? = some m := by
    simp only [master?, Option.bind_eq_bind, Option.bind_eq_some_iff, Option.pure_def, Option.some_inj,
      Prod.mk.injEq] at opened
    obtain ⟨j, -, m', there, rfl, rfl⟩ := opened
    exact there
  have shut : t.world.IsShut i := by
    refine isShut_after ?_ more
    rw [perform, withTerminal, opened, World.IsShut, shutters_closeTerminal, List.getElem?_set_self]
    simpa [World.shutters] using (List.getElem?_eq_some_iff.mp there).1
  obtain ⟨now, isNow, closed⟩ := World.isShut_iff.mp shut
  refine ⟨⟨now, isNow, closed, Master.rejects_of_closed closed⟩, fun name => rejects_of_isShut shut,
    World.launchpad_spawn_of_isShut shut, ?_⟩
  rintro cmd e found rfl idle
  have refused : e.start t.world = (.error .closed, e, t.world) := by
    have closed := World.start_of_isShut shut e.command idle
    rw [World.start] at closed
    rw [Entry.start, Entry.startWith, closed]
  rw [perform, withCommand, found]
  simp only [State.start, refused]

/-- On a closed terminal, reads without room differ: the one with a time limit is rejected, the other one
gets no data. -/
theorem closed_for_good_no_room :
    let s : State := {
      world := { kernel := { files := [], terminals := [(0, {})] }, masters := [{ device := 0 }] }
      terminals := [("p", 0)] }
    let t := (s.perform (.close "p")).2.after [.openTerminal "q" {}, .isClosed "p", .close "p"]
    s.master? "p" = some (0, { device := 0 }) ∧
      (t.perform (.read "p" 0 none)).1 = .octets [] ∧
      (t.perform (.read "p" 0 (some 5))).1 = .error (.transferring .closed) ∧
      (t.perform (.write "p" [])).1 = .error (.transferring .closed) := by
  intro s t
  have opened : s.master? "p" = some (0, { device := 0 }) := rfl
  obtain ⟨-, rejects, -, -⟩ := closed_for_good opened [.openTerminal "q" {}, .isClosed "p", .close "p"]
  have calls := rejects "p" rfl
  exact ⟨opened, congrArg Prod.fst (calls.read 0), congrArg Prod.fst (calls.timedRead 0 5),
    congrArg Prod.fst (calls.write [])⟩

end Script.State

end Session

end PseudoTerminal
