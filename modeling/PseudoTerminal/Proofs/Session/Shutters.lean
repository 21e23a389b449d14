import PseudoTerminal.Proofs.Session.Settling
import PseudoTerminal.Session.Script

/-! Which terminals are closed. Jobs, tokens, starts and transfers leave that alone, however long the world
goes on; a step of a script opens terminals or closes them, and a closed one stays closed. -/

namespace PseudoTerminal.Session

open Host (Master)

namespace World

/-- Which terminals are closed. -/
def shutters (w : World) : List Bool := w.masters.map Master.closed

def IsShut (i : ℕ) (w : World) : Prop := w.shutters[i]? = some true

variable {w v : World} {i : ℕ} {j : Job}

theorem shutters_setMaster {m m' : Master} (there : w.masters[i]? = some m)
    (same : m'.closed = m.closed) : (w.setMaster i m').shutters = w.shutters := by
  obtain ⟨inside, rfl⟩ := List.getElem?_eq_some_iff.mp there
  rw [shutters, setMaster, List.map_set, same, ← List.getElem_map Master.closed]
  · exact List.set_getElem_self _
  · simpa using inside

/-! ### Tokens and jobs -/

@[simp] theorem masters_setJob (w : World) (i : ℕ) (j : Job) : (w.setJob i j).masters = w.masters := rfl

@[simp] theorem masters_tell (w : World) (i : ℕ) : (w.tell i).masters = w.masters := by
  unfold tell
  split <;> rfl

@[simp] theorem masters_cancel (w : World) (token : ℕ) : (w.cancel token).masters = w.masters :=
  cancel_induction (P := fun v => v.masters = w.masters) (fun _ _ => id)
    (fun v i same => (masters_tell v i).trans same) token rfl

@[simp] theorem masters_register (w : World) (i token : ℕ) :
    (w.register i token).masters = w.masters := by
  unfold register
  split
  case h_1 =>
    split
    case h_1 => rfl
    case h_2 => exact masters_tell w i
  case h_2 => rfl

@[simp] theorem masters_unregister (w : World) (i : ℕ) : (w.unregister i).masters = w.masters := by
  unfold unregister
  split
  case h_1 =>
    split
    case h_1 =>
      dsimp only
      split <;> rfl
    case h_2 => rfl
  case h_2 => rfl

@[simp] theorem masters_attach (w : World) (terminal pid : ℕ) (c : Command Action ℕ) :
    (w.attach terminal pid c).2.masters = w.masters := by
  unfold attach
  split
  case h_1 => exact masters_register _ _ _
  case h_2 => rfl

@[simp] theorem masters_conclude (w : World) (i : ℕ) (j : Job) (result : Except Fault ExitState) :
    (w.conclude i j result).masters = w.masters := masters_unregister _ i

@[simp] theorem masters_settleReached (w : World) (i : ℕ) (j : Job) (result : Except Fault Unit) :
    (w.settleReached i j result).masters = w.masters := by
  unfold settleReached
  split
  case h_1 | h_3 => rfl
  case h_2 => exact masters_conclude _ _ _ _

@[simp] theorem masters_comply (w : World) (i : ℕ) (j : Job) (demand : Watch.Demand) :
    (w.comply i j demand).masters = w.masters := by
  cases demand with
  | listen | act | killInstead => rfl
  | kill => exact masters_settleReached _ _ _ _
  | finish result => exact masters_conclude w i j result

@[simp] theorem masters_noteStatus (w : World) (status : Except Fault (Option ExitKind)) :
    (w.noteStatus status).masters = w.masters := by
  cases status <;> rfl

theorem masters_act {pause : Option Pause} {action : Action} (acted : w.act i j pause action = some v) :
    v.masters = w.masters := by
  cases action with
  | nil =>
    cases acted
    exact masters_settleReached _ _ _ _
  | cons move rest =>
    cases move with
    | signal s =>
      simp only [act] at acted
      split at acted
      case isTrue =>
        split at acted
        case h_1 =>
          cases acted
          rfl
        case h_2 =>
          cases acted
          exact masters_settleReached _ _ _ _
      case isFalse =>
        cases acted
        exact masters_settleReached _ _ _ _
    | noteId =>
      cases acted
      rfl
    | noteStatus =>
      cases acted
      exact masters_noteStatus _ _
    | noteEnd =>
      obtain ⟨result, -, rfl⟩ := Option.map_eq_some_iff.mp acted
      exact masters_noteStatus _ _
    | noteEndWithin duration =>
      simp only [act] at acted
      split at acted
      case h_1 =>
        cases acted
        exact masters_conclude _ _ _ _
      case h_2 =>
        split at acted
        case isTrue => cases acted
        case isFalse =>
          split at acted
          case h_1 =>
            cases acted
            rfl
          case h_2 =>
            split at acted
            case h_1 =>
              cases acted
              exact masters_noteStatus _ _
            case h_2 =>
              cases acted
              rfl
    | fail f =>
      cases acted
      exact masters_settleReached _ _ _ _
    | breakDown =>
      cases acted
      exact masters_conclude _ _ _ _

theorem masters_stepWatcher (stepped : w.stepWatcher i j = some v) : v.masters = w.masters := by
  unfold stepWatcher at stepped
  split at stepped
  case h_1 => cases stepped
  case h_2 => exact masters_act stepped
  case h_3 =>
    split at stepped
    case h_1 =>
      cases stepped
      exact masters_comply _ _ _ _
    case h_2 =>
      split at stepped
      case isTrue =>
        cases stepped
        exact masters_conclude _ _ _ _
      case isFalse =>
        split at stepped
        case isTrue =>
          cases stepped
          rfl
        case isFalse => cases stepped

/-- A reaper gives the lease of its terminal back, and that is all that a job does to a terminal. -/
theorem shutters_stepJob (stepped : w.stepJob i = some v) : v.shutters = w.shutters := by
  have watched {j : Job} (stepped : w.stepWatcher i j = some v) : v.shutters = w.shutters := by
    rw [shutters, masters_stepWatcher stepped, shutters]
  simp only [stepJob, bind, Option.bind_eq_some_iff] at stepped
  obtain ⟨j, -, stepped⟩ := stepped
  split at stepped
  case isTrue => exact watched stepped
  case isFalse =>
    split at stepped
    case h_1 result j' w' reaped =>
      have same : w'.masters = w.masters := congrArg (·.2.2.masters) reaped.symm
      cases stepped
      rw [← show w'.shutters = w.shutters by rw [shutters, same, shutters]]
      split
      case h_1 m there => exact shutters_setMaster there rfl
      case h_2 => rfl
    case h_2 => exact watched stepped

@[simp] theorem shutters_settle (w : World) : w.settle.shutters = w.shutters := by
  refine settle_induction (P := fun v => v.shutters = w.shutters) ?_ ?_ ?_ ?_ rfl
  · exact fun _ _ => id
  · exact fun _ _ => id
  · exact fun v i same => (congrArg (List.map Master.closed) (masters_tell v i)).trans same
  · exact fun _ _ _ same stepped => (shutters_stepJob stepped).trans same

/-- What keeps the terminals as they are may go on for any time. -/
theorem shutters_run {α : Type} {attempt : World → Option α × World}
    (keeps : ∀ w, (attempt w).2.shutters = w.shutters) (own : World → List ℕ) (fuel : ℕ) (w : World) :
    (run attempt own fuel w).2.shutters = w.shutters := by
  obtain ⟨u, same, ⟨a, v, tried, ran⟩ | ⟨v, tried, ran⟩⟩ :=
    run_cases (P := fun v => v.shutters = w.shutters) attempt own fuel
      (fun v same => (shutters_settle v).trans same) (fun v same => (keeps v).trans same) (fun _ _ => id) rfl
  all_goals
    have kept := (keeps u.settle).trans (shutters_settle u)
    rw [tried] at kept
  · rw [ran, shutters_settle, kept, same]
  · rw [ran, kept, same]

@[simp] theorem shutters_await (w : World) (job : ℕ) : (w.await job).2.shutters = w.shutters :=
  shutters_run (fun _ => rfl) _ _ _

@[simp] theorem shutters_sleepUntil (w : World) (moment : ℕ) :
    (w.sleepUntil moment).shutters = w.shutters := shutters_run (fun _ => rfl) _ _ _

end World

/-! ### Starts and waits -/

/-- What neither the lease nor a spawn changes, a start does not change. -/
theorem kept_start {σ β : Type} {pad : Launchpad σ} (f : σ → β)
    (acquire : ∀ s t, pad.acquire s = some t → f t = f s)
    (release : ∀ s, f (pad.release s) = f s)
    (spawn : ∀ s path pid t, pad.spawn s path = .ok (pid, t) → f t = f s) (l : Lifecycle) (s : σ) :
    f (l.start pad s).2.2 = f s := by
  unfold Lifecycle.start
  split
  case isTrue => rfl
  case isFalse =>
    split
    case isTrue => rfl
    case isFalse =>
      split
      case isTrue => rfl
      case isFalse =>
        split
        case h_1 => rfl
        case h_2 =>
          split
          case h_1 => rfl
          case h_2 t acquired =>
            split
            case h_1 => rw [release, acquire s t acquired]
            case h_2 pid u spawned => rw [spawn t _ pid u spawned, acquire s t acquired]

namespace World

/-- A start on a terminal changes the lease of the terminal and the kernel, until the job is added. -/
theorem kept_launchpad {β : Type} (f : World → β) (kernel : ∀ w k, f { w with kernel := k } = f w)
    (lease : ∀ w i m, w.masters[i]? = some m → ∀ lease, f (w.setMaster i { m with lease }) = f w)
    (terminal : ℕ) (c : Command Action ℕ) (l : Lifecycle) (w : World) :
    f (l.start (launchpad terminal c) w).2.2 = f w := by
  refine kept_start f ?_ ?_ ?_ l w
  · intro w v acquired
    simp only [launchpad, bind, Option.bind_eq_some_iff, pure, Option.some_inj] at acquired
    obtain ⟨m, there, taken, -, rfl⟩ := acquired
    exact lease w terminal m there taken
  · intro w
    simp only [launchpad]
    split
    case h_1 m there => exact lease w terminal m there _
    case h_2 => rfl
  · intro w path pid v spawned
    simp only [launchpad] at spawned
    split at spawned
    case h_1 => cases spawned
    case h_2 =>
      split at spawned
      case isTrue => cases spawned
      case isFalse =>
        split at spawned
        case h_1 =>
          cases spawned
          exact kernel w _
        case h_2 => cases spawned

theorem shutters_start (w : World) (terminal : ℕ) (c : Command Action ℕ) (l : Lifecycle) :
    (w.start terminal c l).2.2.shutters = w.shutters := by
  have kept : (l.start (launchpad terminal c) w).2.2.shutters = w.shutters :=
    kept_launchpad shutters (fun _ _ => rfl) (fun _ _ _ there _ => shutters_setMaster there rfl) terminal c l w
  unfold start startWith
  split
  case h_1 started => rw [← kept, started]
  case h_2 started => rw [← kept, started, shutters, masters_attach, shutters]

end World

namespace Entry

@[simp] theorem shutters_start (e : Entry) (w : World) : (e.start w).2.2.shutters = w.shutters := by
  have kept := World.shutters_start w e.terminal e.command e.life
  unfold start startWith
  rw [World.start] at kept
  split
  case h_1 started => rw [← kept, started]
  case h_2 started => rw [← kept, started]

@[simp] theorem shutters_wait (e : Entry) (w : World) : (e.wait w).2.2.shutters = w.shutters := by
  unfold wait
  split
  case h_1 => rfl
  case h_2 =>
    dsimp only
    split
    case h_1 => rfl
    case h_2 job _ => exact World.shutters_await w job

end Entry

/-! ### Steps of a script -/

namespace Script.State

variable {s : State} {i k : ℕ}

theorem shutters_attempt {α : Type} {own : World → List ℕ} {answer : α → Answer}
    {f : Master → World → Option α × World} (keeps : ∀ m w, (f m w).2.shutters = w.shutters) :
    (s.attempt i own answer f).2.world.shutters = s.world.shutters := by
  unfold attempt
  generalize made : World.run _ own World.patience s.world = r
  have kept : r.2.shutters = s.world.shutters := by
    rw [← made]
    refine World.shutters_run (fun w => ?_) _ _ _
    split
    case h_1 m _ => exact keeps m w
    case h_2 => rfl
  dsimp only
  split <;> exact kept

theorem shutters_collect (room : Octets → ℕ) (enough : Octets → Bool) (m : Master) (taken : Octets)
    (fuel : ℕ) (w : World) :
    (gather.collect room enough m taken fuel w).2.shutters = w.shutters := by
  induction fuel generalizing taken w with
  | zero => rfl
  | succ fuel ih =>
    unfold gather.collect
    split
    case isTrue => rfl
    case isFalse =>
      dsimp only
      split
      case h_1 => rfl
      case h_2 => rw [ih]; rfl
      case h_3 => rfl

theorem shutters_gather (room : Octets → ℕ) (enough : Octets → Bool) :
    (s.gather i room enough).2.world.shutters = s.world.shutters := by
  have gone (taken : Octets) (fuel : ℕ) (w : World) :
      (gather.go i room enough taken fuel w).2.shutters = w.shutters := by
    induction fuel generalizing taken w with
    | zero => rfl
    | succ fuel ih =>
      unfold gather.go
      dsimp only
      split
      case h_1 => exact World.shutters_settle w
      case h_2 m _ =>
        have kept := shutters_collect room enough m taken (2 * Terminal.Device.shownLimit) w.settle
        split
        case h_1 collected =>
          rw [collected, World.shutters_settle] at kept
          exact kept
        case h_2 collected =>
          rw [collected, World.shutters_settle] at kept
          split
          case isTrue => exact kept
          case isFalse =>
            split
            case h_1 => rw [ih]; exact kept
            case h_2 => exact kept
  have kept := gone [] World.patience s.world
  unfold gather
  split
  case h_1 went => rw [← kept, went]
  case h_2 went => rw [← kept, went]

theorem shutters_exchange (x : Exchange) (fuel : ℕ) (w : World) :
    (exchange i x fuel w).2.shutters = w.shutters := by
  induction fuel generalizing x w with
  | zero => rfl
  | succ fuel ih =>
    have settled := World.shutters_settle w
    unfold exchange
    dsimp only
    split
    case h_1 => exact settled
    case h_2 m _ =>
      split
      case h_1 => exact settled
      case h_2 => exact settled
      case h_3 =>
        rw [apply_ite (fun r : Option (Except TransferError Exchange) × World => r.2.shutters)]
        refine ite_eq_iff'.mpr ⟨fun _ => settled, fun _ => ?_⟩
        generalize Host.Kernel.advance _ _ _ = onward
        cases onward with
        | some kernel => exact (ih _ _).trans settled
        | none => exact settled

theorem shutters_echo (count : ℕ) : (s.echo i count).2.world.shutters = s.world.shutters := by
  have kept := shutters_exchange (i := i) { left := letters count, wanted := count } World.patience s.world
  unfold echo
  split
  case h_1 went => rw [← kept, went]
  case h_2 went => rw [← kept, went]

theorem kept_writeAll {σ β : Type} {write : Terminal.Write σ} (f : σ → β)
    (keeps : ∀ s data, f (write s data).2 = f s) (s : σ) (data : Octets) :
    f (Terminal.writeAll write s data).2 = f s := by
  fun_induction Terminal.writeAll write s data with
  | case1 => rfl
  | case2 s data _ e t wrote => rw [← keeps s data, wrote]
  | case3 s data _ t wrote => rw [← keeps s data, wrote]
  | case4 s data _ n t wrote ih => rw [ih, ← keeps s data, wrote]

theorem shutters_writeAll (data : Octets) :
    (s.writeAll i data).2.world.shutters = s.world.shutters := by
  unfold writeAll
  refine kept_writeAll (fun x => x.2.shutters) ?_ (World.patience, s.world) data
  intro ⟨fuel, w⟩ data
  dsimp only
  generalize made : World.run _ (fun _ => []) fuel w = r
  have kept : r.2.shutters = w.shutters := by
    rw [← made]
    refine World.shutters_run (fun w => ?_) _ _ _
    split <;> rfl
  obtain ⟨_ | result, v⟩ := r <;> exact kept

/-- Closing a terminal shuts it and no other. -/
theorem shutters_closeTerminal (s : State) (i : ℕ) :
    (s.closeTerminal i).world.shutters = s.world.shutters.set i true := by
  unfold closeTerminal
  split
  case h_1 none =>
    rw [List.set_eq_of_length_le]
    simpa [World.shutters] using List.getElem?_eq_none_iff.mp none
  case h_2 m there =>
    have closed : (m.close s.world.kernel).1.closed = true := by
      unfold Master.close
      split
      case isTrue shut => exact shut
      case isFalse => rfl
    rw [World.shutters_settle, World.shutters, World.setMaster, List.map_set, closed]
    rfl

theorem isShut_closeTerminal (shut : s.world.IsShut k) (i : ℕ) : (s.closeTerminal i).world.IsShut k := by
  rw [World.IsShut, shutters_closeTerminal, List.getElem?_set]
  split
  case isTrue here =>
    subst here
    rw [if_pos (List.getElem?_eq_some_iff.mp shut).1]
  case isFalse => exact shut

theorem isShut_of_shutters {w v : World} (same : v.shutters = w.shutters) (shut : w.IsShut k) :
    v.IsShut k := by
  rw [World.IsShut, same]
  exact shut

theorem isShut_readWhileClosing (shut : s.world.IsShut k) (i : ℕ) (m : Master) (within : Option ℕ) :
    (s.readWhileClosing i m within).2.world.IsShut k := by
  unfold readWhileClosing
  generalize World.patience = fuel
  extract_lets room start closing deadline
  generalize made : World.run _ _ fuel s.world = r
  obtain ⟨result, v⟩ := r
  have kept : v.shutters = s.world.shutters := by
    rw [show v = (World.run _ _ fuel s.world).2 from congrArg Prod.snd made.symm]
    refine World.shutters_run (fun w => ?_) _ _ _
    split
    case h_1 =>
      dsimp only
      split <;> rfl
    case h_2 => rfl
  have closed := isShut_closeTerminal (s := { s with world := v }) (isShut_of_shutters kept shut) i
  rcases result with _ | _ | result <;> exact closed

theorem shutters_pump (limit : Option ℕ) : (s.pump i limit).2.world.shutters = s.world.shutters := by
  have gone (p : Relay.Pump) (sink : Relay.Sink) (since fuel : ℕ) (w : World) :
      (pump.go i p sink since fuel w).2.shutters = w.shutters := by
    induction fuel generalizing p sink since w with
    | zero => rfl
    | succ fuel ih =>
      have settled := World.shutters_settle w
      unfold pump.go
      dsimp only
      split
      case h_1 => exact settled
      case h_2 m _ =>
        split
        case h_1 =>
          split
          case h_1 => exact settled
          case h_2 => exact (ih _ _ _ _).trans settled
          case h_3 =>
            split
            case h_1 => exact settled
            case h_2 => exact (ih _ _ _ _).trans settled
        case h_2 =>
          split
          case h_1 => exact (ih _ _ _ _).trans settled
          case h_2 => exact settled
  unfold pump
  exact gone _ _ _ _ _

theorem shutters_start (cmd : String) (e : Entry) :
    (s.start cmd e).2.world.shutters = s.world.shutters := e.shutters_start s.world

theorem shutters_wait (cmd : String) (e : Entry) :
    (s.wait cmd e).2.world.shutters = s.world.shutters := e.shutters_wait s.world

theorem isShut_startAttached (shut : s.world.IsShut k) (cmd : String) (e : Entry) (raw : Bool) :
    (s.startAttached cmd e raw).2.world.IsShut k := by
  have kept := s.shutters_start cmd e
  unfold startAttached
  split
  case isTrue =>
    split
    case h_1 started =>
      rw [started] at kept
      exact isShut_of_shutters kept shut
    case h_2 started =>
      rw [started] at kept
      exact isShut_closeTerminal (isShut_of_shutters kept shut) _
  case isFalse => exact isShut_closeTerminal shut _

/-- A closed terminal stays closed, whatever is done to it and others. -/
theorem isShut_perform (shut : s.world.IsShut k) (step : Step) : (s.perform step).2.world.IsShut k := by
  have same {t : State} (kept : t.world.shutters = s.world.shutters) : t.world.IsShut k :=
    isShut_of_shutters kept shut
  have withTerminal {pty : String} {f : ℕ → Master → Answer × State}
      (each : ∀ i m, (f i m).2.world.IsShut k) : (s.withTerminal pty f).2.world.IsShut k := by
    unfold State.withTerminal
    split
    case h_1 i m _ => exact each i m
    case h_2 => exact shut
  have withCommand {s : State} (shut : s.world.IsShut k) {cmd : String} {f : Entry → Answer × State}
      (each : ∀ e, (f e).2.world.IsShut k) : (s.withCommand cmd f).2.world.IsShut k := by
    unfold State.withCommand
    split
    case h_1 e _ => exact each e
    case h_2 => exact shut
  cases step with
  | openTerminal pty size =>
    rw [perform]
    split
    case h_1 => exact shut
    case h_2 m kernel _ =>
      rw [World.IsShut, World.shutters, List.map_append]
      exact List.getElem?_append_left (List.getElem?_eq_some_iff.mp shut).1 ▸ shut
  | size pty => exact withTerminal fun _ m => by split <;> exact shut
  | resize pty size =>
    refine withTerminal fun _ m => ?_
    split
    case h_1 => exact same (World.shutters_settle _)
    case h_2 => exact shut
  | close pty => exact withTerminal fun i _ => isShut_closeTerminal shut i
  | isClosed pty | name pty => exact withTerminal fun _ _ => shut
  | control pty => exact withTerminal fun _ m => by split <;> exact shut
  | write pty data => exact withTerminal fun i m => same (shutters_attempt fun _ _ => rfl)
  | writeAll pty data => exact withTerminal fun i _ => same (shutters_writeAll data)
  | read pty room within =>
    cases within with
    | none => exact withTerminal fun i m => same (shutters_attempt fun _ _ => rfl)
    | some d => exact withTerminal fun i m => same (shutters_attempt fun _ _ => rfl)
  | readExact pty count => exact withTerminal fun i _ => same (shutters_gather _ _)
  | readUntil pty needle => exact withTerminal fun i _ => same (shutters_gather _ _)
  | echo pty count => exact withTerminal fun i _ => same (shutters_echo count)
  | readWhileClosing pty within => exact withTerminal fun i m => isShut_readWhileClosing shut i m within
  | closeTogether pty => exact withTerminal fun i _ => isShut_closeTerminal shut i
  | pump pty limit => exact withTerminal fun i _ => same (shutters_pump limit)
  | token name timeout => exact shut
  | cancel token =>
    rw [perform]
    split
    case h_1 i _ =>
      refine same ?_
      rw [World.shutters_settle, World.shutters, World.masters_cancel, World.shutters]
    case h_2 => exact shut
  | isCancelled token =>
    rw [perform]
    split <;> exact shut
  | sleep d => exact same (World.shutters_sleepUntil _ _)
  | command cmd pty program calls => exact withTerminal fun _ _ => shut
  | start cmd =>
    refine withCommand shut fun e => ?_
    have kept := s.shutters_start cmd e
    split
    case h_1 started => exact same (by rw [← kept, started])
    case h_2 started => exact same (by rw [← kept, started])
  | wait cmd => exact withCommand shut fun e => same (s.shutters_wait cmd e)
  | run cmd =>
    refine withCommand shut fun e => ?_
    have kept := s.shutters_start cmd e
    split
    case h_1 started => exact same (by rw [← kept, started])
    case h_2 t started =>
      have shut : t.world.IsShut k := same (by rw [← kept, started])
      exact withCommand shut fun e => isShut_of_shutters (t.shutters_wait cmd e) shut
  | hasId cmd | debug cmd => exact withCommand shut fun _ => shut
  | drop cmd => exact shut
  | startAttached cmd raw => exact withCommand shut fun e => isShut_startAttached shut cmd e raw
  | notes => exact shut

end Script.State

end PseudoTerminal.Session
