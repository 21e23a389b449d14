import PseudoTerminal.Proofs.Terminal.Calls

/-! What holds of a terminal whatever the order of the steps of any calls. The lock is shared by the calls
inside, or one close has it alone; the mutex of the control calls has one owner, who is inside. One close
wins, and how far it has come says what is left of the devices and of the wake pipe. It takes the devices
out when nobody is inside, so no call ever holds what is let go of. -/

namespace PseudoTerminal.Terminal.Calls

variable {r : ℕ → Request} {s t : State} {m : Move} {i : ℕ}

/-! ### What a step can do -/

/-- The steps, each with what it found. -/
inductive Change (r : ℕ → Request) (s : State) (m : Move) : State → Prop
  | answer (answer : Answer) (stage : s.calls m.call = .idle)
      (known : (r m.call).atOnce? = some answer ∨ s.closed = true ∧ answer = (r m.call).barred) :
      Change r s m (s.setCall m.call (.returned answer))
  | lineUp (stage : s.calls m.call = .idle) (opened : s.closed = false) (uses : r m.call ≠ .close) :
      Change r s m (s.setCall m.call .wanting)
  | raise (stage : s.calls m.call = .idle) (opened : s.closed = false) (asks : r m.call = .close) :
      Change r s m ({ s with closed := true }.setCall m.call (.closing .raised))
  | enter (stage : s.calls m.call = .wanting) (free : s.writer = none) :
      Change r s m ({ s with readers := insert m.call s.readers }.setCall m.call (.inside .entered))
  | goOn (use next : Use) (stage : s.calls m.call = .inside use)
      (follows : s.next? (r m.call) m.reply use = some next) :
      Change r s m (s.setCall m.call (.inside next))
  | takeTurn (stage : s.calls m.call = .inside .queueing) (free : s.control = none) :
      Change r s m
        ({ s with control := some m.call }.setCall m.call (.inside (.controlling (r m.call).effort)))
  | endTurn (answer : Answer) (stage : s.calls m.call = .inside (.controlled answer)) :
      Change r s m ({ s with control := none }.setCall m.call (.inside (.leaving answer)))
  | leave (use : Use) (answer : Answer) (stage : s.calls m.call = .inside use)
      (done : use = .leaving answer ∨ use = .barred ∧ answer = (r m.call).barred) :
      Change r s m (s.leave m.call answer)
  | takeWriter (stage : s.calls m.call = .closing .raised) :
      Change r s m ({ s with wakeWriter := false }.setCall m.call (.closing (.waking s.wakeWriter)))
  | wake (has : Bool) (stage : s.calls m.call = .closing (.waking has)) :
      Change r s m
        ({ s with wakes := if has then s.wakes + 1 else s.wakes }.setCall m.call (.closing (.wanting has)))
  | lock (has : Bool) (stage : s.calls m.call = .closing (.wanting has)) (unused : s.readers = ∅)
      (free : s.writer = none) :
      Change r s m ({ s with writer := some m.call }.setCall m.call (.closing (.alone has)))
  | takeDevices (has : Bool) (stage : s.calls m.call = .closing (.alone has)) :
      Change r s m ({ s with devices := false }.setCall m.call
        (.closing (.unlocking has (if s.devices then Part.shared else []))))
  | unlock (has : Bool) (parts : List Part) (stage : s.calls m.call = .closing (.unlocking has parts)) :
      Change r s m ({ s with writer := none }.setCall m.call
        (.closing (.releasing (parts ++ if has then [Part.wakeWriter] else []))))
  | release (part : Part) (parts : List Part)
      (stage : s.calls m.call = .closing (.releasing (part :: parts))) :
      Change r s m
        ({ s with released := part :: s.released }.setCall m.call (.closing (.releasing parts)))
  | finish (stage : s.calls m.call = .closing (.releasing [])) :
      Change r s m (s.setCall m.call (.returned .closed))

theorem change_of_stepUse {use : Use} (stage : s.calls m.call = .inside use)
    (h : s.stepUse (r m.call) m.call m.reply use = some t) : Change r s m t := by
  unfold State.stepUse at h
  split at h
  case h_1 =>
    split at h
    case h_1 free => cases h; exact .takeTurn stage free
    case h_2 => cases h
  case h_2 answer => cases h; exact .endTurn answer stage
  case h_3 answer => cases h; exact .leave _ answer stage (.inl rfl)
  case h_4 => cases h; exact .leave _ _ stage (.inr ⟨rfl, rfl⟩)
  case h_5 =>
    obtain ⟨next, follows, rfl⟩ := Option.map_eq_some_iff.mp h
    exact .goOn use next stage follows

theorem change_of_stepClosing {stage : Closing} (here : s.calls m.call = .closing stage)
    (h : s.stepClosing m.call stage = some t) : Change r s m t := by
  cases stage with
  | raised => cases h; exact .takeWriter here
  | waking has => cases h; exact .wake has here
  | wanting has =>
    obtain ⟨⟨unused, free⟩, h⟩ := Option.ite_none_right_eq_some.mp h
    cases h
    exact .lock has here unused free
  | alone has => cases h; exact .takeDevices has here
  | unlocking has parts => cases h; exact .unlock has parts here
  | releasing parts =>
    cases parts with
    | nil => cases h; exact .finish here
    | cons part parts => cases h; exact .release part parts here

theorem change_of_step (h : s.step r m = some t) : Change r s m t := by
  unfold State.step at h
  split at h
  case h_1 stage =>
    cases h
    unfold State.start
    split
    case h_1 answer known => exact .answer answer stage (.inl known)
    case h_2 =>
      split
      case isTrue closed => exact .answer _ stage (.inr ⟨closed, rfl⟩)
      case isFalse opened =>
        rw [Bool.not_eq_true] at opened
        split
        case isTrue asks => exact .raise stage opened asks
        case isFalse uses => exact .lineUp stage opened uses
  case h_2 stage =>
    split at h
    case h_1 free => cases h; exact .enter stage free
    case h_2 => cases h
  case h_3 use stage => exact change_of_stepUse stage h
  case h_4 stage here => exact change_of_stepClosing here h
  case h_5 => cases h

/-- A call is left where it is by the steps of others. -/
theorem calls_step (h : Change r s m t) (other : i ≠ m.call) : t.calls i = s.calls i := by
  cases h <;> exact Function.update_of_ne other _ _

theorem forall_setCall {P : ℕ → Call → Prop} {c : Call} (mover : P i c)
    (others : ∀ j, j ≠ i → P j (s.calls j)) (j : ℕ) : P j ((s.setCall i c).calls j) := by
  rw [State.setCall_calls]
  split
  case isTrue here => exact here ▸ mover
  case isFalse other => exact others j other

/-! ### Who has what -/

/-- Whether a call holds the devices that it has found. -/
def Use.holds : Use → Bool
  | entered | barred => false
  | _ => true

namespace Call

def isInside : Call → Bool
  | inside _ => true
  | _ => false

def holds : Call → Bool
  | inside use => use.holds
  | _ => false

/-- Whether the call has the mutex of the control calls. -/
def hasTurn : Call → Bool
  | inside (.controlling _) | inside (.controlled _) => true
  | _ => false

def isClosing : Call → Bool
  | closing _ => true
  | _ => false

/-- Whether the call has the lock alone. -/
def isAlone : Call → Bool
  | closing (.alone _) | closing (.unlocking _ _) => true
  | _ => false

theorem exists_of_isInside {c : Call} (h : c.isInside) : ∃ use, c = inside use := by
  cases c <;> first | exact ⟨_, rfl⟩ | cases h

theorem exists_of_isClosing {c : Call} (h : c.isClosing) : ∃ stage, c = closing stage := by
  cases c <;> first | exact ⟨_, rfl⟩ | cases h

theorem isInside_of_holds {c : Call} (h : c.holds) : c.isInside := by
  cases c <;> first | rfl | cases h

theorem isInside_of_hasTurn {c : Call} (h : c.hasTurn) : c.isInside := by
  cases c <;> first | rfl | cases h

theorem isClosing_of_isAlone {c : Call} (h : c.isAlone) : c.isClosing := by
  cases c <;> first | rfl | cases h

end Call

/-- The calls with a share of the lock are those inside. -/
theorem inside_step (h : Change r s m t) (inv : ∀ i, i ∈ s.readers ↔ (s.calls i).isInside) :
    ∀ i, i ∈ t.readers ↔ (t.calls i).isInside := by
  have own := inv m.call
  cases h with
  | enter stage free =>
    refine forall_setCall (P := fun i c => i ∈ insert m.call s.readers ↔ c.isInside) ?_ ?_
    · simp [Call.isInside]
    · intro i other
      rw [Finset.mem_insert, or_iff_right other]
      exact inv i
  | leave use answer stage done =>
    refine forall_setCall (P := fun i c => i ∈ s.readers.erase m.call ↔ c.isInside) ?_ ?_
    · simp [Call.isInside]
    · intro i other
      rw [Finset.mem_erase, and_iff_right other]
      exact inv i
  | answer _ stage | lineUp stage | raise stage | goOn _ _ stage | takeTurn stage | endTurn _ stage
  | takeWriter stage | wake _ stage | lock _ stage | takeDevices _ stage | unlock _ _ stage
  | release _ _ stage | finish stage =>
    refine forall_setCall (P := fun i c => i ∈ s.readers ↔ c.isInside) ?_ fun i _ => inv i
    rw [own, stage]
    rfl

/-- The lock is one close's alone exactly as long as that close is at it. -/
theorem alone_step (h : Change r s m t) (inv : ∀ i, s.writer = some i ↔ (s.calls i).isAlone) :
    ∀ i, t.writer = some i ↔ (t.calls i).isAlone := by
  have own := inv m.call
  cases h with
  | lock has stage unused free =>
    refine forall_setCall (P := fun i c => some m.call = some i ↔ c.isAlone) ?_ fun i other => ?_
    · simp [Call.isAlone]
    · rw [← inv i, free]
      simp [Ne.symm other]
  | unlock has parts stage =>
    have held : s.writer = some m.call := own.mpr (by rw [stage]; rfl)
    refine forall_setCall (P := fun i c => none = some i ↔ c.isAlone) ?_ fun i other => ?_
    · simp [Call.isAlone]
    · rw [← inv i, held]
      simp [Ne.symm other]
  | answer _ stage | lineUp stage | raise stage | enter stage | goOn _ _ stage | takeTurn stage
  | endTurn _ stage | leave _ _ stage | takeWriter stage | wake _ stage | takeDevices _ stage
  | release _ _ stage | finish stage =>
    refine forall_setCall (P := fun i c => s.writer = some i ↔ c.isAlone) ?_ fun i _ => inv i
    rw [own, stage]
    rfl

/-- Nobody is inside while a close has the lock alone. -/
theorem apart_step (h : Change r s m t) (inv : s.writer = none ∨ s.readers = ∅) :
    t.writer = none ∨ t.readers = ∅ := by
  cases h with
  | enter stage free => exact .inl free
  | leave use answer stage done =>
    exact inv.imp_right fun unused => by simp [State.leave, unused]
  | lock has stage unused free => exact .inr unused
  | unlock => exact .inl rfl
  | _ => exact inv

/-- Whether a call goes on, or ends, without a turn of its own. -/
def Use.isFree : Use → Bool
  | entered | controlling _ | controlled _ => false
  | _ => true

theorem isFree_ofStage {α : Type} {ans : Except TransferError α → Answer} {onward : Use}
    (free : onward.isFree) (stage : Stage α) : (Use.ofStage ans onward stage).isFree := by
  cases stage <;> first | exact free | rfl

theorem isFree_first (q : Request) : q.first.isFree := by
  cases q with
  | read room within => cases within <;> exact isFree_ofStage rfl _
  | write data => exact isFree_ofStage rfl _
  | resize | size | control | close => rfl

/-- What follows a step in which a call only looks at the terminal. -/
theorem next_cases {q : Request} {reply : Reply} {use next : Use}
    (h : s.next? q reply use = some next) :
    (Call.inside use).hasTurn = false ∧ next.isFree ∨
      (∃ left, use = .controlling (left + 1) ∧ next = .controlling left) ∨
        use = .controlling 0 ∧ next = .controlled (q.outcome reply) := by
  cases use with
  | entered =>
    cases h
    refine .inl ⟨rfl, ?_⟩
    split
    · exact isFree_first q
    · rfl
  | looking =>
    cases h
    refine .inl ⟨rfl, ?_⟩
    cases q <;> first | exact isFree_ofStage rfl _ | rfl
  | polling =>
    obtain ⟨look, -, rfl⟩ := Option.map_eq_some_iff.mp h
    refine .inl ⟨rfl, ?_⟩
    cases q <;> first | exact isFree_ofStage rfl _ | rfl
  | trying =>
    cases h
    refine .inl ⟨rfl, ?_⟩
    cases q <;> first | exact isFree_ofStage rfl _ | rfl
  | controlling left =>
    cases left with
    | zero => cases h; exact .inr (.inr ⟨rfl, rfl⟩)
    | succ left => cases h; exact .inr (.inl ⟨left, rfl, rfl⟩)
  | barred | queueing | controlled | leaving => cases h

theorem hasTurn_of_next {q : Request} {reply : Reply} {use next : Use}
    (h : s.next? q reply use = some next) :
    (Call.inside next).hasTurn = (Call.inside use).hasTurn := by
  rcases next_cases h with ⟨without, free⟩ | ⟨left, rfl, rfl⟩ | ⟨rfl, rfl⟩
  · rw [without]
    cases next <;> first | rfl | cases free
  · rfl
  · rfl

/-- The mutex of the control calls has one owner, whose turn it is. -/
theorem turn_step (h : Change r s m t) (inv : ∀ i, s.control = some i ↔ (s.calls i).hasTurn) :
    ∀ i, t.control = some i ↔ (t.calls i).hasTurn := by
  have own := inv m.call
  cases h with
  | goOn use next stage follows =>
    refine forall_setCall (P := fun i c => s.control = some i ↔ c.hasTurn) ?_ fun i _ => inv i
    rw [own, stage, hasTurn_of_next follows]
  | takeTurn stage free =>
    refine forall_setCall (P := fun i c => some m.call = some i ↔ c.hasTurn) ?_ fun i other => ?_
    · simp [Call.hasTurn]
    · rw [← inv i, free]
      simp [Ne.symm other]
  | endTurn answer stage =>
    have held : s.control = some m.call := own.mpr (by rw [stage]; rfl)
    refine forall_setCall (P := fun i c => none = some i ↔ c.hasTurn) ?_ fun i other => ?_
    · simp [Call.hasTurn]
    · rw [← inv i, held]
      simp [Ne.symm other]
  | leave use answer stage done =>
    refine forall_setCall (P := fun i c => s.control = some i ↔ c.hasTurn) ?_ fun i _ => inv i
    rw [own, stage]
    rcases done with rfl | ⟨rfl, -⟩ <;> rfl
  | answer _ stage | lineUp stage | raise stage | enter stage | takeWriter stage | wake _ stage
  | lock _ stage | takeDevices _ stage | unlock _ _ stage | release _ _ stage | finish stage =>
    refine forall_setCall (P := fun i c => s.control = some i ↔ c.hasTurn) ?_ fun i _ => inv i
    rw [own, stage]
    rfl

/-- A control call has no more steps left than it was asked for. -/
theorem effort_step (h : Change r s m t)
    (inv : ∀ i left, s.calls i = .inside (.controlling left) → left ≤ (r i).effort) :
    ∀ i left, t.calls i = .inside (.controlling left) → left ≤ (r i).effort := by
  let bounded (i : ℕ) (c : Call) : Prop := ∀ left, c = .inside (.controlling left) → left ≤ (r i).effort
  have others (i : ℕ) (_ : i ≠ m.call) : bounded i (s.calls i) := inv i
  cases h with
  | goOn use next stage follows =>
    refine forall_setCall (P := bounded) (fun left here => ?_) others
    cases here
    rcases next_cases follows with ⟨-, free⟩ | ⟨left, rfl, same⟩ | ⟨-, other⟩
    · cases free
    · cases same
      exact (Nat.le_succ left).trans (inv _ _ stage)
    · cases other
  | takeTurn =>
    refine forall_setCall (P := bounded) (fun left here => ?_) others
    cases here
    exact le_rfl
  | _ =>
    exact forall_setCall (P := bounded) nofun others

/-- Nobody holds devices that were taken out: they are taken out when nobody is inside. -/
theorem gone_step (h : Change r s m t) (inside : ∀ i, i ∈ s.readers ↔ (s.calls i).isInside)
    (alone : ∀ i, s.writer = some i ↔ (s.calls i).isAlone) (apart : s.writer = none ∨ s.readers = ∅)
    (inv : s.devices = false → ∀ i, (s.calls i).holds = false) :
    t.devices = false → ∀ i, (t.calls i).holds = false := by
  cases h with
  | takeDevices has stage =>
    have held : s.writer = some m.call := (alone _).mpr (by rw [stage]; rfl)
    have unused : s.readers = ∅ := apart.resolve_left (by simp [held])
    refine fun _ => forall_setCall (P := fun _ c => c.holds = false) rfl fun i _ => ?_
    rw [← Bool.not_eq_true]
    intro holds
    have among := (inside i).mpr (Call.isInside_of_holds holds)
    simp [unused] at among
  | goOn use next stage follows =>
    intro gone
    refine forall_setCall (P := fun _ c => c.holds = false) ?_ fun i _ => inv gone i
    have before := inv gone m.call
    rw [stage] at before
    cases use with
    | entered =>
      cases follows
      rw [if_neg (by simpa using gone)]
      rfl
    | barred => cases follows
    | _ => cases before
  | takeTurn stage | endTurn _ stage =>
    intro gone
    have before := inv gone m.call
    rw [stage] at before
    cases before
  | _ =>
    intro gone
    exact forall_setCall (P := fun _ c => c.holds = false) rfl fun i _ => inv gone i

/-! ### The close that wins -/

/-- Nothing was taken or put anywhere, and no close is on its way. -/
structure Untouched (s : State) : Prop where
  writer : s.wakeWriter = true
  wakes : s.wakes = 0
  devices : s.devices = true
  released : s.released = []
  noClosing : ∀ i, (s.calls i).isClosing = false

/-- What is left of the devices and the wake pipe by the time that a close has come so far. -/
def Closing.Reached (s : State) : Closing → Prop
  | raised => s.wakeWriter = true ∧ s.wakes = 0 ∧ s.devices = true ∧ s.released = []
  | waking has => has = true ∧ s.wakes = 0 ∧ s.devices = true ∧ s.released = []
  | wanting has | alone has => has = true ∧ s.wakes = 1 ∧ s.devices = true ∧ s.released = []
  | unlocking has parts =>
    has = true ∧ s.wakes = 1 ∧ s.devices = false ∧ s.released = [] ∧ parts = Part.shared
  | releasing parts => s.wakes = 1 ∧ s.devices = false ∧ s.released.reverse ++ parts = Part.all

/-- The close that raised the flag is on its way, or has let go of everything. -/
def Call.Reached (s : State) : Call → Prop
  | closing stage => stage.Reached s
  | returned _ => s.wakes = 1 ∧ s.devices = false ∧ s.released.reverse = Part.all
  | _ => False

/-- One close has raised the flag; every other one does nothing. -/
structure Won (r : ℕ → Request) (s : State) (c : ℕ) : Prop where
  asks : r c = .close
  reached : (s.calls c).Reached s
  only : ∀ i, i ≠ c → (s.calls i).isClosing = false

variable {c : ℕ}

/-- As long as the flag is down nothing is touched, and whoever raises it has won. -/
theorem untouched_step (h : Change r s m t) (opened : s.closed = false) (inv : Untouched s) :
    t.closed = false ∧ Untouched t ∨ t.closed = true ∧ Won r t m.call := by
  have own := inv.noClosing m.call
  have other (i : ℕ) (_ : i ≠ m.call) := inv.noClosing i
  cases h with
  | raise stage _ asks =>
    refine .inr ⟨rfl, asks, ?_, fun i away => ?_⟩
    · rw [State.setCall_self]
      exact ⟨inv.writer, inv.wakes, inv.devices, inv.released⟩
    · rw [State.setCall_calls, if_neg away]
      exact inv.noClosing i
  | answer _ stage | lineUp stage | enter stage | goOn _ _ stage | takeTurn stage | endTurn _ stage
  | leave _ _ stage =>
    exact .inl ⟨opened, inv.writer, inv.wakes, inv.devices, inv.released,
      forall_setCall (P := fun _ c => c.isClosing = false) rfl other⟩
  | takeWriter stage | wake _ stage | lock _ stage | takeDevices _ stage | unlock _ _ stage
  | release _ _ stage | finish stage =>
    rw [stage] at own
    cases own

namespace Won

theorem eq_of_closing (won : Won r s c) {stage : Closing} (here : s.calls i = .closing stage) : i = c := by
  by_contra away
  have other := won.only i away
  rw [here] at other
  cases other

/-- The close itself goes on. -/
theorem of_own {u : State} {next : Call} (won : Won r s c) (same : u.calls = s.calls)
    (reached : next.Reached (u.setCall c next)) : Won r (u.setCall c next) c where
  asks := won.asks
  reached := by
    rw [State.setCall_self]
    exact reached
  only i away := by
    rw [State.setCall_calls, if_neg away, same]
    exact won.only i away

/-- Another call goes on, which is no close on its way. -/
theorem of_other {u : State} {next : Call} (won : Won r s c) (away : i ≠ c) (same : u.calls = s.calls)
    (plain : next.isClosing = false)
    (reached : (s.calls c).Reached s → (s.calls c).Reached (u.setCall i next)) :
    Won r (u.setCall i next) c where
  asks := won.asks
  reached := by
    rw [State.setCall_calls, if_neg away.symm, same]
    exact reached won.reached
  only := by
    refine fun j far => ?_
    rw [State.setCall_calls, same]
    split
    · exact plain
    · exact won.only j far

end Won

/-- What a close has reached depends on the devices and the wake pipe only. -/
theorem Call.Reached.of_same {call : Call} (reached : call.Reached s) (writer : t.wakeWriter = s.wakeWriter)
    (wakes : t.wakes = s.wakes) (devices : t.devices = s.devices) (released : t.released = s.released) :
    call.Reached t := by
  cases call with
  | closing stage =>
    cases stage <;>
      simpa only [Reached, Closing.Reached, writer, wakes, devices, released] using reached
  | returned => simpa only [Reached, wakes, devices, released] using reached
  | idle | wanting | inside => exact reached

/-- A close that has won goes on alone. -/
theorem won_step (h : Change r s m t) (closed : s.closed = true) (won : Won r s c) :
    t.closed = true ∧ Won r t c := by
  have own := won.reached
  cases h with
  | answer _ stage | enter stage | goOn _ _ stage | takeTurn stage | endTurn _ stage | leave _ _ stage =>
    have away : m.call ≠ c := by
      rintro rfl
      rw [stage] at own
      exact own
    exact ⟨closed, won.of_other away rfl rfl fun reached => reached.of_same rfl rfl rfl rfl⟩
  | lineUp _ opened | raise _ opened =>
    rw [closed] at opened
    cases opened
  | takeWriter stage =>
    obtain rfl := won.eq_of_closing stage
    rw [stage] at own
    exact ⟨closed, won.of_own rfl own⟩
  | wake has stage =>
    obtain rfl := won.eq_of_closing stage
    rw [stage] at own
    obtain ⟨rfl, wakes, devices, released⟩ := own
    exact ⟨closed, won.of_own rfl ⟨rfl, congrArg (· + 1) wakes, devices, released⟩⟩
  | lock has stage =>
    obtain rfl := won.eq_of_closing stage
    rw [stage] at own
    exact ⟨closed, won.of_own rfl own⟩
  | takeDevices has stage =>
    obtain rfl := won.eq_of_closing stage
    rw [stage] at own
    obtain ⟨has, wakes, devices, released⟩ := own
    exact ⟨closed, won.of_own rfl ⟨has, wakes, rfl, released, if_pos devices⟩⟩
  | unlock has parts stage =>
    obtain rfl := won.eq_of_closing stage
    rw [stage] at own
    obtain ⟨rfl, wakes, devices, released, rfl⟩ := own
    exact ⟨closed, won.of_own rfl ⟨wakes, devices, by rw [State.setCall_released]; simp [released]; rfl⟩⟩
  | release part parts stage =>
    obtain rfl := won.eq_of_closing stage
    rw [stage] at own
    obtain ⟨wakes, devices, released⟩ := own
    exact ⟨closed, won.of_own rfl ⟨wakes, devices, by simpa using released⟩⟩
  | finish stage =>
    obtain rfl := won.eq_of_closing stage
    rw [stage] at own
    obtain ⟨wakes, devices, released⟩ := own
    exact ⟨closed, won.of_own rfl ⟨wakes, devices, by simpa using released⟩⟩

/-! ### Every run -/

/-- What holds after any steps. -/
structure Inv (r : ℕ → Request) (s : State) : Prop where
  inside : ∀ i, i ∈ s.readers ↔ (s.calls i).isInside
  alone : ∀ i, s.writer = some i ↔ (s.calls i).isAlone
  apart : s.writer = none ∨ s.readers = ∅
  turn : ∀ i, s.control = some i ↔ (s.calls i).hasTurn
  effort : ∀ i left, s.calls i = .inside (.controlling left) → left ≤ (r i).effort
  gone : s.devices = false → ∀ i, (s.calls i).holds = false
  won : s.closed = false ∧ Untouched s ∨ s.closed = true ∧ ∃ c, Won r s c

theorem inv_init : Inv r {} where
  inside i := by simp [Call.isInside]
  alone i := by simp [Call.isAlone]
  apart := .inl rfl
  turn i := by simp [Call.hasTurn]
  effort := nofun
  gone := nofun
  won := .inl ⟨rfl, rfl, rfl, rfl, rfl, fun _ => rfl⟩

theorem inv_step (h : Change r s m t) (inv : Inv r s) : Inv r t where
  inside := inside_step h inv.inside
  alone := alone_step h inv.alone
  apart := apart_step h inv.apart
  turn := turn_step h inv.turn
  effort := effort_step h inv.effort
  gone := gone_step h inv.inside inv.alone inv.apart inv.gone
  won := by
    rcases inv.won with ⟨opened, untouched⟩ | ⟨closed, c, won⟩
    · exact (untouched_step h opened untouched).imp_right fun ⟨closed, won⟩ => ⟨closed, _, won⟩
    · obtain ⟨closed, won⟩ := won_step h closed won
      exact .inr ⟨closed, c, won⟩

theorem inv_run {moves : List Move} (inv : Inv r s) (h : s.run r moves = some t) : Inv r t := by
  induction moves generalizing s with
  | nil =>
    cases h
    exact inv
  | cons m moves ih =>
    obtain ⟨u, stepped, rest⟩ := Option.bind_eq_some_iff.mp h
    exact ih (inv_step (change_of_step stepped) inv) rest

end PseudoTerminal.Terminal.Calls
