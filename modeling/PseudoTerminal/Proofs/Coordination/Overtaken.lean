import PseudoTerminal.Proofs.Coordination.Delivery

/-! What a wait says of a command whose watcher only killed, for want of an action or because the action
failed. The state says how the child ended. It blames a cancellation for the end whenever a kill counted,
and a kill of a child that is already on its way to another end counts too: such an end is passed off as
cancelled, unless it is an exit with a code after a kill for want of an action. -/

namespace PseudoTerminal.Coordination

open Child (Handle)

variable {σ : Type} {u : Setup σ} {s t : State σ} {turn : Turn σ} {j k : Job} {m : Move}

/-! ### Kills that count -/

/-- The action, if there is one, does not succeed. -/
def Move.IsFailing : Move → Prop
  | .conclude (some (.ok ())) => False
  | _ => True

def Turn.IsFailing : Turn σ → Prop
  | .job m => m.IsFailing
  | _ => True

namespace Job

/-- A child that was found running was killed for want of an action. -/
def Killed (j : Job) : Prop := (.cancel, .ok ()) ∈ j.tries

/-- A child that was found running was to be killed in place of a failed action, whether or not the host
let the kill through. -/
def KilledInstead (j : Job) : Prop :=
  ∃ result, (.instead, result) ∈ j.tries ∧ result ≠ .error .processDone

/-- The kills count as the cause of an end of this kind. -/
def Blames (j : Job) (kind : ExitKind) : Prop :=
  j.KilledInstead ∨ j.Killed ∧ kind.code? = none

/-- The child set out to end in this other way before any kill came, and a kill counts all the same. -/
def Overtaken (j : Job) (kind : ExitKind) : Prop :=
  j.record.left = some kind ∧ kind ≠ .signal Signal.kill ∧ j.Blames kind

theorem killed_of_tries (same : k.tries = j.tries) : k.Killed ↔ j.Killed := by
  rw [Killed, Killed, same]

theorem killedInstead_of_tries (same : k.tries = j.tries) : k.KilledInstead ↔ j.KilledInstead := by
  rw [KilledInstead, KilledInstead, same]

theorem killed_delivered (a : Answers) (p : Purpose) :
    (j.delivered a p).Killed ↔
      p = .cancel ∧ (Handle.deliver (custody a) j.record p.signal).1 = .ok () ∨ j.Killed := by
  simp only [Killed, delivered, settle_tries, List.mem_cons, Prod.mk.injEq]
  rw [eq_comm, @eq_comm _ (Except.ok ())]

theorem killedInstead_delivered (a : Answers) (p : Purpose) :
    (j.delivered a p).KilledInstead ↔
      p = .instead ∧ (Handle.deliver (custody a) j.record p.signal).1 ≠ .error .processDone ∨
        j.KilledInstead := by
  simp only [KilledInstead, delivered, settle_tries, List.mem_cons, Prod.mk.injEq]
  constructor
  · rintro ⟨result, ⟨rfl, rfl⟩ | among, counts⟩
    · exact .inl ⟨rfl, counts⟩
    · exact .inr ⟨result, among, counts⟩
  · rintro (⟨rfl, counts⟩ | ⟨result, among, counts⟩)
    · exact ⟨_, .inl ⟨rfl, rfl⟩, counts⟩
    · exact ⟨result, .inr among, counts⟩

end Job

/-! ### What the watcher made of them -/

def Purpose.isOverdue : Purpose → Bool
  | overdue => true
  | _ => false

/-- Whether the watcher took up a cancellation and is not through with it. -/
def Watcher.isDeciding : Watcher → Bool
  | acting => true
  | calling p | holding p | sending p => !p.isOverdue
  | _ => false

/-- Whether the watcher is at a kill for want of an action. -/
def Watcher.isCancelling : Watcher → Bool
  | calling .cancel | holding .cancel | sending .cancel => true
  | _ => false

/-- The watch is right about the kills that count, and there is one at most. -/
structure Tried (j : Job) : Prop where
  killed : j.watch.killed ↔ j.Killed
  cause : j.watch.cause ↔ j.Killed ∨ j.KilledInstead
  once : j.Killed → ¬ j.KilledInstead
  deciding : j.watcher.isDeciding → j.watch.cause = false
  cancelling : j.watcher.isCancelling → j.watch.hasAction = false

/-- A step that leaves the kills and the watch's opinion of them alone. -/
theorem Tried.of_same (inv : Tried j) (tries : k.tries = j.tries)
    (killed : k.watch.killed = j.watch.killed) (cause : k.watch.cause = j.watch.cause)
    (deciding : k.watcher.isDeciding → k.watch.cause = false)
    (cancelling : k.watcher.isCancelling → k.watch.hasAction = false) : Tried k where
  killed := by rw [killed, Job.killed_of_tries tries]; exact inv.killed
  cause := by
    rw [cause, Job.killed_of_tries tries, Job.killedInstead_of_tries tries]
    exact inv.cause
  once := by
    rw [Job.killed_of_tries tries, Job.killedInstead_of_tries tries]
    exact inv.once
  deciding := deciding
  cancelling := cancelling

theorem tried_hear {n : Notice} {rest : List Notice} (hearing : Hearing j) (inv : Tried j) :
    Tried ({ j with notices := rest, heard := n :: j.heard }.follow (j.watch.notice n)) := by
  have clear : j.watch.cancelled = false → j.watch.cause = false := by
    have := hearing.cause
    grind
  cases n with
  | exited result =>
    cases result <;> exact inv.of_same rfl rfl rfl nofun nofun
  | cancelled =>
    by_cases again : j.watch.cancelled
    · refine inv.of_same rfl ?_ ?_ ?_ ?_ <;>
        simp [Watch.notice, again, Watcher.ofDemand, Watcher.isDeciding, Watcher.isCancelling]
    · have clear := clear (by simpa using again)
      cases action : j.watch.hasAction <;> refine inv.of_same rfl ?_ ?_ ?_ ?_ <;>
        simp [Watch.notice, again, action, clear, Watcher.ofDemand, Watcher.isCancelling]

theorem tried_miss {p : Purpose} (stage : j.watcher = .holding p) (inv : Tried j) :
    Tried ({ j.looked with lock := none }.settle (.error .processDone) p) := by
  have deciding := inv.deciding
  rw [stage] at deciding
  cases p with
  | cancel => exact inv.of_same rfl rfl rfl nofun nofun
  | instead => exact inv.of_same rfl rfl rfl nofun nofun
  | overdue => exact inv.of_same rfl rfl rfl nofun nofun
  | action signal => exact inv.of_same rfl rfl rfl (fun _ => deciding rfl) nofun

theorem reachedInstead_of_ne {result : Except Fault Unit} (w : Watch)
    (counts : result ≠ .error .processDone) :
    w.reachedInstead result = (.listen, { w with cause := true }) := by
  unfold Watch.reachedInstead
  split
  case h_1 => exact absurd rfl counts
  case h_2 => rfl

theorem tried_cancel {a : Answers} (clear : j.watch.cause = false)
    (noAction : j.watch.hasAction = false) (inv : Tried j) : Tried (j.delivered a .cancel) := by
  have killed := Job.killed_delivered (j := j) a .cancel
  have instead := Job.killedInstead_delivered (j := j) a .cancel
  have before := inv.cause
  have unkilled := inv.killed
  have watch : (j.delivered a .cancel).watch = (j.watch.reached j.clock
    (Handle.deliver (custody a) j.record Signal.kill).1).2 := rfl
  have watcher : (j.delivered a .cancel).watcher = .ofDemand (j.watch.reached j.clock
    (Handle.deliver (custody a) j.record Signal.kill).1).1 := rfl
  rw [show Purpose.cancel.signal = Signal.kill from rfl] at killed instead
  generalize (Handle.deliver (custody a) j.record Signal.kill).1 = result at *
  cases result with
  | ok =>
    rw [Watch.reached] at watch watcher
    constructor <;> grind [Watcher.ofDemand, Watcher.isDeciding, Watcher.isCancelling]
  | error f =>
    by_cases gone : f = .processDone
    · rw [gone, Watch.reached] at watch watcher
      constructor <;> grind [Watcher.ofDemand, Watcher.isDeciding, Watcher.isCancelling]
    · rw [Watch.reached_of_error gone] at watch watcher
      constructor <;> grind [Watcher.ofDemand, Watcher.isDeciding, Watcher.isCancelling]

theorem tried_instead {a : Answers} (clear : j.watch.cause = false) (inv : Tried j) :
    Tried (j.delivered a .instead) := by
  have killed := Job.killed_delivered (j := j) a .instead
  have instead := Job.killedInstead_delivered (j := j) a .instead
  have before := inv.cause
  have unkilled := inv.killed
  have watch : (j.delivered a .instead).watch = (j.watch.reachedInstead
    (Handle.deliver (custody a) j.record Signal.kill).1).2 := rfl
  have watcher : (j.delivered a .instead).watcher = .listening := ofDemand_reachedInstead ..
  rw [show Purpose.instead.signal = Signal.kill from rfl] at killed instead
  generalize (Handle.deliver (custody a) j.record Signal.kill).1 = result at *
  by_cases gone : result = .error .processDone
  · rw [gone, Watch.reachedInstead] at watch
    constructor <;> grind [Watcher.isDeciding, Watcher.isCancelling]
  · rw [reachedInstead_of_ne j.watch gone] at watch
    constructor <;> grind [Watcher.isDeciding, Watcher.isCancelling]

theorem tried_deliver {a : Answers} {p : Purpose} (stage : j.watcher = .sending p) (inv : Tried j) :
    Tried (j.delivered a p) := by
  have deciding := inv.deciding
  have cancelling := inv.cancelling
  rw [stage] at deciding cancelling
  have killed := Job.killed_delivered (j := j) a p
  have instead := Job.killedInstead_delivered (j := j) a p
  have before := inv.cause
  have unkilled := inv.killed
  have once := inv.once
  cases p with
  | cancel => exact tried_cancel (deciding rfl) (cancelling rfl) inv
  | instead => exact tried_instead (deciding rfl) inv
  | overdue =>
    have watch : (j.delivered a .overdue).watch = j.watch := rfl
    have watcher : (j.delivered a .overdue).watcher = .listening := rfl
    constructor <;> grind [Watcher.isDeciding, Watcher.isCancelling]
  | action signal =>
    have watch : (j.delivered a (.action signal)).watch = j.watch := rfl
    have watcher : (j.delivered a (.action signal)).watcher = .acting := rfl
    have := deciding rfl
    constructor <;> grind [Watcher.isCancelling]

theorem tried_conclude {result : Except Fault Unit} (stage : j.watcher = .acting)
    (failing : result ≠ .ok ()) (inv : Tried j) : Tried (j.reach result) := by
  have clear := inv.deciding (by rw [stage]; rfl)
  cases result with
  | ok => exact absurd rfl failing
  | error f =>
    by_cases gone : f = .processDone
    · rw [gone]
      exact inv.of_same rfl rfl rfl (by rintro ⟨⟩) (by rintro ⟨⟩)
    · rw [Job.reach, Watch.reached_of_error gone]
      exact inv.of_same rfl rfl rfl (fun _ => clear) (by rintro ⟨⟩)

theorem tried_step (h : Change j m k) (failing : m.IsFailing) (hearing : Hearing j) (inv : Tried j) :
    Tried k := by
  have deciding := inv.deciding
  have cancelling := inv.cancelling
  cases h with
  | hear a n rest stage queue => exact tried_hear hearing inv
  | miss a p kind stage ended => exact tried_miss stage inv
  | deliver a p stage => exact tried_deliver stage inv
  | conclude result stage =>
    refine tried_conclude stage ?_ inv
    rintro rfl
    exact failing
  | lockWatcher a p stage free | find a p stage alive =>
    rw [stage] at deciding cancelling
    exact inv.of_same rfl rfl rfl deciding (by cases p <;> simp_all [Watcher.isCancelling, Job.looked])
  | lose | expire | breakDown =>
    exact inv.of_same rfl rfl rfl (by rintro ⟨⟩) (by rintro ⟨⟩)
  | send signal stage =>
    rw [stage] at deciding
    exact inv.of_same rfl rfl rfl (fun _ => deciding rfl) (by rintro ⟨⟩)
  | _ => exact inv.of_same rfl rfl rfl deciding cancelling

/-! ### What the state says -/

/-- The watcher says how the child ended, and blames a cancellation if a kill counted. -/
theorem finished_tried (inv : Inv j) (tried : Tried j) {state : ExitState}
    (finished : j.watcher = .finished (.ok state)) :
    j.record.fate = some state.kind ∧ (state.cancelled ↔ j.Blames state.kind) := by
  rcases inv.hearing.finished _ finished with ⟨result, among, demand⟩ | ⟨-, broken⟩
  · obtain ⟨kind, fate, rfl | ⟨rfl, -⟩⟩ := inv.reports.heard result among
    · simp only [Watch.notice, Watch.Demand.finish.injEq, Except.ok.injEq] at demand
      subst demand
      refine ⟨fate, ?_⟩
      have killed := tried.killed
      have cause := tried.cause
      have once := tried.once
      rw [Job.Blames]
      cases code : kind.code? <;> grind
    · cases demand
  · cases broken

/-- What was settled before a kill came is passed off as cancelled if a kill counts. -/
theorem overtaken_iff (inv : Inv j) {state : ExitState} (fate : j.record.fate = some state.kind)
    (blames : state.cancelled ↔ j.Blames state.kind) :
    state.cancelled ∧ state.kind ≠ .signal Signal.kill ↔ j.Overtaken state.kind := by
  have settled := inv.settles state.kind fate
  rw [Record.settled] at settled
  rw [Job.Overtaken, ← blames]
  constructor
  · rintro ⟨cancelled, other⟩
    refine ⟨?_, other, cancelled⟩
    split at settled
    case isTrue => exact absurd (Option.some.inj settled).symm other
    case isFalse => exact settled
  · rintro ⟨-, other, cancelled⟩
    exact ⟨cancelled, other⟩

/-! ### The command -/

theorem tell_tried (n : ℕ) (inv : Tried j) : Tried (j.tell n) :=
  ⟨inv.killed, inv.cause, inv.once, inv.deciding, inv.cancelling⟩

theorem tried_advance (h : Advance u s turn t) (failing : turn.IsFailing) (system : SystemInv u s)
    (inv : ∀ j, s.job = some j → Tried j) : ∀ j, t.job = some j → Tried j := by
  intro k
  cases h with
  | token | register | unregister =>
    intro has
    obtain ⟨j, had, rfl⟩ := Option.map_eq_some_iff.mp has
    exact tell_tried _ (inv j had)
  | spawn path pid host stage =>
    rintro ⟨⟩
    constructor <;> simp [Job.Killed, Job.KilledInstead, Watcher.isDeciding, Watcher.isCancelling]
  | attach pid stage =>
    intro has
    obtain ⟨j, had, rfl⟩ := Option.map_eq_some_iff.mp has
    have tried := inv j had
    exact tried.of_same rfl rfl rfl tried.deciding tried.cancelling
  | watch pid stage =>
    intro has
    obtain ⟨j, had, rfl⟩ := Option.map_eq_some_iff.mp has
    exact (inv j had).of_same rfl rfl rfl nofun nofun
  | job m j next host has made =>
    rintro ⟨⟩
    have parts := system.parts.job j has
    exact tried_step (Job.change_of_step parts.known made) failing parts.hearing (inv j has)
  | _ => exact inv k

theorem tried_run {host : σ} {turns : List (Turn σ)} (failing : ∀ turn ∈ turns, turn.IsFailing)
    (h : State.run u { host } turns = some t) :
    SystemInv u t ∧ ∀ j, t.job = some j → Tried j := by
  refine State.run_induction (P := fun s => SystemInv u s ∧ ∀ j, s.job = some j → Tried j)
    ?_ h ⟨systemInv_init host, by simp⟩
  intro s t turn among inv advance
  exact ⟨systemInv_advance advance inv.1, tried_advance advance (failing turn among) inv.1 inv.2⟩

/-- When a watcher that only kills passes off an end as cancelled. After any run, whatever the host
answered to the kills, the state that the first wait returned says how the child ended, and it is that of a
kill when a kill came before the child set out to end. The state blames a cancellation exactly if a kill
counted; and it does so for another end than by a kill exactly if the child set out to that end before any
kill came. -/
theorem cancelled_by_kill_iff {host : σ} {turns : List (Turn σ)}
    (failing : ∀ turn ∈ turns, turn.IsFailing) (run : State.run u { host } turns = some t)
    {state : ExitState} (returned : t.wait = .returned (.ok state)) :
    ∃ j, t.job = some j ∧ j.record.fate = some state.kind ∧
      (j.record.killed → state.kind = .signal Signal.kill) ∧
      (state.cancelled ↔ j.Blames state.kind) ∧
      (state.cancelled ∧ state.kind ≠ .signal Signal.kill ↔ j.Overtaken state.kind) := by
  obtain ⟨system, tried⟩ := tried_run failing run
  obtain ⟨j, outcome, has, finished, result⟩ := system.ending.returned _ returned
  cases outcome with
  | error f => cases result
  | ok said =>
    cases result
    have inv := system.parts.job j has
    obtain ⟨fate, blames⟩ := finished_tried inv (tried j has) finished
    refine ⟨j, has, fate, ?_, blames, overtaken_iff inv fate blames⟩
    intro killed
    have settled := inv.settles _ fate
    rw [Record.settled, if_pos killed] at settled
    exact (Option.some.inj settled).symm

/-- The action fails, the child sets out to exit after the watcher found it running, and the state says
that the exit with code zero was a cancellation. -/
theorem cancelled_by_kill_overtaken :
    ∃ t, State.run ⟨granting, true, true, none⟩ { host := () } ([List.replicate 12 .start, [.wait],
        List.replicate 6 (.token (.cancel 0)), [.job (.watch {})],
        [.job (.conclude (some (.error (.text .other "cancel failed"))))],
        List.replicate 2 (.job (.watch {})), [.job (.leave (.code 0))], [.job (.watch {})],
        [.job .ends], List.replicate 5 (.job .reap), [.job (.watch {})],
        List.replicate 3 .unregister, List.replicate 2 .wait].flatten) = some t ∧
      t.wait = .returned (.ok ⟨.code 0, true⟩) ∧
      ∃ j, t.job = some j ∧ j.Overtaken (.code 0) := by
  let u : Setup Unit := ⟨granting, true, true, none⟩
  let q : List (Turn Unit) := [List.replicate 12 .start, [.wait],
    List.replicate 6 (.token (.cancel 0)), [.job (.watch {})],
    [.job (.conclude (some (.error (.text .other "cancel failed"))))],
    List.replicate 2 (.job (.watch {})), [.job (.leave (.code 0))], [.job (.watch {})],
    [.job .ends], List.replicate 5 (.job .reap), [.job (.watch {})],
    List.replicate 3 .unregister, List.replicate 2 .wait].flatten
  have returned : (State.run u { host := () } q).map State.wait =
      some (.returned (.ok ⟨.code 0, true⟩)) := by decide +kernel
  obtain ⟨t, run, returned⟩ := Option.map_eq_some_iff.mp returned
  have failing : ∀ turn ∈ q, turn.IsFailing := by
    simp [q, List.replicate, Turn.IsFailing, Move.IsFailing]
  obtain ⟨j, has, -, -, -, overtaken⟩ := cancelled_by_kill_iff failing run returned
  exact ⟨t, run, returned, j, has, overtaken.mp ⟨rfl, by decide⟩⟩

end PseudoTerminal.Coordination
