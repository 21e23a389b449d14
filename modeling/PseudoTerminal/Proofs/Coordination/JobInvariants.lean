import PseudoTerminal.Proofs.Coordination.Job

/-! What holds of a started command after any steps: its lock has one holder, the child ends as it was
settled, the handle knows the end when it was taken, no signal goes to a child whose end was taken, the
reaper tells the end once and as it was, and the watcher goes on until it was told. Each part is kept by
every step, most of which it does not see. -/

namespace PseudoTerminal.Coordination

open Child (Handle)
open Watch (reaperGone)

variable {j t : Job} {m : Move}

/-! ### What a step can do -/

namespace Job

/-- The handle knows what was taken, and only an end is taken. -/
structure Known (j : Job) : Prop where
  handle : j.handle.known = if j.record.reaped then j.record.fate else none
  reaped : j.record.reaped → j.record.fate.isSome

/-- After a look: an end is taken and known. -/
def looked (j : Job) : Job :=
  { j with
    handle := { j.handle with known := j.record.fate }
    record := { j.record with reaped := j.record.fate.isSome } }

/-- A look through the handle takes the end of a child that has ended. -/
theorem tryWait_eq (known : j.Known) (a : Answers) :
    j.handle.tryWait (custody a) j.record =
      (.ok j.record.fate, j.looked.handle, j.looked.record) := by
  obtain ⟨⟨left, killed, fate, reaped, received⟩, ⟨pid, taken⟩, lock, reaper, watcher, watch, notices,
    heard, tries, clock⟩ := j
  have := known.handle
  have := known.reaped
  cases reaped <;> cases fate <;>
    simp_all [looked, Handle.tryWait, custody, Record.standing, Record.reap]

theorem look_eq (known : j.Known) : j.look = (.ok j.record.fate, j.looked) := by
  rw [look, tryWait_eq known]
  rfl

/-- After a signal to a child that was found running. -/
def delivered (j : Job) (a : Answers) (p : Purpose) : Job :=
  let delivery := Handle.deliver (custody a) j.record p.signal
  { j with
    record := delivery.2
    lock := none
    tries := (p, delivery.1) :: j.tries }.settle delivery.1 p

end Job

/-- The steps, each with what it found. -/
inductive Change (j : Job) : Move → Job → Prop
  | leave (kind : ExitKind) (unsettled : j.record.settled = none) :
      Change j (.leave kind) { j with record := { j.record with left := some kind } }
  | ends (kind : ExitKind) (alive : j.record.fate = none) (settled : j.record.settled = some kind) :
      Change j .ends { j with record := { j.record with fate := some kind } }
  | pass (duration : ℕ) : Change j (.pass duration) { j with clock := j.clock + duration }
  | wake (stage : j.reaper = .blocking) (ended : Child.observe j.record.standing = some (.ok ())) :
      Change j .reap { j with reaper := .observed }
  | wakeUnnamed (f : Fault) (stage : j.reaper = .blocking)
      (ended : Child.observe j.record.standing = some (.error f)) :
      Change j .reap { j with reaper := .releasing (.error f) }
  | lockReaper (stage : j.reaper = .observed) (free : j.lock = none) :
      Change j .reap { j with lock := some .reaper, reaper := .locked }
  | take (kind : ExitKind) (stage : j.reaper = .locked) (ended : j.record.fate = some kind) :
      Change j .reap { j.looked with lock := none, reaper := .releasing (.ok kind) }
  | release (result : Except Fault ExitKind) (stage : j.reaper = .releasing result) :
      Change j .reap { j with reaper := .sending result }
  | tell (result : Except Fault ExitKind) (stage : j.reaper = .sending result) :
      Change j .reap { j with reaper := .done, notices := j.notices ++ [.exited result] }
  | hear (a : Answers) (n : Notice) (rest : List Notice) (stage : j.watcher = .listening)
      (queue : j.notices = n :: rest) :
      Change j (.watch a)
        ({ j with notices := rest, heard := n :: j.heard }.follow (j.watch.notice n))
  | lose (a : Answers) (stage : j.watcher = .listening) (queue : j.notices = [])
      (done : j.reaper = .done) :
      Change j (.watch a) { j with watcher := .finished (.error reaperGone) }
  | lockWatcher (a : Answers) (p : Purpose) (stage : j.watcher = .calling p) (free : j.lock = none) :
      Change j (.watch a) { j with lock := some .watcher, watcher := .holding p }
  | find (a : Answers) (p : Purpose) (stage : j.watcher = .holding p) (alive : j.record.fate = none) :
      Change j (.watch a) { j.looked with watcher := .sending p }
  | miss (a : Answers) (p : Purpose) (kind : ExitKind) (stage : j.watcher = .holding p)
      (ended : j.record.fate = some kind) :
      Change j (.watch a) ({ j.looked with lock := none }.settle (.error .processDone) p)
  | deliver (a : Answers) (p : Purpose) (stage : j.watcher = .sending p) :
      Change j (.watch a) (j.delivered a p)
  | expire (stage : j.watcher = .listening) (due : j.watch.isOverdue j.clock) :
      Change j .expire { j with watch := j.watch.expire, watcher := .calling .overdue }
  | look (stage : j.watcher = .acting) (free : j.lock = none) : Change j .look j.looked
  | send (signal : Signal) (stage : j.watcher = .acting) :
      Change j (.send signal) { j with watcher := .calling (.action signal) }
  | conclude (result : Except Fault Unit) (stage : j.watcher = .acting) :
      Change j (.conclude (some result)) (j.reach result)
  | breakDown (stage : j.watcher = .acting) :
      Change j (.conclude none) { j with watcher := .finished (.error Watch.brokenDown) }

namespace Job

theorem change_of_stepReaper (known : j.Known) (h : j.stepReaper = some t) : Change j .reap t := by
  unfold stepReaper at h
  split at h
  case h_1 stage =>
    split at h
    case h_1 => cases h
    case h_2 ended => cases h; exact .wake stage ended
    case h_3 f ended => cases h; exact .wakeUnnamed f stage ended
  case h_2 stage =>
    split at h
    case h_1 free => cases h; exact .lockReaper stage free
    case h_2 => cases h
  case h_3 stage =>
    rw [look_eq known] at h
    cases ended : j.record.fate with
    | none => simp [ended] at h
    | some kind =>
      simp only [ended, Option.some.injEq] at h
      subst h
      exact .take kind stage ended
  case h_4 result stage => cases h; exact .release result stage
  case h_5 result stage => cases h; exact .tell result stage
  all_goals cases h

theorem change_of_stepWatcher {a : Answers} (known : j.Known) (h : j.stepWatcher a = some t) :
    Change j (.watch a) t := by
  unfold stepWatcher at h
  split at h
  case h_1 stage =>
    unfold hear at h
    split at h
    case h_1 n rest queue => cases h; exact .hear a n rest stage queue
    case h_2 queue =>
      split at h
      case isTrue done => cases h; exact .lose a stage queue done
      case isFalse => cases h
  case h_2 p stage =>
    split at h
    case h_1 free => cases h; exact .lockWatcher a p stage free
    case h_2 => cases h
  case h_3 p stage =>
    rw [look_eq known] at h
    cases ended : j.record.fate with
    | none =>
      simp only [ended, Option.some.injEq] at h
      subst h
      exact .find a p stage ended
    | some kind =>
      simp only [ended, Option.some.injEq] at h
      subst h
      exact .miss a p kind stage ended
  case h_4 p stage => cases h; exact .deliver a p stage
  all_goals cases h

theorem change_of_stepAction (known : j.Known) (h : j.stepAction m = some t) : Change j m t := by
  unfold stepAction at h
  split at h
  case h_1 stage =>
    split at h
    case isTrue free =>
      rw [look_eq known] at h
      cases h
      exact .look stage free
    case isFalse => cases h
  case h_2 signal stage => cases h; exact .send signal stage
  case h_3 result stage => cases h; exact .conclude result stage
  case h_4 stage => cases h; exact .breakDown stage
  case h_5 => cases h

theorem change_of_step (known : j.Known) (h : j.step m = some t) : Change j m t := by
  cases m with
  | leave kind =>
    simp only [step] at h
    split at h
    case h_1 unsettled => cases h; exact .leave kind unsettled
    case h_2 => cases h
  | ends =>
    simp only [step] at h
    split at h
    case h_1 alive =>
      obtain ⟨kind, settled, rfl⟩ := Option.map_eq_some_iff.mp h
      exact .ends kind alive settled
    case h_2 => cases h
  | pass duration => cases h; exact .pass duration
  | reap => exact change_of_stepReaper known h
  | watch a => exact change_of_stepWatcher known h
  | expire =>
    simp only [step] at h
    split at h
    case isTrue due => cases h; exact .expire due.1 due.2
    case isFalse => cases h
  | look | send | conclude => exact change_of_stepAction known h

end Job

/-! ### Frames -/

namespace Job

variable (next : Watch.Demand × Watch) (result : Except Fault Unit) (p : Purpose) (a : Answers)

@[simp, grind =] theorem follow_reaper : (j.follow next).reaper = j.reaper := rfl

@[simp, grind =] theorem follow_notices : (j.follow next).notices = j.notices := rfl

@[simp, grind =] theorem follow_heard : (j.follow next).heard = j.heard := rfl

@[simp, grind =] theorem follow_watch : (j.follow next).watch = next.2 := rfl

@[simp, grind =] theorem follow_watcher : (j.follow next).watcher = .ofDemand next.1 := rfl

@[simp, grind =] theorem reach_watch : (j.reach result).watch = (j.watch.reached j.clock result).2 := rfl

@[simp, grind =] theorem reach_watcher :
    (j.reach result).watcher = .ofDemand (j.watch.reached j.clock result).1 := rfl

@[simp, grind =] theorem settle_record : (j.settle result p).record = j.record := by cases p <;> rfl

@[simp, grind =] theorem settle_handle : (j.settle result p).handle = j.handle := by cases p <;> rfl

@[simp, grind =] theorem settle_lock : (j.settle result p).lock = j.lock := by cases p <;> rfl

@[simp, grind =] theorem settle_reaper : (j.settle result p).reaper = j.reaper := by cases p <;> rfl

@[simp, grind =] theorem settle_notices : (j.settle result p).notices = j.notices := by
  cases p <;> rfl

@[simp, grind =] theorem settle_heard : (j.settle result p).heard = j.heard := by cases p <;> rfl

@[simp, grind =] theorem settle_tries : (j.settle result p).tries = j.tries := by cases p <;> rfl

end Job

/-- Whether the watcher is between two signals: it holds no lock, and it is not at its end unless it broke
down. -/
def Watcher.isFree : Watcher → Bool
  | listening | acting | calling _ => true
  | finished (.error f) => f = Watch.brokenDown
  | _ => false

theorem ofDemand_reached_isFree (w : Watch) (now : ℕ) (result : Except Fault Unit) :
    (Watcher.ofDemand (w.reached now result).1).isFree := by
  rcases w.reached_cases now result with ⟨-, -, demand⟩ | ⟨-, -, demand⟩ | ⟨-, demand⟩ | ⟨f, -, -, demand⟩ <;>
    rw [demand]
  case inl => exact decide_eq_true (Eq.refl Watch.brokenDown)
  all_goals rfl

theorem ofDemand_reachedInstead (w : Watch) (result : Except Fault Unit) :
    Watcher.ofDemand (w.reachedInstead result).1 = .listening := by
  unfold Watch.reachedInstead
  split <;> rfl

theorem settle_isFree (result : Except Fault Unit) (p : Purpose) :
    (j.settle result p).watcher.isFree := by
  cases p with
  | cancel => exact ofDemand_reached_isFree j.watch j.clock result
  | instead => rw [Job.settle, Job.follow_watcher, ofDemand_reachedInstead]; rfl
  | overdue | action => rfl

theorem notice_not_isLocked (w : Watch) (n : Notice) :
    (Watcher.ofDemand (w.notice n).1).isLocked = false := by
  unfold Watch.notice
  grind [Watcher.ofDemand, Watcher.isLocked]

@[grind →] theorem isLocked_of_isFree {w : Watcher} (h : w.isFree) : w.isLocked = false := by
  cases w <;> simp_all [Watcher.isFree, Watcher.isLocked]

@[grind →] theorem isLocked_of_isSending {w : Watcher} (h : w.isSending) : w.isLocked := by
  cases w <;> simp_all [Watcher.isSending, Watcher.isLocked]

/-! ### Deliveries -/

theorem receive_fate (r : Record) (signal : Signal) : (r.receive signal).fate = r.fate := by
  unfold Record.receive
  split <;> rfl

theorem receive_reaped (r : Record) (signal : Signal) : (r.receive signal).reaped = r.reaped := by
  unfold Record.receive
  split <;> rfl

/-- What is settled stays so. -/
theorem receive_settled {r : Record} {kind : ExitKind} (signal : Signal) (h : r.settled = some kind) :
    (r.receive signal).settled = some kind := by
  unfold Record.settled Record.receive at *
  grind

/-- A signal settles nothing but a death by a kill. -/
theorem settled_of_receive {r : Record} {kind : ExitKind} {signal : Signal}
    (h : (r.receive signal).settled = some kind) :
    r.settled = some kind ∨ kind = .signal Signal.kill := by
  unfold Record.settled Record.receive at *
  grind

/-- A delivery fails, or the child receives the signal. -/
theorem deliver_record (a : Answers) (r : Record) (signal : Signal) :
    (Handle.deliver (custody a) r signal).2 = r ∨
      (Handle.deliver (custody a) r signal).2 = r.receive signal := by
  obtain ⟨group, alone⟩ := a
  cases group with
  | ok => exact .inr rfl
  | error f =>
    cases alone with
    | ok => exact .inr rfl
    | error g => exact .inl rfl

namespace Job

variable (a : Answers) (p : Purpose)

@[simp, grind =] theorem delivered_handle : (j.delivered a p).handle = j.handle := by
  rw [delivered, settle_handle]

@[simp, grind =] theorem delivered_lock : (j.delivered a p).lock = none := by
  rw [delivered, settle_lock]

@[simp, grind =] theorem delivered_reaper : (j.delivered a p).reaper = j.reaper := by
  rw [delivered, settle_reaper]

@[simp, grind =] theorem delivered_notices : (j.delivered a p).notices = j.notices := by
  rw [delivered, settle_notices]

@[simp, grind =] theorem delivered_heard : (j.delivered a p).heard = j.heard := by
  rw [delivered, settle_heard]

theorem delivered_record :
    (j.delivered a p).record = j.record ∨ (j.delivered a p).record = j.record.receive p.signal := by
  rw [delivered, settle_record]
  exact deliver_record a j.record p.signal

@[simp, grind =] theorem delivered_fate : (j.delivered a p).record.fate = j.record.fate := by
  rcases delivered_record a p with same | received
  · rw [same]
  · rw [received, receive_fate]

@[simp, grind =] theorem delivered_reaped : (j.delivered a p).record.reaped = j.record.reaped := by
  rcases delivered_record a p with same | received
  · rw [same]
  · rw [received, receive_reaped]

theorem delivered_settled {kind : ExitKind} (h : j.record.settled = some kind) :
    (j.delivered a p).record.settled = some kind := by
  rcases delivered_record a p with same | received
  · rwa [same]
  · rw [received]
    exact receive_settled p.signal h

end Job

/-! ### The child and the handle -/

theorem settled_step {kind : ExitKind} (h : Change j m t) (settled : j.record.settled = some kind) :
    t.record.settled = some kind := by
  cases h with
  | leave kind unsettled => rw [unsettled] at settled; cases settled
  | deliver a p stage => exact Job.delivered_settled a p settled
  | miss a p kind stage ended => rwa [Job.settle_record]
  | _ => exact settled

theorem fate_step (h : Change j m t) (ended : j.record.fate.isSome) : t.record.fate = j.record.fate := by
  cases h with
  | ends kind alive settled => rw [alive] at ended; cases ended
  | deliver a p stage => exact Job.delivered_fate a p
  | miss a p kind stage ended => rw [Job.settle_record]; rfl
  | _ => rfl

/-- A child ends as it was settled. -/
theorem settles_step (h : Change j m t)
    (inv : ∀ kind, j.record.fate = some kind → j.record.settled = some kind) :
    ∀ kind, t.record.fate = some kind → t.record.settled = some kind := by
  intro kind ended
  have same : j.record.settled = some kind → t.record.settled = some kind := settled_step h
  cases h with
  | ends kind alive settled => cases ended; exact same settled
  | deliver a p stage =>
    rw [Job.delivered_fate] at ended
    exact same (inv kind ended)
  | miss a p kind' stage gone =>
    rw [Job.settle_record] at ended
    exact same (inv kind ended)
  | _ => exact same (inv kind ended)

namespace Job

theorem Known.of_same (inv : j.Known) (handle : t.handle = j.handle)
    (reaped : t.record.reaped = j.record.reaped) (fate : t.record.fate = j.record.fate) : t.Known where
  handle := by rw [handle, reaped, fate]; exact inv.handle
  reaped := by rw [reaped, fate]; exact inv.reaped

theorem known_looked : j.looked.Known where
  handle := by cases fate : j.record.fate <;> simp [looked, fate]
  reaped := id

end Job

theorem known_step (h : Change j m t) (inv : j.Known) : t.Known := by
  cases h with
  | ends kind alive settled =>
    have kept : j.record.reaped = false := by
      cases reaped : j.record.reaped with
      | false => rfl
      | true => have := inv.reaped reaped; rw [alive] at this; cases this
    refine ⟨?_, fun _ => rfl⟩
    have := inv.handle
    rw [kept] at this
    simpa [kept] using this
  | take | find | look => exact Job.known_looked.of_same rfl rfl rfl
  | miss a p kind stage ended =>
    exact Job.known_looked.of_same (Job.settle_handle ..) (by rw [Job.settle_record])
      (by rw [Job.settle_record])
  | deliver a p stage =>
    exact inv.of_same (Job.delivered_handle a p) (Job.delivered_reaped a p) (Job.delivered_fate a p)
  | _ => exact inv.of_same rfl rfl rfl

/-! ### The lock -/

/-- The lock has one holder, who is inside of it. -/
structure Exclusion (j : Job) : Prop where
  reaper : j.lock = some .reaper ↔ j.reaper = .locked
  watcher : j.lock = some .watcher ↔ j.watcher.isLocked

theorem Exclusion.of_same (inv : Exclusion j) (lock : t.lock = j.lock)
    (reaper : t.reaper = .locked ↔ j.reaper = .locked)
    (watcher : t.watcher.isLocked = j.watcher.isLocked) : Exclusion t where
  reaper := by rw [lock, reaper]; exact inv.reaper
  watcher := by rw [lock, watcher]; exact inv.watcher

theorem Exclusion.of_free (lock : t.lock = none) (reaper : t.reaper ≠ .locked)
    (watcher : t.watcher.isLocked = false) : Exclusion t where
  reaper := by simp [lock, reaper]
  watcher := by simp [lock, watcher]

/-- The one who holds the lock is alone with it. -/
theorem Exclusion.reaper_out (inv : Exclusion j) (holder : j.watcher.isLocked) : j.reaper ≠ .locked := by
  intro inside
  have := inv.reaper.mpr inside
  rw [inv.watcher.mpr holder] at this
  cases this

theorem Exclusion.watcher_out (inv : Exclusion j) (holder : j.lock ≠ some .watcher) :
    j.watcher.isLocked = false := by
  cases locked : j.watcher.isLocked with
  | false => rfl
  | true => exact absurd (inv.watcher.mpr locked) holder

theorem exclusion_step (h : Change j m t) (inv : Exclusion j) : Exclusion t := by
  cases h with
  | lockReaper stage free =>
    have out := inv.watcher_out (by simp [free])
    exact ⟨by simp, by simp [out]⟩
  | lockWatcher a p stage free =>
    have out : j.reaper ≠ .locked := by
      intro inside
      rw [← inv.reaper, free] at inside
      cases inside
    exact ⟨by simp [out], by simp [Watcher.isLocked]⟩
  | take kind stage ended =>
    have out := inv.watcher_out (by simp [inv.reaper.mpr stage])
    exact .of_free rfl nofun out
  | wake stage | wakeUnnamed f stage | release result stage | tell result stage =>
    exact inv.of_same rfl (by simp [stage]) rfl
  | hear a n rest stage queue =>
    exact inv.of_same rfl .rfl ((notice_not_isLocked j.watch n).trans (by rw [stage]; rfl))
  | miss a p kind stage ended =>
    have out := inv.reaper_out (by rw [stage]; rfl)
    exact .of_free (Job.settle_lock ..) (by rw [Job.settle_reaper]; exact out)
      (isLocked_of_isFree (settle_isFree ..))
  | deliver a p stage =>
    have out := inv.reaper_out (by rw [stage]; rfl)
    exact .of_free (Job.delivered_lock ..) (by rw [Job.delivered_reaper]; exact out)
      (isLocked_of_isFree (settle_isFree ..))
  | conclude result stage =>
    exact inv.of_same rfl .rfl
      ((isLocked_of_isFree (ofDemand_reached_isFree ..)).trans (by rw [stage]; rfl))
  | lose a stage | find a p stage | expire stage | send signal stage | breakDown stage =>
    exact inv.of_same rfl .rfl (by rw [stage]; rfl)
  | _ => exact inv.of_same rfl .rfl rfl

/-- No signal goes to a child whose end was taken. -/
theorem sending_step (h : Change j m t) (exclusion : Exclusion j)
    (inv : j.watcher.isSending → j.record.reaped = false) :
    t.watcher.isSending → t.record.reaped = false := by
  have free {w : Watcher} (sending : w.isSending) (free : w.isLocked = false) : False := by
    rw [isLocked_of_isSending sending] at free
    cases free
  cases h with
  | find a p stage alive =>
    intro _
    show j.record.fate.isSome = false
    rw [alive]; rfl
  | take kind stage ended =>
    have out := exclusion.watcher_out (by simp [exclusion.reaper.mpr stage])
    exact fun sending => (free sending out).elim
  | hear a n rest stage queue =>
    exact fun sending => (free sending (notice_not_isLocked j.watch n)).elim
  | miss | deliver =>
    exact fun sending => (free sending (isLocked_of_isFree (settle_isFree ..))).elim
  | conclude result stage =>
    exact fun sending => (free sending (isLocked_of_isFree (ofDemand_reached_isFree ..))).elim
  | look stage =>
    intro sending
    have : j.watcher.isSending := sending
    rw [stage] at this
    cases this
  | lose | lockWatcher | expire | send | breakDown => nofun
  | _ => exact inv

/-! ### The reaper's report -/

/-- What a look that waits reports of a child, when it reports something: how the child ended, or that
it cannot name the signal the child died of. -/
def Tells (r : Record) (result : Except Fault ExitKind) : Prop :=
  ∃ kind, r.fate = some kind ∧
    (result = .ok kind ∨ result = .error .invalidArgument ∧ ∃ n, kind = .signal n ∧ 31 < n)

theorem Tells.isSome {r : Record} {result : Except Fault ExitKind} (h : Tells r result) :
    r.fate.isSome := by
  obtain ⟨kind, h, -⟩ := h
  rw [h]; rfl

theorem isSome_of_observe {result : Except Fault Unit} (known : j.Known)
    (h : Child.observe j.record.standing = some result) : j.record.fate.isSome := by
  have := known.reaped
  unfold Child.observe Record.standing at h
  grind

theorem tells_of_observe {f : Fault} (h : Child.observe j.record.standing = some (.error f)) :
    Tells j.record (.error f) := by
  unfold Child.observe Record.standing at h
  grind [Tells]

/-- The reaper tells the end as it was, and once. -/
structure Reports (j : Job) : Prop where
  past : j.reaper.isPastEnd → j.record.fate.isSome
  report : ∀ result, j.reaper.report? = some result → Tells j.record result
  notices : ∀ result, .exited result ∈ j.notices → Tells j.record result
  heard : ∀ result, .exited result ∈ j.heard → Tells j.record result
  once : j.heard.countP Notice.isExit + j.notices.countP Notice.isExit =
    if j.reaper = .done then 1 else 0

theorem tells_step {result : Except Fault ExitKind} (h : Change j m t) (tells : Tells j.record result) :
    Tells t.record result := by
  rw [Tells, fate_step h tells.isSome]
  exact tells

/-- A step that tells and hears nothing. -/
theorem Reports.of_quiet (inv : Reports j) (h : Change j m t) (notices : t.notices = j.notices)
    (heard : t.heard = j.heard) (past : t.reaper.isPastEnd → t.record.fate.isSome)
    (report : ∀ result, t.reaper.report? = some result → Tells t.record result)
    (done : t.reaper = .done ↔ j.reaper = .done) : Reports t where
  past := past
  report := report
  notices := fun result among => tells_step h (inv.notices result (notices ▸ among))
  heard := fun result among => tells_step h (inv.heard result (heard ▸ among))
  once := by rw [notices, heard, inv.once]; simp only [done]

/-- A step of somebody else than the reaper that hears nothing. -/
theorem Reports.of_same (inv : Reports j) (h : Change j m t) (notices : t.notices = j.notices)
    (heard : t.heard = j.heard) (reaper : t.reaper = j.reaper) : Reports t := by
  refine inv.of_quiet h notices heard ?_ ?_ (by rw [reaper])
  · intro past
    have ended := inv.past (reaper ▸ past)
    rw [fate_step h ended]
    exact ended
  · exact fun result due => tells_step h (inv.report result (reaper ▸ due))

theorem reports_step (h : Change j m t) (known : j.Known) (inv : Reports j) : Reports t := by
  have change := h
  cases h with
  | wake stage ended =>
    have ended' : j.record.fate.isSome := isSome_of_observe known ended
    exact inv.of_quiet change rfl rfl (fun _ => ended') nofun (by simp [stage])
  | wakeUnnamed f stage ended =>
    have tells := tells_of_observe ended
    refine inv.of_quiet change rfl rfl (fun _ => tells.isSome) ?_ (by simp [stage])
    rintro _ ⟨⟩
    exact tells
  | lockReaper stage free =>
    exact inv.of_quiet change rfl rfl (fun _ => inv.past (by rw [stage]; rfl)) nofun (by simp [stage])
  | take kind stage ended =>
    have tells : Tells j.record (.ok kind) := ⟨kind, ended, .inl rfl⟩
    refine inv.of_quiet change rfl rfl (fun _ => tells.isSome) ?_ (by simp [stage])
    rintro _ ⟨⟩
    exact tells
  | release result stage =>
    have tells := inv.report result (by rw [stage]; rfl)
    refine inv.of_quiet change rfl rfl (fun _ => tells.isSome) ?_ (by simp [stage])
    rintro _ ⟨⟩
    exact tells
  | tell result stage =>
    have tells := inv.report result (by rw [stage]; rfl)
    refine ⟨fun _ => tells.isSome, nofun, ?_, inv.heard, ?_⟩
    · intro other among
      rcases List.mem_append.mp among with before | last
      · exact inv.notices other before
      · cases List.mem_singleton.mp last
        exact tells
    · have := inv.once
      simp only [stage, reduceCtorEq, if_false] at this
      simp only [List.countP_append, List.countP_singleton, Notice.isExit, if_true]
      omega
  | hear a n rest stage queue =>
    refine ⟨inv.past, inv.report, ?_, ?_, ?_⟩
    · intro result among
      exact inv.notices result (queue ▸ List.mem_cons_of_mem n among)
    · intro result among
      rcases List.mem_cons.mp among with rfl | before
      · exact inv.notices result (queue ▸ List.mem_cons_self)
      · exact inv.heard result before
    · show (n :: j.heard).countP Notice.isExit + rest.countP Notice.isExit =
        if j.reaper = .done then 1 else 0
      rw [← inv.once, queue, List.countP_cons, List.countP_cons]
      omega
  | miss a p kind stage ended =>
    exact inv.of_same change (Job.settle_notices ..) (Job.settle_heard ..) (Job.settle_reaper ..)
  | deliver a p stage =>
    exact inv.of_same change (Job.delivered_notices a p) (Job.delivered_heard a p)
      (Job.delivered_reaper a p)
  | _ => exact inv.of_same change rfl rfl rfl

/-! ### What the watcher was told -/

/-- Whether the watcher does something on account of a cancellation. -/
def Watcher.isBusy : Watcher → Bool
  | acting | calling _ | holding _ | sending _ => true
  | _ => false

/-- What the watcher was told and what it made of that. -/
structure Hearing (j : Job) : Prop where
  cancelled : j.watch.cancelled ↔ .cancelled ∈ j.heard
  busy : j.watcher.isBusy → j.watch.cancelled
  cause : j.watch.cause → j.watch.cancelled
  deadline : j.watch.deadline.isSome → j.watch.cancelled
  exit : ∀ result, .exited result ∈ j.heard → j.watcher.isFinished
  finished : ∀ outcome, j.watcher = .finished outcome →
    (∃ result, .exited result ∈ j.heard ∧ (j.watch.notice (.exited result)).1 = .finish outcome) ∨
      j.watch.cancelled ∧ outcome = .error Watch.brokenDown

@[simp, grind =] theorem reached_cancelled (w : Watch) (now : ℕ) (result : Except Fault Unit) :
    (w.reached now result).2.cancelled = w.cancelled := by
  rcases w.reached_cases now result with ⟨-, -, demand⟩ | ⟨-, -, demand⟩ | ⟨-, demand⟩ | ⟨f, -, -, demand⟩ <;>
    rw [demand]

@[simp, grind =] theorem reachedInstead_cancelled (w : Watch) (result : Except Fault Unit) :
    (w.reachedInstead result).2.cancelled = w.cancelled := by
  unfold Watch.reachedInstead
  split <;> rfl

@[simp, grind =] theorem settle_cancelled (result : Except Fault Unit) (p : Purpose) :
    (j.settle result p).watch.cancelled = j.watch.cancelled := by
  cases p <;> simp [Job.settle, Job.reach]

theorem brokenDown_of_isFree {w : Watcher} {outcome : Except Fault ExitState} (h : w.isFree)
    (finished : w = .finished outcome) : outcome = .error Watch.brokenDown := by
  subst finished
  cases outcome with
  | ok => cases h
  | error f => rw [of_decide_eq_true h]

theorem isSome_of_isOverdue {w : Watch} {now : ℕ} (h : w.isOverdue now) : w.deadline.isSome := by
  rw [Watch.isOverdue] at h
  cases deadline : w.deadline with
  | none => rw [deadline] at h; cases h
  | some at_ => rfl

/-- The watcher is told of the end before it would find that nobody is going to tell it. -/
theorem queue_ne_nil (reports : Reports j) (hearing : Hearing j) (done : j.reaper = .done)
    (listening : j.watcher = .listening) : j.notices ≠ [] := by
  intro empty
  have once := reports.once
  rw [empty, done] at once
  have : 0 < j.heard.countP Notice.isExit := by simp at once; omega
  obtain ⟨n, told, exit⟩ := List.countP_pos_iff.mp this
  cases n with
  | exited result =>
    have := hearing.exit result told
    rw [listening] at this
    cases this
  | cancelled => cases exit

theorem hearing_hear {n : Notice} {rest : List Notice} (stage : j.watcher = .listening)
    (inv : Hearing j) :
    Hearing ({ j with notices := rest, heard := n :: j.heard }.follow (j.watch.notice n)) := by
  have := inv.exit
  have := inv.cancelled
  have := inv.cause
  have := inv.deadline
  cases n with
  | exited result =>
    cases result <;> constructor <;>
      simp_all [Job.follow, Watch.notice, Watcher.ofDemand, Watcher.isFinished, Watcher.isBusy]
  | cancelled =>
    unfold Watch.notice
    constructor <;> grind [Job.follow, Watcher.ofDemand, Watcher.isFinished, Watcher.isBusy]

theorem isFinished_of_isBusy {w : Watcher} (h : w.isBusy) : w.isFinished = false := by
  cases w with
  | absent | listening | finished => cases h
  | _ => rfl

/-- A step that the watcher takes on account of a cancellation. -/
theorem Hearing.of_busy (inv : Hearing j) (busy : j.watcher.isBusy)
    (cancelled : t.watch.cancelled = j.watch.cancelled) (heard : t.heard = j.heard)
    (finished : ∀ outcome, t.watcher = .finished outcome → outcome = .error Watch.brokenDown) :
    Hearing t := by
  have up : t.watch.cancelled := by rw [cancelled]; exact inv.busy busy
  refine ⟨?_, fun _ => up, fun _ => up, fun _ => up, ?_, fun outcome h => .inr ⟨up, finished outcome h⟩⟩
  · rw [cancelled, heard]
    exact inv.cancelled
  · intro result told
    have done := inv.exit result (heard ▸ told)
    rw [isFinished_of_isBusy busy] at done
    cases done

theorem hearing_step (h : Change j m t) (reports : Reports j) (inv : Hearing j) : Hearing t := by
  cases h with
  | hear a n rest stage queue => exact hearing_hear stage inv
  | lose a stage queue done => exact absurd queue (queue_ne_nil reports inv done stage)
  | lockWatcher a p stage | find a p stage | send signal stage =>
    exact inv.of_busy (by rw [stage]; rfl) rfl rfl nofun
  | miss a p kind stage ended =>
    exact inv.of_busy (by rw [stage]; rfl) (settle_cancelled ..) (Job.settle_heard ..)
      fun outcome => brokenDown_of_isFree (settle_isFree ..)
  | deliver a p stage =>
    exact inv.of_busy (by rw [stage]; rfl) (settle_cancelled ..) (Job.delivered_heard ..)
      fun outcome => brokenDown_of_isFree (settle_isFree ..)
  | conclude result stage =>
    exact inv.of_busy (by rw [stage]; rfl) (reached_cancelled ..) rfl
      fun outcome => brokenDown_of_isFree (ofDemand_reached_isFree ..)
  | breakDown stage =>
    refine inv.of_busy (by rw [stage]; rfl) rfl rfl ?_
    rintro _ ⟨⟩
    rfl
  | expire stage due =>
    have up := inv.deadline (isSome_of_isOverdue due)
    refine ⟨inv.cancelled, fun _ => up, fun _ => up, fun _ => up, ?_, nofun⟩
    intro result told
    have done := inv.exit result told
    rw [stage] at done
    cases done
  | _ => exact ⟨inv.cancelled, inv.busy, inv.cause, inv.deadline, inv.exit, inv.finished⟩

/-- What holds whenever nobody is inside of a step. -/
structure Inv (j : Job) : Prop where
  known : j.Known
  exclusion : Exclusion j
  settles : ∀ kind, j.record.fate = some kind → j.record.settled = some kind
  sending : j.watcher.isSending → j.record.reaped = false
  reports : Reports j
  hearing : Hearing j

theorem inv_step (h : j.step m = some t) (inv : Inv j) : Inv t := by
  have change := Job.change_of_step inv.known h
  exact {
    known := known_step change inv.known
    exclusion := exclusion_step change inv.exclusion
    settles := settles_step change inv.settles
    sending := sending_step change inv.exclusion inv.sending
    reports := reports_step change inv.known inv.reports
    hearing := hearing_step change inv.reports inv.hearing }

end PseudoTerminal.Coordination
