import PseudoTerminal.Proofs.Cancellation.NestingInvariants

/-! Scripts with nested callbacks from outside: a script is carried out step by step, to its end or to a lock that it
waits for, and comes to what running it by whole operations comes to. An operation that has begun and is not
complete looks like a complete one, so that each step of the machine is one from outside, or none. On the way
callbacks run as they are to. -/

namespace PseudoTerminal.Cancellation.Nesting

open Script

variable {w : World} {i id : ℕ} {inside : List Entry} {x : Work} {works rest : List Work} {c c' : Store}
  {s : State}

/-! ### Whole operations -/

/-- The task that a whole operation is. -/
def Work.task? : Work → Option Task
  | perform _ inside s => some (.perform (owner inside) s)
  | call _ e => some (.call e.callback)
  | keep label r => some (.keep label r)
  | answer owner word a => some (.answer owner word a)
  | answerCancelled owner word i => some (.answerCancelled owner word i)
  | lockToRemove i id => some (.release i id)
  | unlock i => some (.unlock i)
  | abandon i => some (.abandon i)
  | _ => none

/-- What a piece of work comes to in front of tasks: a whole operation is put in front of them, what is left of one
that has begun is done at once. -/
def finish (w : World) : Work → World
  | .swap _ i => (w.fire i).2.first (w.fire i).1
  | .lockToTake _ i | .take _ i =>
    (change w i (·.take.2)).first ((pendingOf w i).map fun p => Task.call p.2)
  | .lockToRegister _ e | .register _ e =>
    match w.tokens[e.token]? with
    | none => w
    | some t =>
      if t.cancelled then w.first [.call e.callback, .keep e.callback.label {}]
      else
        (change w e.token fun t => (t.enlist e.callback).2).first
          [.keep e.callback.label ⟨some (e.token, t.nextId)⟩]
  | .remove i id =>
    (change w i (·.unregister id)).first
      ((((pendingOf w i).filter (·.1 == id)).map Prod.snd).flatMap Callback.drop ++ [Task.unlock i])
  | x => w.first x.task?.toList

/-- A world with an agenda. -/
def withAgenda (w : World) (tasks : List Task) : World := { w with agenda := tasks }

/-- What the work that is left to do looks like from outside. -/
def seen (w : World) : List Work → World
  | [] => withAgenda w []
  | x :: rest => finish (withAgenda w (rest.filterMap Work.task?)) x

theorem exists_task (plain : x.isPlain) : ∃ task, x.task? = some task := by
  cases x with
  | swap _ _ | lockToTake _ _ | take _ _ | lockToRegister _ _ | register _ _ | remove _ _ => cases plain
  | _ => exact ⟨_, rfl⟩

theorem finish_of_isPlain (plain : x.isPlain) : finish w x = w.first x.task?.toList := by
  cases x with
  | swap _ _ | lockToTake _ _ | take _ _ | lockToRegister _ _ | register _ _ | remove _ _ => cases plain
  | _ => rfl

theorem toList_append_filterMap (x : Work) (rest : List Work) :
    x.task?.toList ++ rest.filterMap Work.task? = (x :: rest).filterMap Work.task? := by
  cases task : x.task? <;> simp [task]

theorem seen_cons (plain : x.isPlain) (w : World) (rest : List Work) :
    seen w (x :: rest) = withAgenda w ((x :: rest).filterMap Work.task?) := by
  rw [seen, finish_of_isPlain plain, ← toList_append_filterMap]
  rfl

theorem seen_of_isPlain (plain : ∀ y ∈ works, y.isPlain) (w : World) :
    seen w works = withAgenda w (works.filterMap Work.task?) := by
  cases works with
  | nil => rfl
  | cons x rest => exact seen_cons (plain x List.mem_cons_self) w rest

theorem fire_withAgenda (w : World) (tasks : List Task) (i : ℕ) :
    (withAgenda w tasks).fire i = ((w.fire i).1, withAgenda (w.fire i).2 tasks) := by
  simp only [World.fire, withAgenda]
  split <;> rfl

theorem setToken_eq_change {t : Token Callback} (found : w.tokens[i]? = some t)
    (f : Token Callback → Token Callback) : w.setToken i (f t) = change w i f := by
  obtain ⟨bound, rfl⟩ := List.getElem?_eq_some_iff.mp found
  rw [World.setToken, change]
  congr 1
  refine List.ext_getElem? fun j => ?_
  rw [List.getElem?_set, List.getElem?_modify]
  by_cases same : i = j
  · subst same
    simp [bound]
  · simp [same]

theorem setToken_self {t : Token Callback} (found : w.tokens[i]? = some t) : w.setToken i t = w := by
  obtain ⟨bound, rfl⟩ := List.getElem?_eq_some_iff.mp found
  rw [World.setToken, List.set_getElem_self]

theorem change_change (w : World) (i : ℕ) (f g : Token Callback → Token Callback) :
    change (change w i f) i g = change w i (g ∘ f) := by
  simp [change, List.modify_modify_eq]

theorem fire_of_cancelled (up : ∀ t, w.tokens[i]? = some t → t.cancelled) : w.fire i = ([], w) := by
  rw [World.fire]
  cases found : w.tokens[i]? with
  | none => rfl
  | some t => simp [Token.cancel, up t found, setToken_self found]

theorem fire_of_clear {t : Token Callback} (found : w.tokens[i]? = some t) (clear : ¬ t.cancelled) :
    w.fire i = ((pendingOf (change w i Token.raise) i).map fun p => Task.call p.2,
      change (change w i Token.raise) i (·.take.2)) := by
  have cancel : t.cancel = t.raise.take := if_neg clear
  have left := setToken_eq_change found fun t => t.raise.take.2
  rw [World.fire, found, change_change, pendingOf_change, found]
  simp only [cancel, left]
  simp [Token.take, Function.comp_def]

/-- Dropping registrations looks like dropping them. -/
theorem filterMap_releasing (rs : List Registration) :
    (releasing rs).filterMap Work.task? = rs.flatMap Registration.drop := by
  induction rs with
  | nil => rfl
  | cons r rs ih =>
    obtain ⟨_ | ⟨i, id⟩⟩ := r
    · exact ih
    · exact congrArg (List.cons (Task.release i id)) ih

theorem filterMap_dropping (entries : List Entry) :
    (entries.flatMap (releasing ·.callback.owned)).filterMap Work.task? =
      (entries.map Entry.callback).flatMap Callback.drop := by
  induction entries with
  | nil => rfl
  | cons e entries ih =>
    rw [List.flatMap_cons, List.filterMap_append, ih, filterMap_releasing]
    rfl

theorem filterMap_lettingGo (w : World) (name : String) :
    (lettingGo w name).filterMap Work.task? = w.letGo name := by
  rw [lettingGo, World.letGo]
  cases w.names.lookup name <;> rfl

theorem seen_lettingGo (w w' : World) (name : String) (o : Option String) (word : String) (a : Answer)
    (rest : List Work) :
    seen w' (lettingGo w name ++ [Work.answer o word a] ++ rest) =
      (withAgenda w' (rest.filterMap Work.task?)).first (w.letGo name ++ [.answer o word a]) := by
  have same : seen w' (lettingGo w name ++ [Work.answer o word a] ++ rest) =
      withAgenda w' ((lettingGo w name ++ [Work.answer o word a] ++ rest).filterMap Work.task?) := by
    obtain none | ⟨i, some⟩ := lettingGo_cases w name
    · rw [none]
      exact seen_cons (x := .answer o word a) rfl w' rest
    · rw [some]
      exact seen_cons (x := .abandon i) rfl w' _
  rw [same, List.filterMap_append, List.filterMap_append, filterMap_lettingGo]
  rfl

@[simp] theorem log_withAgenda (w : World) (tasks : List Task) : (withAgenda w tasks).log = w.log := rfl

@[simp] theorem clock_withAgenda (w : World) (tasks : List Task) : (withAgenda w tasks).clock = w.clock := rfl

@[simp] theorem registrations_withAgenda (w : World) (tasks : List Task) :
    (withAgenda w tasks).registrations = w.registrations := rfl

@[simp] theorem nextTimer?_withAgenda (w : World) (tasks : List Task) (limit : ℕ) :
    (withAgenda w tasks).nextTimer? limit = w.nextTimer? limit := rfl

@[simp] theorem token?_withAgenda (w : World) (tasks : List Task) (name : String) :
    (withAgenda w tasks).token? name = w.token? name := rfl

theorem tokens_of_token? {name : String} {t : Token Callback} (found : w.token? name = some (i, t)) :
    w.tokens[i]? = some t := by
  simp only [World.token?, Option.bind_eq_bind, Option.bind_eq_some_iff, Option.pure_def, Option.some.injEq,
    Prod.mk.injEq] at found
  obtain ⟨_, -, _, present, rfl, rfl⟩ := found
  exact present

theorem seen_swap (w : World) (inside : List Entry) (i : ℕ) (rest : List Work) :
    seen w (.swap inside i :: rest) = withAgenda (w.fire i).2 ((w.fire i).1 ++ rest.filterMap Work.task?) := by
  rw [seen, finish, fire_withAgenda]
  rfl

theorem seen_swap_cons {task : Task} (is : x.task? = some task) :
    seen w (.swap inside i :: x :: rest) =
      ((withAgenda w (rest.filterMap Work.task?)).fire i).2.first
        (((withAgenda w (rest.filterMap Work.task?)).fire i).1 ++ [task]) := by
  rw [seen_swap, fire_withAgenda, List.filterMap_cons_some is]
  simp [withAgenda, World.first]

/-- What is begun for a step looks like the step carried out. -/
theorem seen_begin (w : World) (place : ℕ) (inside : List Entry) (st : Step) (rest : List Work) :
    seen (begin w place inside st).2 ((begin w place inside st).1 ++ rest) =
      (withAgenda w (rest.filterMap Work.task?)).perform (owner inside) st := by
  cases st with
  | create _ | createDefault _ | createTimed _ _ | drop _ => exact seen_lettingGo w _ _ _ _ _ rest
  | clone name source =>
    simp only [begin, World.perform, token?_withAgenda]
    cases w.token? source with
    | none => rfl
    | some found => exact seen_lettingGo w _ _ _ _ _ rest
  | isCancelled name | describe name =>
    simp only [begin, World.perform, token?_withAgenda]
    cases w.token? name <;> rfl
  | cancel name =>
    simp only [begin, World.perform, token?_withAgenda]
    cases w.token? name with
    | none => rfl
    | some found => exact seen_swap_cons rfl
  | cancelTogether name threads =>
    simp only [begin, World.perform, token?_withAgenda]
    cases w.token? name with
    | none => rfl
    | some found =>
      by_cases none : threads = 0
      · simp only [if_pos none]
        rfl
      · simp only [if_neg none]
        exact seen_swap_cons rfl
  | await name lines =>
    simp only [begin, World.perform, token?_withAgenda, log_withAgenda, clock_withAgenda, nextTimer?_withAgenda]
    cases w.token? name with
    | none => rfl
    | some found =>
      obtain ⟨i, t⟩ := found
      by_cases done : t.cancelled ∧ lines ≤ w.log.length
      · refine Eq.trans ?_ (if_pos done).symm
        simp only [if_pos done]
        rfl
      · refine Eq.trans ?_ (if_neg done).symm
        simp only [if_neg done]
        cases w.nextTimer? (w.clock + World.patience) with
        | none => rfl
        | some timer =>
          obtain ⟨due, j⟩ := timer
          by_cases held : w.isHeld j
          · refine Eq.trans ?_ (if_pos held).symm
            simp only [if_pos held]
            exact seen_swap_cons rfl
          · refine Eq.trans ?_ (if_neg held).symm
            simp only [if_neg held]
            rfl
  | onCancel name label body owned =>
    simp only [begin, World.perform, token?_withAgenda, registrations_withAgenda]
    cases known : w.token? name with
    | none => rfl
    | some found =>
      obtain ⟨i, t⟩ := found
      simp only [List.cons_append, List.nil_append, seen, finish]
      have found (registrations : List (String × Registration)) (tasks : List Task) :
          (withAgenda { w with registrations } tasks).tokens[i]? = some t := tokens_of_token? known
      simp only [found]
      let callback : Callback := { label, body, owned := (capture owned w.registrations).1 }
      by_cases cancelled : t.cancelled
      · have register : t.register callback = (none, t) := if_pos cancelled
        simp only [callback] at register
        simp only [register, if_pos cancelled]
        rfl
      · have register : t.register callback = (some t.nextId, (t.enlist callback).2) := if_neg cancelled
        have enlisted := setToken_eq_change
          (found (capture owned w.registrations).2 (rest.filterMap Work.task?)) fun t => (t.enlist callback).2
        simp only [callback] at register enlisted
        simp only [register, if_neg cancelled]
        exact congrArg (fun v : World => v.first
          [.keep label ⟨some (i, t.nextId)⟩, .answer (owner inside) "on_cancel" .done]) enlisted.symm
  | unregister label =>
    simp only [begin, World.perform, registrations_withAgenda]
    cases w.registrations.lookup label with
    | none => rfl
    | some r =>
      obtain ⟨_ | ⟨i, id⟩⟩ := r
      · rfl
      · rfl

theorem filterMap_calls (entries : List Entry) :
    (entries.map (Work.call inside)).filterMap Work.task? = entries.map fun e => .call e.callback := by
  rw [List.filterMap_map, ← List.filterMap_eq_map]
  rfl

theorem filterMap_numbered (place : ℕ) (inside : List Entry) (body : List Step) :
    ((numbered place body).map fun (place, s) => Work.perform place inside s).filterMap Work.task? =
      body.map (Task.perform (owner inside)) := by
  induction body generalizing place with
  | nil => rfl
  | cons s body ih => exact congrArg (List.cons _) (ih _)

theorem record_withAgenda (w : World) (tasks : List Task) (owner : Option String) (word : String) (a : Answer) :
    (withAgenda w tasks).record owner word a = withAgenda (w.record owner word a) tasks := by
  cases owner <;> rfl

/-- The tasks show which locks are held for them. -/
theorem isLocked_iff (plain : ∀ y ∈ rest, y.isPlain) :
    (withAgenda w (rest.filterMap Work.task?)).isLocked i ↔ i ∈ rest.flatMap Work.held := by
  induction rest with
  | nil => simp [World.isLocked, withAgenda]
  | cons x rest ih =>
    obtain ⟨first, plain⟩ := List.forall_mem_cons.mp plain
    have ih := ih plain
    simp only [World.isLocked, withAgenda] at ih ⊢
    cases x with
    | unlock j =>
      simp only [Work.task?, List.filterMap_cons, List.any_cons, Bool.or_eq_true, beq_iff_eq, List.flatMap_cons,
        Work.held, List.singleton_append, List.mem_cons]
      exact or_congr eq_comm ih
    | swap _ _ | lockToTake _ _ | take _ _ | lockToRegister _ _ | register _ _ | remove _ _ => cases first
    | _ => simpa [Work.task?] using ih

/-- The callbacks that are dropped are those of the tokens. -/
theorem Store.Matches.removed (matched : c.Matches) (i id : ℕ) :
    (c.removed i id).map Entry.callback = ((pendingOf c.world i).filter (·.1 == id)).map Prod.snd := by
  have both : c.waiting.filter (fun x => x.entry.token == i && x.id == id) =
      (c.waiting.filter (·.entry.token == i)).filter (·.id == id) := by
    rw [List.filter_filter]
    exact List.filter_congr fun v _ => Bool.and_comm ..
  rw [← matched i, List.filter_map, List.map_map, Store.removed, both, List.map_map]
  rfl

theorem Store.Matches.waitingOn (matched : c.Matches) (i : ℕ) :
    (c.waitingOn i).map Entry.callback = (pendingOf c.world i).map Prod.snd := by
  rw [← matched i, Store.waitingOn, List.map_map, List.map_map]
  rfl

theorem map_pendingOf (w : World) (i : ℕ) :
    (pendingOf w i).map Prod.snd = (w.tokens[i]?.map fun t => t.take.1).getD [] := by
  rw [pendingOf]
  cases w.tokens[i]? <;> rfl

theorem map_removed (w : World) (i id : ℕ) :
    ((pendingOf w i).filter (·.1 == id)).map Prod.snd = (w.tokens[i]?.map fun t => t.removed id).getD [] := by
  rw [pendingOf]
  cases w.tokens[i]? <;> rfl

/-- A whole operation begins with what it looks like from outside, and what is left of one changes nothing
more. -/
theorem Acts.seen (acts : Acts c x works c') (matched : c.Matches) (plain : ∀ y ∈ rest, y.isPlain)
    (locks : c.locks = x.held ++ rest.flatMap Work.held) :
    seen c'.world (works ++ rest) =
      if x.isPlain then (seen c.world (x :: rest)).step else seen c.world (x :: rest) := by
  have found {i : ℕ} {t : Option (Token Callback)} (found : c.world.tokens[i]? = t) :
      (withAgenda c.world (rest.filterMap Work.task?)).tokens[i]? = t := found
  have outside {works : List Work} (whole : ∀ y ∈ works, y.isPlain) (w : World) :
      Nesting.seen w (works ++ rest) =
        withAgenda w (works.filterMap Work.task? ++ rest.filterMap Work.task?) := by
    rw [seen_of_isPlain (List.forall_mem_append.mpr ⟨whole, plain⟩), List.filterMap_append]
  cases acts with
  | perform place inside st => exact seen_begin c.world place inside st rest
  | call inside e =>
    refine (outside (List.forall_mem_append.mpr
      ⟨fun y among => (plain_of_mem_steps y among).1, fun _ among => (plain_of_mem_releasing among).1⟩) _).trans ?_
    rw [List.filterMap_append, filterMap_numbered, filterMap_releasing]
    rfl
  | keep label r =>
    refine (outside (fun _ among => (plain_of_mem_releasing among).1) _).trans ?_
    rw [filterMap_releasing, seen_cons rfl]
    cases old : c.world.registrations.lookup label with
    | none => simp [Work.task?, World.step, World.first, withAgenda, old]
    | some r => simp [Work.task?, World.step, World.first, withAgenda, old]
  | answer _ _ _ | answerCancelled _ _ _ =>
    rw [List.nil_append, seen_of_isPlain plain, ← record_withAgenda]
    rfl
  | refuse inside i up =>
    rw [List.nil_append, seen_of_isPlain plain, seen_swap, fire_of_cancelled up]
    rfl
  | raise inside i t found clear =>
    rw [seen_swap, fire_of_clear found clear]
    rfl
  | lockToTake _ _ | lockToRegister _ _ => rfl
  | lockToRemove i id free =>
    rw [locks] at free
    have unlocked : ¬ (withAgenda c.world (rest.filterMap Work.task?)).isLocked i :=
      fun locked => free ((isLocked_iff plain).mp locked)
    refine Eq.trans ?_ (if_neg unlocked).symm
    rw [List.singleton_append, Nesting.seen, finish, map_removed]
    rfl
  | unlock i =>
    rw [List.nil_append, seen_of_isPlain plain]
    rfl
  | spare i held =>
    rw [List.nil_append, seen_of_isPlain plain]
    exact (if_pos held).symm
  | abandon i lost =>
    refine (outside (fun _ among => (plain_of_mem_dropping among).1) _).trans ?_
    refine Eq.trans ?_ (if_neg (ne_true_of_eq_false lost)).symm
    rw [filterMap_dropping, matched.waitingOn, map_pendingOf]
    rfl
  | take inside i =>
    have pending : (c.waitingOn i).map (fun e => Task.call e.callback) =
        (pendingOf c.world i).map fun p => .call p.2 := by
      rw [← matched i, Store.waitingOn, List.map_map, List.map_map]
      rfl
    refine (outside (fun y among => (plain_of_mem_calls y among).1) _).trans ?_
    rw [filterMap_calls, pending]
    rfl
  | gone inside e missing =>
    rw [List.nil_append, seen_of_isPlain plain]
    simp only [Nesting.seen, finish, found missing]
    rfl
  | late inside e t present up =>
    simp only [Nesting.seen, finish, found present, if_pos up]
    rfl
  | enlist inside e t present clear =>
    simp only [Nesting.seen, finish, found present, if_neg clear]
    rfl
  | remove i id =>
    refine (outside (List.forall_mem_append.mpr
      ⟨fun _ among => (plain_of_mem_dropping among).1, by simp⟩) _).trans ?_
    rw [List.filterMap_append, filterMap_dropping, matched.removed]
    rfl

/-! ### Runs of scripts -/

theorem run_of_agenda_eq_nil (none : w.agenda = []) (fuel : ℕ) : World.run fuel w = w := by
  cases fuel with
  | zero => rfl
  | succ fuel => rw [World.run, none, List.isEmpty_nil, if_pos rfl]

theorem run_of_step_eq (stays : w.step = w) (fuel : ℕ) : World.run fuel w = w := by
  induction fuel with
  | zero => rfl
  | succ fuel ih => rw [World.run, stays, ih, ite_self]

theorem run_succ (some : w.agenda ≠ []) (fuel : ℕ) : World.run (fuel + 1) w = World.run fuel w.step := by
  rw [World.run, List.isEmpty_eq_false_iff.mpr some, if_neg Bool.false_ne_true]

theorem seen_ne_nil (plain : x.isPlain) : (seen w (x :: rest)).agenda ≠ [] := by
  obtain ⟨task, is⟩ := exists_task plain
  rw [seen, finish_of_isPlain plain, is]
  exact List.cons_ne_nil _ _

namespace State

theorem Sound.plain_of_tail (sound : s.Sound) (shape : s.agenda = x :: rest) : ∀ y ∈ rest, y.isPlain := by
  have order := sound.order
  rw [shape] at order
  exact fun y among => ((List.pairwise_cons.mp order).1 y among).1

/-- A script that waits for a lock looks like one that waits for it. -/
theorem Sound.stays (sound : s.Sound) (stuck : s.IsDeadlocked) :
    (seen s.store.world s.agenda).step = seen s.store.world s.agenda ∧
      (seen s.store.world s.agenda).agenda ≠ [] := by
  obtain ⟨i, id, rest, shape, held⟩ := stuck
  have locked : (withAgenda s.store.world (rest.filterMap Work.task?)).isLocked i := by
    rw [isLocked_iff (sound.plain_of_tail shape)]
    rw [sound.locks, shape] at held
    exact held
  rw [shape]
  refine ⟨?_, seen_ne_nil rfl⟩
  exact if_pos locked

/-- The agenda is worked off, to its end or to a lock that is waited for, and with enough fuel running it from
outside comes to the same. -/
theorem Sound.runs (sound : s.Sound) (fuel : ℕ) (enough : (s.agenda.map Work.load).sum + s.store.load ≤ fuel) :
    ∃ t, Leads s t ∧ (t.agenda = [] ∨ t.IsDeadlocked) ∧ t.later = s.later ∧ t.out = s.out ∧
      t.store.load ≤ (s.agenda.map Work.load).sum + s.store.load ∧
      seen t.store.world t.agenda = World.run fuel (seen s.store.world s.agenda) := by
  induction load : (s.agenda.map Work.load).sum + s.store.load using Nat.strong_induction_on
    generalizing s fuel with
  | _ n ih =>
    by_cases stuck : s.IsDeadlocked
    · exact ⟨s, .refl, .inr stuck, rfl, rfl, by omega, (run_of_step_eq (sound.stays stuck).1 fuel).symm⟩
    cases shape : s.agenda with
    | nil =>
      refine ⟨s, .refl, .inl shape, rfl, rfl, by omega, ?_⟩
      rw [shape, run_of_agenda_eq_nil rfl]
    | cons x rest =>
      obtain ⟨works, c', acted, stepped⟩ := sound.exists_step shape stuck
      have less := (acts acted).load
      have plain := sound.plain_of_tail shape
      have locks : s.store.locks = x.held ++ rest.flatMap Work.held := by
        rw [sound.locks, shape, List.flatMap_cons]
      rw [shape, List.map_cons, List.sum_cons] at load enough
      have total : ((works ++ rest).map Work.load).sum + c'.load =
          (works.map Work.load).sum + (rest.map Work.load).sum + c'.load := by
        rw [List.map_append, List.sum_append]
      have outside := (acts acted).seen sound.matched plain locks
      obtain ⟨fuel, rfl⟩ : ∃ m, fuel = m + 1 := ⟨fuel - 1, by omega⟩
      -- A whole operation takes one unit of the fuel, and the rest of one none.
      cases whole : x.isPlain with
      | true =>
        obtain ⟨t, leads, ended, later, out, bound, same⟩ :=
          ih _ (by omega) (sound.step stepped) fuel (by rw [total]; omega) total
        refine ⟨t, .head stepped leads, ended, later, out, by omega, ?_⟩
        rw [same, outside, if_pos whole, run_succ (seen_ne_nil whole)]
      | false =>
        obtain ⟨t, leads, ended, later, out, bound, same⟩ :=
          ih _ (by omega) (sound.step stepped) (fuel + 1) (by rw [total]; omega) total
        refine ⟨t, .head stepped leads, ended, later, out, by omega, ?_⟩
        rw [same, outside, if_neg (by rw [whole]; exact Bool.false_ne_true)]

end State

section turn

variable {reports : List (Answer × List String)} {w' : World} {fuel : ℕ} {st : Step}

theorem turn_eq (idle : w.agenda = [])
    (ran : w' = World.run fuel { w with log := [], answers := [], agenda := [.perform none st] }) :
    turn fuel (reports, w) st =
      (if w'.agenda.isEmpty then (w'.answers.headD .unknown, w'.log.reverse) :: reports else reports, w') := by
  subst ran
  exact if_pos (List.isEmpty_iff.mpr idle)

/-- A step that comes to its end is reported on. -/
theorem turn_of_ended (idle : w.agenda = [])
    (ran : w' = World.run fuel { w with log := [], answers := [], agenda := [.perform none st] })
    (ended : w'.agenda = []) :
    turn fuel (reports, w) st = ((w'.answers.headD .unknown, w'.log.reverse) :: reports, w') := by
  rw [turn_eq idle ran, if_pos (List.isEmpty_iff.mpr ended)]

theorem turn_of_waits (idle : w.agenda = [])
    (ran : w' = World.run fuel { w with log := [], answers := [], agenda := [.perform none st] })
    (waits : w'.agenda ≠ []) : turn fuel (reports, w) st = (reports, w') := by
  rw [turn_eq idle ran, if_neg fun ended => waits (List.isEmpty_iff.mp ended)]

end turn

/-- Once a step waits for a lock, the rest of the script changes nothing. -/
theorem foldl_turn_of_ne_nil {reports : List (Answer × List String)} (some : w.agenda ≠ []) (fuel : ℕ)
    (steps : List Step) : steps.foldl (turn fuel) (reports, w) = (reports, w) := by
  induction steps with
  | nil => rfl
  | cons st steps ih =>
    have stays : turn fuel (reports, w) st = (reports, w) :=
      if_neg fun none => some (List.isEmpty_iff.mp none)
    rw [List.foldl_cons, stays, ih]

namespace State

/-- The rest of a script is carried out, to its end or to a lock that is waited for, and its reports are those from
outside. -/
theorem Sound.finishes {fuel place : ℕ} {steps : List Step} (sound : s.Sound) (idle : s.agenda = [])
    (later : s.later = turns place steps) (enough : 10 * countAll steps + s.store.load ≤ fuel) :
    ∃ t, Leads s t ∧ (t.IsOver ∧ t.out.length = s.out.length + steps.length ∨ t.IsDeadlocked) ∧
      t.out = (steps.foldl (turn fuel) (s.out.reverse, seen s.store.world [])).1.reverse := by
  induction steps generalizing s place with
  | nil => exact ⟨s, .refl, .inl ⟨⟨idle, later⟩, rfl⟩, (List.reverse_reverse _).symm⟩
  | cons st steps ih =>
    obtain ⟨c, agenda, _, out⟩ := s
    cases idle
    cases later
    rw [countAll] at enough
    change 10 * (st.count + countAll steps) + c.load ≤ fuel at enough
    obtain ⟨u, leads, ended, left, same, bound, outside⟩ := (sound.step rfl).runs fuel (by
      change 10 * st.count + 0 + c.load ≤ fuel
      omega)
    have begun := (sound.step rfl).leads leads
    have outside : seen u.store.world u.agenda = World.run fuel
        { seen c.world [] with log := [], answers := [], agenda := [.perform none st] } := outside
    obtain ended | stuck := ended
    · obtain ⟨d, agenda, _, _⟩ := u
      cases ended
      cases left
      cases same
      obtain ⟨t, goesOn, done, total⟩ := ih (begun.step rfl) rfl rfl (by
        change d.load ≤ 10 * st.count + 0 + c.load at bound
        change 10 * countAll steps + d.load ≤ fuel
        omega)
      refine ⟨t, .head rfl (leads.trans (.head rfl goesOn)), ?_, ?_⟩
      · refine done.imp_left fun ⟨isOver, all⟩ => ⟨isOver, all.trans ?_⟩
        rw [List.length_append, List.length_singleton, List.length_cons, Nat.add_assoc, Nat.add_comm 1]
      · rw [total, List.foldl_cons, turn_of_ended rfl outside rfl, List.reverse_append]
        rfl
    · have waits := (begun.stays stuck).2
      refine ⟨u, .head rfl leads, .inr stuck, ?_⟩
      rw [List.foldl_cons, turn_of_waits rfl outside waits, foldl_turn_of_ne_nil waits, List.reverse_reverse, same]

/-- There is a next step as long as something is left to do, unless a lock is waited for. -/
theorem Sound.step_eq_none_iff (sound : s.Sound) : s.step = none ↔ s.IsOver ∨ s.IsDeadlocked := by
  constructor
  · intro stuck
    by_cases locked : s.IsDeadlocked
    · exact .inr locked
    refine .inl ?_
    cases shape : s.agenda with
    | cons x rest =>
      obtain ⟨works, c', -, stepped⟩ := sound.exists_step shape locked
      rw [stuck] at stepped
      cases stepped
    | nil =>
      obtain ⟨c, agenda, later, out⟩ := s
      cases shape
      cases later with
      | nil => exact ⟨rfl, rfl⟩
      | cons turn later => cases turn <;> cases stuck
  · obtain ⟨c, agenda, later, out⟩ := s
    rintro (⟨⟨⟩, ⟨⟩⟩ | ⟨i, id, rest, ⟨⟩, held⟩)
    · rfl
    · rw [step_cons, Store.act, Store.lock, if_pos held]
      rfl

/-- The token that raises its flag runs the callbacks that wait on it, in their order, all of them unless a lock is
waited for in one. -/
theorem Sound.fires {t : Token Callback} (sound : s.Sound) (shape : s.agenda = .swap inside i :: rest)
    (found : s.store.world.tokens[i]? = some t) (clear : t.cancelled = false) :
    ∃ u called ran, s.Leads u ∧ u.store.ran = s.store.ran ++ ran ∧ called.Sublist ran ∧
      called <+: s.store.waitingOn i ∧ (u.agenda = rest ∧ called = s.store.waitingOn i ∨ u.IsDeadlocked) := by
  have locks : s.store.locks = [] := sound.locks_of_not_isLink shape rfl
  obtain ⟨c, agenda, later, out⟩ := s
  cases shape
  let raised : Store := { c with world := change c.world i Token.raise }
  have swapped : State.step ⟨c, .swap inside i :: rest, later, out⟩ =
      some ⟨raised, .lockToTake inside i :: rest, later, out⟩ := by
    rw [step_cons, Store.act, show c.world.tokens[i]? = some t from found]
    simp [clear, raised]
  have free : i ∉ raised.locks := by
    rw [show raised.locks = [] from locks]
    exact List.not_mem_nil
  have locked : State.step ⟨raised, .lockToTake inside i :: rest, later, out⟩ =
      some ⟨{ raised with locks := i :: raised.locks }, .take inside i :: rest, later, out⟩ := by
    rw [step_cons, Store.act, Store.lock_of_free free]
    rfl
  obtain ⟨u, called, ran, leads, same, sub, first, done⟩ :=
    (((sound.step swapped).step locked).step rfl).calls rfl
  exact ⟨u, called, ran, .head swapped (.head locked (.head rfl leads)), same, sub, first, done⟩

/-- A registration on a cancelled token runs its callback before it is kept. -/
theorem Sound.calls_back {e : Entry} (sound : s.Sound) (shape : s.agenda = .register inside e :: rest)
    (up : isRaised s.store.world e.token) :
    ∃ u ran, s.Leads u ∧ (u.agenda = .keep e.callback.label {} :: rest ∨ u.IsDeadlocked) ∧
      u.store.ran = s.store.ran ++ e :: ran := by
  obtain ⟨works, c', acted, stepped⟩ := sound.exists_step shape (not_isDeadlocked_of_isLink shape rfl)
  cases acts acted with
  | gone _ _ missing => simp [isRaised, missing] at up
  | late _ _ _ _ _ =>
    obtain ⟨u, ran, leads, left, same⟩ := (sound.step stepped).call rfl
    exact ⟨u, ran, .head stepped leads, left, same⟩
  | enlist _ _ _ found clear => exact absurd ((isRaised_of_tokens found).symm.trans up) clear

/-- Inside of a callback, cancelling its token again changes nothing. -/
theorem Sound.futile (sound : s.Sound) (shape : s.agenda = .swap inside i :: rest)
    (inner : i ∈ inside.map Entry.token) : s.step = some { s with agenda := rest } := by
  obtain ⟨works, c', acted, stepped⟩ := sound.exists_step shape (not_isDeadlocked_of_isLink shape rfl)
  have up := sound.raised (.swap inside i) (shape ▸ List.mem_cons_self) i inner
  cases acts acted with
  | refuse _ _ _ => exact stepped
  | raise _ _ _ found clear => exact absurd ((isRaised_of_tokens found).symm.trans up) clear

end State

/-! ### Scripts -/

/-- Of two callbacks, the first one unregisters the second, cancels the token again and registers a third. -/
def quarrel : List Step := [
  .create "t",
  .onCancel "t" "a" [.unregister "b", .cancel "t", .onCancel "t" "c" [.cancel "t"]],
  .onCancel "t" "b" [],
  .cancel "t"]

/-- A callback that owns the registration of another one is removed before it ran. -/
def embrace : List Step := [
  .create "t",
  .onCancel "t" "a" [],
  .onCancel "t" "b" [] ["a"],
  .unregister "b"]

end PseudoTerminal.Cancellation.Nesting
