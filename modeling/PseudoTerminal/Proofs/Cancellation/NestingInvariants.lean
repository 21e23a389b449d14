import PseudoTerminal.Proofs.Cancellation.Nesting

/-! What holds all along a script with nested callbacks. What runs inside of a callback runs after its token has
been cancelled. The waiting callbacks are those of the tokens, in the order of their registration. Callbacks are
not doubled, so that each runs once at most. Whatever is in front of the agenda is worked off, with the callbacks
that are called in turn, unless the script comes to wait for a lock that it holds; and it does not where callbacks
own no registrations. -/

namespace PseudoTerminal.Cancellation.Nesting

open Script

variable {w : World} {i : ℕ} {inside : List Entry} {x : Work} {works : List Work} {c c' : Store}

/-! ### Flags -/

theorem isRaised_of_tokens {t : Token Callback} (found : w.tokens[i]? = some t) : isRaised w i = t.cancelled := by
  rw [isRaised, found]
  rfl

/-- A token that a step creates is like one that is not there: its flag is down, and no callback waits on it. -/
theorem getD_tokens_begin {β : Type} (f : Token Callback → β) (w : World) (place : ℕ) (inside : List Entry)
    (s : Step) (i : ℕ) :
    ((begin w place inside s).2.tokens[i]?.map f).getD (f {}) = (w.tokens[i]?.map f).getD (f {}) := by
  obtain tokens | tokens := (begun w place inside s).tokens
  · rw [tokens]
  · rw [tokens, List.getElem?_append]
    split_ifs with old
    · rfl
    · rw [List.getElem?_eq_none (not_lt.mp old), List.getElem?_singleton]
      split_ifs <;> rfl

theorem isRaised_change {f : Token Callback → Token Callback} {j : ℕ}
    (keeps : ∀ t, w.tokens[j]? = some t → t.cancelled → (f t).cancelled) (up : isRaised w i) :
    isRaised (change w j f) i := by
  rw [isRaised, change, List.getElem?_modify]
  unfold isRaised at up
  cases found : w.tokens[i]? with
  | none => simp [found] at up
  | some t =>
    simp only [found, Option.map_some, Option.getD_some] at up
    by_cases same : j = i
    · simpa [same] using keeps t (same ▸ found) up
    · simpa [same] using up

theorem isRaised_change_raise {t : Token Callback} (found : w.tokens[i]? = some t) :
    isRaised (change w i Token.raise) i := by
  simp [isRaised, change, found, Token.raise]

theorem Store.token_of_mem_waitingOn {e : Entry} (waits : e ∈ c.waitingOn i) : e.token = i := by
  obtain ⟨v, among, rfl⟩ := List.mem_map.mp waits
  exact beq_iff_eq.mp (List.mem_filter.mp among).2

theorem isRaised_record (w : World) (owner : Option String) (word : String) (a : Answer) :
    isRaised (w.record owner word a) i = isRaised w i := by
  cases owner <;> rfl

theorem Acts.isRaised (acts : Acts c x works c') (up : isRaised c.world i) : isRaised c'.world i := by
  cases acts with
  | perform place inside s => exact (getD_tokens_begin Token.cancelled c.world place inside s i).trans up
  | answer _ _ _ | answerCancelled _ _ _ => rwa [isRaised_record]
  | call _ _ | keep _ _ | refuse _ _ _ | gone _ _ _ | late _ _ _ _ _ | unlock _ | spare _ _ => exact up
  | lockToTake _ _ | lockToRegister _ _ | lockToRemove _ _ _ => exact up
  | raise _ _ _ _ _ => exact isRaised_change (fun _ _ _ => rfl) up
  | take _ _ | enlist _ _ _ _ _ | remove _ _ | abandon _ _ => exact isRaised_change (fun _ _ same => same) up

theorem raised_of_mem_releasing {rs : List Registration} (among : x ∈ releasing rs) : x.raised = [] := by
  obtain ⟨i, id, rfl⟩ := mem_releasing among
  rfl

theorem raised_of_mem_dropping {entries : List Entry}
    (among : x ∈ entries.flatMap (releasing ·.callback.owned)) : x.raised = [] := by
  obtain ⟨e, -, among⟩ := List.mem_flatMap.mp among
  exact raised_of_mem_releasing among

/-- What runs inside of callbacks runs after the tokens of those have been cancelled. -/
theorem Acts.raised (acts : Acts c x works c') (up : ∀ i ∈ x.raised, Nesting.isRaised c.world i) :
    ∀ y ∈ works, ∀ i ∈ y.raised, Nesting.isRaised c'.world i := by
  intro y among i inner
  have outer (around : i ∈ x.raised) : Nesting.isRaised c'.world i := acts.isRaised (up i around)
  cases acts with
  | perform place inside s => exact outer ((begun c.world place inside s).raised y among inner)
  | call inside e =>
    obtain steps | own := List.mem_append.mp among
    · obtain ⟨_, -, rfl⟩ := List.mem_map.mp steps
      exact outer inner
    · rw [raised_of_mem_releasing own] at inner
      cases inner
  | keep label r =>
    rw [raised_of_mem_releasing among] at inner
    cases inner
  | abandon j _ =>
    rw [raised_of_mem_dropping among] at inner
    cases inner
  | remove j id =>
    obtain own | last := List.mem_append.mp among
    · rw [raised_of_mem_dropping own] at inner
      cases inner
    · rw [List.mem_singleton.mp last] at inner
      cases inner
  | answer _ _ _ | answerCancelled _ _ _ | refuse _ _ _ | gone _ _ _ | unlock _ | spare _ _ => cases among
  | lockToTake _ _ | lockToRegister _ _ | lockToRemove _ _ _ =>
    rw [List.mem_singleton] at among
    subst among
    exact outer inner
  | raise inside j t found clear =>
    rw [List.mem_singleton] at among
    subst among
    rw [Work.raised, List.mem_cons] at inner
    obtain rfl | inner := inner
    · exact isRaised_change_raise found
    · exact outer inner
  | take inside j =>
    obtain ⟨e, waits, rfl⟩ := List.mem_map.mp among
    rw [Work.raised, Store.token_of_mem_waitingOn waits] at inner
    exact outer inner
  | late inside e t found cancelled =>
    simp only [List.mem_cons, List.not_mem_nil, or_false] at among
    obtain rfl | rfl := among
    · rw [Work.raised, List.mem_cons] at inner
      obtain rfl | inner := inner
      · exact (isRaised_of_tokens found).trans cancelled
      · exact outer inner
    · cases inner
  | enlist _ _ _ _ _ =>
    rw [List.mem_singleton] at among
    subst among
    cases inner

/-! ### Waiting callbacks -/

/-- The waiting callbacks of a token, with their ids. -/
def pendingOf (w : World) (i : ℕ) : List (ℕ × Callback) := (w.tokens[i]?.map Token.pending).getD []

/-- Whether the waiting callbacks are those of the tokens. -/
def Store.Matches (c : Store) : Prop :=
  ∀ i, (c.waiting.filter (·.entry.token == i)).map (fun x => (x.id, x.entry.callback)) = pendingOf c.world i

theorem pendingOf_change_of_ne {f : Token Callback → Token Callback} {j : ℕ} (other : i ≠ j) :
    pendingOf (change w i f) j = pendingOf w j := by
  simp [pendingOf, change, other]

theorem pendingOf_change (w : World) (i : ℕ) (f : Token Callback → Token Callback) :
    pendingOf (change w i f) i = (w.tokens[i]?.map fun t => (f t).pending).getD [] := by
  simp [pendingOf, change, Function.comp_def]

theorem filter_token_of_ne {j : ℕ} (other : j ≠ i) (p : Waiter → Bool)
    (spares : ∀ v : Waiter, v.entry.token ≠ j → p v) (waiting : List Waiter) :
    (waiting.filter p).filter (·.entry.token == i) = waiting.filter (·.entry.token == i) := by
  rw [List.filter_filter]
  refine List.filter_congr fun v _ => ?_
  cases on : v.entry.token == i with
  | false => rfl
  | true => rw [Bool.true_and, spares v (by rw [beq_iff_eq.mp on]; exact other.symm)]

theorem pendingOf_record (w : World) (owner : Option String) (word : String) (a : Answer) (i : ℕ) :
    pendingOf (w.record owner word a) i = pendingOf w i := by
  cases owner <;> rfl

theorem Store.Matches.raise (matched : c.Matches) (i : ℕ) :
    Store.Matches { c with world := change c.world i Token.raise } := by
  intro j
  refine (matched j).trans ?_
  by_cases same : i = j
  · subst same
    rw [pendingOf_change]
    rfl
  · rw [pendingOf_change_of_ne same]

theorem Store.Matches.take (matched : c.Matches) (i : ℕ) : (c.take i).Matches := by
  intro j
  by_cases same : i = j
  · subst same
    have none : (c.waiting.filter (·.entry.token != i)).filter (·.entry.token == i) = [] := by
      simp [List.filter_filter]
    rw [Store.take, none, pendingOf_change]
    cases c.world.tokens[i]? <;> rfl
  · rw [Store.take, pendingOf_change_of_ne same, ← matched j]
    exact congrArg _ (filter_token_of_ne same _ (fun _ => bne_iff_ne.mpr) c.waiting)

theorem Store.Matches.enlist {t : Token Callback} {e : Entry} (matched : c.Matches)
    (found : c.world.tokens[e.token]? = some t) : (c.enlist e t.nextId).Matches := by
  intro j
  have before := matched j
  by_cases same : e.token = j
  · subst same
    rw [pendingOf, found] at before
    rw [Store.enlist, pendingOf_change, found]
    simp [before, Token.enlist]
  · rw [Store.enlist, pendingOf_change_of_ne same, ← before]
    simp [same]

theorem Store.Matches.remove (matched : c.Matches) (i id : ℕ) : (c.remove i id).Matches := by
  intro j
  by_cases same : i = j
  · subst same
    have others : (c.waiting.filter fun x => !(x.entry.token == i && x.id == id)).filter (·.entry.token == i) =
        (c.waiting.filter (·.entry.token == i)).filter (·.id != id) := by
      rw [List.filter_filter, List.filter_filter]
      refine List.filter_congr fun v _ => ?_
      cases v.entry.token == i <;> simp [bne]
    have removed : pendingOf (change c.world i (·.unregister id)) i =
        (pendingOf c.world i).filter (·.1 != id) := by
      rw [pendingOf_change, pendingOf]
      cases c.world.tokens[i]? <;> rfl
    rw [Store.remove, others, removed, ← matched i, List.filter_map]
    rfl
  · rw [Store.remove, pendingOf_change_of_ne same, ← matched j]
    exact congrArg _ (filter_token_of_ne same _ (fun _ other => by simp [other]) c.waiting)

theorem Acts.matched (acts : Acts c x works c') (matched : c.Matches) : c'.Matches := by
  cases acts with
  | perform place inside s =>
    exact fun i => (matched i).trans (getD_tokens_begin Token.pending c.world place inside s i).symm
  | answer _ _ _ | answerCancelled _ _ _ => exact fun i => (matched i).trans (pendingOf_record _ _ _ _ i).symm
  | call _ _ | keep _ _ | refuse _ _ _ | gone _ _ _ | late _ _ _ _ _ | unlock _ | spare _ _ => exact matched
  | lockToTake _ _ | lockToRegister _ _ | lockToRemove _ _ _ => exact matched
  | raise _ i _ _ _ => exact matched.raise i
  | take _ i | abandon i _ => exact matched.take i
  | enlist _ _ _ found _ => exact matched.enlist found
  | remove i id => exact matched.remove i id

theorem Store.queue_remove_sublist (c : Store) (i id : ℕ) : (c.remove i id).queue.Sublist c.queue :=
  List.filter_sublist.map _

theorem Acts.enlisted (acts : Acts c x works c') (ordered : c.queue.Sublist c.enlisted) :
    c'.queue.Sublist c'.enlisted := by
  cases acts with
  | take _ i | abandon i _ => exact (List.filter_sublist.map _).trans ordered
  | remove i id => exact (c.queue_remove_sublist i id).trans ordered
  | enlist _ e t _ _ =>
    change (c.enlist e t.nextId).queue.Sublist (c.enlisted ++ [e])
    rw [Store.queue_enlist]
    exact ordered.append_right [e]
  | _ => exact ordered

theorem Acts.ran (acts : Acts c x works c') : ∃ new, c'.ran = c.ran ++ new := by
  cases acts with
  | call _ e => exact ⟨[e], rfl⟩
  | _ => exact ⟨[], (List.append_nil _).symm⟩

/-! ### What is written where -/

/-- A callback at its place. -/
def Entry.key (e : Entry) : ℕ × Routine := (e.place, e.callback.toRoutine)

/-- The callbacks that ran, and those that waiting ones can bring. -/
def account (ran queue : List Entry) : Multiset (ℕ × Routine) :=
  ↑(ran.map Entry.key) + ↑(queue.flatMap Entry.written)

section account

variable {ran queue queue' : List Entry} {e : Entry}

theorem coe_written (e : Entry) :
    (e.written : Multiset (ℕ × Routine)) = {e.key} + ↑(written (e.place + 1) e.callback.body) := by
  rw [Multiset.singleton_add, Multiset.cons_coe]
  rfl

theorem account_ran_append : account (ran ++ [e]) queue = {e.key} + account ran queue := by
  rw [account, List.map_append, ← Multiset.coe_add]
  exact (add_right_comm _ _ _).trans (add_comm _ _)

theorem account_queue_perm (parted : (queue ++ queue').Perm c.queue) :
    ↑(queue.flatMap Entry.written) + account ran queue' = account ran c.queue := by
  have parted := Multiset.coe_eq_coe.mpr (parted.flatMap_right Entry.written)
  rw [List.flatMap_append, ← Multiset.coe_add] at parted
  rw [account, account, ← parted, add_left_comm]

theorem account_queue_append : account ran (queue ++ [e]) = ↑e.written + account ran queue := by
  rw [account, List.flatMap_append, List.flatMap_singleton, ← Multiset.coe_add, ← add_assoc, add_comm]
  rfl

theorem account_mono (fewer : queue.Sublist queue') : account ran queue ≤ account ran queue' :=
  add_le_add_right (Multiset.coe_le.mpr (fewer.flatMap _).subperm) _

end account

theorem flatMap_numbered (place : ℕ) (body : List Step) :
    (numbered place body).flatMap (fun (place, s) => writtenIn place s) = written place body := by
  induction body generalizing place with
  | nil => rfl
  | cons s body ih => rw [numbered, List.flatMap_cons, ih, written]

theorem written_releasing (rs : List Registration) : (releasing rs).flatMap Work.written = [] := by
  refine List.flatMap_eq_nil_iff.mpr fun x among => ?_
  obtain ⟨i, id, rfl⟩ := mem_releasing among
  rfl

theorem written_dropping (entries : List Entry) :
    (entries.flatMap (releasing ·.callback.owned)).flatMap Work.written = [] := by
  rw [List.flatMap_assoc]
  exact List.flatMap_eq_nil_iff.mpr fun e _ => written_releasing e.callback.owned

/-- Callbacks are neither made nor doubled by a piece of work. -/
theorem Acts.account (acts : Acts c x works c') :
    ↑(works.flatMap Work.written) + account c'.ran c'.queue ≤ ↑x.written + account c.ran c.queue := by
  cases acts with
  | perform place inside s =>
    exact add_le_add_left (Multiset.coe_le.mpr (begun c.world place inside s).written.subperm) _
  | call inside e =>
    rw [List.flatMap_append, written_releasing, List.append_nil, List.flatMap_map, account_ran_append,
      Work.written, coe_written, add_assoc, add_left_comm]
    exact le_of_eq (congrArg (fun l => {e.key} + (↑l + Nesting.account c.ran c.queue)) (flatMap_numbered _ _))
  | keep label r =>
    rw [replacing, written_releasing]
    exact le_rfl
  | take inside i =>
    rw [List.flatMap_map]
    exact le_of_eq ((account_queue_perm (c.queue_perm i)).trans (zero_add _).symm)
  | abandon i _ =>
    rw [written_dropping]
    exact add_le_add_right (account_mono (List.filter_sublist.map _)) _
  | gone _ _ _ => exact add_le_add_left (Multiset.zero_le _) _
  | lockToTake _ _ | lockToRegister _ _ | lockToRemove _ _ _ | late _ _ _ _ _ =>
    exact add_le_add_left (by simp) _
  | enlist inside e t _ _ =>
    refine le_of_eq ((zero_add _).trans ?_)
    rw [Work.written, ← account_queue_append, ← Store.queue_enlist]
    rfl
  | remove i id =>
    rw [List.flatMap_append, written_dropping]
    exact add_le_add_right (account_mono (c.queue_remove_sublist i id)) _
  | answer _ _ _ | answerCancelled _ _ _ | refuse _ _ _ | raise _ _ _ _ _ | unlock _ | spare _ _ => exact le_rfl

/-- Whether callbacks are in the order of their places, which are from one on and below another one. -/
structure Between (low high : ℕ) (l : List (ℕ × Routine)) : Prop where
  ascending : l.Pairwise fun p q => p.1 < q.1
  bounds : ∀ p ∈ l, low ≤ p.1 ∧ p.1 < high

theorem Between.append {low middle high : ℕ} {l l' : List (ℕ × Routine)} (front : Between low middle l)
    (back : Between middle high l') (le : low ≤ middle) (le' : middle ≤ high) : Between low high (l ++ l') where
  ascending := List.pairwise_append.mpr ⟨front.ascending, back.ascending, fun p among q among' =>
    lt_of_lt_of_le (front.bounds p among).2 (back.bounds q among').1⟩
  bounds := List.forall_mem_append.mpr
    ⟨fun p among => ⟨(front.bounds p among).1, lt_of_lt_of_le (front.bounds p among).2 le'⟩,
      fun p among => ⟨le.trans (back.bounds p among).1, (back.bounds p among).2⟩⟩

theorem Between.mono {low middle high : ℕ} {l : List (ℕ × Routine)} (between : Between low middle l)
    (le : middle ≤ high) : Between low high l where
  ascending := between.ascending
  bounds p among := ⟨(between.bounds p among).1, lt_of_lt_of_le (between.bounds p among).2 le⟩

theorem Between.cons {low high : ℕ} {l : List (ℕ × Routine)} (between : Between (low + 1) high l)
    (lt : low < high) (f : Routine) : Between low high ((low, f) :: l) where
  ascending := List.pairwise_cons.mpr ⟨fun p among => (between.bounds p among).1, between.ascending⟩
  bounds := List.forall_mem_cons.mpr
    ⟨⟨le_rfl, lt⟩, fun p among => ⟨Nat.le_of_succ_le (between.bounds p among).1, (between.bounds p among).2⟩⟩

mutual

theorem between_writtenIn (place : ℕ) : ∀ s : Step, Between place (place + s.count) (writtenIn place s)
  | .onCancel name label body owned =>
    (between_written (place + 1) body).mono (by simp only [Step.count]; omega)
      |>.cons (by simp only [Step.count]; omega) _
  | .create _ | .createDefault _ | .clone _ _ | .createTimed _ _ | .cancel _ | .isCancelled _ | .describe _
  | .drop _ | .await _ _ | .cancelTogether _ _ | .unregister _ => ⟨.nil, nofun⟩

theorem between_written (place : ℕ) : ∀ l : List Step, Between place (place + countAll l) (written place l)
  | [] => ⟨.nil, nofun⟩
  | s :: rest => by
    have back := between_written (place + s.count) rest
    rw [Nat.add_assoc] at back
    exact (between_writtenIn place s).append back (by omega) (by simp only [countAll]; omega)

end

/-- The places of the callbacks of a script tell them apart. -/
theorem nodup_places (script : List Step) : ((written 0 script).map Prod.fst).Nodup :=
  List.pairwise_map.mpr ((between_written 0 script).ascending.imp fun lt => lt.ne)

/-- The callbacks that a turn of the script can bring to run. -/
def Turn.written : Turn → List (ℕ × Routine)
  | perform place s => writtenIn place s
  | report => []

/-! ### Runs -/

namespace State

variable {s t : State} {front rest : List Work}

/-- What holds in every state of a run. -/
structure Sound (s : State) : Prop where
  locks : s.store.locks = s.agenda.flatMap Work.held
  order : InOrder s.agenda
  raised : ∀ x ∈ s.agenda, ∀ i ∈ x.raised, isRaised s.store.world i
  matched : s.store.Matches
  enlisted : s.store.queue.Sublist s.store.enlisted

theorem step_cons {later : List Turn} {out : List (Answer × List String)} :
    (State.mk c (x :: rest) later out).step =
      (c.act x).map fun (works, store) => ⟨store, works ++ rest, later, out⟩ := rfl

theorem Sound.start (script : List Step) : (start script).Sound where
  locks := rfl
  order := .nil
  raised := nofun
  matched _ := rfl
  enlisted := .slnil

/-- In front of anything but the dropping of a registration, no lock is held for what is behind it. -/
theorem Sound.locks_of_not_isLink (sound : s.Sound) (shape : s.agenda = x :: rest) (whole : x.isLink = false) :
    s.store.locks = x.held := by
  have order := sound.order
  rw [shape] at order
  have behind : rest.flatMap Work.held = [] := by
    refine List.flatMap_eq_nil_iff.mpr fun y among => ?_
    obtain none | link := ((List.pairwise_cons.mp order).1 y among).2
    · exact none
    · rw [whole] at link
      cases link
  rw [sound.locks, shape, List.flatMap_cons, behind, List.append_nil]

/-- A state with work to do goes on, unless it waits for a lock that it holds. -/
theorem Sound.exists_step (sound : s.Sound) (shape : s.agenda = x :: rest) (free : ¬ s.IsDeadlocked) :
    ∃ works c', s.store.act x = some (works, c') ∧
      s.step = some { s with store := c', agenda := works ++ rest } := by
  have locks : x.isLink ∨ s.store.locks = x.held := by
    cases link : x.isLink with
    | true => exact .inl rfl
    | false => exact .inr (sound.locks_of_not_isLink shape link)
  have free (i id : ℕ) (is : x = .lockToRemove i id) : i ∉ s.store.locks :=
    fun held => free ⟨i, id, rest, is ▸ shape, held⟩
  obtain ⟨works, c', acted⟩ := Store.exists_act locks free
  refine ⟨works, c', acted, ?_⟩
  obtain ⟨c, agenda, later, out⟩ := s
  cases shape
  rw [step_cons, acted]
  rfl

theorem Sound.step (sound : s.Sound) (stepped : s.step = some t) : t.Sound := by
  obtain ⟨c, agenda, later, out⟩ := s
  cases agenda with
  | cons x rest =>
    rw [step_cons, Option.map_eq_some_iff] at stepped
    obtain ⟨⟨works, c'⟩, acted, rfl⟩ := stepped
    obtain ⟨front, back⟩ := List.pairwise_cons.mp sound.order
    have up := List.forall_mem_cons.mp sound.raised
    have acts := acts acted
    exact {
      locks := (acts.locks sound.locks).trans List.flatMap_append.symm
      order := List.pairwise_append.mpr ⟨acts.order, back, fun y among z behind =>
        ⟨(front z behind).1, (front z behind).2.imp_right fun link => acts.isLink link y among⟩⟩
      raised := List.forall_mem_append.mpr
        ⟨acts.raised up.1, fun y among i inner => acts.isRaised (up.2 y among i inner)⟩
      matched := acts.matched sound.matched
      enlisted := acts.enlisted sound.enlisted }
  | nil =>
    cases later with
    | nil => cases stepped
    | cons turn later =>
      cases turn with
      | perform place st =>
        cases stepped
        exact ⟨sound.locks, List.pairwise_singleton _ _, by simp, sound.matched, sound.enlisted⟩
      | report =>
        cases stepped
        exact ⟨sound.locks, .nil, List.forall_mem_nil _, sound.matched, sound.enlisted⟩

theorem Sound.leads (sound : s.Sound) (leads : Leads s t) : t.Sound := by
  induction leads with
  | refl => exact sound
  | tail _ stepped ih => exact ih.step stepped

/-- The callbacks that ran, and those that can still be brought to run. -/
def written (s : State) : Multiset (ℕ × Routine) :=
  ↑(s.agenda.flatMap Work.written) + account s.store.ran s.store.queue + ↑(s.later.flatMap Turn.written)

theorem written_start (script : List Step) : (start script).written = ↑(Nesting.written 0 script) := by
  have later : (start script).later.flatMap Turn.written = Nesting.written 0 script := by
    rw [← flatMap_numbered, start, turns, List.flatMap_assoc]
    exact List.flatMap_congr fun _ _ => List.append_nil _
  rw [written, later]
  exact zero_add _

theorem written_step (stepped : s.step = some t) : t.written ≤ s.written := by
  obtain ⟨c, agenda, later, out⟩ := s
  cases agenda with
  | cons x rest =>
    rw [step_cons, Option.map_eq_some_iff] at stepped
    obtain ⟨⟨works, c'⟩, acted, rfl⟩ := stepped
    have less := (acts acted).account
    simp only [written, List.flatMap_append, List.flatMap_cons, ← Multiset.coe_add]
    refine add_le_add_left ?_ _
    calc _ = ↑(works.flatMap Work.written) + account c'.ran c'.queue + ↑(rest.flatMap Work.written) :=
          add_right_comm _ _ _
      _ ≤ ↑x.written + account c.ran c.queue + ↑(rest.flatMap Work.written) := add_le_add_left less _
      _ = _ := add_right_comm _ _ _
  | nil =>
    cases later with
    | nil => cases stepped
    | cons turn later =>
      cases turn with
      | perform place st =>
        cases stepped
        simp only [written, List.flatMap_cons, List.flatMap_nil, List.append_nil, ← Multiset.coe_add]
        rw [Multiset.coe_nil, zero_add, add_left_comm, add_assoc]
        exact le_rfl
      | report =>
        cases stepped
        exact le_rfl

theorem written_leads (leads : Leads s t) : t.written ≤ s.written := by
  induction leads with
  | refl => exact le_rfl
  | tail _ stepped ih => exact (written_step stepped).trans ih

/-- The callbacks that ran are at different places of the script, and each is the one that is written there. -/
theorem ran_once {script : List Step} (leads : Leads (start script) s) :
    (s.store.ran.map Entry.place).Nodup ∧
      ∀ e ∈ s.store.ran, e.key ∈ Nesting.written 0 script := by
  have within : (s.store.ran.map Entry.key : Multiset (ℕ × Routine)) ≤ ↑(Nesting.written 0 script) := by
    refine le_trans ?_ ((written_leads leads).trans (written_start script).le)
    rw [written, account]
    exact (Multiset.le_add_right _ _).trans ((Multiset.le_add_left _ _).trans (Multiset.le_add_right _ _))
  constructor
  · have places := Multiset.map_le_map (f := Prod.fst) within
    rw [Multiset.map_coe, Multiset.map_coe, List.map_map] at places
    exact Multiset.nodup_of_le places (nodup_places script)
  · intro e among
    exact (Multiset.coe_le.mp within).subset (List.mem_map_of_mem among)

/-- What is in front of the agenda is worked off, whatever is behind it, as far as no lock is waited for. -/
theorem Sound.ends (sound : s.Sound) (shape : s.agenda = front ++ rest) :
    ∃ t new, Leads s t ∧ (t.agenda = rest ∨ t.IsDeadlocked) ∧ t.store.ran = s.store.ran ++ new := by
  induction load : (front.map Work.load).sum + s.store.load using Nat.strong_induction_on
    generalizing s front with
  | _ n ih =>
    cases front with
    | nil => exact ⟨s, [], .refl, .inl shape, (List.append_nil _).symm⟩
    | cons x front =>
      by_cases free : s.IsDeadlocked
      · exact ⟨s, [], .refl, .inr free, (List.append_nil _).symm⟩
      obtain ⟨works, c', acted, stepped⟩ := sound.exists_step shape free
      have less := (acts acted).load
      obtain ⟨t, new, leads, done, ran⟩ := ih (((works ++ front).map Work.load).sum + c'.load)
        (by simp only [List.map_cons, List.sum_cons, List.map_append, List.sum_append] at load ⊢; omega)
        (sound.step stepped) (List.append_assoc works front rest).symm rfl
      obtain ⟨first, began⟩ := (acts acted).ran
      exact ⟨t, first ++ new, .head stepped leads, done, by rw [ran, began, List.append_assoc]⟩

/-- Only the dropping of a registration waits for a lock. -/
theorem not_isDeadlocked_of_isLink (shape : s.agenda = x :: rest) (whole : x.isLink = false) :
    ¬ s.IsDeadlocked := by
  rintro ⟨i, id, others, other, -⟩
  cases shape.symm.trans other
  cases whole

/-- A callback that is called runs to its end, as far as no lock is waited for. -/
theorem Sound.call {e : Entry} (sound : s.Sound) (shape : s.agenda = .call inside e :: rest) :
    ∃ t ran, Leads s t ∧ (t.agenda = rest ∨ t.IsDeadlocked) ∧ t.store.ran = s.store.ran ++ e :: ran := by
  obtain ⟨works, c', acted, stepped⟩ := sound.exists_step shape (not_isDeadlocked_of_isLink shape rfl)
  cases acted
  obtain ⟨t, inner, leads, left, ran⟩ := (sound.step stepped).ends rfl
  refine ⟨t, inner, .head stepped leads, left, ?_⟩
  rw [ran]
  exact List.append_assoc _ [e] inner

/-- Callbacks that are to be called are called in turn, each after the one before it has ended; all of them, unless
a lock is waited for in one. -/
theorem Sound.calls {entries : List Entry} (sound : s.Sound)
    (shape : s.agenda = entries.map (.call inside) ++ rest) :
    ∃ t called ran, Leads s t ∧ t.store.ran = s.store.ran ++ ran ∧ called.Sublist ran ∧ called <+: entries ∧
      (t.agenda = rest ∧ called = entries ∨ t.IsDeadlocked) := by
  induction entries generalizing s with
  | nil => exact ⟨s, [], [], .refl, (List.append_nil _).symm, .slnil, List.nil_prefix, .inl ⟨shape, rfl⟩⟩
  | cons e entries ih =>
    obtain ⟨u, inner, ended, left | stuck, ran⟩ := sound.call shape
    · obtain ⟨t, called, others, leads, ran', sub, first, done⟩ := ih (sound.leads ended) left
      refine ⟨t, e :: called, e :: inner ++ others, ended.trans leads, ?_, ?_, ?_, ?_⟩
      · rw [ran', ran, List.append_assoc]
      · exact .cons_cons e (sub.trans (List.sublist_append_right inner others))
      · exact List.cons_prefix_cons.mpr ⟨rfl, first⟩
      · exact done.imp_left fun ⟨left, all⟩ => ⟨left, congrArg _ all⟩
    · refine ⟨u, [e], e :: inner, ended, ran, ?_, ?_, .inr stuck⟩
      · exact .cons_cons e (List.nil_sublist inner)
      · exact List.cons_prefix_cons.mpr ⟨rfl, List.nil_prefix⟩

end State

/-! ### Callbacks that own nothing -/

mutual

/-- Whether no callback of a step owns a registration. -/
def ownsNone : Step → Bool
  | .onCancel _ _ body owned => owned.isEmpty && ownNone body
  | _ => true

/-- Whether no callback of a script owns a registration. -/
def ownNone : List Step → Bool
  | [] => true
  | s :: rest => ownsNone s && ownNone rest

end

def Entry.IsPoor (e : Entry) : Prop := e.callback.owned = [] ∧ ownNone e.callback.body

/-- Whether a piece of work brings no callback that owns a registration. -/
def Work.IsPoor : Work → Prop
  | perform _ _ s => ownsNone s
  | call _ e | lockToRegister _ e | register _ e => e.IsPoor
  | _ => True

def Turn.IsPoor : Turn → Prop
  | perform _ s => ownsNone s
  | report => True

theorem isPoor_of_mem_releasing {rs : List Registration} (among : x ∈ releasing rs) : x.IsPoor := by
  obtain ⟨i, id, rfl⟩ := mem_releasing among
  trivial

theorem ownsNone_of_mem_numbered {place : ℕ} {body : List Step} (poor : ownNone body) :
    ∀ p ∈ numbered place body, ownsNone p.2 := by
  induction body generalizing place with
  | nil => nofun
  | cons s body ih =>
    rw [ownNone, Bool.and_eq_true] at poor
    exact List.forall_mem_cons.mpr ⟨poor.1, ih poor.2⟩

theorem isPoor_begin {w : World} {place : ℕ} {inside : List Entry} {st : Step} (poor : ownsNone st) :
    ∀ x ∈ (begin w place inside st).1, x.IsPoor := by
  have letting (name : String) (o : Option String) (word : String) (a : Answer) :
      ∀ x ∈ lettingGo w name ++ [.answer o word a], x.IsPoor := by
    obtain none | ⟨i, some⟩ := lettingGo_cases w name
    · simp [none, Work.IsPoor]
    · simp [some, Work.IsPoor]
  cases st with
  | create _ | createDefault _ | createTimed _ _ | drop _ => exact letting _ _ _ _
  | clone name source =>
    simp only [begin]
    split
    · exact letting _ _ _ _
    · simp [Work.IsPoor]
  | isCancelled _ | describe _ | cancel _ =>
    simp only [begin]
    split <;> simp [Work.IsPoor]
  | cancelTogether name threads =>
    simp only [begin]
    split
    · split_ifs <;> simp [Work.IsPoor]
    · simp [Work.IsPoor]
  | await name lines =>
    simp only [begin]
    split
    · simp [Work.IsPoor]
    · split_ifs
      · simp [Work.IsPoor]
      · split
        · simp [Work.IsPoor]
        · split_ifs <;> simp [Work.IsPoor, poor]
  | onCancel name label body owned =>
    rw [ownsNone, Bool.and_eq_true, List.isEmpty_iff] at poor
    obtain ⟨rfl, poor⟩ := poor
    simp only [begin]
    split <;> simp [Work.IsPoor, Entry.IsPoor, capture, poor]
  | unregister label =>
    simp only [begin]
    split
    · simp [Work.IsPoor]
    · exact List.forall_mem_append.mpr ⟨fun _ => isPoor_of_mem_releasing, by simp [Work.IsPoor]⟩

/-- Where callbacks own nothing, nothing more is to be done under the lock when one is removed. -/
theorem dropping_eq_nil {entries : List Entry} (poor : ∀ e ∈ entries, e.IsPoor) :
    entries.flatMap (releasing ·.callback.owned) = [] :=
  List.flatMap_eq_nil_iff.mpr fun e among => by rw [(poor e among).1]; rfl

theorem Acts.isPoor (acts : Acts c x works c') (poor : x.IsPoor) (waiting : ∀ e ∈ c.queue, e.IsPoor) :
    (∀ y ∈ works, y.IsPoor) ∧ (∀ y ∈ works.tail, y.held = []) ∧ ∀ e ∈ c'.queue, e.IsPoor := by
  have none : ∀ y ∈ ([] : List Work), y.IsPoor := List.forall_mem_nil _
  have free : ∀ y ∈ ([] : List Work), y.held = [] := List.forall_mem_nil _
  have fewer {queue : List Entry} (sub : queue.Sublist c.queue) : ∀ e ∈ queue, e.IsPoor :=
    fun e among => waiting e (sub.subset among)
  have waitingOn (i : ℕ) : ∀ e ∈ c.waitingOn i, e.IsPoor := fewer (List.filter_sublist.map _)
  have removed (i id : ℕ) : ∀ e ∈ c.removed i id, e.IsPoor := fewer (List.filter_sublist.map _)
  cases acts with
  | perform place inside s =>
    exact ⟨isPoor_begin poor, fun y among => (begun c.world place inside s).held y (List.mem_of_mem_tail among),
      waiting⟩
  | call inside e =>
    rw [poor.1]
    refine ⟨List.forall_mem_append.mpr ⟨?_, none⟩, fun y among => ?_, waiting⟩
    · exact List.forall_mem_map.mpr (ownsNone_of_mem_numbered poor.2)
    · exact (plain_of_mem_steps y (by simpa [releasing] using List.mem_of_mem_tail among)).2
  | keep label r =>
    exact ⟨fun _ => isPoor_of_mem_releasing,
      fun y among => (plain_of_mem_releasing (List.mem_of_mem_tail among)).2, waiting⟩
  | take inside i =>
    exact ⟨List.forall_mem_map.mpr (waitingOn i),
      fun y among => (plain_of_mem_calls y (List.mem_of_mem_tail among)).2, fewer (List.filter_sublist.map _)⟩
  | abandon i _ =>
    rw [dropping_eq_nil (waitingOn i)]
    exact ⟨none, free, fewer (List.filter_sublist.map _)⟩
  | remove i id =>
    rw [dropping_eq_nil (removed i id)]
    exact ⟨by simp [Work.IsPoor], free, fewer (c.queue_remove_sublist i id)⟩
  | late inside e _ _ _ => exact ⟨by simpa [Work.IsPoor] using poor, by simp, waiting⟩
  | enlist inside e t _ _ =>
    refine ⟨by simp [Work.IsPoor], free, ?_⟩
    change ∀ e' ∈ (c.enlist e t.nextId).queue, e'.IsPoor
    rw [Store.queue_enlist]
    exact List.forall_mem_append.mpr ⟨waiting, List.forall_mem_singleton.mpr poor⟩
  | answer _ _ _ | answerCancelled _ _ _ | refuse _ _ _ | gone _ _ _ | unlock _ | spare _ _ =>
    exact ⟨none, free, waiting⟩
  | raise _ _ _ _ _ | lockToTake _ _ | lockToRemove _ _ _ =>
    exact ⟨by simp [Work.IsPoor], free, waiting⟩
  | lockToRegister inside e => exact ⟨List.forall_mem_singleton.mpr poor, free, waiting⟩

namespace State

variable {s t : State}

/-- What holds in every state of a run of a script in which callbacks own nothing. -/
structure Poor (s : State) : Prop where
  agenda : ∀ x ∈ s.agenda, x.IsPoor
  waiting : ∀ e ∈ s.store.queue, e.IsPoor
  later : ∀ turn ∈ s.later, turn.IsPoor
  /-- A lock is given back by what is in front only. -/
  held : ∀ y ∈ s.agenda.tail, y.held = []

theorem Poor.start {script : List Step} (poor : ownNone script) : (start script).Poor where
  agenda := nofun
  waiting := nofun
  later turn among := by
    obtain ⟨⟨place, st⟩, step, among⟩ := List.mem_flatMap.mp among
    obtain rfl | rfl := List.mem_pair.mp among
    · exact ownsNone_of_mem_numbered poor _ step
    · trivial
  held := nofun

theorem Poor.step (poor : s.Poor) (stepped : s.step = some t) : t.Poor := by
  obtain ⟨c, agenda, later, out⟩ := s
  cases agenda with
  | cons x rest =>
    rw [step_cons, Option.map_eq_some_iff] at stepped
    obtain ⟨⟨works, c'⟩, acted, rfl⟩ := stepped
    obtain ⟨front, back⟩ := List.forall_mem_cons.mp poor.agenda
    obtain ⟨new, held, waiting⟩ := (acts acted).isPoor front poor.waiting
    refine ⟨List.forall_mem_append.mpr ⟨new, back⟩, waiting, poor.later, ?_⟩
    cases works with
    | nil => exact fun y among => poor.held y (List.mem_of_mem_tail among)
    | cons y works => exact List.forall_mem_append.mpr ⟨held, poor.held⟩
  | nil =>
    cases later with
    | nil => cases stepped
    | cons turn later =>
      obtain ⟨first, later⟩ := List.forall_mem_cons.mp poor.later
      cases turn with
      | perform place st =>
        cases stepped
        exact ⟨List.forall_mem_singleton.mpr first, poor.waiting, later, nofun⟩
      | report =>
        cases stepped
        exact ⟨nofun, poor.waiting, later, nofun⟩

theorem Poor.leads (poor : s.Poor) (leads : Leads s t) : t.Poor := by
  induction leads with
  | refl => exact poor
  | tail _ stepped ih => exact ih.step stepped

/-- Where callbacks own nothing, no lock is waited for. -/
theorem Poor.not_isDeadlocked (poor : s.Poor) (sound : s.Sound) : ¬ s.IsDeadlocked := by
  rintro ⟨i, id, rest, shape, held⟩
  have none := poor.held
  rw [shape, List.tail_cons] at none
  rw [sound.locks, shape, List.flatMap_cons, List.flatMap_eq_nil_iff.mpr none] at held
  cases held

end State

end PseudoTerminal.Cancellation.Nesting
