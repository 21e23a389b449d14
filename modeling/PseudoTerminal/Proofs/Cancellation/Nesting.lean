import Mathlib.Tactic
import PseudoTerminal.Cancellation.Script

/-! Scripts with nested callbacks, step by step. Here the flag of a token is swapped by itself, and what it keeps
for its waiting callbacks changes only under its lock. Whatever a removed callback owns is dropped while the lock is
still held, so locks are held within each other, and a script comes to wait for a lock that it holds when a callback
owns a registration with its own token. Callbacks are told apart by the place in the script of the call that
registers them; what runs inside of a callback remembers it. -/

namespace PseudoTerminal.Cancellation.Nesting

open Script

/-! ### Places -/

mutual

/-- The callbacks that a step at a place registers, with the places of the calls; those that they register
themselves come after them. -/
def writtenIn (place : ℕ) : Step → List (ℕ × Routine)
  | .onCancel _ label body _ => (place, ⟨label, body⟩) :: written (place + 1) body
  | _ => []

/-- The callbacks that a script registers whose first step is at a place. -/
def written (place : ℕ) : List Step → List (ℕ × Routine)
  | [] => []
  | s :: rest => writtenIn place s ++ written (place + s.count) rest

end

/-- The steps of a script with their places. -/
def numbered (place : ℕ) : List Step → List (ℕ × Step)
  | [] => []
  | s :: rest => (place, s) :: numbered (place + s.count) rest

/-! ### The machine -/

/-- A callback with the place of the call that registers it and the token that sets it off. -/
structure Entry where
  place : ℕ
  token : ℕ
  callback : Callback

/-- A callback that waits, under its id. -/
structure Waiter where
  id : ℕ
  entry : Entry

/-- The callback whose steps run, if there is one; `inside` are the callbacks around a step, from within. -/
def owner (inside : List Entry) : Option String := inside.head?.map (·.callback.label)

/-- What is left to do. An operation that has begun is in front. -/
inductive Work
  | perform (place : ℕ) (inside : List Entry) (step : Step)
  | call (inside : List Entry) (entry : Entry)
  | keep (label : String) (registration : Registration)
  | answer (owner : Option String) (word : String) (answer : Answer)
  | answerCancelled (owner : Option String) (word : String) (token : ℕ)
  /-- Raise the flag of a token. -/
  | swap (inside : List Entry) (token : ℕ)
  | lockToTake (inside : List Entry) (token : ℕ)
  /-- Under the lock, take the waiting callbacks away. -/
  | take (inside : List Entry) (token : ℕ)
  | lockToRegister (inside : List Entry) (entry : Entry)
  /-- Under the lock, look at the flag, and put the callback among the waiting ones if it is down. -/
  | register (inside : List Entry) (entry : Entry)
  | lockToRemove (token id : ℕ)
  /-- Under the lock, remove a waiting callback, and go on to drop what it owns. -/
  | remove (token id : ℕ)
  | unlock (token : ℕ)
  /-- Drop the callbacks that wait on a token which no name holds. -/
  | abandon (token : ℕ)

/-- A world whose agenda counts for nothing, the tokens whose locks are held, and the callbacks that wait, that
were ever put among the waiting ones, and that were called, all in order. -/
structure Store where
  world : World := {}
  locks : List ℕ := []
  waiting : List Waiter := []
  enlisted : List Entry := []
  ran : List Entry := []

/-- Whether the flag of a token is up. -/
def isRaised (w : World) (i : ℕ) : Bool := (w.tokens[i]?.map Token.cancelled).getD false

/-- Changes a token. -/
def change (w : World) (i : ℕ) (f : Token Callback → Token Callback) : World :=
  { w with tokens := w.tokens.modify i f }

/-- What is to be done when registrations are dropped. -/
def releasing (rs : List Registration) : List Work :=
  rs.filterMap fun r => r.token.map fun (i, id) => .lockToRemove i id

/-- What is to be done when the registration under a label is replaced. -/
def replacing (w : World) (label : String) : List Work := releasing (w.registrations.lookup label).toList

/-- What is to be done when a name stops holding its token. -/
def lettingGo (w : World) (name : String) : List Work := ((w.names.lookup name).map Work.abandon).toList

/-- Begins a step: what is to be done for it, and the world. -/
def begin (w : World) (place : ℕ) (inside : List Entry) (s : Step) : List Work × World :=
  let answer (a : Answer) : Work := .answer (owner inside) s.word a
  match s with
  | .create name | .createDefault name => (lettingGo w name ++ [answer .done], w.addToken name)
  | .clone name source =>
    match w.token? source with
    | some (i, _) => (lettingGo w name ++ [answer .done], w.bind name i)
    | none => ([answer .unknown], w)
  | .createTimed name delay =>
    (lettingGo w name ++ [answer .done],
      { w with timers := w.timers ++ [(w.clock + delay, w.tokens.length)] }.addToken name)
  | .cancel name =>
    match w.token? name with
    | some (i, _) => ([.swap inside i, answer .done], w)
    | none => ([answer .unknown], w)
  | .isCancelled name =>
    match w.token? name with
    | some (_, t) => ([answer (.truth t.cancelled)], w)
    | none => ([answer .unknown], w)
  | .describe name =>
    match w.token? name with
    | some (_, t) => ([answer (.text t.text)], w)
    | none => ([answer .unknown], w)
  | .drop name =>
    (lettingGo w name ++ [answer (.truth (w.token? name).isSome)],
      { w with names := w.names.filter (·.1 != name) })
  | .await name lines =>
    match w.token? name with
    | none => ([answer .unknown], w)
    | some (_, t) =>
      if t.cancelled ∧ lines ≤ w.log.length then ([answer (.truth true)], w)
      else match w.nextTimer? (w.clock + World.patience) with
        | none => ([answer (.truth false)], w)
        | some (due, i) =>
          ((if w.isHeld i then [.swap inside i] else []) ++ [.perform place inside s],
            { w with timers := w.timers.erase (due, i), clock := max w.clock due })
  | .cancelTogether name threads =>
    match w.token? name with
    | some (i, _) =>
      ((if threads = 0 then [] else [.swap inside i]) ++ [.answerCancelled (owner inside) s.word i], w)
    | none => ([answer .unknown], w)
  | .onCancel name label body owned =>
    match w.token? name with
    | some (i, _) =>
      let (owned, registrations) := capture owned w.registrations
      ([.lockToRegister inside ⟨place, i, { label, body, owned }⟩, answer .done], { w with registrations })
    | none => ([answer .unknown], w)
  | .unregister label =>
    match w.registrations.lookup label with
    | none => ([answer (.truth false)], w)
    | some r =>
      (releasing [r] ++ [answer (.truth true)],
        { w with registrations := w.registrations.filter (·.1 != label) })

namespace Store

/-- The callbacks that wait on a token. -/
def waitingOn (c : Store) (i : ℕ) : List Entry :=
  (c.waiting.filter (·.entry.token == i)).map Waiter.entry

/-- The callbacks that go with a registration. -/
def removed (c : Store) (i id : ℕ) : List Entry :=
  (c.waiting.filter fun x => x.entry.token == i && x.id == id).map Waiter.entry

/-- Takes the lock of a token for a piece of work, unless it is held. -/
def lock (c : Store) (i : ℕ) (next : Work) : Option (List Work × Store) :=
  if i ∈ c.locks then none else some ([next], { c with locks := i :: c.locks })

def unlock (c : Store) (i : ℕ) : Store := { c with locks := c.locks.erase i }

/-- Takes the waiting callbacks of a token away. -/
def take (c : Store) (i : ℕ) : Store :=
  { c with world := change c.world i (·.take.2), waiting := c.waiting.filter (·.entry.token != i) }

/-- Puts a callback among the waiting ones, under an id. -/
def enlist (c : Store) (e : Entry) (id : ℕ) : Store :=
  { c with
    world := change c.world e.token fun t => (t.enlist e.callback).2
    waiting := c.waiting ++ [⟨id, e⟩]
    enlisted := c.enlisted ++ [e] }

/-- Removes a waiting callback. -/
def remove (c : Store) (i id : ℕ) : Store :=
  { c with
    world := change c.world i (·.unregister id)
    waiting := c.waiting.filter fun x => !(x.entry.token == i && x.id == id) }

/-- Does a piece of work: what is to be done next for it, and what it leaves; nothing if it has to wait for a
lock. -/
def act (c : Store) : Work → Option (List Work × Store)
  | .perform place inside s =>
    let begun := begin c.world place inside s
    some (begun.1, { c with world := begun.2 })
  | .call inside e =>
    some (((numbered (e.place + 1) e.callback.body).map fun (place, s) => .perform place (e :: inside) s)
        ++ releasing e.callback.owned,
      { c with world := { c.world with log := e.callback.label :: c.world.log }, ran := c.ran ++ [e] })
  | .keep label r =>
    some (replacing c.world label,
      { c with world := { c.world with
          registrations := (label, r) :: c.world.registrations.filter (·.1 != label) } })
  | .answer owner word a => some ([], { c with world := c.world.record owner word a })
  | .answerCancelled owner word i =>
    some ([], { c with world := c.world.record owner word (.truth (isRaised c.world i)) })
  | .swap inside i =>
    match c.world.tokens[i]? with
    | none => some ([], c)
    | some t =>
      if t.cancelled then some ([], c)
      else some ([.lockToTake inside i], { c with world := change c.world i Token.raise })
  | .lockToTake inside i => c.lock i (.take inside i)
  | .take inside i => some ((c.waitingOn i).map (.call inside), (c.take i).unlock i)
  | .lockToRegister inside e => c.lock e.token (.register inside e)
  | .register inside e =>
    match c.world.tokens[e.token]? with
    | none => some ([], c.unlock e.token)
    | some t =>
      if t.cancelled then some ([.call inside e, .keep e.callback.label {}], c.unlock e.token)
      else
        some ([.keep e.callback.label ⟨some (e.token, t.nextId)⟩], (c.enlist e t.nextId).unlock e.token)
  | .lockToRemove i id => c.lock i (.remove i id)
  | .remove i id => some ((c.removed i id).flatMap (releasing ·.callback.owned) ++ [.unlock i], c.remove i id)
  | .unlock i => some ([], c.unlock i)
  | .abandon i =>
    if c.world.isHeld i then some ([], c)
    else some ((c.waitingOn i).flatMap (releasing ·.callback.owned), c.take i)

end Store

/-- What is left of the script itself: its steps, and their reports. -/
inductive Turn
  | perform (place : ℕ) (step : Step)
  /-- The answer to the last step and the lines logged for it go out. -/
  | report

/-- What is left of a script from some of its steps on. -/
def turns (place : ℕ) (steps : List Step) : List Turn :=
  (numbered place steps).flatMap fun (place, s) => [.perform place s, .report]

structure State where
  store : Store := {}
  agenda : List Work := []
  later : List Turn := []
  out : List (Answer × List String) := []

namespace State

/-- The beginning of a script. -/
def start (script : List Step) : State := { later := turns 0 script }

/-- The next step: the first piece of work, or the next turn of the script when there is none. -/
def step (s : State) : Option State :=
  match s.agenda, s.later with
  | x :: rest, _ => (s.store.act x).map fun (works, store) => { s with store, agenda := works ++ rest }
  | [], .perform place st :: later =>
    some { s with
      store := { s.store with world := { s.store.world with log := [], answers := [] } }
      agenda := [.perform place [] st]
      later }
  | [], .report :: later =>
    let w := s.store.world
    some { s with later, out := s.out ++ [(w.answers.headD .unknown, w.log.reverse)] }
  | [], [] => none

/-- Whether there is nothing left to do. -/
def IsOver (s : State) : Prop := s.agenda = [] ∧ s.later = []

/-- Whether a registration is to be dropped whose token has its lock held, by what is being done already. -/
def IsDeadlocked (s : State) : Prop :=
  ∃ i id rest, s.agenda = .lockToRemove i id :: rest ∧ i ∈ s.store.locks

/-- Whether steps lead from one state to another. -/
def Leads : State → State → Prop := Relation.ReflTransGen fun s t => s.step = some t

end State

variable {w w' : World} {place i id : ℕ} {inside : List Entry} {st : Step} {x : Work} {works : List Work}
  {c c' : Store}

/-! ### What a piece of work does -/

/-- All that a piece of work can do. -/
inductive Acts (c : Store) : Work → List Work → Store → Prop
  | perform (place : ℕ) (inside : List Entry) (s : Step) :
    Acts c (.perform place inside s) (begin c.world place inside s).1
      { c with world := (begin c.world place inside s).2 }
  | call (inside : List Entry) (e : Entry) :
    Acts c (.call inside e)
      (((numbered (e.place + 1) e.callback.body).map fun (place, s) => .perform place (e :: inside) s)
        ++ releasing e.callback.owned)
      { c with world := { c.world with log := e.callback.label :: c.world.log }, ran := c.ran ++ [e] }
  | keep (label : String) (r : Registration) :
    Acts c (.keep label r) (replacing c.world label)
      { c with world := { c.world with
          registrations := (label, r) :: c.world.registrations.filter (·.1 != label) } }
  | answer (owner : Option String) (word : String) (a : Answer) :
    Acts c (.answer owner word a) [] { c with world := c.world.record owner word a }
  | answerCancelled (owner : Option String) (word : String) (i : ℕ) :
    Acts c (.answerCancelled owner word i) []
      { c with world := c.world.record owner word (.truth (isRaised c.world i)) }
  | refuse (inside : List Entry) (i : ℕ) (up : ∀ t, c.world.tokens[i]? = some t → t.cancelled) :
    Acts c (.swap inside i) [] c
  | raise (inside : List Entry) (i : ℕ) (t : Token Callback) (found : c.world.tokens[i]? = some t)
      (clear : ¬ t.cancelled) :
    Acts c (.swap inside i) [.lockToTake inside i] { c with world := change c.world i Token.raise }
  | lockToTake (inside : List Entry) (i : ℕ) :
    Acts c (.lockToTake inside i) [.take inside i] { c with locks := i :: c.locks }
  | take (inside : List Entry) (i : ℕ) :
    Acts c (.take inside i) ((c.waitingOn i).map (.call inside)) ((c.take i).unlock i)
  | lockToRegister (inside : List Entry) (e : Entry) :
    Acts c (.lockToRegister inside e) [.register inside e] { c with locks := e.token :: c.locks }
  | gone (inside : List Entry) (e : Entry) (missing : c.world.tokens[e.token]? = none) :
    Acts c (.register inside e) [] (c.unlock e.token)
  | late (inside : List Entry) (e : Entry) (t : Token Callback) (found : c.world.tokens[e.token]? = some t)
      (up : t.cancelled) :
    Acts c (.register inside e) [.call inside e, .keep e.callback.label {}] (c.unlock e.token)
  | enlist (inside : List Entry) (e : Entry) (t : Token Callback) (found : c.world.tokens[e.token]? = some t)
      (clear : ¬ t.cancelled) :
    Acts c (.register inside e) [.keep e.callback.label ⟨some (e.token, t.nextId)⟩]
      ((c.enlist e t.nextId).unlock e.token)
  | lockToRemove (i id : ℕ) (free : i ∉ c.locks) :
    Acts c (.lockToRemove i id) [.remove i id] { c with locks := i :: c.locks }
  | remove (i id : ℕ) :
    Acts c (.remove i id) ((c.removed i id).flatMap (releasing ·.callback.owned) ++ [.unlock i]) (c.remove i id)
  | unlock (i : ℕ) : Acts c (.unlock i) [] (c.unlock i)
  | spare (i : ℕ) (held : c.world.isHeld i) : Acts c (.abandon i) [] c
  | abandon (i : ℕ) (lost : c.world.isHeld i = false) :
    Acts c (.abandon i) ((c.waitingOn i).flatMap (releasing ·.callback.owned)) (c.take i)

theorem acts (acted : c.act x = some (works, c')) : Acts c x works c' := by
  cases x with
  | perform place inside s => cases acted; exact .perform place inside s
  | call inside e => cases acted; exact .call inside e
  | keep label r => cases acted; exact .keep label r
  | answer owner word a => cases acted; exact .answer owner word a
  | answerCancelled owner word i => cases acted; exact .answerCancelled owner word i
  | take inside i => cases acted; exact .take inside i
  | remove i id => cases acted; exact .remove i id
  | unlock i => cases acted; exact .unlock i
  | abandon i =>
    simp only [Store.act] at acted
    split_ifs at acted with held <;> cases acted
    · exact .spare i held
    · exact .abandon i (by simpa using held)
  | swap inside i =>
    simp only [Store.act] at acted
    split at acted
    case h_1 missing =>
      cases acted
      exact .refuse inside i (by simp [missing])
    case h_2 t found =>
      split_ifs at acted with up <;> cases acted
      · exact .refuse inside i (by simpa [found] using up)
      · exact .raise inside i t found up
  | register inside e =>
    simp only [Store.act] at acted
    split at acted
    case h_1 missing =>
      cases acted
      exact .gone inside e missing
    case h_2 t found =>
      split_ifs at acted with up <;> cases acted
      · exact .late inside e t found up
      · exact .enlist inside e t found up
  | lockToTake inside i =>
    simp only [Store.act, Store.lock] at acted
    split_ifs at acted
    cases acted
    exact .lockToTake inside i
  | lockToRegister inside e =>
    simp only [Store.act, Store.lock] at acted
    split_ifs at acted
    cases acted
    exact .lockToRegister inside e
  | lockToRemove i id =>
    simp only [Store.act, Store.lock] at acted
    split_ifs at acted with held
    cases acted
    exact .lockToRemove i id held

/-! ### Beginning a step -/

namespace Work

/-- Whether a piece of work is not the rest of an operation that somebody has begun. -/
@[simp] def isPlain : Work → Bool
  | swap _ _ | lockToTake _ _ | take _ _ | lockToRegister _ _ | register _ _ | remove _ _ => false
  | _ => true

/-- Whether a piece of work is part of dropping a registration. -/
@[simp] def isLink : Work → Bool
  | lockToRemove _ _ | remove _ _ | unlock _ => true
  | _ => false

/-- The locks that a piece of work has yet to give back. -/
@[simp] def held : Work → List ℕ
  | take _ i | remove i _ | unlock i => [i]
  | register _ e => [e.token]
  | _ => []

/-- The tokens whose flag is up before a piece of work. -/
@[simp] def raised : Work → List ℕ
  | perform _ inside _ | swap inside _ | lockToRegister inside _ | register inside _ => inside.map Entry.token
  | call inside e => e.token :: inside.map Entry.token
  | lockToTake inside i | take inside i => i :: inside.map Entry.token
  | _ => []

end Work

/-- A bound on the steps that a callback takes, with all that comes of it. -/
@[simp] def Entry.load (e : Entry) : ℕ := 1 + 10 * countAll e.callback.body + 3 * e.callback.owned.length

/-- The same for a piece of work. -/
@[simp] def Work.load : Work → ℕ
  | perform _ _ s => 10 * s.count
  | call _ e => e.load
  | keep _ _ => 4
  | swap _ _ | lockToRemove _ _ => 3
  | lockToTake _ _ | remove _ _ => 2
  | lockToRegister _ e => 6 + e.load
  | register _ e => 5 + e.load
  | answer _ _ _ | answerCancelled _ _ _ | take _ _ | unlock _ | abandon _ => 1

/-- The callbacks that an entry brings: its own and those that are registered by it. -/
@[simp] def Entry.written (e : Entry) : List (ℕ × Routine) :=
  (e.place, e.callback.toRoutine) :: Nesting.written (e.place + 1) e.callback.body

/-- The callbacks that a piece of work can still bring to run, those apart that wait already. -/
@[simp] def Work.written : Work → List (ℕ × Routine)
  | perform place _ s => writtenIn place s
  | call _ e | lockToRegister _ e | register _ e => e.written
  | _ => []

/-- Only what is in front has begun, and locks are given back behind nothing but the dropping of registrations. -/
def InOrder (works : List Work) : Prop :=
  works.Pairwise fun x y => y.isPlain ∧ (y.held = [] ∨ x.isLink)

theorem inOrder_of_forall (plain : ∀ y ∈ works, y.isPlain ∧ y.held = []) : InOrder works :=
  List.pairwise_of_forall_mem_list fun _ _ y among => ⟨(plain y among).1, .inl (plain y among).2⟩

theorem mem_releasing {rs : List Registration} (among : x ∈ releasing rs) : ∃ i id, x = .lockToRemove i id := by
  obtain ⟨r, -, is⟩ := List.mem_filterMap.mp among
  obtain ⟨⟨i, id⟩, -, rfl⟩ := Option.map_eq_some_iff.mp is
  exact ⟨i, id, rfl⟩

/-- Dropping registrations is within a bound. -/
theorem load_releasing (rs : List Registration) : ((releasing rs).map Work.load).sum ≤ 3 * rs.length := by
  have each : ∀ n ∈ (releasing rs).map Work.load, n ≤ 3 := by
    rintro _ mapped
    obtain ⟨x, among, rfl⟩ := List.mem_map.mp mapped
    obtain ⟨i, id, rfl⟩ := mem_releasing among
    exact le_rfl
  have sum := List.sum_le_card_nsmul _ 3 each
  have fewer : (releasing rs).length ≤ rs.length := List.length_filterMap_le _ _
  rw [List.length_map, smul_eq_mul] at sum
  omega

theorem length_capture (labels : List String) (kept : List (String × Registration)) :
    (capture labels kept).1.length ≤ labels.length := by
  induction labels generalizing kept with
  | nil => exact le_rfl
  | cons label labels ih =>
    have rest := ih (kept.filter (·.1 != label))
    simp only [capture, List.length_append, List.length_cons]
    cases kept.lookup label with
    | none => exact (Nat.zero_add _).trans_le (Nat.le_succ_of_le rest)
    | some r => exact (Nat.add_comm ..).trans_le (Nat.succ_le_succ rest)

theorem lettingGo_cases (w : World) (name : String) :
    lettingGo w name = [] ∨ ∃ i, lettingGo w name = [.abandon i] := by
  unfold lettingGo
  cases w.names.lookup name with
  | none => exact .inl rfl
  | some i => exact .inr ⟨i, rfl⟩

theorem mem_of_nextTimer? {limit : ℕ} {timer : ℕ × ℕ} (found : w.nextTimer? limit = some timer) :
    timer ∈ w.timers := by
  refine List.foldlRecOn (motive := fun best => best = some timer → timer ∈ w.timers) w.timers _ (b := none)
    (fun none => nomatch none) ?_ found
  intro best ih next among
  split
  · exact ih
  · split
    · split
      · rintro ⟨⟩
        exact among
      · exact ih
    · rintro ⟨⟩
      exact among

/-- What a step comes to when it begins. -/
structure Begun (w : World) (place : ℕ) (inside : List Entry) (st : Step) (works : List Work) (w' : World) :
    Prop where
  plain : ∀ y ∈ works.tail, y.isPlain
  held : ∀ y ∈ works, y.held = []
  load : (works.map Work.load).sum + 4 * w'.timers.length < 10 * st.count + 4 * w.timers.length
  raised : ∀ x ∈ works, x.raised ⊆ inside.map Entry.token
  written : (works.flatMap Work.written).Sublist (writtenIn place st)
  tokens : w'.tokens = w.tokens ∨ w'.tokens = w.tokens ++ [({} : Token Callback)]

theorem count_pos (st : Step) : 0 < st.count := by
  cases st <;> simp only [Step.count] <;> omega

theorem Begun.answered (o : Option String) (word : String) (a : Answer)
    (tokens : w'.tokens = w.tokens ∨ w'.tokens = w.tokens ++ [({} : Token Callback)])
    (timers : w'.timers.length ≤ w.timers.length + 1) :
    Begun w place inside st [.answer o word a] w' where
  plain := by simp
  held := by simp
  load := by
    have := count_pos st
    simp only [List.map_cons, List.map_nil, List.sum_singleton, Work.load]
    omega
  raised := by simp
  written := by simp
  tokens := tokens

/-- The answer may come after a token was let go. -/
theorem Begun.letting_go (name : String) (o : Option String) (word : String) (a : Answer)
    (tokens : w'.tokens = w.tokens ∨ w'.tokens = w.tokens ++ [({} : Token Callback)])
    (timers : w'.timers.length ≤ w.timers.length + 1) :
    Begun w place inside st (lettingGo w name ++ [.answer o word a]) w' := by
  have answered : Begun w place inside st [.answer o word a] w' := .answered o word a tokens timers
  obtain none | ⟨i, some⟩ := lettingGo_cases w name
  · rw [none]
    exact answered
  · rw [some]
    refine ⟨by simp, by simp, ?_, by simp, by simp, tokens⟩
    have := count_pos st
    simp only [List.cons_append, List.nil_append, List.map_cons, List.map_nil, List.sum_cons, List.sum_nil, Work.load]
    omega

theorem begun (w : World) (place : ℕ) (inside : List Entry) (st : Step) :
    Begun w place inside st (begin w place inside st).1 (begin w place inside st).2 := by
  cases st with
  | create name | createDefault name => exact .letting_go _ _ _ _ (.inr rfl) (Nat.le_succ _)
  | clone name source =>
    simp only [begin]
    split
    · exact .letting_go _ _ _ _ (.inl rfl) (Nat.le_succ _)
    · exact .answered _ _ _ (.inl rfl) (Nat.le_succ _)
  | createTimed name delay =>
    exact .letting_go _ _ _ _ (.inr rfl) (by simp [begin, World.addToken, World.bind])
  | drop name => exact .letting_go _ _ _ _ (.inl rfl) (Nat.le_succ _)
  | isCancelled name | describe name =>
    simp only [begin]
    split
    · exact .answered _ _ _ (.inl rfl) (Nat.le_succ _)
    · exact .answered _ _ _ (.inl rfl) (Nat.le_succ _)
  | cancel name =>
    simp only [begin]
    split
    · constructor <;> simp [Step.count]
    · exact .answered _ _ _ (.inl rfl) (Nat.le_succ _)
  | cancelTogether name threads =>
    simp only [begin]
    split
    · split_ifs <;> constructor <;>
        simp [Step.count]
    · exact .answered _ _ _ (.inl rfl) (Nat.le_succ _)
  | await name lines =>
    simp only [begin]
    split
    · exact .answered _ _ _ (.inl rfl) (Nat.le_succ _)
    · split_ifs with done
      · exact .answered _ _ _ (.inl rfl) (Nat.le_succ _)
      · split
        · exact .answered _ _ _ (.inl rfl) (Nat.le_succ _)
        case h_2 due i found =>
          have fewer := List.length_erase_add_one (mem_of_nextTimer? found)
          split_ifs <;> constructor <;>
            simp [Step.count] <;> omega
  | onCancel name label body owned =>
    simp only [begin]
    split
    · have captured := length_capture owned w.registrations
      constructor <;> simp [Step.count, writtenIn]
      omega
    · exact .answered _ _ _ (.inl rfl) (Nat.le_succ _)
  | unregister label =>
    simp only [begin]
    split
    · exact .answered _ _ _ (.inl rfl) (Nat.le_succ _)
    case h_2 r _ =>
      cases token : r.token with
      | none => constructor <;> simp [releasing, token, Step.count]
      | some ticket => constructor <;> simp [releasing, token, Step.count]

/-! ### Locks within each other -/

theorem inOrder_of_begun (begun : Begun w place inside st works w') : InOrder works := by
  cases works with
  | nil => exact .nil
  | cons x works =>
    have plain : ∀ y ∈ works, y.isPlain ∧ y.held = [] := fun y among =>
      ⟨begun.plain y among, begun.held y (List.mem_cons_of_mem x among)⟩
    exact .cons (fun y among => ⟨(plain y among).1, .inl (plain y among).2⟩) (inOrder_of_forall plain)

theorem Store.lock_of_free (free : i ∉ c.locks) (next : Work) :
    c.lock i next = some ([next], { c with locks := i :: c.locks }) := by
  rw [Store.lock, if_neg free]

/-- A piece of work can be done, unless it drops a registration and the lock for that is held. -/
theorem Store.exists_act (locks : x.isLink ∨ c.locks = x.held)
    (free : ∀ i id, x = .lockToRemove i id → i ∉ c.locks) : ∃ works c', c.act x = some (works, c') := by
  cases x with
  | lockToTake inside i | lockToRegister inside e =>
    have none : c.locks = [] := by simpa using locks
    exact ⟨_, _, Store.lock_of_free (by simp [none]) _⟩
  | lockToRemove i id => exact ⟨_, _, Store.lock_of_free (free i id rfl) _⟩
  | swap inside i =>
    simp only [Store.act]
    split
    · exact ⟨_, _, rfl⟩
    · split_ifs <;> exact ⟨_, _, rfl⟩
  | register inside e =>
    simp only [Store.act]
    split
    · exact ⟨_, _, rfl⟩
    · split_ifs <;> exact ⟨_, _, rfl⟩
  | abandon i =>
    simp only [Store.act]
    split_ifs <;> exact ⟨_, _, rfl⟩
  | _ => exact ⟨_, _, rfl⟩

theorem plain_of_mem_releasing {rs : List Registration} (among : x ∈ releasing rs) : x.isPlain ∧ x.held = [] := by
  obtain ⟨i, id, rfl⟩ := mem_releasing among
  exact ⟨rfl, rfl⟩

theorem plain_of_mem_dropping {entries : List Entry}
    (among : x ∈ entries.flatMap (releasing ·.callback.owned)) : x.isPlain ∧ x.held = [] := by
  obtain ⟨e, -, among⟩ := List.mem_flatMap.mp among
  exact plain_of_mem_releasing among

theorem isLink_of_mem_dropping {entries : List Entry}
    (among : x ∈ entries.flatMap (releasing ·.callback.owned)) : x.isLink := by
  obtain ⟨e, -, among⟩ := List.mem_flatMap.mp among
  obtain ⟨i, id, rfl⟩ := mem_releasing among
  rfl

theorem plain_of_mem_steps {steps : List (ℕ × Step)} :
    ∀ y ∈ steps.map fun (place, s) => Work.perform place inside s, y.isPlain ∧ y.held = [] :=
  List.forall_mem_map.mpr fun _ _ => ⟨rfl, rfl⟩

theorem plain_of_mem_calls {entries : List Entry} :
    ∀ y ∈ entries.map (Work.call inside), y.isPlain ∧ y.held = [] :=
  List.forall_mem_map.mpr fun _ _ => ⟨rfl, rfl⟩

/-- What a piece of work leaves to do is in order. -/
theorem Acts.order (acts : Acts c x works c') : InOrder works := by
  cases acts with
  | perform place inside s => exact inOrder_of_begun (begun c.world place inside s)
  | call inside e =>
    exact inOrder_of_forall (List.forall_mem_append.mpr ⟨plain_of_mem_steps, fun _ => plain_of_mem_releasing⟩)
  | keep label r => exact inOrder_of_forall fun _ => plain_of_mem_releasing
  | take inside i => exact inOrder_of_forall plain_of_mem_calls
  | late _ _ _ _ _ => exact inOrder_of_forall (by simp)
  | abandon i _ => exact inOrder_of_forall fun _ => plain_of_mem_dropping
  | remove i id =>
    refine List.pairwise_append.mpr
      ⟨inOrder_of_forall fun _ => plain_of_mem_dropping, List.pairwise_singleton _ _, ?_⟩
    intro y among z last
    rw [List.mem_singleton.mp last]
    exact ⟨rfl, .inr (isLink_of_mem_dropping among)⟩
  | answer _ _ _ | answerCancelled _ _ _ | refuse _ _ _ | gone _ _ _ | unlock _ | spare _ _ => exact .nil
  | raise _ _ _ _ _ | lockToTake _ _ | lockToRegister _ _ | lockToRemove _ _ _ | enlist _ _ _ _ _ =>
    exact List.pairwise_singleton _ _

/-- Dropping a registration leaves nothing else to do. -/
theorem Acts.isLink (acts : Acts c x works c') (link : x.isLink) : ∀ y ∈ works, y.isLink := by
  cases acts with
  | lockToRemove i id _ => simp
  | remove i id => exact List.forall_mem_append.mpr ⟨fun _ => isLink_of_mem_dropping, by simp⟩
  | unlock i => nofun
  | _ => cases link

theorem flatMap_held (none : ∀ y ∈ works, y.isPlain ∧ y.held = []) : works.flatMap Work.held = [] :=
  List.flatMap_eq_nil_iff.mpr fun y among => (none y among).2

/-- The locks that are held are those that are to be given back, the innermost one first. -/
theorem Acts.locks {outer : List ℕ} (acts : Acts c x works c') (locks : c.locks = x.held ++ outer) :
    c'.locks = works.flatMap Work.held ++ outer := by
  have given {i : ℕ} (locks : c.locks = [i] ++ outer) : c.locks.erase i = outer := by
    rw [locks, List.singleton_append, List.erase_cons_head]
  cases acts with
  | perform place inside s =>
    rw [List.flatMap_eq_nil_iff.mpr (begun c.world place inside s).held]
    exact locks
  | call inside e =>
    rw [flatMap_held (List.forall_mem_append.mpr ⟨plain_of_mem_steps, fun _ => plain_of_mem_releasing⟩)]
    exact locks
  | keep label r =>
    rw [replacing, flatMap_held fun _ => plain_of_mem_releasing]
    exact locks
  | take inside i =>
    rw [flatMap_held plain_of_mem_calls]
    exact given locks
  | abandon i _ =>
    rw [flatMap_held fun _ => plain_of_mem_dropping]
    exact locks
  | remove i id =>
    rw [List.flatMap_append, flatMap_held fun _ => plain_of_mem_dropping]
    exact locks
  | lockToTake _ _ | lockToRegister _ _ | lockToRemove _ _ _ => exact congrArg (List.cons _) locks
  | gone _ _ _ | late _ _ _ _ _ | enlist _ _ _ _ _ | unlock _ => exact given locks
  | answer _ _ _ | answerCancelled _ _ _ | refuse _ _ _ | raise _ _ _ _ _ | spare _ _ => exact locks

/-! ### Loads -/

/-- The waiting callbacks. -/
def Store.queue (c : Store) : List Entry := c.waiting.map Waiter.entry

/-- What the waiting callbacks and the timers can still bring. -/
def Store.load (c : Store) : ℕ := (c.queue.map Entry.load).sum + 4 * c.world.timers.length

theorem Store.queue_perm (c : Store) (i : ℕ) : (c.waitingOn i ++ (c.take i).queue).Perm c.queue := by
  rw [Store.waitingOn, Store.queue, ← List.map_append]
  exact (List.filter_append_perm _ _).map _

theorem Store.queue_enlist (c : Store) (e : Entry) : (c.enlist e id).queue = c.queue ++ [e] := by
  simp [Store.queue, Store.enlist]

theorem Store.queue_remove (c : Store) (i id : ℕ) : (c.removed i id ++ (c.remove i id).queue).Perm c.queue := by
  rw [Store.removed, Store.queue, ← List.map_append]
  exact (List.filter_append_perm _ _).map _

theorem sum_numbered (place : ℕ) (body : List Step) :
    ((numbered place body).map fun (_, s) => 10 * s.count).sum = 10 * countAll body := by
  induction body generalizing place with
  | nil => rfl
  | cons s body ih => rw [numbered, List.map_cons, List.sum_cons, ih, countAll, Nat.mul_add]

/-- What callbacks own is dropped within the bound for them. -/
theorem load_dropping (entries : List Entry) :
    ((entries.flatMap (releasing ·.callback.owned)).map Work.load).sum ≤ (entries.map Entry.load).sum := by
  induction entries with
  | nil => exact le_rfl
  | cons e entries ih =>
    have own := load_releasing e.callback.owned
    simp only [List.flatMap_cons, List.map_append, List.sum_append, List.map_cons, List.sum_cons, Entry.load] at ih ⊢
    omega

theorem timers_record (w : World) (owner : Option String) (word : String) (a : Answer) :
    (w.record owner word a).timers = w.timers := by
  cases owner <;> rfl

theorem sum_of_queue_perm {gone left : List Entry} (parted : (gone ++ left).Perm c.queue) :
    (gone.map Entry.load).sum + (left.map Entry.load).sum = (c.queue.map Entry.load).sum := by
  have parted := (parted.map Entry.load).sum_eq
  rwa [List.map_append, List.sum_append] at parted

theorem Acts.load (acts : Acts c x works c') : (works.map Work.load).sum + c'.load < x.load + c.load := by
  cases acts with
  | perform place inside s =>
    have less := (begun c.world place inside s).load
    simp only [Store.load, Work.load, Store.queue]
    omega
  | call inside e =>
    have body := sum_numbered (e.place + 1) e.callback.body
    have own := load_releasing e.callback.owned
    simp only [List.map_append, List.sum_append, List.map_map, Function.comp_def, Work.load, Entry.load]
    simp only [body, Store.load, Store.queue]
    omega
  | keep label r =>
    have old := load_releasing (c.world.registrations.lookup label).toList
    have one : (c.world.registrations.lookup label).toList.length ≤ 1 := by
      cases c.world.registrations.lookup label <;> simp
    change ((replacing c.world label).map Work.load).sum + c.load < 4 + c.load
    rw [replacing]
    omega
  | answer _ _ _ | answerCancelled _ _ _ => simp [Store.load, Store.queue, timers_record]
  | refuse _ _ _ | lockToTake _ _ | lockToRegister _ _ | lockToRemove _ _ _ | unlock _ | spare _ _ =>
    simp [Store.load, Store.queue, Store.unlock]
  | raise _ _ _ _ _ => simp [Store.load, Store.queue, change]
  | take inside i =>
    have parted := sum_of_queue_perm (c.queue_perm i)
    rw [List.map_map]
    change ((c.waitingOn i).map Entry.load).sum + (((c.take i).queue.map _).sum + 4 * c.world.timers.length) <
      1 + c.load
    rw [Store.load]
    omega
  | abandon i _ =>
    have parted := sum_of_queue_perm (c.queue_perm i)
    have dropped := load_dropping (c.waitingOn i)
    change _ + (((c.take i).queue.map _).sum + 4 * c.world.timers.length) < 1 + c.load
    rw [Store.load]
    omega
  | gone inside e _ =>
    change 0 + c.load < (Work.register inside e).load + c.load
    simp
  | late inside e _ _ _ =>
    change _ + c.load < (Work.register inside e).load + c.load
    simp only [List.map_cons, List.map_nil, List.sum_cons, List.sum_nil, Work.load]
    omega
  | enlist inside e t _ _ =>
    change _ + (((c.enlist e t.nextId).queue.map _).sum + 4 * c.world.timers.length) < _ + c.load
    rw [Store.queue_enlist, Store.load, List.map_append, List.sum_append]
    simp only [List.map_cons, List.map_nil, List.sum_cons, List.sum_nil, Work.load]
    omega
  | remove i id =>
    have parted := sum_of_queue_perm (c.queue_remove i id)
    have dropped := load_dropping (c.removed i id)
    simp only [List.map_append, List.sum_append, List.map_cons, List.map_nil, List.sum_singleton, Work.load]
    change _ + (((c.remove i id).queue.map _).sum + 4 * c.world.timers.length) < 2 + c.load
    rw [Store.load]
    omega

end PseudoTerminal.Cancellation.Nesting
