import PseudoTerminal.Proofs.Cancellation.Withdrawal

/-! Registrations of any number of tokens. A registration holds on to a handle: a reference to its token, which
keeps nothing alive, and an id in a word of 64 bits. One whose callback ran at once refers to nobody and has the
id zero, which may be the id of a callback that waits. Ids count up on each token by itself and are never set
back, so as long as there are fewer registrations than words, a drop finds the callback of its own registration
under its id, or none. -/

namespace PseudoTerminal.Cancellation.Handles

open Calls (Change)

/-- What a registration holds on to: the token that it refers to, if any, and an id. -/
structure Handle where
  token : Option ℕ
  id : UInt64
  deriving DecidableEq, Repr

/-- The handle of a registration with token `i`, as long as there is one. -/
def handle? (i : ℕ) : Calls.Registration → Option Handle
  | .held (some id) | .dropping (some id) | .removing id => some ⟨some i, .ofNat id⟩
  | .held none | .dropping none => some ⟨none, 0⟩
  | _ => none

/-- Removes the waiting callbacks whose id is a word. -/
def removeWord (t : Token ℕ) (id : UInt64) : Token ℕ :=
  { t with pending := t.pending.filter fun e => UInt64.ofNat e.1 != id }

/-- A step of a call on one token, where a drop compares words. -/
def stepWord (c : Calls.State) : Calls.Move → Option Calls.State
  | .drop k =>
    match c.registrations k with
    | .removing id =>
      some ({ c with token := removeWord c.token (.ofNat id), lock := none }.setRegistration k .dropped)
    | _ => c.stepDrop k
  | m => c.step m

/-- A step of a drop whose token is gone: it finds nobody. -/
def stepGone (c : Calls.State) (k : ℕ) : Option Calls.State :=
  match c.registrations k with
  | .held id => some (c.setRegistration k (.dropping id))
  | .dropping _ => some (c.setRegistration k .dropped)
  | _ => none

/-- Whether a call uses the token, which keeps it alive. A drop that did not reach for it yet does not. -/
def uses : Calls.Registration → Bool
  | .called | .locked | .clear | .late | .removing _ => true
  | _ => false

/-- The calls on each token, and the tokens that are gone. Callbacks go by the number of their registration. -/
structure State where
  calls : ℕ → Calls.State := fun _ => {}
  gone : Finset ℕ := ∅

inductive Move
  | act (i : ℕ) (m : Calls.Move)
  /-- Everybody who shares a token has let go of it. -/
  | free (i : ℕ)
  deriving DecidableEq, Repr

namespace State

def token (s : State) (i : ℕ) : Token ℕ := (s.calls i).token

def registration (s : State) (i k : ℕ) : Calls.Registration := (s.calls i).registrations k

/-- The ids of the waiting callbacks, in order. -/
def ids (s : State) (i : ℕ) : List UInt64 := (s.token i).pending.map fun e => .ofNat e.1

/-- The next id. -/
def nextId (s : State) (i : ℕ) : UInt64 := .ofNat (s.token i).nextId

def set (s : State) (i : ℕ) (c : Calls.State) : State := { s with calls := Function.update s.calls i c }

/-- A token goes, with the callbacks that wait on it. -/
def free (s : State) (i : ℕ) : State :=
  { s.set i { s.calls i with token := (s.token i).take.2 } with gone := insert i s.gone }

end State

/-- The steps of all calls on all tokens. -/
inductive Step (s : State) : Move → State → Prop
  | act {i : ℕ} {m : Calls.Move} {c : Calls.State} (here : i ∉ s.gone)
    (made : stepWord (s.calls i) m = some c) : Step s (.act i m) (s.set i c)
  | dropGone {i k : ℕ} {c : Calls.State} (gone : i ∈ s.gone)
    (made : stepGone (s.calls i) k = some c) : Step s (.act i (.drop k)) (s.set i c)
  | free {i : ℕ} (here : i ∉ s.gone) (cancels : ∀ j, ((s.calls i).cancels j).inProgress = false)
    (registrations : ∀ k, uses (s.registration i k) = false) : Step s (.free i) (s.free i)

/-- What steps in any order lead to. -/
inductive Run : List Move → State → Prop
  | start : Run [] {}
  | step {moves : List Move} {m : Move} {s t : State} (before : Run moves s) (made : Step s m t) :
    Run (moves ++ [m]) t

/-- The registrations that were begun, each with its token. -/
def registered (moves : List Move) : Finset (ℕ × ℕ) :=
  (moves.filterMap fun
    | .act i (.register k) => some (i, k)
    | _ => none).toFinset

variable {s t : State} {c d : Calls.State} {m : Calls.Move} {moves : List Move} {i j k : ℕ}

@[simp, grind =] theorem set_calls : (s.set i c).calls j = if j = i then c else s.calls j :=
  Function.update_apply s.calls i c j

@[simp, grind =] theorem set_gone : (s.set i c).gone = s.gone := rfl

theorem set_registration : (s.set i c).registration i k = c.registrations k := by
  simp [State.registration]

/-! ### One token -/

/-- Whether a registration got its answer: an id, or that it came too late. -/
def isSettled : Calls.Registration → Bool
  | .late | .held _ | .dropping _ | .removing _ | .dropped => true
  | _ => false

theorem isSettled_step (change : Change c d) (settled : isSettled (c.registrations k)) :
    isSettled (d.registrations k) := by
  cases change <;> grind [isSettled]

/-- An id is given to a registration that gets its answer by it. -/
theorem nextId_step (made : c.step m = some d) : d.token.nextId = c.token.nextId ∨
    ∃ k, m = .register k ∧ isSettled (c.registrations k) = false ∧ isSettled (d.registrations k) ∧
      d.token.nextId = c.token.nextId + 1 := by
  cases m with
  | cancel i =>
    simp only [Calls.State.step, Calls.State.stepCancel] at made
    grind [Token.raise, Token.take]
  | register k =>
    simp only [Calls.State.step, Calls.State.stepRegister] at made
    grind [Token.enlist, isSettled]
  | drop k =>
    simp only [Calls.State.step, Calls.State.stepDrop] at made
    grind [Token.unregister]

/-- The waiting callbacks are in the order of their ids. -/
def InOrder (t : Token ℕ) : Prop := (t.pending.map Prod.fst).Pairwise (· < ·)

theorem InOrder.filter {t : Token ℕ} (order : InOrder t) (p : ℕ × ℕ → Bool) :
    InOrder { t with pending := t.pending.filter p } :=
  order.sublist (List.filter_sublist.map Prod.fst)

theorem inOrder_step (change : Change c d) (naming : Calls.Naming c) (order : InOrder c.token) :
    InOrder d.token := by
  cases change with
  | take i stage => exact .nil
  | enlist k stage =>
    have below : ∀ id ∈ c.token.pending.map Prod.fst, id < c.token.nextId := by
      intro id among
      obtain ⟨e, waits, rfl⟩ := List.mem_map.mp among
      exact naming.bound e.2 e.1 (naming.entry e waits)
    simpa [InOrder, Token.enlist, List.pairwise_append] using ⟨order, by simpa using below⟩
  | remove k id stage => exact order.filter _
  | _ => exact order

theorem ofNat_inj {a b : ℕ} (fits : a < 2 ^ 64) (also : b < 2 ^ 64) :
    UInt64.ofNat a = UInt64.ofNat b ↔ a = b := by
  rw [← UInt64.toNat_inj, UInt64.toNat_ofNat_of_lt' fits, UInt64.toNat_ofNat_of_lt' also]

theorem removeWord_eq (naming : Calls.Naming c) (fits : c.token.nextId < 2 ^ 64) {id : ℕ}
    (has : (c.registrations k).id? = some id) :
    removeWord c.token (.ofNat id) = c.token.unregister id := by
  have same : ∀ e ∈ c.token.pending, (UInt64.ofNat e.1 != .ofNat id) = (e.1 != id) := by
    intro e waits
    have bound := naming.bound e.2 e.1 (naming.entry e waits)
    have := ofNat_inj (bound.trans fits) ((naming.bound k id has).trans fits)
    rw [Bool.eq_iff_iff, bne_iff_ne, bne_iff_ne, ne_eq, this]
  rw [removeWord, List.filter_congr same]
  rfl

/-- While ids fit into words, comparing words is comparing ids. -/
theorem stepWord_eq (naming : Calls.Naming c) (fits : c.token.nextId < 2 ^ 64) :
    stepWord c m = c.step m := by
  cases m with
  | cancel i => rfl
  | register k => rfl
  | drop k =>
    cases stage : c.registrations k with
    | removing id =>
      have has : (c.registrations k).id? = some id := by rw [stage]; rfl
      simp only [stepWord, stage, removeWord_eq naming fits has, Calls.State.step, Calls.State.stepDrop]
    | _ => simp only [stepWord, stage, Calls.State.step]

/-- Once nothing waits, a step that gives out no id. -/
theorem naming_of_nil (naming : Calls.Naming c) (pending : d.token.pending = [])
    (next : d.token.nextId = c.token.nextId)
    (ids : ∀ l id, (d.registrations l).id? = some id → (c.registrations l).id? = some id) :
    Calls.Naming d where
  entry _ waits := absurd (pending ▸ waits) List.not_mem_nil
  bound l id has := next ▸ naming.bound l id (ids l id has)
  unique l l' id has also := naming.unique l l' id (ids l id has) (ids l' id also)

theorem stepGone_cases (made : stepGone c k = some d) :
    (∃ id, c.registrations k = .held id ∧ d = c.setRegistration k (.dropping id)) ∨
      ∃ id, c.registrations k = .dropping id ∧ d = c.setRegistration k .dropped := by
  cases stage : c.registrations k with
  | held id => exact .inl ⟨id, rfl, by simpa [stepGone, stage] using made.symm⟩
  | dropping id => exact .inr ⟨id, rfl, by simpa [stepGone, stage] using made.symm⟩
  | _ => simp [stepGone, stage] at made

theorem token_stepGone (made : stepGone c k = some d) : d.token = c.token := by
  rcases stepGone_cases made with ⟨id, -, rfl⟩ | ⟨id, -, rfl⟩ <;> rfl

theorem naming_stepGone (naming : Calls.Naming c) (pending : c.token.pending = [])
    (made : stepGone c k = some d) : Calls.Naming d := by
  have token := token_stepGone made
  refine naming_of_nil naming (token ▸ pending) (by rw [token]) ?_
  rcases stepGone_cases made with ⟨id, stage, rfl⟩ | ⟨id, stage, rfl⟩ <;> grind [Calls.Registration.id?]

theorem isSettled_stepGone (made : stepGone c k = some d) (l : ℕ)
    (settled : isSettled (c.registrations l)) : isSettled (d.registrations l) := by
  rcases stepGone_cases made with ⟨id, stage, rfl⟩ | ⟨id, stage, rfl⟩ <;> grind [isSettled]

/-! ### All tokens -/

theorem registered_append (moves : List Move) (m : Move) :
    registered (moves ++ [m]) = registered moves ∪ registered [m] := by
  simp [registered, List.filterMap_append, List.toFinset_append]

/-- The registrations with a token that were begun and got an answer. -/
def settled (moves : List Move) (s : State) (i : ℕ) : Finset (ℕ × ℕ) :=
  (registered moves).filter fun p => p.1 = i ∧ isSettled (s.registration i p.2)

theorem settled_subset (keeps : ∀ l, isSettled (s.registration i l) → isSettled (t.registration i l))
    (moves : List Move) (m : Move) : settled moves s i ⊆ settled (moves ++ [m]) t i := by
  intro p among
  obtain ⟨begun, here, answered⟩ := Finset.mem_filter.mp among
  refine Finset.mem_filter.mpr ⟨?_, here, keeps p.2 answered⟩
  rw [registered_append]
  exact Finset.mem_union_left _ begun

/-- A registration that gets its answer is one more. -/
theorem card_settled_lt (keeps : ∀ l, isSettled (s.registration i l) → isSettled (t.registration i l))
    (before : isSettled (s.registration i k) = false) (after : isSettled (t.registration i k))
    (moves : List Move) :
    (settled moves s i).card < (settled (moves ++ [.act i (.register k)]) t i).card := by
  refine Finset.card_lt_card ⟨settled_subset keeps moves _, fun sub => ?_⟩
  have among : (i, k) ∈ settled (moves ++ [.act i (.register k)]) t i := by
    simp [settled, registered, after]
  obtain ⟨-, -, answered⟩ := Finset.mem_filter.mp (sub among)
  rw [before] at answered
  cases answered

structure Inv (moves : List Move) (s : State) : Prop where
  naming : ∀ i, Calls.Naming (s.calls i)
  order : ∀ i, InOrder (s.token i)
  gone : ∀ i ∈ s.gone, (s.token i).pending = []
  /-- Each id went to a registration of its own. -/
  count : ∀ i, (s.token i).nextId ≤ (settled moves s i).card

theorem inv_start : Inv [] {} where
  naming _ := Calls.inv_init.naming
  order _ := .nil
  gone _ := nofun
  count _ := Nat.zero_le _

theorem Inv.fits (inv : Inv moves s) (few : (registered moves).card < 2 ^ 64) (i : ℕ) :
    (s.token i).nextId < 2 ^ 64 :=
  ((inv.count i).trans (Finset.card_filter_le _ _)).trans_lt few

/-- A step on one token. -/
theorem Inv.set (inv : Inv moves s) {m : Move} (naming : Calls.Naming c) (order : InOrder c.token)
    (gone : i ∈ s.gone → c.token.pending = [])
    (count : c.token.nextId ≤ (settled (moves ++ [m]) (s.set i c) i).card) :
    Inv (moves ++ [m]) (s.set i c) where
  naming j := by
    rw [set_calls]
    split
    exacts [naming, inv.naming j]
  order j := by
    rw [State.token, set_calls]
    split
    exacts [order, inv.order j]
  gone j among := by
    rw [State.token, set_calls]
    split
    case isTrue here => exact gone (here ▸ among)
    case isFalse => exact inv.gone j among
  count j := by
    rw [State.token, set_calls]
    split
    case isTrue here => exact here ▸ count
    case isFalse other =>
      refine (inv.count j).trans (Finset.card_le_card (settled_subset (fun l answered => ?_) moves m))
      rwa [State.registration, set_calls, if_neg other]

/-- A step on one token that gives out no id. -/
theorem Inv.set_of_same (inv : Inv moves s) {m : Move} (naming : Calls.Naming c) (order : InOrder c.token)
    (gone : i ∈ s.gone → c.token.pending = []) (next : c.token.nextId = (s.token i).nextId)
    (keeps : ∀ l, isSettled (s.registration i l) → isSettled (c.registrations l)) :
    Inv (moves ++ [m]) (s.set i c) := by
  refine inv.set naming order gone ?_
  rw [next]
  refine (inv.count i).trans (Finset.card_le_card (settled_subset (fun l => ?_) moves m))
  rw [set_registration]
  exact keeps l

theorem inv_step {m : Move} (inv : Inv moves s) (fits : ∀ i, (s.token i).nextId < 2 ^ 64)
    (step : Step s m t) : Inv (moves ++ [m]) t := by
  cases step with
  | @act i m c here made =>
    rw [stepWord_eq (inv.naming i) (fits i)] at made
    have change := Calls.change_of_step made
    have naming := Calls.naming_step change (inv.naming i)
    have order := inOrder_step change (inv.naming i) (inv.order i)
    have keeps (l : ℕ) : isSettled (s.registration i l) → isSettled (c.registrations l) :=
      isSettled_step change
    rcases nextId_step made with same | ⟨k, rfl, before, after, next⟩
    · exact inv.set_of_same naming order (absurd · here) same keeps
    · -- The registration that the id goes to had no answer before, so there is one more of these.
      refine inv.set naming order (absurd · here) ?_
      rw [next]
      refine (inv.count i).trans_lt (card_settled_lt (fun l => ?_) before ?_ moves)
      · rw [set_registration]
        exact keeps l
      · rw [set_registration]
        exact after
  | @dropGone i k c gone made =>
    have token := token_stepGone made
    have pending := inv.gone i gone
    refine inv.set_of_same (naming_stepGone (inv.naming i) pending made) ?_ ?_ ?_ (isSettled_stepGone made)
    · rw [token]
      exact inv.order i
    · rw [token]
      exact fun _ => pending
    · rw [token]
      rfl
  | @free i here cancels registrations =>
    have emptied : Inv (moves ++ [.free i]) (s.set i { s.calls i with token := (s.token i).take.2 }) :=
      inv.set_of_same (naming_of_nil (inv.naming i) rfl rfl fun _ _ => id) .nil (fun _ => rfl) rfl fun _ => id
    refine { emptied with gone := fun j gone => ?_ }
    rcases Finset.mem_insert.mp gone with rfl | gone
    · simp [State.token, State.free, Token.take]
    · exact emptied.gone j gone

theorem registered_card_le (moves : List Move) (m : Move) :
    (registered moves).card ≤ (registered (moves ++ [m])).card := by
  rw [registered_append]
  exact Finset.card_le_card Finset.subset_union_left

theorem inv_run (run : Run moves s) (few : (registered moves).card < 2 ^ 64) : Inv moves s := by
  induction run with
  | start => exact inv_start
  | @step moves m s t before made ih =>
    have few := (registered_card_le moves m).trans_lt few
    exact inv_step (ih few) ((ih few).fits few) made

/-! ### Drops -/

/-- The token when the callback of a registration does not wait there, or not any more. -/
def without (t : Token ℕ) (k : ℕ) : Token ℕ := { t with pending := t.pending.filter (·.2 ≠ k) }

theorem without_of_nil {t : Token ℕ} (empty : t.pending = []) : without t k = t := by
  cases t
  cases empty
  rfl

theorem without_eq_self (naming : Calls.Naming c) (none : (c.registrations k).id? = none) :
    without c.token k = c.token := by
  have others : ∀ e ∈ c.token.pending, decide (e.2 ≠ k) = true := by
    intro e waits
    have has := naming.entry e waits
    refine decide_eq_true ?_
    rintro rfl
    rw [none] at has
    cases has
  rw [without, List.filter_eq_self.mpr others]

theorem unregister_eq_without (naming : Calls.Naming c) {id : ℕ}
    (has : (c.registrations k).id? = some id) : c.token.unregister id = without c.token k := by
  have same : ∀ e ∈ c.token.pending, (e.1 != id) = decide (e.2 ≠ k) := by
    intro e waits
    have own := naming.entry e waits
    rw [Bool.eq_iff_iff, bne_iff_ne, decide_eq_true_iff]
    refine not_congr ⟨?_, ?_⟩
    · rintro rfl
      exact naming.unique e.2 k e.1 own has
    · rintro rfl
      rw [own] at has
      exact Option.some_inj.mp has
  rw [Token.unregister, List.filter_congr same]
  rfl

theorem token_stepDrop (naming : Calls.Naming c) (made : c.stepDrop k = some d) :
    d.token = if d.registrations k = .dropped then without c.token k else c.token := by
  unfold Calls.State.stepDrop at made
  split at made
  case h_1 id stage =>
    cases made
    simp
  case h_2 stage =>
    have none : (c.registrations k).id? = none := by rw [stage]; rfl
    cases made
    simp [without_eq_self naming none]
  case h_3 id stage =>
    split at made <;> cases made
    simp
  case h_4 id stage =>
    have has : (c.registrations k).id? = some id := by rw [stage]; rfl
    cases made
    simp [unregister_eq_without naming has]
  case h_5 => cases made

/-- A drop takes the callback of its registration away when it ends, if that one waits, and nothing else. -/
theorem token_drop (inv : Inv moves s) (fits : (s.token i).nextId < 2 ^ 64)
    (made : Step s (.act i (.drop k)) t) :
    t.token i = if t.registration i k = .dropped then without (s.token i) k else s.token i := by
  have naming := inv.naming i
  cases made with
  | @act _ _ c here made =>
    rw [stepWord_eq naming fits] at made
    simpa [State.token, State.registration] using token_stepDrop naming made
  | @dropGone _ _ c gone made =>
    rw [without_of_nil (inv.gone i gone), ite_self]
    simpa [State.token] using token_stepGone made

theorem ids_nodup (order : InOrder (s.token i)) (naming : Calls.Naming (s.calls i))
    (fits : (s.token i).nextId < 2 ^ 64) : (s.ids i).Nodup := by
  have bound (e : ℕ × ℕ) (waits : e ∈ (s.token i).pending) : e.1 < 2 ^ 64 :=
    (naming.bound e.2 e.1 (naming.entry e waits)).trans fits
  refine List.pairwise_map.mpr ((List.pairwise_map.mp order).imp_of_mem fun first second less => ?_)
  rw [Ne, ofNat_inj (bound _ first) (bound _ second)]
  exact less.ne

/-- In fewer registrations than there are words, with any number of tokens and any order of the steps of
their calls: the ids that wait on a token are distinct and below its next id; the registration of a callback
that waits refers to its token by its id; and the steps of a drop leave the other tokens alone, and their own
until the last one, which takes the callback of the registration away if it waits there, and no other one. -/
theorem registrations_told_apart (run : Run moves s) (few : (registered moves).card < 2 ^ 64) :
    (∀ i, (s.ids i).Nodup ∧ ∀ id ∈ s.ids i, id < s.nextId i) ∧
      (∀ i, ∀ e ∈ (s.token i).pending,
        handle? i (s.registration i e.2) = some ⟨some i, .ofNat e.1⟩) ∧
      ∀ i k t, Step s (.act i (.drop k)) t →
        (∀ j ≠ i, t.calls j = s.calls j) ∧
          t.token i = if t.registration i k = .dropped then without (s.token i) k else s.token i := by
  have inv := inv_run run few
  have fits := inv.fits few
  refine ⟨fun i => ⟨ids_nodup (inv.order i) (inv.naming i) (fits i), ?_⟩, ?_,
    fun i k t made => ⟨?_, token_drop inv (fits i) made⟩⟩
  · intro id waits
    obtain ⟨e, among, rfl⟩ := List.mem_map.mp waits
    have bound : e.1 < (s.token i).nextId := (inv.naming i).bound e.2 e.1 ((inv.naming i).entry e among)
    rw [State.nextId, UInt64.lt_iff_toNat_lt, UInt64.toNat_ofNat_of_lt' (bound.trans (fits i)),
      UInt64.toNat_ofNat_of_lt' (fits i)]
    exact bound
  · intro i e among
    have has := (inv.naming i).entry e among
    rw [State.registration]
    cases stage : (s.calls i).registrations e.2 <;> simp_all [Calls.Registration.id?, handle?]
  · intro j other
    cases made <;> rw [set_calls, if_neg other]

theorem set_set : (s.set i c).set i d = s.set i d := by
  simp [State.set]

theorem Run.acts (run : Run moves s) (here : i ∉ s.gone) {acts : List Calls.Move}
    (made : acts.foldlM stepWord (s.calls i) = some c) : Run (moves ++ acts.map (.act i)) (s.set i c) := by
  induction acts using List.reverseRecOn generalizing c with
  | nil =>
    cases made
    simpa [State.set] using run
  | append_singleton acts m ih =>
    rw [List.foldlM_append, Option.bind_eq_bind, Option.bind_eq_some_iff] at made
    obtain ⟨b, before, last⟩ := made
    rw [List.map_append, ← List.append_assoc, ← set_set (c := b)]
    exact (ih before).step (.act here (by simpa using last))

/-- The first of two callbacks on a token is taken away by the drop of its registration. A registration with
another token, which was cancelled already, has the same id and takes nothing away. -/
theorem registrations_told_apart_same_id :
    ∃ moves s t u, Run moves s ∧ (registered moves).card < 2 ^ 64 ∧ s.ids 0 = [0, 1] ∧
      handle? 0 (s.registration 0 0) = some ⟨some 0, 0⟩ ∧ Step s (.act 0 (.drop 0)) t ∧
      (t.token 0).pending = [(1, 1)] ∧
      handle? 1 (s.registration 1 2) = some ⟨none, 0⟩ ∧ Step s (.act 1 (.drop 2)) u ∧
      u.token 0 = s.token 0 := by
  let acts : List Calls.Move :=
    List.replicate 4 (.register 0) ++ List.replicate 4 (.register 1) ++ List.replicate 2 (.drop 0)
  let others : List Calls.Move :=
    List.replicate 5 (.cancel 0) ++ List.replicate 4 (.register 2) ++ [.drop 2]
  have facts : (acts.foldlM stepWord {}).map (fun c => (c.token.pending, c.registrations 0)) =
      some ([(0, 0), (1, 1)], .removing 0) := by decide
  have facts' : (others.foldlM stepWord {}).map (fun d => d.registrations 2) =
      some (.dropping none) := by decide
  obtain ⟨c, made, facts⟩ := Option.map_eq_some_iff.mp facts
  obtain ⟨d, made', late⟩ := Option.map_eq_some_iff.mp facts'
  obtain ⟨pending, removing⟩ := Prod.mk.inj facts
  have run := (Run.start.acts (i := 0) (by simp) made).acts (i := 1) (by simp) made'
  have few : (registered ([] ++ acts.map (.act 0) ++ others.map (.act 1))).card < 2 ^ 64 := by
    decide +kernel
  obtain ⟨-, handles, drops⟩ := registrations_told_apart run few
  have first := Step.act (s := (State.set {} 0 c).set 1 d) (i := 0) (m := .drop 0) (by simp)
    (by simp [stepWord, removing]; rfl)
  have second := Step.act (s := (State.set {} 0 c).set 1 d) (i := 1) (m := .drop 2) (by simp)
    (by simp [stepWord, Calls.State.stepDrop, late]; rfl)
  refine ⟨_, _, _, _, run, few, ?_, ?_, first, ?_, ?_, second, ?_⟩
  · simp [State.ids, State.token, pending]
  · simp [State.registration, removing, handle?]
  · rw [(drops 0 0 _ first).2]
    simp [State.registration, State.token, without, pending]
  · simp [State.registration, late, handle?]
  · exact congrArg Calls.State.token ((drops 1 2 _ second).1 0 (by decide))

end PseudoTerminal.Cancellation.Handles
