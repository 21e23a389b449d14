import PseudoTerminal.Proofs.Cancellation.Accounting

/-! Which number a registration goes by is nobody's business: calls on a token with other numbers for the
registrations make the same steps. So each of several users of a token can have its own numbers. -/

namespace PseudoTerminal.Cancellation.Calls

variable {s t : State} {e f : Equiv.Perm ℕ}

def Cancel.rename (e : Equiv.Perm ℕ) : Cancel → Cancel
  | firing rest => firing (rest.map e)
  | c => c

def Holder.rename (e : Equiv.Perm ℕ) : Holder → Holder
  | cancel i => cancel i
  | registration k => registration (e k)

def Move.rename (e : Equiv.Perm ℕ) : Move → Move
  | cancel i => cancel i
  | register k => register (e k)
  | drop k => drop (e k)

/-- The waiting callbacks under other numbers. -/
def renameToken (e : Equiv.Perm ℕ) (token : Token ℕ) : Token ℕ :=
  { token with pending := token.pending.map (Prod.map id e) }

theorem take_renameToken (token : Token ℕ) :
    (renameToken e token).take = (token.take.1.map e, renameToken e token.take.2) := by
  simp [renameToken, Token.take, Function.comp_def]

theorem enlist_renameToken (token : Token ℕ) (k : ℕ) :
    (renameToken e token).enlist (e k) = ((token.enlist k).1, renameToken e (token.enlist k).2) := by
  simp [renameToken, Token.enlist]

theorem unregister_renameToken (token : Token ℕ) (id : ℕ) :
    (renameToken e token).unregister id = renameToken e (token.unregister id) := by
  simp [renameToken, Token.unregister, List.filter_map, Function.comp_def]

namespace State

/-- The state of the calls when registration `k` goes by the number `e k`. -/
def rename (e : Equiv.Perm ℕ) (s : State) : State where
  token := renameToken e s.token
  lock := s.lock.map (Holder.rename e)
  cancels i := (s.cancels i).rename e
  registrations k := s.registrations (e.symm k)
  log := s.log.map e
  winner := s.winner

theorem rename_registrations (k : ℕ) : (s.rename e).registrations (e k) = s.registrations k :=
  congrArg s.registrations (e.symm_apply_apply k)

theorem count_log_rename (k : ℕ) : (s.rename e).log.count (e k) = s.log.count k :=
  List.count_map_of_injective s.log e e.injective k

theorem rename_setCancel (i : ℕ) (c : Cancel) :
    (s.setCancel i c).rename e = (s.rename e).setCancel i (c.rename e) :=
  congrArg (fun cancels => { s.rename e with cancels })
    (Function.comp_update (Cancel.rename e) s.cancels i c)

theorem rename_setRegistration (k : ℕ) (r : Registration) :
    (s.setRegistration k r).rename e = (s.rename e).setRegistration (e k) r :=
  congrArg (fun registrations => { s.rename e with registrations })
    (Function.update_comp_equiv s.registrations e.symm k r)

theorem rename_stepCancel (i : ℕ) :
    (s.rename e).stepCancel i = (s.stepCancel i).map (rename e) := by
  have stage : (s.rename e).cancels i = (s.cancels i).rename e := rfl
  have lock : (s.rename e).lock = s.lock.map (Holder.rename e) := rfl
  have token : (s.rename e).token = renameToken e s.token := rfl
  unfold stepCancel
  rw [stage]
  rcases s.cancels i with _ | _ | _ | _ | _ | (_ | ⟨k, rest⟩) | _ <;> simp only [Cancel.rename]
  case called =>
    rw [show (s.rename e).token.cancelled = s.token.cancelled from rfl]
    split_ifs <;> simp only [Option.map_some, rename_setCancel] <;> rfl
  case raised =>
    rw [lock]
    cases s.lock <;> simp only [Option.map_some, Option.map_none, rename_setCancel]
    rfl
  case locked =>
    simp only [Option.map_some, rename_setCancel, token, take_renameToken]
    rfl
  case firing.cons =>
    simp only [Option.map_some, rename_setCancel]
    rfl
  all_goals simp only [Option.map_some, Option.map_none, rename_setCancel, Cancel.rename, List.map_nil]

theorem rename_stepRegister (k : ℕ) :
    (s.rename e).stepRegister (e k) = (s.stepRegister k).map (rename e) := by
  have lock : (s.rename e).lock = s.lock.map (Holder.rename e) := rfl
  have token : (s.rename e).token = renameToken e s.token := rfl
  unfold stepRegister
  rw [rename_registrations]
  cases s.registrations k with
  | called =>
    simp only
    rw [lock]
    cases s.lock <;> simp only [Option.map_some, Option.map_none, rename_setRegistration]
    rfl
  | locked =>
    simp only
    rw [show (s.rename e).token.cancelled = s.token.cancelled from rfl]
    split_ifs <;> simp only [Option.map_some, rename_setRegistration]
    rfl
  | clear =>
    simp only [Option.map_some, rename_setRegistration, token, enlist_renameToken]
    rfl
  | late =>
    simp only [Option.map_some, rename_setRegistration]
    rfl
  | _ => simp only [Option.map_some, Option.map_none, rename_setRegistration]

theorem rename_stepDrop (k : ℕ) :
    (s.rename e).stepDrop (e k) = (s.stepDrop k).map (rename e) := by
  have lock : (s.rename e).lock = s.lock.map (Holder.rename e) := rfl
  have token : (s.rename e).token = renameToken e s.token := rfl
  unfold stepDrop
  rw [rename_registrations]
  rcases s.registrations k with _ | _ | _ | _ | _ | _ | (_ | id) | id | _
  case dropping.some =>
    simp only
    rw [lock]
    cases s.lock <;> simp only [Option.map_some, Option.map_none, rename_setRegistration]
    rfl
  case removing =>
    simp only [Option.map_some, rename_setRegistration, token, unregister_renameToken]
    rfl
  all_goals simp only [Option.map_some, Option.map_none, rename_setRegistration]

/-- Renamed calls make the renamed steps. -/
theorem rename_step (m : Move) : (s.rename e).step (m.rename e) = (s.step m).map (rename e) := by
  cases m with
  | cancel i => exact rename_stepCancel i
  | register k => exact rename_stepRegister k
  | drop k => exact rename_stepDrop k

theorem rename_rename : (s.rename e).rename f = s.rename (e.trans f) := by
  have cancels (c : Cancel) : (c.rename e).rename f = c.rename (e.trans f) := by
    cases c <;> simp [Cancel.rename]
  have holders (h : Holder) : (h.rename e).rename f = h.rename (e.trans f) := by cases h <;> rfl
  simp [rename, renameToken, cancels, holders, Function.comp_def]

theorem rename_refl : s.rename (Equiv.refl ℕ) = s := by
  have cancels (c : Cancel) : c.rename (Equiv.refl ℕ) = c := by cases c <;> simp [Cancel.rename]
  have holders : Holder.rename (Equiv.refl ℕ) = id := by funext h; cases h <;> rfl
  simp [rename, renameToken, cancels, holders]

end State

end PseudoTerminal.Cancellation.Calls
