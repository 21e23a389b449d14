import PseudoTerminal.Proofs.Session.Settling
import PseudoTerminal.Session.Script

/-! Writing everything through a write that may accept less than it is offered. A record of the calls changes
nothing in what they do. Each call is offered just what was not accepted yet, so that what was accepted is the
front of the data at any time. All of it is accepted, unless a call fails or accepts nothing; such a call is the
last one, and its error is the result. The terminals of a session accept at most what they are offered. -/

namespace PseudoTerminal.Terminal

/-- A call of a write: what it was offered, and what it answered. -/
structure Offer where
  data : Octets
  answer : Except TransferError ℕ
  deriving DecidableEq

namespace Offer

/-- How many octets the answer counts. -/
def count (o : Offer) : ℕ :=
  match o.answer with
  | .ok n => n
  | .error _ => 0

/-- The octets that were accepted. -/
def accepted (o : Offer) : Octets := o.data.take o.count

/-- The error with which the call ends the writing, if it does. -/
def failure? (o : Offer) : Option TransferError :=
  match o.answer with
  | .ok 0 => some (.write (.plain .writeZero))
  | .ok (_ + 1) => none
  | .error e => some e

/-- A call that ends the writing accepts nothing. -/
theorem accepted_of_failure {o : Offer} {e : TransferError} (fails : o.failure? = some e) :
    o.accepted = [] ∧ o.count = 0 := by
  obtain ⟨data, _ | _ | n⟩ := o
  · exact ⟨rfl, rfl⟩
  · exact ⟨rfl, rfl⟩
  · cases fails

end Offer

/-- What was accepted in some calls, one after the other. -/
def acceptedBy (calls : List Offer) : Octets := calls.flatMap Offer.accepted

@[simp] theorem acceptedBy_nil : acceptedBy [] = [] := rfl

@[simp] theorem acceptedBy_cons (o : Offer) (calls : List Offer) :
    acceptedBy (o :: calls) = o.accepted ++ acceptedBy calls := rfl

section Writes

variable {σ : Type} {write : Write σ} {data : Octets}

/-- A write that accepts at most what it is offered. -/
def Write.IsModest (write : Write σ) : Prop :=
  ∀ s data n, (write s data).1 = .ok n → n ≤ data.length

/-- The same write with a record of its calls. -/
def Write.recorded (write : Write σ) : Write (List Offer × σ) := fun (calls, s) data =>
  let (answer, s) := write s data
  (answer, calls ++ [⟨data, answer⟩], s)

/-! ### The calls -/

/-- How the writing of some data goes: its calls and its result. -/
inductive Course : Octets → List Offer → Except TransferError Unit → Prop
  | done : Course [] [] (.ok ())
  | stops {o : Offer} {e : TransferError} (nonempty : o.data ≠ []) (fails : o.failure? = some e) :
      Course o.data [o] (.error e)
  | goesOn {data : Octets} {n : ℕ} {calls : List Offer} {result : Except TransferError Unit}
      (fits : n + 1 ≤ data.length) (rest : Course (data.drop (n + 1)) calls result) :
      Course data (⟨data, .ok (n + 1)⟩ :: calls) result

/-- The writing has such a course, whatever was recorded before. -/
theorem exists_course (modest : write.IsModest) (s : σ) (data : Octets) :
    ∃ calls, Course data calls (writeAll write s data).1 ∧ ∀ earlier,
      writeAll write.recorded (earlier, s) data =
        ((writeAll write s data).1, earlier ++ calls, (writeAll write s data).2) := by
  fun_induction writeAll write s data with
  | case1 => exact ⟨[], .done, fun earlier => by rw [writeAll, if_pos rfl, List.append_nil]⟩
  | case2 s data some e t wrote =>
    refine ⟨[⟨data, .error e⟩], .stops (o := ⟨data, .error e⟩) some rfl, fun earlier => ?_⟩
    rw [writeAll, if_neg some]
    simp only [Write.recorded, wrote]
  | case3 s data some t wrote =>
    refine ⟨[⟨data, .ok 0⟩], .stops (o := ⟨data, .ok 0⟩) some rfl, fun earlier => ?_⟩
    rw [writeAll, if_neg some]
    simp only [Write.recorded, wrote]
  | case4 s data some n t wrote ih =>
    obtain ⟨calls, rest, recorded⟩ := ih
    have fits : n + 1 ≤ data.length := modest s data (n + 1) (by rw [wrote])
    refine ⟨⟨data, .ok (n + 1)⟩ :: calls, .goesOn fits rest, fun earlier => ?_⟩
    rw [writeAll, if_neg some]
    simp only [Write.recorded, wrote]
    rw [recorded, List.append_assoc, List.singleton_append]

namespace Course

variable {calls before after : List Offer} {result : Except TransferError Unit} {o : Offer} {e : TransferError}

/-- From any call on, a course is one of what the calls before it left. -/
theorem exists_rest (course : Course data (before ++ o :: after) result) :
    ∃ rest, acceptedBy before ++ rest = data ∧ Course rest (o :: after) result := by
  induction before generalizing data with
  | nil => exact ⟨data, rfl, course⟩
  | cons b before ih =>
    generalize shape : b :: before ++ o :: after = calls at course
    cases course with
    | done => cases shape
    | stops => simp at shape
    | goesOn fits course =>
      obtain ⟨rfl, rfl⟩ := List.cons_eq_cons.mp shape
      obtain ⟨rest, whole, course⟩ := ih course
      refine ⟨rest, ?_, course⟩
      rw [acceptedBy_cons, List.append_assoc, whole]
      exact List.take_append_drop _ data

/-- A call is offered what the calls before it left. -/
theorem offered (course : Course data (before ++ o :: after) result) :
    acceptedBy before ++ o.data = data ∧ o.data ≠ [] := by
  obtain ⟨rest, whole, course⟩ := course.exists_rest
  cases course with
  | stops nonempty => exact ⟨whole, nonempty⟩
  | goesOn fits => exact ⟨whole, List.length_pos_iff.mp (Nat.zero_lt_of_lt fits)⟩

/-- A call that fails or accepts nothing is the last one, and decides the result. -/
theorem ends (course : Course data (before ++ o :: after) result) (fails : o.failure? = some e) :
    after = [] ∧ result = .error e := by
  obtain ⟨rest, -, course⟩ := course.exists_rest
  cases course with
  | stops _ fails' => exact ⟨rfl, congrArg Except.error (Option.some.inj (fails'.symm.trans fails))⟩
  | goesOn => cases fails

/-- An error is that of the last call. -/
theorem exists_failure (course : Course data calls (.error e)) :
    ∃ before o, calls = before ++ [o] ∧ o.failure? = some e := by
  generalize failed : Except.error e = result at course
  induction course with
  | done => cases failed
  | @stops o _ _ fails =>
    cases failed
    exact ⟨[], o, rfl, fails⟩
  | goesOn _ _ ih =>
    obtain ⟨before, o, rfl, fails⟩ := ih failed
    exact ⟨_ :: before, o, rfl, fails⟩

/-- Every call that is not the last one accepts an octet. -/
theorem length_le (course : Course data calls result) : calls.length ≤ data.length := by
  induction course with
  | done => exact le_rfl
  | stops nonempty => exact List.length_pos_iff.mpr nonempty
  | goesOn fits _ ih =>
    rw [List.length_drop] at ih
    rw [List.length_cons]
    omega

/-- What was accepted is the front of the data, and nothing is left of them just when no call failed. -/
theorem exists_left (course : Course data calls result) :
    ∃ left, acceptedBy calls ++ left = data ∧ (result = .ok () ↔ left = []) := by
  induction course with
  | done => exact ⟨[], rfl, iff_of_true rfl rfl⟩
  | @stops o e nonempty fails =>
    refine ⟨o.data, ?_, iff_of_false (by simp) nonempty⟩
    rw [acceptedBy_cons, (Offer.accepted_of_failure fails).1]
    rfl
  | @goesOn data n _ _ _ _ ih =>
    obtain ⟨left, whole, all⟩ := ih
    refine ⟨left, ?_, all⟩
    rw [acceptedBy_cons, List.append_assoc, whole]
    exact List.take_append_drop (n + 1) data

/-- As many octets are accepted as the answers count. -/
theorem length_acceptedBy (course : Course data calls result) :
    (acceptedBy calls).length = (calls.map Offer.count).sum := by
  induction course with
  | done => rfl
  | stops _ fails => simp [Offer.accepted_of_failure fails]
  | goesOn fits _ ih => simp [Offer.accepted, Offer.count, ih, min_eq_left fits]

end Course

end Writes

end PseudoTerminal.Terminal

/-! ### The terminals of a session -/

namespace PseudoTerminal.Host.Master

variable {π : Type} {m : Master} {k : Kernel π} {data : Octets} {n : ℕ}

theorem store_le (stored : (m.store k data).1 = .done n) : n ≤ data.length := by
  unfold store at stored
  split at stored
  case h_1 => cases stored
  case h_2 d _ =>
    have typed : (d.hostWrite data).1 ≤ data.length := List.length_take_le' ..
    split at stored
    case h_1 => cases stored
    case h_2 accepted _ _ _ wrote =>
      rw [wrote] at typed
      cases stored
      exact typed

/-- A round of a write accepts at most what it is offered. -/
theorem writeOnce_le (wrote : (m.writeOnce k data (Terminal.startWrite m.closed data)).1 = .finished (.ok n)) :
    n ≤ data.length := by
  cases shut : m.closed with
  | true =>
    rw [shut] at wrote
    cases wrote
  | false =>
    rw [shut, Terminal.startWrite, if_neg Bool.false_ne_true] at wrote
    split_ifs at wrote with empty
    · cases wrote
      exact Nat.zero_le _
    obtain ⟨ready, look⟩ : ∃ ready, m.lookToWrite k = .noticed false ready :=
      ⟨_, by rw [lookToWrite, shut]⟩
    simp only [writeOnce, Terminal.Stage.beforeLook, shut, look] at wrote
    cases ready with
    | false => cases wrote
    | true =>
      change Terminal.afterStore (m.store k data).1 = .finished (.ok n) at wrote
      cases stored : (m.store k data).1 with
      | done accepted =>
        rw [stored] at wrote
        cases wrote
        exact store_le stored
      | again | failed =>
        rw [stored] at wrote
        cases wrote

end PseudoTerminal.Host.Master

namespace PseudoTerminal.Session

theorem World.exists_attempt {α : Type} {attempt : World → Option α × World} {own : World → List ℕ} {fuel : ℕ}
    {w : World} {a : α} (found : (World.run attempt own fuel w).1 = some a) :
    ∃ v, (attempt v).1 = some a := by
  obtain ⟨u, -, ⟨b, v, tried, ran⟩ | ⟨v, -, ran⟩⟩ :=
    run_cases (P := fun _ => True) attempt own fuel (fun _ _ => trivial) (fun _ _ => trivial)
      (fun _ _ _ => trivial) trivial
  · rw [ran] at found
    exact ⟨u.settle, (congrArg Prod.fst tried).trans found⟩
  · rw [ran] at found
    cases found

namespace Script.State

/-- One attempt to write to a terminal of a session. -/
def writeOnce (i : ℕ) (data : Octets) (w : World) : Option (Except TransferError ℕ) × World :=
  match w.masters[i]? with
  | some m =>
    let (stage, kernel) := m.writeOnce w.kernel data (Terminal.startWrite m.closed data)
    (result? stage, { w with kernel })
  | none => (none, w)

/-- The write of a terminal of a session. -/
def device (i : ℕ) : Terminal.Write (ℕ × World) := fun (fuel, w) data =>
  match World.run (writeOnce i data) (fun _ => []) fuel w with
  | (some result, w) => (result, fuel, w)
  | (none, w) => (.error .closed, fuel, w)

/-- A result comes from a round of a write. -/
theorem exists_master {i : ℕ} {data : Octets} {w : World} {result : Except TransferError ℕ}
    (tried : (writeOnce i data w).1 = some result) :
    ∃ m : Host.Master, (m.writeOnce w.kernel data (Terminal.startWrite m.closed data)).1 = .finished result := by
  unfold writeOnce at tried
  split at tried
  case h_1 m _ =>
    refine ⟨m, ?_⟩
    dsimp only at tried
    unfold result? at tried
    split at tried
    case h_1 stage _ finished =>
      cases tried
      exact finished
    case h_2 => cases tried
  case h_2 => cases tried

theorem isModest_device (i : ℕ) : (device i).IsModest := by
  intro ⟨fuel, w⟩ data n wrote
  unfold device at wrote
  dsimp only at wrote
  split at wrote
  case h_1 result v ran =>
    cases (wrote : result = .ok n)
    obtain ⟨u, tried⟩ := World.exists_attempt (congrArg Prod.fst ran)
    obtain ⟨m, finished⟩ := exists_master tried
    exact Host.Master.writeOnce_le finished
  case h_2 => cases wrote

/-- A script writes everything through the write of its terminal. -/
theorem writeAll_eq (s : State) (i : ℕ) (data : Octets) :
    s.writeAll i data =
      (failure (fun () => .done) (Terminal.writeAll (device i) (World.patience, s.world) data).1,
        { s with world := (Terminal.writeAll (device i) (World.patience, s.world) data).2.2 }) := rfl

end Script.State

end PseudoTerminal.Session

namespace PseudoTerminal.Terminal

open Session.Script

/-- Writing everything makes at most one call for each octet, and each call offers exactly what was not accepted
yet. So what was accepted is the front of the data at any time. It is all of the data just when the writing
succeeds; else the first call that failed, or that accepted nothing, was the last one, and its error is the
result. The terminals of a session are written to like this. -/
theorem offers_what_is_left {σ : Type} (write : Write σ) (modest : write.IsModest) (s : σ) (data : Octets) :
    (∃ calls, writeAll write.recorded ([], s) data =
        ((writeAll write s data).1, calls, (writeAll write s data).2) ∧
      calls.length ≤ data.length ∧
      (∀ before o after, calls = before ++ o :: after → acceptedBy before ++ o.data = data ∧ o.data ≠ [] ∧
        ∀ e, o.failure? = some e → after = [] ∧ (writeAll write s data).1 = .error e) ∧
      acceptedBy calls <+: data ∧ (acceptedBy calls).length = (calls.map Offer.count).sum ∧
      ((writeAll write s data).1 = .ok () ↔ acceptedBy calls = data) ∧
      ∀ e, (writeAll write s data).1 = .error e →
        ∃ before o, calls = before ++ [o] ∧ o.failure? = some e) ∧
    ∀ i, (State.device i).IsModest ∧ ∀ (s : State) (data : Octets), ∃ t,
      s.writeAll i data = (State.failure (fun () => .done)
        (writeAll (State.device i) (Session.World.patience, s.world) data).1, t) := by
  refine ⟨?_, fun i => ⟨State.isModest_device i, fun s data => ⟨_, s.writeAll_eq i data⟩⟩⟩
  obtain ⟨calls, course, recorded⟩ := exists_course modest s data
  obtain ⟨left, whole, all⟩ := course.exists_left
  refine ⟨calls, recorded [], course.length_le, ?_, ⟨left, whole⟩, course.length_acceptedBy, all.trans ?_,
    ?_⟩
  · rintro before o after rfl
    obtain ⟨offered, nonempty⟩ := course.offered
    exact ⟨offered, nonempty, fun e => course.ends⟩
  · rw [← whole, List.self_eq_append_right]
  · intro e failed
    rw [failed] at course
    exact course.exists_failure

theorem isModest_prepared : Prepared.write.IsModest := by
  intro d data n wrote
  unfold Prepared.write at wrote
  dsimp only at wrote
  split at wrote
  · cases wrote
  · cases wrote
    exact min_le_right _ _
  · cases wrote
    exact le_rfl

/-- A device takes two octets of five, then one, and then nothing. -/
theorem offers_what_is_left_refused :
    let d : Prepared := { plan := [.accept 2, .accept 1, .accept 0, .accept 2] }
    let calls : List Offer := [⟨[1, 2, 3, 4, 5], .ok 2⟩, ⟨[3, 4, 5], .ok 1⟩, ⟨[4, 5], .ok 0⟩]
    Prepared.write.IsModest ∧
      (writeAll Prepared.write.recorded ([], d) [1, 2, 3, 4, 5]).2.1 = calls ∧ calls.length ≤ 5 ∧
      acceptedBy calls <+: [1, 2, 3, 4, 5] ∧
      (writeAll Prepared.write d [1, 2, 3, 4, 5]).1 = .error (.write (.plain .writeZero)) := by
  intro d calls
  obtain ⟨⟨made, recorded, few, every, front, -⟩, -⟩ :=
    offers_what_is_left Prepared.write isModest_prepared d [1, 2, 3, 4, 5]
  have same : made = calls := by
    have ran : (writeAll Prepared.write.recorded ([], d) [1, 2, 3, 4, 5]).2.1 = calls := by decide +kernel
    rwa [recorded] at ran
  subst same
  refine ⟨isModest_prepared, by rw [recorded], few, front, ?_⟩
  exact ((every (calls.take 2) ⟨[4, 5], .ok 0⟩ [] rfl).2.2 _ rfl).2

end PseudoTerminal.Terminal
