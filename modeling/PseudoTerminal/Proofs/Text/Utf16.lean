import Mathlib.Tactic
import PseudoTerminal.Proofs.Text.Utf8
import PseudoTerminal.Text.Utf16

/-! UTF-16 there and back. Units in which every surrogate has its partner are exactly those that some text
is written in, and such units are written again as they were read. A zero unit is the character of point
zero, in both directions. -/

namespace PseudoTerminal.Utf16

open Utf8 (toNat_range)

/-- Whether every surrogate among the units has its partner. -/
inductive WellFormed : List UInt16 → Prop
  | nil : WellFormed []
  | unit {u : UInt16} {rest : List UInt16} (high : isHigh u = false) (low : isLow u = false) :
      WellFormed rest → WellFormed (u :: rest)
  | pair {u v : UInt16} {rest : List UInt16} (high : isHigh u) (low : isLow v) :
      WellFormed rest → WellFormed (u :: v :: rest)

variable {u v : UInt16} {rest units : List UInt16}

/-! ### Units as numbers -/

theorem isHigh_iff : isHigh u ↔ 0xD800 ≤ u.toNat ∧ u.toNat < 0xDC00 := by
  rw [isHigh, Bool.and_eq_true, decide_eq_true_iff, decide_eq_true_iff, UInt16.le_iff_toNat_le,
    UInt16.lt_iff_toNat_lt]
  rfl

theorem isLow_iff : isLow u ↔ 0xDC00 ≤ u.toNat ∧ u.toNat < 0xE000 := by
  rw [isLow, Bool.and_eq_true, decide_eq_true_iff, decide_eq_true_iff, UInt16.le_iff_toNat_le,
    UInt16.lt_iff_toNat_lt]
  rfl

theorem toNat_ofNat {n : ℕ} (fits : n < 65536) : (UInt16.ofNat n).toNat = n :=
  UInt16.toNat_ofNat_of_lt fits

theorem toNat_ofNat_char {n : ℕ} (valid : n.isValidChar) : (Char.ofNat n).toNat = n := by
  rw [Char.ofNat, dif_pos valid]
  rfl

/-- A unit that is no surrogate is a character. -/
theorem toNat_ofNat_unit (high : isHigh u = false) (low : isLow u = false) :
    (Char.ofNat u.toNat).toNat = u.toNat := by
  have range : u.toNat < 65536 := u.toNat_lt
  have outside : ¬ (0xD800 ≤ u.toNat ∧ u.toNat < 0xDC00) ∧ ¬ (0xDC00 ≤ u.toNat ∧ u.toNat < 0xE000) := by
    rw [← isHigh_iff, ← isLow_iff, high, low]
    exact ⟨Bool.false_ne_true, Bool.false_ne_true⟩
  apply toNat_ofNat_char
  rw [Nat.isValidChar]
  omega

/-- A surrogate pair is a character above U+FFFF. -/
theorem toNat_pairChar (high : isHigh u) (low : isLow v) :
    (pairChar u v).toNat = 0x10000 + (u.toNat - 0xD800) * 1024 + (v.toNat - 0xDC00) := by
  rw [isHigh_iff] at high
  rw [isLow_iff] at low
  apply toNat_ofNat_char
  rw [Nat.isValidChar]
  omega

/-! ### One character -/

theorem encodeChar_unit (high : isHigh u = false) (low : isLow u = false) :
    encodeChar (Char.ofNat u.toNat) = [u] := by
  rw [encodeChar, toNat_ofNat_unit high low, if_pos u.toNat_lt, UInt16.ofNat_toNat]

theorem encodeChar_pair (high : isHigh u) (low : isLow v) : encodeChar (pairChar u v) = [u, v] := by
  rw [encodeChar, toNat_pairChar high low]
  rw [isHigh_iff] at high
  rw [isLow_iff] at low
  have first : 0xD800 + (0x10000 + (u.toNat - 0xD800) * 1024 + (v.toNat - 0xDC00) - 0x10000) / 1024 =
      u.toNat := by omega
  have second : 0xDC00 + (0x10000 + (u.toNat - 0xD800) * 1024 + (v.toNat - 0xDC00) - 0x10000) % 1024 =
      v.toNat := by omega
  rw [if_neg (by omega), first, second, UInt16.ofNat_toNat, UInt16.ofNat_toNat]

/-- A character is written as one unit that is no surrogate, or as a surrogate pair. -/
theorem encodeChar_cases (c : Char) :
    (∃ u, encodeChar c = [u] ∧ isHigh u = false ∧ isLow u = false ∧ Char.ofNat u.toNat = c) ∨
    ∃ u v, encodeChar c = [u, v] ∧ isHigh u ∧ isLow v ∧ pairChar u v = c := by
  have range := toNat_range c
  by_cases small : c.toNat < 0x10000
  · refine .inl ⟨UInt16.ofNat c.toNat, by rw [encodeChar, if_pos small], ?_, ?_, ?_⟩
    · rw [Bool.eq_false_iff, Ne, isHigh_iff, toNat_ofNat small]
      omega
    · rw [Bool.eq_false_iff, Ne, isLow_iff, toNat_ofNat small]
      omega
    · rw [toNat_ofNat small, Char.ofNat_toNat]
  · have first := toNat_ofNat (show 0xD800 + (c.toNat - 0x10000) / 1024 < 65536 by omega)
    have second := toNat_ofNat (show 0xDC00 + (c.toNat - 0x10000) % 1024 < 65536 by omega)
    refine .inr ⟨_, _, by rw [encodeChar, if_neg small], ?_, ?_, ?_⟩
    · rw [isHigh_iff, first]
      omega
    · rw [isLow_iff, second]
      omega
    · have value : 0x10000 + (0xD800 + (c.toNat - 0x10000) / 1024 - 0xD800) * 1024
          + (0xDC00 + (c.toNat - 0x10000) % 1024 - 0xDC00) = c.toNat := by omega
      rw [pairChar, first, second, value, Char.ofNat_toNat]

theorem decode_unit (high : isHigh u = false) (low : isLow u = false) :
    decode (u :: rest) = Char.ofNat u.toNat :: decode rest := by
  cases rest <;> simp [decode, high, low]

theorem decode_pair (high : isHigh u) (low : isLow v) :
    decode (u :: v :: rest) = pairChar u v :: decode rest := by
  rw [decode, if_pos high, if_pos low]

/-- The units of a character are read as it. -/
theorem decode_encodeChar (c : Char) (rest : List UInt16) :
    decode (encodeChar c ++ rest) = c :: decode rest := by
  obtain ⟨u, shape, high, low, same⟩ | ⟨u, v, shape, high, low, same⟩ := encodeChar_cases c
  · rw [shape, List.singleton_append, decode_unit high low, same]
  · rw [shape, List.cons_append, List.singleton_append, decode_pair high low, same]

/-! ### Texts -/

@[simp] theorem encode_nil : encode [] = [] := rfl

@[simp] theorem encode_cons (c : Char) (cs : List Char) : encode (c :: cs) = encodeChar c ++ encode cs :=
  rfl

@[simp] theorem encode_append (cs ds : List Char) : encode (cs ++ ds) = encode cs ++ encode ds :=
  List.flatMap_append

/-- A text is read back from its units. -/
@[simp] theorem decode_encode (cs : List Char) : decode (encode cs) = cs := by
  induction cs with
  | nil => rfl
  | cons c cs ih => rw [encode_cons, decode_encodeChar, ih]

theorem wellFormed_encode (cs : List Char) : WellFormed (encode cs) := by
  induction cs with
  | nil => exact .nil
  | cons c cs ih =>
    rw [encode_cons]
    obtain ⟨u, shape, high, low, -⟩ | ⟨u, v, shape, high, low, -⟩ := encodeChar_cases c
    · exact shape ▸ .unit high low ih
    · exact shape ▸ .pair high low ih

theorem encode_decode (whole : WellFormed units) : encode (decode units) = units := by
  induction whole with
  | nil => rfl
  | unit high low _ ih => rw [decode_unit high low, encode_cons, encodeChar_unit high low, ih]; rfl
  | pair high low _ ih => rw [decode_pair high low, encode_cons, encodeChar_pair high low, ih]; rfl

/-- Units are written again as they were read just when every surrogate has its partner. -/
theorem wellFormed_iff : WellFormed units ↔ encode (decode units) = units :=
  ⟨encode_decode, fun same => same ▸ wellFormed_encode _⟩

/-! ### Zero -/

theorem ofNat_eq_zero_iff (high : isHigh u = false) (low : isLow u = false) :
    Char.ofNat u.toNat = '\x00' ↔ u = 0 := by
  refine ⟨fun same => ?_, fun same => same ▸ rfl⟩
  have value : u.toNat = 0 := by rw [← toNat_ofNat_unit high low, same]; rfl
  exact UInt16.toNat_inj.mp value

theorem pairChar_ne_zero (high : isHigh u) (low : isLow v) : pairChar u v ≠ '\x00' := by
  intro same
  have value := toNat_pairChar high low
  rw [same, show '\x00'.toNat = 0 from rfl] at value
  omega

theorem ne_zero_of_isHigh (high : isHigh u) : u ≠ 0 := by
  rintro rfl
  exact absurd high (by decide)

theorem ne_zero_of_isLow (low : isLow u) : u ≠ 0 := by
  rintro rfl
  exact absurd low (by decide)

theorem zero_mem_encodeChar {c : Char} : 0 ∈ encodeChar c ↔ c = '\x00' := by
  obtain ⟨u, shape, high, low, rfl⟩ | ⟨u, v, shape, high, low, rfl⟩ := encodeChar_cases c
  · rw [shape, List.mem_singleton, eq_comm, ofNat_eq_zero_iff high low]
  · rw [shape, List.mem_pair]
    refine iff_of_false (fun either => ?_) (pairChar_ne_zero high low)
    exact either.elim (ne_zero_of_isHigh high ·.symm) (ne_zero_of_isLow low ·.symm)

/-- A text has the character of point zero just when its units have a zero. -/
theorem zero_mem_encode {cs : List Char} : 0 ∈ encode cs ↔ '\x00' ∈ cs := by
  simp only [encode, List.mem_flatMap, zero_mem_encodeChar, exists_eq_right]

/-- A surrogate without its partner is no zero, and neither is what stands for it. -/
theorem replacement_ne_zero : Utf8.replacement ≠ '\x00' := by decide

theorem zero_mem_decode {units : List UInt16} : '\x00' ∈ decode units ↔ 0 ∈ units := by
  fun_induction decode units with
  | case1 => simp
  | case2 u alone =>
    have nonzero : u ≠ 0 := by
      rw [Bool.or_eq_true] at alone
      exact alone.elim ne_zero_of_isHigh ne_zero_of_isLow
    simp [replacement_ne_zero.symm, nonzero.symm]
  | case3 u whole =>
    rw [Bool.or_eq_true, not_or, Bool.not_eq_true, Bool.not_eq_true] at whole
    rw [List.mem_singleton, List.mem_singleton, eq_comm, ofNat_eq_zero_iff whole.1 whole.2, eq_comm]
  | case4 u v rest high low ih =>
    simp [ih, (pairChar_ne_zero high low).symm, (ne_zero_of_isHigh high).symm,
      (ne_zero_of_isLow low).symm]
  | case5 u v rest high _ ih =>
    simp [ih, replacement_ne_zero.symm, (ne_zero_of_isHigh high).symm]
  | case6 u v rest _ low ih =>
    simp [ih, replacement_ne_zero.symm, (ne_zero_of_isLow low).symm]
  | case7 u v rest high low ih =>
    rw [Bool.not_eq_true] at high low
    rw [List.mem_cons, List.mem_cons, ih, eq_comm, ofNat_eq_zero_iff high low, eq_comm]

end PseudoTerminal.Utf16
