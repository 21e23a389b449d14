import PseudoTerminal.Proofs.Text.Utf16

/-! Lone surrogates. A surrogate is lone when its partner does not stand next to it, whatever else stands
around. The decoder reads one replacement for each, and the text it reads is written with a replacement in the
place of just these. None of them is a zero, and a zero is nobody's partner. -/

namespace PseudoTerminal.Utf16

/-- Whether the unit at a place is a surrogate without its partner next to it. -/
def isLone (units : List UInt16) (i : ℕ) : Bool :=
  units[i]?.any isHigh && !units[i + 1]?.any isLow ||
  units[i]?.any isLow && !(0 < i && units[i - 1]?.any isHigh)

variable {u v : UInt16} {rest units : List UInt16}

theorem isLone_zero_iff : isLone (u :: rest) 0 ↔ isHigh u ∧ rest[0]?.any isLow = false ∨ isLow u := by
  simp [isLone]

/-- A unit that opens no pair makes no difference for those behind it. -/
theorem isLone_cons_succ (apart : isHigh u = false ∨ rest[0]?.any isLow = false) (i : ℕ) :
    isLone (u :: rest) (i + 1) = isLone rest i := by
  rcases i with _ | i
  · obtain plain | plain := apart <;> simp [isLone, plain]
  · simp [isLone]

theorem not_isLow_of_isHigh (high : isHigh u) : isLow u = false := by
  rw [Bool.eq_false_iff, Ne, isLow_iff]
  rw [isHigh_iff] at high
  omega

theorem not_isHigh_of_isLow (low : isLow u) : isHigh u = false := by
  rw [Bool.eq_false_iff, Ne, isHigh_iff]
  rw [isLow_iff] at low
  omega

/-- A lone surrogate is read as a replacement. -/
theorem decode_lone (lone : isLone (u :: rest) 0) : decode (u :: rest) = Utf8.replacement :: decode rest := by
  rcases rest with _ | ⟨v, rest⟩
  · have either : isHigh u || isLow u := by simpa [isLone] using lone
    show decode [u] = [Utf8.replacement]
    rw [decode, if_pos either]
  · obtain ⟨high, apart⟩ | low := isLone_zero_iff.mp lone
    · rw [decode, if_pos high, if_neg (by simpa using apart)]
    · rw [decode, if_neg (by simpa using not_isHigh_of_isLow low), if_pos low]

/-- Units are read from the front: a surrogate pair, a lone surrogate, or another unit. -/
theorem induction_decode {motive : List UInt16 → Prop} (nil : motive [])
    (unit : ∀ u rest, isHigh u = false → isLow u = false → motive rest → motive (u :: rest))
    (pair : ∀ u v rest, isHigh u → isLow v → motive rest → motive (u :: v :: rest))
    (lone : ∀ u rest, isLone (u :: rest) 0 → motive rest → motive (u :: rest)) (units : List UInt16) :
    motive units := by
  fun_induction decode units with
  | case1 => exact nil
  | case2 u alone => exact lone u [] (by simpa [isLone] using alone) nil
  | case3 u whole =>
    rw [Bool.or_eq_true, not_or, Bool.not_eq_true, Bool.not_eq_true] at whole
    exact unit u [] whole.1 whole.2 nil
  | case4 u v rest high low ih => exact pair u v rest high low ih
  | case5 u v rest high apart ih => exact lone u _ (by simp [isLone, high, apart]) ih
  | case6 u v rest _ low ih => exact lone u _ (by simp [isLone, low]) ih
  | case7 u v rest high low ih => exact unit u _ (by simpa using high) (by simpa using low) ih

/-- Units with a replacement in the place of every lone surrogate. -/
def mended (units : List UInt16) : List UInt16 :=
  units.mapIdx fun i u => if isLone units i then 0xFFFD else u

theorem mended_cons (u : UInt16) (apart : isHigh u = false ∨ rest[0]?.any isLow = false) :
    mended (u :: rest) = (if isLone (u :: rest) 0 then 0xFFFD else u) :: mended rest := by
  rw [mended, List.mapIdx_cons, mended]
  simp only [isLone_cons_succ apart]

theorem mended_pair (high : isHigh u) (low : isLow v) : mended (u :: v :: rest) = u :: v :: mended rest := by
  have first : isLone (u :: v :: rest) 0 = false := by simp [isLone, low, not_isLow_of_isHigh high]
  have second : isLone (u :: v :: rest) 1 = false := by simp [isLone, high, not_isHigh_of_isLow low]
  have behind (i : ℕ) : isLone (u :: v :: rest) (i + 2) = isLone rest i := by
    rw [← isLone_cons_succ (.inl (not_isHigh_of_isLow low)) i]
    simp [isLone]
  rw [mended, List.mapIdx_cons, List.mapIdx_cons, mended]
  simp [first, second, behind]

/-- Units are written again as they were read, with a replacement in the place of every lone surrogate. -/
theorem encode_decode_eq_mended (units : List UInt16) : encode (decode units) = mended units := by
  induction units using induction_decode with
  | nil => rfl
  | unit u rest high low ih =>
    have paired : ¬ isLone (u :: rest) 0 := by simp [isLone, high, low]
    rw [decode_unit high low, encode_cons, encodeChar_unit high low, ih, mended_cons u (.inl high),
      if_neg paired]
    rfl
  | pair u v rest high low ih =>
    rw [decode_pair high low, encode_cons, encodeChar_pair high low, ih, mended_pair high low]
    rfl
  | lone u rest lone ih =>
    have apart : isHigh u = false ∨ rest[0]?.any isLow = false :=
      (isLone_zero_iff.mp lone).elim (fun h => .inr h.2) fun low => .inl (not_isHigh_of_isLow low)
    rw [decode_lone lone, encode_cons, ih, mended_cons u apart, if_pos lone]
    rfl

/-! ### Zeros -/

/-- What stands before a zero is read by itself, and so is what stands behind it. -/
theorem decode_append_zero (units more : List UInt16) :
    decode (units ++ 0 :: more) = decode units ++ '\x00' :: decode more := by
  induction units using induction_decode with
  | nil => exact decode_unit rfl rfl
  | unit u rest high low ih =>
    rw [List.cons_append, decode_unit high low, decode_unit high low, ih]
    rfl
  | pair u v rest high low ih =>
    rw [List.cons_append, List.cons_append, decode_pair high low, decode_pair high low, ih]
    rfl
  | lone u rest lone ih =>
    have still : isLone (u :: (rest ++ 0 :: more)) 0 := by
      rw [isLone_zero_iff] at lone ⊢
      refine lone.imp_left fun ⟨high, apart⟩ => ⟨high, ?_⟩
      rcases rest with _ | ⟨v, rest⟩
      · rfl
      · exact apart
    rw [List.cons_append, decode_lone still, decode_lone lone, ih]
    rfl

theorem count_zero_decode (units : List UInt16) : (decode units).count '\x00' = units.count 0 := by
  induction units using induction_decode with
  | nil => rfl
  | unit u rest high low ih =>
    rw [decode_unit high low, List.count_cons, List.count_cons, ih]
    simp only [beq_iff_eq, ofNat_eq_zero_iff high low]
  | pair u v rest high low ih =>
    rw [decode_pair high low, List.count_cons_of_ne (pairChar_ne_zero high low),
      List.count_cons_of_ne (ne_zero_of_isHigh high), List.count_cons_of_ne (ne_zero_of_isLow low), ih]
  | lone u rest lone ih =>
    have nonzero : u ≠ 0 :=
      (isLone_zero_iff.mp lone).elim (fun h => ne_zero_of_isHigh h.1) ne_zero_of_isLow
    rw [decode_lone lone, List.count_cons_of_ne replacement_ne_zero, List.count_cons_of_ne nonzero, ih]

theorem count_zero_encodeChar (c : Char) : (encodeChar c).count 0 = [c].count '\x00' := by
  obtain ⟨u, shape, high, low, rfl⟩ | ⟨u, v, shape, high, low, rfl⟩ := encodeChar_cases c
  · rw [shape, List.count_singleton, List.count_singleton]
    simp only [beq_iff_eq, ofNat_eq_zero_iff high low]
  · rw [shape, List.count_cons_of_ne (ne_zero_of_isHigh high), List.count_cons_of_ne (ne_zero_of_isLow low),
      List.count_cons_of_ne (pairChar_ne_zero high low)]
    rfl

/-- The units of a text have as many zeros as it has characters of point zero. -/
theorem count_zero_encode (cs : List Char) : (encode cs).count 0 = cs.count '\x00' := by
  induction cs with
  | nil => rfl
  | cons c cs ih => rw [encode_cons, List.count_append, ih, count_zero_encodeChar, ← List.count_append,
      List.singleton_append]

end PseudoTerminal.Utf16
