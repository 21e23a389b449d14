import Mathlib.Tactic
import PseudoTerminal.Text.Utf8

/-! UTF-8 there and back. A character's octets are those of the standard encoding, and the scanner reads
them as that character, whatever follows. So a text is read back from its octets, and the octets that are
written again as they were read are exactly the valid ones. -/

namespace PseudoTerminal.Utf8

/-! ### One octet -/

theorem scan_cons (s : Scan) (b : UInt8) (rest : Octets) :
    scan s (b :: rest) = (step s b).1 ++ scan (step s b).2 rest := by
  cases s <;> rfl

theorem begin_progress (b : UInt8) : (begin b).1 ≠ [] ∨ (begin b).2 ≠ .start := by
  simp only [begin]
  split_ifs <;> simp

/-- An octet completes a character or leaves the scan inside a sequence. -/
theorem step_progress (s : Scan) (b : UInt8) : (step s b).1 ≠ [] ∨ (step s b).2 ≠ .start := by
  cases s with
  | start => exact begin_progress b
  | inside bits missing low high =>
    simp only [step]
    split_ifs <;> simp

theorem scan_eq_nil_iff {s : Scan} {rest : Octets} : scan s rest = [] ↔ s = .start ∧ rest = [] := by
  induction rest generalizing s with
  | nil => cases s <;> simp [scan]
  | cons b rest ih =>
    rw [scan_cons, List.append_eq_nil_iff, ih]
    refine iff_of_false (fun ⟨silent, start, _⟩ => ?_) (fun ⟨_, empty⟩ => List.cons_ne_nil b rest empty)
    exact (step_progress s b).elim (absurd silent) (absurd start)

theorem decode_eq_nil_iff {s : Octets} : decode s = [] ↔ s = [] :=
  scan_eq_nil_iff.trans (and_iff_right rfl)

/-! ### One character -/

theorem toNat_ofNat {n : ℕ} (fits : n < 256) : (UInt8.ofNat n).toNat = n := UInt8.toNat_ofNat_of_lt fits

theorem scan_ascii {n : ℕ} (small : n < 0x80) (rest : Octets) :
    scan .start (UInt8.ofNat n :: rest) = Char.ofNat n :: scan .start rest := by
  have whole : begin (UInt8.ofNat n) = ([Char.ofNat n], .start) := by
    simp only [begin, toNat_ofNat (show n < 256 by omega), if_pos small]
  rw [scan_cons, step, whole]
  rfl

/-- The first octet of two. -/
theorem scan_lead_two {m : ℕ} (above : 0xC2 ≤ m) (below : m < 0xE0) (rest : Octets) :
    scan .start (UInt8.ofNat m :: rest) = scan (.inside (m - 0xC0) 1 0x80 0xBF) rest := by
  have lead : begin (UInt8.ofNat m) = ([], .inside (m - 0xC0) 1 0x80 0xBF) := by
    simp only [begin, toNat_ofNat (show m < 256 by omega)]
    rw [if_neg (by omega), if_neg (by omega), if_pos below]
  rw [scan_cons, step, lead]
  rfl

/-- The first octet of three; after two of them the range of the next octet is narrower. -/
theorem scan_lead_three {m : ℕ} (above : 0xE0 ≤ m) (below : m < 0xF0) (rest : Octets) :
    scan .start (UInt8.ofNat m :: rest) =
      scan (.inside (m - 0xE0) 2 (UInt8.ofNat (if m = 0xE0 then 0xA0 else 0x80))
        (UInt8.ofNat (if m = 0xED then 0x9F else 0xBF))) rest := by
  rw [scan_cons, step]
  simp only [begin, toNat_ofNat (show m < 256 by omega)]
  rw [if_neg (by omega), if_neg (by omega), if_neg (by omega)]
  by_cases long : m = 0xE0
  · subst long
    rfl
  by_cases surrogate : m = 0xED
  · subst surrogate
    rfl
  rw [if_neg long, if_neg surrogate, if_neg long, if_neg surrogate, if_pos below]
  rfl

/-- The first octet of four; after two of them the range of the next octet is narrower. -/
theorem scan_lead_four {m : ℕ} (above : 0xF0 ≤ m) (below : m < 0xF5) (rest : Octets) :
    scan .start (UInt8.ofNat m :: rest) =
      scan (.inside (m - 0xF0) 3 (UInt8.ofNat (if m = 0xF0 then 0x90 else 0x80))
        (UInt8.ofNat (if m = 0xF4 then 0x8F else 0xBF))) rest := by
  rw [scan_cons, step]
  simp only [begin, toNat_ofNat (show m < 256 by omega)]
  rw [if_neg (by omega), if_neg (by omega), if_neg (by omega), if_neg (by omega), if_neg (by omega),
    if_neg (by omega)]
  by_cases long : m = 0xF0
  · subst long
    rfl
  by_cases last : m = 0xF4
  · subst last
    rfl
  rw [if_neg long, if_neg last, if_neg long, if_neg last, if_pos (by omega)]
  rfl

theorem ofNat_le_ofNat {m n : ℕ} (fits : n < 256) (le : m ≤ n) : UInt8.ofNat m ≤ UInt8.ofNat n := by
  rw [UInt8.le_iff_toNat_le, toNat_ofNat fits, toNat_ofNat (le.trans_lt fits)]
  exact le

/-- An octet that continues a sequence adds its six bits. -/
theorem scan_continue {bits missing n : ℕ} (low high : ℕ) (six : n < 64) (top : high < 256)
    (above : low ≤ 0x80 + n) (below : 0x80 + n ≤ high) (rest : Octets) :
    scan (.inside bits (missing + 2) (UInt8.ofNat low) (UInt8.ofNat high))
        (UInt8.ofNat (0x80 + n) :: rest) =
      scan (.inside (bits * 64 + n) (missing + 1) 0x80 0xBF) rest := by
  have fits : 0x80 + n < 256 := below.trans_lt top
  have low_bits : (0x80 + n) % 64 = n := by omega
  simp only [scan_cons, step, if_pos (And.intro (ofNat_le_ofNat fits above) (ofNat_le_ofNat top below)),
    toNat_ofNat fits, low_bits, if_neg (show ¬ missing + 2 ≤ 1 by omega)]
  rfl

/-- An octet that continues a sequence anywhere behind its second octet. -/
theorem scan_inner {bits missing n : ℕ} (six : n < 64) (rest : Octets) :
    scan (.inside bits (missing + 2) 0x80 0xBF) (UInt8.ofNat (0x80 + n) :: rest) =
      scan (.inside (bits * 64 + n) (missing + 1) 0x80 0xBF) rest :=
  scan_continue 0x80 0xBF six (by decide) (by omega) (by omega) rest

/-- The last octet of a sequence completes the character. -/
theorem scan_last {bits n : ℕ} (six : n < 64) (rest : Octets) :
    scan (.inside bits 1 0x80 0xBF) (UInt8.ofNat (0x80 + n) :: rest) =
      Char.ofNat (bits * 64 + n) :: scan .start rest := by
  have fits : 0x80 + n < 256 := by omega
  have above : UInt8.ofNat 0x80 ≤ UInt8.ofNat (0x80 + n) := ofNat_le_ofNat fits (by omega)
  have below : UInt8.ofNat (0x80 + n) ≤ UInt8.ofNat 0xBF := ofNat_le_ofNat (by decide) (by omega)
  have within : 0x80 ≤ UInt8.ofNat (0x80 + n) ∧ UInt8.ofNat (0x80 + n) ≤ 0xBF := ⟨above, below⟩
  have low_bits : (0x80 + n) % 64 = n := by omega
  simp only [scan_cons, step, if_pos within, toNat_ofNat fits, low_bits, if_pos le_rfl]
  rfl

theorem toNat_range (c : Char) : c.toNat < 0xD800 ∨ 0xDFFF < c.toNat ∧ c.toNat < 0x110000 := c.valid

/-- The octets of a character are read as it. -/
theorem scan_encodeChar (c : Char) (rest : Octets) :
    scan .start (encodeChar c ++ rest) = c :: scan .start rest := by
  have range := toNat_range c
  have same {n : ℕ} (value : n = c.toNat) : Char.ofNat n = c := value ▸ c.ofNat_toNat
  rw [encodeChar]
  generalize c.toNat = n at range same
  have six (m : ℕ) : m % 64 < 64 := Nat.mod_lt m (by decide)
  split_ifs with one two three
  · rw [List.singleton_append, scan_ascii one, same rfl]
  · rw [List.cons_append, List.singleton_append, scan_lead_two (by omega) (by omega),
      scan_last (six _), same (by omega)]
  · rw [List.cons_append, List.cons_append, List.singleton_append,
      scan_lead_three (by omega) (by omega),
      scan_continue _ _ (six _) (by split_ifs <;> decide) (by split_ifs <;> omega)
        (by split_ifs <;> omega),
      scan_last (six _), same (by omega)]
  · rw [List.cons_append, List.cons_append, List.cons_append, List.singleton_append,
      scan_lead_four (by omega) (by omega),
      scan_continue _ _ (six _) (by split_ifs <;> decide) (by split_ifs <;> omega)
        (by split_ifs <;> omega),
      scan_inner (six _), scan_last (six _), same (by omega)]

/-! ### Texts -/

@[simp] theorem encode_nil : encode [] = [] := rfl

@[simp] theorem encode_cons (c : Char) (cs : List Char) : encode (c :: cs) = encodeChar c ++ encode cs :=
  rfl

@[simp] theorem encode_append (cs ds : List Char) : encode (cs ++ ds) = encode cs ++ encode ds :=
  List.flatMap_append

/-- A text is read back from its octets. -/
@[simp] theorem decode_encode (cs : List Char) : decode (encode cs) = cs := by
  induction cs with
  | nil => rfl
  | cons c cs ih => exact (scan_encodeChar c (encode cs)).trans (congrArg (c :: ·) ih)

theorem isValid_iff_exists {s : Octets} : isValid s ↔ ∃ cs, s = encode cs := by
  rw [isValid, beq_iff_eq]
  refine ⟨fun same => ⟨decode s, same.symm⟩, ?_⟩
  rintro ⟨cs, rfl⟩
  rw [decode_encode]

theorem encode_decode {s : Octets} (valid : isValid s) : encode (decode s) = s := eq_of_beq valid

/-- Different valid octets are different texts. -/
theorem eq_of_decode_eq {s t : Octets} (hs : isValid s) (ht : isValid t) (same : decode s = decode t) :
    s = t := by
  rw [← encode_decode hs, same, encode_decode ht]

/-! ### The standard encoding -/

theorem encodeChar_eq (c : Char) : encodeChar c = String.utf8EncodeChar c := by
  have range := toNat_range c
  rw [encodeChar, String.utf8EncodeChar, show c.val.toNat = c.toNat from rfl]
  generalize c.toNat = n at range
  -- the bounds are written differently, and the standard cuts each octet to its bits
  split_ifs <;> try omega
  · rfl
  · rw [Nat.mod_eq_of_lt (show n / 64 < 32 by omega), Nat.add_comm 192, Nat.add_comm 128]
  · rw [Nat.mod_eq_of_lt (show n / 4096 < 16 by omega), Nat.add_comm 224, Nat.add_comm 128,
      Nat.add_comm 128]
  · rw [Nat.mod_eq_of_lt (show n / 262144 < 8 by omega), Nat.add_comm 240, Nat.add_comm 128,
      Nat.add_comm 128, Nat.add_comm 128]

theorem toByteArray_encode (cs : List Char) : (encode cs).toByteArray = cs.utf8Encode := by
  rw [encode, funext encodeChar_eq, List.utf8Encode]

/-- Valid is what the standard encoding writes. -/
theorem isValid_iff {s : Octets} : isValid s ↔ s.toByteArray.IsValidUTF8 := by
  rw [isValid_iff_exists]
  constructor
  · rintro ⟨cs, rfl⟩
    exact ⟨cs, toByteArray_encode cs⟩
  · rintro ⟨cs, same⟩
    rw [← toByteArray_encode] at same
    have arrays : s.toArray = (encode cs).toArray := by
      rw [← List.data_toByteArray, same, List.data_toByteArray]
    exact ⟨cs, by rw [← s.toList_toArray, arrays, List.toList_toArray]⟩

/-! ### Strings -/

theorem toList_loop (bs : ByteArray) (i : ℕ) (r : Octets) :
    ByteArray.toList.loop bs i r = r.reverse ++ bs.data.toList.drop i := by
  fun_induction ByteArray.toList.loop bs i r with
  | case1 i r inside ih =>
    have read : bs.get! i = bs.data.toList[i] := getElem!_pos bs.data i inside
    rw [ih, List.drop_eq_getElem_cons inside, read, List.reverse_cons, List.append_assoc]
    rfl
  | case2 i r outside =>
    rw [List.drop_eq_nil_of_le (Nat.le_of_not_lt outside), List.append_nil]

/-- The octets of a string are what its characters are written as. -/
theorem ofString_eq (s : String) : Octets.ofString s = encode s.toList := by
  have same : s.toUTF8 = (encode s.toList).toByteArray := by
    rw [toByteArray_encode, String.utf8Encode_toList]
    rfl
  rw [Octets.ofString, ByteArray.toList, toList_loop, same, List.toList_data_toByteArray]
  rfl

@[simp] theorem decode_ofString (s : String) : decode (Octets.ofString s) = s.toList := by
  rw [ofString_eq, decode_encode]

end PseudoTerminal.Utf8
