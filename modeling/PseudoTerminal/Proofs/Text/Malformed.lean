import PseudoTerminal.Proofs.Text.Utf16

/-! What becomes of malformed octets. Octets that begin with no character begin with a malformed piece: as many
of them as begin some character, or the first alone if that begins none. The decoder reads one replacement for
each such piece and every character by itself, which is one text and no other. No piece has a zero in it, so
that a text has a zero character for each zero octet, and both stand between the same neighbours. -/

namespace PseudoTerminal.Utf8

open Utf16 (toNat_ofNat_char)

/-! ### Pieces -/

/-- Whether the octets of some character begin with these. -/
def Begins (s : Octets) : Prop := ∃ c, s <+: encodeChar c

/-- A malformed piece, as long as it can be, before what follows. -/
structure IsMalformed (piece rest : Octets) : Prop where
  /-- No character stands at the beginning. -/
  characterless : ∀ c, ¬ encodeChar c <+: piece ++ rest
  /-- The piece begins a character, or is one octet that begins none. -/
  shape : piece ≠ [] ∧ Begins piece ∨ ∃ b, piece = [b] ∧ ¬ Begins [b]
  /-- With the octet that follows it begins no character. -/
  longest : ∀ b, rest.head? = some b → ¬ Begins (piece ++ [b])

/-- The texts of octets: a character for its own octets, and a replacement for a malformed piece. -/
inductive Reads : Octets → List Char → Prop
  | nil : Reads [] []
  | char (c : Char) {rest : Octets} {cs : List Char} : Reads rest cs → Reads (encodeChar c ++ rest) (c :: cs)
  | malformed {piece rest : Octets} {cs : List Char} :
    IsMalformed piece rest → Reads rest cs → Reads (piece ++ rest) (replacement :: cs)

variable {s t piece rest : Octets} {cs : List Char} {c : Char}

theorem Begins.of_prefix (begins : Begins t) (part : s <+: t) : Begins s :=
  begins.imp fun _ whole => part.trans whole

/-! ### Octets as numbers -/

theorem encodeChar_one {m : ℕ} (small : m < 0x80) : encodeChar (Char.ofNat m) = [UInt8.ofNat m] := by
  rw [encodeChar, toNat_ofNat_char (by rw [Nat.isValidChar]; omega), if_pos small]

theorem encodeChar_two {m x : ℕ} (above : 0xC2 ≤ m) (below : m < 0xE0) (six : x < 64) :
    encodeChar (Char.ofNat ((m - 0xC0) * 64 + x)) = [UInt8.ofNat m, UInt8.ofNat (0x80 + x)] := by
  have lead : 0xC0 + ((m - 0xC0) * 64 + x) / 64 = m := by omega
  have last : ((m - 0xC0) * 64 + x) % 64 = x := by omega
  rw [encodeChar, toNat_ofNat_char (by rw [Nat.isValidChar]; omega), if_neg (by omega), if_pos (by omega),
    lead, last]

/-- Three octets; after two first octets the range of the next is narrower. -/
theorem encodeChar_three {m x y : ℕ} (above : 0xE0 ≤ m) (below : m < 0xF0) (six : x < 64) (low : y < 64)
    (long : m = 0xE0 → 32 ≤ x) (surrogate : m = 0xED → x < 32) :
    encodeChar (Char.ofNat ((m - 0xE0) * 4096 + x * 64 + y)) =
      [UInt8.ofNat m, UInt8.ofNat (0x80 + x), UInt8.ofNat (0x80 + y)] := by
  have lead : 0xE0 + ((m - 0xE0) * 4096 + x * 64 + y) / 4096 = m := by omega
  have middle : ((m - 0xE0) * 4096 + x * 64 + y) / 64 % 64 = x := by omega
  have last : ((m - 0xE0) * 4096 + x * 64 + y) % 64 = y := by omega
  rw [encodeChar, toNat_ofNat_char (by rw [Nat.isValidChar]; omega), if_neg (by omega), if_neg (by omega),
    if_pos (by omega), lead, middle, last]

/-- Four octets; after two first octets the range of the next is narrower. -/
theorem encodeChar_four {m x y z : ℕ} (above : 0xF0 ≤ m) (below : m < 0xF5) (six : x < 64) (mid : y < 64)
    (low : z < 64) (long : m = 0xF0 → 16 ≤ x) (top : m = 0xF4 → x < 16) :
    encodeChar (Char.ofNat ((m - 0xF0) * 262144 + x * 4096 + y * 64 + z)) =
      [UInt8.ofNat m, UInt8.ofNat (0x80 + x), UInt8.ofNat (0x80 + y), UInt8.ofNat (0x80 + z)] := by
  have lead : 0xF0 + ((m - 0xF0) * 262144 + x * 4096 + y * 64 + z) / 262144 = m := by omega
  have second : ((m - 0xF0) * 262144 + x * 4096 + y * 64 + z) / 4096 % 64 = x := by omega
  have third : ((m - 0xF0) * 262144 + x * 4096 + y * 64 + z) / 64 % 64 = y := by omega
  have last : ((m - 0xF0) * 262144 + x * 4096 + y * 64 + z) % 64 = z := by omega
  rw [encodeChar, toNat_ofNat_char (by rw [Nat.isValidChar]; omega), if_neg (by omega), if_neg (by omega),
    if_neg (by omega), lead, second, third, last]

/-- The octets of a character: one below the first continuing one, or a first octet and some that continue. -/
inductive Shape : Octets → Prop
  | one {m : ℕ} : m < 0x80 → Shape [UInt8.ofNat m]
  | two {m x : ℕ} : 0xC2 ≤ m → m < 0xE0 → x < 64 → Shape [UInt8.ofNat m, UInt8.ofNat (0x80 + x)]
  | three {m x y : ℕ} : 0xE0 ≤ m → m < 0xF0 → x < 64 → y < 64 → (m = 0xE0 → 32 ≤ x) → (m = 0xED → x < 32) →
    Shape [UInt8.ofNat m, UInt8.ofNat (0x80 + x), UInt8.ofNat (0x80 + y)]
  | four {m x y z : ℕ} : 0xF0 ≤ m → m < 0xF5 → x < 64 → y < 64 → z < 64 → (m = 0xF0 → 16 ≤ x) →
    (m = 0xF4 → x < 16) →
    Shape [UInt8.ofNat m, UInt8.ofNat (0x80 + x), UInt8.ofNat (0x80 + y), UInt8.ofNat (0x80 + z)]

theorem shape_encodeChar (c : Char) : Shape (encodeChar c) := by
  have range := toNat_range c
  rw [encodeChar]
  generalize c.toNat = n at range
  have six (m : ℕ) : m % 64 < 64 := Nat.mod_lt m (by decide)
  split_ifs with one two three
  · exact .one one
  · exact .two (by omega) (by omega) (six _)
  · exact .three (by omega) (by omega) (six _) (six _) (by omega) (by omega)
  · exact .four (by omega) (by omega) (six _) (six _) (six _) (by omega) (by omega)

/-- An octet within a range of continuing ones. -/
theorem exists_of_continues (low high : ℕ) {b : UInt8} (above : 0x80 ≤ low) (order : low ≤ 0xBF)
    (fits : high ≤ 0xBF) (ge : UInt8.ofNat low ≤ b) (le : b ≤ UInt8.ofNat high) :
    ∃ x, b = UInt8.ofNat (0x80 + x) ∧ x < 64 ∧ low ≤ 0x80 + x ∧ 0x80 + x ≤ high := by
  rw [UInt8.le_iff_toNat_le, toNat_ofNat (by omega)] at ge le
  refine ⟨b.toNat - 0x80, ?_, by omega, by omega, by omega⟩
  rw [Nat.add_sub_cancel' (by omega), UInt8.ofNat_toNat]

/-! ### Inside a sequence -/

/-- After these octets the scan is inside a sequence, and takes only octets with which a character goes on. -/
def Holds (s : Octets) : Prop :=
  ∃ bits missing low high, (∀ rest, scan .start (s ++ rest) = scan (.inside bits missing low high) rest) ∧
    ∀ b, low ≤ b → b ≤ high → Begins (s ++ [b])

section Holds

variable {m x y : ℕ}

theorem holds_two (above : 0xC2 ≤ m) (below : m < 0xE0) : Holds [UInt8.ofNat m] := by
  refine ⟨_, _, _, _, scan_lead_two above below, fun b ge le => ?_⟩
  obtain ⟨x, rfl, six, -⟩ := exists_of_continues 0x80 0xBF le_rfl (by decide) le_rfl ge le
  exact ⟨_, [], (encodeChar_two above below six).symm⟩

theorem holds_three (above : 0xE0 ≤ m) (below : m < 0xF0) : Holds [UInt8.ofNat m] := by
  refine ⟨_, _, _, _, scan_lead_three above below, fun b ge le => ?_⟩
  obtain ⟨x, rfl, six, low, high⟩ := exists_of_continues _ _ (by split_ifs <;> decide)
    (by split_ifs <;> decide) (by split_ifs <;> decide) ge le
  have long (first : m = 0xE0) : 32 ≤ x := by rw [if_pos first] at low; omega
  have surrogate (first : m = 0xED) : x < 32 := by rw [if_pos first] at high; omega
  exact ⟨_, [UInt8.ofNat 0x80], (encodeChar_three (y := 0) above below six (by decide) long surrogate).symm⟩

theorem holds_four (above : 0xF0 ≤ m) (below : m < 0xF5) : Holds [UInt8.ofNat m] := by
  refine ⟨_, _, _, _, scan_lead_four above below, fun b ge le => ?_⟩
  obtain ⟨x, rfl, six, low, high⟩ := exists_of_continues _ _ (by split_ifs <;> decide)
    (by split_ifs <;> decide) (by split_ifs <;> decide) ge le
  have long (first : m = 0xF0) : 16 ≤ x := by rw [if_pos first] at low; omega
  have top (first : m = 0xF4) : x < 16 := by rw [if_pos first] at high; omega
  exact ⟨_, [UInt8.ofNat 0x80, UInt8.ofNat 0x80],
    (encodeChar_four (y := 0) (z := 0) above below six (by decide) (by decide) long top).symm⟩

theorem scan_three_two (above : 0xE0 ≤ m) (below : m < 0xF0) (six : x < 64) (long : m = 0xE0 → 32 ≤ x)
    (surrogate : m = 0xED → x < 32) (rest : Octets) :
    scan .start (UInt8.ofNat m :: UInt8.ofNat (0x80 + x) :: rest) =
      scan (.inside ((m - 0xE0) * 64 + x) 1 0x80 0xBF) rest := by
  rw [scan_lead_three above below]
  exact scan_continue _ _ six (by split_ifs <;> decide) (by split_ifs <;> omega) (by split_ifs <;> omega) rest

theorem scan_four_two (above : 0xF0 ≤ m) (below : m < 0xF5) (six : x < 64) (long : m = 0xF0 → 16 ≤ x)
    (top : m = 0xF4 → x < 16) (rest : Octets) :
    scan .start (UInt8.ofNat m :: UInt8.ofNat (0x80 + x) :: rest) =
      scan (.inside ((m - 0xF0) * 64 + x) 2 0x80 0xBF) rest := by
  rw [scan_lead_four above below]
  exact scan_continue _ _ six (by split_ifs <;> decide) (by split_ifs <;> omega) (by split_ifs <;> omega) rest

theorem holds_three_two (above : 0xE0 ≤ m) (below : m < 0xF0) (six : x < 64) (long : m = 0xE0 → 32 ≤ x)
    (surrogate : m = 0xED → x < 32) : Holds [UInt8.ofNat m, UInt8.ofNat (0x80 + x)] := by
  refine ⟨_, _, _, _, scan_three_two above below six long surrogate, fun b ge le => ?_⟩
  obtain ⟨y, rfl, low, -⟩ := exists_of_continues 0x80 0xBF le_rfl (by decide) le_rfl ge le
  exact ⟨_, [], (encodeChar_three above below six low long surrogate).symm⟩

theorem holds_four_two (above : 0xF0 ≤ m) (below : m < 0xF5) (six : x < 64) (long : m = 0xF0 → 16 ≤ x)
    (top : m = 0xF4 → x < 16) : Holds [UInt8.ofNat m, UInt8.ofNat (0x80 + x)] := by
  refine ⟨_, _, _, _, scan_four_two above below six long top, fun b ge le => ?_⟩
  obtain ⟨y, rfl, low, -⟩ := exists_of_continues 0x80 0xBF le_rfl (by decide) le_rfl ge le
  exact ⟨_, [UInt8.ofNat 0x80], (encodeChar_four (z := 0) above below six low (by decide) long top).symm⟩

theorem holds_four_three (above : 0xF0 ≤ m) (below : m < 0xF5) (six : x < 64) (mid : y < 64)
    (long : m = 0xF0 → 16 ≤ x) (top : m = 0xF4 → x < 16) :
    Holds [UInt8.ofNat m, UInt8.ofNat (0x80 + x), UInt8.ofNat (0x80 + y)] := by
  refine ⟨_, _, _, _, fun rest => (scan_four_two above below six long top _).trans (scan_inner mid rest),
    fun b ge le => ?_⟩
  obtain ⟨z, rfl, low, -⟩ := exists_of_continues 0x80 0xBF le_rfl (by decide) le_rfl ge le
  exact ⟨_, [], (encodeChar_four above below six mid low long top).symm⟩

end Holds

/-- A proper beginning of a character leaves the scan inside a sequence. -/
theorem Shape.holds (shape : Shape t) (nonempty : s ≠ []) (part : s <+: t) (proper : s ≠ t) : Holds s := by
  cases shape with
  | one small =>
    simp only [List.prefix_cons_iff, List.prefix_nil] at part
    aesop
  | two above below six =>
    simp only [List.prefix_cons_iff, List.prefix_nil] at part
    obtain rfl | ⟨-, rfl, rfl | ⟨-, rfl, rfl⟩⟩ := part
    · exact absurd rfl nonempty
    · exact holds_two above below
    · exact absurd rfl proper
  | three above below six low long surrogate =>
    simp only [List.prefix_cons_iff, List.prefix_nil] at part
    obtain rfl | ⟨-, rfl, rfl | ⟨-, rfl, rfl | ⟨-, rfl, rfl⟩⟩⟩ := part
    · exact absurd rfl nonempty
    · exact holds_three above below
    · exact holds_three_two above below six long surrogate
    · exact absurd rfl proper
  | four above below six mid low long top =>
    simp only [List.prefix_cons_iff, List.prefix_nil] at part
    obtain rfl | ⟨-, rfl, rfl | ⟨-, rfl, rfl | ⟨-, rfl, rfl | ⟨-, rfl, rfl⟩⟩⟩⟩ := part
    · exact absurd rfl nonempty
    · exact holds_four above below
    · exact holds_four_two above below six long top
    · exact holds_four_three above below six mid long top
    · exact absurd rfl proper

/-- An octet that begins no character is read alone. -/
theorem begin_of_not_begins {b : UInt8} (alone : ¬ Begins [b]) : begin b = ([replacement], .start) := by
  obtain ⟨m, fits, rfl⟩ : ∃ m < 256, b = UInt8.ofNat m := ⟨b.toNat, b.toNat_lt, UInt8.ofNat_toNat.symm⟩
  have one : ¬ m < 0x80 := fun small => alone ⟨_, [], (encodeChar_one small).symm⟩
  have two : ¬ (0xC2 ≤ m ∧ m < 0xE0) := fun ⟨above, below⟩ =>
    alone ⟨_, [_], (encodeChar_two (x := 0) above below (by decide)).symm⟩
  have three : ¬ (0xE0 ≤ m ∧ m < 0xF0) := fun ⟨above, below⟩ =>
    alone ⟨_, [_, _], (encodeChar_three (x := if m = 0xE0 then 32 else 0) (y := 0) above below
      (by split_ifs <;> decide) (by decide) (by split_ifs <;> omega) (by split_ifs <;> omega)).symm⟩
  have four : ¬ (0xF0 ≤ m ∧ m < 0xF5) := fun ⟨above, below⟩ =>
    alone ⟨_, [_, _, _], (encodeChar_four (x := if m = 0xF0 then 16 else 0) (y := 0) (z := 0) above below
      (by split_ifs <;> decide) (by decide) (by decide) (by split_ifs <;> omega)
      (by split_ifs <;> omega)).symm⟩
  simp only [begin, toNat_ofNat fits]
  rw [if_neg one]
  split_ifs <;> first | rfl | omega

/-! ### Reading -/

/-- A malformed piece is read as one replacement. -/
theorem scan_malformed (malformed : IsMalformed piece rest) :
    scan .start (piece ++ rest) = replacement :: scan .start rest := by
  obtain ⟨nonempty, c, part⟩ | ⟨b, rfl, alone⟩ := malformed.shape
  · have proper : piece ≠ encodeChar c := fun same =>
      malformed.characterless c (same ▸ List.prefix_append piece rest)
    obtain ⟨bits, missing, low, high, reads, goes⟩ := (shape_encodeChar c).holds nonempty part proper
    rw [reads]
    rcases rest with _ | ⟨b, rest⟩
    · rfl
    · have refused : ¬ (low ≤ b ∧ b ≤ high) := fun ⟨ge, le⟩ => malformed.longest b rfl (goes b ge le)
      rw [scan_cons, step, if_neg refused, scan_cons]
      rfl
  · rw [List.singleton_append, scan_cons, step, begin_of_not_begins alone]
    rfl

theorem Reads.decode_eq (reads : Reads s cs) : decode s = cs := by
  induction reads with
  | nil => rfl
  | char c _ ih => exact (scan_encodeChar c _).trans (congrArg (c :: ·) ih)
  | malformed piece _ ih => exact (scan_malformed piece).trans (congrArg (replacement :: ·) ih)

/-- Octets that begin with no character begin with a malformed piece. -/
theorem exists_malformed (nonempty : s ≠ []) (characterless : ∀ c, ¬ encodeChar c <+: s) :
    ∃ piece rest, s = piece ++ rest ∧ piece ≠ [] ∧ IsMalformed piece rest := by
  classical
  obtain ⟨b, t, rfl⟩ := List.exists_cons_of_ne_nil nonempty
  by_cases alone : Begins [b]
  · -- the longest beginning with which a character begins
    let Fits (n : ℕ) : Prop := Begins ((b :: t).take n)
    have inside : 1 ≤ (b :: t).length := Nat.le_add_left 1 _
    obtain ⟨n, longest⟩ : ∃ n, Nat.findGreatest Fits (b :: t).length = n := ⟨_, rfl⟩
    have begins : Fits n := longest ▸ Nat.findGreatest_spec inside alone
    have one : 1 ≤ n := longest ▸ Nat.le_findGreatest inside alone
    have piece : (b :: t).take n ≠ [] := by
      rw [Ne, List.take_eq_nil_iff]
      exact not_or.mpr ⟨by omega, List.cons_ne_nil b t⟩
    refine ⟨_, _, (List.take_append_drop n _).symm, piece, ?_, .inl ⟨piece, begins⟩, fun next head more => ?_⟩
    · rwa [List.take_append_drop]
    · rw [List.head?_drop] at head
      have further : Fits (n + 1) := by
        show Begins _
        rwa [List.take_add_one, head]
      obtain ⟨within, -⟩ := List.getElem?_eq_some_iff.mp head
      have := Nat.le_findGreatest within further
      omega
  · refine ⟨[b], t, rfl, List.cons_ne_nil b [], characterless, .inr ⟨b, rfl, alone⟩, fun next _ begins => ?_⟩
    exact alone (begins.of_prefix (List.prefix_append [b] [next]))

theorem encodeChar_ne_nil (c : Char) : encodeChar c ≠ [] := by
  intro empty
  have shape := shape_encodeChar c
  rw [empty] at shape
  cases shape

theorem exists_reads (s : Octets) : ∃ cs, Reads s cs := by
  induction length : s.length using Nat.strong_induction_on generalizing s with
  | _ n ih =>
    by_cases empty : s = []
    · exact ⟨[], empty ▸ .nil⟩
    by_cases character : ∃ c, encodeChar c <+: s
    · obtain ⟨c, rest, rfl⟩ := character
      have shorter : 0 < (encodeChar c).length := List.length_pos_iff.mpr (encodeChar_ne_nil c)
      obtain ⟨cs, reads⟩ := ih rest.length (by rw [← length, List.length_append]; omega) rest rfl
      exact ⟨c :: cs, .char c reads⟩
    · obtain ⟨piece, rest, rfl, nonempty, malformed⟩ := exists_malformed empty (not_exists.mp character)
      have shorter : 0 < piece.length := List.length_pos_iff.mpr nonempty
      obtain ⟨cs, reads⟩ := ih rest.length (by rw [← length, List.length_append]; omega) rest rfl
      exact ⟨replacement :: cs, .malformed malformed reads⟩

/-- The decoder reads the one text there is. -/
theorem reads_iff : Reads s cs ↔ decode s = cs := by
  refine ⟨Reads.decode_eq, ?_⟩
  rintro rfl
  obtain ⟨cs, reads⟩ := exists_reads s
  exact reads.decode_eq ▸ reads

/-! ### Zeros -/

theorem encodeChar_injective : Function.Injective encodeChar := by
  intro c d same
  have reads := scan_encodeChar c []
  rw [same, scan_encodeChar d []] at reads
  exact (List.cons_eq_cons.mp reads).1.symm

theorem ofNat_ne_zero {m : ℕ} (positive : 0 < m) (fits : m < 256) : 0 ≠ UInt8.ofNat m := by
  intro zero
  have value := toNat_ofNat fits
  rw [← zero] at value
  exact absurd value positive.ne

theorem Shape.eq_of_zero_mem (shape : Shape s) (zero : 0 ∈ s) : s = [0] := by
  cases shape with
  | one small => rw [List.mem_singleton.mp zero]
  | two above below six =>
    rw [List.mem_pair] at zero
    obtain zero | zero := zero <;> exact absurd zero (ofNat_ne_zero (by omega) (by omega))
  | three above below six low =>
    rw [List.mem_cons, List.mem_pair] at zero
    obtain zero | zero | zero := zero <;> exact absurd zero (ofNat_ne_zero (by omega) (by omega))
  | four above below six mid low =>
    rw [List.mem_cons, List.mem_cons, List.mem_pair] at zero
    obtain zero | zero | zero | zero := zero <;> exact absurd zero (ofNat_ne_zero (by omega) (by omega))

/-- A zero is one character, and stands among the octets of no other. -/
theorem encodeChar_of_zero_mem (zero : 0 ∈ encodeChar c) : encodeChar c = [0] :=
  (shape_encodeChar c).eq_of_zero_mem zero

theorem count_zero_encodeChar (c : Char) : (encodeChar c).count 0 = [c].count '\x00' := by
  by_cases zero : c = '\x00'
  · subst zero
    rfl
  · have absent : 0 ∉ encodeChar c := fun among =>
      zero (encodeChar_injective ((encodeChar_of_zero_mem among).trans rfl))
    rw [List.count_eq_zero.mpr absent, List.count_eq_zero.mpr (by simpa using Ne.symm zero)]

/-- The octets of a text have as many zeros as it has characters of point zero. -/
theorem count_zero_encode (cs : List Char) : (encode cs).count 0 = cs.count '\x00' := by
  induction cs with
  | nil => rfl
  | cons c cs ih => rw [encode_cons, List.count_append, ih, count_zero_encodeChar, ← List.count_append,
      List.singleton_append]

/-- No character with a zero goes on with more octets. -/
theorem not_begins_of_zero_mem (long : 2 ≤ s.length) (zero : 0 ∈ s) : ¬ Begins s := by
  rintro ⟨c, part⟩
  have length := part.length_le
  rw [encodeChar_of_zero_mem (part.subset zero), List.length_singleton] at length
  omega

theorem IsMalformed.ne_nil (malformed : IsMalformed piece rest) : piece ≠ [] := by
  obtain ⟨nonempty, -⟩ | ⟨b, rfl, -⟩ := malformed.shape
  · exact nonempty
  · exact List.cons_ne_nil b []

theorem IsMalformed.zero_not_mem (malformed : IsMalformed piece rest) : 0 ∉ piece := by
  intro zero
  obtain ⟨-, c, part⟩ | ⟨b, rfl, alone⟩ := malformed.shape
  · rw [encodeChar_of_zero_mem (part.subset zero)] at part
    obtain empty | ⟨t, rfl, -⟩ := List.prefix_cons_iff.mp part
    · exact malformed.ne_nil empty
    · exact malformed.characterless '\x00' ⟨t ++ rest, rfl⟩
  · obtain rfl := List.mem_singleton.mp zero
    exact alone ⟨'\x00', [], rfl⟩

/-- A zero after what follows a piece changes nothing about the piece. -/
theorem IsMalformed.append_zero (malformed : IsMalformed piece rest) (t : Octets) :
    IsMalformed piece (rest ++ 0 :: t) where
  characterless c whole := by
    have nonempty : 0 < piece.length := List.length_pos_iff.mpr malformed.ne_nil
    have silent : ¬ Begins (piece ++ rest ++ [0]) := not_begins_of_zero_mem (by simp; omega) (by simp)
    have upToZero : piece ++ rest ++ [0] <+: piece ++ (rest ++ 0 :: t) := ⟨t, by simp⟩
    obtain short | long := List.prefix_or_prefix_of_prefix whole upToZero
    · obtain same | before := List.prefix_concat_iff.mp short
      · exact silent ⟨c, same ▸ List.prefix_rfl⟩
      · exact malformed.characterless c before
    · exact silent ⟨c, long⟩
  shape := malformed.shape
  longest b head begins := by
    have nonempty : 0 < piece.length := List.length_pos_iff.mpr malformed.ne_nil
    rcases rest with _ | ⟨next, rest⟩
    · obtain rfl : 0 = b := Option.some.inj head
      exact not_begins_of_zero_mem (by simp; omega) (by simp) begins
    · exact malformed.longest b head begins

/-- A text has as many characters of point zero as its octets have zeros. -/
theorem Reads.count_zero (reads : Reads s cs) : cs.count '\x00' = s.count 0 := by
  induction reads with
  | nil => rfl
  | char c _ ih => rw [List.count_append, count_zero_encodeChar, ← ih, ← List.count_append,
      List.singleton_append]
  | malformed piece _ ih => rw [List.count_append, List.count_eq_zero.mpr piece.zero_not_mem, Nat.zero_add,
      ← ih, List.count_cons_of_ne (by decide)]

/-- What stands before a zero is read by itself, and so is what stands behind it. -/
theorem Reads.append_zero {ds : List Char} (before : Reads s cs) (behind : Reads t ds) :
    Reads (s ++ 0 :: t) (cs ++ '\x00' :: ds) := by
  induction before with
  | nil => exact .char '\x00' behind
  | char c _ ih =>
    rw [List.append_assoc]
    exact .char c ih
  | malformed piece _ ih =>
    rw [List.append_assoc]
    exact .malformed (piece.append_zero t) ih

theorem decode_append_zero (s t : Octets) : decode (s ++ 0 :: t) = decode s ++ '\x00' :: decode t :=
  ((reads_iff.mpr rfl).append_zero (reads_iff.mpr rfl)).decode_eq

theorem count_zero_decode (s : Octets) : (decode s).count '\x00' = s.count 0 := (reads_iff.mpr rfl).count_zero

end PseudoTerminal.Utf8
