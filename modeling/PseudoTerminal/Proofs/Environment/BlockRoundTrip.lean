import PseudoTerminal.Environment.Block
import PseudoTerminal.Proofs.Text.Utf16

/-! Environment blocks there and back. What is read from a block are clean variables: valid texts without
zeros, whose keys have no separator after their first character. Just these are read back from the block
that they are written to, and a block is written again as it was read just when it is made of the entries of
such variables. -/

namespace PseudoTerminal.Environment

variable {v : Variable} {vars : List Variable} {cs key value : List Char}

/-! ### Entries as texts -/

theorem splitAtEquals_eq_some_iff :
    splitAtEquals cs = some (key, value) ↔ cs = key ++ '=' :: value ∧ '=' ∉ key := by
  induction cs generalizing key with
  | nil => simp [splitAtEquals]
  | cons c cs ih =>
    rw [splitAtEquals]
    split_ifs with separator
    · subst separator
      rcases key with _ | ⟨k, key⟩
      · simp [eq_comm]
      · refine iff_of_false (by simp) fun ⟨shape, plain⟩ => ?_
        obtain ⟨rfl, -⟩ := List.cons_eq_cons.mp shape
        exact plain List.mem_cons_self
    · rcases key with _ | ⟨k, key⟩
      · simp [separator]
      · simp only [Option.map_eq_some_iff, Prod.exists, Prod.mk.injEq, List.cons_eq_cons,
          List.cons_append, List.mem_cons, not_or]
        constructor
        · rintro ⟨_, _, found, ⟨rfl, rfl⟩, rfl⟩
          obtain ⟨shape, plain⟩ := ih.mp found
          exact ⟨⟨rfl, shape⟩, Ne.symm separator, plain⟩
        · rintro ⟨⟨rfl, shape⟩, -, plain⟩
          exact ⟨key, value, ih.mpr ⟨shape, plain⟩, ⟨rfl, rfl⟩, rfl⟩

/-- A text is split at the first separator after its first character. -/
theorem splitEntry_eq_some_iff :
    splitEntry cs = some (key, value) ↔ cs = key ++ '=' :: value ∧ key ≠ [] ∧ '=' ∉ key.tail := by
  rcases cs with _ | ⟨c, cs⟩
  · simp [splitEntry]
  rcases key with _ | ⟨k, key⟩
  · simp [splitEntry]
  · simp only [splitEntry, Option.map_eq_some_iff, Prod.exists, Prod.mk.injEq, List.cons_eq_cons,
      splitAtEquals_eq_some_iff, List.cons_append, List.tail_cons]
    constructor
    · rintro ⟨_, _, ⟨rfl, plain⟩, ⟨rfl, rfl⟩, rfl⟩
      exact ⟨⟨rfl, rfl⟩, List.cons_ne_nil _ _, plain⟩
    · rintro ⟨⟨rfl, rfl⟩, -, plain⟩
      exact ⟨key, value, ⟨rfl, plain⟩, ⟨rfl, rfl⟩, rfl⟩

theorem exists_splitAtEquals (among : '=' ∈ cs) : ∃ key value, splitAtEquals cs = some (key, value) := by
  obtain ⟨key, value, shape, plain⟩ := List.eq_append_cons_of_mem among
  exact ⟨key, value, splitAtEquals_eq_some_iff.mpr ⟨shape, plain⟩⟩

theorem exists_splitEntry (among : '=' ∈ cs.tail) : ∃ key value, splitEntry cs = some (key, value) := by
  rcases cs with _ | ⟨c, cs⟩
  · simp at among
  · rw [List.tail_cons] at among
    obtain ⟨key, value, found⟩ := exists_splitAtEquals among
    exact ⟨c :: key, value, by rw [splitEntry, found]; rfl⟩

/-- The text of an entry. -/
def entryText (v : Variable) : List Char := Utf8.decode v.key ++ '=' :: Utf8.decode v.value

theorem entryUnits_eq (v : Variable) : entryUnits v = Utf16.encode (entryText v) := by
  rw [entryUnits, toWide, toWide, entryText, Utf16.encode_append, Utf16.encode_cons]
  rfl

/-- What is read from units is what their text is split into. -/
theorem parseEntry_ofWide (units : List UInt16) :
    parseEntry (ofWide units) = (splitEntry (Utf16.decode units)).map
      fun (key, value) => ⟨Utf8.encode key, Utf8.encode value⟩ := by
  rw [parseEntry, ofWide, Utf8.decode_encode]

/-! ### Clean variables -/

/-- A variable that a block keeps as it is. -/
structure Clean (v : Variable) : Prop where
  key_valid : v.key.toByteArray.IsValidUTF8
  value_valid : v.value.toByteArray.IsValidUTF8
  key_plain : '\x00' ∉ Utf8.decode v.key
  value_plain : '\x00' ∉ Utf8.decode v.value
  named : v.key ≠ []
  /-- The key has no separator after its first character. -/
  separated : '=' ∉ (Utf8.decode v.key).tail

/-- An entry as a block holds it: well-formed units without a zero, with a separator after the first
character. -/
structure IsEntry (units : List UInt16) : Prop where
  plain : 0 ∉ units
  whole : Utf16.WellFormed units
  separator : '=' ∈ (Utf16.decode units).tail

theorem IsEntry.ne_nil {units : List UInt16} (h : IsEntry units) : units ≠ [] := by
  rintro rfl
  exact List.not_mem_nil h.separator

theorem Clean.isEntry (h : Clean v) : IsEntry (entryUnits v) where
  plain := by
    rw [entryUnits_eq, Utf16.zero_mem_encode, entryText, List.mem_append, List.mem_cons]
    rintro (among | separator | among)
    · exact h.key_plain among
    · exact absurd separator (by decide)
    · exact h.value_plain among
  whole := entryUnits_eq v ▸ Utf16.wellFormed_encode _
  separator := by
    rw [entryUnits_eq, Utf16.decode_encode, entryText, List.tail_append_of_ne_nil]
    · simp
    · exact Utf8.decode_eq_nil_iff.not.mpr h.named

/-- A clean variable is read from its own entry. -/
theorem Clean.parseEntry (h : Clean v) : parseEntry (ofWide (entryUnits v)) = some v := by
  have split : splitEntry (entryText v) = some (Utf8.decode v.key, Utf8.decode v.value) :=
    splitEntry_eq_some_iff.mpr ⟨rfl, Utf8.decode_eq_nil_iff.not.mpr h.named, h.separated⟩
  have key_same := Utf8.encode_decode (Utf8.isValid_iff.mpr h.key_valid)
  have value_same := Utf8.encode_decode (Utf8.isValid_iff.mpr h.value_valid)
  rw [parseEntry_ofWide, entryUnits_eq, Utf16.decode_encode, split, Option.map_some]
  simp only [key_same, value_same]

theorem clean_of_texts (key_plain : '\x00' ∉ key) (value_plain : '\x00' ∉ value) (named : key ≠ [])
    (separated : '=' ∉ key.tail) : Clean ⟨Utf8.encode key, Utf8.encode value⟩ where
  key_valid := Utf8.isValid_iff.mp (Utf8.isValid_iff_exists.mpr ⟨key, rfl⟩)
  value_valid := Utf8.isValid_iff.mp (Utf8.isValid_iff_exists.mpr ⟨value, rfl⟩)
  key_plain := by rwa [Utf8.decode_encode]
  value_plain := by rwa [Utf8.decode_encode]
  named := by
    apply Utf8.decode_eq_nil_iff.not.mp
    rwa [Utf8.decode_encode]
  separated := by rwa [Utf8.decode_encode]

/-- What is read from units without a zero is clean, and its entry is their text. -/
theorem clean_of_parseEntry {units : List UInt16} (plain : 0 ∉ units)
    (h : Environment.parseEntry (ofWide units) = some v) : Clean v ∧ entryText v = Utf16.decode units := by
  rw [parseEntry_ofWide, Option.map_eq_some_iff] at h
  obtain ⟨⟨key, value⟩, split, rfl⟩ := h
  obtain ⟨shape, named, separated⟩ := splitEntry_eq_some_iff.mp split
  have text_plain : '\x00' ∉ key ++ '=' :: value := by rwa [← shape, Utf16.zero_mem_decode]
  rw [List.mem_append, List.mem_cons, not_or, not_or] at text_plain
  refine ⟨clean_of_texts text_plain.1 text_plain.2.2 named separated, ?_⟩
  rw [entryText, Utf8.decode_encode, Utf8.decode_encode, shape]

/-- An entry is written again as it was read. -/
theorem IsEntry.exists_clean {units : List UInt16} (h : IsEntry units) :
    ∃ v, Environment.parseEntry (ofWide units) = some v ∧ entryUnits v = units := by
  obtain ⟨key, value, split⟩ := exists_splitEntry h.separator
  have found := parseEntry_ofWide units
  rw [split, Option.map_some] at found
  refine ⟨_, found, ?_⟩
  rw [entryUnits_eq, (clean_of_parseEntry h.plain found).2, Utf16.encode_decode h.whole]

/-! ### Zeros -/

theorem pieces_ne_nil (block : List UInt16) : pieces block ≠ [] := by
  rcases block with _ | ⟨u, block⟩
  · exact List.cons_ne_nil _ _
  · rw [pieces]
    split_ifs
    · exact List.cons_ne_nil _ _
    · split <;> exact List.cons_ne_nil _ _

theorem pieces_cons {u : UInt16} {block p : List UInt16} {ps : List (List UInt16)} (nonzero : u ≠ 0)
    (h : pieces block = p :: ps) : pieces (u :: block) = (u :: p) :: ps := by
  rw [pieces, if_neg nonzero, h]

/-- A piece ends at the first zero. -/
theorem pieces_append {p : List UInt16} (plain : 0 ∉ p) (block : List UInt16) :
    pieces (p ++ 0 :: block) = p :: pieces block := by
  induction p with
  | nil => rw [List.nil_append, pieces, if_pos rfl]
  | cons u p ih =>
    rw [List.mem_cons, not_or] at plain
    rw [List.cons_append]
    exact pieces_cons (Ne.symm plain.1) (ih plain.2)

theorem plain_of_mem_pieces {block p : List UInt16} (among : p ∈ pieces block) : 0 ∉ p := by
  induction block generalizing p with
  | nil =>
    rw [pieces, List.mem_singleton] at among
    exact among ▸ List.not_mem_nil
  | cons u block ih =>
    by_cases zero : u = 0
    · rw [pieces, if_pos zero, List.mem_cons] at among
      rcases among with rfl | among
      · exact List.not_mem_nil
      · exact ih among
    · obtain ⟨q, ps, shape⟩ := List.exists_cons_of_ne_nil (pieces_ne_nil block)
      rw [pieces_cons zero shape, List.mem_cons] at among
      rw [shape] at ih
      rcases among with rfl | among
      · rw [List.mem_cons, not_or]
        exact ⟨Ne.symm zero, ih List.mem_cons_self⟩
      · exact ih (List.mem_cons_of_mem q among)

/-! ### Blocks of entries -/

/-- Entries, each closed by a zero, and one more zero. -/
def framed (entries : List (List UInt16)) : List UInt16 := entries.flatMap (· ++ [0]) ++ [0]

theorem framed_cons (e : List UInt16) (entries : List (List UInt16)) :
    framed (e :: entries) = e ++ 0 :: framed entries := by
  simp [framed]

theorem length_framed_pos (entries : List (List UInt16)) : 0 < (framed entries).length := by
  simp [framed]

theorem toBlock_eq_framed (nonempty : vars ≠ []) : toBlock vars = framed (vars.map entryUnits) := by
  rw [toBlock, if_neg (by simpa using nonempty), framed, List.flatMap_map]

theorem pieces_framed {entries : List (List UInt16)} (plain : ∀ e ∈ entries, 0 ∉ e) :
    pieces (framed entries) = entries ++ [[], []] := by
  induction entries with
  | nil => rfl
  | cons e entries ih =>
    rw [List.forall_mem_cons] at plain
    rw [framed_cons, pieces_append plain.1, ih plain.2, List.cons_append]

theorem ofBlock_framed {entries : List (List UInt16)} (proper : ∀ e ∈ entries, e ≠ [] ∧ 0 ∉ e) :
    ofBlock (framed entries) = entries.filterMap fun e => parseEntry (ofWide e) := by
  rw [ofBlock, pieces_framed fun e among => (proper e among).2, List.takeWhile_append_of_pos]
  · simp
  · intro e among
    simpa using (proper e among).1

theorem zero_append_iff {p : List UInt16} (plain : 0 ∉ p) (rest : List UInt16) (i : ℕ) :
    (p ++ rest)[i]? = some 0 ↔ p.length ≤ i ∧ rest[i - p.length]? = some 0 := by
  by_cases inside : i < p.length
  · rw [List.getElem?_append_left inside]
    exact iff_of_false (fun zero => plain (List.mem_of_getElem? zero)) (fun ⟨le, _⟩ => by omega)
  · rw [List.getElem?_append_right (by omega), and_iff_right (by omega)]

theorem head_zero_framed_iff {entries : List (List UInt16)} (proper : ∀ e ∈ entries, e ≠ [] ∧ 0 ∉ e) :
    (framed entries)[0]? = some 0 ↔ (framed entries).length = 1 := by
  rcases entries with _ | ⟨e, entries⟩
  · simp [framed]
  · obtain ⟨nonempty, plain⟩ := proper e List.mem_cons_self
    have long : 0 < e.length := List.length_pos_iff.mpr nonempty
    rw [framed_cons, zero_append_iff plain, List.length_append, List.length_cons]
    exact iff_of_false (fun ⟨le, _⟩ => by omega) (by omega)

/-- Two zeros stand next to each other only at the end. -/
theorem adjacent_zeros_framed {entries : List (List UInt16)} (proper : ∀ e ∈ entries, e ≠ [] ∧ 0 ∉ e)
    (i : ℕ) :
    (framed entries)[i]? = some 0 ∧ (framed entries)[i + 1]? = some 0 ↔
      i + 2 = (framed entries).length := by
  induction entries generalizing i with
  | nil => simp [framed]
  | cons e entries ih =>
    rw [List.forall_mem_cons] at proper
    obtain ⟨⟨-, plain⟩, proper⟩ := proper
    have one := length_framed_pos entries
    rw [framed_cons, zero_append_iff plain, zero_append_iff plain, List.length_append, List.length_cons]
    by_cases inside : i < e.length
    · exact iff_of_false (fun ⟨⟨le, _⟩, _⟩ => by omega) (by omega)
    obtain ⟨j, rfl⟩ := Nat.exists_eq_add_of_le (not_lt.mp inside)
    have first : e.length ≤ e.length + j := Nat.le_add_right ..
    have second : e.length ≤ e.length + j + 1 := Nat.le_add_right_of_le first
    have shift : e.length + j + 1 - e.length = j + 1 := by omega
    rw [and_iff_right first, and_iff_right second, Nat.add_sub_cancel_left, shift,
      List.getElem?_cons_succ]
    rcases j with _ | j
    · rw [List.getElem?_cons_zero, and_iff_right rfl, head_zero_framed_iff proper]
      omega
    · rw [List.getElem?_cons_succ, ih proper]
      omega

/-- Every variable of a block is clean. -/
theorem clean_of_mem_ofBlock {block : List UInt16} (among : v ∈ ofBlock block) : Clean v := by
  rw [ofBlock, List.mem_filterMap] at among
  obtain ⟨p, among, found⟩ := among
  have piece := (List.takeWhile_sublist _).subset among
  exact (clean_of_parseEntry (plain_of_mem_pieces piece) found).1

theorem proper_entries (clean : ∀ v ∈ vars, Clean v) :
    ∀ e ∈ vars.map entryUnits, e ≠ [] ∧ 0 ∉ e := by
  intro e among
  obtain ⟨v, listed, rfl⟩ := List.mem_map.mp among
  exact ⟨(clean v listed).isEntry.ne_nil, (clean v listed).isEntry.plain⟩

/-- Clean variables are read back from their block. -/
theorem ofBlock_toBlock (clean : ∀ v ∈ vars, Clean v) : ofBlock (toBlock vars) = vars := by
  by_cases empty : vars = []
  · rw [empty]
    rfl
  · have read : ∀ v ∈ vars, ((fun e => parseEntry (ofWide e)) ∘ entryUnits) v = some v :=
      fun v among => (clean v among).parseEntry
    rw [toBlock_eq_framed empty, ofBlock_framed (proper_entries clean), List.filterMap_map,
      List.filterMap_congr read, List.filterMap_some]

/-- Just the clean variables are read back from the block that they are written to, and it has two zeros
next to each other only at its end. -/
theorem ofBlock_toBlock_eq_iff (vars : List Variable) :
    (ofBlock (toBlock vars) = vars ↔ ∀ v ∈ vars, Clean v) ∧
    ((∀ v ∈ vars, Clean v) → ∀ i,
      (toBlock vars)[i]? = some 0 ∧ (toBlock vars)[i + 1]? = some 0 ↔ i + 2 = (toBlock vars).length) := by
  refine ⟨⟨fun same v among => ?_, ofBlock_toBlock⟩, fun clean i => ?_⟩
  · rw [← same] at among
    exact clean_of_mem_ofBlock among
  · by_cases empty : vars = []
    · subst empty
      rcases i with _ | i <;> simp [toBlock]
    · rw [toBlock_eq_framed empty]
      exact adjacent_zeros_framed (proper_entries clean) i

/-- A separator in a key comes back in the value. -/
example : ofBlock (toBlock [⟨[0x61, 0x3D, 0x62], [0x63]⟩]) = [⟨[0x61], [0x62, 0x3D, 0x63]⟩] := by decide

/-- The variables of entries, written to a block, are these entries. -/
theorem toBlock_ofBlock_framed {entries : List (List UInt16)} (nonempty : entries ≠ [])
    (h : ∀ e ∈ entries, IsEntry e) : toBlock (ofBlock (framed entries)) = framed entries := by
  choose! read found same using fun e among => (h e among).exists_clean
  have values : ofBlock (framed entries) = entries.map read := by
    rw [ofBlock_framed fun e among => ⟨(h e among).ne_nil, (h e among).plain⟩,
      List.filterMap_congr found]
    exact congrFun List.filterMap_eq_map' entries
  have units : (entries.map read).map entryUnits = entries := by
    rw [List.map_map]
    exact (List.map_congr_left same).trans (List.map_id entries)
  rw [values, toBlock_eq_framed (by simpa using nonempty), units]

/-- What was read from a block is read again from the block that it is written to. That block is the first
one just when the first is two zeros, or one or more entries, each closed by a zero, and one more zero. -/
theorem toBlock_ofBlock_eq_iff (block : List UInt16) :
    ofBlock (toBlock (ofBlock block)) = ofBlock block ∧
    (toBlock (ofBlock block) = block ↔
      block = [0, 0] ∨ ∃ entries : List (List UInt16), entries ≠ [] ∧ (∀ e ∈ entries, IsEntry e) ∧
        block = entries.flatMap (· ++ [0]) ++ [0]) := by
  have clean : ∀ v ∈ ofBlock block, Clean v := fun v among => clean_of_mem_ofBlock among
  refine ⟨ofBlock_toBlock clean, fun same => ?_, ?_⟩
  · by_cases empty : ofBlock block = []
    · rw [empty] at same
      exact .inl same.symm
    · rw [toBlock_eq_framed empty] at same
      refine .inr ⟨(ofBlock block).map entryUnits, by simpa using empty, fun e among => ?_, same.symm⟩
      obtain ⟨v, listed, rfl⟩ := List.mem_map.mp among
      exact (clean v listed).isEntry
  · rintro (rfl | ⟨entries, nonempty, proper, rfl⟩)
    · rfl
    · exact toBlock_ofBlock_framed nonempty proper

end PseudoTerminal.Environment
