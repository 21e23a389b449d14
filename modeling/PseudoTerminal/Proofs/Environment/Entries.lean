import PseudoTerminal.Proofs.Environment.BlockRoundTrip

/-! Entries read by the places of their octets. The reader goes over the characters of the decoded text, each
with the place of its first octet, and cuts the octets of the text at the first separator after the first
character, and once more behind it. It never cuts inside a character, however many octets a character has, and
what it reads is the one split of the text there is. -/

namespace PseudoTerminal.Environment

/-- A text is a key, a separator and a value, and no separator before that one follows the first character. -/
structure Splits (text key value : List Char) : Prop where
  whole : text = key ++ '=' :: value
  named : key ≠ []
  first : '=' ∉ key.tail

/-- The characters of a text that begins at a place, each with the place of its first octet. -/
def placed (place : ℕ) : List Char → List (ℕ × Char)
  | [] => []
  | c :: cs => (place, c) :: placed (place + (Utf8.encodeChar c).length) cs

/-- The place of the first separator after the first character. -/
def separator? (text : List Char) : Option ℕ :=
  (((placed 0 text).drop 1).find? fun p => p.2 = '=').map Prod.fst

/-- Cuts the octets of a text at a place, which must not lie behind their end or inside a character. -/
def cut? (s : Octets) (place : ℕ) : Option (Octets × Octets) :=
  if place ≤ s.length ∧ Utf8.isValid (s.take place) ∧ Utf8.isValid (s.drop place) then
    some (s.take place, s.drop place)
  else none

/-- The reading of an entry by places; nothing when its text is cut where it must not be. -/
def readAtPlaces (entry : Octets) : Option (Option Variable) :=
  match separator? (Utf8.decode entry) with
  | none => some none
  | some place =>
    (cut? (Utf8.encode (Utf8.decode entry)) place).bind fun (key, rest) =>
      (cut? rest 1).map fun (_, value) => some ⟨key, value⟩

variable {text key value : List Char}

/-! ### Splits -/

theorem splits_iff : Splits text key value ↔ splitEntry text = some (key, value) :=
  ⟨fun h => splitEntry_eq_some_iff.mpr ⟨h.whole, h.named, h.first⟩, fun h =>
    have ⟨whole, named, first⟩ := splitEntry_eq_some_iff.mp h
    ⟨whole, named, first⟩⟩

/-- A text is split in one way at most. -/
theorem Splits.unique {key' value' : List Char} (h : Splits text key value) (h' : Splits text key' value') :
    key' = key ∧ value' = value := by
  have same := (splits_iff.mp h').symm.trans (splits_iff.mp h)
  rwa [Option.some.injEq, Prod.mk.injEq] at same

theorem exists_splits_iff : (∃ key value, Splits text key value) ↔ '=' ∈ text.tail := by
  constructor
  · rintro ⟨key, value, rfl, named, -⟩
    rw [List.tail_append_of_ne_nil named]
    exact List.mem_append_right _ List.mem_cons_self
  · intro among
    obtain ⟨key, value, found⟩ := exists_splitEntry among
    exact ⟨key, value, splits_iff.mpr found⟩

theorem parseEntry_of_splits {entry : Octets} (h : Splits (Utf8.decode entry) key value) :
    parseEntry entry = some ⟨Utf8.encode key, Utf8.encode value⟩ := by
  rw [parseEntry, splits_iff.mp h]
  rfl

theorem parseEntry_of_plain {entry : Octets} (plain : '=' ∉ (Utf8.decode entry).tail) :
    parseEntry entry = none := by
  cases found : splitEntry (Utf8.decode entry) with
  | none => rw [parseEntry, found, Option.map_none]
  | some p => exact absurd (exists_splits_iff.mp ⟨p.1, p.2, splits_iff.mpr found⟩) plain

theorem isSome_parseEntry {entry : Octets} : (parseEntry entry).isSome ↔ '=' ∈ (Utf8.decode entry).tail := by
  by_cases among : '=' ∈ (Utf8.decode entry).tail
  · obtain ⟨key, value, splits⟩ := exists_splits_iff.mpr among
    exact iff_of_true (by rw [parseEntry_of_splits splits]; rfl) among
  · exact iff_of_false (by rw [parseEntry_of_plain among]; simp) among

/-! ### Places -/

theorem find?_placed_of_plain (place : ℕ) (plain : '=' ∉ text) :
    (placed place text).find? (fun p => p.2 = '=') = none := by
  induction text generalizing place with
  | nil => rfl
  | cons c text ih =>
    rw [List.mem_cons, not_or] at plain
    rw [placed, List.find?_cons_of_neg (by simpa using Ne.symm plain.1)]
    exact ih _ plain.2

/-- The first separator has all octets before it that are those of the characters before it. -/
theorem find?_placed (place : ℕ) (plain : '=' ∉ key) (value : List Char) :
    (placed place (key ++ '=' :: value)).find? (fun p => p.2 = '=') =
      some (place + (Utf8.encode key).length, '=') := by
  induction key generalizing place with
  | nil => rfl
  | cons c key ih =>
    rw [List.mem_cons, not_or] at plain
    rw [List.cons_append, placed, List.find?_cons_of_neg (by simpa using Ne.symm plain.1), ih _ plain.2,
      Utf8.encode_cons, List.length_append, Nat.add_assoc]

theorem separator?_of_splits (h : Splits text key value) :
    separator? text = some (Utf8.encode key).length := by
  obtain ⟨rfl, named, first⟩ := h
  rcases key with _ | ⟨c, key⟩
  · exact absurd rfl named
  · rw [List.tail_cons] at first
    rw [separator?, List.cons_append, placed, List.drop_one, List.tail_cons, find?_placed _ first value,
      Utf8.encode_cons, List.length_append, Nat.zero_add]
    rfl

theorem separator?_of_plain (plain : '=' ∉ text.tail) : separator? text = none := by
  rcases text with _ | ⟨c, text⟩
  · rfl
  · rw [List.tail_cons] at plain
    rw [separator?, placed, List.drop_one, List.tail_cons, find?_placed_of_plain _ plain, Option.map_none]

/-- Octets are cut between characters. -/
theorem cut?_encode (before behind : List Char) :
    cut? (Utf8.encode (before ++ behind)) (Utf8.encode before).length =
      some (Utf8.encode before, Utf8.encode behind) := by
  have valid (cs : List Char) : Utf8.isValid (Utf8.encode cs) := Utf8.isValid_iff_exists.mpr ⟨cs, rfl⟩
  rw [cut?, Utf8.encode_append, List.take_left, List.drop_left, List.length_append,
    if_pos ⟨Nat.le_add_right _ _, valid before, valid behind⟩]

/-- The reading by places cuts between characters only, and reads what the split says. -/
theorem readAtPlaces_eq (entry : Octets) : readAtPlaces entry = some (parseEntry entry) := by
  by_cases among : '=' ∈ (Utf8.decode entry).tail
  · obtain ⟨key, value, splits⟩ := exists_splits_iff.mpr among
    have separator : cut? (Utf8.encode ('=' :: value)) 1 = some (Utf8.encode ['='], Utf8.encode value) :=
      cut?_encode ['='] value
    rw [readAtPlaces, separator?_of_splits splits, parseEntry_of_splits splits, splits.whole]
    simp only [cut?_encode, Option.bind_some, separator, Option.map_some]
  · rw [readAtPlaces, separator?_of_plain among, parseEntry_of_plain among]

/-- An entry is read, by the places of its octets, just when its decoded text has a separator after the first
character. The key and the value are the only ones that the text splits into, and every key and value that an
entry can be made of are read from it. -/
theorem entry_is_its_split (entry : Octets) :
    readAtPlaces entry = some (parseEntry entry) ∧
    ((parseEntry entry).isSome ↔ '=' ∈ (Utf8.decode entry).tail) ∧
    (∀ v, parseEntry entry = some v → ∃ key value,
      v = ⟨Utf8.encode key, Utf8.encode value⟩ ∧ Splits (Utf8.decode entry) key value ∧
        ∀ key' value', Splits (Utf8.decode entry) key' value' → key' = key ∧ value' = value) ∧
    ∀ key value : List Char, key ≠ [] → '=' ∉ key.tail →
      parseEntry (Utf8.encode (key ++ '=' :: value)) = some ⟨Utf8.encode key, Utf8.encode value⟩ := by
  refine ⟨readAtPlaces_eq entry, isSome_parseEntry, fun v found => ?_, fun key value named first => ?_⟩
  · have among : '=' ∈ (Utf8.decode entry).tail := isSome_parseEntry.mp (by rw [found]; rfl)
    obtain ⟨key, value, splits⟩ := exists_splits_iff.mpr among
    rw [parseEntry_of_splits splits, Option.some.injEq] at found
    exact ⟨key, value, found.symm, splits, fun _ _ => splits.unique⟩
  · exact parseEntry_of_splits ⟨Utf8.decode_encode _, named, first⟩

/-- The first character cannot be decoded and the value begins with a separator; a key begins with one and has
a character of two octets. -/
theorem entry_is_its_split_undecodable :
    parseEntry [0xFF, 0x3D, 0x3D] = some ⟨Utf8.encode [Utf8.replacement], [0x3D]⟩ ∧
    '=' ∈ (Utf8.decode [0xFF, 0x3D, 0x3D]).tail ∧
    parseEntry (Utf8.encode ("=é".toList ++ '=' :: "C:=".toList)) =
      some ⟨Utf8.encode "=é".toList, Utf8.encode "C:=".toList⟩ := by
  have read : parseEntry [0xFF, 0x3D, 0x3D] = some ⟨Utf8.encode [Utf8.replacement], [0x3D]⟩ := by decide
  obtain ⟨-, some, -, every⟩ := entry_is_its_split [0xFF, 0x3D, 0x3D]
  exact ⟨read, some.mp (by rw [read]; rfl), every _ _ (by decide) (by decide)⟩

end PseudoTerminal.Environment
