import PseudoTerminal.Proofs.Environment.Entries
import PseudoTerminal.Proofs.Options.Grammar

/-! Variables on the command line and in an environment. Both are written as a key, an equals sign and a value,
but they are read in two ways: an option ends its key at the first equals sign and wants it to be there, an
entry gives the first character to the key whatever it is. So they part only where the text begins with an equals
sign, which no option takes; all other texts mean the same in both places. -/

namespace PseudoTerminal.Options

open Environment (Splits parseEntry)

variable {o o' : Options} {text arg : String} {rest : List String} {key value : String}

/-- An option takes a text as an entry is split, unless it begins with an equals sign. -/
theorem isAssignment_iff_splits :
    IsAssignment text (key, value) ↔
      text.toList.head? ≠ some '=' ∧ Splits text.toList key.toList value.toList := by
  have whole : text = key ++ "=" ++ value ↔ text.toList = key.toList ++ '=' :: value.toList := by
    rw [← String.toList_inj]
    simp
  have named : key ≠ "" ↔ key.toList ≠ [] := by simp
  rw [IsAssignment, whole, named]
  rcases key.toList with _ | ⟨c, cs⟩
  · exact iff_of_false (fun ⟨_, nonempty, _⟩ => nonempty rfl) fun ⟨_, splits⟩ => splits.named rfl
  · constructor
    · rintro ⟨shape, nonempty, plain⟩
      rw [List.mem_cons, not_or] at plain
      refine ⟨?_, shape, nonempty, plain.2⟩
      rw [shape]
      simpa using Ne.symm plain.1
    · rintro ⟨front, shape, nonempty, first⟩
      rw [shape] at front
      refine ⟨shape, nonempty, ?_⟩
      rw [List.mem_cons, not_or]
      exact ⟨by simpa [eq_comm] using front, first⟩

/-- What the entry of a text is read as. -/
theorem parseEntry_ofString (splits : Splits text.toList key.toList value.toList) :
    parseEntry (Octets.ofString text) = some ⟨Octets.ofString key, Octets.ofString value⟩ := by
  have decoded : Splits (Utf8.decode (Octets.ofString text)) key.toList value.toList := by
    rwa [Utf8.decode_ofString]
  rw [Environment.parseEntry_of_splits decoded, Utf8.ofString_eq, Utf8.ofString_eq]

/-- An option adds a variable, or cannot be set at all. -/
theorem set_entry_eq_ok_iff : o.set .entry text = .ok o' ↔
    ∃ entry, IsAssignment text entry ∧ o' = { o with vars := o.vars ++ [entry] } := by
  simp only [set, ← assignment?_eq_some_iff]
  cases assignment? text <;> simp [eq_comm]

theorem exists_set_entry_iff : (∃ o', o.set .entry text = .ok o') ↔
    text.toList.head? ≠ some '=' ∧ (parseEntry (Octets.ofString text)).isSome := by
  rw [exists_set_iff, Setting.Takes, Environment.isSome_parseEntry, Utf8.decode_ofString,
    ← Environment.exists_splits_iff, Prod.exists]
  simp only [isAssignment_iff_splits, exists_and_left]
  refine and_congr_right fun _ => ?_
  constructor
  · rintro ⟨key, value, splits⟩
    exact ⟨_, _, splits⟩
  · rintro ⟨key, value, splits⟩
    exact ⟨String.ofList key, String.ofList value, by simpa using splits⟩

theorem parseFrom_entry (spelled : arg ∈ Setting.entry.spellings) :
    parseFrom o (arg :: text :: rest) =
      match o.set .entry text with
      | .ok o' => parseFrom o' rest
      | .error _ => .refuse (.invalidVariable text) := by
  rw [parseFrom, role?_eq_setting_iff.mpr spelled]
  simp only [set]
  cases assignment? text <;> rfl

/-- The option for a variable takes just the texts that do not begin with an equals sign and that are read as an
entry, and the variable it sets is the one of the entry. Any other text is refused. -/
theorem readers_agree (o : Options) (text : String) :
    ((∃ o', o.set .entry text = .ok o') ↔
      text.toList.head? ≠ some '=' ∧ (parseEntry (Octets.ofString text)).isSome) ∧
    (∀ o', o.set .entry text = .ok o' → ∃ key value : String,
      o' = { o with vars := o.vars ++ [(key, value)] } ∧
        parseEntry (Octets.ofString text) = some ⟨Octets.ofString key, Octets.ofString value⟩) ∧
    ∀ arg ∈ Setting.entry.spellings, ∀ rest, parseFrom o (arg :: text :: rest) =
      match o.set .entry text with
      | .ok o' => parseFrom o' rest
      | .error _ => .refuse (.invalidVariable text) := by
  refine ⟨exists_set_entry_iff, fun o' taken => ?_, fun arg spelled rest => parseFrom_entry spelled⟩
  obtain ⟨⟨key, value⟩, reads, rfl⟩ := set_entry_eq_ok_iff.mp taken
  exact ⟨key, value, rfl, parseEntry_ofString (isAssignment_iff_splits.mp reads).2⟩

/-- A key of one character that takes two octets, and two equals signs behind it. -/
theorem readers_agree_repeated : "--env" ∈ Setting.entry.spellings ∧
    parseFrom {} ["--env", "é==B"] = parseFrom { vars := [("é", "=B")] } [] ∧
    parseEntry (Octets.ofString "é==B") = some ⟨Octets.ofString "é", Octets.ofString "=B"⟩ ∧
    ¬ ∃ o', ({} : Options).set .entry "=é=B" = .ok o' := by
  have spelled : "--env" ∈ Setting.entry.spellings := by decide
  have taken : ({} : Options).set .entry "é==B" = .ok { vars := [("é", "=B")] } := by decide
  obtain ⟨-, same, parsed⟩ := readers_agree {} "é==B"
  obtain ⟨key, value, set, read⟩ := same _ taken
  obtain ⟨rfl, rfl⟩ : "é" = key ∧ "=B" = value := by simpa using set
  refine ⟨spelled, by rw [parsed "--env" spelled, taken], read, fun taken => ?_⟩
  exact ((readers_agree {} "=é=B").1.mp taken).1 (by decide)

end PseudoTerminal.Options
