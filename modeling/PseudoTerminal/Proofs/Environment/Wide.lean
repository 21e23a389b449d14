import PseudoTerminal.Environment.Block
import PseudoTerminal.Proofs.Text.Malformed
import PseudoTerminal.Proofs.Text.Surrogates

/-! Octets and 16-bit units. Going to units and back reads octets as text, with a replacement for every
malformed piece; going to octets and back puts a replacement in the place of every lone surrogate. So the two
undo each other on valid octets and well-formed units, and only there. Neither adds or removes a zero, or lets
what stands before a zero change what stands behind it. -/

namespace PseudoTerminal.Environment

theorem toWide_ofWide (units : List UInt16) : toWide (ofWide units) = Utf16.mended units := by
  rw [toWide, ofWide, Utf8.decode_encode, Utf16.encode_decode_eq_mended]

theorem ofWide_toWide (s : Octets) : ofWide (toWide s) = Utf8.encode (Utf8.decode s) := by
  rw [toWide, ofWide, Utf16.decode_encode]

/-- What comes back is the one text that the octets are read as. -/
theorem reads_iff_ofWide_toWide {s : Octets} {cs : List Char} :
    Utf8.Reads s cs ↔ ofWide (toWide s) = Utf8.encode cs := by
  rw [Utf8.reads_iff, ofWide_toWide]
  refine ⟨congrArg Utf8.encode, fun same => ?_⟩
  rw [← Utf8.decode_encode (Utf8.decode s), same, Utf8.decode_encode]

theorem ofWide_toWide_eq_iff {s : Octets} : ofWide (toWide s) = s ↔ s.toByteArray.IsValidUTF8 := by
  rw [ofWide_toWide, ← Utf8.isValid_iff, Utf8.isValid, beq_iff_eq]

theorem toWide_ofWide_eq_iff {units : List UInt16} :
    toWide (ofWide units) = units ↔ Utf16.WellFormed units := by
  rw [toWide, ofWide, Utf8.decode_encode, Utf16.wellFormed_iff]

/-! ### Zeros -/

theorem count_zero_toWide (s : Octets) : (toWide s).count 0 = s.count 0 := by
  rw [toWide, Utf16.count_zero_encode, Utf8.count_zero_decode]

theorem count_zero_ofWide (units : List UInt16) : (ofWide units).count 0 = units.count 0 := by
  rw [ofWide, Utf8.count_zero_encode, Utf16.count_zero_decode]

theorem toWide_append_zero (s t : Octets) : toWide (s ++ 0 :: t) = toWide s ++ 0 :: toWide t := by
  rw [toWide, Utf8.decode_append_zero, Utf16.encode_append, Utf16.encode_cons]
  rfl

theorem ofWide_append_zero (units more : List UInt16) :
    ofWide (units ++ 0 :: more) = ofWide units ++ 0 :: ofWide more := by
  rw [ofWide, Utf16.decode_append_zero, Utf8.encode_append, Utf8.encode_cons]
  rfl

/-- Octets come back from their units as the text that they are read as, and units from their octets with every
lone surrogate replaced. Just valid octets and well-formed units come back as they were, and nothing else is
ever written. Both ways keep the zeros, and what stands between two of them apart. -/
theorem wide_conversions (s t : Octets) (units more : List UInt16) :
    (∀ cs, Utf8.Reads s cs ↔ ofWide (toWide s) = Utf8.encode cs) ∧
    toWide (ofWide units) = Utf16.mended units ∧
    (ofWide (toWide s) = s ↔ s.toByteArray.IsValidUTF8) ∧
    (toWide (ofWide units) = units ↔ Utf16.WellFormed units) ∧
    Utf16.WellFormed (toWide s) ∧ (ofWide units).toByteArray.IsValidUTF8 ∧
    (toWide s).count 0 = s.count 0 ∧ (ofWide units).count 0 = units.count 0 ∧
    toWide (s ++ 0 :: t) = toWide s ++ 0 :: toWide t ∧
    ofWide (units ++ 0 :: more) = ofWide units ++ 0 :: ofWide more := by
  have valid : (ofWide units).toByteArray.IsValidUTF8 :=
    Utf8.isValid_iff.mp (Utf8.isValid_iff_exists.mpr ⟨_, rfl⟩)
  exact ⟨fun _ => reads_iff_ofWide_toWide, toWide_ofWide units, ofWide_toWide_eq_iff, toWide_ofWide_eq_iff,
    Utf16.wellFormed_encode _, valid, count_zero_toWide s, count_zero_ofWide units, toWide_append_zero s t,
    ofWide_append_zero units more⟩

/-- A pair, a second half without its first and a first half without its second. -/
example : toWide (ofWide [0xD83D, 0xDE00, 0xDE00, 0xD83D, 0x41]) = [0xD83D, 0xDE00, 0xFFFD, 0xFFFD, 0x41] := by
  decide

end PseudoTerminal.Environment
