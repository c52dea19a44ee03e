set_option autoImplicit false

-- UTF-8 as a property of a list of bytes, and what concatenation does to it.
namespace Utf8

def encode (text : List Char) : List UInt8 := text.flatMap String.utf8EncodeChar

def Valid (bytes : List UInt8) : Prop := ByteArray.IsValidUTF8 bytes.toByteArray

instance (bytes : List UInt8) : Decidable (Valid bytes) :=
  inferInstanceAs (Decidable (ByteArray.IsValidUTF8 bytes.toByteArray))

theorem valid_encode (text : List Char) : Valid (encode text) := ByteArray.isValidUTF8_utf8Encode

theorem valid_decoded (bytes : List UInt8) (valid : Valid bytes) : ∃ text, bytes = encode text := by
  obtain ⟨text, same⟩ := valid
  exact ⟨text, List.toByteArray_inj.mp same⟩

theorem valid_append (first second : List UInt8) (firstValid : Valid first) (secondValid : Valid second) :
    Valid (first ++ second) := by
  unfold Valid at *
  rw [List.toByteArray_append]
  exact firstValid.append secondValid

theorem valid_after (first second : List UInt8) (firstValid : Valid first) :
    Valid (first ++ second) ↔ Valid second := by
  refine ⟨?_, valid_append first second firstValid⟩
  obtain ⟨text, rfl⟩ := valid_decoded first firstValid
  induction text with
  | nil => exact fun valid => valid
  | cons character rest ih =>
      intro valid
      apply ih (valid_encode rest)
      have split : (encode (character :: rest) ++ second).toByteArray =
          [character].utf8Encode ++ (encode rest ++ second).toByteArray := by
        rw [List.utf8Encode_singleton, ← List.toByteArray_append]
        simp only [encode, List.flatMap_cons, List.append_assoc]
      unfold Valid at valid ⊢
      rw [split] at valid
      exact ByteArray.isValidUTF8_utf8Encode_singleton_append_iff.mp valid

theorem continuation_high (code : Nat) : ¬ UInt8.ofNat (code % 64 + 128) < 0x80 := by
  intro small
  have value : (UInt8.ofNat (code % 64 + 128)).toNat < 128 := UInt8.lt_iff_toNat_lt.mp small
  rw [UInt8.toNat_ofNat'] at value
  omega

theorem encoded_ends (character : Char) (first : List UInt8) (last : UInt8) (ascii : last < 0x80)
    (ends : String.utf8EncodeChar character = first ++ [last]) : first = [] := by
  have high (before : List UInt8) (code : Nat) (same : before ++ [UInt8.ofNat (code % 64 + 128)] = first ++ [last]) :
      False := by
    have equal : UInt8.ofNat (code % 64 + 128) = last := (List.append_singleton_inj.mp same).2
    exact continuation_high code (equal ▸ ascii)
  unfold String.utf8EncodeChar at ends
  simp only at ends
  split at ends
  · exact (List.append_singleton_inj.mp (show [] ++ [_] = first ++ [last] from ends)).1.symm
  · split at ends
    · exact (high [_] _ ends).elim
    · split at ends
      · exact (high [_, _] _ ends).elim
      · exact (high [_, _, _] _ ends).elim

theorem valid_before (bytes : List UInt8) (last : UInt8) (ascii : last < 0x80) (closing : Valid [last]) :
    Valid (bytes ++ [last]) ↔ Valid bytes := by
  refine ⟨?_, fun valid => valid_append bytes [last] valid closing⟩
  intro valid
  obtain ⟨text, same⟩ := valid_decoded _ valid
  rcases List.eq_nil_or_concat text with rfl | ⟨rest, character, rfl⟩
  · simp [encode] at same
  · rcases List.eq_nil_or_concat (String.utf8EncodeChar character) with none | ⟨front, final, ends⟩
    · exact absurd none String.utf8EncodeChar_ne_nil
    · rw [List.concat_eq_append] at ends
      have split : bytes ++ [last] = (encode rest ++ front) ++ [final] := by
        rw [same, List.concat_eq_append, List.append_assoc, ← ends]
        simp [encode]
      obtain ⟨before, rfl⟩ := List.append_singleton_inj.mp split
      rw [before, encoded_ends character front last ascii ends, List.append_nil]
      exact valid_encode rest

end Utf8
