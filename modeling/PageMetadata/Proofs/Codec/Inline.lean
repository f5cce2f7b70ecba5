import PageMetadata.Codec.Inline
import Mathlib.Data.Nat.Bitwise

/-! # Inline words and their values

The tag is the quotient of a word by `2 ^ 63` and the value is the remainder. Read this way, the
decoder inverts the encoder on every value that has an encoding, and the encoder restores every word
from what it decodes to.
-/

namespace PageMetadata.InlineMetadata

private theorem toNat_valueMask : valueMask.toNat = 2 ^ 63 - 1 := rfl

theorem le_valueMask_iff (value : UInt64) : value ≤ valueMask ↔ value.toNat < 2 ^ 63 := by
  rw [UInt64.le_iff_toNat_le, toNat_valueMask]
  omega

theorem toNat_value_decode (word : UInt64) : (decode word).value.toNat = word.toNat % 2 ^ 63 := by
  rw [decode, UInt64.toNat_and, toNat_valueMask, Nat.and_two_pow_sub_one_eq_mod]

private theorem toNat_shifted (word : UInt64) :
    (word >>> tagShift).toNat = word.toNat / 2 ^ 63 := by
  rw [UInt64.toNat_shiftRight, Nat.shiftRight_eq_div_pow]
  rfl

/-- The tag is a pointer's exactly from `2 ^ 63` on. -/
theorem tag_decode (word : UInt64) :
    (decode word).tag = .ofBit (decide (2 ^ 63 ≤ word.toNat)) := by
  have bound := word.toNat_lt
  simp only [decode]
  congr 1
  by_cases high : 2 ^ 63 ≤ word.toNat
  · have shifted : word >>> tagShift = 1 := by
      apply UInt64.toNat.inj
      rw [toNat_shifted]
      exact (by omega : word.toNat / 2 ^ 63 = 1)
    rw [shifted, decide_eq_true high]
    decide
  · have shifted : word >>> tagShift = 0 := by
      apply UInt64.toNat.inj
      rw [toNat_shifted]
      exact (by omega : word.toNat / 2 ^ 63 = 0)
    rw [shifted, decide_eq_false high]
    decide

/-- The word of a tag and a value lies `2 ^ 63` higher for a pointer. -/
private theorem toNat_word (tag : InlineTag) {value : UInt64} (fits : value.toNat < 2 ^ 63) :
    ((tag.bit <<< tagShift) ||| value).toNat = tag.bit.toNat * 2 ^ 63 + value.toNat := by
  cases tag with
  | scalar => simp [InlineTag.bit]
  | pointer =>
    have shifted : (InlineTag.pointer.bit <<< tagShift).toNat = 2 ^ 63 := rfl
    have disjoint := Nat.two_pow_add_eq_or_of_lt fits 1
    rw [UInt64.toNat_or, shifted]
    simpa [InlineTag.bit] using disjoint.symm

private theorem decode_word (tag : InlineTag) {value : UInt64} (fits : value.toNat < 2 ^ 63) :
    decode ((tag.bit <<< tagShift) ||| value) = ⟨tag, value⟩ := by
  have packed := toNat_word tag fits
  generalize (tag.bit <<< tagShift) ||| value = word at packed ⊢
  have sameValue : (decode word).value = value := by
    apply UInt64.toNat.inj
    rw [toNat_value_decode, packed]
    omega
  have sameTag : (decode word).tag = tag := by
    rw [tag_decode, packed]
    cases tag with
    | scalar =>
      rw [decide_eq_false (by simp only [InlineTag.bit, UInt64.toNat_zero]; omega)]
      rfl
    | pointer =>
      rw [decide_eq_true (by simp only [InlineTag.bit, UInt64.toNat_one]; omega)]
      rfl
  rw [← sameTag, ← sameValue]

theorem decode_of_encode {metadata : InlineMetadata} {word : UInt64}
    (encoded : metadata.encode = .ok word) : decode word = metadata := by
  obtain ⟨tag, value⟩ := metadata
  simp only [encode] at encoded
  split at encoded
  · next fits =>
    obtain rfl := Except.ok.inj encoded
    exact decode_word tag ((le_valueMask_iff value).mp fits)
  · contradiction

theorem encode_decode (word : UInt64) : (decode word).encode = .ok word := by
  have bound := word.toNat_lt
  have value := toNat_value_decode word
  have fits : (decode word).value.toNat < 2 ^ 63 := by omega
  rw [encode, if_pos ((le_valueMask_iff _).mpr fits)]
  congr 1
  apply UInt64.toNat.inj
  rw [toNat_word _ fits, value, tag_decode]
  by_cases high : 2 ^ 63 ≤ word.toNat
  · rw [decide_eq_true high]
    simp only [InlineTag.ofBit, InlineTag.bit, UInt64.toNat_one]
    omega
  · rw [decide_eq_false high]
    simp only [InlineTag.ofBit, InlineTag.bit, UInt64.toNat_zero]
    omega

/-- Every word is the encoding of exactly one value. -/
theorem encode_eq_ok_iff (metadata : InlineMetadata) (word : UInt64) :
    metadata.encode = .ok word ↔ decode word = metadata :=
  ⟨decode_of_encode, fun decoded => decoded ▸ encode_decode word⟩

theorem decode_injective {first second : UInt64} (same : decode first = decode second) :
    first = second := by
  have encoded := encode_decode first
  rw [same, encode_decode] at encoded
  exact (Except.ok.inj encoded).symm

end PageMetadata.InlineMetadata
