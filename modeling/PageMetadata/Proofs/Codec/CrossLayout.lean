import PageMetadata.Proofs.Codec.Value

/-! # Buffers of another layout

A buffer is accepted exactly if the length that it declares is that of the bytes behind the header,
and its reserved word is zero. The layouts differ in where they look for these: where one of them has
the kind, or the beginning of the payload, another one has the length. A buffer that was encoded in
one layout is accepted in another one only if the number found there happens to be the right one.
-/

namespace PageMetadata

open HeaderLayout

namespace StructuredMetadata

/-- A buffer is accepted for its length field and its reserved word alone. -/
theorem exists_decode_iff (layout : HeaderLayout) (bytes : List UInt8) :
    (∃ metadata, decode bytes layout = .ok metadata) ↔
      layout.headerLength + layout.declaredLength bytes = bytes.length ∧
        layout.reservedWord bytes = 0 := by
  have counted : (UInt32.ofNat (layout.declaredLength bytes)).toNat =
      layout.declaredLength bytes :=
    UInt32.toNat_ofNat_of_lt' (layout.declaredLength_lt bytes)
  have behind : (bytes.drop layout.headerLength).length = bytes.length - layout.headerLength :=
    List.length_drop
  constructor
  · rintro ⟨metadata, decoded⟩
    obtain ⟨length, read, same⟩ := (decode_eq_ok_iff metadata layout bytes).mp decoded
    rw [readHeader_eq] at read
    split at read
    · contradiction
    next long =>
    split at read
    case isFalse => contradiction
    next zero =>
    obtain ⟨header, payload⟩ := Prod.mk.inj (Except.ok.inj read)
    obtain ⟨-, -, rfl⟩ := StructuredHeader.mk.inj header
    rw [← payload, counted, behind] at same
    exact ⟨by omega, zero⟩
  · rintro ⟨same, zero⟩
    have long : ¬ bytes.length < layout.headerLength := by omega
    have read := layout.readHeader_eq bytes
    rw [if_neg long, if_pos zero] at read
    refine ⟨⟨_, _, bytes.drop layout.headerLength⟩,
      (decode_eq_ok_iff _ layout bytes).mpr ⟨_, read, ?_⟩⟩
    rw [counted, behind]
    omega

/-- Why the encoding of a value in one layout is accepted in a different one: the number that stands
in the other's length field happens to be the length of what the other takes for payload. -/
def Coincides (metadata : StructuredMetadata) : HeaderLayout → HeaderLayout → Prop
  | .wide, .compact => metadata.kind.toNat = metadata.payload.length + 4
  | .wideReserved, .compact => metadata.kind.toNat = metadata.payload.length + 8
  | .compact, .wide =>
    4 ≤ metadata.payload.length ∧
      Bytes.toNat (metadata.payload.take 4) = metadata.payload.length - 4
  | .compact, .wideReserved =>
    8 ≤ metadata.payload.length ∧
      Bytes.toNat (metadata.payload.take 4) = metadata.payload.length - 8 ∧
      (metadata.payload.drop 4).take 4 = [0, 0, 0, 0]
  | _, _ => False

end StructuredMetadata

/-- Four bytes are read as the word that was written. -/
private theorem toNat_ofNat_word (word : UInt32) :
    Bytes.toNat (Bytes.ofNat 4 word.toNat) = word.toNat := by
  rw [Bytes.toNat_ofNat]
  exact Nat.mod_eq_of_lt word.toNat_lt

/-- The second word of a payload is 0 exactly if its bytes are. -/
private theorem toNat_second_word_eq_zero_iff {payload : List UInt8}
    (long : 8 ≤ payload.length) :
    Bytes.toNat ((payload.drop 4).take 4) = 0 ↔ (payload.drop 4).take 4 = [0, 0, 0, 0] := by
  have four : ((payload.drop 4).take 4).length = 4 := by
    rw [List.length_take, List.length_drop]
    omega
  rw [Bytes.toNat_eq_zero_iff, four]
  rfl

namespace HeaderLayout

/-! What each layout takes for the length and for the reserved word of a buffer that another layout
has written. -/

variable {layout : HeaderLayout} (header : StructuredHeader) (payload : List UInt8)

theorem headerLength_compact : compact.headerLength = 8 := rfl

theorem headerLength_wide : wide.headerLength = 12 := rfl

theorem headerLength_wideReserved : wideReserved.headerLength = 16 := rfl

theorem reservedWord_compact (bytes : List UInt8) : compact.reservedWord bytes = 0 := rfl

theorem reservedWord_wide (bytes : List UInt8) : wide.reservedWord bytes = 0 := rfl

/-- Where the compact layout has the length, the wide ones have the kind. -/
theorem declaredLength_compact_of_ne (wider : layout ≠ compact) :
    compact.declaredLength (layout.headerBytes header ++ payload) = header.kind.toNat := by
  cases layout with
  | compact => exact absurd rfl wider
  | wide => exact toNat_ofNat_word header.kind
  | wideReserved => exact toNat_ofNat_word header.kind

/-- Where the wide layouts have the length, the compact one has its payload. -/
theorem declaredLength_of_compact (wider : layout ≠ compact) :
    layout.declaredLength (compact.headerBytes header ++ payload) =
      Bytes.toNat (payload.take 4) := by
  cases layout with
  | compact => exact absurd rfl wider
  | wide => rfl
  | wideReserved => rfl

theorem reservedWord_wideReserved_compact :
    wideReserved.reservedWord (compact.headerBytes header ++ payload) =
      Bytes.toNat ((payload.drop 4).take 4) := rfl

/-- The wide layouts have the length in the same place. -/
theorem declaredLength_wide_eq (bytes : List UInt8) :
    wide.declaredLength bytes = wideReserved.declaredLength bytes := rfl

end HeaderLayout

namespace StructuredMetadata

variable {metadata : StructuredMetadata} {layout other : HeaderLayout} {bytes : List UInt8}

/-- The wide layouts have the length in the same place, but headers of different lengths in front of
the payload. -/
theorem not_decode_wide_wideReserved (first second : StructuredMetadata) :
    ¬ (decode bytes .wide = .ok first ∧ decode bytes .wideReserved = .ok second) := by
  rintro ⟨short, long⟩
  obtain ⟨twelve, -⟩ := (exists_decode_iff .wide bytes).mp ⟨first, short⟩
  obtain ⟨sixteen, -⟩ := (exists_decode_iff .wideReserved bytes).mp ⟨second, long⟩
  rw [headerLength_wide, declaredLength_wide_eq] at twelve
  rw [headerLength_wideReserved] at sixteen
  omega

/-- The encoding of a value in one layout is accepted in another one only by coincidence. -/
theorem exists_decode_of_encode_iff (encoded : metadata.encode layout = .ok bytes)
    (distinct : layout ≠ other) :
    (∃ read, decode bytes other = .ok read) ↔ metadata.Coincides layout other := by
  have own := (decode_eq_ok_iff_encode metadata layout bytes).mpr encoded
  obtain ⟨-, _, written, rfl⟩ := (metadata.encode_eq_ok_iff layout bytes).mp encoded
  obtain ⟨-, rfl⟩ := (layout.writeHeader_eq_ok_iff _ _).mp written
  cases layout <;> cases other
  case compact.compact | wide.wide | wideReserved.wideReserved => exact absurd rfl distinct
  -- The bytes decode in their own layout, so the other wide one is excluded whatever they are.
  case wide.wideReserved =>
    refine iff_of_false ?_ id
    rintro ⟨read, decoded⟩
    exact not_decode_wide_wideReserved metadata read ⟨own, decoded⟩
  case wideReserved.wide =>
    refine iff_of_false ?_ id
    rintro ⟨read, decoded⟩
    exact not_decode_wide_wideReserved read metadata ⟨decoded, own⟩
  -- Otherwise the length field of the other layout is compared with the length of the whole.
  all_goals rw [exists_decode_iff, List.length_append, length_headerBytes]
  case wide.compact =>
    simp only [declaredLength_compact_of_ne _ _ distinct, reservedWord_compact,
      headerLength_compact, headerLength_wide, Coincides, and_true]
    omega
  case wideReserved.compact =>
    simp only [declaredLength_compact_of_ne _ _ distinct, reservedWord_compact,
      headerLength_compact, headerLength_wideReserved, Coincides, and_true]
    omega
  case compact.wide =>
    simp only [declaredLength_of_compact _ _ distinct.symm, reservedWord_wide,
      headerLength_compact, headerLength_wide, Coincides, and_true]
    omega
  case compact.wideReserved =>
    simp only [declaredLength_of_compact _ _ distinct.symm, reservedWord_wideReserved_compact,
      headerLength_compact, headerLength_wideReserved, Coincides]
    constructor
    · rintro ⟨same, zero⟩
      have long : 8 ≤ metadata.payload.length := by omega
      exact ⟨long, by omega, (toNat_second_word_eq_zero_iff long).mp zero⟩
    · rintro ⟨long, same, zeros⟩
      exact ⟨by omega, (toNat_second_word_eq_zero_iff long).mpr zeros⟩

/-- A value that was encoded in one layout is decoded in a different one only if the number in the
other's length field happens to be right: the kind, or the beginning of the payload, has to be it,
and the wide layouts never have the right one for each other. No buffer is accepted in both of
these. -/
theorem accepted_in_other_layout_iff :
    (∀ (metadata : StructuredMetadata) layout other bytes,
      metadata.encode layout = .ok bytes → layout ≠ other →
        ((∃ read, decode bytes other = .ok read) ↔ metadata.Coincides layout other)) ∧
    (∀ bytes first second,
      ¬ (decode bytes .wide = .ok first ∧ decode bytes .wideReserved = .ok second)) :=
  ⟨fun _ _ _ _ encoded distinct => exists_decode_of_encode_iff encoded distinct,
    fun _ first second => not_decode_wide_wideReserved first second⟩

/-- A payload of ten bytes begins with the number two: behind a compact header, the reserved layout
takes it for the header's end. -/
theorem accepted_in_other_layout_by_payload :
    let metadata : StructuredMetadata := ⟨1, 2, [2, 0, 0, 0, 0, 0, 0, 0, 7, 8]⟩
    ∃ bytes, metadata.encode .compact = .ok bytes ∧
      (∃ read, decode bytes .wideReserved = .ok read) ∧
      ¬ ∃ read, decode bytes .wide = .ok read := by
  intro metadata
  obtain ⟨across, -⟩ := accepted_in_other_layout_iff
  have encoded : metadata.encode .compact =
      .ok [1, 0, 2, 0, 10, 0, 0, 0, 2, 0, 0, 0, 0, 0, 0, 0, 7, 8] := by decide
  refine ⟨_, encoded, (across _ _ .wideReserved _ encoded (by decide)).mpr ?_, ?_⟩
  · exact ⟨by decide, by decide, by decide⟩
  · rw [across _ _ .wide _ encoded (by decide)]
    rintro ⟨-, wrong⟩
    exact absurd wrong (by decide)

end StructuredMetadata

end PageMetadata
