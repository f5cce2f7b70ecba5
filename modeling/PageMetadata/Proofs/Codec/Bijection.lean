import PageMetadata.Proofs.Codec.Value

/-! # Encodings as bijections

Both encodings are exact: what a decoder accepts is what the encoder produces for the value that is
decoded, byte for byte. Encoding fails only for a value that has no room, and the first such field
is reported, the payload length before the version and the version before the kind.
-/

namespace PageMetadata

namespace HeaderLayout

/-- The version is reported before the kind. -/
theorem writeHeader_eq_error_iff {layout : HeaderLayout} {header : StructuredHeader}
    {error : CodecError} :
    layout.writeHeader header = .error error ↔
      (layout.maxField < header.version.toNat ∧
        error = .fieldOverflow .version header.version.toNat layout) ∨
      (header.version.toNat ≤ layout.maxField ∧ layout.maxField < header.kind.toNat ∧
        error = .fieldOverflow .kind header.kind.toNat layout) := by
  simp only [writeHeader, checkField, bind, Except.bind, pure, Except.pure]
  by_cases version : header.version.toNat ≤ layout.maxField
  · by_cases kind : header.kind.toNat ≤ layout.maxField
    · simp [version, kind, Nat.not_lt.mpr version, Nat.not_lt.mpr kind]
    · simp [version, kind, Nat.not_lt.mpr version, Nat.lt_of_not_le kind, eq_comm]
  · simp [version, Nat.lt_of_not_le version, eq_comm]

/-- The reserved bytes stand behind the fields of the header. -/
theorem reserved_headerBytes (layout : HeaderLayout) (header : StructuredHeader)
    (rest : List UInt8) :
    ((layout.headerBytes header ++ rest).drop (2 * layout.fieldWidth + lengthWidth)).take
        layout.reservedWidth =
      List.replicate layout.reservedWidth 0 := by
  have fields : (Bytes.ofNat layout.fieldWidth header.version.toNat
      ++ Bytes.ofNat layout.fieldWidth header.kind.toNat
      ++ Bytes.ofNat lengthWidth header.length.toNat).length =
        2 * layout.fieldWidth + lengthWidth := by
    simp only [List.length_append, Bytes.length_ofNat]
    omega
  rw [headerBytes, List.append_assoc, List.drop_left' fields,
    List.take_left' (List.length_replicate ..)]

end HeaderLayout

theorem InlineMetadata.encode_eq_error_iff {metadata : InlineMetadata} {error : CodecError} :
    metadata.encode = .error error ↔
      2 ^ 63 ≤ metadata.value.toNat ∧ error = .valueOverflow metadata.value := by
  rw [encode]
  split
  · next fits =>
    rw [le_valueMask_iff] at fits
    simp only [reduceCtorEq, false_iff, not_and]
    omega
  · next long =>
    rw [le_valueMask_iff] at long
    simp only [Except.error.injEq, eq_comm (a := error), iff_and_self]
    omega

namespace StructuredMetadata

/-- The payload length is reported before the version, and the version before the kind. -/
theorem encode_eq_error_iff {metadata : StructuredMetadata} {layout : HeaderLayout}
    {error : CodecError} :
    metadata.encode layout = .error error ↔
      (UInt32.size ≤ metadata.payload.length ∧
        error = .fieldOverflow .length metadata.payload.length layout) ∨
      (metadata.payload.length < UInt32.size ∧ layout.maxField < metadata.version.toNat ∧
        error = .fieldOverflow .version metadata.version.toNat layout) ∨
      (metadata.payload.length < UInt32.size ∧ metadata.version.toNat ≤ layout.maxField ∧
        layout.maxField < metadata.kind.toNat ∧
        error = .fieldOverflow .kind metadata.kind.toNat layout) := by
  rw [encode]
  split
  · next short =>
    have failed : (layout.writeHeader
        ⟨metadata.version, metadata.kind, .ofNat metadata.payload.length⟩ >>=
          fun header => pure (header ++ metadata.payload)) = .error error ↔
        layout.writeHeader ⟨metadata.version, metadata.kind, .ofNat metadata.payload.length⟩ =
          .error error := by
      cases layout.writeHeader ⟨metadata.version, metadata.kind, .ofNat metadata.payload.length⟩ <;>
        simp [bind, Except.bind, pure, Except.pure]
    rw [failed, HeaderLayout.writeHeader_eq_error_iff]
    simp only [short, Nat.not_le.mpr short, false_and, false_or, true_and]
  · next long =>
    simp only [long, false_and, or_false, Nat.le_of_not_lt long, true_and, Except.error.injEq,
      eq_comm]

theorem decode_injective {first second : List UInt8} {layout : HeaderLayout}
    {metadata : StructuredMetadata} (left : decode first layout = .ok metadata)
    (right : decode second layout = .ok metadata) : first = second := by
  rw [decode_eq_ok_iff_encode] at left right
  exact Except.ok.inj (left.symm.trans right)

/-- Where the layout has a reserved word, it is zero in every buffer that decodes. -/
theorem reserved_of_decode {bytes : List UInt8} {layout : HeaderLayout}
    {metadata : StructuredMetadata} (decoded : decode bytes layout = .ok metadata) :
    (bytes.drop (2 * layout.fieldWidth + HeaderLayout.lengthWidth)).take layout.reservedWidth =
      List.replicate layout.reservedWidth 0 := by
  rw [decode_eq_ok_iff_encode, encode_eq_ok_iff] at decoded
  obtain ⟨_, header, written, rfl⟩ := decoded
  obtain ⟨_, rfl⟩ := (layout.writeHeader_eq_ok_iff _ _).mp written
  exact layout.reserved_headerBytes _ _

end StructuredMetadata

/-- In each layout the structured encoding, and the inline encoding, pair the values that have room
with exactly the codes that decode. Everything else is refused, with the first field that has no
room. -/
theorem encodings_bijective (layout : HeaderLayout) :
    (∀ (metadata : StructuredMetadata) bytes,
      StructuredMetadata.decode bytes layout = .ok metadata ↔
        metadata.encode layout = .ok bytes) ∧
    (∀ (metadata : StructuredMetadata) bytes, metadata.encode layout = .ok bytes →
      bytes.length = metadata.encodedLength layout) ∧
    (∀ (metadata : StructuredMetadata) error, metadata.encode layout = .error error ↔
      (2 ^ 32 - 1 < metadata.payload.length ∧
        error = .fieldOverflow .length metadata.payload.length layout) ∨
      (metadata.payload.length ≤ 2 ^ 32 - 1 ∧ layout.maxField < metadata.version.toNat ∧
        error = .fieldOverflow .version metadata.version.toNat layout) ∨
      (metadata.payload.length ≤ 2 ^ 32 - 1 ∧ metadata.version.toNat ≤ layout.maxField ∧
        layout.maxField < metadata.kind.toNat ∧
        error = .fieldOverflow .kind metadata.kind.toNat layout)) ∧
    layout.maxField = (if layout = .compact then 65535 else 2 ^ 32 - 1) ∧
    (∀ first second metadata, StructuredMetadata.decode first layout = .ok metadata →
      StructuredMetadata.decode second layout = .ok metadata → first = second) ∧
    (∀ bytes metadata, StructuredMetadata.decode bytes layout = .ok metadata →
      layout = .wideReserved → (bytes.drop 12).take 4 = [0, 0, 0, 0]) ∧
    (∀ (metadata : InlineMetadata) word,
      metadata.encode = .ok word ↔ InlineMetadata.decode word = metadata) ∧
    (∀ (metadata : InlineMetadata) error, metadata.encode = .error error ↔
      2 ^ 63 ≤ metadata.value.toNat ∧ error = .valueOverflow metadata.value) ∧
    (∀ first second, InlineMetadata.decode first = InlineMetadata.decode second →
      first = second) := by
  refine ⟨?_, ?_, ?_, ?_, ?_, ?_, ?_, ?_, ?_⟩
  · exact fun metadata bytes => metadata.decode_eq_ok_iff_encode layout bytes
  · exact fun metadata bytes encoded => StructuredMetadata.length_of_encode encoded
  · intro metadata error
    rw [StructuredMetadata.encode_eq_error_iff]
    have size : UInt32.size = 2 ^ 32 - 1 + 1 := rfl
    simp only [size, Nat.succ_le_iff, Nat.lt_succ_iff]
  · cases layout <;> rfl
  · exact fun first second metadata => StructuredMetadata.decode_injective
  · rintro bytes metadata decoded rfl
    exact StructuredMetadata.reserved_of_decode decoded
  · exact fun metadata word => metadata.encode_eq_ok_iff word
  · exact fun metadata error => InlineMetadata.encode_eq_error_iff
  · exact fun first second => InlineMetadata.decode_injective

/-- A buffer with a reserved word, the only one that decodes to its value, and a value whose version
and kind both have no room. -/
theorem encodings_bijective_wideReserved_compact :
    let metadata : StructuredMetadata := ⟨1, 2, [7, 8]⟩
    let bytes : List UInt8 := [1, 0, 0, 0, 2, 0, 0, 0, 2, 0, 0, 0, 0, 0, 0, 0, 7, 8]
    StructuredMetadata.decode bytes .wideReserved = .ok metadata ∧
      bytes.length = metadata.encodedLength .wideReserved ∧
      (bytes.drop 12).take 4 = [0, 0, 0, 0] ∧
      (∀ other, StructuredMetadata.decode other .wideReserved = .ok metadata → other = bytes) ∧
      StructuredMetadata.encode ⟨65536, 65537, [7, 8]⟩ .compact =
        .error (.fieldOverflow .version 65536 .compact) := by
  intro metadata bytes
  have decoded : StructuredMetadata.decode bytes .wideReserved = .ok metadata := by
    dsimp +zetaDelta only
    decide +kernel
  obtain ⟨exact, sized, _, _, unique, reserved, _⟩ := encodings_bijective .wideReserved
  obtain ⟨_, _, refused, _⟩ := encodings_bijective .compact
  refine ⟨decoded, sized _ _ ((exact _ _).mp decoded), reserved _ _ decoded rfl,
    fun other same => unique _ _ _ same decoded, ?_⟩
  exact (refused _ _).mpr (.inr (.inl ⟨by decide, by decide, rfl⟩))

end PageMetadata
