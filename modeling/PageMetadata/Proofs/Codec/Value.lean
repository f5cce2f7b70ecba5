import PageMetadata.Proofs.Codec.Header
import PageMetadata.Proofs.Codec.Inline
import PageMetadata.Proofs.Except
import PageMetadata.Simulator.Basic

/-! # Values and their encodings

In either encoding a value and its encoding determine each other: a decoder accepts exactly what the
encoder produces. The encoding of a value is what the collaborator keeps for its page.
-/

namespace PageMetadata

namespace StructuredMetadata

theorem encode_eq_ok_iff (metadata : StructuredMetadata) (layout : HeaderLayout)
    (bytes : List UInt8) :
    metadata.encode layout = .ok bytes ↔
      metadata.payload.length < UInt32.size ∧
        ∃ header, layout.writeHeader
            ⟨metadata.version, metadata.kind, .ofNat metadata.payload.length⟩ = .ok header ∧
          header ++ metadata.payload = bytes := by
  rw [encode]
  split
  · next short =>
    cases written : layout.writeHeader
      ⟨metadata.version, metadata.kind, .ofNat metadata.payload.length⟩ with
    | error error => simp [bind, Except.bind]
    | ok header => simp [bind, Except.bind, pure, Except.pure, short]
  · next long => simp [long]

theorem decode_eq_ok_iff (metadata : StructuredMetadata) (layout : HeaderLayout)
    (bytes : List UInt8) :
    decode bytes layout = .ok metadata ↔
      ∃ length, layout.readHeader bytes =
          .ok (⟨metadata.version, metadata.kind, length⟩, metadata.payload) ∧
        length.toNat = metadata.payload.length := by
  obtain ⟨version, kind, payload⟩ := metadata
  rw [decode]
  cases read : layout.readHeader bytes with
  | error error => simp [bind, Except.bind]
  | ok parts =>
    obtain ⟨header, rest⟩ := parts
    by_cases same : header.length.toNat = rest.length
    · simp only [bind, Except.bind, same, if_true, pure, Except.pure, Except.ok.injEq, mk.injEq,
        Prod.mk.injEq]
      constructor
      · rintro ⟨rfl, rfl, rfl⟩
        exact ⟨header.length, ⟨rfl, rfl⟩, same⟩
      · rintro ⟨length, ⟨rfl, rfl⟩, _⟩
        exact ⟨rfl, rfl, rfl⟩
    · simp only [bind, Except.bind, same, if_false, throw, throwThe, MonadExceptOf.throw,
        reduceCtorEq, Except.ok.injEq, Prod.mk.injEq, false_iff]
      rintro ⟨length, ⟨rfl, rfl⟩, counted⟩
      exact same counted

/-- The decoder accepts exactly what the encoder produces. -/
theorem decode_eq_ok_iff_encode (metadata : StructuredMetadata) (layout : HeaderLayout)
    (bytes : List UInt8) :
    decode bytes layout = .ok metadata ↔ metadata.encode layout = .ok bytes := by
  rw [decode_eq_ok_iff, encode_eq_ok_iff]
  constructor
  · rintro ⟨length, read, counted⟩
    obtain ⟨header, written, rfl⟩ := (layout.readHeader_eq_ok_iff _ _ _).mp read
    have bound := length.toNat_lt
    have same : UInt32.ofNat metadata.payload.length = length := by
      rw [← counted, UInt32.ofNat_toNat]
    exact ⟨by simpa only [counted, UInt32.size] using bound, header, by rw [same]; exact written,
      rfl⟩
  · rintro ⟨short, header, written, rfl⟩
    exact ⟨_, HeaderLayout.readHeader_append written _, UInt32.toNat_ofNat_of_lt' short⟩

/-- Bytes behind an encoding are counted as payload, which is then longer than its header says. -/
theorem decode_append {metadata : StructuredMetadata} {layout : HeaderLayout}
    {bytes rest : List UInt8} (decoded : decode bytes layout = .ok metadata) (longer : rest ≠ []) :
    decode (bytes ++ rest) layout = .error (.lengthMismatch metadata.payload.length
      (metadata.payload.length + rest.length)) := by
  obtain ⟨length, read, counted⟩ := (decode_eq_ok_iff _ _ _).mp decoded
  obtain ⟨header, written, rfl⟩ := (layout.readHeader_eq_ok_iff _ _ _).mp read
  have further : metadata.payload.length ≠ metadata.payload.length + rest.length := by
    have positive := List.length_pos_iff.mpr longer
    omega
  rw [decode, List.append_assoc, HeaderLayout.readHeader_append written]
  simp only [bind, Except.bind, List.length_append, counted, if_neg further]
  rfl

theorem length_of_encode {metadata : StructuredMetadata} {layout : HeaderLayout}
    {bytes : List UInt8} (encoded : metadata.encode layout = .ok bytes) :
    bytes.length = layout.headerLength + metadata.payload.length := by
  obtain ⟨_, header, written, rfl⟩ := (metadata.encode_eq_ok_iff layout bytes).mp encoded
  obtain ⟨_, rfl⟩ := (layout.writeHeader_eq_ok_iff _ _).mp written
  rw [List.length_append, HeaderLayout.length_headerBytes]

/-- There is a buffer for every encoding. -/
theorem length_of_encode_lt {metadata : StructuredMetadata} {layout : HeaderLayout}
    {bytes : List UInt8} (encoded : metadata.encode layout = .ok bytes) :
    layout.headerLength + metadata.payload.length < lengthLimit := by
  obtain ⟨short, _⟩ := (metadata.encode_eq_ok_iff layout bytes).mp encoded
  have header : layout.headerLength ≤ 16 := by cases layout <;> decide
  simp only [UInt32.size] at short
  simp only [lengthLimit, UInt64.size]
  omega

end StructuredMetadata

/-- What the collaborator keeps for a value. -/
def MetadataValue.encode (value : MetadataValue) (layout : HeaderLayout) :
    Except CodecError Stored :=
  match value with
  | .inline metadata => metadata.encode.map .inline
  | .structured metadata => (metadata.encode layout).map .structured

namespace Stored

def encoding : Stored → Encoding
  | .inline _ => .inline
  | .structured _ => .structured

/-- The value that is kept. -/
def decode (stored : Stored) (layout : HeaderLayout) : Except CodecError MetadataValue :=
  match stored with
  | .inline word => .ok (.inline (.decode word))
  | .structured bytes => (StructuredMetadata.decode bytes layout).map .structured

end Stored

namespace MetadataValue

theorem encode_eq_ok_iff_decode (value : MetadataValue) (layout : HeaderLayout) (stored : Stored) :
    value.encode layout = .ok stored ↔ stored.decode layout = .ok value := by
  cases value with
  | inline metadata =>
    cases stored with
    | inline word =>
      simp [encode, Stored.decode, map_eq_ok_iff, InlineMetadata.encode_eq_ok_iff]
    | structured bytes => simp [encode, Stored.decode, map_eq_ok_iff]
  | structured metadata =>
    cases stored with
    | inline word => simp [encode, Stored.decode, map_eq_ok_iff]
    | structured bytes =>
      simp [encode, Stored.decode, map_eq_ok_iff,
        StructuredMetadata.decode_eq_ok_iff_encode]

theorem encoding_of_encode {value : MetadataValue} {layout : HeaderLayout} {stored : Stored}
    (encoded : value.encode layout = .ok stored) : stored.encoding = value.encoding := by
  cases value <;>
    · obtain ⟨_, _, rfl⟩ := map_eq_ok_iff.mp encoded
      rfl

end MetadataValue

namespace Stored

/-- What is kept is the encoding of the value that is held; nothing is kept if none is held. -/
def Encodes (layout : HeaderLayout) (kept : Option Stored) (held : Option MetadataValue) : Prop :=
  kept.map .ok = held.map (·.encode layout)

theorem encodes_none_iff {layout : HeaderLayout} {kept : Option Stored} :
    Encodes layout kept none ↔ kept = none := by
  rw [Encodes, Option.map_none, Option.map_eq_none_iff]

theorem encodes_some_iff {layout : HeaderLayout} {kept : Option Stored} {value : MetadataValue} :
    Encodes layout kept (some value) ↔
      ∃ stored, kept = some stored ∧ value.encode layout = .ok stored := by
  rw [Encodes, Option.map_some, Option.map_eq_some_iff]
  simp only [eq_comm]

end Stored

end PageMetadata
