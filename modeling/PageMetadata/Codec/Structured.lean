import PageMetadata.Codec.Header

/-! # The structured encoding

A header and, right behind it, exactly as many payload bytes as the header says.
-/

namespace PageMetadata.StructuredMetadata

/-- Bytes of the encoding. -/
def encodedLength (metadata : StructuredMetadata) (layout : HeaderLayout) : Nat :=
  layout.headerLength + metadata.payload.length

/-- The payload length is checked first, then the version, then the kind. -/
def encode (metadata : StructuredMetadata) (layout : HeaderLayout) :
    Except CodecError (List UInt8) :=
  if metadata.payload.length < UInt32.size then do
    let header ← layout.writeHeader
      ⟨metadata.version, metadata.kind, .ofNat metadata.payload.length⟩
    return header ++ metadata.payload
  else .error (.fieldOverflow .length metadata.payload.length layout)

/-- The whole buffer must be one header and its payload. -/
def decode (buffer : List UInt8) (layout : HeaderLayout) :
    Except CodecError StructuredMetadata := do
  let (header, payload) ← layout.readHeader buffer
  if header.length.toNat = payload.length then
    return ⟨header.version, header.kind, payload⟩
  else throw (.lengthMismatch header.length.toNat payload.length)

end PageMetadata.StructuredMetadata
