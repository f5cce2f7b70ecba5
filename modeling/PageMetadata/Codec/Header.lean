import PageMetadata.Codec.Bytes
import PageMetadata.Codec.Error

/-! # Headers of structured metadata

A header holds the version, the kind and the payload length, each little-endian and without padding.
The compact layout has two bytes for version and kind, the wide ones four; one wide layout ends with
a reserved word that must be zero.
-/

namespace PageMetadata

structure StructuredHeader where
  version : UInt32
  kind : UInt32
  length : UInt32
deriving DecidableEq, Repr

/-- The labelled fields, in decimal. -/
def StructuredHeader.outline (header : StructuredHeader) : Text.Outline :=
  .record "StructuredHeader"
    [("version", .atom (toString header.version.toNat)),
      ("kind", .atom (toString header.kind.toNat)),
      ("length", .atom (toString header.length.toNat))]

namespace HeaderLayout

/-- Bytes of the version, and of the kind. -/
def fieldWidth : HeaderLayout → Nat
  | .compact => 2
  | .wide => 4
  | .wideReserved => 4

/-- Bytes of the reserved word. -/
def reservedWidth : HeaderLayout → Nat
  | .compact => 0
  | .wide => 0
  | .wideReserved => 4

/-- Bytes of the payload length. -/
def lengthWidth : Nat := 4

/-- Bytes of a header. -/
def headerLength (layout : HeaderLayout) : Nat :=
  2 * layout.fieldWidth + lengthWidth + layout.reservedWidth

/-- The largest version, and the largest kind. -/
def maxField (layout : HeaderLayout) : Nat := Nat.pow 256 layout.fieldWidth - 1

/-- A field must not exceed the largest value of its width. -/
def checkField (layout : HeaderLayout) (field : HeaderField) (value : UInt32) :
    Except CodecError Unit :=
  if value.toNat ≤ layout.maxField then .ok ()
  else .error (.fieldOverflow field value.toNat layout)

/-- The bytes of a header. The version is checked before the kind. -/
def writeHeader (layout : HeaderLayout) (header : StructuredHeader) :
    Except CodecError (List UInt8) := do
  layout.checkField .version header.version
  layout.checkField .kind header.kind
  return Bytes.ofNat layout.fieldWidth header.version.toNat
    ++ Bytes.ofNat layout.fieldWidth header.kind.toNat
    ++ Bytes.ofNat lengthWidth header.length.toNat
    ++ List.replicate layout.reservedWidth 0

/-- A header goes behind the bytes of a buffer; a refused header leaves the buffer as it was. -/
def appendHeader (layout : HeaderLayout) (buffer : List UInt8) (header : StructuredHeader) :
    Except CodecError Unit × List UInt8 :=
  match layout.writeHeader header with
  | .error error => (.error error, buffer)
  | .ok bytes => (.ok (), buffer ++ bytes)

/-- The header at the front of a buffer, and the bytes behind it. -/
def readHeader (layout : HeaderLayout) (buffer : List UInt8) :
    Except CodecError (StructuredHeader × List UInt8) :=
  if buffer.length < layout.headerLength then
    .error (.truncated layout.headerLength buffer.length)
  else
    let width := layout.fieldWidth
    let version := Bytes.toNat (buffer.take width)
    let kind := Bytes.toNat ((buffer.drop width).take width)
    let length := Bytes.toNat ((buffer.drop (2 * width)).take lengthWidth)
    let reserved :=
      Bytes.toNat ((buffer.drop (2 * width + lengthWidth)).take layout.reservedWidth)
    if reserved = 0 then
      .ok (⟨.ofNat version, .ofNat kind, .ofNat length⟩, buffer.drop layout.headerLength)
    else .error (.reservedNotZero (.ofNat reserved))

end HeaderLayout

end PageMetadata
