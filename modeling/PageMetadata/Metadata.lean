import PageMetadata.Text.Digits
import PageMetadata.Text.Outline

/-! # Metadata values

Every page can carry one value, in one of two encodings: a single word with a tag bit, or a
structured value with a version, a kind and a payload of bytes.
-/

namespace PageMetadata

open Text

/-- Which of the two representations a call uses. -/
inductive Encoding where
  | inline
  | structured
deriving DecidableEq, Repr

namespace Encoding

/-- The discriminator that the collaborator is given. -/
def discriminator : Encoding → Nat
  | .inline => 0
  | .structured => 1

def text (encoding : Encoding) : String :=
  "mdp=" ++ toString encoding.discriminator

end Encoding

inductive InlineTag where
  | scalar
  | pointer
deriving DecidableEq, Repr

namespace InlineTag

def ofBit : Bool → InlineTag
  | false => .scalar
  | true => .pointer

def bit : InlineTag → UInt64
  | .scalar => 0
  | .pointer => 1

def name : InlineTag → String
  | .scalar => "Scalar"
  | .pointer => "Pointer"

end InlineTag

/-- A tagged value; only values below `2 ^ 63` have an encoding. -/
structure InlineMetadata where
  tag : InlineTag
  value : UInt64
deriving DecidableEq, Repr

/-- A versioned payload. -/
structure StructuredMetadata where
  version : UInt32
  kind : UInt32
  payload : List UInt8
deriving DecidableEq, Repr

inductive MetadataValue where
  | inline (metadata : InlineMetadata)
  | structured (metadata : StructuredMetadata)
deriving DecidableEq, Repr

def InlineMetadata.outline (metadata : InlineMetadata) : Outline :=
  .record "InlineMeta"
    [("tag", .atom metadata.tag.name), ("value", .atom (toString metadata.value.toNat))]

/-- The kind is hexadecimal and the payload a list of two-digit bytes on one line. -/
def StructuredMetadata.outline (metadata : StructuredMetadata) : Outline :=
  .record "StructuredMeta"
    [("version", .atom (toString metadata.version.toNat)),
      ("kind", .atom (hexWord metadata.kind.toNat)),
      ("length", .atom (toString metadata.payload.length)),
      ("payload", .atom ("[" ++ ", ".intercalate (metadata.payload.map hexByte) ++ "]"))]

namespace MetadataValue

def encoding : MetadataValue → Encoding
  | .inline _ => .inline
  | .structured _ => .structured

/-- Bytes of payload; an inline value has none. -/
def payloadLength : MetadataValue → Nat
  | .inline _ => 0
  | .structured metadata => metadata.payload.length

def outline : MetadataValue → Outline
  | .inline metadata => .tuple "Inline" [metadata.outline]
  | .structured metadata => .tuple "Structured" [metadata.outline]

end MetadataValue

end PageMetadata
