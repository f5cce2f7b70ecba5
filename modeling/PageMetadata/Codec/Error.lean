import PageMetadata.Metadata

/-! # Header layouts and what can be wrong with an encoding

The structured encoding is a header in one of three layouts followed by the payload. Each failure
names the value or the lengths that caused it.
-/

namespace PageMetadata

open Text

inductive HeaderLayout where
  | compact
  | wide
  | wideReserved
deriving DecidableEq, Repr

def HeaderLayout.name : HeaderLayout → String
  | .compact => "Compact"
  | .wide => "Wide"
  | .wideReserved => "WideReserved"

/-- The part of a header that a value is meant for. -/
inductive HeaderField where
  | version
  | kind
  | length
  | other (name : String)
deriving DecidableEq, Repr

namespace HeaderField

def name : HeaderField → String
  | .version => "version"
  | .kind => "kind"
  | .length => "length"
  | .other name => name

/-- The field of a name; every text names one. -/
def ofName : String → HeaderField
  | "version" => .version
  | "kind" => .kind
  | "length" => .length
  | name => .other name

@[simp]
theorem name_ofName (text : String) : (ofName text).name = text := by
  unfold ofName
  split <;> rfl

end HeaderField

inductive CodecError where
  /-- An inline value needs more than 63 bits. -/
  | valueOverflow (value : UInt64)
  /-- A header field needs more bits than its layout has. -/
  | fieldOverflow (field : HeaderField) (value : Nat) (layout : HeaderLayout)
  /-- The buffer ends within the header. -/
  | truncated (required available : Nat)
  /-- The header's length is not the number of bytes behind it. -/
  | lengthMismatch (declared available : Nat)
  | reservedNotZero (word : UInt32)
  /-- A value read is not the value written. -/
  | roundTrip (written read : MetadataValue)
deriving DecidableEq, Repr

def CodecError.message : CodecError → String
  | .valueOverflow value =>
    "Inline value " ++ hexWord value.toNat ++ " does not fit into 63 bits"
  | .fieldOverflow field value layout =>
    "Header field `" ++ field.name ++ "` value " ++ hexWord value ++ " does not fit into "
      ++ layout.name ++ " layout"
  | .truncated required available =>
    "Buffer truncated: " ++ toString available ++ " byte(s) available, " ++ toString required
      ++ " required"
  | .lengthMismatch declared available =>
    "Declared payload length " ++ toString declared ++ " differs from " ++ toString available
      ++ " available byte(s)"
  | .reservedNotZero word => "Reserved header word is " ++ hexWord word.toNat
  | .roundTrip written read =>
    "Round trip mismatch: wrote " ++ written.outline.oneLine ++ ", read " ++ read.outline.oneLine

/-- A value read back must be the value that was written. -/
def MetadataValue.verifyRoundTrip (written read : MetadataValue) : Except CodecError Unit :=
  if written = read then .ok () else .error (.roundTrip written read)

end PageMetadata
