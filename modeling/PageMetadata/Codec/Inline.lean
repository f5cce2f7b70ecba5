import PageMetadata.Codec.Error

/-! # The inline encoding

The top bit of the word carries the tag and the other 63 bits the value.
-/

namespace PageMetadata

open Text

namespace InlineMetadata

/-- The position of the tag. -/
def tagShift : UInt64 := 63

/-- The bits of the value. -/
def valueMask : UInt64 := (1 <<< tagShift) - 1

/-- Every word is the encoding of a value. -/
def decode (word : UInt64) : InlineMetadata where
  tag := .ofBit ((word >>> tagShift) &&& 1 != 0)
  value := word &&& valueMask

/-- A value that needs the tag's bit has no encoding. -/
def encode (metadata : InlineMetadata) : Except CodecError UInt64 :=
  if metadata.value ≤ valueMask then
    .ok ((metadata.tag.bit <<< tagShift) ||| metadata.value)
  else .error (.valueOverflow metadata.value)

/-- A word as its parts, the value in hexadecimal. -/
def wordOutline (word : UInt64) : Outline :=
  let metadata := decode word
  .record "InlineWord"
    [("tag", .atom metadata.tag.name), ("value", .atom (hexWord metadata.value.toNat))]

end InlineMetadata

end PageMetadata
