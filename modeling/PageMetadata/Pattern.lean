import PageMetadata.Error

/-! # Byte patterns

A pattern fixes the byte at every offset. Memory that carries a pattern is examined from the front,
and the first byte that differs is reported.
-/

namespace PageMetadata

/-- The byte at an offset. -/
abbrev Pattern := Nat → UInt8

namespace Pattern

/-- The low byte of the offset. -/
def lowByte : Pattern := fun offset => UInt8.ofNat offset

/-- Three times the offset. -/
def tripled : Pattern := fun offset => UInt8.ofNat (3 * offset)

def zero : Pattern := fun _ => 0

/-- The two low bytes of the offset, combined. -/
def folded : Pattern := fun offset => UInt8.ofNat (offset / 256) ^^^ UInt8.ofNat offset

/-- The first `length` bytes of the pattern. -/
def stamp (pattern : Pattern) (length : Nat) : List UInt8 := (List.range length).map pattern

/-- The first offset, counted from `start`, whose byte is not the pattern's, with that byte. -/
def findMismatch? (pattern : Pattern) (start : Nat) : List UInt8 → Option (Nat × UInt8)
  | [] => none
  | byte :: bytes =>
    if byte = pattern start then findMismatch? pattern (start + 1) bytes else some (start, byte)

/-- The bytes must be the pattern's from offset 0 on. -/
def verify (pattern : Pattern) (bytes : List UInt8) (stage : String) :
    Except PatternMismatch Unit :=
  match pattern.findMismatch? 0 bytes with
  | none => .ok ()
  | some (offset, observed) => .error ⟨stage, offset, pattern offset, observed⟩

end Pattern

end PageMetadata
