/-! # Little-endian numbers

A number of fixed width is written with its lowest byte first.
-/

namespace PageMetadata.Bytes

/-- The lowest `width` bytes of a number. -/
def ofNat : (width : Nat) → (number : Nat) → List UInt8
  | 0, _ => []
  | width + 1, number => UInt8.ofNat number :: ofNat width (number / 256)

/-- The number that bytes stand for. -/
def toNat : List UInt8 → Nat
  | [] => 0
  | byte :: bytes => byte.toNat + 256 * toNat bytes

@[simp] theorem length_ofNat (width number : Nat) : (ofNat width number).length = width := by
  induction width generalizing number with
  | zero => rfl
  | succ width ih => simp [ofNat, ih]

end PageMetadata.Bytes
