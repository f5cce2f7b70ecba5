import PageMetadata.Arithmetic
import PageMetadata.Text.Digits

/-! # Virtual addresses

An address is a 64-bit word. Page tables are named by the first address they map, so the same type
names them. Moving an address never wraps around: a result outside the address space is an error.
-/

namespace PageMetadata

@[ext]
structure Address where
  word : UInt64
deriving DecidableEq, Hashable, Repr, Inhabited

namespace Address

def null : Address := ⟨0⟩

def isNull (address : Address) : Bool := address = null

/-- The address `distance` bytes above. -/
def add (address : Address) (distance : UInt64) : Except ArithmeticError Address :=
  if address.word.toNat + distance.toNat < UInt64.size then .ok ⟨address.word + distance⟩
  else .error .addition

/-- The address `distance` bytes below. -/
def sub (address : Address) (distance : UInt64) : Except ArithmeticError Address :=
  if distance ≤ address.word then .ok ⟨address.word - distance⟩ else .error .subtraction

/-- How many bytes an address lies above another. -/
def distanceFrom (address origin : Address) : Except ArithmeticError UInt64 :=
  if origin.word ≤ address.word then .ok (address.word - origin.word) else .error .subtraction

/-- The bits that the address shares with the mask. -/
def masked (address : Address) (mask : UInt64) : Address := ⟨address.word &&& mask⟩

/-- An address always shows sixteen digits. -/
def text (address : Address) : String := Text.hexPadded 16 address.word.toNat

instance : ToString Address := ⟨text⟩

end Address

end PageMetadata
