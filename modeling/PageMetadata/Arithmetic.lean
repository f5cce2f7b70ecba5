/-! # Arithmetic that has no result

Addresses, durations and lengths are bounded. An operation whose exact result lies outside the
bounds has no value, and says which operation it was.
-/

namespace PageMetadata

inductive ArithmeticError where
  | addition
  | subtraction
  | durationCarry
  | durationSum
  | durationDivision
  | capacity
deriving DecidableEq, Repr

def ArithmeticError.message : ArithmeticError → String
  | .addition => "attempt to add with overflow"
  | .subtraction => "attempt to subtract with overflow"
  | .durationCarry => "overflow in Duration::new"
  | .durationSum => "overflow in iter::sum over durations"
  | .durationDivision => "divide by zero error when dividing duration by scalar"
  | .capacity => "capacity overflow"

/-- Consecutive bytes are fewer than this: half the address space. -/
def lengthLimit : Nat := UInt64.size / 2

/-- The length of a buffer. -/
def checkedLength (length : Nat) : Except ArithmeticError Nat :=
  if length < lengthLimit then .ok length else .error .capacity

/-- The length of a buffer with two parts. The sum of their lengths is a word, whether or not there
is such a buffer. -/
def checkedLengthSum (first second : Nat) : Except ArithmeticError Nat :=
  if first + second < UInt64.size then checkedLength (first + second) else .error .addition

end PageMetadata
