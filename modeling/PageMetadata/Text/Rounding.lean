import PageMetadata.Text.Digits

/-! # Rounding to the nearest

Quotients, binary floating-point values and fixed decimals all round to the nearest neighbour, and a
half goes to the even one. A floating-point value is taken apart into its exact binary fraction
first, so its decimals are those of the value itself and not of a shorter text.
-/

namespace PageMetadata.Text

/-- The quotient rounded to the nearest integer, a half going to the even neighbour. -/
def roundDiv (numerator denominator : Nat) : Nat :=
  let quotient := numerator / denominator
  let remainder := numerator % denominator
  if 2 * remainder < denominator then quotient
  else if denominator < 2 * remainder then quotient + 1
  else quotient + quotient % 2

/-- The floating-point value nearest to a natural number: 53 leading bits are kept. -/
def nearestFloat (number : Nat) : Float :=
  let dropped := number.log2 - 52
  (UInt64.ofNat (roundDiv number (Nat.pow 2 dropped))).toFloat.scaleB dropped

/-- An integer number of units of `10 ^ -places`, as digits around a point. -/
def pointed (places : Nat) (units : Nat) : String :=
  if places = 0 then toString units
  else
    let unit := Nat.pow 10 places
    toString (units / unit) ++ "." ++ padLeft places '0' (toString (units % unit))

/-- A floating-point value with a fixed number of decimals and every digit of its integer part. -/
def fixedDecimals (places : Nat) (value : Float) : String :=
  let bits := value.toBits.toNat
  let hidden := Nat.pow 2 52
  let fraction := bits % hidden
  let exponent := bits / hidden % 2048
  let sign := if bits / hidden < 2048 then "" else "-"
  if exponent = 2047 then
    if fraction = 0 then sign ++ "inf" else "NaN"
  else
    let mantissa := if exponent = 0 then fraction else fraction + hidden
    let scaled := mantissa * Nat.pow 10 places * Nat.pow 2 (max exponent 1)
    let units := roundDiv scaled (Nat.pow 2 1075)
    sign ++ pointed places units

end PageMetadata.Text
