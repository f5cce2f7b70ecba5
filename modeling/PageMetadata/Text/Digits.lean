/-! # Numbers and bytes as digits

Hexadecimal and padded forms shared by every text of the library. Digits are lower case, widths
count characters, and padding never shortens a text.
-/

namespace PageMetadata.Text

/-- Fill characters go in front until the text has the width. -/
def padLeft (width : Nat) (fill : Char) (text : String) : String :=
  String.ofList (List.replicate (width - text.length) fill) ++ text

/-- Blanks go behind until the text has the width. -/
def padRight (width : Nat) (text : String) : String :=
  text ++ String.ofList (List.replicate (width - text.length) ' ')

/-- Hexadecimal digits without padding. -/
def hex (number : Nat) : String :=
  String.ofList (Nat.toDigits 16 number)

/-- Hexadecimal digits behind `0x`, without padding. -/
def hexWord (number : Nat) : String :=
  "0x" ++ hex number

/-- Hexadecimal digits behind `0x`, filled with zeros to at least `digits` digits. -/
def hexPadded (digits : Nat) (number : Nat) : String :=
  "0x" ++ padLeft digits '0' (hex number)

/-- Two digits for one byte. -/
def hexByte (byte : UInt8) : String :=
  padLeft 2 '0' (hex byte.toNat)

/-- Two digits for each byte, with nothing between them. -/
def hexBytes (bytes : List UInt8) : String :=
  String.join (bytes.map hexByte)

/-- The value of one hexadecimal digit of either case. -/
def hexValue? (digit : Char) : Option Nat :=
  if '0' ≤ digit ∧ digit ≤ '9' then some (digit.toNat - '0'.toNat)
  else if 'a' ≤ digit ∧ digit ≤ 'f' then some (digit.toNat - 'a'.toNat + 10)
  else if 'A' ≤ digit ∧ digit ≤ 'F' then some (digit.toNat - 'A'.toNat + 10)
  else none

/-- The number that hexadecimal digits stand for; every character must be a digit. -/
def hexNumber? (digits : List Char) : Option Nat :=
  digits.foldlM (fun number digit => (hexValue? digit).map (16 * number + ·)) 0

/-- The bytes that pairs of hexadecimal digits stand for. -/
def bytesOfHex? : List Char → Option (List UInt8)
  | [] => some []
  | [_] => none
  | high :: low :: rest => do
    let number ← hexNumber? [high, low]
    let bytes ← bytesOfHex? rest
    return UInt8.ofNat number :: bytes

end PageMetadata.Text
