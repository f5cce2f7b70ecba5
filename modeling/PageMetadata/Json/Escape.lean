import PageMetadata.Json.Basic
import PageMetadata.Text.Digits

/-! # Characters and their escapes

Quotes, backslashes and control characters are escaped inside a string. A character outside the
first 65536 may be spelled as two escapes, the halves of a surrogate pair; one half alone spells
nothing.
-/

namespace PageMetadata.Json

open Text

private def escapeChar (character : Char) : List Char :=
  if character = '"' then ['\\', '"']
  else if character = '\\' then ['\\', '\\']
  else if character.toNat < 32 then
    ['\\', 'u'] ++ (padLeft 4 '0' (hex character.toNat)).toList
  else [character]

/-- The characters with their escapes. -/
def escape (characters : List Char) : List Char := characters.flatMap escapeChar

private def simpleEscape? : Char → Option Char
  | '"' => some '"'
  | '\\' => some '\\'
  | '/' => some '/'
  | 'b' => some '\x08'
  | 'f' => some '\x0c'
  | 'n' => some '\n'
  | 'r' => some '\r'
  | 't' => some '\t'
  | _ => none

private def IsHighHalf (unit : Nat) : Prop := 0xd800 ≤ unit ∧ unit < 0xdc00

private def IsLowHalf (unit : Nat) : Prop := 0xdc00 ≤ unit ∧ unit < 0xe000

private instance (unit : Nat) : Decidable (IsHighHalf unit) := by
  unfold IsHighHalf
  infer_instance

private instance (unit : Nat) : Decidable (IsLowHalf unit) := by
  unfold IsLowHalf
  infer_instance

/-- The characters that a spelling stands for, if each of its escapes is complete. -/
def unescape? : List Char → Option (List Char)
  | [] => some []
  | '\\' :: 'u' :: a :: b :: c :: d :: '\\' :: 'u' :: e :: f :: g :: h :: rest => do
    let unit ← hexNumber? [a, b, c, d]
    if IsHighHalf unit then
      let low ← hexNumber? [e, f, g, h]
      if IsLowHalf low then
        let character := Char.ofNat (0x10000 + (unit - 0xd800) * 0x400 + (low - 0xdc00))
        (unescape? rest).map (character :: ·)
      else none
    else if IsLowHalf unit then none
    else (unescape? ('\\' :: 'u' :: e :: f :: g :: h :: rest)).map (Char.ofNat unit :: ·)
  | '\\' :: 'u' :: a :: b :: c :: d :: rest => do
    let unit ← hexNumber? [a, b, c, d]
    if IsHighHalf unit ∨ IsLowHalf unit then none
    else (unescape? rest).map (Char.ofNat unit :: ·)
  | '\\' :: character :: rest => do
    let plain ← simpleEscape? character
    (unescape? rest).map (plain :: ·)
  | ['\\'] => none
  | character :: rest => (unescape? rest).map (character :: ·)

/-- A string value. -/
def text (value : String) : Json := .string (escape value.toList)

def ofNat (value : Nat) : Json := .number (toString value).toList

def ofInt (value : Int) : Json := .number (toString value).toList

/-- An object with the given members, in order. -/
def ofMembers (members : List (String × Json)) : Json :=
  .object (members.map fun (name, value) => (escape name.toList, value))

/-- An object with one member: a named value. -/
def tagged (name : String) (content : Json) : Json := ofMembers [(name, content)]

end PageMetadata.Json
