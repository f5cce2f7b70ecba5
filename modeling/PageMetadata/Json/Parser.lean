import PageMetadata.Json.Basic
import PageMetadata.Text.Digits

/-! # Reading a document

One value between blanks, and nothing behind it. Escapes are only checked for their form here, so a
string may hold half of a surrogate pair until somebody reads it.
-/

namespace PageMetadata.Json

open Text

private def IsBlank (character : Char) : Bool :=
  character = ' ' || character = '\t' || character = '\n' || character = '\r'

private def skipBlanks (characters : List Char) : List Char := characters.dropWhile IsBlank

/-- The body of a string up to its closing quote, and what follows the quote. -/
def stringBody? : List Char → Option (List Char × List Char)
  | '"' :: rest => some ([], rest)
  | '\\' :: 'u' :: a :: b :: c :: d :: rest => do
    let _ ← hexNumber? [a, b, c, d]
    let (body, rest) ← stringBody? rest
    return ('\\' :: 'u' :: a :: b :: c :: d :: body, rest)
  | '\\' :: character :: rest =>
    if "\"\\/bfnrt".toList.contains character then do
      let (body, rest) ← stringBody? rest
      return ('\\' :: character :: body, rest)
    else none
  | character :: rest =>
    if character = '\\' ∨ character.toNat < 32 then none
    else do
      let (body, rest) ← stringBody? rest
      return (character :: body, rest)
  | [] => none

private def digits (characters : List Char) : List Char × List Char :=
  (characters.takeWhile Char.isDigit, characters.dropWhile Char.isDigit)

/-- No digit may follow a leading zero. -/
private def integerPart? (characters : List Char) : Option (List Char × List Char) :=
  match digits characters with
  | ([], _) => none
  | ('0' :: _ :: _, _) => none
  | (whole, rest) => some (whole, rest)

private def fractionPart? : List Char → Option (List Char × List Char)
  | '.' :: rest =>
    match digits rest with
    | ([], _) => none
    | (fraction, rest) => some ('.' :: fraction, rest)
  | rest => some ([], rest)

private def exponentSign : List Char → List Char × List Char
  | '+' :: rest => (['+'], rest)
  | '-' :: rest => (['-'], rest)
  | rest => ([], rest)

private def exponentPart? : List Char → Option (List Char × List Char)
  | [] => some ([], [])
  | mark :: rest =>
    if mark = 'e' ∨ mark = 'E' then
      let (sign, rest) := exponentSign rest
      match digits rest with
      | ([], _) => none
      | (exponent, rest) => some (mark :: (sign ++ exponent), rest)
    else some ([], mark :: rest)

private def minusSign : List Char → List Char × List Char
  | '-' :: rest => (['-'], rest)
  | rest => ([], rest)

/-- A number at the front, and what follows it. -/
def numberLiteral? (characters : List Char) : Option (List Char × List Char) := do
  let (sign, rest) := minusSign characters
  let (whole, rest) ← integerPart? rest
  let (fraction, rest) ← fractionPart? rest
  let (exponent, rest) ← exponentPart? rest
  return (sign ++ whole ++ fraction ++ exponent, rest)

mutual

/-- A value at the front, and what follows it; the first argument bounds the nesting. -/
private def value? : Nat → List Char → Option (Json × List Char)
  | 0, _ => none
  | bound + 1, characters =>
    match skipBlanks characters with
    | 'n' :: 'u' :: 'l' :: 'l' :: rest => some (.null, rest)
    | 't' :: 'r' :: 'u' :: 'e' :: rest => some (.bool true, rest)
    | 'f' :: 'a' :: 'l' :: 's' :: 'e' :: rest => some (.bool false, rest)
    | '"' :: rest => do
      let (body, rest) ← stringBody? rest
      return (.string body, rest)
    | '[' :: rest =>
      match skipBlanks rest with
      | ']' :: rest => some (.array [], rest)
      | rest => do
        let (items, rest) ← items? bound rest
        return (.array items, rest)
    | '\x7b' :: rest =>
      match skipBlanks rest with
      | '\x7d' :: rest => some (.object [], rest)
      | rest => do
        let (members, rest) ← members? bound rest
        return (.object members, rest)
    | rest => do
      let (literal, rest) ← numberLiteral? rest
      return (.number literal, rest)

private def items? : Nat → List Char → Option (List Json × List Char)
  | 0, _ => none
  | bound + 1, characters => do
    let (item, rest) ← value? bound characters
    match skipBlanks rest with
    | ']' :: rest => return ([item], rest)
    | ',' :: rest =>
      let (items, rest) ← items? bound rest
      return (item :: items, rest)
    | _ => none

private def members? : Nat → List Char → Option (List (List Char × Json) × List Char)
  | 0, _ => none
  | bound + 1, characters =>
    match skipBlanks characters with
    | '"' :: rest => do
      let (name, rest) ← stringBody? rest
      match skipBlanks rest with
      | ':' :: rest =>
        let (value, rest) ← value? bound rest
        match skipBlanks rest with
        | '\x7d' :: rest => return ([(name, value)], rest)
        | ',' :: rest =>
          let (members, rest) ← members? bound rest
          return ((name, value) :: members, rest)
        | _ => none
      | _ => none
    | _ => none

end

/-- The document that a text spells. -/
def parse? (source : String) : Option Json := do
  let characters := source.toList
  let (document, rest) ← value? (2 * characters.length + 2) characters
  if (skipBlanks rest).isEmpty then some document else none

end PageMetadata.Json
