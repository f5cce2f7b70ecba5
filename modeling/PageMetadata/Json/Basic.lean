/-! # JSON documents

A document keeps numbers and strings as they are spelled, and the members of an object in their
order with repeated names. What a spelling stands for is decided by whoever reads the value, so a
part that nobody reads needs no meaning.
-/

namespace PageMetadata

inductive Json where
  | null
  | bool (value : Bool)
  /-- The digits, sign, point and exponent as written. -/
  | number (literal : List Char)
  /-- The characters between the quotes, with their escapes. -/
  | string (body : List Char)
  | array (items : List Json)
  | object (members : List (List Char × Json))

namespace Json

mutual

private def writeValue (out : String) : Json → String
  | .null => out ++ "null"
  | .bool true => out ++ "true"
  | .bool false => out ++ "false"
  | .number literal => out ++ String.ofList literal
  | .string body => out ++ "\"" ++ String.ofList body ++ "\""
  | .array [] => out ++ "[]"
  | .array (item :: items) => writeItems (writeValue (out ++ "[") item) items
  | .object [] => out ++ "\x7b\x7d"
  | .object ((name, value) :: members) =>
    writeMembers (writeValue (out ++ "\x7b\"" ++ String.ofList name ++ "\":") value) members

private def writeItems (out : String) : List Json → String
  | [] => out ++ "]"
  | item :: items => writeItems (writeValue (out ++ ",") item) items

private def writeMembers (out : String) : List (List Char × Json) → String
  | [] => out ++ "\x7d"
  | (name, value) :: members =>
    writeMembers (writeValue (out ++ ",\"" ++ String.ofList name ++ "\":") value) members

end

/-- The document on one line, without blanks. -/
def render (document : Json) : String := writeValue "" document

end Json

end PageMetadata
