import PageMetadata.Json.Reader

/-! # Lenient access

Settings and descriptions may leave parts out. A member or an item that is absent reads as `null`,
and `null` stands for a default.
-/

namespace PageMetadata.Json

/-- The first member of a name; `null` if there is none. -/
def member (document : Json) (name : String) : Json :=
  match document with
  | .object members => (members.lookup (escape name.toList)).getD .null
  | _ => .null

/-- Whether a member is there, even as `null`. -/
def hasMember (document : Json) (name : String) : Bool :=
  match document with
  | .object members => (members.lookup (escape name.toList)).isSome
  | _ => false

/-- The items of an array; anything else has none. -/
def items : Json → List Json
  | .array items => items
  | _ => []

/-- One item of an array; `null` if there is none. -/
def item (document : Json) (index : Nat) : Json := document.items.getD index .null

/-- The value of a member, whatever its depth. -/
def get? {α : Type} (document : Json) (name : String) (reader : Reader α) : Option α :=
  reader nestingLimit (document.member name)

/-- The value of a member, or the default in place of `null`. -/
def getOr? {α : Type} (document : Json) (name : String) (default : α) (reader : Reader α) :
    Option α :=
  (document.get? name reader.optional).map (·.getD default)

/-- The value of an item. -/
def itemAt? {α : Type} (document : Json) (index : Nat) (reader : Reader α) : Option α :=
  reader nestingLimit (document.item index)

end PageMetadata.Json
