import PageMetadata.Json.Escape

/-! # Typed readers of documents

A reader turns a document into a value or refuses it. It is told how many containers may still be
opened, so documents that nest too deeply are refused; parts that are skipped do not count.

A record is an object or an array of its fields in order. An object may have further members unless
the record is closed, but no field twice. A variant is its name, or an object with its name as the
only member.
-/

namespace PageMetadata.Json

/-- Documents may open this many containers inside one another. -/
def nestingLimit : Nat := 127

/-- The first argument is the number of containers that may still be opened. -/
abbrev Reader (α : Type) := Nat → Json → Option α

/-- The integer that a literal spells. A fraction, an exponent and the negative zero spell none. -/
def integer? (literal : List Char) : Option Int :=
  match literal with
  | ['-', '0'] => none
  | _ => (String.ofList literal).toInt?

namespace Reader

/-- An integer that the condition admits. -/
def integer (admits : Int → Bool) : Reader Int := fun _ document =>
  match document with
  | .number literal => (integer? literal).filter admits
  | _ => none

/-- A natural number below `size`. -/
def natural (size : Nat) : Reader Nat := fun budget document =>
  (integer (fun value => 0 ≤ value && value < size) budget document).map Int.toNat

/-- One of the `size` integers around zero; the lower half is negative. -/
def signed (size : Nat) : Reader Int :=
  integer fun value => -size ≤ 2 * value && 2 * value < size

def bool : Reader Bool := fun _ document =>
  match document with
  | .bool value => some value
  | _ => none

def text : Reader String := fun _ document =>
  match document with
  | .string body => (unescape? body).map String.ofList
  | _ => none

/-- The value, or `null` for none. -/
def optional {α : Type} (reader : Reader α) : Reader (Option α) := fun budget document =>
  match document with
  | .null => some none
  | document => (reader budget document).map some

def list {α : Type} (reader : Reader α) : Reader (List α)
  | budget + 1, .array items => items.mapM (reader budget)
  | _, _ => none

/-- Two values in an array. -/
def pair {α β : Type} (first : Reader α) (second : Reader β) : Reader (α × β)
  | budget + 1, .array [one, two] => do
    let one ← first budget one
    let two ← second budget two
    return (one, two)
  | _, _ => none

end Reader

/-- The fields of a record that were found, and the containers that they may open. -/
structure Fields where
  budget : Nat
  values : List (String × Json)

/-- The members that are fields; `none` if a field is repeated. -/
private def selectFields? (labels : List String) (members : List (String × Json)) :
    Option (List (String × Json)) :=
  let found := members.filter fun member => labels.contains member.1
  if (found.map Prod.fst).Nodup then some found else none

/-- The fields of a record with these labels. A closed record has no further members. -/
def record (labels : List String) (closed : Bool) : Reader Fields
  | budget + 1, .array items =>
    if items.length = labels.length then some ⟨budget, labels.zip items⟩ else none
  | budget + 1, .object members => do
    let members ← members.mapM fun (name, value) =>
      (unescape? name).map fun name => (String.ofList name, value)
    if closed && members.any fun (name, _) => !labels.contains name then none
    else
      let values ← selectFields? labels members
      return ⟨budget, values⟩
  | _, _ => none

namespace Fields

/-- A field that must be present. -/
def required {α : Type} (fields : Fields) (label : String) (reader : Reader α) : Option α := do
  let value ← fields.values.lookup label
  reader fields.budget value

/-- A field that may be absent. -/
def optional {α : Type} (fields : Fields) (label : String) (reader : Reader α) :
    Option (Option α) :=
  match fields.values.lookup label with
  | none => some none
  | some value => reader.optional fields.budget value

end Fields

/-- The name of a variant, and its content with the containers that it may open. -/
structure Variant where
  name : String
  content : Option (Nat × Json)

def variant : Reader Variant
  | _, .string body => do
    let name ← unescape? body
    return ⟨String.ofList name, none⟩
  | budget + 1, .object [(name, content)] => do
    let name ← unescape? name
    return ⟨String.ofList name, some (budget, content)⟩
  | _, _ => none

namespace Variant

/-- The variant has no content. -/
def unit {α : Type} (variant : Variant) (value : α) : Option α :=
  match variant.content with
  | none => some value
  | some (_, .null) => some value
  | some _ => none

/-- The variant has content. -/
def read {α : Type} (variant : Variant) (reader : Reader α) : Option α := do
  let (budget, content) ← variant.content
  reader budget content

end Variant

/-- One of several variants without content. -/
def enumeration {α : Type} (name : α → String) (values : List α) : Reader α :=
  fun budget document => do
    let variant ← variant budget document
    let value ← values.find? fun value => name value = variant.name
    variant.unit value

end PageMetadata.Json
