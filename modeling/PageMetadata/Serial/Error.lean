import PageMetadata.Error
import PageMetadata.Json.Access
import PageMetadata.Serial.Outcome

/-! # Errors as documents

An error is written as an object with the name of its kind, its message, and the parts that the kind
has. A description of an error has the name of the kind and the parts, from which the error and so
its message follow.
-/

namespace PageMetadata

open Json

/-- The reader of an address. -/
def Address.reader : Reader Address := fun budget document =>
  (Reader.word budget document).map Address.mk

def Address.toJson (address : Address) : Json := .ofNat address.word.toNat

private def failureJson (kind message : String) (parts : List (String × Json)) : Json :=
  .ofMembers ([("error", .text kind), ("message", .text message)] ++ parts)

/-- An operation without a result stops what called it. -/
def ArithmeticError.toJson (error : ArithmeticError) : Json :=
  failureJson "panic" error.message []

namespace CodecError

def toJson (error : CodecError) : Json :=
  let named := fun kind parts => failureJson kind error.message parts
  match error with
  | .valueOverflow value => named "ValueOverflow" [("value", .ofNat value.toNat)]
  | .fieldOverflow field value layout =>
    named "FieldOverflow"
      [("field", .text field.name), ("value", .ofNat value), ("layout", layout.toJson)]
  | .truncated required available =>
    named "Truncated" [("required", .ofNat required), ("available", .ofNat available)]
  | .lengthMismatch declared available =>
    named "LengthMismatch" [("declared", .ofNat declared), ("available", .ofNat available)]
  | .reservedNotZero word => named "ReservedNotZero" [("word", .ofNat word.toNat)]
  | .roundTrip written read =>
    named "RoundTrip" [("written", written.toJson), ("read", read.toJson)]

/-- The error of a description, whose kind is its `codec` member. -/
def ofDescription? (description : Json) : Option CodecError := do
  match ← description.get? "codec" Reader.text with
  | "ValueOverflow" => return .valueOverflow (← description.get? "value" Reader.word)
  | "FieldOverflow" =>
    let field ← description.get? "field" Reader.text
    let value ← description.get? "value" Reader.count
    let layout ← description.get? "layout" HeaderLayout.reader
    return .fieldOverflow (.ofName field) value layout
  | "Truncated" =>
    let required ← description.get? "required" Reader.count
    return .truncated required (← description.get? "available" Reader.count)
  | "LengthMismatch" =>
    let declared ← description.get? "declared" Reader.count
    return .lengthMismatch declared (← description.get? "available" Reader.count)
  | "ReservedNotZero" => return .reservedNotZero (← description.get? "word" Reader.halfWord)
  | "RoundTrip" =>
    let written ← description.get? "written" MetadataValue.reader
    return .roundTrip written (← description.get? "read" MetadataValue.reader)
  | _ => none

end CodecError

namespace Error

def toJson (error : Error) : Json :=
  let named := fun kind parts => failureJson kind error.message parts
  match error with
  | .host _ => named "Io" []
  | .allocation pages _ => named "Allocation" [("pages", .ofNat pages)]
  | .patternMismatch mismatch =>
    named "PatternMismatch"
      [("stage", .text mismatch.stage), ("offset", .ofNat mismatch.offset),
        ("expected", .ofNat mismatch.expected.toNat),
        ("observed", .ofNat mismatch.observed.toNat)]
  | .unexpectedOutcome operation address expected observed =>
    named "Abi"
      [("operation", operation.toJson), ("va", address.toJson),
        ("expected", expected.toJson), ("observed", observed.toJson)]
  | .codec cause => named "Codec" [("codec", cause.toJson)]
  | .stateViolation violation =>
    named "StateViolation"
      [("table", violation.table.toJson), ("page", .ofNat violation.page.toNat),
        ("operation", violation.operation.toJson), ("state", violation.state.toJson),
        ("expected", violation.expected.toJson), ("observed", violation.observed.toJson)]
  | .assertionFailed assertion detail =>
    named "AssertionFailed" [("assertion", .text assertion), ("detail", .text detail.message)]
  | .invalidPageSize pageSize => named "InvalidPageSize" [("page_size", .ofNat pageSize.toNat)]
  | .notSupported => named "NotSupported" []
  | .pageOutsideRegion => named "Other" []
  | .other _ => named "Other" []

/-- The error of a description. -/
def ofDescription? (description : Json) : Option Error := do
  match ← description.get? "kind" Reader.text with
  | "Io" => return .host (← description.get? "errno" Errno.reader)
  | "Allocation" =>
    let pages ← description.get? "pages" Reader.count
    match ← description.get? "text" Reader.text.optional with
    | some text => return .allocation pages (.other text)
    | none => return .allocation pages (.host (← description.get? "errno" Errno.reader))
  | "PatternMismatch" =>
    let stage ← description.get? "stage" Reader.text
    let offset ← description.get? "offset" Reader.count
    let expected ← description.get? "expected" Reader.byte
    return .patternMismatch ⟨stage, offset, expected, ← description.get? "observed" Reader.byte⟩
  | "Abi" =>
    let operation ← description.get? "operation" Operation.reader
    let address ← description.get? "va" Address.reader
    let expected ← description.get? "expected" OutcomeClass.reader
    let observed ← description.get? "observed" OutcomeClass.reader
    return .unexpectedOutcome operation address expected observed
  | "StateViolation" =>
    let table ← description.get? "table" Address.reader
    let page ← description.get? "page" Reader.halfWord
    let operation ← description.get? "operation" Operation.reader
    let state ← description.get? "state" Lifecycle.reader
    let expected ← description.get? "expected" OutcomeClass.reader
    let observed ← description.get? "observed" OutcomeClass.reader
    return .stateViolation ⟨table, page, operation, state, expected, observed⟩
  | "AssertionFailed" =>
    let assertion ← description.get? "assertion" Reader.text
    return .assertionFailed assertion (.other (← description.get? "detail" Reader.text))
  | "InvalidPageSize" => return .invalidPageSize (← description.get? "page_size" Reader.word)
  | "NotSupported" => return .notSupported
  | "Other" => return .other (← description.get? "text" Reader.text)
  | "Codec" => (CodecError.ofDescription? description).map .codec
  | _ => none

end Error

end PageMetadata
