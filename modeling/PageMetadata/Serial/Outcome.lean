import PageMetadata.Classifier
import PageMetadata.Codec.Error
import PageMetadata.Contract
import PageMetadata.Json.Reader

/-! # Values and outcomes as documents

A variant is written as its name, or as an object with its name and its content; a record as an
object of its fields. Each type has a writer and a reader of the same form.
-/

namespace PageMetadata

open Json

/-- The reader of a 64-bit word. -/
def Json.Reader.word : Reader UInt64 := fun budget document =>
  (natural UInt64.size budget document).map UInt64.ofNat

/-- The reader of a 32-bit word. -/
def Json.Reader.halfWord : Reader UInt32 := fun budget document =>
  (natural UInt32.size budget document).map UInt32.ofNat

/-- The reader of a byte. -/
def Json.Reader.byte : Reader UInt8 := fun budget document =>
  (natural UInt8.size budget document).map UInt8.ofNat

/-- The reader of a count or an index. -/
def Json.Reader.count : Reader Nat := Reader.natural UInt64.size

/-- Either `null` or what the value gives. -/
def Json.ofOption {α : Type} (write : α → Json) : Option α → Json
  | none => .null
  | some value => write value

namespace Encoding

def name : Encoding → String
  | .inline => "Inline"
  | .structured => "Structured"

def toJson (encoding : Encoding) : Json := .text encoding.name

def reader : Reader Encoding := enumeration name [.inline, .structured]

end Encoding

namespace InlineTag

def toJson (tag : InlineTag) : Json := .text tag.name

def reader : Reader InlineTag := enumeration name [.scalar, .pointer]

end InlineTag

namespace HeaderLayout

def toJson (layout : HeaderLayout) : Json := .text layout.name

def reader : Reader HeaderLayout := enumeration name [.compact, .wide, .wideReserved]

end HeaderLayout

namespace InlineMetadata

def toJson (metadata : InlineMetadata) : Json :=
  .ofMembers [("tag", metadata.tag.toJson), ("value", .ofNat metadata.value.toNat)]

def reader : Reader InlineMetadata := fun budget document => do
  let fields ← record ["tag", "value"] false budget document
  let tag ← fields.required "tag" InlineTag.reader
  let value ← fields.required "value" Reader.word
  return ⟨tag, value⟩

end InlineMetadata

namespace StructuredMetadata

def toJson (metadata : StructuredMetadata) : Json :=
  .ofMembers
    [("version", .ofNat metadata.version.toNat), ("kind", .ofNat metadata.kind.toNat),
      ("payload", .array (metadata.payload.map fun byte => .ofNat byte.toNat))]

def reader : Reader StructuredMetadata := fun budget document => do
  let fields ← record ["version", "kind", "payload"] false budget document
  let version ← fields.required "version" Reader.halfWord
  let kind ← fields.required "kind" Reader.halfWord
  let payload ← fields.required "payload" (Reader.list Reader.byte)
  return ⟨version, kind, payload⟩

end StructuredMetadata

namespace MetadataValue

def toJson : MetadataValue → Json
  | .inline metadata => .tagged "Inline" metadata.toJson
  | .structured metadata => .tagged "Structured" metadata.toJson

def reader : Reader MetadataValue := fun budget document => do
  let found ← variant budget document
  match found.name with
  | "Inline" => (found.read InlineMetadata.reader).map .inline
  | "Structured" => (found.read StructuredMetadata.reader).map .structured
  | _ => none

end MetadataValue

namespace Errno

def toJson (errno : Errno) : Json := .ofInt errno.number.toInt

def reader : Reader Errno := fun budget document =>
  (Reader.signed Int32.size budget document).map fun number => ⟨.ofInt number⟩

end Errno

namespace Operation

def toJson : Operation → Json
  | .enable => .text "Enable"
  | .disable => .text "Disable"
  | .set encoding => .tagged "Set" encoding.toJson
  | .get encoding => .tagged "Get" encoding.toJson

def reader : Reader Operation := fun budget document => do
  let found ← variant budget document
  match found.name with
  | "Enable" => found.unit .enable
  | "Disable" => found.unit .disable
  | "Set" => (found.read Encoding.reader).map .set
  | "Get" => (found.read Encoding.reader).map .get
  | _ => none

end Operation

namespace OperationKind

def name : OperationKind → String
  | .enable => "Enable"
  | .disable => "Disable"
  | .set => "Set"
  | .get => "Get"

def toJson (kind : OperationKind) : Json := .text kind.name

def reader : Reader OperationKind := enumeration name [.enable, .disable, .set, .get]

end OperationKind

namespace ErrorKind

def toJson : ErrorKind → Json
  | .alreadyExpanded => .text "AlreadyExpanded"
  | .notExpanded => .text "NotExpanded"
  | .noData => .text "NoData"
  | .invalidArgument => .text "InvalidArgument"
  | .permissionDenied => .text "PermissionDenied"
  | .other errno => .tagged "Other" errno.toJson

def reader : Reader ErrorKind := fun budget document => do
  let found ← variant budget document
  match found.name with
  | "AlreadyExpanded" => found.unit .alreadyExpanded
  | "NotExpanded" => found.unit .notExpanded
  | "NoData" => found.unit .noData
  | "InvalidArgument" => found.unit .invalidArgument
  | "PermissionDenied" => found.unit .permissionDenied
  | "Other" => (found.read Errno.reader).map .other
  | _ => none

end ErrorKind

namespace OutcomeClass

def toJson : OutcomeClass → Json
  | .success => .text "Success"
  | .failure kind => .tagged "Failure" kind.toJson

def reader : Reader OutcomeClass := fun budget document => do
  let found ← variant budget document
  match found.name with
  | "Success" => found.unit .success
  | "Failure" => (found.read ErrorKind.reader).map .failure
  | _ => none

end OutcomeClass

namespace ClassifierRule

def toJson (rule : ClassifierRule) : Json :=
  .ofMembers
    [("operation", Json.ofOption OperationKind.toJson rule.operation),
      ("errno", rule.errno.toJson), ("kind", rule.kind.toJson)]

def reader : Reader ClassifierRule := fun budget document => do
  let fields ← record ["operation", "errno", "kind"] false budget document
  let operation ← fields.optional "operation" OperationKind.reader
  let errno ← fields.required "errno" Errno.reader
  let kind ← fields.required "kind" ErrorKind.reader
  return ⟨operation, errno, kind⟩

end ClassifierRule

namespace Classifier

def toJson (classifier : Classifier) : Json :=
  .ofMembers [("rules", .array (classifier.rules.map ClassifierRule.toJson))]

def reader : Reader Classifier := fun budget document => do
  let fields ← record ["rules"] false budget document
  let rules ← fields.required "rules" (Reader.list ClassifierRule.reader)
  return ⟨rules⟩

end Classifier

namespace Lifecycle

def toJson (state : Lifecycle) : Json := .text state.name

def reader : Reader Lifecycle := enumeration name [.unexpanded, .expanded]

end Lifecycle

namespace UnsetRead

def name : UnsetRead → String
  | .noData => "NoData"
  | .zeroed => "Zeroed"

def toJson (unsetRead : UnsetRead) : Json := .text unsetRead.name

def reader : Reader UnsetRead := enumeration name [.noData, .zeroed]

end UnsetRead

namespace Contract

def toJson (contract : Contract) : Json :=
  .ofMembers
    [("auto_expand_on_set", .bool contract.autoExpandOnSet),
      ("unset_read", contract.unsetRead.toJson)]

def reader : Reader Contract := fun budget document => do
  let fields ← record ["auto_expand_on_set", "unset_read"] false budget document
  let autoExpandOnSet ← fields.required "auto_expand_on_set" Reader.bool
  let unsetRead ← fields.required "unset_read" UnsetRead.reader
  return ⟨autoExpandOnSet, unsetRead⟩

end Contract

end PageMetadata
