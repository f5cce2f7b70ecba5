import PageMetadata.Scenario.Basic
import PageMetadata.Serial.Outcome

/-! # Scenarios as documents

Steps may contain steps, so the depth of a scenario's document is bounded only by the number of
containers that a reader may open.
-/

namespace PageMetadata

open Json

namespace ValueSpec

def toJson : ValueSpec → Json
  | .fixed value => .tagged "Fixed" value.toJson
  | .inlineSequence tag start =>
    .tagged "InlineSequence"
      (.ofMembers [("tag", tag.toJson), ("start", .ofNat start.toNat)])

private def sequenceReader : Reader ValueSpec := fun budget document => do
  let fields ← record ["tag", "start"] false budget document
  let tag ← fields.required "tag" InlineTag.reader
  let start ← fields.required "start" Reader.word
  return .inlineSequence tag start

def reader : Reader ValueSpec := fun budget document => do
  let found ← variant budget document
  match found.name with
  | "Fixed" => (found.read MetadataValue.reader).map .fixed
  | "InlineSequence" => found.read sequenceReader
  | _ => none

end ValueSpec

namespace StepCall

def toJson : StepCall → Json
  | .enable page => .tagged "Enable" (.ofNat page)
  | .disable page => .tagged "Disable" (.ofNat page)
  | .set page value => .tagged "Set" (.array [.ofNat page, value.toJson])
  | .get page encoding => .tagged "Get" (.array [.ofNat page, encoding.toJson])

def reader : Reader StepCall := fun budget document => do
  let found ← variant budget document
  match found.name with
  | "Enable" => (found.read Reader.count).map .enable
  | "Disable" => (found.read Reader.count).map .disable
  | "Set" =>
    (found.read (Reader.pair Reader.count ValueSpec.reader)).map fun (page, value) =>
      .set page value
  | "Get" =>
    (found.read (Reader.pair Reader.count Encoding.reader)).map fun (page, encoding) =>
      .get page encoding
  | _ => none

end StepCall

namespace Expectation

def toJson : Expectation → Json
  | .model => .text "Model"
  | .success => .text "Success"
  | .value spec => .tagged "Value" spec.toJson
  | .failure kind => .tagged "Failure" kind.toJson

def reader : Reader Expectation := fun budget document => do
  let found ← variant budget document
  match found.name with
  | "Model" => found.unit .model
  | "Success" => found.unit .success
  | "Value" => (found.read ValueSpec.reader).map .value
  | "Failure" => (found.read ErrorKind.reader).map .failure
  | _ => none

end Expectation

namespace Step

mutual

def toJson : Step → Json
  | .call stepCall expectation =>
    .tagged "Call"
      (.ofMembers [("call", stepCall.toJson), ("expect", expectation.toJson)])
  | .loop iterations steps =>
    .tagged "Repeat"
      (.ofMembers [("iterations", .ofNat iterations.toNat), ("steps", .array (listToJson steps))])
  | .checkAllPages => .text "CheckAllPages"
  | .assertLifecycle page state =>
    .tagged "AssertLifecycle" (.ofMembers [("page", .ofNat page), ("state", state.toJson)])

def listToJson : List Step → List Json
  | [] => []
  | step :: steps => step.toJson :: listToJson steps

end

private def callReader : Reader Step := fun budget document => do
  let fields ← record ["call", "expect"] false budget document
  let stepCall ← fields.required "call" StepCall.reader
  let expectation ← fields.required "expect" Expectation.reader
  return .call stepCall expectation

private def loopReader (nested : Reader Step) : Reader Step := fun budget document => do
  let fields ← record ["iterations", "steps"] false budget document
  let iterations ← fields.required "iterations" Reader.halfWord
  let steps ← fields.required "steps" (Reader.list nested)
  return .loop iterations steps

private def lifecycleReader : Reader Step := fun budget document => do
  let fields ← record ["page", "state"] false budget document
  let page ← fields.required "page" Reader.count
  let state ← fields.required "state" Lifecycle.reader
  return .assertLifecycle page state

/-- Steps with steps inside, `depth` levels down. -/
private def nestedReader : (depth : Nat) → Reader Step
  | 0 => fun _ _ => none
  | depth + 1 => fun budget document => do
    let found ← variant budget document
    match found.name with
    | "Call" => found.read callReader
    | "Repeat" => found.read (loopReader (nestedReader depth))
    | "CheckAllPages" => found.unit .checkAllPages
    | "AssertLifecycle" => found.read lifecycleReader
    | _ => none

/-- Each level of steps opens a container, so the budget bounds the depth. -/
def reader : Reader Step := fun budget document => nestedReader (budget + 1) budget document

end Step

namespace Assertion

private def operationJson (operation : Operation) : Json :=
  .ofMembers [("operation", operation.toJson)]

def toJson : Assertion → Json
  | .expansionCostVisible operation =>
    .tagged "ExpansionCostVisible" (operationJson operation)
  | .statsAvailable operation => .tagged "StatsAvailable" (operationJson operation)

private def operationReader : Reader Operation := fun budget document => do
  let fields ← record ["operation"] false budget document
  fields.required "operation" Operation.reader

def reader : Reader Assertion := fun budget document => do
  let found ← variant budget document
  match found.name with
  | "ExpansionCostVisible" => (found.read operationReader).map .expansionCostVisible
  | "StatsAvailable" => (found.read operationReader).map .statsAvailable
  | _ => none

end Assertion

namespace Scenario

def toJson (scenario : Scenario) : Json :=
  .ofMembers
    [("name", .text scenario.name), ("pages", .ofNat scenario.pages),
      ("one_table", .bool scenario.oneTable), ("model", scenario.contract.toJson),
      ("steps", .array (Step.listToJson scenario.steps)),
      ("assertions", .array (scenario.assertions.map Assertion.toJson))]

def reader : Reader Scenario := fun budget document => do
  let fields ←
    record ["name", "pages", "one_table", "model", "steps", "assertions"] false budget document
  let name ← fields.required "name" Reader.text
  let pages ← fields.required "pages" Reader.count
  let oneTable ← fields.required "one_table" Reader.bool
  let contract ← fields.required "model" Contract.reader
  let steps ← fields.required "steps" (Reader.list Step.reader)
  let assertions ← fields.required "assertions" (Reader.list Assertion.reader)
  return ⟨name, pages, oneTable, contract, steps, assertions⟩

end Scenario

end PageMetadata
