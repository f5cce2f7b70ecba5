import PageMetadata.Call
import PageMetadata.Error
import PageMetadata.Registry

/-! # The expected state of page tables

The model holds what a collaborator that keeps the contract must hold: the lifecycle of every table
that a call touched, and the last value written to every page. It predicts each call, compares the
prediction with what was observed, and follows the calls that succeeded.
-/

namespace PageMetadata

/-- A predicted `get` carries the value it must return. -/
inductive Prediction where
  | success (value : Option MetadataValue)
  | failure (kind : ErrorKind)
deriving DecidableEq

namespace Prediction

def outcome : Prediction → OutcomeClass
  | .success _ => .success
  | .failure kind => .failure kind

/-- Where both a value is predicted and one was read, the two must agree. -/
def checkRetrieved : Prediction → Option MetadataValue → Except CodecError Unit
  | .success (some expected), some value => expected.verifyRoundTrip value
  | _, _ => .ok ()

end Prediction

structure TableState where
  lifecycle : Lifecycle
  /-- The first address through which the table was touched. -/
  anchor : Address
  /-- The last value written to each page since the table was expanded. -/
  pages : Registry UInt32 MetadataValue

namespace TableState

/-- A table after a successful call on one of its pages. -/
def follow (state : TableState) (page : UInt32) : Call → TableState
  | .enable _ => { state with lifecycle := .expanded }
  | .disable _ => { state with lifecycle := .unexpanded, pages := .empty }
  | .set _ value => { state with lifecycle := .expanded, pages := state.pages.insert page value }
  | .get _ _ => state

end TableState

structure Model where
  geometry : PageGeometry
  contract : Contract
  tables : Registry Address TableState

namespace Model

/-- No table was touched. -/
def empty (geometry : PageGeometry) (contract : Contract) : Model :=
  ⟨geometry, contract, .empty⟩

/-- Every table is forgotten. -/
def reset (model : Model) : Model := { model with tables := .empty }

/-- What is known about the table of an address. -/
def table? (model : Model) (address : Address) : Option TableState :=
  model.tables.get? (model.geometry.tableOf address)

/-- The lifecycle of the table of an address; an untouched table is unexpanded. -/
def lifecycle (model : Model) (address : Address) : Lifecycle :=
  match model.table? address with
  | none => .unexpanded
  | some state => state.lifecycle

/-- The last value written to the page of an address. -/
def value? (model : Model) (address : Address) : Option MetadataValue := do
  let state ← model.table? address
  state.pages.get? (model.geometry.pageIndex address)

/-- The expanded tables with their anchors, in the order in which they were first touched. -/
def expandedTables (model : Model) : List (Address × Address) :=
  (model.tables.entries.filter fun (_, state) => state.lifecycle = .expanded).map
    fun (table, state) => (table, state.anchor)

/-- What a read of an expanded table must give. -/
def predictRead (model : Model) (address : Address) (encoding : Encoding) : Prediction :=
  match model.value? address with
  | some value =>
    if value.encoding = encoding then .success (some value) else .failure .invalidArgument
  | none =>
    match model.contract.unsetRead, encoding with
    | .zeroed, .inline => .success (some (.inline ⟨.scalar, 0⟩))
    | _, _ => .failure .noData

/-- How the contract says that a call must end. -/
def predict (model : Model) (call : Call) : Prediction :=
  match call, model.lifecycle call.address with
  | .enable _, .unexpanded => .success none
  | .enable _, .expanded => .failure .alreadyExpanded
  | .disable _, .expanded => .success none
  | .disable _, .unexpanded => .failure .notExpanded
  | .set _ _, .expanded => .success none
  | .set _ _, .unexpanded =>
    if model.contract.autoExpandOnSet then .success none else .failure .notExpanded
  | .get _ _, .unexpanded => .failure .noData
  | .get address encoding, .expanded => model.predictRead address encoding

/-- The model after a successful call. The first call on a table leaves its address as anchor. -/
def follow (model : Model) (call : Call) : Model :=
  let address := call.address
  let page := model.geometry.pageIndex address
  { model with
    tables := model.tables.alter (model.geometry.tableOf address) fun state =>
      (state.getD ⟨.unexpanded, address, .empty⟩).follow page call }

/-- The report of an outcome that was not predicted. -/
def violation (model : Model) (call : Call) (observed : OutcomeClass) : StateViolation where
  table := model.geometry.tableOf call.address
  page := model.geometry.pageIndex call.address
  operation := call.operation
  state := model.lifecycle call.address
  expected := (model.predict call).outcome
  observed := observed

/-- Checks an observed outcome, and the value that a `get` returned, against the prediction. The
model follows a success; a refused observation leaves no model. -/
def observe (model : Model) (call : Call) (observed : OutcomeClass)
    (retrieved : Option MetadataValue) : Except Error Model :=
  let prediction := model.predict call
  if prediction.outcome = observed then
    match prediction.checkRetrieved retrieved with
    | .error error => .error (.codec error)
    | .ok () => .ok (if observed = .success then model.follow call else model)
  else .error (.stateViolation (model.violation call observed))

end Model

end PageMetadata
