import PageMetadata.Client
import PageMetadata.Model
import PageMetadata.Pattern
import PageMetadata.Region
import PageMetadata.Runner.Assertion
import PageMetadata.Scenario.Position
import PageMetadata.Suite

/-! # Running a scenario

A run has four phases. Setup acquires the region, stamps it with the pattern and examines it. The
steps are then performed one by one: the region is examined before and after every call, and the
answer is compared with the step's expectation and with the model. After the steps the region is
examined again and the assertions are checked. Teardown disables the tables that are still expanded
and releases the region.

The first failure ends the steps and the checks; teardown follows in any case once setup succeeded.
After a failure the collaborator may hold tables that the model does not know to be expanded, so
then every table of the region is disabled.
-/

namespace PageMetadata

/-- What the host adds to one scenario: where it places mappings, whether it locks and unlocks them,
and how long things take. -/
structure Host where
  mappings : Nat → Mapping
  /-- The answers to the requests to lock the mappings in physical memory. -/
  locks : Nat → Except Errno Unit := fun _ => .ok ()
  /-- The answer to the request to unlock the region. -/
  unlock : Except Errno Unit := .ok ()
  allocationTime : Duration
  stampTime : Duration
  totalTime : Duration

structure Runner (σ : Type) where
  client : Client σ
  geometry : PageGeometry
  pattern : Pattern
  /-- Regions are locked in physical memory. -/
  pinMemory : Bool

/-- A scenario between setup and teardown. -/
structure Execution (σ : Type) where
  region : Region
  session : Session σ
  model : Model
  stage : Stage

/-- The session that teardown starts with: what is called there is not timed with the steps. -/
def Execution.leaving {σ : Type} (execution : Execution σ) : Session σ :=
  execution.session.clearStats.enter execution.session.memory

/-- An error, with the execution as it was when the error arose. -/
structure Interruption (σ : Type) where
  error : Error
  execution : Execution σ

/-- An execution that goes on, or the interruption that ended it. -/
abbrev Progress (σ : Type) := Except (Interruption σ) (Execution σ)

/-- What went wrong, and where. -/
structure Failure where
  stage : Stage
  error : Error
deriving DecidableEq

namespace StepCall

/-- The call at an address, with the value of an iteration. -/
def resolve (call : StepCall) (address : Address) (iteration : UInt32) : Call :=
  match call with
  | .enable _ => .enable address
  | .disable _ => .disable address
  | .set _ value => .set address (value.resolve iteration)
  | .get _ encoding => .get address encoding

end StepCall

namespace Expectation

/-- The outcome that is required, if any is. -/
def outcome? : Expectation → Option OutcomeClass
  | .model => none
  | .success => some .success
  | .value _ => some .success
  | .failure kind => some (.failure kind)

/-- Where a value is required and one was read, the two must agree. -/
def checkValue (expectation : Expectation) (retrieved : Option MetadataValue)
    (iteration : UInt32) : Except CodecError Unit :=
  match expectation, retrieved with
  | .value spec, some found => (spec.resolve iteration).verifyRoundTrip found
  | _, _ => .ok ()

/-- The outcome is checked before the value. -/
def check (expectation : Expectation) (call : Call) (observed : OutcomeClass)
    (retrieved : Option MetadataValue) (iteration : UInt32) : Except Error Unit :=
  match expectation.outcome? with
  | none => .ok ()
  | some expected =>
    if observed = expected then
      (expectation.checkValue retrieved iteration).mapError .codec
    else .error (.unexpectedOutcome call.operation call.address expected observed)

/-- The payload bytes that a read is given room for: those of the value that is required, or else
those of the value that the model holds. -/
def payloadLength (expectation : Expectation) (model : Model) (address : Address)
    (iteration : UInt32) : Nat :=
  match expectation with
  | .value spec => (spec.resolve iteration).payloadLength
  | _ =>
    match model.value? address with
    | some held => held.payloadLength
    | none => 0

end Expectation

/-- Performs `body` for consecutive numbers from `next` on, until one fails. -/
def iterate {ε α : Type} (body : Nat → α → Except ε α) : (count next : Nat) → α → Except ε α
  | 0, _, start => .ok start
  | count + 1, next, start =>
    match body next start with
    | .error error => .error error
    | .ok reached => iterate body count (next + 1) reached

namespace Runner

variable {σ : Type}

/-- The runner of a suite. -/
def ofSuite (suite : Suite) (collaborator : Collaborator σ) : Except Error (Runner σ) := do
  let geometry ← suite.geometry
  return ⟨⟨collaborator, suite.classifier, suite.headerLayout⟩, geometry, suite.pattern,
    suite.pinMemory⟩

/-- The region must carry the pattern. -/
def examine (runner : Runner σ) (session : Session σ) (moment : String) : Except Error Unit :=
  (runner.pattern.verify session.memory.bytes moment).mapError .patternMismatch

/-- Judges an answer: the region comes first, then whether there is an answer at all, then the
step's expectation, then the model. -/
def judge (runner : Runner σ) (execution : Execution σ) (call : Call) (expectation : Expectation)
    (iteration : UInt32) (answer : Except CodecError (Outcome (Option MetadataValue))) :
    Except Error Model := do
  runner.examine execution.session ("after " ++ execution.stage.text)
  let outcome ← answer.mapError .codec
  let observed := OutcomeClass.ofExcept outcome
  let retrieved := outcome.toOption.join
  expectation.check call observed retrieved iteration
  execution.model.observe call observed retrieved

/-- Performs one call. -/
def performCall (runner : Runner σ) (occurrence : Occurrence) (iteration : UInt32)
    (stepCall : StepCall) (expectation : Expectation) (execution : Execution σ) : Progress σ :=
  match execution.region.page? stepCall.page with
  | none => .error ⟨.pageOutsideRegion, execution⟩
  | some address =>
    let call := stepCall.resolve address iteration
    let execution :=
      { execution with stage := .call occurrence call.operation stepCall.page }
    match runner.examine execution.session ("before " ++ execution.stage.text) with
    | .error error => .error ⟨error, execution⟩
    | .ok () =>
      let payloadLength := expectation.payloadLength execution.model address iteration
      let (answer, session) := runner.client.call execution.session call payloadLength
      let execution := { execution with session }
      match runner.judge execution call expectation iteration answer with
      | .error error => .error ⟨error, execution⟩
      | .ok model => .ok { execution with model }

/-- Reads a page in the encoding of the value that the model holds for it. -/
def readPage (runner : Runner σ) (position : Position) (iteration : UInt32) (page : Nat)
    (execution : Execution σ) : Progress σ :=
  let encoding :=
    match (execution.region.page? page).bind execution.model.value? with
    | some value => value.encoding
    | none => .inline
  runner.performCall ⟨position, some page⟩ iteration (.get page encoding) .model execution

/-- The model's lifecycle of a page's table must be the given one. -/
def checkLifecycle (position : Position) (page : Nat) (state : Lifecycle)
    (execution : Execution σ) : Progress σ :=
  let execution := { execution with stage := .lifecycle position page }
  match execution.region.page? page with
  | none => .error ⟨.pageOutsideRegion, execution⟩
  | some address =>
    let held := execution.model.lifecycle address
    if held = state then .ok execution
    else
      let assertion := "table of page " ++ toString page ++ " is " ++ state.name
      .error ⟨.assertionFailed assertion (.modelHolds held), execution⟩

mutual

/-- Performs a step at its position, within an iteration. -/
def performStep (runner : Runner σ) (position : Position) (iteration : UInt32) :
    Step → Execution σ → Progress σ
  | .call stepCall expectation, execution =>
    runner.performCall (.ofPosition position) iteration stepCall expectation execution
  | .loop iterations steps, execution =>
    iterate
      (fun number execution =>
        runner.performSteps (position.within number) 0 (.ofNat number) steps execution)
      iterations.toNat 0 execution
  | .checkAllPages, execution =>
    iterate (runner.readPage position iteration) execution.region.pageCount 0 execution
  | .assertLifecycle page state, execution => checkLifecycle position page state execution

/-- Performs steps one after another; `place` is the position of the step of an index. -/
def performSteps (runner : Runner σ) (place : Nat → Position) (index : Nat)
    (iteration : UInt32) : List Step → Execution σ → Progress σ
  | [], execution => .ok execution
  | step :: steps, execution =>
    match runner.performStep (place index) iteration step execution with
    | .error interruption => .error interruption
    | .ok reached => runner.performSteps place (index + 1) iteration steps reached

end

/-- Checks the assertions in order; the first one that does not hold fails. -/
def checkAssertions (stats : Stats) :
    List Assertion → Except ArithmeticError (Except Failure Unit)
  | [] => .ok (.ok ())
  | assertion :: assertions => do
    match ← assertion.check stats with
    | some detail =>
      return .error ⟨.assertion assertion, .assertionFailed assertion.name detail⟩
    | none => checkAssertions stats assertions

/-- The checks after the last step. -/
def checkAfterwards (runner : Runner σ) (scenario : Scenario) (session : Session σ) :
    Except ArithmeticError (Except Failure Unit) :=
  match runner.examine session "at verify" with
  | .error error => .ok (.error ⟨.verify, error⟩)
  | .ok () => checkAssertions session.stats scenario.assertions

/-- The first page of each table that is not among those swept already. -/
def unswept (geometry : PageGeometry) (swept : List Address) : List Address → List Address
  | [] => []
  | page :: pages =>
    let table := geometry.tableOf page
    if table ∈ swept then unswept geometry swept pages
    else page :: unswept geometry (table :: swept) pages

/-- The addresses at which teardown disables a table: the anchors of the tables that the model holds
expanded, and after a failure a page of each other table of the region. -/
def teardownTargets (execution : Execution σ) (failed : Bool) : List Address :=
  let expanded := execution.model.expandedTables
  expanded.map Prod.snd
    ++ (if failed then
        unswept execution.region.geometry (expanded.map Prod.fst) execution.region.pages
      else [])

/-- Disables the tables one after another, whatever the answers. -/
def disableAll (client : Client σ) (session : Session σ) (targets : List Address) : Session σ :=
  targets.foldl (fun session target => (client.disable session target).2) session

/-- The mappings that a region is looked for in. -/
def mappings (runner : Runner σ) (host : Host) (number : Nat) : Mapping :=
  if runner.pinMemory then (host.mappings number).locked runner.geometry (host.locks number)
  else host.mappings number

/-- A region for a scenario. -/
def acquireRegion (runner : Runner σ) (host : Host) (scenario : Scenario) :
    Except Error Region :=
  let acquisition :=
    if scenario.oneTable then
      Region.acquireInTable runner.geometry scenario.pages (runner.mappings host)
    else Region.acquire runner.geometry scenario.pages (runner.mappings host 0)
  acquisition.result.mapError (.allocation scenario.pages)

/-- A region that was locked is unlocked before it is given back. -/
def release (runner : Runner σ) (host : Host) : Except Error Unit :=
  if runner.pinMemory then host.unlock.mapError .host else .ok ()

/-- The region is given back intact. -/
def handBack (runner : Runner σ) (host : Host) (session : Session σ) : Except Error Unit := do
  runner.examine session "after teardown"
  runner.release host

/-- The execution before the first step: the region is stamped and nothing is known of any table. -/
def setup (runner : Runner σ) (host : Host) (scenario : Scenario) (region : Region)
    (session : Session σ) : Execution σ where
  region
  session :=
    ((session.enter { region.memory with bytes := runner.pattern.stamp region.length }).record
      "page_allocation" host.allocationTime).record "pattern_stamp" host.stampTime
  model := .empty runner.geometry scenario.contract
  stage := .operate

end Runner

/-- A scenario that was run. -/
structure Run (σ : Type) where
  /-- The region, if setup succeeded. -/
  region : Option Region
  result : Except Failure Unit
  /-- The times of setup and of the steps. -/
  stats : Stats
  /-- The exchanges of the steps. -/
  operated : Array Exchange
  /-- The exchanges of teardown. -/
  tornDown : Array Exchange
  elapsed : Duration
  /-- The client's session afterwards, without timings. -/
  session : Session σ

namespace Runner

variable {σ : Type}

/-- A scenario that got no further than setup. -/
def abandon (host : Host) (session : Session σ) (error : Error) : Run σ where
  region := none
  result := .error ⟨.setup, error⟩
  stats := session.stats
  operated := #[]
  tornDown := #[]
  elapsed := host.totalTime
  session := session.clearStats.enter .empty

/-- Teardown of an execution that ended with `result`; a success still needs an intact region that
can be released. -/
def finish (runner : Runner σ) (host : Host) (execution : Execution σ)
    (result : Except Failure Unit) : Run σ :=
  let failed := !result.isOk
  let after := disableAll runner.client execution.leaving (teardownTargets execution failed)
  let result :=
    match result with
    | .error failure => .error failure
    | .ok () => (runner.handBack host after).mapError fun error => ⟨.teardown, error⟩
  { region := some execution.region
    result
    stats := execution.session.stats
    operated := execution.session.exchanges
    tornDown := after.exchanges
    elapsed := host.totalTime
    session := after.clearStats.enter .empty }

/-- Runs a scenario. What the session holds from before is neither used nor kept, apart from the
collaborator. -/
def run (runner : Runner σ) (host : Host) (session : Session σ) (scenario : Scenario) :
    Except ArithmeticError (Run σ) :=
  let session := session.clearStats
  match runner.acquireRegion host scenario with
  | .error error => .ok (abandon host session error)
  | .ok region =>
    let execution := runner.setup host scenario region session
    match runner.examine execution.session "after stamping" with
    | .error error => .ok (abandon host execution.session error)
    | .ok () =>
      match runner.performSteps Position.top 0 0 scenario.steps execution with
      | .error interruption =>
        let execution := interruption.execution
        .ok (runner.finish host execution (.error ⟨execution.stage, interruption.error⟩))
      | .ok execution => do
        let result ← runner.checkAfterwards scenario execution.session
        return runner.finish host execution result

/-- Runs scenarios one after another on the same collaborator; `hosts` gives the host's part of each
scenario by its number. -/
def runAll (runner : Runner σ) (hosts : Nat → Host) (session : Session σ) :
    (number : Nat) → List Scenario → Except ArithmeticError (List (Run σ) × Session σ)
  | _, [] => .ok ([], session)
  | number, scenario :: scenarios => do
    let first ← runner.run (hosts number) session scenario
    let (rest, session) ← runner.runAll hosts first.session (number + 1) scenarios
    return (first :: rest, session)

end Runner

end PageMetadata
