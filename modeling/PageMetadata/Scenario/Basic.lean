import PageMetadata.Contract
import PageMetadata.Operation

/-! # Scenarios

A scenario is plain data: the pages it needs, the contract it assumes, the steps to perform and the
assertions about their times. Steps address pages by their index within the region. A value may
depend on the number of the iteration that the step is performed in.
-/

namespace PageMetadata

inductive ValueSpec where
  | fixed (value : MetadataValue)
  /-- An inline value that grows by one with each iteration. -/
  | inlineSequence (tag : InlineTag) (start : UInt64)
deriving DecidableEq, Repr

namespace ValueSpec

/-- The value for an iteration. Counting wraps around. -/
def resolve (spec : ValueSpec) (iteration : UInt32) : MetadataValue :=
  match spec with
  | .fixed value => value
  | .inlineSequence tag start => .inline ⟨tag, start + iteration.toUInt64⟩

end ValueSpec

/-- A call on a page. -/
inductive StepCall where
  | enable (page : Nat)
  | disable (page : Nat)
  | set (page : Nat) (value : ValueSpec)
  | get (page : Nat) (encoding : Encoding)
deriving DecidableEq, Repr

def StepCall.page : StepCall → Nat
  | .enable page => page
  | .disable page => page
  | .set page _ => page
  | .get page _ => page

/-- What a step requires of its call, beyond what the model predicts. -/
inductive Expectation where
  /-- Nothing more than the prediction. -/
  | model
  | success
  /-- A successful read of this value. -/
  | value (spec : ValueSpec)
  | failure (kind : ErrorKind)
deriving DecidableEq, Repr

inductive Step where
  | call (call : StepCall) (expectation : Expectation)
  | loop (iterations : UInt32) (steps : List Step)
  /-- Reads every page and compares it with the model. -/
  | checkAllPages
  /-- The model must hold this lifecycle for the table of a page. -/
  | assertLifecycle (page : Nat) (state : Lifecycle)
deriving Repr

namespace Step

/-- A call that must end as the model predicts. -/
def predicted (call : StepCall) : Step := .call call .model

/-- Replaces the expectation of a call; other steps have none. -/
def expecting (step : Step) (expectation : Expectation) : Step :=
  match step with
  | .call stepCall _ => .call stepCall expectation
  | other => other

/-- The page of a call; other steps have none. -/
def target? : Step → Option Nat
  | .call stepCall _ => some stepCall.page
  | _ => none

end Step

/-- A condition on the times of an operation. -/
inductive Assertion where
  /-- The first call took longer than the later ones in the mean. -/
  | expansionCostVisible (operation : Operation)
  /-- The operation was called. -/
  | statsAvailable (operation : Operation)
deriving DecidableEq, Repr

def Assertion.name : Assertion → String
  | .expansionCostVisible operation => "expansion cost visible in " ++ operation.name
  | .statsAvailable operation => "statistics available for " ++ operation.name

structure Scenario where
  name : String
  pages : Nat
  /-- All pages must be mapped by one table. -/
  oneTable : Bool
  contract : Contract
  steps : List Step
  assertions : List Assertion

namespace Scenario

/-- One page and nothing to do. -/
def new (name : String) (contract : Contract) : Scenario where
  name
  pages := 1
  oneTable := false
  contract
  steps := []
  assertions := []

/-- So many pages, all mapped by one table. -/
def withPagesInTable (scenario : Scenario) (pages : Nat) : Scenario :=
  { scenario with pages, oneTable := true }

/-- The steps are added at the end. -/
def withSteps (scenario : Scenario) (steps : List Step) : Scenario :=
  { scenario with steps := scenario.steps ++ steps }

/-- The assertions are added at the end. -/
def withAssertions (scenario : Scenario) (assertions : List Assertion) : Scenario :=
  { scenario with assertions := scenario.assertions ++ assertions }

end Scenario

end PageMetadata
