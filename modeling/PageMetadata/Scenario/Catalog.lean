import PageMetadata.Codec.Inline
import PageMetadata.Scenario.Basic
import PageMetadata.Suite

/-! # The standard scenarios

Every scenario of the catalog follows the suite's contract. A collaborator that keeps the contract
passes them all, if a table maps the pages they need, the stress scenarios perform their steps at
least once, and the cost of an expansion shows in the times. Where the contract leaves a choice the
scenario has two variants; the variants that the suite's contract does not choose are the
alternatives, which such a collaborator fails.
-/

namespace PageMetadata.Catalog

/-- The inline value of the scenarios with one page. -/
def inlineValue : UInt64 := 0xcafebabe

/-- A word that uses all of its bits. -/
def directWord : UInt64 := 0xcafebabedeadbeef

def structuredPayload : List UInt8 :=
  [0xde, 0xad, 0xbe, 0xef, 0xca, 0xfe, 0xba, 0xbe, 0x01, 0x23, 0x45, 0x67, 0x89, 0xab, 0xcd, 0xef]

/-- Pages of the scenario with several pages. -/
def multiPageCount : Nat := 4

private def enable (page : Nat) : Step := .predicted (.enable page)

private def disable (page : Nat) : Step := .predicted (.disable page)

private def set (page : Nat) (value : MetadataValue) : Step :=
  .predicted (.set page (.fixed value))

private def getInline (page : Nat) : Step := .predicted (.get page .inline)

private def succeeds (step : Step) : Step := step.expecting .success

private def fails (step : Step) (kind : ErrorKind) : Step := step.expecting (.failure kind)

private def returns (step : Step) (value : MetadataValue) : Step :=
  step.expecting (.value (.fixed value))

private def pointer (value : UInt64) : MetadataValue := .inline ⟨.pointer, value⟩

private def scalar (value : UInt64) : MetadataValue := .inline ⟨.scalar, value⟩

private def word (word : UInt64) : MetadataValue := .inline (.decode word)

/-- The outcome of reading an unset page of an expanded table. -/
private def unsetReadOf (contract : Contract) : Expectation :=
  match contract.unsetRead with
  | .noData => .failure .noData
  | .zeroed => .value (.fixed (scalar 0))

/-- The region is stamped and examined without any call. -/
def pageIntegrity (contract : Contract) : Scenario := .new "page-integrity" contract

def basicInline (contract : Contract) : Scenario :=
  (Scenario.new "basic-inline" contract).withSteps
    [succeeds (enable 0), succeeds (set 0 (pointer inlineValue)),
      returns (getInline 0) (pointer inlineValue), succeeds (disable 0)]

def inlineDirectWord (contract : Contract) : Scenario :=
  (Scenario.new "inline-direct-word" contract).withSteps
    [enable 0, set 0 (word directWord), returns (getInline 0) (word directWord), disable 0]

def structured (contract : Contract) : Scenario :=
  let value := MetadataValue.structured ⟨1, 0x1234, structuredPayload⟩
  (Scenario.new "structured" contract).withSteps
    [succeeds (enable 0), succeeds (set 0 value),
      returns (.predicted (.get 0 .structured)) value, succeeds (disable 0)]

/-- Both tags are kept on the same page. -/
def pointerTag (contract : Contract) : Scenario :=
  (Scenario.new "pointer-tag" contract).withSteps
    [enable 0, set 0 (scalar 0x12345678), returns (getInline 0) (scalar 0x12345678),
      set 0 (pointer 0x12345678), returns (getInline 0) (pointer 0x12345678), disable 0]

private def pageWord (page : Nat) : MetadataValue :=
  word (0xdeadbeef00000000 ||| UInt64.ofNat page)

/-- The pages of one table carry values of their own: all are read after each is set. -/
def multiPage (contract : Contract) : Scenario :=
  let pages := List.range multiPageCount
  ((Scenario.new "multi-page" contract).withPagesInTable multiPageCount).withSteps
    (succeeds (enable 0)
      :: pages.flatMap (fun page => [succeeds (set page (pageWord page)), .checkAllPages])
      ++ pages.map (fun page => returns (getInline page) (pageWord page))
      ++ [succeeds (disable 0)])

def doubleEnable (contract : Contract) : Scenario :=
  (Scenario.new "double-enable" contract).withSteps
    [succeeds (enable 0), fails (enable 0) .alreadyExpanded, .assertLifecycle 0 .expanded,
      succeeds (disable 0)]

def neverEnabled (contract : Contract) : Scenario :=
  (Scenario.new "never-enabled" contract).withSteps
    [fails (getInline 0) .noData, fails (disable 0) .notExpanded,
      .assertLifecycle 0 .unexpanded]

def enableDisableCycle (contract : Contract) : Scenario :=
  (Scenario.new "enable-disable-cycle" contract).withSteps
    [.loop 2 [succeeds (enable 0), succeeds (disable 0)]]

/-- A value does not outlive its table's expansion. -/
def disableClears (contract : Contract) : Scenario :=
  (Scenario.new "disable-clears" contract).withSteps
    [enable 0, set 0 (scalar 0x42), returns (getInline 0) (scalar 0x42), disable 0, enable 0,
      getInline 0, disable 0]

def getBeforeSet (contract : Contract) : Scenario :=
  let name :=
    match contract.unsetRead with
    | .noData => "get-before-set"
    | .zeroed => "get-before-set-zeroed"
  (Scenario.new name contract).withSteps
    [enable 0, (getInline 0).expecting (unsetReadOf contract), disable 0]

/-- A table is expanded and torn down before a value is set and read. -/
def stepwise (contract : Contract) : Scenario :=
  let again := if contract.autoExpandOnSet then [] else [succeeds (enable 0)]
  (Scenario.new "stepwise" contract).withSteps
    ([succeeds (enable 0), (getInline 0).expecting (unsetReadOf contract), succeeds (disable 0)]
      ++ again
      ++ [succeeds (set 0 (pointer inlineValue)), returns (getInline 0) (pointer inlineValue),
        succeeds (disable 0)])

def setWithoutEnable (contract : Contract) : Scenario :=
  if contract.autoExpandOnSet then
    (Scenario.new "set-without-enable" contract).withSteps
      [succeeds (set 0 (pointer inlineValue)), .assertLifecycle 0 .expanded,
        returns (getInline 0) (pointer inlineValue), succeeds (disable 0)]
  else
    (Scenario.new "set-without-enable-rejected" contract).withSteps
      [fails (set 0 (pointer inlineValue)) .notExpanded, .assertLifecycle 0 .unexpanded,
        fails (getInline 0) .noData]

/-- The first value set on a table pays for the expansion. -/
def setTiming (contract : Contract) : Scenario :=
  ((Scenario.new "set-timing" { contract with autoExpandOnSet := true }).withSteps
    [succeeds (set 0 (pointer inlineValue)), succeeds (set 0 (pointer 0xdeadbeef)),
      returns (getInline 0) (pointer 0xdeadbeef), succeeds (disable 0)]).withAssertions
    [.expansionCostVisible (.set .inline)]

def lifecycleStress (contract : Contract) (iterations : UInt32) : Scenario :=
  ((Scenario.new "lifecycle-stress" contract).withSteps
    [.loop iterations
      [succeeds (enable 0), succeeds (set 0 (pointer inlineValue)),
        returns (getInline 0) (pointer inlineValue), succeeds (disable 0)]]).withAssertions
    [.statsAvailable .enable, .statsAvailable (.set .inline), .statsAvailable (.get .inline),
      .statsAvailable .disable]

/-- Growing values, each read right after it was set. Where setting expands the table, the first
call has to show the cost. -/
def inlineStress (contract : Contract) (iterations : UInt32) : Scenario :=
  let growing := ValueSpec.inlineSequence .scalar 1
  let expansion := if contract.autoExpandOnSet then [] else [succeeds (enable 0)]
  let cost :=
    if contract.autoExpandOnSet then [Assertion.expansionCostVisible (.set .inline)] else []
  ((Scenario.new "inline-stress" contract).withSteps
    (expansion
      ++ [.loop (max iterations 2)
          [succeeds (.predicted (.set 0 growing)), (getInline 0).expecting (.value growing)],
        succeeds (disable 0)])).withAssertions
    (cost ++ [.statsAvailable (.set .inline), .statsAvailable (.get .inline)])

/-- The scenarios of the suite's contract. -/
def all (suite : Suite) : List Scenario :=
  let contract := suite.contract
  [pageIntegrity contract, basicInline contract, inlineDirectWord contract, structured contract,
    pointerTag contract, multiPage contract, doubleEnable contract, neverEnabled contract,
    enableDisableCycle contract, disableClears contract, getBeforeSet contract,
    stepwise contract, setWithoutEnable contract]
    ++ (if contract.autoExpandOnSet then [setTiming contract] else [])
    ++ [lifecycleStress contract suite.stressIterations,
      inlineStress contract suite.stressIterations]

private def otherUnsetRead : UnsetRead → UnsetRead
  | .noData => .zeroed
  | .zeroed => .noData

/-- The variants that the suite's contract does not choose. -/
def alternatives (suite : Suite) : List Scenario :=
  let contract := suite.contract
  [getBeforeSet { contract with unsetRead := otherUnsetRead contract.unsetRead },
    setWithoutEnable { contract with autoExpandOnSet := !contract.autoExpandOnSet }]
    ++ (if contract.autoExpandOnSet then [] else [setTiming contract])

/-- The scenario or alternative of a name. -/
def byName? (suite : Suite) (name : String) : Option Scenario :=
  (all suite ++ alternatives suite).find? fun scenario => scenario.name = name

end PageMetadata.Catalog
