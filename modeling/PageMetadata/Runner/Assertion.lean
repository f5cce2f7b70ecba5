import PageMetadata.Error
import PageMetadata.Scenario.Basic
import PageMetadata.Stats

/-! # Assertions about times

An assertion looks at the samples of one operation. The cost of an expansion is visible if the first
sample is longer than the mean of all later ones, cut to whole nanoseconds.
-/

namespace PageMetadata.Assertion

/-- What contradicts the assertion, if anything does. -/
def check (assertion : Assertion) (stats : Stats) :
    Except ArithmeticError (Option AssertionDetail) :=
  match assertion with
  | .expansionCostVisible operation =>
    match stats.samples operation.name with
    | first :: second :: rest => do
      let others := second :: rest
      let total ← Duration.sum others
      let mean ← total.divide (.ofNat others.length)
      return if first.nanoseconds ≤ mean.nanoseconds then
        some (.notAboveMean first mean others.length) else none
    | samples => .ok (some (.tooFewSamples samples.length))
  | .statsAvailable operation => do
    match ← stats.summarize operation.name with
    | some _ => return none
    | none => return some .noSamples

end PageMetadata.Assertion
