import PageMetadata.Error
import PageMetadata.Stats

/-! # Reports

A report says whether a scenario passed, and lists a summary of every name that was timed, in the
order of the first samples.
-/

namespace PageMetadata

open Text

/-- A scenario stops at its first failure. -/
inductive Verdict where
  | passed
  | failed (stage : String) (error : Error)
deriving DecidableEq

namespace Verdict

def isPassed : Verdict → Bool
  | .passed => true
  | .failed _ _ => false

def text : Verdict → String
  | .passed => "PASS"
  | .failed stage error => "FAIL at " ++ stage ++ ": " ++ error.message

end Verdict

structure Report where
  name : String
  verdict : Verdict
  stats : Stats
  /-- The time of the whole scenario. -/
  elapsed : Duration

namespace Report

/-- The summary of every name that has samples. -/
def summaries (report : Report) : Except ArithmeticError (List (String × Summary)) := do
  let summaries ← report.stats.names.mapM fun name => do
    return (← report.stats.summarize name).map fun summary => (name, summary)
  return summaries.filterMap id

private def line (name : String) (summary : Summary) (throughput : Option Float) : String :=
  let rate :=
    match throughput with
    | none => ""
    | some throughput => " (" ++ fixedDecimals 0 throughput ++ " ops/s)"
  "  " ++ padRight 24 name ++ " " ++ summary.text ++ rate ++ "\n"

/-- A line for the verdict and one for each name. -/
def text (report : Report) : Except ArithmeticError String := do
  let lines ← (← report.summaries).mapM fun (name, summary) => do
    return line name summary (← report.stats.throughput name)
  return report.name ++ ": " ++ report.verdict.text ++ " (" ++ report.elapsed.text ++ ")\n"
    ++ String.join lines

end Report

end PageMetadata
