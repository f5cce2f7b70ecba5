import PageMetadata.Duration
import PageMetadata.Registry

/-! # Timing statistics

Samples are kept by name, each name's samples in the order in which they were recorded and the names
in the order of their first sample. A summary has the exact total and extremes; mean and deviation
are floating-point values, the squares summed in the order of the samples.
-/

namespace PageMetadata

open Text

structure Stats where
  samplesByName : Registry String (Array Duration)

/-- What the samples of one name amount to. -/
structure Summary where
  count : Nat
  total : Duration
  minimum : Nat
  maximum : Nat
  mean : Float
  /-- The standard deviation of the samples as a whole population. -/
  deviation : Float

namespace Summary

/-- The mean cut to whole nanoseconds. -/
def meanDuration (summary : Summary) : Duration := .ofWord summary.mean.toUInt64

def text (summary : Summary) : String :=
  "n=" ++ toString summary.count ++ " min=" ++ toString summary.minimum ++ "ns max="
    ++ toString summary.maximum ++ "ns mean=" ++ fixedDecimals 2 summary.mean ++ "ns stddev="
    ++ fixedDecimals 2 summary.deviation ++ "ns"

end Summary

namespace Stats

def empty : Stats := ⟨.empty⟩

instance : Inhabited Stats := ⟨empty⟩

/-- Adds one sample under a name. -/
def record (stats : Stats) (name : String) (duration : Duration) : Stats :=
  ⟨stats.samplesByName.alter name fun samples => (samples.getD #[]).push duration⟩

/-- The samples of a name; a name that was never recorded has none. -/
def samples (stats : Stats) (name : String) : List Duration :=
  ((stats.samplesByName.get? name).getD #[]).toList

@[simp] theorem samples_empty (name : String) : empty.samples name = [] := rfl

theorem samples_record (stats : Stats) (name other : String) (duration : Duration) :
    (stats.record name duration).samples other =
      if other = name then stats.samples name ++ [duration] else stats.samples other := by
  unfold samples record
  rw [Registry.get?_alter]
  split <;> simp

/-- The names in the order of their first sample. -/
def names (stats : Stats) : List String := stats.samplesByName.keys

def isEmpty (stats : Stats) : Bool := stats.samplesByName.isEmpty

/-- The number of samples of each name. -/
def counts (stats : Stats) : List (String × Nat) :=
  stats.samplesByName.entries.map fun (name, samples) => (name, samples.size)

/-- The samples of each name are added behind those already there. -/
def merge (stats other : Stats) : Stats :=
  ⟨other.samplesByName.entries.foldl
    (fun merged (name, added) => merged.alter name fun samples => samples.getD #[] ++ added)
    stats.samplesByName⟩

/-- The mean of the squared distances from `mean`, its root taken. -/
private def deviation (samples : List Duration) (mean : Float) : Float :=
  let squares := samples.foldl (fun total sample =>
    let distance := nearestFloat sample.nanoseconds - mean
    total + distance * distance) 0.0
  (squares / nearestFloat samples.length).sqrt

/-- The summary of a name's samples; a name without samples has none. -/
def summarize (stats : Stats) (name : String) : Except ArithmeticError (Option Summary) :=
  match stats.samples name with
  | [] => .ok none
  | first :: rest => do
    let samples := first :: rest
    let total ← Duration.sum samples
    let mean := nearestFloat total.nanoseconds / nearestFloat samples.length
    return some {
      count := samples.length
      total
      minimum := rest.foldl (fun least sample => min least sample.nanoseconds) first.nanoseconds
      maximum := rest.foldl (fun most sample => max most sample.nanoseconds) first.nanoseconds
      mean
      deviation := deviation samples mean }

/-- Samples per second of their total; a total of nothing gives no rate. -/
def throughput (stats : Stats) (name : String) : Except ArithmeticError (Option Float) := do
  match ← stats.summarize name with
  | none => return none
  | some summary =>
    let seconds := summary.total.toSeconds
    if seconds == 0.0 then return none
    else return some (nearestFloat summary.count / seconds)

end Stats

end PageMetadata
