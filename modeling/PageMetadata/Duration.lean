import PageMetadata.Arithmetic
import PageMetadata.Text.Rounding

/-! # Durations

A duration is a whole number of nanoseconds. The seconds fill a 64-bit word, which bounds the sums.
-/

namespace PageMetadata

open Text

/-- Nanoseconds of one second. -/
def nanosecondsPerSecond : Nat := 1000000000

/-- The longest duration: `2 ^ 64 - 1` seconds and 999999999 nanoseconds. -/
def maxNanoseconds : Nat := UInt64.size * nanosecondsPerSecond - 1

@[ext]
structure Duration where
  nanoseconds : Nat
  nanoseconds_le : nanoseconds ≤ maxNanoseconds
deriving DecidableEq

namespace Duration

def zero : Duration := ⟨0, Nat.zero_le _⟩

instance : Inhabited Duration := ⟨zero⟩

/-- A duration of so many nanoseconds, if it is not too long. -/
def ofNanoseconds? (nanoseconds : Nat) : Option Duration :=
  if bound : nanoseconds ≤ maxNanoseconds then some ⟨nanoseconds, bound⟩ else none

/-- Seconds and nanoseconds; whole seconds among the nanoseconds are carried. -/
def ofParts (seconds nanoseconds : Nat) : Except ArithmeticError Duration :=
  match ofNanoseconds? (seconds * nanosecondsPerSecond + nanoseconds) with
  | some duration => .ok duration
  | none => .error .durationCarry

/-- Nanoseconds counted by a 64-bit word. -/
def ofWord (nanoseconds : UInt64) : Duration :=
  ⟨nanoseconds.toNat, by
    have := nanoseconds.toNat_lt
    simp only [maxNanoseconds, nanosecondsPerSecond, UInt64.size]
    omega⟩

/-- Whole seconds. -/
def seconds (duration : Duration) : Nat := duration.nanoseconds / nanosecondsPerSecond

/-- Nanoseconds beyond the whole seconds. -/
def fraction (duration : Duration) : Nat := duration.nanoseconds % nanosecondsPerSecond

def totalNanoseconds (durations : List Duration) : Nat :=
  durations.foldr (fun duration total => duration.nanoseconds + total) 0

/-- The sum, unless it is longer than the longest duration. -/
def sum (durations : List Duration) : Except ArithmeticError Duration :=
  match ofNanoseconds? (totalNanoseconds durations) with
  | some total => .ok total
  | none => .error .durationSum

/-- The whole nanoseconds of a share. -/
def divide (duration : Duration) (divisor : UInt32) : Except ArithmeticError Duration :=
  if divisor = 0 then .error .durationDivision
  else
    .ok ⟨duration.nanoseconds / divisor.toNat,
      Nat.le_trans (Nat.div_le_self _ _) duration.nanoseconds_le⟩

/-- Seconds as a floating-point value: the whole seconds and the rest are rounded apart. -/
def toSeconds (duration : Duration) : Float :=
  nearestFloat duration.seconds
    + nearestFloat duration.fraction / nearestFloat nanosecondsPerSecond

/-- Trailing zeros of the fraction are dropped, and the point with them. -/
private def trimmed (whole fraction digits : Nat) (unit : String) : String :=
  let padded := (padLeft digits '0' (toString fraction)).toList
  let kept := (padded.reverse.dropWhile (· = '0')).reverse
  toString whole ++ (if kept.isEmpty then "" else "." ++ String.ofList kept) ++ unit

/-- The largest unit that gives at least 1, with the exact fraction. -/
def text (duration : Duration) : String :=
  let nanoseconds := duration.nanoseconds
  if 1000000000 ≤ nanoseconds then
    trimmed (nanoseconds / 1000000000) (nanoseconds % 1000000000) 9 "s"
  else if 1000000 ≤ nanoseconds then
    trimmed (nanoseconds / 1000000) (nanoseconds % 1000000) 6 "ms"
  else if 1000 ≤ nanoseconds then
    trimmed (nanoseconds / 1000) (nanoseconds % 1000) 3 "µs"
  else toString nanoseconds ++ "ns"

end Duration

end PageMetadata
