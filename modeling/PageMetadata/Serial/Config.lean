import PageMetadata.Serial.Outcome
import PageMetadata.Simulator.Config
import PageMetadata.Suite
import PageMetadata.Syscalls

/-! # Configurations as documents

Faults are written as text: names and hexadecimal numbers between bars. A duration is a closed
record of seconds and nanoseconds, whose nanoseconds may carry over into the seconds.
-/

namespace PageMetadata

open Json

namespace Duration

def toJson (duration : Duration) : Json :=
  .ofMembers [("secs", .ofNat duration.seconds), ("nanos", .ofNat duration.fraction)]

def reader : Reader Duration := fun budget document => do
  let fields ← record ["secs", "nanos"] true budget document
  let seconds ← fields.required "secs" (Reader.natural UInt64.size)
  let nanoseconds ← fields.required "nanos" (Reader.natural UInt32.size)
  (ofParts seconds nanoseconds).toOption

end Duration

namespace Faults

/-- Characters that may surround a name. -/
def isBlank (character : Char) : Bool :=
  let code := character.toNat
  9 ≤ code && code ≤ 13 || code = 0x20 || code = 0x85 || code = 0xa0 || code = 0x1680
    || 0x2000 ≤ code && code ≤ 0x200a || code = 0x2028 || code = 0x2029 || code = 0x202f
    || code = 0x205f || code = 0x3000

private def trimmed (characters : List Char) : List Char :=
  ((characters.dropWhile isBlank).reverse.dropWhile isBlank).reverse

private def splitBars (characters : List Char) : List (List Char) :=
  characters.foldr
    (fun character parts =>
      match parts with
      | [] => [[character]]
      | part :: parts =>
        if character = '|' then [] :: part :: parts else (character :: part) :: parts)
    [[]]

/-- A number of eight bits, with an optional plus sign. -/
private def bits? (digits : List Char) : Option Faults :=
  let digits := match digits with
    | '+' :: rest => rest
    | digits => digits
  if digits.isEmpty then Option.none
  else do
    let number ← Text.hexNumber? digits
    if number < 256 then return ⟨.ofNat number⟩ else Option.none

private def one? (part : List Char) : Option Faults :=
  match part with
  | '0' :: 'x' :: digits => bits? digits
  | part => named.lookup (String.ofList part)

/-- Blanks around names are skipped; a blank text has no faults. -/
def ofText? (text : String) : Option Faults := do
  let characters := trimmed text.toList
  if characters.isEmpty then return none
  else
    let faults ← (splitBars characters).mapM fun part => one? (trimmed part)
    return faults.foldl union none

def toJson (faults : Faults) : Json := .text faults.text

def reader : Reader Faults := fun budget document =>
  (Reader.text budget document).bind ofText?

end Faults

namespace SimulatorConfig

def toJson (config : SimulatorConfig) : Json :=
  .ofMembers
    [("page_size", .ofNat config.pageSize.toNat),
      ("auto_expand_on_set", .bool config.autoExpandOnSet),
      ("unset_read", config.unsetRead.toJson), ("header_layout", config.headerLayout.toJson),
      ("expansion_cost", config.expansionCost.toJson), ("faults", config.faults.toJson)]

def reader : Reader SimulatorConfig := fun budget document => do
  let fields ←
    record ["page_size", "auto_expand_on_set", "unset_read", "header_layout", "expansion_cost",
      "faults"] false budget document
  let pageSize ← fields.required "page_size" Reader.word
  let autoExpandOnSet ← fields.required "auto_expand_on_set" Reader.bool
  let unsetRead ← fields.required "unset_read" UnsetRead.reader
  let headerLayout ← fields.required "header_layout" HeaderLayout.reader
  let expansionCost ← fields.required "expansion_cost" Duration.reader
  let faults ← fields.required "faults" Faults.reader
  return ⟨pageSize, autoExpandOnSet, unsetRead, headerLayout, expansionCost, faults⟩

end SimulatorConfig

namespace Suite

/-- The pattern is not written. -/
def toJson (suite : Suite) : Json :=
  .ofMembers
    [("page_size", Json.ofOption (fun pageSize : UInt64 => .ofNat pageSize.toNat) suite.pageSize),
      ("pin_memory", .bool suite.pinMemory), ("header_layout", suite.headerLayout.toJson),
      ("stress_iterations", .ofNat suite.stressIterations.toNat),
      ("model", suite.contract.toJson), ("classifier", suite.classifier.toJson)]

/-- A suite that is read has the standard pattern. -/
def reader : Reader Suite := fun budget document => do
  let fields ←
    record ["page_size", "pin_memory", "header_layout", "stress_iterations", "model",
      "classifier"] false budget document
  let pageSize ← fields.optional "page_size" Reader.word
  let pinMemory ← fields.required "pin_memory" Reader.bool
  let headerLayout ← fields.required "header_layout" HeaderLayout.reader
  let stressIterations ← fields.required "stress_iterations" Reader.halfWord
  let contract ← fields.required "model" Contract.reader
  let classifier ← fields.required "classifier" Classifier.reader
  return ⟨pageSize, pinMemory, headerLayout, stressIterations, contract, classifier,
    Suite.standard.pattern⟩

end Suite

namespace SyscallTable

def toJson (table : SyscallTable) : Json :=
  .ofMembers
    [("enable", .ofInt table.enable.toInt), ("disable", .ofInt table.disable.toInt),
      ("set", .ofInt table.set.toInt), ("get", .ofInt table.get.toInt)]

private def numberReader : Reader Int64 := fun budget document =>
  (Reader.signed Int64.size budget document).map Int64.ofInt

def reader : Reader SyscallTable := fun budget document => do
  let fields ← record ["enable", "disable", "set", "get"] false budget document
  let enable ← fields.required "enable" numberReader
  let disable ← fields.required "disable" numberReader
  let set ← fields.required "set" numberReader
  let get ← fields.required "get" numberReader
  return ⟨enable, disable, set, get⟩

end SyscallTable

namespace CallingConvention

def toJson (convention : CallingConvention) : Json := .text convention.name

def reader : Reader CallingConvention := enumeration name [.pointer, .legacy]

end CallingConvention

namespace SyscallConfig

def toJson (config : SyscallConfig) : Json :=
  .ofMembers
    [("syscalls", config.syscalls.toJson), ("convention", config.convention.toJson)]

def reader : Reader SyscallConfig := fun budget document => do
  let fields ← record ["syscalls", "convention"] false budget document
  let syscalls ← fields.required "syscalls" SyscallTable.reader
  let convention ← fields.required "convention" CallingConvention.reader
  return ⟨syscalls, convention⟩

end SyscallConfig

/-- The three numbers of a geometry's document, which need not fit together. -/
structure GeometryRecord where
  pageSize : UInt64
  pageShift : UInt32
  entriesPerTable : UInt64
deriving DecidableEq, Repr

namespace GeometryRecord

def ofGeometry (geometry : PageGeometry) : GeometryRecord :=
  ⟨geometry.pageSize, .ofNat geometry.pageShift, geometry.entriesPerTable⟩

def toJson (numbers : GeometryRecord) : Json :=
  .ofMembers
    [("page_size", .ofNat numbers.pageSize.toNat),
      ("page_shift", .ofNat numbers.pageShift.toNat),
      ("entries_per_table", .ofNat numbers.entriesPerTable.toNat)]

def reader : Reader GeometryRecord := fun budget document => do
  let fields ← record ["page_size", "page_shift", "entries_per_table"] false budget document
  let pageSize ← fields.required "page_size" Reader.word
  let pageShift ← fields.required "page_shift" Reader.halfWord
  let entriesPerTable ← fields.required "entries_per_table" Reader.word
  return ⟨pageSize, pageShift, entriesPerTable⟩

end GeometryRecord

end PageMetadata
