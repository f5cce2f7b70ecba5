import PageMetadata.Codec.Structured
import PageMetadata.Collaborator.Basic
import PageMetadata.Registry
import PageMetadata.Simulator.Config

/-! # A simulated collaborator

The simulator keeps the lifecycle of every table and the encoded value of every page, and answers
with the error numbers of the kernel. A structured value is stored only if its header fits its
length. Faults change single answers or single effects and nothing else.
-/

namespace PageMetadata

/-- A value as the collaborator keeps it. -/
inductive Stored where
  | inline (word : UInt64)
  | structured (bytes : List UInt8)
deriving DecidableEq, Repr

/-- Why the simulator refuses a request. -/
inductive Refusal where
  | badAddress
  | alreadyExpanded
  | notExpanded
  /-- A value cannot be set because the table is not expanded. -/
  | noTable
  | noData
  /-- A buffer is malformed or too short, or the value has the other encoding. -/
  | malformed
deriving DecidableEq, Repr

def Refusal.errno : Refusal → Errno
  | .badAddress => .efault
  | .alreadyExpanded => .eexist
  | .notExpanded => .einval
  | .noTable => .enoent
  | .noData => .enodata
  | .malformed => .einval

structure SimulatedTable where
  expanded : Bool
  slots : Registry UInt32 Stored

structure Simulator where
  config : SimulatorConfig
  geometry : PageGeometry
  tables : Registry Address SimulatedTable

namespace Simulator

/-- A simulator that knows no table; `none` if the page size is refused. -/
def ofConfig? (config : SimulatorConfig) : Option Simulator := do
  let geometry ← PageGeometry.ofPageSize? config.pageSize
  return ⟨config, geometry, .empty⟩

def hasFault (simulator : Simulator) (fault : Faults) : Bool :=
  simulator.config.faults.contains fault

/-- The table of an address, if it was ever changed. -/
def table? (simulator : Simulator) (address : Address) : Option SimulatedTable :=
  simulator.tables.get? (simulator.geometry.tableOf address)

/-- Where the value of a page is kept within its table. -/
def slotOf (simulator : Simulator) (address : Address) : UInt32 :=
  if simulator.hasFault .sharedSlot then 0 else simulator.geometry.pageIndex address

/-- Whether the table of an address is expanded. -/
def isExpanded (simulator : Simulator) (address : Address) : Bool :=
  (simulator.table? address).any SimulatedTable.expanded

/-- The value kept for the page of an address. -/
def stored? (simulator : Simulator) (address : Address) : Option Stored := do
  let table ← simulator.table? address
  table.slots.get? (simulator.slotOf address)

/-- Changes the table of an address, which starts out unexpanded and without values. -/
def alterTable (simulator : Simulator) (address : Address)
    (change : SimulatedTable → SimulatedTable) : Simulator :=
  { simulator with
    tables := simulator.tables.alter (simulator.geometry.tableOf address) fun table =>
      change (table.getD ⟨false, .empty⟩) }

/-- Only the null address is refused. -/
def checkAddress (address : Address) : Except Refusal Unit :=
  if address.isNull then .error .badAddress else .ok ()

def enable (simulator : Simulator) (address : Address) : Except Refusal Simulator := do
  checkAddress address
  if simulator.isExpanded address && !simulator.hasFault .permissiveEnable then
    throw .alreadyExpanded
  else return simulator.alterTable address fun table => { table with expanded := true }

def disable (simulator : Simulator) (address : Address) : Except Refusal Simulator := do
  checkAddress address
  if simulator.isExpanded address then
    return simulator.alterTable address fun table =>
      ⟨false, if simulator.hasFault .stickyMetadata then table.slots else .empty⟩
  else throw .notExpanded

/-- Keeps a value for a page; without expansion on demand the table must be expanded. -/
def store (simulator : Simulator) (address : Address) (value : Stored) :
    Except Refusal Simulator :=
  if simulator.isExpanded address || simulator.config.autoExpandOnSet then
    .ok (simulator.alterTable address fun table =>
      ⟨true, table.slots.insert (simulator.slotOf address) value⟩)
  else .error .noTable

def setInline (simulator : Simulator) (address : Address) (word : UInt64) :
    Except Refusal Simulator := do
  checkAddress address
  simulator.store address (.inline word)

/-- A structured buffer must be a header followed by as many bytes as it says. -/
def checkStructured (simulator : Simulator) (bytes : List UInt8) : Except Refusal Unit :=
  match simulator.config.headerLayout.readHeader bytes with
  | .error _ => .error .malformed
  | .ok (header, payload) =>
    if header.length.toNat = payload.length then .ok () else .error .malformed

def setStructured (simulator : Simulator) (address : Address) (bytes : List UInt8) :
    Except Refusal Simulator := do
  checkAddress address
  simulator.checkStructured bytes
  simulator.store address (.structured bytes)

def getInline (simulator : Simulator) (address : Address) : Except Refusal UInt64 := do
  checkAddress address
  if simulator.isExpanded address then
    match simulator.stored? address with
    | some (.inline word) =>
      return if simulator.hasFault .corruptPayload then word ^^^ 1 else word
    | some (.structured _) => throw .malformed
    | none =>
      match simulator.config.unsetRead with
      | .zeroed => return 0
      | .noData => throw .noData
  else throw .noData

/-- Inverts the last byte. -/
def corruptLast (bytes : List UInt8) : List UInt8 :=
  match bytes.getLast? with
  | none => bytes
  | some last => bytes.dropLast ++ [last ^^^ 0xff]

/-- The structured value of a page, in a buffer of the given length: the stored bytes, then zeros.
A shorter buffer is refused. -/
def readStructured (simulator : Simulator) (address : Address) (length : Nat) :
    Except Refusal (List UInt8) := do
  checkAddress address
  if simulator.isExpanded address then
    match simulator.stored? address with
    | some (.structured bytes) =>
      if length < bytes.length then throw .malformed
      else
        let bytes' := if simulator.hasFault .corruptPayload then corruptLast bytes else bytes
        return bytes' ++ List.replicate (length - bytes.length) 0
    | some (.inline _) => throw .malformed
    | none => throw .noData
  else throw .noData

/-- Fills the caller's buffer; a refusal leaves the buffer as it was. -/
def getStructured (simulator : Simulator) (address : Address) (buffer : List UInt8) :
    Except Refusal Unit × List UInt8 :=
  match simulator.readStructured address buffer.length with
  | .ok filled => (.ok (), filled)
  | .error refusal => (.error refusal, buffer)

/-- What a refusal leaves. A table that could not take a value is known from then on, as one that is
not expanded. -/
def refuse (simulator : Simulator) (address : Address) : Refusal → Simulator
  | .noTable => simulator.alterTable address id
  | _ => simulator

/-- A call that changes the simulator; the time of an expansion is the only time it takes. -/
def answer (simulator : Simulator) (address : Address) (changed : Except Refusal Simulator)
    (expands : Bool) : Except Errno Unit × Duration × Simulator :=
  match changed with
  | .error refusal => (.error refusal.errno, .zero, simulator.refuse address refusal)
  | .ok changed =>
    (.ok (), if expands then simulator.config.expansionCost else .zero, changed)

/-- Setting a value expands a table that is not expanded; enabling always does. -/
def respond (simulator : Simulator) (request : Request) : Reply request × Simulator :=
  match request with
  | .enable address =>
    let (result, elapsed, simulator) :=
      simulator.answer address (simulator.enable address) true
    (⟨result, [], elapsed⟩, simulator)
  | .disable address =>
    let (result, elapsed, simulator) :=
      simulator.answer address (simulator.disable address) false
    (⟨result, [], elapsed⟩, simulator)
  | .setInline address word =>
    let (result, elapsed, simulator) :=
      simulator.answer address (simulator.setInline address word)
        (!simulator.isExpanded address)
    (⟨result, [], elapsed⟩, simulator)
  | .setStructured address bytes =>
    let (result, elapsed, simulator) :=
      simulator.answer address (simulator.setStructured address bytes)
        (!simulator.isExpanded address)
    (⟨result, [], elapsed⟩, simulator)
  | .getInline address =>
    (⟨(simulator.getInline address).mapError Refusal.errno, [], .zero⟩, simulator)
  | .getStructured address buffer =>
    match simulator.getStructured address buffer with
    | (.error refusal, _) => (⟨.error refusal.errno, [], .zero⟩, simulator)
    | (.ok (), filled) => (⟨.ok filled, [], .zero⟩, simulator)

/-- The simulator as a collaborator; it never touches the caller's memory. -/
def collaborator : Collaborator Simulator where
  respond simulator _ request := simulator.respond request

end Simulator

end PageMetadata
