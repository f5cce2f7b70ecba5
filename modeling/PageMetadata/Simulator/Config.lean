import PageMetadata.Codec.Error
import PageMetadata.Contract
import PageMetadata.Duration
import PageMetadata.PageGeometry

/-! # Configuration of the simulator

Faults are deliberate breaches of the contract, one bit each. Bits without a meaning are kept and
written as a number behind the names.
-/

namespace PageMetadata

structure Faults where
  bits : UInt8
deriving DecidableEq, Repr

namespace Faults

def none : Faults := ⟨0⟩

/-- A value read differs from the value stored. -/
def corruptPayload : Faults := ⟨1⟩

/-- All pages of a table share one value. -/
def sharedSlot : Faults := ⟨2⟩

/-- Disabling a table keeps its values. -/
def stickyMetadata : Faults := ⟨4⟩

/-- Enabling an expanded table succeeds. -/
def permissiveEnable : Faults := ⟨8⟩

/-- The named faults in the order of their bits. -/
def named : List (String × Faults) :=
  [("CORRUPT_PAYLOAD", corruptPayload), ("SHARED_SLOT", sharedSlot),
    ("STICKY_METADATA", stickyMetadata), ("PERMISSIVE_ENABLE", permissiveEnable)]

def union (faults others : Faults) : Faults := ⟨faults.bits ||| others.bits⟩

/-- All bits that have a meaning. -/
def all : Faults := (named.map Prod.snd).foldl union none

/-- Whether every bit of `others` is set. -/
def contains (faults others : Faults) : Bool := faults.bits &&& others.bits = others.bits

/-- The bits that have a meaning. -/
def truncated (faults : Faults) : Faults := ⟨faults.bits &&& all.bits⟩

/-- The bits without a meaning. -/
def unnamed (faults : Faults) : UInt8 := faults.bits &&& ~~~all.bits

/-- The names between bars, then the other bits as one number. -/
def text (faults : Faults) : String :=
  let names := (named.filter fun (_, fault) => faults.contains fault).map Prod.fst
  let rest :=
    if faults.unnamed = 0 then [] else [Text.hexWord faults.unnamed.toNat]
  " | ".intercalate (names ++ rest)

/-- The text in the type's name; without faults it is the number 0. -/
def outline (faults : Faults) : String :=
  "SimFaults(" ++ (if faults.bits = 0 then "0x0" else faults.text) ++ ")"

end Faults

structure SimulatorConfig where
  pageSize : UInt64
  autoExpandOnSet : Bool
  unsetRead : UnsetRead
  /-- The layout in which structured metadata is accepted. -/
  headerLayout : HeaderLayout
  /-- The time that expanding a table takes. -/
  expansionCost : Duration
  faults : Faults

namespace SimulatorConfig

/-- Keeps the standard contract and takes 50 µs to expand a table. -/
def standard : SimulatorConfig where
  pageSize := PageGeometry.hostPageSize
  autoExpandOnSet := Contract.standard.autoExpandOnSet
  unsetRead := Contract.standard.unsetRead
  headerLayout := .compact
  expansionCost := .ofWord 50000
  faults := .none

/-- Adopts the choices of a contract. -/
def withContract (config : SimulatorConfig) (contract : Contract) : SimulatorConfig :=
  { config with autoExpandOnSet := contract.autoExpandOnSet, unsetRead := contract.unsetRead }

end SimulatorConfig

end PageMetadata
