import PageMetadata.Classifier
import PageMetadata.Error
import PageMetadata.Pattern

/-! # Settings of a suite of scenarios

A suite fixes what its scenarios have in common: the page size, the layout of structured metadata,
how often the stress scenarios repeat their steps, the contract, and how error numbers are read.
-/

namespace PageMetadata

structure Suite where
  /-- Without a size, the page size of the host. -/
  pageSize : Option UInt64
  /-- Regions are locked in physical memory. -/
  pinMemory : Bool
  headerLayout : HeaderLayout
  stressIterations : UInt32
  contract : Contract
  classifier : Classifier
  /-- What every region is stamped with. -/
  pattern : Pattern

namespace Suite

def standard : Suite where
  pageSize := none
  pinMemory := true
  headerLayout := .compact
  stressIterations := 10000
  contract := .standard
  classifier := .standard
  pattern := .lowByte

/-- The geometry of the suite's page size. -/
def geometry (suite : Suite) : Except Error PageGeometry :=
  let pageSize := suite.pageSize.getD PageGeometry.hostPageSize
  match PageGeometry.ofPageSize? pageSize with
  | some geometry => .ok geometry
  | none => .error (.invalidPageSize pageSize)

end Suite

end PageMetadata
