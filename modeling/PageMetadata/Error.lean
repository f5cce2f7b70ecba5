import PageMetadata.Codec.Error
import PageMetadata.Contract
import PageMetadata.Duration
import PageMetadata.Operation
import PageMetadata.PageGeometry

/-! # What can go wrong in a scenario

Each error records its cause; the wording is in `Error.message`. Errors that name an address can be
read relative to the region they arose in.
-/

namespace PageMetadata

open Text

/-- Why a region could not be had. -/
inductive AllocationFailure where
  | noPages
  /-- The bytes cannot be counted in a word. -/
  | sizeOverflow
  /-- The bytes can be counted in a word, but not in a signed one. -/
  | mappingTooLong
  /-- More pages than the entries of one table. -/
  | tableTooSmall (entries : Nat)
  | crossesTables
  | misaligned (base : Address)
  /-- The host refused the mapping. -/
  | host (errno : Errno)
  | other (text : String)
deriving DecidableEq, Repr

def AllocationFailure.message : AllocationFailure → String
  | .noPages => "page count must be at least 1"
  | .sizeOverflow => "region size overflows"
  | .mappingTooLong => "memory map length overflows isize"
  | .tableTooSmall entries => "a page table maps at most " ++ toString entries ++ " pages"
  | .crossesTables => "no region within a single page table"
  | .misaligned base => "region at " ++ base.text ++ " is not page aligned"
  | .host errno => errno.text
  | .other text => text

/-- The first byte of a memory that is not the pattern's. -/
structure PatternMismatch where
  /-- When the memory was examined. -/
  stage : String
  offset : Nat
  expected : UInt8
  observed : UInt8
deriving DecidableEq, Repr

/-- An outcome that the model did not predict. -/
structure StateViolation where
  table : Address
  page : UInt32
  operation : Operation
  /-- The table's lifecycle in the model before the call. -/
  state : Lifecycle
  expected : OutcomeClass
  observed : OutcomeClass
deriving DecidableEq, Repr

/-- What was found where an assertion failed. -/
inductive AssertionDetail where
  | tooFewSamples (count : Nat)
  /-- The first sample does not exceed the mean of the `others` samples behind it. -/
  | notAboveMean (first mean : Duration) (others : Nat)
  | noSamples
  | modelHolds (state : Lifecycle)
  | other (text : String)
deriving DecidableEq

def AssertionDetail.message : AssertionDetail → String
  | .tooFewSamples count => toString count ++ " sample(s) recorded, 2 required"
  | .notAboveMean first mean others =>
    "first sample " ++ first.text ++ " is not above the mean " ++ mean.text ++ " of the other "
      ++ toString others
  | .noSamples => "no samples recorded"
  | .modelHolds state => "model holds " ++ state.name
  | .other text => text

inductive Error where
  /-- A call of the host failed. -/
  | host (errno : Errno)
  | allocation (pages : Nat) (failure : AllocationFailure)
  | patternMismatch (mismatch : PatternMismatch)
  /-- A call did not end as its step requires. -/
  | unexpectedOutcome (operation : Operation) (address : Address)
      (expected observed : OutcomeClass)
  | codec (error : CodecError)
  | stateViolation (violation : StateViolation)
  | assertionFailed (assertion : String) (detail : AssertionDetail)
  | invalidPageSize (pageSize : UInt64)
  | notSupported
  | pageOutsideRegion
  | other (text : String)
deriving DecidableEq

namespace Error

def message : Error → String
  | .host errno => errno.text
  | .allocation pages failure =>
    "Failed to allocate " ++ toString pages ++ " page(s): " ++ failure.message
  | .patternMismatch mismatch =>
    "Pattern mismatch " ++ mismatch.stage ++ " at offset " ++ hexWord mismatch.offset
      ++ " (expected " ++ hexPadded 2 mismatch.expected.toNat ++ ", observed "
      ++ hexPadded 2 mismatch.observed.toNat ++ ")"
  | .unexpectedOutcome operation address expected observed =>
    operation.name ++ " at " ++ address.text ++ ": expected " ++ expected.text ++ ", observed "
      ++ observed.text
  | .codec error => error.message
  | .stateViolation violation =>
    "State violation: " ++ violation.operation.name ++ " on table " ++ violation.table.text
      ++ " page " ++ toString violation.page.toNat ++ " in state " ++ violation.state.name
      ++ ": expected " ++ violation.expected.text ++ ", observed " ++ violation.observed.text
  | .assertionFailed assertion detail =>
    "Assertion `" ++ assertion ++ "` failed: " ++ detail.message
  | .invalidPageSize pageSize => "Invalid page size " ++ hexWord pageSize.toNat
  | .notSupported => "Operation not supported."
  | .pageOutsideRegion => "step addresses a page outside the region"
  | .other text => text

/-- The error with its addresses counted from a base, its table from the table of the base and its
page from the page of the base. -/
def relativeTo (geometry : PageGeometry) (base : Address) : Error → Error
  | .unexpectedOutcome operation address expected observed =>
    .unexpectedOutcome operation ⟨address.word - base.word⟩ expected observed
  | .stateViolation violation =>
    .stateViolation { violation with
      table := ⟨violation.table.word - (geometry.tableOf base).word⟩
      page := violation.page - geometry.pageIndex base }
  | error => error

end Error

end PageMetadata
