import PageMetadata.Error
import PageMetadata.Memory

/-! # Regions of pages

A region is a run of whole pages at a page-aligned address. The host decides where a mapping lies;
a region that must lie within one page table is requested again, a bounded number of times, while
the host keeps placing it across a boundary. Earlier mappings stay in place meanwhile, so that the
next one lies elsewhere. A mapping of half the address space or more is refused before the host is
asked.
-/

namespace PageMetadata

/-- Whole pages from a page-aligned base, within the address space. -/
structure Region where
  geometry : PageGeometry
  base : Address
  pageCount : Nat
  pageCount_pos : 0 < pageCount
  aligned : base.word.toNat % geometry.pageSize.toNat = 0
  length_lt : pageCount * geometry.pageSize.toNat < lengthLimit
  end_le : base.word.toNat + pageCount * geometry.pageSize.toNat ≤ UInt64.size

namespace Region

/-- Bytes of the region. -/
def length (region : Region) : Nat := region.pageCount * region.geometry.pageSize.toNat

/-- The address of the page at an index. -/
def addressOf (region : Region) (index : Nat) : Address :=
  ⟨region.base.word + UInt64.ofNat index * region.geometry.pageSize⟩

/-- The address of a page, if the region has that many pages. -/
def page? (region : Region) (index : Nat) : Option Address :=
  if index < region.pageCount then some (region.addressOf index) else none

/-- The addresses of all pages, ascending. -/
def pages (region : Region) : List Address := (List.range region.pageCount).map region.addressOf

/-- A new region holds zeros. -/
def memory (region : Region) : Memory := ⟨region.base, List.replicate region.length 0⟩

end Region

/-- What the host answers to a request for a mapping: its base, or why there is none. -/
abbrev Mapping := Except Errno Address

/-- A mapping that is to be locked in physical memory, with the host's answer to that. The host is
asked only if the mapping is aligned; what it does not lock is given back. -/
def Mapping.locked (geometry : PageGeometry) (lock : Except Errno Unit) (mapping : Mapping) :
    Mapping := do
  let base ← mapping
  if base.word.toNat % geometry.pageSize.toNat = 0 then lock
  return base

/-- How an acquisition ended, and how many mappings it requested from the host. -/
structure Acquisition where
  result : Except AllocationFailure Region
  mappings : Nat

namespace Region

/-- Not enough memory. -/
def outOfMemory : Errno := ⟨12⟩

/-- The region of a mapping. A mapping that does not fit the address space is none. -/
def ofMapping (geometry : PageGeometry) (pageCount : Nat) (positive : 0 < pageCount)
    (bounded : pageCount * geometry.pageSize.toNat < lengthLimit) (mapping : Mapping) :
    Except AllocationFailure Region := do
  let base ← mapping.mapError .host
  if fits : base.word.toNat + pageCount * geometry.pageSize.toNat ≤ UInt64.size then
    if aligned : base.word.toNat % geometry.pageSize.toNat = 0 then
      return ⟨geometry, base, pageCount, positive, aligned, bounded, fits⟩
    else throw (.misaligned base)
  else throw (.host outOfMemory)

/-- Pages wherever the host puts them; at most one mapping is requested. -/
def acquire (geometry : PageGeometry) (pageCount : Nat) (mapping : Mapping) : Acquisition :=
  if positive : 0 < pageCount then
    if bounded : pageCount * geometry.pageSize.toNat < lengthLimit then
      ⟨ofMapping geometry pageCount positive bounded mapping, 1⟩
    else if pageCount * geometry.pageSize.toNat < UInt64.size then ⟨.error .mappingTooLong, 0⟩
    else ⟨.error .sizeOverflow, 0⟩
  else ⟨.error .noPages, 0⟩

/-- How often a region within one table is requested. -/
def placementAttempts : Nat := 8

/-- Requests mappings from the given one on until a region lies within one table. -/
def place (geometry : PageGeometry) (pageCount : Nat) (mappings : Nat → Mapping) :
    (attempts next : Nat) → Acquisition
  | 0, _ => ⟨.error .crossesTables, 0⟩
  | attempts + 1, next =>
    let acquisition := acquire geometry pageCount (mappings next)
    match acquisition.result with
    | .error failure => ⟨.error failure, acquisition.mappings⟩
    | .ok region =>
      if geometry.withinOneTable region.base (.ofNat region.length) matches .ok true then
        acquisition
      else
        let later := place geometry pageCount mappings attempts (next + 1)
        ⟨later.result, acquisition.mappings + later.mappings⟩

/-- Pages that are all mapped by one table. The `k`-th mapping requested is answered by
`mappings k`. -/
def acquireInTable (geometry : PageGeometry) (pageCount : Nat) (mappings : Nat → Mapping) :
    Acquisition :=
  if geometry.entriesPerTable.toNat < pageCount then
    ⟨.error (.tableTooSmall geometry.entriesPerTable.toNat), 0⟩
  else place geometry pageCount mappings placementAttempts 0

end Region

end PageMetadata
