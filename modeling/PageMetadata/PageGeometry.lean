import PageMetadata.Address

/-! # Pages and last-level page tables

A last-level table has one entry of eight bytes for each page it maps and fills exactly one page, so
the page size fixes everything else. Sizes from one entry (8 bytes) to 1 GiB are accepted; within
these bounds the span of a table and the index of a page within it fit their words.
-/

namespace PageMetadata

/-- A page holds `2 ^ pageShift` bytes. -/
structure PageGeometry where
  pageShift : Nat
  three_le_pageShift : 3 ≤ pageShift
  pageShift_le_thirty : pageShift ≤ 30
deriving DecidableEq

namespace PageGeometry

/-- Bytes of one page-table entry. -/
def entrySize : UInt64 := 8

/-- The largest page size, 1 GiB. -/
def maxPageSize : Nat := Nat.pow 2 30

/-- The page size of the host. -/
def hostPageSize : UInt64 := 4096

/-- Exactly the powers of two from 8 to 1 GiB are page sizes. -/
def ofPageSize? (pageSize : UInt64) : Option PageGeometry :=
  let shift := pageSize.toNat.log2
  if bounds : Nat.pow 2 shift = pageSize.toNat ∧ 3 ≤ shift ∧ shift ≤ 30 then
    some ⟨shift, bounds.2.1, bounds.2.2⟩
  else none

/-- Bytes of one page. -/
def pageSize (geometry : PageGeometry) : UInt64 := .ofNat (Nat.pow 2 geometry.pageShift)

/-- Pages mapped by one table. -/
def entriesPerTable (geometry : PageGeometry) : UInt64 := geometry.pageSize / entrySize

/-- Bytes mapped by one table. -/
def tableSpan (geometry : PageGeometry) : UInt64 := geometry.pageSize * geometry.entriesPerTable

/-- The table that maps an address, named by the first address it maps. -/
def tableOf (geometry : PageGeometry) (address : Address) : Address :=
  address.masked (~~~(geometry.tableSpan - 1))

/-- The index of the page of an address within its table. -/
def pageIndex (geometry : PageGeometry) (address : Address) : UInt32 :=
  ((address.masked (geometry.tableSpan - 1)).word >>> UInt64.ofNat geometry.pageShift).toUInt32

/-- Whether the `length` bytes from `start` on are mapped by one table. The last byte must have an
address; an empty range always qualifies. -/
def withinOneTable (geometry : PageGeometry) (start : Address) (length : UInt64) :
    Except ArithmeticError Bool :=
  if length = 0 then .ok true
  else do
    let last ← start.add (length - 1)
    return geometry.tableOf start = geometry.tableOf last

end PageGeometry

end PageMetadata
