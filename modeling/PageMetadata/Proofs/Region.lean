import PageMetadata.Proofs.Except
import PageMetadata.Proofs.TableRange
import PageMetadata.Runner.Basic

/-! # Addresses of a region

The pages of a region do not wrap around the address space, so none of them is null unless the base
is. A region that was acquired has the geometry it was requested in.
-/

namespace PageMetadata

namespace Region

theorem page?_eq_some_iff {region : Region} {index : Nat} {address : Address} :
    region.page? index = some address ↔
      index < region.pageCount ∧ region.addressOf index = address := by
  simp [page?]

theorem mem_pages_iff {region : Region} {address : Address} :
    address ∈ region.pages ↔ ∃ index, region.page? index = some address := by
  simp [pages, page?_eq_some_iff]

/-- Pages lie above the base without wrapping around. -/
theorem toNat_addressOf {region : Region} {index : Nat} (bound : index < region.pageCount) :
    (region.addressOf index).word.toNat =
      region.base.word.toNat + index * region.geometry.pageSize.toNat := by
  have positive := region.geometry.pageSize_pos
  have fits := region.end_le
  have below : index * region.geometry.pageSize.toNat <
      region.pageCount * region.geometry.pageSize.toNat :=
    Nat.mul_lt_mul_of_pos_right bound positive
  have small : index < UInt64.size := by
    have scaled : index * 1 ≤ index * region.geometry.pageSize.toNat :=
      Nat.mul_le_mul_left index positive
    omega
  have product : (UInt64.ofNat index * region.geometry.pageSize).toNat =
      index * region.geometry.pageSize.toNat := by
    rw [UInt64.toNat_mul, UInt64.toNat_ofNat_of_lt' small, Nat.mod_eq_of_lt]
    change index * region.geometry.pageSize.toNat < UInt64.size
    omega
  rw [addressOf, UInt64.toNat_add, product, Nat.mod_eq_of_lt]
  change region.base.word.toNat + index * region.geometry.pageSize.toNat < UInt64.size
  omega

/-- Pages are listed in the order of their addresses. -/
theorem pairwise_pages (region : Region) :
    region.pages.Pairwise fun first second => first.word.toNat < second.word.toNat := by
  rw [pages, List.pairwise_map]
  apply List.Pairwise.imp_of_mem _ List.pairwise_lt_range
  intro first second firstListed secondListed below
  rw [toNat_addressOf (List.mem_range.mp firstListed),
    toNat_addressOf (List.mem_range.mp secondListed)]
  exact Nat.add_lt_add_left (Nat.mul_lt_mul_of_pos_right below region.geometry.pageSize_pos) _

theorem ne_null_of_mem_pages {region : Region} (mapped : region.base ≠ .null) {address : Address}
    (inside : address ∈ region.pages) : address ≠ .null := by
  obtain ⟨index, located⟩ := mem_pages_iff.mp inside
  obtain ⟨bound, rfl⟩ := page?_eq_some_iff.mp located
  intro null
  have number := toNat_addressOf bound
  rw [null] at number
  have zero : Address.null.word.toNat = 0 := rfl
  rw [zero] at number
  have base : region.base.word.toNat = 0 := by omega
  exact mapped (Address.ext (UInt64.toNat_inj.mp base))

/-- The geometry and the number of pages are those that were asked for. -/
structure Fills (region : Region) (geometry : PageGeometry) (pageCount : Nat) : Prop where
  geometry : region.geometry = geometry
  pageCount : region.pageCount = pageCount

theorem fills_of_ofMapping {geometry : PageGeometry} {pageCount : Nat}
    {positive : 0 < pageCount} {bounded : pageCount * geometry.pageSize.toNat < lengthLimit}
    {mapping : Mapping} {region : Region}
    (made : ofMapping geometry pageCount positive bounded mapping = .ok region) :
    region.Fills geometry pageCount := by
  obtain ⟨base, _, made⟩ := bind_eq_ok_iff.mp made
  split at made
  · split at made
    · cases made
      exact ⟨rfl, rfl⟩
    · contradiction
  · contradiction

theorem fills_of_acquire {geometry : PageGeometry} {pageCount : Nat} {mapping : Mapping}
    {region : Region} (acquired : (acquire geometry pageCount mapping).result = .ok region) :
    region.Fills geometry pageCount := by
  unfold acquire at acquired
  split at acquired
  · split at acquired
    · exact fills_of_ofMapping acquired
    · split at acquired <;> contradiction
  · contradiction

/-- A region that was placed passed the test for one table. -/
theorem fills_of_place {geometry : PageGeometry} {pageCount attempts next : Nat}
    {mappings : Nat → Mapping} {region : Region}
    (placed : (place geometry pageCount mappings attempts next).result = .ok region) :
    region.Fills geometry pageCount ∧
      geometry.withinOneTable region.base (.ofNat region.length) = .ok true := by
  induction attempts generalizing next with
  | zero => contradiction
  | succ attempts ih =>
    rw [place] at placed
    cases acquired : (acquire geometry pageCount (mappings next)).result with
    | error failure =>
      simp only [acquired] at placed
      contradiction
    | ok first =>
      simp only [acquired] at placed
      split at placed
      · next within =>
        cases acquired.symm.trans placed
        exact ⟨fills_of_acquire acquired, within⟩
      · exact ih placed

theorem fills_of_acquireInTable {geometry : PageGeometry} {pageCount : Nat}
    {mappings : Nat → Mapping} {region : Region}
    (acquired : (acquireInTable geometry pageCount mappings).result = .ok region) :
    region.Fills geometry pageCount ∧
      geometry.withinOneTable region.base (.ofNat region.length) = .ok true := by
  unfold acquireInTable at acquired
  split at acquired
  · contradiction
  · exact fills_of_place acquired

/-- All pages are mapped by the table of the base, and each has an index of its own. -/
structure InOneTable (region : Region) : Prop where
  sameTable : ∀ index < region.pageCount,
    region.geometry.tableOf (region.addressOf index) = region.geometry.tableOf region.base
  apart : ∀ first < region.pageCount, ∀ second < region.pageCount,
    region.geometry.pageIndex (region.addressOf first) =
      region.geometry.pageIndex (region.addressOf second) → first = second

theorem addressOf_zero (region : Region) : region.addressOf 0 = region.base := by
  simp [addressOf]

theorem inOneTable_of_single {region : Region} (single : region.pageCount = 1) :
    region.InOneTable where
  sameTable index bound := by
    obtain rfl : index = 0 := by omega
    rw [addressOf_zero]
  apart first firstBound second secondBound _ := by omega

theorem length_pos (region : Region) : 0 < region.length :=
  Nat.mul_pos region.pageCount_pos region.geometry.pageSize_pos

/-- The test for one table is right about the bytes of a region. -/
theorem withinOneTable_eq_ok_iff {region : Region} :
    region.geometry.withinOneTable region.base (.ofNat region.length) = .ok true ↔
      region.geometry.MapsRange region.base region.length := by
  have positive := region.length_pos
  have ends : region.base.word.toNat + region.length ≤ UInt64.size := region.end_le
  have word : (UInt64.ofNat region.length).toNat = region.length := by
    apply UInt64.toNat_ofNat_of_lt'
    calc region.length < lengthLimit := region.length_lt
      _ < UInt64.size := by decide
  have fits : region.base.word.toNat + (region.length - 1) < UInt64.size := by omega
  rw [PageGeometry.withinOneTable_eq, word, if_pos fits, Except.ok.injEq, decide_eq_true_iff]
  exact (region.geometry.mapsRange_iff fits).symm

theorem inRange_addressOf {region : Region} {index : Nat} (bound : index < region.pageCount) :
    region.base.InRange region.length (region.addressOf index) := by
  have below : index * region.geometry.pageSize.toNat < region.length :=
    Nat.mul_lt_mul_of_pos_right bound region.geometry.pageSize_pos
  rw [Address.InRange, toNat_addressOf bound]
  omega

/-- Within one table the pages have consecutive indices. -/
theorem toNat_pageIndex_addressOf {region : Region}
    (maps : region.geometry.MapsRange region.base region.length) {index : Nat}
    (bound : index < region.pageCount) :
    (region.geometry.pageIndex (region.addressOf index)).toNat =
      (region.geometry.pageIndex region.base).toNat + index := by
  have same := maps _ (inRange_addressOf bound)
  rw [PageGeometry.tableOf_eq_iff, toNat_addressOf bound] at same
  have divided := Nat.div_add_mod
    (region.base.word.toNat + index * region.geometry.pageSize.toNat)
    region.geometry.tableSpan.toNat
  have base := Nat.div_add_mod region.base.word.toNat region.geometry.tableSpan.toNat
  rw [same] at divided
  rw [PageGeometry.toNat_pageIndex, PageGeometry.toNat_pageIndex, toNat_addressOf bound,
    ← Nat.add_mul_div_right _ _ region.geometry.pageSize_pos]
  congr 1
  omega

theorem inOneTable_of_withinOneTable {region : Region}
    (within : region.geometry.withinOneTable region.base (.ofNat region.length) = .ok true) :
    region.InOneTable := by
  have maps := withinOneTable_eq_ok_iff.mp within
  refine ⟨fun index bound => maps _ (inRange_addressOf bound), ?_⟩
  intro first firstBound second secondBound same
  have equal := congrArg UInt32.toNat same
  rw [toNat_pageIndex_addressOf maps firstBound, toNat_pageIndex_addressOf maps secondBound]
    at equal
  exact Nat.add_left_cancel equal

end Region

/-- A host that puts every mapping at one address, locks and unlocks it, and needs no time. -/
def Host.placing (base : Address) : Host where
  mappings _ := .ok base
  allocationTime := .zero
  stampTime := .zero
  totalTime := .zero

namespace Runner

variable {σ : Type} {runner : Runner σ} {host : Host} {scenario : Scenario} {region : Region}
  (acquired : runner.acquireRegion host scenario = .ok region)

include acquired

theorem fills_of_acquireRegion : region.Fills runner.geometry scenario.pages := by
  have found := mapError_eq_ok_iff.mp acquired
  split at found
  · exact (Region.fills_of_acquireInTable found).1
  · exact Region.fills_of_acquire found

theorem geometry_of_acquireRegion : region.geometry = runner.geometry :=
  (fills_of_acquireRegion acquired).geometry

/-- A region that was asked for in one table, or that is one page, lies in one table. -/
theorem inOneTable_of_acquireRegion (placed : scenario.oneTable = true ∨ scenario.pages = 1) :
    region.InOneTable := by
  have fills := fills_of_acquireRegion acquired
  rcases placed with oneTable | single
  · have found := mapError_eq_ok_iff.mp acquired
    rw [if_pos oneTable] at found
    obtain ⟨_, within⟩ := Region.fills_of_acquireInTable found
    rw [← fills.geometry] at within
    exact Region.inOneTable_of_withinOneTable within
  · exact Region.inOneTable_of_single (fills.pageCount.trans single)

end Runner

end PageMetadata
