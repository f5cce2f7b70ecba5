import Mathlib.Algebra.Group.Nat.Defs
import PageMetadata.PageGeometry

/-! # Division of addresses

Page sizes are powers of two, so masking an address divides it: the table of an address is its
quotient by the span of a table, and the index of its page is what the remainder holds of whole
pages. The bounds on page sizes leave room for every span and every index, so table, index and the
bytes into the page make up the address again.
-/

namespace PageMetadata.PageGeometry

variable (geometry : PageGeometry)

theorem toNat_pageSize : geometry.pageSize.toNat = 2 ^ geometry.pageShift := by
  apply UInt64.toNat_ofNat_of_lt'
  calc Nat.pow 2 geometry.pageShift ≤ Nat.pow 2 30 :=
        Nat.pow_le_pow_right (by decide) geometry.pageShift_le_thirty
    _ < UInt64.size := by decide

theorem pageSize_pos : 0 < geometry.pageSize.toNat := by
  rw [toNat_pageSize]
  exact Nat.two_pow_pos _

theorem toNat_entriesPerTable :
    geometry.entriesPerTable.toNat = 2 ^ (geometry.pageShift - 3) := by
  rw [entriesPerTable, UInt64.toNat_div, toNat_pageSize]
  exact Nat.pow_div geometry.three_le_pageShift (by decide)

theorem toNat_tableSpan :
    geometry.tableSpan.toNat = 2 ^ (geometry.pageShift + (geometry.pageShift - 3)) := by
  have bound : geometry.pageShift + (geometry.pageShift - 3) < 64 := by
    have := geometry.pageShift_le_thirty
    omega
  rw [tableSpan, UInt64.toNat_mul, toNat_pageSize, toNat_entriesPerTable, ← Nat.pow_add]
  exact Nat.mod_eq_of_lt (Nat.pow_lt_pow_right (by decide) bound)

theorem tableSpan_pos : 0 < geometry.tableSpan.toNat := by
  rw [toNat_tableSpan]
  exact Nat.two_pow_pos _

/-- A table spans as many pages as it has entries. -/
theorem tableSpan_eq :
    geometry.tableSpan.toNat = geometry.entriesPerTable.toNat * geometry.pageSize.toNat := by
  rw [toNat_tableSpan, toNat_entriesPerTable, toNat_pageSize, Nat.pow_add, Nat.mul_comm]

/-- The bits below the span are the remainder. -/
private theorem toNat_below (word : UInt64) :
    (word &&& (geometry.tableSpan - 1)).toNat = word.toNat % geometry.tableSpan.toNat := by
  have one : (1 : UInt64) ≤ geometry.tableSpan :=
    UInt64.le_iff_toNat_le.mpr geometry.tableSpan_pos
  rw [UInt64.toNat_and, UInt64.toNat_sub_of_le _ _ one, toNat_tableSpan]
  exact Nat.and_two_pow_sub_one_eq_mod ..

/-- The bits outside of a mask and those within it make up the word. -/
private theorem toNat_and_not_add (word mask : UInt64) :
    (word &&& ~~~mask).toNat + (word &&& mask).toNat = word.toNat := by
  have disjoint :
      (word.toBitVec &&& ~~~mask.toBitVec) &&& (word.toBitVec &&& mask.toBitVec) = 0 := by
    ext index
    simp only [BitVec.getElem_and, BitVec.getElem_not]
    cases word.toBitVec[index] <;> cases mask.toBitVec[index] <;> simp
  have joined : (word.toBitVec &&& ~~~mask.toBitVec) ||| (word.toBitVec &&& mask.toBitVec) =
      word.toBitVec := by
    ext index
    simp only [BitVec.getElem_or, BitVec.getElem_and, BitVec.getElem_not]
    cases word.toBitVec[index] <;> cases mask.toBitVec[index] <;> rfl
  rw [← BitVec.add_eq_or_of_and_eq_zero _ _ disjoint] at joined
  have sum := congrArg BitVec.toNat joined
  rw [BitVec.toNat_add_of_and_eq_zero disjoint] at sum
  exact sum

/-- A table is named by the first address of its span. -/
theorem toNat_tableOf (address : Address) :
    (geometry.tableOf address).word.toNat =
      geometry.tableSpan.toNat * (address.word.toNat / geometry.tableSpan.toNat) := by
  have split := toNat_and_not_add address.word (geometry.tableSpan - 1)
  rw [toNat_below] at split
  have divided := Nat.div_add_mod address.word.toNat geometry.tableSpan.toNat
  change (address.word &&& ~~~(geometry.tableSpan - 1)).toNat = _
  omega

theorem tableOf_eq_iff {first second : Address} :
    geometry.tableOf first = geometry.tableOf second ↔
      first.word.toNat / geometry.tableSpan.toNat =
        second.word.toNat / geometry.tableSpan.toNat := by
  rw [Address.ext_iff, ← UInt64.toNat_inj, toNat_tableOf, toNat_tableOf]
  exact Nat.mul_right_inj (Nat.ne_of_gt geometry.tableSpan_pos)

/-- The index of the page of an address as a word, before it is cut to 32 bits. -/
def wideIndex (address : Address) : UInt64 :=
  (address.masked (geometry.tableSpan - 1)).word >>> UInt64.ofNat geometry.pageShift

/-- Pages are counted from the start of their table. -/
theorem toNat_wideIndex (address : Address) :
    (geometry.wideIndex address).toNat =
      address.word.toNat % geometry.tableSpan.toNat / geometry.pageSize.toNat := by
  have shift : (UInt64.ofNat geometry.pageShift).toNat % 64 = geometry.pageShift := by
    have bound := geometry.pageShift_le_thirty
    rw [UInt64.toNat_ofNat_of_lt' (Nat.lt_of_le_of_lt bound (by decide))]
    omega
  simp only [wideIndex, Address.masked, UInt64.toNat_shiftRight, shift, toNat_below,
    Nat.shiftRight_eq_div_pow, toNat_pageSize]

theorem toNat_wideIndex_lt (address : Address) :
    (geometry.wideIndex address).toNat < geometry.entriesPerTable.toNat := by
  rw [toNat_wideIndex, Nat.div_lt_iff_lt_mul geometry.pageSize_pos, ← tableSpan_eq]
  exact Nat.mod_lt _ geometry.tableSpan_pos

/-- A table has no more entries than 32 bits can count. -/
theorem entriesPerTable_le : geometry.entriesPerTable.toNat ≤ 2 ^ 32 := by
  rw [toNat_entriesPerTable]
  have := geometry.pageShift_le_thirty
  exact Nat.pow_le_pow_right (by decide) (by omega)

theorem pageIndex_eq (address : Address) :
    geometry.pageIndex address = (geometry.wideIndex address).toUInt32 := rfl

/-- Nothing is lost where an index is cut to 32 bits. -/
theorem toNat_pageIndex_eq_wideIndex (address : Address) :
    (geometry.pageIndex address).toNat = (geometry.wideIndex address).toNat := by
  rw [pageIndex_eq, UInt64.toNat_toUInt32]
  apply Nat.mod_eq_of_lt
  have bound := geometry.toNat_wideIndex_lt address
  have entries := geometry.entriesPerTable_le
  omega

theorem toNat_pageIndex (address : Address) :
    (geometry.pageIndex address).toNat =
      address.word.toNat % geometry.tableSpan.toNat / geometry.pageSize.toNat := by
  rw [toNat_pageIndex_eq_wideIndex, toNat_wideIndex]

/-- A page has an entry in its table. -/
theorem pageIndex_lt (address : Address) :
    (geometry.pageIndex address).toNat < geometry.entriesPerTable.toNat := by
  rw [toNat_pageIndex_eq_wideIndex]
  exact geometry.toNat_wideIndex_lt address

/-- The address that names a table lies within it. -/
@[simp] theorem tableOf_tableOf (address : Address) :
    geometry.tableOf (geometry.tableOf address) = geometry.tableOf address := by
  rw [tableOf_eq_iff, toNat_tableOf, Nat.mul_div_cancel_left _ geometry.tableSpan_pos]

/-- One table maps both addresses: no multiple of the span of a table lies between them. -/
def SameTable (first second : Address) : Prop :=
  first.word.toNat / geometry.tableSpan.toNat = second.word.toNat / geometry.tableSpan.toNat

/-- Both addresses lie within one page. -/
def SamePage (first second : Address) : Prop :=
  first.word.toNat / geometry.pageSize.toNat = second.word.toNat / geometry.pageSize.toNat

instance (first second : Address) : Decidable (geometry.SameTable first second) := by
  unfold SameTable
  infer_instance

instance (first second : Address) : Decidable (geometry.SamePage first second) := by
  unfold SamePage
  infer_instance

theorem sameTable_iff {first second : Address} :
    geometry.SameTable first second ↔ geometry.tableOf first = geometry.tableOf second :=
  geometry.tableOf_eq_iff.symm

/-- A page is known by its table and its index there. -/
theorem samePage_iff {first second : Address} :
    geometry.SamePage first second ↔
      geometry.tableOf first = geometry.tableOf second ∧
        geometry.pageIndex first = geometry.pageIndex second := by
  have span := geometry.tableSpan_eq
  rw [Nat.mul_comm] at span
  rw [tableOf_eq_iff, ← UInt32.toNat_inj, toNat_pageIndex, toNat_pageIndex, span,
    ← Nat.div_div_eq_div_mul, ← Nat.div_div_eq_div_mul, Nat.mod_mul_right_div_self,
    Nat.mod_mul_right_div_self, SamePage]
  constructor
  · intro same
    rw [same]
    exact ⟨rfl, rfl⟩
  · rintro ⟨quotient, remainder⟩
    rw [← Nat.div_add_mod (first.word.toNat / geometry.pageSize.toNat), quotient, remainder,
      Nat.div_add_mod]

/-- Page sizes are the powers of two that hold one entry at least, and 1 GiB at most. -/
theorem isSome_ofPageSize?_iff (size : UInt64) :
    (ofPageSize? size).isSome = true ↔
      size.toNat.isPowerOfTwo ∧ 8 ≤ size.toNat ∧ size.toNat ≤ 2 ^ 30 := by
  have least (shift : Nat) : 8 ≤ 2 ^ shift ↔ 3 ≤ shift :=
    Nat.pow_le_pow_iff_right (n := 3) (by decide : 1 < 2)
  have greatest (shift : Nat) : 2 ^ shift ≤ 2 ^ 30 ↔ shift ≤ 30 :=
    Nat.pow_le_pow_iff_right (by decide)
  simp only [ofPageSize?]
  constructor
  · intro accepted
    split at accepted
    · next bounds =>
      obtain ⟨power, low, high⟩ := bounds
      change 2 ^ size.toNat.log2 = size.toNat at power
      refine ⟨⟨size.toNat.log2, power.symm⟩, ?_, ?_⟩
      · rw [← power]
        exact (least _).mpr low
      · rw [← power]
        exact (greatest _).mpr high
    · contradiction
  · rintro ⟨⟨shift, power⟩, low, high⟩
    rw [power] at low high
    have bounds : Nat.pow 2 size.toNat.log2 = size.toNat ∧ 3 ≤ size.toNat.log2 ∧
        size.toNat.log2 ≤ 30 := by
      rw [power, Nat.log2_two_pow]
      exact ⟨rfl, (least shift).mp low, (greatest shift).mp high⟩
    rw [dif_pos bounds]
    rfl

/-- A geometry has the page size that it was made for. -/
theorem pageSize_of_ofPageSize? {size : UInt64} (made : ofPageSize? size = some geometry) :
    geometry.pageSize = size := by
  simp only [ofPageSize?] at made
  split at made
  · next bounds =>
    cases made
    simp only [pageSize, bounds.1]
    exact UInt64.ofNat_toNat
  · contradiction

theorem toNat_entriesPerTable_eq_div :
    geometry.entriesPerTable.toNat = geometry.pageSize.toNat / 8 := UInt64.toNat_div ..

/-- The span of a table fits a word, so it is the product that it is computed as. -/
theorem pageSize_mul_entriesPerTable_lt :
    geometry.pageSize.toNat * geometry.entriesPerTable.toNat < UInt64.size := by
  rw [Nat.mul_comm, ← tableSpan_eq]
  exact geometry.tableSpan.toNat_lt

/-- An address is the start of its table, so many pages, and the bytes into its page. -/
theorem toNat_word_eq_add (address : Address) :
    address.word.toNat = (geometry.tableOf address).word.toNat +
      (geometry.pageIndex address).toNat * geometry.pageSize.toNat +
      address.word.toNat % geometry.pageSize.toNat := by
  have pages : geometry.pageSize.toNat ∣ geometry.tableSpan.toNat :=
    ⟨_, geometry.tableSpan_eq.trans (Nat.mul_comm ..)⟩
  calc address.word.toNat
      = geometry.tableSpan.toNat * (address.word.toNat / geometry.tableSpan.toNat) +
          address.word.toNat % geometry.tableSpan.toNat := (Nat.div_add_mod ..).symm
    _ = geometry.tableSpan.toNat * (address.word.toNat / geometry.tableSpan.toNat) +
          (address.word.toNat % geometry.tableSpan.toNat / geometry.pageSize.toNat *
              geometry.pageSize.toNat +
            address.word.toNat % geometry.tableSpan.toNat % geometry.pageSize.toNat) := by
        rw [Nat.div_add_mod']
    _ = _ := by
        rw [toNat_tableOf, toNat_pageIndex, Nat.mod_mod_of_dvd _ pages, Nat.add_assoc]

/-- Exactly the powers of two from 8 to 1 GiB are page sizes, and for each of them masks and shifts
divide every address exactly: nothing overflows and no bit of an index is lost, the parts make up
the address, a table is named by the first address of its span, and a page is known by its table and
its index there. -/
theorem addresses_divided (size : UInt64) :
    ((ofPageSize? size).isSome = true ↔
      size.toNat.isPowerOfTwo ∧ 8 ≤ size.toNat ∧ size.toNat ≤ 2 ^ 30) ∧
    ∀ geometry, ofPageSize? size = some geometry →
      geometry.pageSize = size ∧ geometry.entriesPerTable.toNat = size.toNat / 8 ∧
      size.toNat * geometry.entriesPerTable.toNat < UInt64.size ∧
      geometry.tableSpan.toNat = size.toNat * geometry.entriesPerTable.toNat ∧
      (∀ address : Address,
        (geometry.pageIndex address).toNat < geometry.entriesPerTable.toNat ∧
        (geometry.pageIndex address).toNat = (geometry.wideIndex address).toNat ∧
        address.word.toNat = (geometry.tableOf address).word.toNat +
          (geometry.pageIndex address).toNat * size.toNat + address.word.toNat % size.toNat ∧
        geometry.tableOf (geometry.tableOf address) = geometry.tableOf address ∧
        geometry.tableSpan.toNat ∣ (geometry.tableOf address).word.toNat) ∧
      ∀ first second : Address,
        geometry.tableOf first = geometry.tableOf second ∧
            geometry.pageIndex first = geometry.pageIndex second ↔
          first.word.toNat / size.toNat = second.word.toNat / size.toNat := by
  refine ⟨isSome_ofPageSize?_iff size, ?_⟩
  intro geometry made
  obtain rfl := geometry.pageSize_of_ofPageSize? made
  refine ⟨rfl, geometry.toNat_entriesPerTable_eq_div, geometry.pageSize_mul_entriesPerTable_lt, ?_,
    ?_, ?_⟩
  · rw [tableSpan_eq, Nat.mul_comm]
  · intro address
    refine ⟨geometry.pageIndex_lt address, geometry.toNat_pageIndex_eq_wideIndex address,
      geometry.toNat_word_eq_add address, geometry.tableOf_tableOf address, ?_⟩
    rw [toNat_tableOf]
    exact Nat.dvd_mul_right ..
  · intro first second
    exact geometry.samePage_iff.symm

/-- Of the largest pages a table holds `2 ^ 27` and spans `2 ^ 57` bytes. The last address of all is
the last byte of the last page of its table. -/
theorem last_address_divided :
    let size : UInt64 := 0x40000000
    let geometry : PageGeometry := ⟨30, by decide, by decide⟩
    let last : Address := ⟨0xFFFFFFFFFFFFFFFF⟩
    ofPageSize? size = some geometry ∧ geometry.tableSpan.toNat = 2 ^ 57 ∧
      geometry.pageIndex last = 0x7FFFFFF ∧
      geometry.tableOf last = ⟨0xFE00000000000000⟩ ∧
      last.word.toNat = (geometry.tableOf last).word.toNat +
        (geometry.pageIndex last).toNat * size.toNat + last.word.toNat % size.toNat := by
  intro size geometry last
  have made : ofPageSize? size = some geometry := by decide +kernel
  obtain ⟨_, _, _, _, parts, _⟩ := (addresses_divided size).2 geometry made
  obtain ⟨_, _, whole, _, _⟩ := parts last
  exact ⟨made, by decide +kernel, by decide +kernel, by decide +kernel, whole⟩

end PageMetadata.PageGeometry
