import PageMetadata.Proofs.PageGeometry

/-! # Ranges within one table

Whether a range lies in one table is decided by comparing the tables of its first and its last byte.
Every address between two addresses of a table belongs to that table, so this is right for ranges of
any length, and it comes down to the room that the table has behind the first byte. There is no
answer only where the last byte has no address.
-/

namespace PageMetadata

/-- The address is one of so many consecutive ones. -/
def Address.InRange (start : Address) (length : Nat) (address : Address) : Prop :=
  start.word.toNat ≤ address.word.toNat ∧ address.word.toNat < start.word.toNat + length

namespace PageGeometry

variable (geometry : PageGeometry)

/-- The table of the first byte maps the other bytes as well. -/
def MapsRange (start : Address) (length : Nat) : Prop :=
  ∀ address, start.InRange length address → geometry.tableOf address = geometry.tableOf start

/-- An address above another belongs to the same table if the table has room up to it. -/
theorem tableOf_eq_iff_of_le {start address : Address}
    (above : start.word.toNat ≤ address.word.toNat) :
    geometry.tableOf address = geometry.tableOf start ↔
      start.word.toNat % geometry.tableSpan.toNat + (address.word.toNat - start.word.toNat) <
        geometry.tableSpan.toNat := by
  have positive := geometry.tableSpan_pos
  have divided := Nat.div_add_mod start.word.toNat geometry.tableSpan.toNat
  rw [tableOf_eq_iff]
  generalize geometry.tableSpan.toNat = span at positive divided ⊢
  -- The address lies in the span of the quotient, counted from the start of the table.
  have shifted : address.word.toNat = span * (start.word.toNat / span) +
      (start.word.toNat % span + (address.word.toNat - start.word.toNat)) := by omega
  generalize start.word.toNat % span + (address.word.toNat - start.word.toNat) = room at shifted ⊢
  rw [shifted, Nat.mul_add_div positive, Nat.add_eq_left, Nat.div_eq_zero_iff_lt positive]

/-- A range whose last byte has an address lies in one table if the table has room for it. -/
theorem mapsRange_iff {start : Address} {length : Nat}
    (fits : start.word.toNat + (length - 1) < UInt64.size) :
    geometry.MapsRange start length ↔
      start.word.toNat % geometry.tableSpan.toNat + length ≤ geometry.tableSpan.toNat := by
  have inside := Nat.mod_lt start.word.toNat geometry.tableSpan_pos
  constructor
  · intro maps
    rcases Nat.eq_zero_or_pos length with rfl | positive
    · omega
    · have last : (UInt64.ofNat (start.word.toNat + (length - 1))).toNat =
          start.word.toNat + (length - 1) := UInt64.toNat_ofNat_of_lt' fits
      have same := maps ⟨.ofNat (start.word.toNat + (length - 1))⟩
        ⟨by dsimp only; omega, by dsimp only; omega⟩
      rw [tableOf_eq_iff_of_le _ (by dsimp only; omega)] at same
      dsimp only at same
      omega
  · rintro room address ⟨above, below⟩
    rw [tableOf_eq_iff_of_le _ above]
    omega

/-- What the comparison of the two end points answers, and when it has no answer. -/
theorem withinOneTable_eq (start : Address) (length : UInt64) :
    geometry.withinOneTable start length =
      if start.word.toNat + (length.toNat - 1) < UInt64.size then
        .ok (start.word.toNat % geometry.tableSpan.toNat + length.toNat ≤
          geometry.tableSpan.toNat)
      else .error .addition := by
  have inside := Nat.mod_lt start.word.toNat geometry.tableSpan_pos
  by_cases empty : length = 0
  · subst empty
    have addressed : start.word.toNat + ((0 : UInt64).toNat - 1) < UInt64.size :=
      start.word.toNat_lt
    rw [withinOneTable, if_pos rfl, if_pos addressed, UInt64.toNat_zero, Nat.add_zero,
      decide_eq_true (Nat.le_of_lt inside)]
  · have positive : 0 < length.toNat := by
      apply Nat.pos_of_ne_zero
      intro zero
      exact empty (UInt64.toNat_inj.mp zero)
    have distance : (length - 1).toNat = length.toNat - 1 :=
      UInt64.toNat_sub_of_le _ _ (UInt64.le_iff_toNat_le.mpr positive)
    rw [withinOneTable, if_neg empty, Address.add, distance]
    split
    · next fits =>
      have last : (start.word + (length - 1)).toNat = start.word.toNat + (length.toNat - 1) := by
        rw [UInt64.toNat_add, distance]
        exact Nat.mod_eq_of_lt fits
      simp only [bind, Except.bind, pure, Except.pure, Except.ok.injEq, decide_eq_decide]
      rw [eq_comm, tableOf_eq_iff_of_le _ (by dsimp only; omega)]
      dsimp only
      omega
    · rfl

/-- Whether a range lies in one table is answered rightly whenever its last byte has an address,
also if that is the last address of all. An empty range does, and the addition overflows exactly if
the last byte has no address. -/
theorem withinOneTable_decides (start : Address) (length : UInt64) :
    (length = 0 → geometry.withinOneTable start length = .ok true) ∧
    (start.word.toNat + (length.toNat - 1) ≤ 2 ^ 64 - 1 →
      ∃ within, geometry.withinOneTable start length = .ok within ∧
        (within = true ↔ ∀ address, start.InRange length.toNat address →
          geometry.tableOf address = geometry.tableOf start) ∧
        (within = true ↔
          start.word.toNat % geometry.tableSpan.toNat + length.toNat ≤
            geometry.tableSpan.toNat)) ∧
    (geometry.withinOneTable start length = .error .addition ↔
      0 < length.toNat ∧ 2 ^ 64 - 1 < start.word.toNat + (length.toNat - 1)) := by
  have size : UInt64.size = 2 ^ 64 := rfl
  have bound := start.word.toNat_lt
  refine ⟨?_, ?_, ?_⟩
  · rintro rfl
    rfl
  · intro addressed
    have fits : start.word.toNat + (length.toNat - 1) < UInt64.size := by omega
    refine ⟨_, (geometry.withinOneTable_eq start length).trans (if_pos fits), ?_,
      decide_eq_true_iff⟩
    rw [decide_eq_true_iff]
    exact (geometry.mapsRange_iff fits).symm
  · rw [withinOneTable_eq]
    split
    · simp only [reduceCtorEq, false_iff]
      omega
    · simp only [true_iff]
      omega

/-- The last page of all, taken as a whole, lies in one table. -/
theorem last_page_within_one_table :
    let geometry : PageGeometry := ⟨12, by decide, by decide⟩
    let start : Address := ⟨0xFFFFFFFFFFFFF000⟩
    let length : UInt64 := 0x1000
    start.word.toNat + (length.toNat - 1) ≤ 2 ^ 64 - 1 ∧
      geometry.withinOneTable start length = .ok true ∧
      ∀ address, start.InRange length.toNat address →
        geometry.tableOf address = geometry.tableOf start := by
  intro geometry start length
  have addressed : start.word.toNat + (length.toNat - 1) ≤ 2 ^ 64 - 1 := by decide
  obtain ⟨within, answered, maps, room⟩ :=
    (geometry.withinOneTable_decides start length).2.1 addressed
  obtain rfl : within = true := room.mpr (by decide +kernel)
  exact ⟨addressed, answered, maps.mp rfl⟩

end PageGeometry

end PageMetadata
