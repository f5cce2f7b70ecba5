import PageMetadata.Proofs.Region

/-! # Regions placed in one table

A region within one table is the first mapping that lies in one table. Mappings are requested until
then, but no more than a bounded number, and no further once the host refuses one or misplaces it.
Nothing is assumed about the host except that its mappings do not wrap around the address space.
-/

namespace PageMetadata.Region

variable {geometry : PageGeometry} {pageCount : Nat}

/-- The mapping is of no use: it is page aligned, but not all of its bytes are in one table. -/
def Crosses (geometry : PageGeometry) (pageCount : Nat) (mapping : Mapping) : Prop :=
  ∃ base, mapping = .ok base ∧ base.word.toNat % geometry.pageSize.toNat = 0 ∧
    ¬ geometry.MapsRange base (pageCount * geometry.pageSize.toNat)

/-- How the acquisition ends with a mapping, unless the mapping is of no use. -/
inductive Settles (geometry : PageGeometry) (pageCount : Nat) :
    Mapping → Except AllocationFailure Region → Prop where
  | refused (errno : Errno) : Settles geometry pageCount (.error errno) (.error (.host errno))
  | misaligned (base : Address) (odd : base.word.toNat % geometry.pageSize.toNat ≠ 0) :
    Settles geometry pageCount (.ok base) (.error (.misaligned base))
  | placed (region : Region) (fills : region.Fills geometry pageCount)
    (maps : geometry.MapsRange region.base (pageCount * geometry.pageSize.toNat)) :
    Settles geometry pageCount (.ok region.base) (.ok region)

/-- The mapping does not wrap around the address space. -/
def Fits (geometry : PageGeometry) (pageCount : Nat) (mapping : Mapping) : Prop :=
  ∀ base, mapping = .ok base →
    base.word.toNat + pageCount * geometry.pageSize.toNat ≤ UInt64.size

/-- As many pages as a table has entries are no more bytes than a mapping can have. -/
theorem length_lt_of_le_entriesPerTable (few : pageCount ≤ geometry.entriesPerTable.toNat) :
    pageCount * geometry.pageSize.toNat < lengthLimit := by
  have shift := geometry.pageShift_le_thirty
  calc pageCount * geometry.pageSize.toNat
      ≤ geometry.entriesPerTable.toNat * geometry.pageSize.toNat := Nat.mul_le_mul_right _ few
    _ = 2 ^ (geometry.pageShift + (geometry.pageShift - 3)) := by
        rw [← PageGeometry.tableSpan_eq, PageGeometry.toNat_tableSpan]
    _ ≤ 2 ^ 57 := Nat.pow_le_pow_right (by decide) (by omega)
    _ < lengthLimit := by decide

section Step

variable (positive : 0 < pageCount) (few : pageCount ≤ geometry.entriesPerTable.toNat)
  {mapping : Mapping} (fits : Fits geometry pageCount mapping)

include positive few fits

/-- One request: the mapping ends the acquisition, or it crosses a boundary. -/
theorem settles_or_crosses :
    (∃ result, Settles geometry pageCount mapping result) ∨
      Crosses geometry pageCount mapping := by
  cases mapping with
  | error errno => exact .inl ⟨_, .refused errno⟩
  | ok base =>
    by_cases aligned : base.word.toNat % geometry.pageSize.toNat = 0
    · by_cases maps : geometry.MapsRange base (pageCount * geometry.pageSize.toNat)
      · have bounded := length_lt_of_le_entriesPerTable few
        exact .inl ⟨_, .placed ⟨geometry, base, pageCount, positive, aligned, bounded, fits base rfl⟩
          ⟨rfl, rfl⟩ maps⟩
      · exact .inr ⟨base, rfl, aligned, maps⟩
    · exact .inl ⟨_, .misaligned base aligned⟩

/-- A page-aligned mapping makes a region. -/
theorem acquire_eq_ok {base : Address} (mapped : mapping = .ok base)
    (aligned : base.word.toNat % geometry.pageSize.toNat = 0) :
    acquire geometry pageCount mapping =
      ⟨.ok ⟨geometry, base, pageCount, positive, aligned, length_lt_of_le_entriesPerTable few,
        fits base mapped⟩, 1⟩ := by
  subst mapped
  have ends := fits base rfl
  simp only [acquire, dif_pos positive, dif_pos (length_lt_of_le_entriesPerTable few), ofMapping,
    mapError_ok, bind, Except.bind, dif_pos ends, dif_pos aligned]
  rfl

variable {mappings : Nat → Mapping} {next : Nat} (here : mappings next = mapping) (attempts : Nat)

include here

/-- Once a mapping settles the acquisition no other is requested. -/
theorem place_eq_of_settles {result : Except AllocationFailure Region}
    (settles : Settles geometry pageCount mapping result) :
    place geometry pageCount mappings (attempts + 1) next = ⟨result, 1⟩ := by
  rw [place, here]
  have bounded := length_lt_of_le_entriesPerTable few
  cases settles with
  | refused errno =>
    simp only [acquire, dif_pos positive, dif_pos bounded]
    rfl
  | misaligned base odd =>
    have ends := fits base rfl
    simp only [acquire, dif_pos positive, dif_pos bounded, ofMapping, mapError_ok, bind,
      Except.bind, dif_pos ends, dif_neg odd]
    rfl
  | placed region fills maps =>
    obtain ⟨rfl, rfl⟩ := fills
    have within : region.geometry.withinOneTable region.base (.ofNat region.length) = .ok true :=
      withinOneTable_eq_ok_iff.mpr maps
    rw [acquire_eq_ok positive few fits rfl region.aligned]
    simp only [within, if_true]

/-- After a mapping that crosses a boundary the rest is up to the mappings behind it. -/
theorem place_eq_of_crosses (crosses : Crosses geometry pageCount mapping) :
    place geometry pageCount mappings (attempts + 1) next =
      ⟨(place geometry pageCount mappings attempts (next + 1)).result,
        1 + (place geometry pageCount mappings attempts (next + 1)).mappings⟩ := by
  obtain ⟨base, mapped, aligned, apart⟩ := crosses
  rw [place, here, acquire_eq_ok positive few fits mapped aligned]
  dsimp only
  split
  · next within =>
    split at within
    · next answered => exact absurd (withinOneTable_eq_ok_iff.mp answered) apart
    · contradiction
  · rfl

end Step

variable {mappings : Nat → Mapping}

/-- So many requests: the first mapping that does not cross a boundary ends the acquisition. -/
theorem place_cases (positive : 0 < pageCount)
    (few : pageCount ≤ geometry.entriesPerTable.toNat)
    (fits : ∀ number, Fits geometry pageCount (mappings number)) (attempts next : Nat) :
    (∃ number < attempts,
      (∀ earlier < number, Crosses geometry pageCount (mappings (next + earlier))) ∧
      ∃ result, Settles geometry pageCount (mappings (next + number)) result ∧
        place geometry pageCount mappings attempts next = ⟨result, number + 1⟩) ∨
    (∀ number < attempts, Crosses geometry pageCount (mappings (next + number))) ∧
      place geometry pageCount mappings attempts next = ⟨.error .crossesTables, attempts⟩ := by
  induction attempts generalizing next with
  | zero => exact .inr ⟨nofun, rfl⟩
  | succ attempts ih =>
    rcases settles_or_crosses positive few (fits next) with ⟨result, settles⟩ | crosses
    · refine .inl ⟨0, Nat.succ_pos attempts, nofun, result, settles, ?_⟩
      exact place_eq_of_settles positive few (fits next) rfl attempts settles
    · have placed := place_eq_of_crosses positive few (fits next) rfl attempts crosses
      -- The mappings from `next` on are that one and the mappings from `next + 1` on.
      have shifted (number : Nat) : next + 1 + number = next + (number + 1) := by omega
      have earlier {count : Nat}
          (later : ∀ number < count, Crosses geometry pageCount (mappings (next + 1 + number))) :
          ∀ number < count + 1, Crosses geometry pageCount (mappings (next + number)) := by
        intro number bound
        cases number with
        | zero => exact crosses
        | succ number =>
          rw [← shifted]
          exact later number (Nat.lt_of_succ_lt_succ bound)
      rcases ih (next + 1) with ⟨number, bound, before, result, settles, rest⟩ | ⟨before, rest⟩
      · rw [shifted] at settles
        refine .inl ⟨number + 1, Nat.succ_lt_succ bound, earlier before, result, settles, ?_⟩
        rw [placed, rest, Nat.add_comm 1]
      · refine .inr ⟨earlier before, ?_⟩
        rw [placed, rest, Nat.add_comm 1]

/-- A request that no table could satisfy ends before a mapping is requested. -/
theorem acquireInTable_eq_error (impossible : pageCount = 0 ∨
    geometry.entriesPerTable.toNat < pageCount ∨
      UInt64.size ≤ pageCount * geometry.pageSize.toNat) :
    ∃ failure, acquireInTable geometry pageCount mappings = ⟨.error failure, 0⟩ := by
  by_cases many : geometry.entriesPerTable.toNat < pageCount
  · exact ⟨_, if_pos many⟩
  · have short := length_lt_of_le_entriesPerTable (Nat.le_of_not_lt many)
    have limit : lengthLimit < UInt64.size := by decide
    obtain rfl : pageCount = 0 := by omega
    refine ⟨.noPages, ?_⟩
    rw [acquireInTable, if_neg many]
    rfl

/-- A region that was acquired in one table is in one table. -/
theorem maps_of_acquireInTable {region : Region}
    (acquired : (acquireInTable geometry pageCount mappings).result = .ok region) :
    region.Fills geometry pageCount ∧ region.geometry.MapsRange region.base region.length := by
  obtain ⟨fills, within⟩ := fills_of_acquireInTable acquired
  rw [← fills.geometry] at within
  exact ⟨fills, withinOneTable_eq_ok_iff.mp within⟩

/-- For a number of pages that a table can have, the acquisition ends with the first of at most eight
mappings that does not cross the boundary of a table: with its region, or with the reason why there
is none. If all eight cross one it fails, and for any other number of pages it fails before the first
mapping. In the region that it returns every page is in the table of the base, at the index that
follows from its number. -/
theorem acquireInTable_ends_first
    (fits : ∀ number base, mappings number = .ok base →
      base.word.toNat + pageCount * geometry.pageSize.toNat ≤ UInt64.size) :
    (pageCount = 0 ∨ geometry.entriesPerTable.toNat < pageCount ∨
        UInt64.size ≤ pageCount * geometry.pageSize.toNat →
      ∃ failure, acquireInTable geometry pageCount mappings = ⟨.error failure, 0⟩) ∧
    (0 < pageCount → pageCount ≤ geometry.entriesPerTable.toNat →
      (∃ number < 8, (∀ earlier < number, Crosses geometry pageCount (mappings earlier)) ∧
        ∃ result, Settles geometry pageCount (mappings number) result ∧
          acquireInTable geometry pageCount mappings = ⟨result, number + 1⟩) ∨
      (∀ number < 8, Crosses geometry pageCount (mappings number)) ∧
        acquireInTable geometry pageCount mappings = ⟨.error .crossesTables, 8⟩) ∧
    ∀ region, (acquireInTable geometry pageCount mappings).result = .ok region →
      (∀ index, (region.page? index).isSome = true ↔ index < pageCount) ∧
      (∀ index address, region.page? index = some address →
        geometry.tableOf address = geometry.tableOf region.base ∧
        (geometry.pageIndex address).toNat = (geometry.pageIndex region.base).toNat + index ∧
        (geometry.pageIndex address).toNat < geometry.entriesPerTable.toNat) ∧
      ∀ first second address other, region.page? first = some address →
        region.page? second = some other → first ≠ second →
          geometry.pageIndex address ≠ geometry.pageIndex other := by
  refine ⟨acquireInTable_eq_error, ?_, ?_⟩
  · intro positive few
    have started : acquireInTable geometry pageCount mappings =
        place geometry pageCount mappings placementAttempts 0 := if_neg (Nat.not_lt.mpr few)
    have cases := place_cases positive few fits placementAttempts 0
    simp only [Nat.zero_add] at cases
    rw [started]
    exact cases
  · intro region acquired
    obtain ⟨⟨rfl, rfl⟩, maps⟩ := maps_of_acquireInTable acquired
    have numbered {index : Nat} {address : Address}
        (located : region.page? index = some address) :
        (region.geometry.pageIndex address).toNat =
          (region.geometry.pageIndex region.base).toNat + index := by
      obtain ⟨bound, rfl⟩ := page?_eq_some_iff.mp located
      exact toNat_pageIndex_addressOf maps bound
    refine ⟨fun index => by simp [page?], ?_, ?_⟩
    · intro index address located
      refine ⟨?_, numbered located, region.geometry.pageIndex_lt address⟩
      obtain ⟨bound, rfl⟩ := page?_eq_some_iff.mp located
      exact maps _ (inRange_addressOf bound)
    · intro first second address other firstLocated secondLocated apart same
      have indices := congrArg UInt32.toNat same
      rw [numbered firstLocated, numbered secondLocated] at indices
      omega

/-- The first mapping of two pages crosses a boundary. The second one ends with the last address of
all, and is the region. -/
theorem second_mapping_in_one_table :
    let geometry : PageGeometry := ⟨4, by decide, by decide⟩
    let mappings : Nat → Mapping
      | 0 => .ok ⟨0x1010⟩
      | 1 => .ok ⟨0xFFFFFFFFFFFFFFE0⟩
      | _ => .error outOfMemory
    (∀ number base, mappings number = .ok base →
      base.word.toNat + 2 * geometry.pageSize.toNat ≤ UInt64.size) ∧
      Crosses geometry 2 (mappings 0) ∧ (acquireInTable geometry 2 mappings).mappings = 2 ∧
      ∃ region, (acquireInTable geometry 2 mappings).result = .ok region ∧
        region.base = ⟨0xFFFFFFFFFFFFFFE0⟩ ∧
        ∀ index address, region.page? index = some address →
          (geometry.pageIndex address).toNat = (geometry.pageIndex region.base).toNat + index := by
  intro geometry mappings
  have fits : ∀ number base, mappings number = .ok base →
      base.word.toNat + 2 * geometry.pageSize.toNat ≤ UInt64.size := by
    rintro (_ | _ | number) base ⟨⟩ <;> decide
  have crosses : Crosses geometry 2 (mappings 0) := by
    refine ⟨⟨0x1010⟩, rfl, by decide, fun maps => ?_⟩
    have same := maps ⟨0x1020⟩ ⟨by decide, by decide⟩
    revert same
    decide
  have requested : (acquireInTable geometry 2 mappings).mappings = 2 := by decide +kernel
  have placed : (acquireInTable geometry 2 mappings).result.toOption.any
      (fun region => decide (region.base = ⟨0xFFFFFFFFFFFFFFE0⟩)) = true := by decide +kernel
  obtain ⟨region, acquired, base⟩ := any_toOption_iff.mp placed
  obtain ⟨_, _, pages⟩ := acquireInTable_ends_first fits
  refine ⟨fits, crosses, requested, region, acquired, of_decide_eq_true base, ?_⟩
  intro index address located
  exact ((pages region acquired).2.1 index address located).2.1

end PageMetadata.Region
