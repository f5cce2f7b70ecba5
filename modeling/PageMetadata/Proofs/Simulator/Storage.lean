import PageMetadata.Proofs.Simulator.Agreement

/-! # What the simulator stores

The simulator accepts a structured buffer exactly if it decodes in the simulator's layout, so under
any faults every structured value that is ever kept decodes. What is kept for a table that is not
expanded, and for different pages of one table, depends on one fault each.
-/

namespace PageMetadata

theorem Request.stored?_or_of_leaves {request : Request} {here : Prop} [Decidable here]
    {kept : Option Stored} {stored : Stored} (left : request.leaves here kept = some stored) :
    request.stored? = some stored ∨ kept = some stored := by
  unfold leaves at left
  split at left <;> [contradiction; split at left]
  · rcases Option.or_eq_some_iff.mp left with set | ⟨_, held⟩
    · exact .inl set
    · exact .inr held
  · exact .inr left

namespace Simulator

/-- Every structured value that is kept decodes. -/
def WellEncoded (simulator : Simulator) : Prop :=
  ∀ address bytes, simulator.stored? address = some (.structured bytes) →
    ∃ metadata, StructuredMetadata.decode bytes simulator.config.headerLayout = .ok metadata

theorem result_setStructured_eq_einval_iff {simulator : Simulator} {address : Address}
    (mapped : address ≠ .null) {bytes : List UInt8} :
    (simulator.respond (.setStructured address bytes)).1.result = .error .einval ↔
      ∃ error, StructuredMetadata.decode bytes simulator.config.headerLayout = .error error := by
  rw [result_setStructured mapped]
  cases StructuredMetadata.decode bytes simulator.config.headerLayout with
  | error error => simp
  | ok metadata =>
    have other : Errno.enoent ≠ .einval := by decide
    simp only [reduceCtorEq, exists_false, iff_false]
    split
    · exact nofun
    · exact fun same => other (Except.error.inj same)

/-- What is kept after a successful request was set by it or kept before. -/
theorem stored?_or_of_follow {simulator : Simulator} {request : Request} {address : Address}
    {stored : Stored} (found : (simulator.follow request).stored? address = some stored) :
    request.stored? = some stored ∨ simulator.stored? address = some stored := by
  rw [stored?_follow] at found
  split at found <;> [split at found; exact .inr found]
  · exact .inr found
  · exact Request.stored?_or_of_leaves found

theorem WellEncoded.respond {simulator : Simulator} (wellEncoded : simulator.WellEncoded)
    (request : Request) : (simulator.respond request).2.WellEncoded := by
  intro address bytes found
  rw [config_respond]
  obtain ⟨succeeded, next⟩ | ⟨_, refusal, next⟩ := simulator.respond_cases request
  · rw [next] at found
    rcases stored?_or_of_follow found with set | kept
    · cases request with
      | setStructured target buffer =>
        cases set
        exact exists_decode_of_isOk succeeded
      | _ => cases set
    · exact wellEncoded address bytes kept
  · rw [next, stored?_refuse] at found
    exact wellEncoded address bytes found

theorem Reaches.wellEncoded {first second : Simulator} (reached : first.Reaches second)
    (start : first.WellEncoded) : second.WellEncoded := by
  induction reached with
  | refl => exact start
  | respond reached request ih => exact ih.respond request

/-- What a new simulator reaches is well encoded. -/
theorem Reaches.wellEncoded_of_ofConfig? {config : SimulatorConfig} {initial simulator : Simulator}
    (started : ofConfig? config = some initial) (reached : initial.Reaches simulator) :
    simulator.WellEncoded := by
  apply reached.wellEncoded
  intro address bytes found
  rw [stored?_of_ofConfig? started] at found
  contradiction

theorem stored?_eq_of_sharedSlot {simulator : Simulator}
    (shared : simulator.hasFault .sharedSlot = true) {first second : Address}
    (sameTable : simulator.geometry.tableOf first = simulator.geometry.tableOf second) :
    simulator.stored? first = simulator.stored? second := by
  simp only [stored?, table?, slotOf, shared, if_true, sameTable]

/-- From the start on, whatever is requested under any contract and any faults: a structured buffer
for a mapped page is malformed exactly if it does not decode, every structured value that is kept
decodes, a table that is not expanded holds no values unless they are sticky, and if slots are shared
all pages of a table have the same value. -/
theorem stores_well_formed {config : SimulatorConfig} {initial simulator : Simulator}
    (started : ofConfig? config = some initial) (reached : initial.Reaches simulator) :
    (∀ address bytes, address ≠ .null →
      ((simulator.respond (.setStructured address bytes)).1.result = .error .einval ↔
        ∃ error, StructuredMetadata.decode bytes config.headerLayout = .error error)) ∧
    (∀ address bytes, simulator.stored? address = some (.structured bytes) →
      ∃ metadata, StructuredMetadata.decode bytes config.headerLayout = .ok metadata) ∧
    (config.faults.contains .stickyMetadata = false →
      ∀ address, simulator.isExpanded address = false → simulator.stored? address = none) ∧
    (config.faults.contains .sharedSlot = true →
      ∀ first second, simulator.geometry.tableOf first = simulator.geometry.tableOf second →
        simulator.stored? first = simulator.stored? second) := by
  have initialConfig := config_of_ofConfig? started
  have sameConfig : simulator.config = config := reached.config.trans initialConfig
  refine ⟨?_, ?_, ?_, ?_⟩
  · intro address bytes mapped
    rw [← sameConfig]
    exact result_setStructured_eq_einval_iff mapped
  · rw [← sameConfig]
    exact Reaches.wellEncoded_of_ofConfig? started reached
  · intro forgets
    apply reached.tidy
    · exact fun address _ => stored?_of_ofConfig? started address
    · rw [hasFault, initialConfig]
      exact forgets
  · intro shared first second sameTable
    apply stored?_eq_of_sharedSlot _ sameTable
    rw [hasFault, sameConfig]
    exact shared

/-- With one slot for a table, a structured value is set over the inline value of another page and
read on a third one. The same buffer with a reserved word that is not zero is refused. -/
theorem shared_slot_stores_well_formed :
    let config : SimulatorConfig :=
      { SimulatorConfig.standard with headerLayout := .wideReserved, faults := .sharedSlot }
    let initial : Simulator := ⟨config, ⟨12, by decide, by decide⟩, .empty⟩
    let bytes : List UInt8 := [1, 0, 0, 0, 2, 0, 0, 0, 1, 0, 0, 0, 0, 0, 0, 0, 9]
    let malformed : List UInt8 := [1, 0, 0, 0, 2, 0, 0, 0, 1, 0, 0, 0, 0, 0, 0, 1, 9]
    let simulator :=
      ((initial.respond (.setInline ⟨0x1000⟩ 7)).2.respond (.setStructured ⟨0x2000⟩ bytes)).2
    ofConfig? config = some initial ∧ initial.Reaches simulator ∧
      (simulator.respond (.setStructured ⟨0x1000⟩ malformed)).1.result = .error .einval ∧
      simulator.stored? ⟨0x2000⟩ = some (.structured bytes) ∧
      (∃ metadata, StructuredMetadata.decode bytes .wideReserved = .ok metadata) ∧
      simulator.stored? ⟨0x3000⟩ = simulator.stored? ⟨0x2000⟩ ∧
      simulator.stored? ⟨0x200000⟩ = none := by
  intro config initial bytes malformed simulator
  have started : ofConfig? config = some initial := by
    dsimp +zetaDelta only
    rfl
  have reached : initial.Reaches simulator := .respond (.respond .refl _) _
  have stored : simulator.stored? ⟨0x2000⟩ = some (.structured bytes) := by
    dsimp +zetaDelta only
    decide +kernel
  have unexpanded : simulator.isExpanded ⟨0x200000⟩ = false := by
    dsimp +zetaDelta only
    decide +kernel
  have sameTable :
      simulator.geometry.tableOf ⟨0x3000⟩ = simulator.geometry.tableOf ⟨0x2000⟩ := by
    dsimp +zetaDelta only
    decide +kernel
  obtain ⟨refuses, decodes, tidy, shared⟩ := stores_well_formed started reached
  refine ⟨started, reached, (refuses _ malformed (by decide)).mpr ?_, stored,
    decodes _ _ stored, shared (by decide) _ _ sameTable, tidy (by decide) _ unexpanded⟩
  exact ⟨.reservedNotZero 0x1000000, by decide +kernel⟩

end Simulator

end PageMetadata
