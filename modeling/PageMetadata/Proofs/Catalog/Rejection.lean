import PageMetadata.Proofs.Catalog.Acceptance
import PageMetadata.Proofs.Simulator.Detection

/-! # What the catalog rejects

A simulator that passes every scenario of the catalog keeps the contract and the layout of the suite
and has no fault. Each of its settings is shown by a scenario of its own, whichever state the
earlier scenarios have left: a corrupted value by `basic-inline`, a table that is enabled twice by
`double-enable`, a shared value by `multi-page`, a value that outlives its table by
`disable-clears`, the two choices of the contract by `set-without-enable` and `get-before-set`, and
the layout by `structured`.
-/

namespace PageMetadata

namespace Catalog

variable (contract : Contract) (layout : HeaderLayout)

/-- What is predicted for reading an unset page of an expanded table. -/
private def unsetRead : Prediction := contract.predict .expanded none (.get .null .inline)

private theorem unsetRead_ne {metadata : InlineMetadata} (nonzero : metadata ≠ ⟨.scalar, 0⟩) :
    unsetRead contract ≠ .success (some (.inline metadata)) := by
  intro predicted
  rcases contract with ⟨_, _ | _⟩
  · cases predicted
  · cases predicted
    exact nonzero rfl

private theorem trials?_basicInline : ∃ later,
    (basicInline contract).trials? layout =
      some (⟨.enable 0, .success none⟩ ::
        ⟨.set 0 (.fixed (.inline ⟨.pointer, inlineValue⟩)), .success none⟩ ::
        ⟨.get 0 .inline, .success (some (.inline ⟨.pointer, inlineValue⟩))⟩ :: later) :=
  ⟨_, rfl⟩

private theorem trials?_structured : ∃ later,
    (structured contract).trials? layout =
      some (⟨.enable 0, .success none⟩ ::
        ⟨.set 0 (.fixed (.structured ⟨1, 0x1234, structuredPayload⟩)), .success none⟩ ::
        later) := by
  cases layout <;> exact ⟨_, rfl⟩

private theorem trials?_multiPage : ∃ later,
    (multiPage contract).trials? layout =
      some (⟨.enable 0, .success none⟩ ::
        ⟨.set 0 (.fixed (.inline ⟨.pointer, 0x5eadbeef00000000⟩)), .success none⟩ ::
        ⟨.get 0 .inline, .success (some (.inline ⟨.pointer, 0x5eadbeef00000000⟩))⟩ ::
        ⟨.get 1 .inline, unsetRead contract⟩ :: later) := by
  rcases contract with ⟨_ | _, _ | _⟩ <;> exact ⟨_, rfl⟩

private theorem trials?_doubleEnable : ∃ later,
    (doubleEnable contract).trials? layout =
      some (⟨.enable 0, .success none⟩ :: ⟨.enable 0, .failure .alreadyExpanded⟩ :: later) :=
  ⟨_, rfl⟩

private theorem trials?_disableClears : ∃ later,
    (disableClears contract).trials? layout =
      some (⟨.enable 0, .success none⟩ ::
        ⟨.set 0 (.fixed (.inline ⟨.scalar, 0x42⟩)), .success none⟩ ::
        ⟨.get 0 .inline, .success (some (.inline ⟨.scalar, 0x42⟩))⟩ ::
        ⟨.disable 0, .success none⟩ :: ⟨.enable 0, .success none⟩ ::
        ⟨.get 0 .inline, unsetRead contract⟩ :: later) :=
  ⟨_, rfl⟩

private theorem trials?_getBeforeSet : ∃ later,
    (getBeforeSet contract).trials? layout =
      some (⟨.enable 0, .success none⟩ :: ⟨.get 0 .inline, unsetRead contract⟩ :: later) := by
  rcases contract with ⟨_, _ | _⟩ <;> exact ⟨_, rfl⟩

private theorem trials?_setWithoutEnable : ∃ prediction later,
    (setWithoutEnable contract).trials? layout =
      some (⟨.set 0 (.fixed (.inline ⟨.pointer, inlineValue⟩)), prediction⟩ :: later) ∧
    decide (prediction.outcome = .success) = contract.autoExpandOnSet := by
  rcases contract with ⟨_ | _, _⟩ <;> exact ⟨_, _, rfl, rfl⟩

end Catalog

namespace Simulator

variable {σ : Type}

/-- A scenario was passed on a region, from a state in which no table was expanded. -/
structure Withstood (client : Client σ) (initial : Simulator) (scenario : Scenario)
    (region : Region) (before : Simulator) : Prop where
  mapped : region.base ≠ .null
  inOneTable : region.InOneTable
  pageCount : region.pageCount = scenario.pages
  geometry : region.geometry = before.geometry
  reached : initial.Reaches before
  unexpanded : ∀ address, before.isExpanded address = false
  honoured : ∃ trials last, scenario.trials? client.layout = some trials ∧
    Honours client region before trials last

namespace Withstood

variable {client : Client σ} {initial before : Simulator} {scenario : Scenario} {region : Region}
  {contract : Contract}

theorem honours (withstood : Withstood client initial scenario region before)
    {trials : List Trial} (rehearsed : scenario.trials? client.layout = some trials) :
    ∃ last, Honours client region before trials last := by
  obtain ⟨others, last, again, honours⟩ := withstood.honoured
  obtain rfl : others = trials := Option.some.inj (again.symm.trans rehearsed)
  exact ⟨last, honours⟩

theorem addressOf_ne_null (withstood : Withstood client initial scenario region before)
    {page : Nat} (inside : page < scenario.pages) : region.addressOf page ≠ .null := by
  apply Region.ne_null_of_mem_pages withstood.mapped
  rw [← withstood.pageCount] at inside
  exact Region.mem_pages_iff.mpr ⟨page, Region.page?_eq_some_iff.mpr ⟨inside, rfl⟩⟩

theorem hasFault (withstood : Withstood client initial scenario region before)
    (fault : Faults) : before.hasFault fault = initial.hasFault fault := by
  rw [Simulator.hasFault, withstood.reached.config]
  rfl

theorem corruptPayload_eq_false
    (withstood : Withstood client initial (Catalog.basicInline contract) region before) :
    initial.hasFault .corruptPayload = false := by
  obtain ⟨_, rehearsed⟩ := Catalog.trials?_basicInline contract client.layout
  obtain ⟨last, honours⟩ := withstood.honours rehearsed
  have absent :=
    honours.enabled.corruptPayload_eq_false (withstood.addressOf_ne_null Nat.one_pos)
  rwa [hasFault_follow, withstood.hasFault] at absent

theorem permissiveEnable_eq_false
    (withstood : Withstood client initial (Catalog.doubleEnable contract) region before) :
    initial.hasFault .permissiveEnable = false := by
  obtain ⟨_, rehearsed⟩ := Catalog.trials?_doubleEnable contract client.layout
  obtain ⟨last, honours⟩ := withstood.honours rehearsed
  have absent := honours.permissiveEnable_eq_false (withstood.addressOf_ne_null Nat.one_pos)
  rwa [withstood.hasFault] at absent

theorem sharedSlot_eq_false
    (withstood : Withstood client initial (Catalog.multiPage contract) region before)
    (honest : initial.hasFault .corruptPayload = false) :
    initial.hasFault .sharedSlot = false := by
  obtain ⟨_, rehearsed⟩ := Catalog.trials?_multiPage contract client.layout
  obtain ⟨last, honours⟩ := withstood.honours rehearsed
  have inside (page : Nat) (small : page < 4) : page < region.pageCount := by
    rw [withstood.pageCount]
    exact small
  have sameTable : region.geometry.tableOf (region.addressOf 1) =
      region.geometry.tableOf (region.addressOf 0) := by
    rw [withstood.inOneTable.sameTable 1 (inside 1 (by decide)),
      withstood.inOneTable.sameTable 0 (inside 0 (by decide))]
  have absent := honours.enabled.sharedSlot_eq_false
    (withstood.addressOf_ne_null (show 1 < 4 by decide))
    (by rw [geometry_follow, ← withstood.geometry, sameTable])
    (by rw [hasFault_follow, withstood.hasFault, honest])
    (Catalog.unsetRead_ne contract (by decide))
  rwa [hasFault_follow, withstood.hasFault] at absent

theorem stickyMetadata_eq_false
    (withstood : Withstood client initial (Catalog.disableClears contract) region before)
    (honest : initial.hasFault .corruptPayload = false) :
    initial.hasFault .stickyMetadata = false := by
  obtain ⟨_, rehearsed⟩ := Catalog.trials?_disableClears contract client.layout
  obtain ⟨last, honours⟩ := withstood.honours rehearsed
  have absent := honours.enabled.stickyMetadata_eq_false
    (withstood.addressOf_ne_null Nat.one_pos)
    (by rw [hasFault_follow, withstood.hasFault, honest])
    (Catalog.unsetRead_ne contract (by decide))
  rwa [hasFault_follow, withstood.hasFault] at absent

theorem autoExpandOnSet_eq
    (withstood : Withstood client initial (Catalog.setWithoutEnable contract) region before) :
    initial.config.autoExpandOnSet = contract.autoExpandOnSet := by
  obtain ⟨prediction, _, rehearsed, predicted⟩ :=
    Catalog.trials?_setWithoutEnable contract client.layout
  obtain ⟨last, honours⟩ := withstood.honours rehearsed
  have pages : (Catalog.setWithoutEnable contract).pages = 1 := by
    rcases contract with ⟨_ | _, _⟩ <;> rfl
  have chosen := honours.autoExpandOnSet_eq
    (withstood.addressOf_ne_null (pages ▸ Nat.one_pos)) (withstood.unexpanded _)
  rwa [withstood.reached.config, predicted] at chosen

/-- No value is left from earlier scenarios if tables do not keep their values. -/
theorem unsetRead_eq
    (withstood : Withstood client initial (Catalog.getBeforeSet contract) region before)
    (tidy : initial.Tidy) (forgets : initial.hasFault .stickyMetadata = false) :
    initial.config.unsetRead = contract.unsetRead := by
  obtain ⟨_, rehearsed⟩ := Catalog.trials?_getBeforeSet contract client.layout
  obtain ⟨last, honours⟩ := withstood.honours rehearsed
  have unset := withstood.reached.tidy tidy forgets (region.addressOf 0) (withstood.unexpanded _)
  have chosen := honours.unsetRead_eq (withstood.addressOf_ne_null Nat.one_pos) unset
  rwa [withstood.reached.config] at chosen

/-- The value of the scenario has no encoding that is also one in another layout. -/
private theorem layout_eq_of_encode {layout other : HeaderLayout} {bytes : List UInt8}
    {metadata : StructuredMetadata}
    (encoded : StructuredMetadata.encode ⟨1, 0x1234, Catalog.structuredPayload⟩ layout = .ok bytes)
    (accepted : metadata.encode other = .ok bytes) : other = layout := by
  rw [← StructuredMetadata.decode_eq_ok_iff_encode] at accepted
  have distinct : ∀ layout other : HeaderLayout,
      ((StructuredMetadata.encode ⟨1, 0x1234, Catalog.structuredPayload⟩ layout).toOption.any
        fun bytes => (StructuredMetadata.decode bytes other).isOk) = true → other = layout := by
    intro layout other
    cases layout <;> cases other <;> decide
  apply distinct layout other
  rw [encoded]
  simp [Except.toOption, accepted]

theorem headerLayout_eq
    (withstood : Withstood client initial (Catalog.structured contract) region before) :
    initial.config.headerLayout = client.layout := by
  obtain ⟨_, rehearsed⟩ := Catalog.trials?_structured contract client.layout
  obtain ⟨last, honours⟩ := withstood.honours rehearsed
  obtain ⟨bytes, encoded, metadata, accepted⟩ :=
    honours.enabled.exists_encode_of_set
  rw [config_follow, withstood.reached.config] at accepted
  exact layout_eq_of_encode encoded accepted

end Withstood

/-- A scenario that was passed in the course of others was withstood. -/
private theorem exists_withstood {view : σ → Simulator} {runner : Runner σ}
    (drives : Drives view runner.client.collaborator)
    (standard : runner.client.classifier = .standard) {hosts : Nat → Host} {session : Session σ}
    (geometry : (view session.state).geometry = runner.geometry)
    (unexpanded : ∀ address, (view session.state).isExpanded address = false)
    {scenarios : List Scenario}
    (placed : ∀ scenario ∈ scenarios, scenario.oneTable = true ∨ scenario.pages = 1)
    (mapped : ∀ index scenario region, scenarios[index]? = some scenario →
      runner.acquireRegion (hosts index) scenario = .ok region → region.base ≠ .null)
    {runs : List (Run σ)} {after : Session σ}
    (ran : runner.runAll hosts session 0 scenarios = .ok (runs, after))
    (passed : ∀ run ∈ runs, run.result = .ok ()) {scenario : Scenario}
    (listed : scenario ∈ scenarios) :
    ∃ region before, Withstood runner.client (view session.state) scenario region before := by
  obtain ⟨earlier, later, earlierRuns, middle, run, made, split, first, last⟩ :=
    Runner.exists_run_of_mem ran listed
  rw [Nat.zero_add] at last
  obtain ⟨reached, untouched⟩ := drives.unexpanded_before geometry unexpanded mapped split first
  obtain ⟨region, trials, _, acquired, rehearsed, honours⟩ :=
    honours_of_passed drives standard (placed scenario listed) last (passed run made)
  have fills := Runner.fills_of_acquireRegion acquired
  have index : scenarios[earlier.length]? = some scenario := by simp [split]
  refine ⟨region, view middle.state, mapped _ scenario region index acquired,
    Runner.inOneTable_of_acquireRegion acquired (placed scenario listed), fills.pageCount, ?_,
    reached, untouched, trials, _, rehearsed, honours⟩
  rw [fills.geometry, reached.geometry, geometry]

/-- The simulator conforms that withstood every scenario of the catalog. -/
private theorem conforms_of_withstood {client : Client σ} {initial : Simulator} {suite : Suite}
    (tidy : initial.Tidy)
    (withstood : ∀ scenario ∈ Catalog.all suite, ∃ region before,
      Withstood client initial scenario region before) :
    initial.config.faults.truncated = .none ∧ initial.config.contract = suite.contract ∧
      initial.config.headerLayout = client.layout := by
  obtain ⟨_, _, basicInline⟩ :=
    withstood (Catalog.basicInline suite.contract) (by simp [Catalog.all])
  obtain ⟨_, _, structured⟩ :=
    withstood (Catalog.structured suite.contract) (by simp [Catalog.all])
  obtain ⟨_, _, multiPage⟩ :=
    withstood (Catalog.multiPage suite.contract) (by simp [Catalog.all])
  obtain ⟨_, _, doubleEnable⟩ :=
    withstood (Catalog.doubleEnable suite.contract) (by simp [Catalog.all])
  obtain ⟨_, _, disableClears⟩ :=
    withstood (Catalog.disableClears suite.contract) (by simp [Catalog.all])
  obtain ⟨_, _, getBeforeSet⟩ :=
    withstood (Catalog.getBeforeSet suite.contract) (by simp [Catalog.all])
  obtain ⟨_, _, setWithoutEnable⟩ :=
    withstood (Catalog.setWithoutEnable suite.contract) (by simp [Catalog.all])
  -- Corruption could hide a value that should not be there, and a value that outlives its table
  -- could hide what an unset page gives, so these two come first.
  have honest := basicInline.corruptPayload_eq_false
  have forgets := disableClears.stickyMetadata_eq_false honest
  refine ⟨Faults.truncated_eq_none_iff.mpr ?_, ?_, structured.headerLayout_eq⟩
  · intro fault named
    simp only [Faults.named, List.map_cons, List.map_nil, List.mem_cons, List.not_mem_nil,
      or_false] at named
    rcases named with rfl | rfl | rfl | rfl
    · exact honest
    · exact multiPage.sharedSlot_eq_false honest
    · exact forgets
    · exact doubleEnable.permissiveEnable_eq_false
  · rw [SimulatorConfig.contract, setWithoutEnable.autoExpandOnSet_eq,
      getBeforeSet.unsetRead_eq tidy forgets]

/-- A simulator that passes the whole catalog, at whatever times, has none of the named faults, so
no fault at all if its faults are made of these, and its contract and its layout are those of the
suite. -/
theorem conforms_of_catalog_passed {view : σ → Simulator} {collaborator : Collaborator σ}
    (drives : Drives view collaborator) {suite : Suite} (standard : suite.classifier = .standard)
    {runner : Runner σ} (made : Runner.ofSuite suite collaborator = .ok runner)
    {config : SimulatorConfig} {initial : Simulator} (started : ofConfig? config = some initial)
    (pageSize : suite.pageSize.getD PageGeometry.hostPageSize = config.pageSize)
    {hosts : Nat → Host}
    (mapped : ∀ index scenario region, (Catalog.all suite)[index]? = some scenario →
      runner.acquireRegion (hosts index) scenario = .ok region → region.base ≠ .null)
    {session : Session σ} (fresh : view session.state = initial) {runs : List (Run σ)}
    {after : Session σ}
    (ran : runner.runAll hosts session 0 (Catalog.all suite) = .ok (runs, after))
    (passed : ∀ run ∈ runs, run.result = .ok ()) :
    config.faults.truncated = .none ∧
      (config.faults.truncated = config.faults → config.faults = .none) ∧
      config.contract = suite.contract ∧ config.headerLayout = suite.headerLayout := by
  subst fresh
  obtain ⟨found, client⟩ := Runner.of_ofSuite made
  have geometry := (geometry_of_ofConfig? started found pageSize).symm
  have tidy : (view session.state).Tidy := fun address _ => stored?_of_ofConfig? started address
  have drives : Drives view runner.client.collaborator := by
    rw [client]
    exact drives
  have standard : runner.client.classifier = .standard := by
    rw [client]
    exact standard
  have withstood : ∀ scenario ∈ Catalog.all suite, ∃ region before,
      Withstood runner.client (view session.state) scenario region before :=
    fun _ => exists_withstood drives standard geometry (isExpanded_of_ofConfig? started)
      (fun _ listed => (Catalog.contract_of_mem_all listed).2) mapped ran passed
  obtain ⟨faultless, contract, layout⟩ := conforms_of_withstood tidy withstood
  rw [config_of_ofConfig? started] at faultless contract layout
  rw [client] at layout
  exact ⟨faultless, fun known => known.symm.trans faultless, contract, layout⟩

/-- The default settings, in which a table maps four pages of 32 bytes. -/
theorem conforms_of_catalog_passed_once :
    let suite : Suite := { Suite.standard with pageSize := some 32, stressIterations := 1 }
    let config : SimulatorConfig := { SimulatorConfig.standard with pageSize := 32 }
    let geometry : PageGeometry := ⟨5, by decide, by decide⟩
    let runner : Runner Simulator := ⟨⟨collaborator, .standard, .compact⟩, geometry, .lowByte, true⟩
    let hosts : Nat → Host := fun _ => .placing ⟨0x1000⟩
    let session : Session Simulator := .start ⟨config, geometry, .empty⟩ .empty
    Runner.ofSuite suite collaborator = .ok runner ∧
      (∃ runs after,
        runner.runAll hosts session 0 (Catalog.all suite) = .ok (runs, after) ∧
        ∀ run ∈ runs, run.result = .ok ()) ∧
      config.faults.truncated = .none ∧
      (config.faults.truncated = config.faults → config.faults = .none) ∧
      config.contract = suite.contract ∧ config.headerLayout = suite.headerLayout := by
  intro suite config geometry runner hosts session
  have made : Runner.ofSuite suite collaborator = .ok runner := by
    dsimp +zetaDelta only
    rfl
  have started : ofConfig? config = some ⟨config, geometry, .empty⟩ := by
    dsimp +zetaDelta only
    rfl
  have everywhere : ∀ scenario ∈ Catalog.all suite,
      (runner.acquireRegion (hosts 0) scenario).toOption.all (·.base ≠ .null) = true := by
    dsimp +zetaDelta only
    decide +kernel
  have mapped : ∀ index scenario region, (Catalog.all suite)[index]? = some scenario →
      runner.acquireRegion (hosts index) scenario = .ok region → region.base ≠ .null := by
    intro index scenario region listed acquired
    have nonnull := everywhere scenario (List.mem_of_getElem? listed)
    change runner.acquireRegion (hosts 0) scenario = .ok region at acquired
    rw [acquired] at nonnull
    exact of_decide_eq_true nonnull
  have evaluated : (runner.runAll hosts session 0 (Catalog.all suite)).toOption.any
      (fun result => decide (∀ run ∈ result.1, run.result = .ok ())) = true := by
    dsimp +zetaDelta only
    decide +kernel
  obtain ⟨⟨runs, after⟩, ran, shown⟩ := any_toOption_iff.mp evaluated
  have passed := of_decide_eq_true shown
  exact ⟨made, ⟨runs, after, ran, passed⟩, conforms_of_catalog_passed drives_collaborator rfl made
    started rfl mapped rfl ran passed⟩

end Simulator

end PageMetadata
