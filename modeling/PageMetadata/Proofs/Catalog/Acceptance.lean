import PageMetadata.Proofs.Catalog.Rehearsal
import PageMetadata.Proofs.Runner.Sequence
import PageMetadata.Proofs.Simulator.Conformance

/-! # What the catalog accepts

A simulator without faults passes every scenario of the catalog of its own contract, whatever the
earlier scenarios did to it, as soon as its times show the cost of an expansion where that is
asserted and the host takes every region back. The exception is the stress of lifecycles without any
iteration: it makes no call, so the times that it asserts do not exist.
-/

namespace PageMetadata

/-- A runner of a suite has the settings of the suite. -/
theorem Runner.of_ofSuite {σ : Type} {suite : Suite} {collaborator : Collaborator σ}
    {runner : Runner σ} (made : ofSuite suite collaborator = .ok runner) :
    suite.geometry = .ok runner.geometry ∧
      runner.client = ⟨collaborator, suite.classifier, suite.headerLayout⟩ := by
  obtain ⟨geometry, found, same⟩ := bind_eq_ok_iff.mp made
  cases same
  exact ⟨found, rfl⟩

namespace Simulator

/-- With the same page size there is the same geometry. -/
theorem geometry_of_ofConfig? {config : SimulatorConfig} {initial : Simulator}
    (started : ofConfig? config = some initial) {suite : Suite} {geometry : PageGeometry}
    (found : suite.geometry = .ok geometry)
    (pageSize : suite.pageSize.getD PageGeometry.hostPageSize = config.pageSize) :
    geometry = initial.geometry := by
  obtain ⟨own, known, same⟩ := Option.bind_eq_some_iff.mp started
  cases same
  simp only [Suite.geometry, pageSize, known] at found
  cases found
  rfl

/-- The stress of lifecycles passes exactly if it has an iteration, and every scenario only if its
region is released. -/
private theorem passes_iff_of_mem_all {σ : Type} {view : σ → Simulator} {runner : Runner σ}
    {suite : Suite} {config : SimulatorConfig} {host : Host} {session : Session σ}
    {scenario : Scenario} (listed : scenario ∈ Catalog.all suite) {region : Region}
    (prepared : Prepared view runner config host session scenario region) {run : Run σ}
    (ran : runner.run host session scenario = .ok run) (shows : scenario.CostShows run.stats) :
    run.result = .ok () ↔ (scenario.name = "lifecycle-stress" → suite.stressIterations ≠ 0) ∧
      runner.release host = .ok () := by
  by_cases repeated : scenario.name = "lifecycle-stress" → suite.stressIterations ≠ 0
  · obtain ⟨trials, rehearsed, served⟩ :=
      Catalog.rehearsed_of_mem_all listed repeated runner.client.layout
    rw [prepared.passes_iff rehearsed served ran shows, and_iff_right repeated]
  · apply iff_of_false _ fun ⟨repeats, _⟩ => repeated repeats
    obtain ⟨named, none⟩ := Classical.not_imp.mp repeated
    rw [not_not] at none
    obtain rfl := Catalog.eq_lifecycleStress_of_mem_all listed named
    have rehearsed := Catalog.trials?_lifecycleStress suite.contract suite.stressIterations
      runner.client.layout
    rw [none] at rehearsed prepared ran
    have asserted : .statsAvailable .enable ∈
        (Catalog.lifecycleStress suite.contract 0).assertions := List.mem_cons_self ..
    exact prepared.fails rehearsed asserted List.not_mem_nil ran

/-- A run of the catalog without a verdict has samples that are too long. -/
private theorem overflows_of_mem_all {σ : Type} {view : σ → Simulator} {runner : Runner σ}
    {suite : Suite} {config : SimulatorConfig} {host : Host} {session : Session σ}
    {scenario : Scenario} (listed : scenario ∈ Catalog.all suite) {region : Region}
    (prepared : Prepared view runner config host session scenario region)
    {error : ArithmeticError} (failed : runner.run host session scenario = .error error) :
    error = .durationSum ∧ ∃ execution assertion,
      runner.operate host session scenario region = .ok execution ∧
      assertion ∈ scenario.assertions ∧
      execution.session.stats.Overflows assertion.operation := by
  by_cases named : scenario.name = "lifecycle-stress"
  · obtain rfl := Catalog.eq_lifecycleStress_of_mem_all listed named
    have rehearsed := Catalog.trials?_lifecycleStress suite.contract suite.stressIterations
      runner.client.layout
    apply prepared.overflows rehearsed _ failed
    intro operation timed
    change _ ∈ [Assertion.statsAvailable .enable, .statsAvailable (.set .inline),
      .statsAvailable (.get .inline), .statsAvailable .disable] at timed
    simp at timed
  · obtain ⟨trials, rehearsed, served⟩ :=
      Catalog.rehearsed_of_mem_all listed (absurd · named) runner.client.layout
    apply prepared.overflows rehearsed _ failed
    intro operation timed
    exact (served _ timed).2

/-- Behind any earlier scenarios, a scenario of the catalog finds its region, and a simulator on
which no table is expanded. -/
private theorem exists_prepared {σ : Type} {view : σ → Simulator} {runner : Runner σ}
    (drives : Drives view runner.client.collaborator)
    (standard : runner.client.classifier = .standard) {suite : Suite} {config : SimulatorConfig}
    {initial : Simulator} (started : ofConfig? config = some initial)
    (sameGeometry : runner.geometry = initial.geometry) (faultless : config.faults = .none)
    (layout : runner.client.layout = config.headerLayout)
    (contract : suite.contract = config.contract) {hosts : Nat → Host}
    (placed : ∀ index scenario, (Catalog.all suite)[index]? = some scenario → ∃ region,
      runner.acquireRegion (hosts index) scenario = .ok region ∧ region.base ≠ .null)
    {session : Session σ} (fresh : view session.state = initial)
    {earlier later : List Scenario} {scenario : Scenario} {runs : List (Run σ)}
    {before : Session σ} (split : Catalog.all suite = earlier ++ scenario :: later)
    (ran : runner.runAll hosts session 0 earlier = .ok (runs, before)) :
    scenario ∈ Catalog.all suite ∧ ∃ region,
      Prepared view runner config (hosts earlier.length) before scenario region := by
  have geometry : (view session.state).geometry = runner.geometry := by
    rw [fresh, sameGeometry]
  have mapped : ∀ index scenario region, (Catalog.all suite)[index]? = some scenario →
      runner.acquireRegion (hosts index) scenario = .ok region → region.base ≠ .null := by
    intro index scenario region listed acquired
    obtain ⟨other, again, nonnull⟩ := placed index scenario listed
    obtain rfl : other = region := Except.ok.inj (again.symm.trans acquired)
    exact nonnull
  have listed : scenario ∈ Catalog.all suite := by simp [split]
  have index : (Catalog.all suite)[earlier.length]? = some scenario := by simp [split]
  obtain ⟨region, acquired, nonnull⟩ := placed earlier.length scenario index
  obtain ⟨assumed, one⟩ := Catalog.contract_of_mem_all listed
  obtain ⟨reached, unexpanded⟩ := drives.unexpanded_before geometry
    (fun address => fresh ▸ isExpanded_of_ofConfig? started address) mapped split ran
  exact ⟨listed, region, drives, standard, faultless, layout, assumed.trans contract, acquired,
    nonnull, one, ⟨initial, started, sameGeometry, fresh ▸ reached⟩, unexpanded⟩

/-- All scenarios of the catalog pass against a simulator that keeps the suite's contract, if the
stress of lifecycles has an iteration, the costs show and the host takes the regions back. Without
an iteration it alone fails. Only samples too long to be summed can leave a run without a
verdict. -/
theorem catalog_passes_iff {σ : Type} {view : σ → Simulator} {collaborator : Collaborator σ}
    (drives : Drives view collaborator) {suite : Suite} (standard : suite.classifier = .standard)
    {runner : Runner σ} (made : Runner.ofSuite suite collaborator = .ok runner)
    {config : SimulatorConfig} {initial : Simulator} (started : ofConfig? config = some initial)
    (faultless : config.faults = .none)
    (pageSize : suite.pageSize.getD PageGeometry.hostPageSize = config.pageSize)
    (layout : suite.headerLayout = config.headerLayout)
    (contract : suite.contract = config.contract) {hosts : Nat → Host}
    (placed : ∀ index scenario, (Catalog.all suite)[index]? = some scenario → ∃ region,
      runner.acquireRegion (hosts index) scenario = .ok region ∧ region.base ≠ .null)
    {session : Session σ} (fresh : view session.state = initial) :
    (∀ runs after, runner.runAll hosts session 0 (Catalog.all suite) = .ok (runs, after) →
      List.Forall₂
        (fun (scenario, index) run => scenario.CostShows run.stats →
          (run.result = .ok () ↔
            (scenario.name = "lifecycle-stress" → suite.stressIterations ≠ 0) ∧
              runner.release (hosts index) = .ok ()))
        (Catalog.all suite).zipIdx runs) ∧
    (∀ error, runner.runAll hosts session 0 (Catalog.all suite) = .error error →
      error = .durationSum ∧
        ∃ earlier scenario later runs before region execution assertion,
          Catalog.all suite = earlier ++ scenario :: later ∧
          runner.runAll hosts session 0 earlier = .ok (runs, before) ∧
          runner.acquireRegion (hosts earlier.length) scenario = .ok region ∧
          runner.operate (hosts earlier.length) before scenario region = .ok execution ∧
          assertion ∈ scenario.assertions ∧
          execution.session.stats.Overflows assertion.operation) := by
  obtain ⟨found, client⟩ := Runner.of_ofSuite made
  have sameGeometry := geometry_of_ofConfig? started found pageSize
  have drives : Drives view runner.client.collaborator := by
    rw [client]
    exact drives
  have standard : runner.client.classifier = .standard := by
    rw [client]
    exact standard
  have layout : runner.client.layout = config.headerLayout := by
    rw [client]
    exact layout
  constructor
  · intro runs after ran
    apply Runner.forall₂_of_runAll _ ran
    intro earlier scenario later earlierRuns before run split ran last shows
    obtain ⟨listed, region, prepared⟩ := exists_prepared drives standard started sameGeometry
      faultless layout contract placed fresh split ran
    rw [Nat.zero_add] at last ⊢
    exact passes_iff_of_mem_all listed prepared last shows
  · intro error failed
    obtain ⟨earlier, scenario, later, runs, before, split, ran, last⟩ :=
      Runner.exists_of_runAll_eq_error failed
    obtain ⟨listed, region, prepared⟩ := exists_prepared drives standard started sameGeometry
      faultless layout contract placed fresh split ran
    rw [Nat.zero_add] at last
    obtain ⟨sum, execution, assertion, operated, asserted, long⟩ :=
      overflows_of_mem_all listed prepared last
    exact ⟨sum, earlier, scenario, later, runs, before, region, execution, assertion, split, ran,
      prepared.acquired, operated, asserted, long⟩

/-- One iteration is enough. -/
theorem catalog_passes_iff_once :
    let suite : Suite := { Suite.standard with pageSize := some 32, stressIterations := 1 }
    let config : SimulatorConfig := { SimulatorConfig.standard with pageSize := 32 }
    let geometry : PageGeometry := ⟨5, by decide, by decide⟩
    let runner : Runner Simulator := ⟨⟨collaborator, .standard, .compact⟩, geometry, .lowByte, true⟩
    let hosts : Nat → Host := fun _ => .placing ⟨0x1000⟩
    let session : Session Simulator := .start ⟨config, geometry, .empty⟩ .empty
    Runner.ofSuite suite collaborator = .ok runner ∧
      ∃ runs after,
        runner.runAll hosts session 0 (Catalog.all suite) = .ok (runs, after) ∧
        List.Forall₂
          (fun (scenario, index) run => scenario.CostShows run.stats →
            (run.result = .ok () ↔ (scenario.name = "lifecycle-stress" → (1 : UInt32) ≠ 0) ∧
              runner.release (hosts index) = .ok ()))
          (Catalog.all suite).zipIdx runs := by
  intro suite config geometry runner hosts session
  have made : Runner.ofSuite suite collaborator = .ok runner := by
    dsimp +zetaDelta only
    rfl
  have started : ofConfig? config = some ⟨config, geometry, .empty⟩ := by
    dsimp +zetaDelta only
    rfl
  have everywhere : ∀ scenario ∈ Catalog.all suite,
      (runner.acquireRegion (hosts 0) scenario).toOption.any (·.base ≠ .null) = true := by
    dsimp +zetaDelta only
    decide +kernel
  have placed : ∀ index scenario, (Catalog.all suite)[index]? = some scenario → ∃ region,
      runner.acquireRegion (hosts index) scenario = .ok region ∧ region.base ≠ .null := by
    intro index scenario listed
    obtain ⟨region, acquired, nonnull⟩ :=
      any_toOption_iff.mp (everywhere scenario (List.mem_of_getElem? listed))
    exact ⟨region, acquired, of_decide_eq_true nonnull⟩
  have ends : (runner.runAll hosts session 0 (Catalog.all suite)).toOption.any
      (fun _ => true) = true := by
    dsimp +zetaDelta only
    decide +kernel
  obtain ⟨⟨runs, after⟩, ran, _⟩ := any_toOption_iff.mp ends
  exact ⟨made, runs, after, ran, (catalog_passes_iff drives_collaborator rfl made started rfl rfl
    rfl rfl placed rfl).1 runs after ran⟩

/-- Without an iteration a scenario fails although all costs show. -/
theorem catalog_fails_without_iterations :
    let suite : Suite := { Suite.standard with pageSize := some 32, stressIterations := 0 }
    let config : SimulatorConfig := { SimulatorConfig.standard with pageSize := 32 }
    let geometry : PageGeometry := ⟨5, by decide, by decide⟩
    let runner : Runner Simulator := ⟨⟨collaborator, .standard, .compact⟩, geometry, .lowByte, true⟩
    let hosts : Nat → Host := fun _ => .placing ⟨0x1000⟩
    let session : Session Simulator := .start ⟨config, geometry, .empty⟩ .empty
    Runner.ofSuite suite collaborator = .ok runner ∧
      ofConfig? config = some ⟨config, geometry, .empty⟩ ∧
      ∃ runs after,
        runner.runAll hosts session 0 (Catalog.all suite) = .ok (runs, after) ∧
        List.Forall₂ (fun scenario run => scenario.CostShows run.stats) (Catalog.all suite) runs ∧
        ∃ run ∈ runs, run.result ≠ .ok () := by
  intro suite config geometry runner hosts session
  have evaluated : (runner.runAll hosts session 0 (Catalog.all suite)).toOption.any
      (fun result =>
        decide (List.Forall₂ (fun scenario run => scenario.CostShows run.stats)
          (Catalog.all suite) result.1 ∧ ∃ run ∈ result.1, run.result ≠ .ok ())) = true := by
    dsimp +zetaDelta only
    decide +kernel
  obtain ⟨⟨runs, after⟩, ran, shown⟩ := any_toOption_iff.mp evaluated
  obtain ⟨costs, failed⟩ := of_decide_eq_true shown
  refine ⟨?_, ?_, runs, after, ran, costs, failed⟩
  · dsimp +zetaDelta only
    rfl
  · dsimp +zetaDelta only
    rfl

end Simulator

end PageMetadata
