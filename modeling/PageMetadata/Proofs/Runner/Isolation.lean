import PageMetadata.Proofs.Runner.Teardown
import PageMetadata.Proofs.Simulator.Alike

/-! # Runs do not affect each other

Whatever a run does to a simulator, and however it ends, no table is expanded afterwards. Unless
tables keep their values when they are torn down, the simulator is then like a new one, so the next
scenario goes as if it were the first.
-/

namespace PageMetadata.Simulator

section Run

variable {σ : Type} {view : σ → Simulator} {runner : Runner σ}
  (drives : Drives view runner.client.collaborator)

include drives

theorem Drives.reaches_disableAll {initial : Simulator} {session : Session σ}
    (reached : initial.Reaches (view session.state)) (targets : List Address) :
    initial.Reaches (view (Runner.disableAll runner.client session targets).state) := by
  induction targets generalizing session with
  | nil => exact reached
  | cons target targets ih =>
    have next :
        initial.Reaches (view (runner.client.exchange session (.disable target)).2.state) := by
      rw [drives.state_exchange]
      exact reached.respond _
    exact ih next

theorem Drives.reaches_touch {initial : Simulator} {execution next : Execution σ}
    (touches : runner.Touches execution next)
    (reached : initial.Reaches (view execution.session.state)) :
    initial.Reaches (view next.session.state) := by
  rcases touches.session with same | ⟨request, _, same⟩
  · rw [same]
    exact reached
  · rw [same, drives.state_exchange]
    exact reached.respond request

/-- All that a run does to a simulator is to make requests. -/
theorem Drives.reaches_run {host : Host} {session : Session σ} {scenario : Scenario}
    {run : Run σ} (ran : runner.run host session scenario = .ok run) :
    (view session.state).Reaches (view run.session.state) := by
  rcases (Runner.ended_of_run ran).finished with same | ⟨region, result, _, finished, _⟩
  · rw [same]
    exact .refl
  · have operated : (view session.state).Reaches (view (Progress.reached
        (runner.operate host session scenario region)).session.state) :=
      Runner.of_reached_performAll
        (fun execution => (view session.state).Reaches (view execution.session.state))
        (fun _ _ touches reached => drives.reaches_touch touches reached) _ .refl
    rw [finished]
    apply drives.reaches_disableAll
    exact operated

/-- However a run ends, it leaves no table expanded if it found none. -/
theorem Drives.unexpanded_of_run {host : Host} {session : Session σ} {scenario : Scenario}
    {run : Run σ} (geometry : (view session.state).geometry = runner.geometry)
    (unexpanded : ∀ address, (view session.state).isExpanded address = false)
    (mapped : ∀ region, runner.acquireRegion host scenario = .ok region → region.base ≠ .null)
    (ran : runner.run host session scenario = .ok run) (address : Address) :
    (view run.session.state).isExpanded address = false := by
  rcases (Runner.ended_of_run ran).finished with same |
    ⟨region, result, acquired, finished, complete⟩
  · rw [same]
    exact unexpanded address
  · have sameGeometry := Runner.geometry_of_acquireRegion acquired
    have contained : Contained view region
        (Progress.reached (runner.operate host session scenario region)) := by
      apply Runner.of_reached_performAll (Contained view region)
        (fun _ _ touches contained => contained.touch drives touches)
      refine ⟨rfl, ?_, sameGeometry.symm, Model.anchored_empty _ _ _, ?_⟩
      · rw [sameGeometry]
        exact geometry
      · intro other expanded
        have contrary := (unexpanded other).symm.trans expanded
        contradiction
    rw [finished]
    apply contained.unexpanded_finish drives (mapped region acquired)
    intro passed
    obtain ⟨execution, operated⟩ := complete passed
    rw [operated]
    apply Runner.of_performAll (InStep view)
      (fun _ _ advances _ inStep => inStep.advance drives advances) operated
    refine ⟨geometry, ?_⟩
    intro other
    exact (isExpanded_eq_false_iff _ _).mp (unexpanded other)

/-- The same after any number of runs. -/
theorem Drives.unexpanded_of_runAll {hosts : Nat → Host} {number : Nat} {scenarios : List Scenario}
    {session after : Session σ} {runs : List (Run σ)}
    (geometry : (view session.state).geometry = runner.geometry)
    (unexpanded : ∀ address, (view session.state).isExpanded address = false)
    (mapped : ∀ index scenario region, scenarios[index]? = some scenario →
      runner.acquireRegion (hosts (number + index)) scenario = .ok region → region.base ≠ .null)
    (ran : runner.runAll hosts session number scenarios = .ok (runs, after)) :
    (view session.state).Reaches (view after.state) ∧
      ∀ address, (view after.state).isExpanded address = false := by
  induction scenarios generalizing session number runs with
  | nil =>
    cases ran
    exact ⟨.refl, unexpanded⟩
  | cons scenario scenarios ih =>
    obtain ⟨first, ranFirst, ran⟩ := bind_eq_ok_iff.mp ran
    obtain ⟨⟨rest, last⟩, ranRest, same⟩ := bind_eq_ok_iff.mp ran
    cases same
    have reached := drives.reaches_run ranFirst
    have swept := drives.unexpanded_of_run geometry unexpanded
      (fun region => mapped 0 scenario region rfl) ranFirst
    have mappedRest : ∀ index later region, scenarios[index]? = some later →
        runner.acquireRegion (hosts (number + 1 + index)) later = .ok region →
          region.base ≠ .null := by
      intro index later region listed acquired
      apply mapped (index + 1) later region listed
      rw [← acquired]
      congr 2
      omega
    obtain ⟨later, clean⟩ := ih (reached.geometry.trans geometry) swept mappedRest ranRest
    exact ⟨reached.trans later, clean⟩

end Run

/-- After any scenarios on a new simulator, however they ended, no table is expanded. Unless tables
keep their values, no page has a value either, and the next scenario shows what it shows alone. -/
theorem runs_isolated {τ : Type} {clock : τ → Exchange → Duration × τ}
    {runner : Runner (Simulator × τ)} (simulated : runner.client.collaborator = timed clock)
    {config : SimulatorConfig} {initial : Simulator} (started : ofConfig? config = some initial)
    (geometry : initial.geometry = runner.geometry) {hosts : Nat → Host}
    {earlier : List Scenario}
    (mapped : ∀ number scenario region, earlier[number]? = some scenario →
      runner.acquireRegion (hosts number) scenario = .ok region → region.base ≠ .null)
    {time : τ} {runs : List (Run (Simulator × τ))} {before : Session (Simulator × τ)}
    (ran : runner.runAll hosts (.start (initial, time) .empty) 0 earlier = .ok (runs, before)) :
    (∀ address, before.state.1.isExpanded address = false) ∧
    (config.faults.contains .stickyMetadata = false →
      (∀ address, before.state.1.stored? address = none) ∧
      ∀ scenario,
        (runner.runAll hosts (.start (initial, time) .empty) 0 (earlier ++ [scenario])).map
            (fun result => result.1.map Run.erase) =
          (runner.run (hosts earlier.length) (.start (initial, before.state.2) .empty)
            scenario).map fun alone => runs.map Run.erase ++ [alone.erase]) := by
  have drives : Drives Prod.fst runner.client.collaborator := by
    rw [simulated]
    exact drives_timed clock
  obtain ⟨reached, unexpanded⟩ := drives.unexpanded_of_runAll geometry
    (isExpanded_of_ofConfig? started) (by simpa only [Nat.zero_add] using mapped) ran
  refine ⟨unexpanded, ?_⟩
  intro forgets
  have unset : ∀ address, before.state.1.stored? address = none := by
    intro address
    refine reached.tidy (fun other _ => stored?_of_ofConfig? started other) ?_ address
      (unexpanded address)
    rw [hasFault]
    exact config_of_ofConfig? started ▸ forgets
  refine ⟨unset, ?_⟩
  intro scenario
  have alike : Alike before.state.1 initial := by
    refine ⟨reached.config, reached.geometry, ?_, ?_⟩
    · intro address
      rw [unexpanded, isExpanded_of_ofConfig? started]
    · intro address
      rw [unset, stored?_of_ofConfig? started]
  have respects : runner.client.collaborator.Respects (alikeAtTime τ) := by
    rw [simulated]
    exact respects_timed clock
  have shown : (runner.run (hosts earlier.length) before scenario).map Run.erase =
      (runner.run (hosts earlier.length) (.start (initial, before.state.2) .empty) scenario).map
        Run.erase := by
    apply Runner.run_erase_eq respects
    exact ⟨alike, rfl⟩
  rw [Runner.runAll_append_singleton, ran]
  dsimp only
  rw [Nat.zero_add]
  have append (result : Except ArithmeticError (Run (Simulator × τ))) :
      result.map (fun run => runs.map Run.erase ++ [run.erase]) =
        (result.map Run.erase).map fun erased => runs.map Run.erase ++ [erased] := by
    cases result <;> rfl
  rw [append, ← shown]
  cases runner.run (hosts earlier.length) before scenario with
  | error error => rfl
  | ok run =>
    simp only [Except.map, List.map_append]
    rfl

/-- A table is enabled twice, which fails because the simulator allows it; nothing is left of it. -/
theorem failed_run_isolated :
    let config : SimulatorConfig :=
      { SimulatorConfig.standard with pageSize := 8, faults := .permissiveEnable }
    let geometry : PageGeometry := ⟨3, by decide, by decide⟩
    let clock : Nat → Exchange → Duration × Nat := fun count exchange =>
      (exchange.reply.elapsed, count + 1)
    let runner : Runner (Simulator × Nat) :=
      ⟨⟨timed clock, .standard, config.headerLayout⟩, geometry, .lowByte, true⟩
    let hosts : Nat → Host := fun _ => .placing ⟨0x1000⟩
    let initial : Simulator := ⟨config, geometry, .empty⟩
    let failing := (Scenario.new "enable twice" .standard).withSteps
      [.predicted (.set 0 (.fixed (.inline ⟨.scalar, 7⟩))), .predicted (.enable 0)]
    ∃ runs before,
      runner.runAll hosts (.start (initial, 0) .empty) 0 [failing] = .ok (runs, before) ∧
      runs.map (fun run => run.result.isOk) = [false] ∧
      (∀ address, before.state.1.isExpanded address = false) ∧
      (config.faults.contains .stickyMetadata = false →
        (∀ address, before.state.1.stored? address = none) ∧
        ∀ scenario,
          (runner.runAll hosts (.start (initial, 0) .empty) 0 ([failing] ++ [scenario])).map
              (fun result => result.1.map Run.erase) =
            (runner.run (hosts 1) (.start (initial, before.state.2) .empty) scenario).map
              fun alone => runs.map Run.erase ++ [alone.erase]) := by
  intro config geometry clock runner hosts initial failing
  have started : ofConfig? config = some initial := by
    dsimp +zetaDelta only
    rfl
  have mapped : ∀ number scenario region, [failing][number]? = some scenario →
      runner.acquireRegion (hosts number) scenario = .ok region → region.base ≠ .null := by
    intro number scenario region listed acquired
    have only : failing = scenario := by
      have member := List.mem_of_getElem? listed
      exact (List.mem_singleton.mp member).symm
    subst only
    have placed : runner.acquireRegion (hosts number) failing =
        .ok ⟨geometry, ⟨0x1000⟩, 1, by decide, by decide, by decide, by decide⟩ := by
      dsimp +zetaDelta only
      rfl
    cases acquired.symm.trans placed
    decide
  obtain ⟨runs, before, ran, failed⟩ : ∃ runs before,
      runner.runAll hosts (.start (initial, 0) .empty) 0 [failing] = .ok (runs, before) ∧
      runs.map (fun run => run.result.isOk) = [false] := by
    dsimp +zetaDelta only
    exact ⟨_, _, rfl, rfl⟩
  have simulated : runner.client.collaborator = timed clock := rfl
  exact ⟨runs, before, ran, failed, runs_isolated simulated started rfl mapped ran⟩

end PageMetadata.Simulator
