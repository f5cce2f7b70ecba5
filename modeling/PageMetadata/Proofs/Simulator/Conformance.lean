import PageMetadata.Proofs.Runner.TableView
import PageMetadata.Proofs.Runner.Timing

/-! # Scenarios that a faultless simulator passes

A scenario that is rehearsed to its end without addresses is performed to its end on every region in
one table. Its run then has the verdict of its assertions, if the host takes the region back, and
each operation has as many times as the rehearsal has calls of it.
-/

namespace PageMetadata.Simulator

/-- A scenario is about to be run on a region in one table, by a runner with the settings of a
simulator that has no faults and on which no table is expanded. -/
structure Prepared {σ : Type} (view : σ → Simulator) (runner : Runner σ)
    (config : SimulatorConfig) (host : Host) (session : Session σ) (scenario : Scenario)
    (region : Region) : Prop where
  drives : Drives view runner.client.collaborator
  standard : runner.client.classifier = .standard
  faultless : config.faults = .none
  layout : runner.client.layout = config.headerLayout
  contract : scenario.contract = config.contract
  acquired : runner.acquireRegion host scenario = .ok region
  mapped : region.base ≠ .null
  placed : scenario.oneTable = true ∨ scenario.pages = 1
  reached : ∃ initial, ofConfig? config = some initial ∧ runner.geometry = initial.geometry ∧
    initial.Reaches (view session.state)
  unexpanded : ∀ address, (view session.state).isExpanded address = false

namespace Prepared

variable {σ : Type} {view : σ → Simulator} {runner : Runner σ} {config : SimulatorConfig}
  {host : Host} {session : Session σ} {scenario : Scenario} {region : Region}
  (prepared : Prepared view runner config host session scenario region)
  {trials : List Trial} (rehearsed : scenario.trials? runner.client.layout = some trials)

include prepared rehearsed

/-- What is rehearsed is performed. -/
theorem exists_execution : ∃ execution,
    runner.operate host session scenario region = .ok execution ∧
      runner.Intact execution.session.memory ∧
      ∀ operation : Operation, (execution.session.stats.samples operation.name).length =
        (trials.map Trial.operation).count operation := by
  have acquired := prepared.acquired
  have inOneTable := Runner.inOneTable_of_acquireRegion acquired prepared.placed
  have sized := (Runner.fills_of_acquireRegion acquired).pageCount
  obtain ⟨rehearsal, played, operations⟩ :=
    scenario.exists_rehearsal_of_trials? inOneTable sized rehearsed
  obtain ⟨initial, started, geometry, reached⟩ := prepared.reached
  have start : Rehearses view runner region (runner.setup host scenario region session.clearStats)
      ⟨.empty region.geometry scenario.contract, []⟩ :=
    rehearses_setup started prepared.faultless prepared.layout geometry prepared.contract acquired
      reached fun page _ => prepared.unexpanded page
  obtain ⟨execution, performed⟩ :=
    start.exists_performAll prepared.drives prepared.standard prepared.mapped played
  obtain ⟨other, again, rehearses⟩ :=
    start.exists_performAll? prepared.drives prepared.standard prepared.mapped performed
  obtain rfl : other = rehearsal := Option.some.inj (again.symm.trans played)
  refine ⟨execution, performed, rehearses.intact, ?_⟩
  intro operation
  rw [← operations]
  exact rehearses.counted operation

/-- The run passes if its assertions hold and the region is released. -/
theorem run_eq : ∃ execution,
    runner.operate host session scenario region = .ok execution ∧
      (∀ operation : Operation, (execution.session.stats.samples operation.name).length =
        (trials.map Trial.operation).count operation) ∧
      runner.run host session scenario =
        (Runner.checkAssertions execution.session.stats scenario.assertions).map
          (runner.finish host execution) ∧
      ∀ result, ((runner.finish host execution result).result = .ok () ↔
          result = .ok () ∧ runner.release host = .ok ()) ∧
        (runner.finish host execution result).stats = execution.session.stats := by
  obtain ⟨execution, performed, intact, counted⟩ := prepared.exists_execution rehearsed
  refine ⟨execution, performed, counted, ?_, ?_⟩
  · rw [Runner.run_of_acquired session prepared.acquired, performed]
    simp only [Runner.checkAfterwards_eq scenario intact]
  · intro result
    refine ⟨?_, rfl⟩
    rw [Runner.result_finish_eq_ok_iff, prepared.drives.memory_disableAll]
    exact and_congr_right fun _ => and_iff_right intact

/-- If every assertion is served and the costs show, the run passes as soon as the region is
released. -/
theorem passes_iff (served : ∀ assertion ∈ scenario.assertions,
      assertion.Served (trials.map Trial.operation)) {run : Run σ}
    (ran : runner.run host session scenario = .ok run) (shows : scenario.CostShows run.stats) :
    run.result = .ok () ↔ runner.release host = .ok () := by
  obtain ⟨execution, _, counted, run_eq, finished⟩ := prepared.run_eq rehearsed
  rw [run_eq] at ran
  obtain ⟨result, checked, rfl⟩ := map_eq_ok_iff.mp ran
  obtain ⟨passed_iff, stats⟩ := finished result
  rw [stats] at shows
  rw [passed_iff]
  apply and_iff_right
  apply Runner.eq_ok_of_checkAssertions _ checked
  intro assertion listed found verdict
  apply assertion.eq_none_of_check counted (served assertion listed) _ verdict
  rintro asserted rfl
  exact shows asserted listed

/-- A run fails whose operation is asserted to have times and was never called. -/
theorem fails {operation : Operation} (asserted : .statsAvailable operation ∈ scenario.assertions)
    (missing : operation ∉ trials.map Trial.operation) {run : Run σ}
    (ran : runner.run host session scenario = .ok run) : run.result ≠ .ok () := by
  obtain ⟨execution, _, counted, run_eq, finished⟩ := prepared.run_eq rehearsed
  rw [run_eq] at ran
  obtain ⟨result, checked, rfl⟩ := map_eq_ok_iff.mp ran
  rw [ne_eq, (finished result).1]
  rintro ⟨rfl, _⟩
  have verdict := Runner.check_of_checkAssertions_eq_ok checked asserted
  have present := (Assertion.eq_none_iff_of_check verdict).mp rfl
  rw [← List.length_pos_iff, counted, List.count_pos_iff] at present
  exact missing present

/-- A run without a verdict has samples that are too long. -/
theorem overflows (few : ∀ operation, .expansionCostVisible operation ∈ scenario.assertions →
      (trials.map Trial.operation).count operation ≤ UInt32.size)
    {error : ArithmeticError} (failed : runner.run host session scenario = .error error) :
    error = .durationSum ∧ ∃ execution assertion,
      runner.operate host session scenario region = .ok execution ∧
      assertion ∈ scenario.assertions ∧
      execution.session.stats.Overflows assertion.operation := by
  obtain ⟨execution, performed, counted, run_eq, _⟩ := prepared.run_eq rehearsed
  rw [run_eq, map_eq_error_iff] at failed
  obtain ⟨assertion, listed, checked⟩ := Runner.exists_of_checkAssertions_eq_error failed
  have short : ∀ asserted, assertion = .expansionCostVisible asserted →
      (execution.session.stats.samples asserted.name).length ≤ UInt32.size := by
    rintro asserted rfl
    rw [counted]
    exact few asserted listed
  obtain ⟨sum, long⟩ := assertion.overflows_of_check short checked
  exact ⟨sum, execution, assertion, performed, listed, long⟩

end Prepared

end PageMetadata.Simulator
