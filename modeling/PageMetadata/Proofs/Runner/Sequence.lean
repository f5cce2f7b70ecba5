import Mathlib.Data.List.Forall2
import Mathlib.Data.List.Induction
import PageMetadata.Proofs.Runner.Isolation

/-! # Each run of a sequence

Scenarios that are run one after another end in one run each, made on what the earlier ones have
left, unless one of them comes to no end. On a simulator every run finds no table expanded.
-/

namespace PageMetadata

namespace Runner

variable {σ : Type} {runner : Runner σ} {hosts : Nat → Host} {session : Session σ}
  {number : Nat} {scenarios : List Scenario}

/-- What holds of every run that is made on what the earlier ones have left, holds of all runs. The
number of a run is that of its host. -/
theorem forall₂_of_runAll {Holds : Scenario × Nat → Run σ → Prop} {runs : List (Run σ)}
    {after : Session σ}
    (each : ∀ earlier scenario later earlierRuns before run,
      scenarios = earlier ++ scenario :: later →
      runner.runAll hosts session number earlier = .ok (earlierRuns, before) →
      runner.run (hosts (number + earlier.length)) before scenario = .ok run →
      Holds (scenario, number + earlier.length) run)
    (ran : runner.runAll hosts session number scenarios = .ok (runs, after)) :
    List.Forall₂ Holds (scenarios.zipIdx number) runs := by
  induction scenarios using List.reverseRecOn generalizing runs after with
  | nil =>
    cases ran
    exact .nil
  | append_singleton earlier scenario ih =>
    rw [runAll_append_singleton] at ran
    cases first : runner.runAll hosts session number earlier with
    | error error =>
      rw [first] at ran
      contradiction
    | ok result =>
      obtain ⟨earlierRuns, before⟩ := result
      rw [first] at ran
      obtain ⟨run, last, same⟩ := map_eq_ok_iff.mp ran
      cases same
      rw [List.zipIdx_append]
      apply List.rel_append
      · apply ih _ first
        intro start middle later startRuns between found split
        exact each start middle (later ++ [scenario]) startRuns between found (by simp [split])
      · exact .cons (each earlier scenario [] earlierRuns before run rfl first last) .nil

/-- Each scenario has a run that was made on what the earlier ones have left. -/
theorem exists_run_of_mem {runs : List (Run σ)} {after : Session σ} {scenario : Scenario}
    (ran : runner.runAll hosts session number scenarios = .ok (runs, after))
    (listed : scenario ∈ scenarios) :
    ∃ earlier later earlierRuns before, ∃ run ∈ runs,
      scenarios = earlier ++ scenario :: later ∧
      runner.runAll hosts session number earlier = .ok (earlierRuns, before) ∧
      runner.run (hosts (number + earlier.length)) before scenario = .ok run := by
  let Made (scenario : Scenario) (run : Run σ) : Prop :=
    ∃ earlier later earlierRuns before, scenarios = earlier ++ scenario :: later ∧
      runner.runAll hosts session number earlier = .ok (earlierRuns, before) ∧
      runner.run (hosts (number + earlier.length)) before scenario = .ok run
  have made : List.Forall₂ Made scenarios runs := by
    rw [← List.zipIdx_map_fst number scenarios, List.forall₂_map_left_iff]
    apply forall₂_of_runAll _ ran
    intro earlier scenario later earlierRuns before run split first last
    exact ⟨earlier, later, earlierRuns, before, split, first, last⟩
  obtain ⟨count, each⟩ := List.forall₂_iff_get.mp made
  obtain ⟨index, bound, rfl⟩ := List.getElem_of_mem listed
  obtain ⟨earlier, later, earlierRuns, before, found⟩ := each index bound (count ▸ bound)
  exact ⟨earlier, later, earlierRuns, before, _, List.get_mem .., found⟩

/-- If there is no result, some run on what the earlier ones have left came to no end. -/
theorem exists_of_runAll_eq_error {error : ArithmeticError}
    (failed : runner.runAll hosts session number scenarios = .error error) :
    ∃ earlier scenario later earlierRuns before, scenarios = earlier ++ scenario :: later ∧
      runner.runAll hosts session number earlier = .ok (earlierRuns, before) ∧
      runner.run (hosts (number + earlier.length)) before scenario = .error error := by
  induction scenarios using List.reverseRecOn with
  | nil => contradiction
  | append_singleton earlier scenario ih =>
    rw [runAll_append_singleton] at failed
    cases first : runner.runAll hosts session number earlier with
    | error found =>
      rw [first] at failed
      cases failed
      obtain ⟨start, middle, later, startRuns, between, split, ran, broken⟩ := ih first
      exact ⟨start, middle, later ++ [scenario], startRuns, between, by simp [split], ran, broken⟩
    | ok result =>
      obtain ⟨earlierRuns, before⟩ := result
      rw [first] at failed
      exact ⟨earlier, scenario, [], earlierRuns, before, rfl, first, map_eq_error_iff.mp failed⟩

end Runner

namespace Simulator

/-- A run in a sequence on a simulator finds every table unexpanded. -/
theorem Drives.unexpanded_before {σ : Type} {view : σ → Simulator} {runner : Runner σ}
    (drives : Drives view runner.client.collaborator) {hosts : Nat → Host} {session : Session σ}
    (geometry : (view session.state).geometry = runner.geometry)
    (unexpanded : ∀ address, (view session.state).isExpanded address = false)
    {scenarios : List Scenario}
    (mapped : ∀ index scenario region, scenarios[index]? = some scenario →
      runner.acquireRegion (hosts index) scenario = .ok region → region.base ≠ .null)
    {earlier later : List Scenario} {scenario : Scenario}
    (split : scenarios = earlier ++ scenario :: later) {runs : List (Run σ)} {before : Session σ}
    (ran : runner.runAll hosts session 0 earlier = .ok (runs, before)) :
    (view session.state).Reaches (view before.state) ∧
      ∀ address, (view before.state).isExpanded address = false := by
  apply drives.unexpanded_of_runAll geometry unexpanded _ ran
  intro index other region listed acquired
  rw [Nat.zero_add] at acquired
  apply mapped index other region _ acquired
  rw [split, List.getElem?_append_left (List.getElem?_eq_some_iff.mp listed).1, listed]

end Simulator

end PageMetadata
