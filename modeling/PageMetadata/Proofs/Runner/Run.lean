import PageMetadata.Proofs.Runner.Action

/-! # From the steps to the whole run

A run that gets a region performs the actions of its steps, and teardown starts from the execution
that they lead to. Only a run whose actions and checks all succeed can pass.
-/

namespace PageMetadata.Runner

variable {σ : Type}

/-- Where the steps of a scenario lead to on a region. -/
def operate (runner : Runner σ) (host : Host) (session : Session σ) (scenario : Scenario)
    (region : Region) : Except (Interruption σ) (Execution σ) :=
  runner.performAll (scenario.actions region.pageCount)
    (runner.setup host scenario region session.clearStats)

theorem performSteps_eq_operate (runner : Runner σ) (host : Host) (session : Session σ)
    (scenario : Scenario) (region : Region) :
    runner.performSteps Position.top 0 0 scenario.steps
      (runner.setup host scenario region session.clearStats) =
        runner.operate host session scenario region :=
  runner.performSteps_eq Position.top 0 0 scenario.steps rfl

/-- How a run that came to an end went: without a region nothing was done. -/
inductive Ended (runner : Runner σ) (host : Host) (session : Session σ) (scenario : Scenario)
    (run : Run σ) : Prop where
  | unplaced (error : Error) (refused : runner.acquireRegion host scenario = .error error)
    (failed : run.result = .error ⟨.setup, error⟩)
    (session : run.session = .start session.state .empty)
  | interrupted (region : Region) (interruption : Interruption σ)
    (acquired : runner.acquireRegion host scenario = .ok region)
    (operated : runner.operate host session scenario region = .error interruption)
    (finished : run = runner.finish host interruption.execution
      (.error ⟨interruption.execution.stage, interruption.error⟩))
  | completed (region : Region) (execution : Execution σ) (result : Except Failure Unit)
    (acquired : runner.acquireRegion host scenario = .ok region)
    (operated : runner.operate host session scenario region = .ok execution)
    (checked : runner.checkAfterwards scenario execution.session = .ok result)
    (finished : run = runner.finish host execution result)

/-- Setup finds the region as it was stamped. -/
theorem examine_setup (runner : Runner σ) (host : Host) (scenario : Scenario) (region : Region)
    (session : Session σ) :
    runner.examine (runner.setup host scenario region session).session "after stamping" =
      .ok () :=
  examine_eq_ok_iff.mpr (runner.intact_setup host scenario region session)

theorem run_of_refused {runner : Runner σ} {host : Host} (session : Session σ)
    {scenario : Scenario} {error : Error}
    (refused : runner.acquireRegion host scenario = .error error) :
    runner.run host session scenario = .ok (abandon host session.clearStats error) := by
  rw [Runner.run, refused]

theorem run_of_acquired {runner : Runner σ} {host : Host} (session : Session σ)
    {scenario : Scenario} {region : Region}
    (acquired : runner.acquireRegion host scenario = .ok region) :
    runner.run host session scenario =
      match runner.operate host session scenario region with
      | .error interruption =>
        .ok (runner.finish host interruption.execution
          (.error ⟨interruption.execution.stage, interruption.error⟩))
      | .ok execution =>
        (runner.checkAfterwards scenario execution.session).map
          (runner.finish host execution) := by
  rw [Runner.run, acquired]
  simp only [examine_setup, performSteps_eq_operate]
  cases runner.operate host session scenario region <;> rfl

theorem ended_of_run {runner : Runner σ} {host : Host} {session : Session σ}
    {scenario : Scenario} {run : Run σ}
    (ran : runner.run host session scenario = .ok run) :
    runner.Ended host session scenario run := by
  cases acquired : runner.acquireRegion host scenario with
  | error error =>
    rw [run_of_refused session acquired] at ran
    cases ran
    exact .unplaced error acquired rfl rfl
  | ok region =>
    rw [run_of_acquired session acquired] at ran
    cases operated : runner.operate host session scenario region with
    | error interruption =>
      simp only [operated] at ran
      cases ran
      exact .interrupted region interruption acquired operated rfl
    | ok execution =>
      simp only [operated] at ran
      obtain ⟨result, checked, rfl⟩ := map_eq_ok_iff.mp ran
      exact .completed region execution result acquired operated checked rfl

/-- Once there is a region, teardown follows wherever the steps have led to. -/
theorem Ended.finished {runner : Runner σ} {host : Host} {session : Session σ}
    {scenario : Scenario} {run : Run σ} (ended : runner.Ended host session scenario run) :
    run.session = .start session.state .empty ∨
      ∃ region result, runner.acquireRegion host scenario = .ok region ∧
        run = runner.finish host
          (Progress.reached (runner.operate host session scenario region)) result ∧
        (result = .ok () → ∃ execution,
          runner.operate host session scenario region = .ok execution) := by
  cases ended with
  | unplaced error refused failed session => exact .inl session
  | interrupted region interruption acquired operated finished =>
    refine .inr ⟨region, .error ⟨interruption.execution.stage, interruption.error⟩, acquired, ?_,
      ?_⟩
    · rw [operated]
      exact finished
    · intro passed
      contradiction
  | completed region execution result acquired operated checked finished =>
    refine .inr ⟨region, result, acquired, ?_, fun _ => ⟨execution, operated⟩⟩
    rw [operated]
    exact finished

/-- The verdict on the steps and the checks after them, before teardown. -/
def tested (runner : Runner σ) (host : Host) (session : Session σ) (scenario : Scenario)
    (region : Region) : Except ArithmeticError (Except Failure Unit) :=
  match runner.operate host session scenario region with
  | .error interruption => .ok (.error ⟨interruption.execution.stage, interruption.error⟩)
  | .ok execution => runner.checkAfterwards scenario execution.session

theorem run_eq_finish {runner : Runner σ} (host : Host) (session : Session σ)
    {scenario : Scenario} {region : Region}
    (acquired : runner.acquireRegion host scenario = .ok region) :
    runner.run host session scenario =
      (runner.tested host session scenario region).map
        (runner.finish host
          (Progress.reached (runner.operate host session scenario region))) := by
  rw [run_of_acquired session acquired, tested]
  cases runner.operate host session scenario region <;> rfl

/-- Only the checks after the last step can leave a run without a result. -/
theorem exists_of_run_eq_error {runner : Runner σ} {host : Host} {session : Session σ}
    {scenario : Scenario} {error : ArithmeticError}
    (failed : runner.run host session scenario = .error error) :
    ∃ region execution, runner.acquireRegion host scenario = .ok region ∧
      runner.operate host session scenario region = .ok execution ∧
      runner.checkAfterwards scenario execution.session = .error error := by
  cases acquired : runner.acquireRegion host scenario with
  | error refused =>
    rw [run_of_refused session acquired] at failed
    contradiction
  | ok region =>
    rw [run_of_acquired session acquired] at failed
    cases operated : runner.operate host session scenario region with
    | error interruption =>
      simp only [operated] at failed
      contradiction
    | ok execution =>
      simp only [operated] at failed
      exact ⟨region, execution, rfl, operated, map_eq_error_iff.mp failed⟩

theorem checkAfterwards_eq {runner : Runner σ} (scenario : Scenario) {session : Session σ}
    (intact : runner.Intact session.memory) :
    runner.checkAfterwards scenario session =
      checkAssertions session.stats scenario.assertions := by
  have examined : runner.examine session "at verify" = .ok () := examine_eq_ok_iff.mpr intact
  rw [checkAfterwards, examined]

theorem handBack_eq_ok_iff {runner : Runner σ} {host : Host} {session : Session σ} :
    runner.handBack host session = .ok () ↔
      runner.Intact session.memory ∧ runner.release host = .ok () := by
  rw [handBack, bind_eq_ok_iff, ← examine_eq_ok_iff]
  exact ⟨fun ⟨_, examined, released⟩ => ⟨examined, released⟩,
    fun ⟨examined, released⟩ => ⟨(), examined, released⟩⟩

/-- Teardown fails no run that failed before, and passes no such run. -/
theorem result_finish_eq_ok_iff {runner : Runner σ} {host : Host} {execution : Execution σ}
    {result : Except Failure Unit} :
    (runner.finish host execution result).result = .ok () ↔
      result = .ok () ∧
        runner.Intact (disableAll runner.client execution.leaving
          (teardownTargets execution false)).memory ∧
        runner.release host = .ok () := by
  cases result with
  | error failure => simp [finish]
  | ok _ => simp [finish, mapError_eq_ok_iff, handBack_eq_ok_iff]

theorem exists_execution_of_passed {runner : Runner σ} {host : Host} {session : Session σ}
    {scenario : Scenario} {run : Run σ} (ran : runner.run host session scenario = .ok run)
    (passed : run.result = .ok ()) :
    ∃ region execution, runner.acquireRegion host scenario = .ok region ∧
      runner.operate host session scenario region = .ok execution ∧
      runner.checkAfterwards scenario execution.session = .ok (.ok ()) ∧
      run = runner.finish host execution (.ok ()) := by
  cases ended_of_run ran with
  | unplaced error refused failed session =>
    rw [failed] at passed
    contradiction
  | interrupted region interruption acquired operated finished =>
    subst finished
    obtain ⟨succeeded, _⟩ := result_finish_eq_ok_iff.mp passed
    contradiction
  | completed region execution result acquired operated checked finished =>
    subst finished
    obtain ⟨rfl, _⟩ := result_finish_eq_ok_iff.mp passed
    exact ⟨region, execution, acquired, operated, checked, rfl⟩

/-- A scenario behind others is run on what they have left. -/
theorem runAll_append_singleton (runner : Runner σ) (hosts : Nat → Host) (session : Session σ)
    (number : Nat) (earlier : List Scenario) (scenario : Scenario) :
    runner.runAll hosts session number (earlier ++ [scenario]) =
      match runner.runAll hosts session number earlier with
      | .error error => .error error
      | .ok (runs, before) =>
        (runner.run (hosts (number + earlier.length)) before scenario).map
          fun run => (runs ++ [run], run.session) := by
  induction earlier generalizing session number with
  | nil =>
    simp only [List.nil_append, runAll, pure, Except.pure, List.length_nil, Nat.add_zero]
    cases runner.run (hosts number) session scenario <;> rfl
  | cons first earlier ih =>
    have count : number + (first :: earlier).length = number + 1 + earlier.length := by
      simp only [List.length_cons]
      omega
    rw [List.cons_append, runAll, runAll, count]
    cases runner.run (hosts number) session first with
    | error error => rfl
    | ok run =>
      simp only [bind, Except.bind, ih]
      rcases runner.runAll hosts run.session (number + 1) earlier with error | ⟨runs, before⟩
      · rfl
      · dsimp only [pure, Except.pure]
        cases runner.run (hosts (number + 1 + earlier.length)) before scenario <;> rfl

end PageMetadata.Runner
