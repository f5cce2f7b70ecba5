import Mathlib.Data.List.Forall2
import PageMetadata.Proofs.Runner.Unrolling

/-! # Requiring less

What a step requires of its call only ever makes a scenario stricter. The requirement also gives a
structured read its room, but a read that returns the value required has the room that the model
gives it anyway. So if a scenario passes, it passes with fewer requirements as well, by the same
calls.
-/

namespace PageMetadata

mutual

/-- The step without the requirements of the calls that are chosen, by their paths from here. -/
def Step.relax (chosen : List Nat → Bool) : Step → Step
  | .call stepCall expectation => .call stepCall (if chosen [] then .model else expectation)
  | .loop iterations steps => .loop iterations (Step.relaxAll chosen 0 steps)
  | .checkAllPages => .checkAllPages
  | .assertLifecycle page state => .assertLifecycle page state

def Step.relaxAll (chosen : List Nat → Bool) (index : Nat) : List Step → List Step
  | [] => []
  | step :: steps =>
    Step.relax (fun path => chosen (index :: path)) step :: Step.relaxAll chosen (index + 1) steps

end

/-- The scenario that requires nothing of the chosen calls beyond what the model predicts. -/
def Scenario.relax (scenario : Scenario) (chosen : List Nat → Bool) : Scenario :=
  { scenario with steps := Step.relaxAll chosen 0 scenario.steps }

/-- The second action is the first one, perhaps without its requirement. -/
inductive Action.Relaxes : Action → Action → Prop where
  | same (action : Action) : Relaxes action action
  | call (position : Position) (iteration : UInt32) (stepCall : StepCall)
    (expectation : Expectation) :
    Relaxes (.call position iteration stepCall expectation)
      (.call position iteration stepCall .model)

namespace Step

variable {pageCount : Nat}

mutual

private theorem relaxes_actions (position : Position) (iteration : UInt32)
    (chosen : List Nat → Bool) :
    (step : Step) → List.Forall₂ Action.Relaxes (actions pageCount position iteration step)
      (actions pageCount position iteration (step.relax chosen))
  | .call stepCall expectation => by
    rw [relax, actions, actions]
    split
    · exact .cons (.call position iteration stepCall expectation) .nil
    · exact .cons (.same _) .nil
  | .loop iterations steps => by
    rw [relax, actions, actions]
    refine List.rel_flatMap (R := Eq) (List.forall₂_refl _) ?_
    rintro number _ rfl
    exact relaxes_allActions (position.within number) 0 0 (.ofNat number) chosen steps
  | .checkAllPages => by
    rw [relax]
    exact List.forall₂_same.mpr fun action _ => .same action
  | .assertLifecycle page state => by
    rw [relax]
    exact List.forall₂_same.mpr fun action _ => .same action

theorem relaxes_allActions (place : Nat → Position) (index first : Nat) (iteration : UInt32)
    (chosen : List Nat → Bool) :
    (steps : List Step) → List.Forall₂ Action.Relaxes
      (allActions pageCount place index iteration steps)
      (allActions pageCount place index iteration (relaxAll chosen first steps))
  | [] => .nil
  | step :: steps => by
    rw [relaxAll, allActions, allActions]
    exact List.rel_append
      (relaxes_actions (place index) iteration (fun path => chosen (first :: path)) step)
      (relaxes_allActions place (index + 1) (first + 1) iteration chosen steps)

end

end Step

theorem Scenario.relaxes_actions (scenario : Scenario) (chosen : List Nat → Bool)
    (pageCount : Nat) :
    List.Forall₂ Action.Relaxes (scenario.actions pageCount)
      ((scenario.relax chosen).actions pageCount) :=
  Step.relaxes_allActions .top 0 0 0 chosen scenario.steps

namespace Runner

section Alike

variable {σ τ : Type} {related : σ → τ → Prop} {runner : Runner σ} {other : Collaborator τ}
  (answers : runner.client.collaborator.AnswersLike related other)

include answers

/-- A call that goes through does so if nothing is required of it, by the same request. -/
theorem exists_performCall_model {occurrence : Occurrence} {iteration : UInt32}
    {stepCall : StepCall} {expectation : Expectation} {first next : Execution σ}
    {second : Execution τ} (alike : Execution.Alike related first second)
    (performed : runner.performCall occurrence iteration stepCall expectation first = .ok next) :
    ∃ reached, (runner.through other).performCall occurrence iteration stepCall .model second =
      .ok reached ∧ Execution.Alike related next reached := by
  obtain ⟨address, located, intact, kept, answered, accepted, rfl⟩ :=
    performCall_eq_ok_iff.mp performed
  have request := accepted.request_eq runner.client iteration
  rw [address_resolve] at request
  obtain ⟨answer, executions⟩ : _ ∧ Execution.Alike related
      (runner.answered occurrence iteration stepCall expectation first address)
      ((runner.through other).answered occurrence iteration stepCall .model second address) :=
    alike_answered alike rfl rfl rfl answers request
  refine ⟨_, performCall_eq_ok_iff.mpr ⟨address, ?_, ?_, ?_, ?_, trivial, rfl⟩, ?_⟩
  · rw [← alike.region]
    exact located
  · rw [← alike.session.memory]
    exact intact
  · have memory : (runner.called iteration stepCall expectation first address).2.memory =
        ((runner.through other).called iteration stepCall .model second address).2.memory :=
      executions.session.memory
    rw [← memory]
    exact kept
  · rw [← answer, ← alike.model]
    exact answered
  · exact { executions with model := by rw [alike.model] }

theorem exists_perform_relaxed {action relaxed : Action} (relaxes : action.Relaxes relaxed)
    {first next : Execution σ} {second : Execution τ} (alike : Execution.Alike related first second)
    (performed : runner.perform first action = .ok next) :
    ∃ reached, (runner.through other).perform second relaxed = .ok reached ∧
      Execution.Alike related next reached := by
  cases relaxes with
  | same =>
    have progress := alike_perform answers (rfl : action.settle = action.settle) alike
    rw [performed] at progress
    exact progress.exists_of_ok
  | call position iteration stepCall expectation =>
    exact exists_performCall_model answers alike performed

theorem exists_performAll_relaxed {actions relaxed : List Action}
    (relaxes : List.Forall₂ Action.Relaxes actions relaxed) {first next : Execution σ}
    {second : Execution τ} (alike : Execution.Alike related first second)
    (performed : runner.performAll actions first = .ok next) :
    ∃ reached, (runner.through other).performAll relaxed second = .ok reached ∧
      Execution.Alike related next reached := by
  induction relaxes generalizing first second with
  | nil =>
    cases performed
    exact ⟨second, rfl, alike⟩
  | cons head _ ih =>
    rw [performAll_cons] at performed
    obtain ⟨middle, begun, rest⟩ := bind_eq_ok_iff.mp performed
    obtain ⟨between, begunAgain, alike⟩ := exists_perform_relaxed answers head alike begun
    obtain ⟨reached, ended, alike⟩ := ih alike rest
    refine ⟨reached, ?_, alike⟩
    rw [performAll_cons]
    exact bind_eq_ok_iff.mpr ⟨between, begunAgain, ended⟩

/-- A scenario that passes still passes if less is required of its calls, and makes the same calls
with the same buffers, if the host places and releases the region alike. It has no verdict for no
other reason than times that are too long to be summed. -/
theorem passed_relax {host again : Host} {session : Session σ} {later : Session τ}
    (start : related session.state later.state) {scenario : Scenario}
    (placed : runner.acquireRegion again scenario = runner.acquireRegion host scenario)
    (released : runner.release again = runner.release host)
    (untimed : ∀ operation, .expansionCostVisible operation ∉ scenario.assertions)
    (chosen : List Nat → Bool) {run : Run σ} (ran : runner.run host session scenario = .ok run)
    (passed : run.result = .ok ()) :
    (∀ relaxed, (runner.through other).run again later (scenario.relax chosen) = .ok relaxed →
      relaxed.result = .ok () ∧ Run.Alike related run relaxed) ∧
    ∀ error, (runner.through other).run again later (scenario.relax chosen) = .error error →
      error = .durationSum ∧
        (runner.through other).TimesOverflow again later (scenario.relax chosen) := by
  have stillUntimed :
      ∀ operation, .expansionCostVisible operation ∉ (scenario.relax chosen).assertions := untimed
  refine ⟨?_, fun _ failed => timesOverflow_of_run stillUntimed failed⟩
  intro relaxed ranAgain
  have stillPlaced : runner.acquireRegion again (scenario.relax chosen) =
      runner.acquireRegion host scenario := placed
  obtain ⟨region, execution, acquired, operated, _, _⟩ := exists_execution_of_passed ran passed
  have performed : Progress.Alike related (runner.operate host session scenario region)
      ((runner.through other).operate again later (scenario.relax chosen) region) := by
    have prepared : Execution.Alike related (runner.setup host scenario region session.clearStats)
        ((runner.through other).setup again (scenario.relax chosen) region later.clearStats) :=
      alike_setup rfl region start
    obtain ⟨reached, operatedAgain, alike⟩ := exists_performAll_relaxed answers
      (scenario.relaxes_actions chosen region.pageCount) prepared operated
    rw [operated, operate, operatedAgain]
    exact .ok alike
  have alike : Run.Alike related run relaxed := by
    refine alike_run answers start stillPlaced released rfl untimed ?_ ran ranAgain
    intro other acquiredAgain
    cases acquired.symm.trans acquiredAgain
    exact performed
  refine ⟨?_, alike⟩
  have results := alike.result
  rw [passed] at results
  obtain ⟨_, result, _⟩ := results.exists_of_ok
  exact result

end Alike

/-- The requirement of a structured read in a repetition is dropped, and so is that of the last
call. The read still has room for the three bytes of the payload. -/
theorem repeated_read_relaxed :
    let geometry : PageGeometry := ⟨3, by decide, by decide⟩
    let runner : Runner Simulator :=
      ⟨⟨Simulator.collaborator, .standard, .compact⟩, geometry, .lowByte, true⟩
    let clock : Nat → Exchange → Duration × Nat := fun count _ => (.ofWord 7, count + 1)
    let collaborator : Collaborator (Simulator × Nat) := Simulator.timed clock
    let host : Host := .placing ⟨0x1000⟩
    let initial : Simulator := ⟨.standard, geometry, .empty⟩
    let session : Session Simulator := .start initial .empty
    let later : Session (Simulator × Nat) := .start (initial, 0) .empty
    let record : ValueSpec := .fixed (.structured ⟨1, 2, [3, 4, 5]⟩)
    let scenario := (Scenario.new "read" .standard).withSteps
      [.loop 2 [.predicted (.set 0 record), .call (.get 0 .structured) (.value record)],
        .call (.enable 0) (.failure .alreadyExpanded), .call (.disable 0) .success]
    let chosen : List Nat → Bool := fun path => path = [0, 1] ∨ path = [2]
    (∀ operation, .expansionCostVisible operation ∉ scenario.assertions) ∧
      ∃ run relaxed, runner.run host session scenario = .ok run ∧ run.result = .ok () ∧
        run.operated.size = 6 ∧
        (runner.through collaborator).run host later (scenario.relax chosen) = .ok relaxed ∧
        relaxed.result = .ok () ∧
        Run.Alike (fun state other => state = Prod.fst other) run relaxed := by
  intro geometry runner clock collaborator host initial session later record scenario chosen
  have untimed : ∀ operation, .expansionCostVisible operation ∉ scenario.assertions := nofun
  have answers : runner.client.collaborator.AnswersLike (fun state other => state = Prod.fst other)
      collaborator := Simulator.answersLike_timed clock
  have start : session.state = later.state.1 := rfl
  have passes : (runner.run host session scenario).toOption.any
      (fun run => decide (run.result = .ok () ∧ run.operated.size = 6)) = true := by
    dsimp +zetaDelta only
    decide +kernel
  have ends : ((runner.through collaborator).run host later (scenario.relax chosen)).toOption.any
      (fun _ => true) = true := by
    dsimp +zetaDelta only
    decide +kernel
  obtain ⟨run, ran, shown⟩ := any_toOption_iff.mp passes
  obtain ⟨relaxed, ranAgain, _⟩ := any_toOption_iff.mp ends
  obtain ⟨passed, size⟩ := of_decide_eq_true shown
  obtain ⟨still, alike⟩ := (passed_relax answers start rfl rfl untimed chosen ran passed).1 relaxed
    ranAgain
  exact ⟨untimed, run, relaxed, ran, passed, size, ranAgain, still, alike⟩

end Runner

end PageMetadata
