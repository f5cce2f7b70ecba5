import PageMetadata.Proofs.Runner.Likeness
import PageMetadata.Proofs.Runner.TableView
import PageMetadata.Proofs.Simulator.Alike

/-! # Writing repetitions out

A repetition can be written out as copies of its steps, each with the values of its iteration in
place of what they were computed from. The actions of the scenario that is written out are those of
the original one apart from their positions, so no run can tell the two apart.
-/

namespace PageMetadata

/-- The expectation with the value that it has in an iteration. -/
def Expectation.settle (expectation : Expectation) (iteration : UInt32) : Expectation :=
  match expectation with
  | .value spec => .value (.fixed (spec.resolve iteration))
  | other => other

mutual

/-- The step with its repetitions written out and its values fixed, within an iteration. A
repetition fixes the values of its own steps; the steps after it are in the outer iteration. -/
def Step.unroll (iteration : UInt32) : Step → List Step
  | .call stepCall expectation =>
    [.call (stepCall.settle iteration) (expectation.settle iteration)]
  | .loop iterations steps =>
    (List.range iterations.toNat).flatMap fun number => Step.unrollAll (.ofNat number) steps
  | .checkAllPages => [.checkAllPages]
  | .assertLifecycle page state => [.assertLifecycle page state]

def Step.unrollAll (iteration : UInt32) : List Step → List Step
  | [] => []
  | step :: steps => Step.unroll iteration step ++ Step.unrollAll iteration steps

end

/-- The scenario without repetitions, and with fixed values only. -/
def Scenario.unroll (scenario : Scenario) : Scenario :=
  { scenario with steps := Step.unrollAll 0 scenario.steps }

/-- The action with its values fixed, whatever its position and iteration. -/
def Action.settle : Action → Action
  | .call _ iteration stepCall expectation =>
    .call (.top 0) 0 (stepCall.settle iteration) (expectation.settle iteration)
  | .read _ _ page => .read (.top 0) 0 page
  | .lifecycle _ page state => .lifecycle (.top 0) page state

namespace StepCall

/-- A call with a fixed value is the same in every iteration. -/
@[simp] theorem settle_settle (stepCall : StepCall) (iteration later : UInt32) :
    (stepCall.settle iteration).settle later = stepCall.settle iteration := by
  cases stepCall <;> rfl

end StepCall

namespace Expectation

variable (expectation : Expectation) (iteration later : UInt32)

@[simp] theorem settle_settle :
    (expectation.settle iteration).settle later = expectation.settle iteration := by
  cases expectation <;> rfl

@[simp] theorem check_settle (call : Call) (observed : OutcomeClass)
    (retrieved : Option MetadataValue) :
    (expectation.settle iteration).check call observed retrieved later =
      expectation.check call observed retrieved iteration := by
  cases expectation <;> cases retrieved <;> rfl

@[simp] theorem payloadLength_settle (model : Model) (address : Address) :
    (expectation.settle iteration).payloadLength model address later =
      expectation.payloadLength model address iteration := by
  cases expectation <;> rfl

end Expectation

namespace Step

variable {pageCount : Nat}

theorem allActions_append (place : Nat → Position) (index : Nat) (iteration : UInt32)
    (steps later : List Step) :
    allActions pageCount place index iteration (steps ++ later) =
      allActions pageCount place index iteration steps ++
        allActions pageCount place (index + steps.length) iteration later := by
  induction steps generalizing index with
  | nil => rfl
  | cons step steps ih =>
    rw [List.cons_append, allActions, allActions, ih, List.append_assoc, List.length_cons,
      Nat.add_assoc, Nat.add_comm 1]

/-- The actions of copies of steps, if those of each copy are known wherever it stands. -/
private theorem settle_allActions_flatMap {place : Nat → Position} {copies : Nat → List Step}
    {actions : Nat → List Action}
    (settled : ∀ number index, (allActions pageCount place index 0 (copies number)).map
      Action.settle = (actions number).map Action.settle) (numbers : List Nat) (index : Nat) :
    (allActions pageCount place index 0 (numbers.flatMap copies)).map Action.settle =
      (numbers.flatMap actions).map Action.settle := by
  induction numbers generalizing index with
  | nil => rfl
  | cons number numbers ih =>
    rw [List.flatMap_cons, List.flatMap_cons, allActions_append, List.map_append, List.map_append,
      settled, ih]

mutual

private theorem loop_notMem_unroll (outer iterations : UInt32) (repeated : List Step) :
    (step : Step) → .loop iterations repeated ∉ step.unroll outer
  | .call stepCall expectation => by simp [unroll]
  | .loop _ steps => by
    rw [unroll, List.mem_flatMap]
    rintro ⟨number, _, listed⟩
    exact loop_notMem_unrollAll (.ofNat number) iterations repeated steps listed
  | .checkAllPages => by simp [unroll]
  | .assertLifecycle page state => by simp [unroll]

/-- Nothing is left to be repeated. -/
theorem loop_notMem_unrollAll (outer iterations : UInt32) (repeated : List Step) :
    (steps : List Step) → .loop iterations repeated ∉ unrollAll outer steps
  | [] => by simp [unrollAll]
  | step :: steps => by
    rw [unrollAll, List.mem_append, not_or]
    exact ⟨loop_notMem_unroll outer iterations repeated step,
      loop_notMem_unrollAll outer iterations repeated steps⟩

end

mutual

private theorem settle_actions_unroll (place : Nat → Position) (index : Nat)
    (position : Position) (iteration : UInt32) :
    (step : Step) → (allActions pageCount place index 0 (step.unroll iteration)).map
      Action.settle = (actions pageCount position iteration step).map Action.settle
  | .call stepCall expectation => by
    simp only [unroll, allActions, actions, List.append_nil, List.map_cons, List.map_nil,
      Action.settle, StepCall.settle_settle, Expectation.settle_settle]
  | .loop iterations steps => by
    rw [unroll, actions]
    exact settle_allActions_flatMap
      (fun number index => settle_allActions_unrollAll place index (position.within number) 0
        (.ofNat number) steps) _ index
  | .checkAllPages => by
    simp only [unroll, allActions, actions, List.append_nil, List.map_map]
    rfl
  | .assertLifecycle page state => by
    simp only [unroll, allActions, actions, List.append_nil, List.map_cons, List.map_nil,
      Action.settle]

/-- Written out, steps have the same actions as before, apart from their positions. -/
theorem settle_allActions_unrollAll (place : Nat → Position) (index : Nat)
    (original : Nat → Position) (first : Nat) (iteration : UInt32) :
    (steps : List Step) →
      (allActions pageCount place index 0 (unrollAll iteration steps)).map Action.settle =
        (allActions pageCount original first iteration steps).map Action.settle
  | [] => rfl
  | step :: steps => by
    rw [unrollAll, allActions_append, allActions, List.map_append, List.map_append,
      settle_actions_unroll place index (original first) iteration step,
      settle_allActions_unrollAll place _ original (first + 1) iteration steps]

end

end Step

/-- The step behind the inner repetition has the outer value again; repeating nothing is nothing. -/
example :
    let counting : ValueSpec := .inlineSequence .scalar 10
    let setting (value : UInt64) : Step := .predicted (.set 0 (.fixed (.inline ⟨.scalar, value⟩)))
    Step.unrollAll 0
      [.loop 2 [.loop 1 [.predicted (.set 0 counting)], .predicted (.set 0 counting)],
        .loop 0 [.checkAllPages]] =
      [setting 10, setting 10, setting 10, setting 11] := by
  rfl

theorem Scenario.settle_actions_unroll (scenario : Scenario) (pageCount : Nat) :
    (scenario.unroll.actions pageCount).map Action.settle =
      (scenario.actions pageCount).map Action.settle :=
  Step.settle_allActions_unrollAll .top 0 .top 0 0 scenario.steps

namespace Runner

section Alike

variable {σ τ : Type} {related : σ → τ → Prop} {runner : Runner σ} {other : Collaborator τ}
  (answers : runner.client.collaborator.AnswersLike related other)

include answers

/-- An action goes the same way wherever it stands, and in whatever iteration. -/
theorem alike_perform {action written : Action} (settled : action.settle = written.settle)
    {first : Execution σ} {second : Execution τ} (alike : Execution.Alike related first second) :
    Progress.Alike related (runner.perform first action)
      ((runner.through other).perform second written) := by
  cases action with
  | call position iteration stepCall expectation =>
    cases written with
    | call place later otherCall required =>
      obtain ⟨-, -, calls, expected⟩ := Action.call.inj settled
      refine alike_performCall answers alike rfl ?_ ?_ ?_ ?_
      · rw [← stepCall.page_settle iteration, calls, StepCall.page_settle]
      · intro address
        rw [← stepCall.resolve_settle address iteration later, calls, StepCall.resolve_settle]
      · intro model address
        rw [← expectation.payloadLength_settle iteration later, expected,
          Expectation.payloadLength_settle]
      · intro call observed retrieved
        rw [← expectation.check_settle iteration later, expected, Expectation.check_settle]
    | read place later page => cases settled
    | lifecycle place page state => cases settled
  | read position iteration page =>
    cases written with
    | call place later otherCall required => cases settled
    | read place later otherPage =>
      obtain ⟨-, -, rfl⟩ := Action.read.inj settled
      have held : (second.region.page? page).bind second.model.value? =
          (first.region.page? page).bind first.model.value? := by
        rw [alike.region, alike.model]
      simp only [perform, readPage, held]
      exact alike_performCall answers alike rfl rfl (fun _ => rfl) (fun _ _ => rfl)
        (fun _ _ _ => rfl)
    | lifecycle place page state => cases settled
  | lifecycle position page state =>
    cases written with
    | call place later otherCall required => cases settled
    | read place later otherPage => cases settled
    | lifecycle place otherPage otherState =>
      obtain ⟨-, rfl, rfl⟩ := Action.lifecycle.inj settled
      exact alike_checkLifecycle alike position place page state

theorem alike_performAll {actions written : List Action}
    (settled : actions.map Action.settle = written.map Action.settle) {first : Execution σ}
    {second : Execution τ} (alike : Execution.Alike related first second) :
    Progress.Alike related (runner.performAll actions first)
      ((runner.through other).performAll written second) := by
  induction actions generalizing written first second with
  | nil =>
    obtain rfl : written = [] := List.map_eq_nil_iff.mp settled.symm
    exact .ok alike
  | cons action actions ih =>
    obtain ⟨head, rest, rfl, same, later⟩ := List.map_eq_cons_iff.mp settled.symm
    exact (alike_perform answers same.symm alike).bind fun _ _ reached => ih later.symm reached

/-- Repetitions may be written out, until nothing is left to be repeated: with the values of each
iteration in their place, the same steps make the same calls with the same buffers, and end with the
same verdict, if the host places and releases the region alike. A run has no verdict for no other
reason than times that are too long to be summed. -/
theorem run_alike_unroll {host again : Host} {session : Session σ} {later : Session τ}
    (start : related session.state later.state) {scenario : Scenario}
    (placed : runner.acquireRegion again scenario = runner.acquireRegion host scenario)
    (released : runner.release again = runner.release host)
    (untimed : ∀ operation, .expansionCostVisible operation ∉ scenario.assertions) :
    (∀ iterations repeated, .loop iterations repeated ∉ scenario.unroll.steps) ∧
    (∀ run unrolled, runner.run host session scenario = .ok run →
      (runner.through other).run again later scenario.unroll = .ok unrolled →
      Run.Alike related run unrolled) ∧
    (∀ error, runner.run host session scenario = .error error →
      error = .durationSum ∧ runner.TimesOverflow host session scenario) ∧
    ∀ error, (runner.through other).run again later scenario.unroll = .error error →
      error = .durationSum ∧ (runner.through other).TimesOverflow again later scenario.unroll := by
  have stillUntimed : ∀ operation, .expansionCostVisible operation ∉ scenario.unroll.assertions :=
    untimed
  refine ⟨fun iterations repeated => Step.loop_notMem_unrollAll 0 iterations repeated _, ?_,
    fun _ failed => timesOverflow_of_run untimed failed,
    fun _ failed => timesOverflow_of_run stillUntimed failed⟩
  intro run unrolled ran ranAgain
  have stillPlaced : runner.acquireRegion again scenario.unroll =
      runner.acquireRegion host scenario := placed
  refine alike_run answers start stillPlaced released rfl untimed ?_ ran ranAgain
  intro region _
  exact alike_performAll answers (scenario.settle_actions_unroll region.pageCount).symm
    (alike_setup rfl region start)

end Alike

/-- After an inner repetition the outer one goes on with its own values; then nothing is repeated
at all, and a structured value is read with room for what is expected. The simulator runs under
another clock when the steps are written out. -/
theorem nested_repetition_unrolled :
    let geometry : PageGeometry := ⟨3, by decide, by decide⟩
    let runner : Runner Simulator :=
      ⟨⟨Simulator.collaborator, .standard, .compact⟩, geometry, .lowByte, true⟩
    let clock : Nat → Exchange → Duration × Nat := fun count _ => (.ofWord 7, count + 1)
    let collaborator : Collaborator (Simulator × Nat) := Simulator.timed clock
    let host : Host := .placing ⟨0x1000⟩
    let initial : Simulator := ⟨.standard, geometry, .empty⟩
    let session : Session Simulator := .start initial .empty
    let later : Session (Simulator × Nat) := .start (initial, 0) .empty
    let counting : ValueSpec := .inlineSequence .scalar 10
    let record : ValueSpec := .fixed (.structured ⟨1, 2, [3, 4, 5]⟩)
    let scenario := (Scenario.new "nested" .standard).withSteps
      [.loop 2 [
        .loop 2 [.predicted (.set 0 (.inlineSequence .pointer 1))],
        .predicted (.set 0 counting),
        .call (.get 0 .inline) (.value counting)],
      .loop 0 [.predicted (.disable 0)],
      .predicted (.set 0 record),
      .call (.get 0 .structured) (.value record)]
    (∀ operation, .expansionCostVisible operation ∉ scenario.assertions) ∧
      (∀ iterations repeated, .loop iterations repeated ∉ scenario.unroll.steps) ∧
      ∃ run unrolled, runner.run host session scenario = .ok run ∧
        (runner.through collaborator).run host later scenario.unroll = .ok unrolled ∧
        run.result = .ok () ∧ run.operated.size = 10 ∧
        Run.Alike (fun state other => state = Prod.fst other) run unrolled := by
  intro geometry runner clock collaborator host initial session later counting record scenario
  have untimed : ∀ operation, .expansionCostVisible operation ∉ scenario.assertions := nofun
  have answers : runner.client.collaborator.AnswersLike (fun state other => state = Prod.fst other)
      collaborator := Simulator.answersLike_timed clock
  have start : session.state = later.state.1 := rfl
  have passes : (runner.run host session scenario).toOption.any
      (fun run => decide (run.result = .ok () ∧ run.operated.size = 10)) = true := by
    dsimp +zetaDelta only
    decide +kernel
  have ends : ((runner.through collaborator).run host later scenario.unroll).toOption.any
      (fun _ => true) = true := by
    dsimp +zetaDelta only
    decide +kernel
  obtain ⟨run, ran, shown⟩ := any_toOption_iff.mp passes
  obtain ⟨unrolled, ranAgain, _⟩ := any_toOption_iff.mp ends
  obtain ⟨passed, size⟩ := of_decide_eq_true shown
  obtain ⟨unlooped, alike, _⟩ := run_alike_unroll answers start rfl rfl untimed
  exact ⟨untimed, unlooped, run, unrolled, ran, ranAgain, passed, size,
    alike run unrolled ran ranAgain⟩

end Runner

end PageMetadata
