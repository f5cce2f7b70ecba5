import PageMetadata.Proofs.Runner.Occurrence
import PageMetadata.Simulator.Basic

/-! # Which step a failure is blamed on

A call sets the stage before anything of it can fail, and so does the comparison of a lifecycle, so
whatever goes wrong is reported under the position of the step that went wrong. The one exception is
a call on a page outside of the region: its page is looked up before the stage is set, and the
failure is reported under the step that was performed before.
-/

namespace PageMetadata

/-- The text of the stage begins with that of the occurrence, up to the colon after it. -/
def Stage.Names (stage : Stage) (occurrence : Occurrence) : Prop :=
  ∃ rest, stage.text = occurrence.text ++ ": " ++ rest

theorem Stage.Names.of_call (occurrence : Occurrence) (operation : Operation) (page : Nat) :
    (Stage.call occurrence operation page).Names occurrence :=
  ⟨operation.name ++ (" page " ++ toString page), by simp only [text, String.append_assoc]⟩

theorem Stage.Names.of_lifecycle (position : Position) (page : Nat) :
    (Stage.lifecycle position page).Names (.ofPosition position) :=
  ⟨"lifecycle of page " ++ toString page, by
    have prompt : (": lifecycle of page " : String) = ": " ++ "lifecycle of page " := by decide
    simp only [text, prompt, String.append_assoc]
    rfl⟩

/-- The action is the call of a step on a page outside of the region. -/
def Action.Misses (region : Region) : Action → Prop
  | .call _ _ stepCall _ => region.page? stepCall.page = none
  | _ => False

instance (region : Region) (action : Action) : Decidable (action.Misses region) := by
  unfold Action.Misses
  split <;> infer_instance

namespace Runner

variable {σ : Type} {runner : Runner σ} {scenario : Scenario} {execution next : Execution σ}
  {action : Action}

/-- A call on a page of the region sets the stage, however it ends. -/
private theorem names_performCall (runner : Runner σ) (occurrence : Occurrence)
    (iteration : UInt32) {stepCall : StepCall} (expectation : Expectation) {address : Address}
    (inside : execution.region.page? stepCall.page = some address) :
    (Progress.reached (runner.performCall occurrence iteration stepCall expectation
      execution)).stage.Names occurrence := by
  rw [performCall_eq _ _ _ _ _ inside]
  dsimp only
  split
  · exact .of_call occurrence _ _
  · rw [(reached_conclude _ _).2]
    exact .of_call occurrence _ _

theorem names_perform (runner : Runner σ)
    (located : action.Located scenario execution.region.pageCount)
    (hits : ¬ action.Misses execution.region) :
    (Progress.reached (runner.perform execution action)).stage.Names action.occurrence := by
  cases action with
  | call position iteration stepCall expectation =>
    obtain ⟨address, inside⟩ := Option.ne_none_iff_exists'.mp hits
    exact runner.names_performCall (.ofPosition position) iteration expectation inside
  | read position iteration page =>
    have inside := Region.page?_eq_some_iff.mpr ⟨located.inside position iteration page rfl, rfl⟩
    exact runner.names_performCall ⟨position, some page⟩ iteration .model inside
  | lifecycle position page state =>
    simp only [perform, checkLifecycle]
    split
    · exact .of_lifecycle position page
    · split <;> exact .of_lifecycle position page

/-- A call outside of the region fails and leaves the stage as it was. -/
theorem perform_of_misses (misses : action.Misses execution.region) :
    runner.perform execution action = .error ⟨.pageOutsideRegion, execution⟩ := by
  cases action with
  | call position iteration stepCall expectation =>
    have outside : execution.region.page? stepCall.page = none := misses
    simp only [perform, performCall, outside]
  | read position iteration page => exact misses.elim
  | lifecycle position page state => exact misses.elim

/-- Once an action has succeeded the stage names it. -/
theorem names_of_perform (located : action.Located scenario execution.region.pageCount)
    (performed : runner.perform execution action = .ok next) :
    next.stage.Names action.occurrence := by
  have hits : ¬ action.Misses execution.region := by
    intro misses
    rw [perform_of_misses misses] at performed
    contradiction
  have named := runner.names_perform located hits
  rw [performed] at named
  exact named

/-- After actions that succeeded the stage names the last of them. -/
theorem names_of_performAll {actions : List Action} {last : Action}
    (located : last.Located scenario execution.region.pageCount)
    (performed : runner.performAll (actions ++ [last]) execution = .ok next) :
    next.stage.Names last.occurrence := by
  rw [performAll_append] at performed
  obtain ⟨middle, earlier, final⟩ := bind_eq_ok_iff.mp performed
  rw [performAll_singleton] at final
  rw [← region_performAll earlier] at located
  exact names_of_perform located final

/-- If the steps fail, one occurrence of a step fails after those before it have succeeded, and the
failure is reported under its position: unless it is a call on a page outside of the region, which
is reported under the occurrence before it, or, if there is none, under no step at all. -/
theorem failure_names_step {host : Host} {session : Session σ} {region : Region}
    {interruption : Interruption σ}
    (acquired : runner.acquireRegion host scenario = .ok region)
    (interrupted : runner.operate host session scenario region = .error interruption) :
    ∃ run failure before action after reached,
      runner.run host session scenario = .ok run ∧ run.result = .error failure ∧
      failure.error = interruption.error ∧
      scenario.actions region.pageCount = before ++ action :: after ∧
      scenario.step? action.position = some action.step ∧
      runner.performAll before (runner.setup host scenario region session.clearStats) =
        .ok reached ∧
      runner.perform reached action = .error interruption ∧
      (¬ action.Misses region → failure.stage.Names action.occurrence) ∧
      (action.Misses region → failure.error = .pageOutsideRegion ∧
        match before.getLast? with
        | none => failure.stage = .operate
        | some last => failure.stage.Names last.occurrence) := by
  obtain ⟨before, action, after, reached, split, performed, failed⟩ :=
    exists_of_performAll_eq_error interrupted
  have sameRegion : reached.region = region := region_performAll performed
  have located : ∀ other ∈ before ++ action :: after, other.Located scenario region.pageCount := by
    intro other listed
    exact Scenario.located_of_mem_actions (split ▸ listed)
  have here := located action (by simp)
  have ran := run_eq_finish host session acquired
  rw [tested, interrupted] at ran
  refine ⟨_, ⟨interruption.execution.stage, interruption.error⟩, before, action, after, reached, ran,
    rfl, rfl, split, here.source, performed, failed, ?_, ?_⟩
  · intro hits
    rw [← sameRegion] at here hits
    have named := runner.names_perform here hits
    rw [failed] at named
    exact named
  · intro misses
    rw [← sameRegion] at misses
    rw [perform_of_misses misses] at failed
    cases failed
    refine ⟨rfl, ?_⟩
    rcases List.eq_nil_or_concat before with rfl | ⟨earlier, last, rfl⟩
    · cases performed
      rfl
    · rw [List.concat_eq_append] at performed located ⊢
      rw [List.getLast?_concat]
      exact names_of_performAll (located last (by simp)) performed

/-- In its second iteration a repetition reads another value than the one that it requires. -/
theorem wrong_value_names_step :
    let geometry : PageGeometry := ⟨3, by decide, by decide⟩
    let runner : Runner Simulator :=
      ⟨⟨Simulator.collaborator, .standard, .compact⟩, geometry, .lowByte, true⟩
    let host : Host := .placing ⟨0x1000⟩
    let session : Session Simulator := .start ⟨.standard, geometry, .empty⟩ .empty
    let scenario := (Scenario.new "wrong value" .standard).withSteps
      [.predicted (.enable 0),
        .loop 2 [.predicted (.set 0 (.inlineSequence .scalar 0)),
          .call (.get 0 .inline) (.value (.fixed (.inline ⟨.scalar, 0⟩)))]]
    let region : Region := ⟨geometry, ⟨0x1000⟩, 1, by decide, by decide, by decide, by decide⟩
    runner.acquireRegion host scenario = .ok region ∧
      ∃ interruption, runner.operate host session scenario region = .error interruption ∧
        interruption.error ≠ .pageOutsideRegion ∧
        ∃ run failure, ∃ action : Action, runner.run host session scenario = .ok run ∧
          run.result = .error failure ∧ failure.error = interruption.error ∧
          scenario.step? action.position = some action.step ∧
          failure.stage.Names action.occurrence := by
  intro geometry runner host session scenario region
  have acquired : runner.acquireRegion host scenario = .ok region := by
    dsimp +zetaDelta only
    rfl
  obtain ⟨interruption, interrupted, other⟩ : ∃ interruption,
      runner.operate host session scenario region = .error interruption ∧
        interruption.error ≠ .pageOutsideRegion := by
    dsimp +zetaDelta only
    exact ⟨_, rfl, by decide⟩
  obtain ⟨run, failure, before, action, after, reached, ran, failed, error, _, source, _, _, named,
    outside⟩ := failure_names_step acquired interrupted
  have hits : ¬ action.Misses region := fun misses => other (error ▸ (outside misses).1)
  exact ⟨acquired, interruption, interrupted, other, run, failure, action, ran, failed, error,
    source, named hits⟩

/-- The second step reads a page that there is not, and the failure is reported under the first
one. -/
theorem outside_page_names_step_before :
    let geometry : PageGeometry := ⟨3, by decide, by decide⟩
    let runner : Runner Simulator :=
      ⟨⟨Simulator.collaborator, .standard, .compact⟩, geometry, .lowByte, true⟩
    let host : Host := .placing ⟨0x1000⟩
    let session : Session Simulator := .start ⟨.standard, geometry, .empty⟩ .empty
    let scenario := (Scenario.new "outside" .standard).withSteps
      [.predicted (.enable 0), .predicted (.get 1 .inline)]
    let region : Region := ⟨geometry, ⟨0x1000⟩, 1, by decide, by decide, by decide, by decide⟩
    let reading : Action := .call (.top 1) 0 (.get 1 .inline) .model
    runner.acquireRegion host scenario = .ok region ∧
      scenario.actions region.pageCount = [.call (.top 0) 0 (.enable 0) .model, reading] ∧
      reading.occurrence.text = "step 2" ∧
      ∃ reached interruption run failure,
        runner.performAll [.call (.top 0) 0 (.enable 0) .model]
          (runner.setup host scenario region session.clearStats) = .ok reached ∧
        runner.perform reached reading = .error interruption ∧
        runner.run host session scenario = .ok run ∧ run.result = .error failure ∧
        failure.error = interruption.error ∧
        failure.stage.text = "step 1: enable_pte_meta page 0" ∧
        ¬ ∃ rest, failure.stage.text = reading.occurrence.text ++ rest := by
  intro geometry runner host session scenario region reading
  have named : reading.occurrence.text = "step 2" := by decide
  obtain ⟨reached, interruption, run, failure, performed, stopped, ran, failed, error, stage⟩ :
      ∃ reached interruption run failure,
        runner.performAll [.call (.top 0) 0 (.enable 0) .model]
          (runner.setup host scenario region session.clearStats) = .ok reached ∧
        runner.perform reached reading = .error interruption ∧
        runner.run host session scenario = .ok run ∧ run.result = .error failure ∧
        failure.error = interruption.error ∧
        failure.stage.text = "step 1: enable_pte_meta page 0" := by
    dsimp +zetaDelta only
    exact ⟨_, _, _, _, rfl, rfl, rfl, rfl, rfl, by decide⟩
  refine ⟨?_, ?_, named, reached, interruption, run, failure, performed, stopped, ran, failed,
    error, stage, ?_⟩
  · dsimp +zetaDelta only
    rfl
  · rfl
  · rintro ⟨rest, same⟩
    rw [stage, named] at same
    have characters := congrArg (fun text => text.toList.take 6) same
    simp at characters

end Runner

end PageMetadata
