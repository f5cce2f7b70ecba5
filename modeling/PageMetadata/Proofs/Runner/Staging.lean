import PageMetadata.Proofs.Runner.StepText

/-! # The stages of a run

Every action sets the stage once, unless it is a call on a page outside of the region. No two
actions of a scenario are the same occurrence: the positions of two steps part at an index or at the
number of an iteration, and the reads of one step differ in the page. As the text of a stage names
its occurrence, a run sets no two stages with the same text.
-/

namespace PageMetadata

namespace Position

/-- The path to the inner position leads through the outer one. -/
def Encloses (outer inner : Position) : Prop :=
  ∃ further, inner = ⟨outer.index, outer.nested ++ further⟩

theorem Encloses.refl (position : Position) : position.Encloses position :=
  ⟨[], by rw [List.append_nil]⟩

theorem Encloses.of_within {outer inner : Position} {number index : Nat}
    (encloses : (outer.within number index).Encloses inner) : outer.Encloses inner := by
  obtain ⟨further, rfl⟩ := encloses
  exact ⟨(number, index) :: further, by simp [within]⟩

/-- A path takes one step of the scenario only. -/
theorem eq_of_top_encloses {index other : Nat} {inner : Position}
    (encloses : (top index).Encloses inner) (enclosesToo : (top other).Encloses inner) :
    index = other := by
  obtain ⟨further, rfl⟩ := encloses
  obtain ⟨furtherToo, same⟩ := enclosesToo
  exact (Position.mk.inj same).1

/-- A path enters a repetition in one iteration only, and takes one step of it. -/
theorem eq_of_within_encloses {outer inner : Position} {number index numberToo indexToo : Nat}
    (encloses : (outer.within number index).Encloses inner)
    (enclosesToo : (outer.within numberToo indexToo).Encloses inner) :
    number = numberToo ∧ index = indexToo := by
  obtain ⟨further, rfl⟩ := encloses
  obtain ⟨furtherToo, same⟩ := enclosesToo
  have entered := (Position.mk.inj same).2
  simp only [within, List.append_assoc] at entered
  exact Prod.mk.inj (List.cons.inj (List.append_cancel_left entered)).1

end Position

theorem Action.position_occurrence (action : Action) :
    action.occurrence.position = action.position := by
  cases action <;> rfl

section Apart

variable {pageCount : Nat}

mutual

private theorem encloses_actions {position : Position} {iteration : UInt32} :
    (step : Step) → ∀ action ∈ step.actions pageCount position iteration,
      position.Encloses action.position
  | .call stepCall expectation, action, listed => by
    rw [Step.actions, List.mem_singleton] at listed
    subst listed
    exact .refl position
  | .loop iterations steps, action, listed => by
    rw [Step.actions, List.mem_flatMap] at listed
    obtain ⟨number, _, listed⟩ := listed
    obtain ⟨index, _, encloses⟩ := encloses_allActions 0 steps action listed
    exact encloses.of_within
  | .checkAllPages, action, listed => by
    rw [Step.actions, List.mem_map] at listed
    obtain ⟨page, _, rfl⟩ := listed
    exact .refl position
  | .assertLifecycle page state, action, listed => by
    rw [Step.actions, List.mem_singleton] at listed
    subst listed
    exact .refl position

private theorem encloses_allActions {place : Nat → Position} {iteration : UInt32} (index : Nat) :
    (steps : List Step) →
      ∀ action ∈ Step.allActions pageCount place index iteration steps,
        ∃ number, index ≤ number ∧ (place number).Encloses action.position
  | [], action, listed => by
    rw [Step.allActions] at listed
    cases listed
  | step :: steps, action, listed => by
    rw [Step.allActions, List.mem_append] at listed
    rcases listed with here | later
    · exact ⟨index, Nat.le_refl index, encloses_actions step action here⟩
    · obtain ⟨number, behind, encloses⟩ := encloses_allActions (index + 1) steps action later
      exact ⟨number, Nat.le_of_succ_le behind, encloses⟩

end

/-- The two actions are not the same occurrence. -/
private def Action.Apart (first second : Action) : Prop := first.occurrence ≠ second.occurrence

/-- Actions at different positions are apart. -/
private theorem Action.apart_of_position {first second : Action}
    (differ : first.position ≠ second.position) : first.Apart second := by
  intro same
  apply differ
  rw [← first.position_occurrence, same, second.position_occurrence]

mutual

private theorem apart_actions {position : Position} {iteration : UInt32} :
    (step : Step) → (step.actions pageCount position iteration).Pairwise Action.Apart
  | .call stepCall expectation => by
    rw [Step.actions]
    exact List.pairwise_singleton ..
  | .loop iterations steps => by
    rw [Step.actions, List.pairwise_flatMap]
    -- Within an iteration positions part at the index, between iterations at their numbers.
    refine ⟨fun number _ => ?_, List.nodup_range.imp ?_⟩
    · apply apart_allActions _ 0 steps
      intro index indexToo inner encloses enclosesToo
      exact (Position.eq_of_within_encloses encloses enclosesToo).2
    · intro number numberToo differ first listed second listedToo
      apply Action.apart_of_position
      intro same
      obtain ⟨index, _, encloses⟩ := encloses_allActions 0 steps first listed
      obtain ⟨indexToo, _, enclosesToo⟩ := encloses_allActions 0 steps second listedToo
      rw [same] at encloses
      exact differ (Position.eq_of_within_encloses encloses enclosesToo).1
  | .checkAllPages => by
    rw [Step.actions, List.pairwise_map]
    apply List.nodup_range.imp
    intro page pageToo differ same
    exact differ (Option.some.inj (Occurrence.mk.inj same).2)
  | .assertLifecycle page state => by
    rw [Step.actions]
    exact List.pairwise_singleton ..

private theorem apart_allActions {place : Nat → Position} {iteration : UInt32}
    (parts : ∀ index other inner, (place index).Encloses inner → (place other).Encloses inner →
      index = other) (index : Nat) :
    (steps : List Step) →
      (Step.allActions pageCount place index iteration steps).Pairwise Action.Apart
  | [] => by
    rw [Step.allActions]
    exact .nil
  | step :: steps => by
    rw [Step.allActions, List.pairwise_append]
    refine ⟨apart_actions step, apart_allActions parts (index + 1) steps, ?_⟩
    intro first here second later
    apply Action.apart_of_position
    intro same
    have encloses := encloses_actions step first here
    obtain ⟨number, behind, enclosesToo⟩ := encloses_allActions (index + 1) steps second later
    rw [same] at encloses
    have sameIndex : index = number := parts index number _ encloses enclosesToo
    omega

end

/-- No occurrence comes twice among the actions of a scenario. -/
theorem Scenario.nodup_occurrences (scenario : Scenario) (pageCount : Nat) :
    ((scenario.actions pageCount).map Action.occurrence).Nodup :=
  List.pairwise_map.mpr
    (apart_allActions (fun _ _ _ => Position.eq_of_top_encloses) 0 scenario.steps)

end Apart

/-- A stage that was set, and the occurrence that set it. -/
structure Staged where
  occurrence : Occurrence
  stage : Stage
deriving DecidableEq

namespace Runner

variable {σ : Type}

/-- The stages that actions set, up to the first action that fails. A call outside of the region
sets none. -/
def stages (runner : Runner σ) : List Action → Execution σ → List Staged
  | [], _ => []
  | action :: actions, execution =>
    let progress := runner.perform execution action
    if action.Misses execution.region then []
    else ⟨action.occurrence, (Progress.reached progress).stage⟩ ::
      match progress with
      | .error _ => []
      | .ok reached => runner.stages actions reached

theorem begun_prefix (runner : Runner σ) (actions : List Action) (execution : Execution σ) :
    runner.begun actions execution <+: actions := by
  induction actions generalizing execution with
  | nil => exact List.prefix_refl _
  | cons action actions ih =>
    rw [begun, List.cons_prefix_cons]
    refine ⟨rfl, ?_⟩
    split
    · exact List.nil_prefix
    · next reached _ => exact ih reached

/-- The occurrences that set a stage are those of the actions that are begun, other than calls
outside of the region. -/
theorem map_occurrence_stages (runner : Runner σ) (actions : List Action)
    (execution : Execution σ) :
    (runner.stages actions execution).map Staged.occurrence =
      ((runner.begun actions execution).filter
        fun action => ¬ action.Misses execution.region).map Action.occurrence := by
  induction actions generalizing execution with
  | nil => rfl
  | cons action actions ih =>
    rw [stages, begun]
    by_cases misses : action.Misses execution.region
    · simp [misses, perform_of_misses misses]
    · cases performed : runner.perform execution action with
      | error interruption => simp [misses]
      | ok reached => simp [misses, ih reached, region_perform performed]

/-- Each stage names the occurrence that set it. -/
theorem names_of_mem_stages (runner : Runner σ) {scenario : Scenario} {actions : List Action}
    {execution : Execution σ}
    (located : ∀ action ∈ actions, action.Located scenario execution.region.pageCount) :
    ∀ set ∈ runner.stages actions execution, set.stage.Names set.occurrence := by
  induction actions generalizing execution with
  | nil => nofun
  | cons action actions ih =>
    rw [List.forall_mem_cons] at located
    rw [stages]
    split
    · nofun
    · next hits =>
      rw [List.forall_mem_cons]
      refine ⟨runner.names_perform located.1 hits, ?_⟩
      cases performed : runner.perform execution action with
      | error interruption => nofun
      | ok reached =>
        apply ih
        rw [region_perform performed]
        exact located.2

/-- The stage where the actions lead to is the last one that was set. -/
theorem stage_reached_performAll (runner : Runner σ) (actions : List Action)
    (execution : Execution σ) :
    (Progress.reached (runner.performAll actions execution)).stage =
      ((runner.stages actions execution).map Staged.stage).getLastD execution.stage := by
  induction actions generalizing execution with
  | nil => rfl
  | cons action actions ih =>
    rw [performAll_cons, stages]
    by_cases misses : action.Misses execution.region
    · rw [perform_of_misses misses, if_pos misses]
      rfl
    · rw [if_neg misses, List.map_cons, List.getLastD_cons]
      cases performed : runner.perform execution action with
      | error interruption => rfl
      | ok reached => exact ih reached

/-- The stages that the steps of a run set tell its occurrences apart: whatever the operations and
the pages, two different occurrences set stages with different texts. No occurrence sets a stage
twice, all that are begun set one, other than calls outside of the region, and where the steps end
the stage is the last one that was set. -/
theorem stage_texts_tell_occurrences (runner : Runner σ) (host : Host) (session : Session σ)
    (scenario : Scenario) (region : Region) :
    let start := runner.setup host scenario region session.clearStats
    let actions := scenario.actions region.pageCount
    let stages := runner.stages actions start
    (∀ first ∈ stages, ∀ second ∈ stages, first.occurrence ≠ second.occurrence →
      first.stage.text ≠ second.stage.text) ∧
    (stages.map Staged.occurrence).Nodup ∧
    stages.map Staged.occurrence =
      ((runner.begun actions start).filter fun action => ¬ action.Misses region).map
        Action.occurrence ∧
    (Progress.reached (runner.performSteps Position.top 0 0 scenario.steps start)).stage =
      (stages.map Staged.stage).getLastD .operate := by
  intro start actions stages
  have setting := runner.map_occurrence_stages actions start
  refine ⟨?_, ?_, setting, ?_⟩
  · intro first listed second listedToo differ same
    have names : ∀ set ∈ stages, set.stage.Names set.occurrence :=
      runner.names_of_mem_stages fun _ => Scenario.located_of_mem_actions
    exact differ ((names first listed).eq_of_text_eq (names second listedToo) same)
  · rw [setting]
    refine List.Nodup.sublist (List.Sublist.map _ ?_) (scenario.nodup_occurrences region.pageCount)
    exact List.filter_sublist.trans (runner.begun_prefix actions start).sublist
  · rw [performSteps_eq_operate]
    exact runner.stage_reached_performAll actions start

/-- A page is read in the last iteration of an inner repetition, in each iteration of the outer
one. -/
theorem nested_reads_told_apart :
    let geometry : PageGeometry := ⟨3, by decide, by decide⟩
    let runner : Runner Simulator :=
      ⟨⟨Simulator.collaborator, .standard, .compact⟩, geometry, .lowByte, true⟩
    let host : Host := .placing ⟨0x1000⟩
    let session : Session Simulator := .start ⟨.standard, geometry, .empty⟩ .empty
    let scenario := (Scenario.new "nested" .standard).withSteps
      [.loop 2 [.predicted (.enable 0), .loop 11 [.checkAllPages], .predicted (.disable 0)]]
    let region : Region := ⟨geometry, ⟨0x1000⟩, 1, by decide, by decide, by decide, by decide⟩
    let read (outer : Nat) : Occurrence := ⟨((Position.top 0).within outer 1).within 10 0, some 0⟩
    let set (outer : Nat) : Staged := ⟨read outer, .call (read outer) (.get .inline) 0⟩
    let stages := runner.stages (scenario.actions region.pageCount)
      (runner.setup host scenario region session.clearStats)
    set 0 ∈ stages ∧ set 1 ∈ stages ∧ (set 0).occurrence ≠ (set 1).occurrence ∧
      (set 0).stage.text = "step 1[0].2[10].1 (page 0): get_pte_meta mdp=0 page 0" ∧
      (set 0).stage.text ≠ (set 1).stage.text := by
  intro geometry runner host session scenario region read set stages
  have listed : set 0 ∈ stages ∧ set 1 ∈ stages := by
    dsimp +zetaDelta only
    decide +kernel
  have differ : (set 0).occurrence ≠ (set 1).occurrence := by
    dsimp +zetaDelta only
    decide
  have named : (set 0).stage.text = "step 1[0].2[10].1 (page 0): get_pte_meta mdp=0 page 0" := by
    dsimp +zetaDelta only
    decide
  obtain ⟨apart, _⟩ := stage_texts_tell_occurrences runner host session scenario region
  exact ⟨listed.1, listed.2, differ, named,
    apart (set 0) listed.1 (set 1) listed.2 differ⟩

end Runner

end PageMetadata
