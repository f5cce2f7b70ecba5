import Mathlib.Data.List.Induction
import PageMetadata.Proofs.Runner.Run

/-! # Actions and the steps they come from

Each action of a scenario is one occurrence of one of its steps: the path of its position leads to
that step, through iterations that the repetitions on the way have, and every such path is taken. The
actions that are begun are those up to the first one that fails.
-/

namespace PageMetadata

/-- The step of an index in an iteration of a repetition. -/
def Step.inner? (iteration index : Nat) : Step → Option Step
  | .loop iterations steps => if iteration < iterations.toNat then steps[index]? else none
  | _ => none

/-- The step at a position, if the path leads to one. -/
def Scenario.step? (scenario : Scenario) (position : Position) : Option Step :=
  position.nested.foldl (fun step (iteration, index) => step.bind (Step.inner? iteration index))
    scenario.steps[position.index]?

theorem Scenario.step?_within (scenario : Scenario) (position : Position)
    (iteration index : Nat) :
    scenario.step? (position.within iteration index) =
      (scenario.step? position).bind (Step.inner? iteration index) :=
  List.foldl_append

theorem Scenario.step?_within_eq_some_iff {scenario : Scenario} {position : Position}
    {iteration index : Nat} {step : Step} :
    scenario.step? (position.within iteration index) = some step ↔
      ∃ iterations steps, scenario.step? position = some (.loop iterations steps) ∧
        iteration < iterations.toNat ∧ steps[index]? = some step := by
  rw [step?_within, Option.bind_eq_some_iff]
  constructor
  · rintro ⟨repetition, located, inner⟩
    cases repetition with
    | loop iterations steps =>
      rw [Step.inner?] at inner
      split at inner
      · next entered => exact ⟨iterations, steps, located, entered, inner⟩
      · contradiction
    | _ => contradiction
  · rintro ⟨iterations, steps, located, entered, inner⟩
    exact ⟨_, located, (if_pos entered).trans inner⟩

namespace Action

def position : Action → Position
  | .call position _ _ _ => position
  | .read position _ _ => position
  | .lifecycle position _ _ => position

/-- What the action is an occurrence of. A read of one page is part of reading all pages. -/
def occurrence : Action → Occurrence
  | .call position _ _ _ => .ofPosition position
  | .read position _ page => ⟨position, some page⟩
  | .lifecycle position _ _ => .ofPosition position

/-- The step that the action performs, or is a part of. -/
def step : Action → Step
  | .call _ _ stepCall expectation => .call stepCall expectation
  | .read _ _ _ => .checkAllPages
  | .lifecycle _ page state => .assertLifecycle page state

/-- The action belongs to the step at its position, and reads no page that there is not. -/
structure Located (scenario : Scenario) (pageCount : Nat) (action : Action) : Prop where
  source : scenario.step? action.position = some action.step
  inside : ∀ position iteration page, action = .read position iteration page → page < pageCount

end Action

namespace Position

/-- The iteration of the innermost repetition around a position; the top level is in the first. -/
def iteration (position : Position) : Nat := (position.nested.getLast?.map Prod.fst).getD 0

@[simp] theorem iteration_top (index : Nat) : (top index).iteration = 0 := rfl

@[simp] theorem iteration_within (position : Position) (number index : Nat) :
    (position.within number index).iteration = number := by
  simp [iteration, within]

/-- A position is at the top level, or within the repetition at a position. -/
@[elab_as_elim] theorem induction {motive : Position → Prop}
    (top : ∀ index, motive (top index))
    (within : ∀ outer number index, motive outer → motive (within outer number index))
    (position : Position) : motive position := by
  obtain ⟨index, nested⟩ := position
  induction nested using List.reverseRecOn with
  | nil => exact top index
  | append_singleton outer entered ih => exact within ⟨index, outer⟩ entered.1 entered.2 ih

end Position

/-- The action is one of those that its step is performed by at some position, in the iteration of
that position. -/
def Action.Sourced (scenario : Scenario) (pageCount : Nat) (action : Action) : Prop :=
  ∃ position, scenario.step? position = some action.step ∧
    action ∈ action.step.actions pageCount position (.ofNat position.iteration)

section Sourced

variable {scenario : Scenario} {pageCount : Nat}

mutual

private theorem sourced_actions {position : Position} {iteration : UInt32}
    (current : iteration = .ofNat position.iteration) :
    (step : Step) → scenario.step? position = some step →
      ∀ action ∈ step.actions pageCount position iteration, action.Sourced scenario pageCount
  | .call stepCall expectation, source, action, listed => by
    have performed := listed
    rw [Step.actions, List.mem_singleton] at listed
    subst listed current
    exact ⟨position, source, performed⟩
  | .loop iterations steps, source, action, listed => by
    rw [Step.actions, List.mem_flatMap] at listed
    obtain ⟨number, entered, listed⟩ := listed
    rw [List.mem_range] at entered
    refine sourced_allActions (fun index => ?_) 0 steps (fun index => ?_) action listed
    · rw [Position.iteration_within]
    · rw [Scenario.step?_within, source, Nat.zero_add]
      exact if_pos entered
  | .checkAllPages, source, action, listed => by
    have performed := listed
    rw [Step.actions, List.mem_map] at listed
    obtain ⟨page, _, rfl⟩ := listed
    subst current
    exact ⟨position, source, performed⟩
  | .assertLifecycle page state, source, action, listed => by
    have performed := listed
    rw [Step.actions, List.mem_singleton] at listed
    subst listed current
    exact ⟨position, source, performed⟩

private theorem sourced_allActions {place : Nat → Position} {iteration : UInt32}
    (current : ∀ index, iteration = .ofNat (place index).iteration) (index : Nat) :
    (steps : List Step) → (∀ number, scenario.step? (place (index + number)) = steps[number]?) →
      ∀ action ∈ Step.allActions pageCount place index iteration steps,
        action.Sourced scenario pageCount
  | [], _, action, listed => by
    rw [Step.allActions] at listed
    cases listed
  | step :: steps, sources, action, listed => by
    rw [Step.allActions, List.mem_append] at listed
    rcases listed with here | later
    · exact sourced_actions (current index) step (sources 0) action here
    · refine sourced_allActions current (index + 1) steps ?_ action later
      intro number
      rw [Nat.add_assoc, Nat.add_comm 1, sources (number + 1), List.getElem?_cons_succ]

end

/-- The actions of one of several steps are among theirs. -/
theorem Step.actions_subset_allActions {steps : List Step} {number : Nat} {step : Step}
    (listed : steps[number]? = some step) (place : Nat → Position) (index : Nat)
    (iteration : UInt32) :
    step.actions pageCount (place (index + number)) iteration ⊆
      Step.allActions pageCount place index iteration steps := by
  induction steps generalizing index number with
  | nil => contradiction
  | cons first steps ih =>
    rw [Step.allActions]
    cases number with
    | zero =>
      cases listed
      exact List.subset_append_left ..
    | succ number =>
      have later := ih listed (index + 1)
      rw [Nat.add_assoc, Nat.add_comm 1] at later
      exact List.subset_append_of_subset_right _ later

/-- Every step that a path leads to is performed at its position. -/
theorem Scenario.actions_subset {position : Position} {step : Step}
    (source : scenario.step? position = some step) :
    step.actions pageCount position (.ofNat position.iteration) ⊆ scenario.actions pageCount := by
  induction position using Position.induction generalizing step with
  | top index =>
    have within : step.actions pageCount (.top (0 + index)) 0 ⊆ scenario.actions pageCount :=
      Step.actions_subset_allActions source .top 0 0
    rw [Nat.zero_add] at within
    exact within
  | within outer number index ih =>
    obtain ⟨iterations, steps, located, entered, inner⟩ := step?_within_eq_some_iff.mp source
    have within : step.actions pageCount (outer.within number (0 + index)) (.ofNat number) ⊆
        Step.allActions pageCount (outer.within number) 0 (.ofNat number) steps :=
      Step.actions_subset_allActions inner (outer.within number) 0 (.ofNat number)
    rw [Nat.zero_add] at within
    rw [Position.iteration_within]
    intro action listed
    apply ih located
    rw [Step.actions, List.mem_flatMap]
    exact ⟨number, List.mem_range.mpr entered, within listed⟩

/-- The actions of a scenario are those of the steps that its paths lead to. -/
theorem Scenario.mem_actions_iff {action : Action} :
    action ∈ scenario.actions pageCount ↔ action.Sourced scenario pageCount := by
  constructor
  · have current (index : Nat) : (0 : UInt32) = .ofNat (Position.top index).iteration := rfl
    exact sourced_allActions current 0 scenario.steps
      (fun number => by rw [Nat.zero_add]; rfl) action
  · rintro ⟨position, source, performed⟩
    exact actions_subset source performed

/-- The actions of a scenario are occurrences of its steps. -/
theorem Scenario.located_of_mem_actions {action : Action}
    (listed : action ∈ scenario.actions pageCount) : action.Located scenario pageCount := by
  obtain ⟨position, source, performed⟩ := mem_actions_iff.mp listed
  cases action with
  | call =>
    cases List.mem_singleton.mp performed
    exact ⟨source, nofun⟩
  | read =>
    obtain ⟨page, bound, same⟩ := List.mem_map.mp performed
    cases same
    refine ⟨source, ?_⟩
    rintro _ _ _ ⟨⟩
    exact List.mem_range.mp bound
  | lifecycle =>
    cases List.mem_singleton.mp performed
    exact ⟨source, nofun⟩

/-- The calls of a scenario are those that its paths lead to, each in the iteration of its path. -/
theorem Scenario.call_mem_actions_iff {position : Position} {iteration : UInt32}
    {stepCall : StepCall} {expectation : Expectation} :
    Action.call position iteration stepCall expectation ∈ scenario.actions pageCount ↔
      scenario.step? position = some (.call stepCall expectation) ∧
        iteration = .ofNat position.iteration := by
  rw [mem_actions_iff]
  constructor
  · rintro ⟨place, source, performed⟩
    cases List.mem_singleton.mp performed
    exact ⟨source, rfl⟩
  · rintro ⟨source, rfl⟩
    exact ⟨position, source, List.mem_singleton_self _⟩

/-- Iterations are counted in 32 bits. -/
theorem Scenario.iteration_lt_of_step? {position : Position} {step : Step}
    (source : scenario.step? position = some step) : position.iteration < UInt32.size := by
  induction position using Position.induction with
  | top index =>
    rw [Position.iteration_top]
    decide
  | within outer number index _ =>
    obtain ⟨iterations, _, _, entered, _⟩ := step?_within_eq_some_iff.mp source
    rw [Position.iteration_within]
    exact Nat.lt_trans entered iterations.toNat_lt

theorem Scenario.toNat_iteration_of_mem {position : Position} {iteration : UInt32}
    {stepCall : StepCall} {expectation : Expectation}
    (listed : .call position iteration stepCall expectation ∈ scenario.actions pageCount) :
    iteration.toNat = position.iteration := by
  obtain ⟨source, rfl⟩ := call_mem_actions_iff.mp listed
  exact UInt32.toNat_ofNat_of_lt' (iteration_lt_of_step? source)

/-- A step of a repetition is the same in its first iteration. -/
theorem Scenario.exists_first_of_step? {position : Position} {step : Step}
    (source : scenario.step? position = some step) :
    ∃ first : Position, first.iteration = 0 ∧ scenario.step? first = some step := by
  induction position using Position.induction with
  | top index => exact ⟨.top index, rfl, source⟩
  | within outer number index _ =>
    obtain ⟨iterations, steps, located, entered, inner⟩ := step?_within_eq_some_iff.mp source
    refine ⟨outer.within 0 index, outer.iteration_within 0 index, ?_⟩
    exact step?_within_eq_some_iff.mpr
      ⟨iterations, steps, located, Nat.zero_lt_of_lt entered, inner⟩

end Sourced

namespace Runner

variable {σ : Type}

/-- The actions that are begun: all up to the first one that fails. -/
def begun (runner : Runner σ) : List Action → Execution σ → List Action
  | [], _ => []
  | action :: actions, execution =>
    action :: match runner.perform execution action with
      | .error _ => []
      | .ok reached => runner.begun actions reached

/-- If actions fail, one of them does so after those before it have succeeded. -/
theorem exists_of_performAll_eq_error {runner : Runner σ} {actions : List Action}
    {execution : Execution σ} {interruption : Interruption σ}
    (failed : runner.performAll actions execution = .error interruption) :
    ∃ before action after middle, actions = before ++ action :: after ∧
      runner.performAll before execution = .ok middle ∧
      runner.perform middle action = .error interruption := by
  induction actions generalizing execution with
  | nil => contradiction
  | cons first actions ih =>
    rw [performAll_cons] at failed
    cases performed : runner.perform execution first with
    | error found =>
      rw [performed] at failed
      cases failed
      exact ⟨[], first, actions, execution, rfl, rfl, performed⟩
    | ok next =>
      rw [performed] at failed
      obtain ⟨before, action, after, middle, rfl, reached, stopped⟩ := ih failed
      refine ⟨first :: before, action, after, middle, rfl, ?_, stopped⟩
      rw [performAll_cons, performed]
      exact reached

end Runner

end PageMetadata
