import PageMetadata.Proofs.Region
import PageMetadata.Proofs.Runner.Call

/-! # Scenarios as lists of actions

Repetitions written out, and reads of all pages taken one by one, a scenario is a list of actions.
Performing its steps is performing these actions one after another, until one fails.
-/

namespace PageMetadata

/-- A single call of a step, the read of one page, or the comparison of one lifecycle. -/
inductive Action where
  | call (position : Position) (iteration : UInt32) (stepCall : StepCall)
    (expectation : Expectation)
  | read (position : Position) (iteration : UInt32) (page : Nat)
  | lifecycle (position : Position) (page : Nat) (state : Lifecycle)

mutual

/-- The actions of a step at its position, within an iteration, on a region of so many pages. -/
def Step.actions (pageCount : Nat) (position : Position) (iteration : UInt32) :
    Step → List Action
  | .call stepCall expectation => [.call position iteration stepCall expectation]
  | .loop iterations steps =>
    (List.range iterations.toNat).flatMap fun number =>
      Step.allActions pageCount (position.within number) 0 (.ofNat number) steps
  | .checkAllPages => (List.range pageCount).map (.read position iteration)
  | .assertLifecycle page state => [.lifecycle position page state]

/-- The actions of steps one after another; `place` is the position of the step of an index. -/
def Step.allActions (pageCount : Nat) (place : Nat → Position) (index : Nat)
    (iteration : UInt32) : List Step → List Action
  | [] => []
  | step :: steps =>
    Step.actions pageCount (place index) iteration step
      ++ Step.allActions pageCount place (index + 1) iteration steps

end

/-- The execution that was reached, whether it goes on or was interrupted. -/
def Progress.reached {σ : Type} : Except (Interruption σ) (Execution σ) → Execution σ
  | .ok execution => execution
  | .error interruption => interruption.execution

namespace Runner

variable {σ : Type}

/-- Performs one action. -/
def perform (runner : Runner σ) (execution : Execution σ) :
    Action → Except (Interruption σ) (Execution σ)
  | .call position iteration stepCall expectation =>
    runner.performCall (.ofPosition position) iteration stepCall expectation execution
  | .read position iteration page => runner.readPage position iteration page execution
  | .lifecycle position page state => checkLifecycle position page state execution

/-- Performs actions one after another, until one fails. -/
def performAll (runner : Runner σ) :
    List Action → Execution σ → Except (Interruption σ) (Execution σ)
  | [], execution => .ok execution
  | action :: actions, execution => do
    let reached ← runner.perform execution action
    runner.performAll actions reached

@[simp] theorem performAll_nil (runner : Runner σ) (execution : Execution σ) :
    runner.performAll [] execution = .ok execution := rfl

theorem performAll_cons (runner : Runner σ) (action : Action) (actions : List Action)
    (execution : Execution σ) :
    runner.performAll (action :: actions) execution =
      runner.perform execution action >>= runner.performAll actions := rfl

theorem performAll_append (runner : Runner σ) (actions later : List Action)
    (execution : Execution σ) :
    runner.performAll (actions ++ later) execution =
      runner.performAll actions execution >>= runner.performAll later := by
  induction actions generalizing execution with
  | nil => rfl
  | cons action actions ih =>
    rw [List.cons_append, performAll_cons, performAll_cons]
    cases runner.perform execution action with
    | error interruption => rfl
    | ok reached => exact ih reached

theorem performAll_singleton (runner : Runner σ) (action : Action) (execution : Execution σ) :
    runner.performAll [action] execution = runner.perform execution action := by
  rw [performAll_cons]
  cases runner.perform execution action <;> rfl

/-- Of actions that succeed each one does so after those before it. -/
theorem exists_perform_of_performAll {runner : Runner σ} {before after : List Action}
    {action : Action} {execution last : Execution σ}
    (performed : runner.performAll (before ++ action :: after) execution = .ok last) :
    ∃ reached next, runner.performAll before execution = .ok reached ∧
      runner.perform reached action = .ok next ∧ runner.performAll after next = .ok last := by
  rw [performAll_append] at performed
  obtain ⟨reached, earlier, performed⟩ := bind_eq_ok_iff.mp performed
  rw [performAll_cons] at performed
  obtain ⟨next, here, later⟩ := bind_eq_ok_iff.mp performed
  exact ⟨reached, next, earlier, here, later⟩

/-- What a successful action does: nothing to the session and the model, or one exchange at a page
of the region that makes a call which is answered as predicted. -/
inductive Advances (runner : Runner σ) (execution next : Execution σ) : Prop where
  | idle (session : next.session = execution.session) (model : next.model = execution.model)
  | exchange (call : Call) (payloadLength : Nat) (request : Request)
    (inside : call.address ∈ execution.region.pages)
    (requested : runner.client.request call payloadLength = .ok request)
    (answered : runner.client.interpret request
      (runner.client.exchange execution.session request).1 =
        .ok (execution.model.predict call).answer)
    (session : next.session = (runner.client.exchange execution.session request).2)
    (model : next.model = execution.model.after call)

/-- What an action does at most, whether it succeeds or not. -/
structure Touches (runner : Runner σ) (execution next : Execution σ) : Prop where
  region : next.region = execution.region
  session : next.session = execution.session ∨
    ∃ request, request.address ∈ execution.region.pages ∧
      next.session = (runner.client.exchange execution.session request).2
  model : next.model = execution.model ∨
    ∃ call, call.address ∈ execution.region.pages ∧ next.model = execution.model.after call

/-- A judgement changes at most the model. -/
theorem reached_conclude (execution : Execution σ) (judgement : Except Error Model) :
    (Progress.reached (conclude execution judgement)).session = execution.session ∧
      (Progress.reached (conclude execution judgement)).stage = execution.stage := by
  cases judgement <;> exact ⟨rfl, rfl⟩

theorem address_resolve (stepCall : StepCall) (address : Address) (iteration : UInt32) :
    (stepCall.resolve address iteration).address = address := by
  cases stepCall <;> rfl

private theorem advances_performCall {runner : Runner σ} {occurrence : Occurrence}
    {iteration : UInt32} {stepCall : StepCall} {expectation : Expectation}
    {execution next : Execution σ}
    (performed : runner.performCall occurrence iteration stepCall expectation execution =
      .ok next) :
    runner.Advances execution next := by
  obtain ⟨address, located, _, _, answered, _, rfl⟩ := performCall_eq_ok_iff.mp performed
  obtain ⟨request, requested, interpreted, session⟩ := Client.exists_request_of_call answered
  apply Advances.exchange (stepCall.resolve address iteration) _ request _ requested interpreted
    session rfl
  rw [address_resolve]
  exact Region.mem_pages_iff.mpr ⟨_, located⟩

private theorem touches_performCall (runner : Runner σ) (occurrence : Occurrence)
    (iteration : UInt32) (stepCall : StepCall) (expectation : Expectation)
    (execution : Execution σ) :
    runner.Touches execution
      (Progress.reached
        (runner.performCall occurrence iteration stepCall expectation execution)) := by
  cases located : execution.region.page? stepCall.page with
  | none =>
    simp only [performCall, located]
    exact ⟨rfl, .inl rfl, .inl rfl⟩
  | some address =>
    have inside : (stepCall.resolve address iteration).address ∈ execution.region.pages := by
      rw [address_resolve]
      exact Region.mem_pages_iff.mpr ⟨_, located⟩
    have exchanged :
        (runner.called iteration stepCall expectation execution address).2 = execution.session ∨
          ∃ request, Request.address request ∈ execution.region.pages ∧
            (runner.called iteration stepCall expectation execution address).2 =
              (runner.client.exchange execution.session request).2 := by
      apply (runner.client.session_of_call execution.session _ _).imp_right
      rintro ⟨request, same, next⟩
      exact ⟨request, same ▸ inside, next⟩
    rw [performCall_eq _ _ _ _ _ located]
    dsimp only
    split
    · exact ⟨rfl, .inl rfl, .inl rfl⟩
    · cases judged : runner.judge _ _ expectation iteration _ with
      | error error => exact ⟨rfl, exchanged, .inl rfl⟩
      | ok model =>
        obtain ⟨_, _, _, rfl⟩ := (judge_eq_ok_iff fun _ found => Client.isSome_of_call found).mp
          judged
        exact ⟨rfl, exchanged, .inr ⟨_, inside, rfl⟩⟩

theorem checkLifecycle_eq_ok_iff {position : Position} {page : Nat} {state : Lifecycle}
    {execution next : Execution σ} :
    checkLifecycle position page state execution = .ok next ↔
      ∃ address, execution.region.page? page = some address ∧
        execution.model.lifecycle address = state ∧
        { execution with stage := .lifecycle position page } = next := by
  simp only [checkLifecycle]
  cases execution.region.page? page with
  | none => simp
  | some address =>
    simp only [Option.some.injEq, exists_eq_left']
    split <;> simp [*]

theorem advances_perform {runner : Runner σ} {execution next : Execution σ} {action : Action}
    (performed : runner.perform execution action = .ok next) :
    runner.Advances execution next := by
  cases action with
  | call position iteration stepCall expectation => exact advances_performCall performed
  | read position iteration page => exact advances_performCall performed
  | lifecycle position page state =>
    obtain ⟨_, _, _, rfl⟩ := checkLifecycle_eq_ok_iff.mp performed
    exact .idle rfl rfl

theorem touches_perform (runner : Runner σ) (execution : Execution σ) (action : Action) :
    runner.Touches execution (Progress.reached (runner.perform execution action)) := by
  cases action with
  | call position iteration stepCall expectation =>
    exact runner.touches_performCall (.ofPosition position) iteration stepCall expectation execution
  | read position iteration page =>
    exact runner.touches_performCall ⟨position, some page⟩ iteration _ .model execution
  | lifecycle position page state =>
    simp only [perform, checkLifecycle]
    split
    · exact ⟨rfl, .inl rfl, .inl rfl⟩
    · split <;> exact ⟨rfl, .inl rfl, .inl rfl⟩

theorem region_perform {runner : Runner σ} {execution next : Execution σ} {action : Action}
    (performed : runner.perform execution action = .ok next) :
    next.region = execution.region := by
  have touches := runner.touches_perform execution action
  rw [performed] at touches
  exact touches.region

/-- An action that succeeds has found the region intact. -/
theorem intact_perform {runner : Runner σ} {execution next : Execution σ} {action : Action}
    (intact : runner.Intact execution.session.memory)
    (performed : runner.perform execution action = .ok next) :
    runner.Intact next.session.memory := by
  cases action with
  | call position iteration stepCall expectation =>
    obtain ⟨_, _, _, kept, _, _, rfl⟩ := performCall_eq_ok_iff.mp performed
    exact kept
  | read position iteration page =>
    obtain ⟨_, _, _, kept, _, _, rfl⟩ := performCall_eq_ok_iff.mp performed
    exact kept
  | lifecycle position page state =>
    obtain ⟨_, _, _, rfl⟩ := checkLifecycle_eq_ok_iff.mp performed
    exact intact

/-- What every successful action preserves holds after all of them. -/
theorem of_performAll {runner : Runner σ} (Holds : Execution σ → Prop)
    (kept : ∀ execution next, runner.Advances execution next → next.region = execution.region →
      Holds execution → Holds next)
    {actions : List Action} {execution next : Execution σ}
    (performed : runner.performAll actions execution = .ok next) (start : Holds execution) :
    Holds next := by
  induction actions generalizing execution with
  | nil =>
    cases performed
    exact start
  | cons action actions ih =>
    rw [performAll_cons] at performed
    obtain ⟨middle, first, rest⟩ := bind_eq_ok_iff.mp performed
    exact ih rest (kept _ _ (advances_perform first) (region_perform first) start)

/-- What every action preserves holds where the last one leads to, even if it fails. -/
theorem of_reached_performAll {runner : Runner σ} (Holds : Execution σ → Prop)
    (kept : ∀ execution next, runner.Touches execution next → Holds execution → Holds next)
    (actions : List Action) {execution : Execution σ} (start : Holds execution) :
    Holds (Progress.reached (runner.performAll actions execution)) := by
  induction actions generalizing execution with
  | nil => exact start
  | cons action actions ih =>
    have touches := runner.touches_perform execution action
    rw [performAll_cons]
    cases performed : runner.perform execution action with
    | error interruption =>
      rw [performed] at touches
      exact kept _ _ touches start
    | ok middle =>
      rw [performed] at touches
      exact ih (kept _ _ touches start)

theorem region_performAll {runner : Runner σ} {actions : List Action}
    {execution next : Execution σ} (performed : runner.performAll actions execution = .ok next) :
    next.region = execution.region :=
  of_performAll (fun reached => reached.region = execution.region)
    (fun _ _ _ same kept => same.trans kept) performed rfl

end Runner

/-- Iterating performs the actions of each number in turn. -/
private theorem iterate_eq_performAll {σ : Type} (runner : Runner σ) {pageCount : Nat}
    {body : Nat → Execution σ → Progress σ} {actions : Nat → List Action}
    (same : ∀ number execution, execution.region.pageCount = pageCount →
      body number execution = runner.performAll (actions number) execution) (count next : Nat)
    {execution : Execution σ} (sized : execution.region.pageCount = pageCount) :
    iterate body count next execution =
      runner.performAll ((List.range' next count).flatMap actions) execution := by
  induction count generalizing next execution with
  | zero => rfl
  | succ count ih =>
    rw [iterate, same next execution sized, List.range'_succ, List.flatMap_cons,
      Runner.performAll_append]
    cases performed : runner.performAll (actions next) execution with
    | error interruption => rfl
    | ok middle =>
      have kept := Runner.region_performAll performed
      exact ih (next + 1) (kept ▸ sized)

namespace Runner

variable {σ : Type}

mutual

private theorem performStep_eq (runner : Runner σ) {pageCount : Nat} (position : Position)
    (iteration : UInt32) :
    (step : Step) → {execution : Execution σ} → execution.region.pageCount = pageCount →
      runner.performStep position iteration step execution =
        runner.performAll (Step.actions pageCount position iteration step) execution
  | .call stepCall expectation, execution, _ => by
    rw [Step.actions, performAll_singleton, performStep]
    rfl
  | .loop iterations steps, execution, sized => by
    rw [Step.actions, performStep, List.range_eq_range']
    exact iterate_eq_performAll runner
      (fun number execution sized =>
        runner.performSteps_eq (position.within number) 0 (.ofNat number) steps sized)
      iterations.toNat 0 sized
  | .checkAllPages, execution, sized => by
    rw [Step.actions, performStep, sized, List.range_eq_range', List.map_eq_flatMap]
    exact iterate_eq_performAll runner
      (fun page execution _ =>
        (runner.performAll_singleton (.read position iteration page) execution).symm)
      pageCount 0 sized
  | .assertLifecycle page state, execution, _ => by
    rw [Step.actions, performAll_singleton, performStep]
    rfl

/-- Performing steps is performing their actions. -/
theorem performSteps_eq (runner : Runner σ) {pageCount : Nat} (place : Nat → Position)
    (index : Nat) (iteration : UInt32) :
    (steps : List Step) → {execution : Execution σ} → execution.region.pageCount = pageCount →
      runner.performSteps place index iteration steps execution =
        runner.performAll (Step.allActions pageCount place index iteration steps) execution
  | [], execution, _ => by
    rw [Step.allActions, performSteps, performAll_nil]
  | step :: steps, execution, sized => by
    rw [Step.allActions, performSteps, performAll_append,
      runner.performStep_eq (place index) iteration step sized]
    cases performed : runner.performAll (Step.actions pageCount (place index) iteration step)
      execution with
    | error interruption => rfl
    | ok middle =>
      have kept := region_performAll performed
      exact runner.performSteps_eq place (index + 1) iteration steps (kept ▸ sized)

end

end Runner

/-- The actions of a scenario on a region of so many pages. -/
def Scenario.actions (scenario : Scenario) (pageCount : Nat) : List Action :=
  Step.allActions pageCount .top 0 0 scenario.steps

end PageMetadata
