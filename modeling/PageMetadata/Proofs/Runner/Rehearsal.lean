import PageMetadata.Proofs.Runner.Assertion
import PageMetadata.Proofs.Runner.Run
import PageMetadata.Proofs.Simulator.Agreement
import PageMetadata.Proofs.Stats

/-! # Rehearsing a scenario

A rehearsal performs the actions of a scenario on the model alone: no collaborator answers, every
call ends as predicted. Against a simulator without faults a run passes exactly if the rehearsal
gets to the end and every operation whose times are asserted was called in it.
-/

namespace PageMetadata

/-- What the call sets, if it sets anything, has an encoding. -/
def Call.IsEncodable (layout : HeaderLayout) : Call → Prop
  | .set _ value => (value.encode layout).isOk = true
  | _ => True

instance (layout : HeaderLayout) (call : Call) : Decidable (call.IsEncodable layout) := by
  unfold Call.IsEncodable
  split <;> infer_instance

theorem Call.IsEncodable.exists_stored {layout : HeaderLayout} {call : Call}
    (encodable : call.IsEncodable layout) (address : Address) (value : MetadataValue)
    (set : call = .set address value) : ∃ stored, value.encode layout = .ok stored := by
  subst set
  cases encoded : value.encode layout with
  | error error => simp [IsEncodable, encoded] at encodable
  | ok stored => exact ⟨stored, rfl⟩

theorem Client.isEncodable_of_request {σ : Type} {client : Client σ} {call : Call}
    {payloadLength : Nat} {request : Request}
    (requested : client.request call payloadLength = .ok request) :
    call.IsEncodable client.layout := by
  cases call with
  | set address value =>
    obtain ⟨stored, encoded, _⟩ := map_eq_ok_iff.mp requested
    simp [Call.IsEncodable, encoded]
  | _ => trivial

/-- A read that may return the value that is required has room for the value that is held. -/
theorem Expectation.Accepts.room {expectation : Expectation} {model : Model} {call : Call}
    {iteration : UInt32} (accepted : expectation.Accepts (model.predict call) iteration) :
    model.HasRoom call (expectation.payloadLength model call.address iteration) := by
  rintro address metadata rfl held
  rw [Call.address, accepted.payloadLength_eq iteration]
  simp only [payloadLength, held]
  rfl

/-- The model, and the operations of the calls made on it. -/
structure Rehearsal where
  model : Model
  operations : List Operation

namespace Rehearsal

/-- Rehearses the call of a step: its page must lie in the region, it must set nothing without an
encoding, and the step must allow what the model predicts. -/
def call? (layout : HeaderLayout) (region : Region) (rehearsal : Rehearsal) (iteration : UInt32)
    (stepCall : StepCall) (expectation : Expectation) : Option Rehearsal := do
  let address ← region.page? stepCall.page
  let call := stepCall.resolve address iteration
  if call.IsEncodable layout ∧ expectation.Accepts (rehearsal.model.predict call) iteration then
    some ⟨rehearsal.model.after call, rehearsal.operations ++ [call.operation]⟩
  else none

/-- Rehearses one action. A page is read in the encoding of the value that the model holds. -/
def perform? (layout : HeaderLayout) (region : Region) (rehearsal : Rehearsal) :
    Action → Option Rehearsal
  | .call _ iteration stepCall expectation =>
    rehearsal.call? layout region iteration stepCall expectation
  | .read _ iteration page =>
    let encoding :=
      match (region.page? page).bind rehearsal.model.value? with
      | some value => value.encoding
      | none => .inline
    rehearsal.call? layout region iteration (.get page encoding) .model
  | .lifecycle _ page state => do
    let address ← region.page? page
    if rehearsal.model.lifecycle address = state then some rehearsal else none

end Rehearsal

/-- Rehearses the actions of a scenario on a model that holds nothing. -/
def Scenario.rehearse? (scenario : Scenario) (layout : HeaderLayout) (region : Region) :
    Option Rehearsal :=
  (scenario.actions region.pageCount).foldlM (Rehearsal.perform? layout region)
    ⟨.empty region.geometry scenario.contract, []⟩

/-- The rehearsal gets to the end, and every operation whose times must be available was called. -/
def Scenario.PassesRehearsal (scenario : Scenario) (layout : HeaderLayout) (region : Region) :
    Prop :=
  ∃ rehearsal, scenario.rehearse? layout region = some rehearsal ∧
    ∀ operation, .statsAvailable operation ∈ scenario.assertions →
      operation ∈ rehearsal.operations

namespace Simulator

/-- A run of a simulator's runner and a rehearsal got to the same point. -/
structure Rehearses {σ : Type} (view : σ → Simulator) (runner : Runner σ) (region : Region)
    (execution : Execution σ) (rehearsal : Rehearsal) : Prop where
  sameRegion : execution.region = region
  sameGeometry : rehearsal.model.geometry = region.geometry
  sameModel : execution.model = rehearsal.model
  intact : runner.Intact execution.session.memory
  agrees : Agrees (· ∈ region.pages.map region.geometry.tableOf) runner.client.layout
    (view execution.session.state) rehearsal.model
  counted : ∀ operation, (execution.session.stats.samples operation.name).length =
    rehearsal.operations.count operation

namespace Rehearses

variable {σ : Type} {view : σ → Simulator} {runner : Runner σ} {region : Region}
  {execution : Execution σ} {rehearsal : Rehearsal}

/-- An operation has times exactly if it was called. -/
theorem called (rehearses : Rehearses view runner region execution rehearsal)
    (operation : Operation) :
    execution.session.stats.samples operation.name ≠ [] ↔ operation ∈ rehearsal.operations := by
  rw [← List.length_pos_iff, rehearses.counted, List.count_pos_iff]

variable (drives : Drives view runner.client.collaborator)
  (standard : runner.client.classifier = .standard) (mapped : region.base ≠ .null)

include drives standard mapped

/-- The call of a step that the rehearsal allows is answered as predicted. -/
theorem answered (rehearses : Rehearses view runner region execution rehearsal)
    {iteration : UInt32} {stepCall : StepCall} {expectation : Expectation} {address : Address}
    (located : region.page? stepCall.page = some address)
    (encodable : (stepCall.resolve address iteration).IsEncodable runner.client.layout)
    (accepted : expectation.Accepts
      (execution.model.predict (stepCall.resolve address iteration)) iteration) :
    let called := runner.called iteration stepCall expectation execution address
    let call := stepCall.resolve address iteration
    called.1 = .ok (execution.model.predict call).answer ∧
      called.2.memory = execution.session.memory ∧
      Agrees (· ∈ region.pages.map region.geometry.tableOf) runner.client.layout
        (view called.2.state) (execution.model.after call) := by
  have page : address ∈ region.pages := Region.mem_pages_iff.mpr ⟨_, located⟩
  have sameAddress := Runner.address_resolve stepCall address iteration
  have room := accepted.room
  have agrees := rehearses.agrees
  rw [sameAddress] at room
  rw [← rehearses.sameModel] at agrees
  have nonnull : (stepCall.resolve address iteration).address ≠ .null := by
    rw [sameAddress]
    exact Region.ne_null_of_mem_pages mapped page
  have inside : execution.model.geometry.tableOf (stepCall.resolve address iteration).address ∈
      region.pages.map region.geometry.tableOf := by
    rw [sameAddress, rehearses.sameModel, rehearses.sameGeometry]
    exact List.mem_map_of_mem page
  exact agrees.call drives standard nonnull inside encodable.exists_stored room

/-- A call of a step that goes through is rehearsed. -/
theorem exists_call? (rehearses : Rehearses view runner region execution rehearsal)
    {occurrence : Occurrence} {iteration : UInt32} {stepCall : StepCall}
    {expectation : Expectation} {next : Execution σ}
    (performed : runner.performCall occurrence iteration stepCall expectation execution =
      .ok next) :
    ∃ after, rehearsal.call? runner.client.layout region iteration stepCall expectation =
        some after ∧ Rehearses view runner region next after := by
  obtain ⟨address, located, _, kept, answered, accepted, rfl⟩ :=
    Runner.performCall_eq_ok_iff.mp performed
  obtain ⟨request, requested, _, _⟩ := Client.exists_request_of_call answered
  have encodable := Client.isEncodable_of_request requested
  rw [rehearses.sameRegion] at located
  obtain ⟨_, _, agrees⟩ :=
    rehearses.answered drives standard mapped located encodable accepted
  obtain ⟨elapsed, samples⟩ := Client.samples_of_call answered
  have sameModel := rehearses.sameModel
  refine ⟨⟨rehearsal.model.after (stepCall.resolve address iteration),
    rehearsal.operations ++ [(stepCall.resolve address iteration).operation]⟩, ?_, ?_⟩
  · rw [sameModel] at accepted
    simp [Rehearsal.call?, located, encodable, accepted]
  · refine ⟨rehearses.sameRegion, ?_, ?_, kept, ?_, ?_⟩
    · rw [Model.geometry_after, rehearses.sameGeometry]
    · rw [sameModel]
    · rw [← sameModel]
      exact agrees
    · intro operation
      have before := rehearses.counted operation
      change ((runner.called iteration stepCall expectation execution address).2.stats.samples
        operation.name).length = _
      rw [Runner.called, samples, List.count_append, List.count_singleton, ← before]
      by_cases same : operation = (stepCall.resolve address iteration).operation
      · subst same
        simp
      · have other : operation.name ≠ (stepCall.resolve address iteration).operation.name :=
          fun equal => same (Operation.name_injective equal)
        simp [other, Ne.symm same]

/-- A call of a step that is rehearsed goes through. -/
theorem exists_performCall (rehearses : Rehearses view runner region execution rehearsal)
    (occurrence : Occurrence) {iteration : UInt32} {stepCall : StepCall}
    {expectation : Expectation} {after : Rehearsal}
    (rehearsed : rehearsal.call? runner.client.layout region iteration stepCall expectation =
      some after) :
    ∃ next, runner.performCall occurrence iteration stepCall expectation execution = .ok next := by
  obtain ⟨address, located, rehearsed⟩ := Option.bind_eq_some_iff.mp rehearsed
  dsimp only at rehearsed
  split at rehearsed
  · next allowed =>
    obtain ⟨encodable, accepted⟩ := allowed
    rw [← rehearses.sameModel] at accepted
    obtain ⟨answered, untouched, _⟩ :=
      rehearses.answered drives standard mapped located encodable accepted
    refine ⟨_, Runner.performCall_eq_ok_iff.mpr
      ⟨address, ?_, rehearses.intact, ?_, answered, accepted, rfl⟩⟩
    · rw [rehearses.sameRegion, located]
    · rw [untouched]
      exact rehearses.intact
  · contradiction

/-- An action that succeeds is rehearsed. -/
theorem exists_perform? (rehearses : Rehearses view runner region execution rehearsal)
    {action : Action} {next : Execution σ}
    (performed : runner.perform execution action = .ok next) :
    ∃ after, rehearsal.perform? runner.client.layout region action = some after ∧
      Rehearses view runner region next after := by
  cases action with
  | call position iteration stepCall expectation =>
    exact rehearses.exists_call? drives standard mapped performed
  | read position iteration page =>
    simp only [Runner.perform, Runner.readPage, rehearses.sameRegion, rehearses.sameModel]
      at performed
    exact rehearses.exists_call? drives standard mapped performed
  | lifecycle position page state =>
    obtain ⟨address, located, held, rfl⟩ := Runner.checkLifecycle_eq_ok_iff.mp performed
    rw [rehearses.sameRegion] at located
    rw [rehearses.sameModel] at held
    refine ⟨rehearsal, ?_, ?_⟩
    · simp [Rehearsal.perform?, located, held]
    · exact ⟨rehearses.sameRegion, rehearses.sameGeometry, rehearses.sameModel, rehearses.intact,
        rehearses.agrees, rehearses.counted⟩

/-- An action that is rehearsed succeeds. -/
theorem exists_perform (rehearses : Rehearses view runner region execution rehearsal)
    {action : Action} {after : Rehearsal}
    (rehearsed : rehearsal.perform? runner.client.layout region action = some after) :
    ∃ next, runner.perform execution action = .ok next := by
  cases action with
  | call position iteration stepCall expectation =>
    exact rehearses.exists_performCall drives standard mapped (.ofPosition position) rehearsed
  | read position iteration page =>
    simp only [Runner.perform, Runner.readPage, rehearses.sameRegion, rehearses.sameModel]
    exact rehearses.exists_performCall drives standard mapped ⟨position, some page⟩ rehearsed
  | lifecycle position page state =>
    obtain ⟨address, located, rehearsed⟩ := Option.bind_eq_some_iff.mp rehearsed
    split at rehearsed
    · next held =>
      refine ⟨_, Runner.checkLifecycle_eq_ok_iff.mpr ⟨address, ?_, ?_, rfl⟩⟩
      · rw [rehearses.sameRegion, located]
      · rw [rehearses.sameModel, held]
    · contradiction

theorem exists_performAll? (rehearses : Rehearses view runner region execution rehearsal)
    {actions : List Action} {next : Execution σ}
    (performed : runner.performAll actions execution = .ok next) :
    ∃ after, actions.foldlM (Rehearsal.perform? runner.client.layout region) rehearsal =
        some after ∧ Rehearses view runner region next after := by
  induction actions generalizing execution rehearsal with
  | nil =>
    cases performed
    exact ⟨rehearsal, rfl, rehearses⟩
  | cons action actions ih =>
    rw [Runner.performAll_cons] at performed
    obtain ⟨middle, first, rest⟩ := bind_eq_ok_iff.mp performed
    obtain ⟨between, rehearsed, rehearses⟩ :=
      rehearses.exists_perform? drives standard mapped first
    obtain ⟨after, later, rehearses⟩ := ih rehearses rest
    refine ⟨after, ?_, rehearses⟩
    rw [List.foldlM_cons, rehearsed]
    exact later

theorem exists_performAll (rehearses : Rehearses view runner region execution rehearsal)
    {actions : List Action} {after : Rehearsal}
    (rehearsed : actions.foldlM (Rehearsal.perform? runner.client.layout region) rehearsal =
      some after) :
    ∃ next, runner.performAll actions execution = .ok next := by
  induction actions generalizing execution rehearsal with
  | nil => exact ⟨execution, rfl⟩
  | cons action actions ih =>
    rw [List.foldlM_cons] at rehearsed
    obtain ⟨between, first, later⟩ := Option.bind_eq_some_iff.mp rehearsed
    obtain ⟨middle, performed⟩ := rehearses.exists_perform drives standard mapped first
    obtain ⟨same, again, rehearses⟩ :=
      rehearses.exists_perform? drives standard mapped performed
    obtain rfl : same = between := Option.some.inj (again.symm.trans first)
    obtain ⟨next, rest⟩ := ih rehearses later
    refine ⟨next, ?_⟩
    rw [Runner.performAll_cons, performed]
    exact rest

end Rehearses

section Setting

variable {σ : Type} {view : σ → Simulator} {runner : Runner σ} {config : SimulatorConfig}
  {initial : Simulator}

theorem Drives.memory_disableAll {client : Client σ} (drives : Drives view client.collaborator)
    (session : Session σ) (targets : List Address) :
    (Runner.disableAll client session targets).memory = session.memory := by
  induction targets generalizing session with
  | nil => rfl
  | cons target targets ih =>
    refine (ih _).trans ?_
    simp only [Client.disable, Client.exchange, drives.writes, Memory.writeAll, List.foldl_nil]

/-- Before the first step nothing was called and no table of the region is expanded. -/
theorem rehearses_setup (started : ofConfig? config = some initial)
    (faultless : config.faults = .none) (layout : runner.client.layout = config.headerLayout)
    (geometry : runner.geometry = initial.geometry) {scenario : Scenario}
    (contract : scenario.contract = config.contract) {host : Host} {region : Region}
    (acquired : runner.acquireRegion host scenario = .ok region) {session : Session σ}
    (reached : initial.Reaches (view session.state))
    (unexpanded : ∀ page ∈ region.pages, (view session.state).isExpanded page = false) :
    Rehearses view runner region (runner.setup host scenario region session.clearStats)
      ⟨.empty region.geometry scenario.contract, []⟩ := by
  have sameConfig : (view session.state).config = config := by
    rw [reached.config, config_of_ofConfig? started]
  have sameGeometry : (view session.state).geometry = region.geometry := by
    rw [reached.geometry, ← geometry, Runner.geometry_of_acquireRegion acquired]
  have forgets : initial.hasFault .stickyMetadata = false := by
    apply hasFault_eq_false _ _ (by decide)
    rw [config_of_ofConfig? started, faultless]
  have tidy : (view session.state).Tidy :=
    reached.tidy (fun address _ => stored?_of_ofConfig? started address) forgets
  have nothing : ∀ address,
      region.geometry.tableOf address ∈ region.pages.map region.geometry.tableOf →
        (view session.state).isExpanded address = false := by
    intro address inside
    obtain ⟨page, listed, same⟩ := List.mem_map.mp inside
    rw [← sameGeometry] at same
    rw [← isExpanded_congr same, unexpanded page listed]
  refine ⟨rfl, rfl, ?_, runner.intact_setup host scenario region _, ?_, ?_⟩
  · rw [Runner.geometry_of_acquireRegion acquired]
    rfl
  · rw [layout, contract, ← sameConfig, ← sameGeometry]
    apply agrees_of_unexpanded
    · rw [sameConfig, faultless]
    · rw [sameGeometry]
      exact fun address inside => tidy address (nothing address inside)
    · rw [sameGeometry]
      exact nothing
  · intro operation
    have allocation : operation.name ≠ "page_allocation" := by
      rcases operation with _ | _ | ⟨⟨⟩⟩ | ⟨⟨⟩⟩ <;> decide
    have stamp : operation.name ≠ "pattern_stamp" := by
      rcases operation with _ | _ | ⟨⟨⟩⟩ | ⟨⟨⟩⟩ <;> decide
    simp [Runner.setup, Session.record, Session.enter, Session.clearStats, Stats.samples_record,
      allocation, stamp]

/-- A run against a faultless simulator whose region the host takes back passes exactly if the
rehearsal does. It has a result unless the times of an operation are too long to be summed. -/
theorem passes_iff_passesRehearsal (drives : Drives view runner.client.collaborator)
    (standard : runner.client.classifier = .standard) (started : ofConfig? config = some initial)
    (faultless : config.faults = .none) (layout : runner.client.layout = config.headerLayout)
    (geometry : runner.geometry = initial.geometry) {scenario : Scenario}
    (contract : scenario.contract = config.contract)
    (untimed : ∀ operation, .expansionCostVisible operation ∉ scenario.assertions)
    {host : Host} {region : Region} (acquired : runner.acquireRegion host scenario = .ok region)
    (mapped : region.base ≠ .null) {session : Session σ}
    (reached : initial.Reaches (view session.state))
    (unexpanded : ∀ page ∈ region.pages, (view session.state).isExpanded page = false) :
    (∀ run, runner.run host session scenario = .ok run →
      (run.result = .ok () ↔
        scenario.PassesRehearsal runner.client.layout region ∧ runner.release host = .ok ())) ∧
    (∀ error, runner.run host session scenario = .error error → error = .durationSum ∧
      ∃ execution operation, runner.operate host session scenario region = .ok execution ∧
        .statsAvailable operation ∈ scenario.assertions ∧
        execution.session.stats.Overflows operation) := by
  have start : Rehearses view runner region
      (runner.setup host scenario region session.clearStats)
      ⟨.empty region.geometry scenario.contract, []⟩ :=
    rehearses_setup started faultless layout geometry contract acquired reached unexpanded
  constructor
  · intro run ran
    cases Runner.ended_of_run ran with
    | unplaced error refused failed session =>
      rw [acquired] at refused
      contradiction
    | interrupted place interruption found operated finished =>
      obtain rfl : region = place := Except.ok.inj (acquired.symm.trans found)
      have failed : run.result ≠ .ok () := by
        rw [finished]
        intro passed
        obtain ⟨succeeded, _⟩ := Runner.result_finish_eq_ok_iff.mp passed
        contradiction
      simp only [failed, false_iff]
      rintro ⟨⟨rehearsal, rehearsed, _⟩, _⟩
      obtain ⟨next, performed⟩ := start.exists_performAll drives standard mapped rehearsed
      have contrary := operated.symm.trans performed
      contradiction
    | completed place execution result found operated checked finished =>
      obtain rfl : region = place := Except.ok.inj (acquired.symm.trans found)
      obtain ⟨rehearsal, rehearsed, reached⟩ :=
        start.exists_performAll? drives standard mapped operated
      rw [Runner.checkAfterwards_eq scenario reached.intact] at checked
      have verdict := Runner.checkAssertions_eq_ok_iff untimed checked
      have untouched : runner.Intact (Runner.disableAll runner.client
          execution.leaving (Runner.teardownTargets execution false)).memory := by
        rw [drives.memory_disableAll]
        exact reached.intact
      rw [finished, Runner.result_finish_eq_ok_iff, and_iff_right untouched, verdict]
      apply and_congr_left
      intro _
      constructor
      · intro called
        refine ⟨rehearsal, rehearsed, ?_⟩
        intro operation asserted
        exact (reached.called operation).mp (called operation asserted)
      · rintro ⟨other, again, called⟩ operation asserted
        obtain rfl : rehearsal = other := Option.some.inj (rehearsed.symm.trans again)
        exact (reached.called operation).mpr (called operation asserted)
  · intro error failed
    obtain ⟨place, execution, found, operated, checked⟩ := Runner.exists_of_run_eq_error failed
    obtain rfl : region = place := Except.ok.inj (acquired.symm.trans found)
    obtain ⟨_, _, reached⟩ := start.exists_performAll? drives standard mapped operated
    rw [Runner.checkAfterwards_eq scenario reached.intact] at checked
    obtain ⟨sum, operation, asserted, long⟩ :=
      Runner.overflows_of_checkAssertions untimed checked
    exact ⟨sum, execution, operation, operated, asserted, long⟩

end Setting

/-- A sequence of values is written and read again, on a simulator that was used before. -/
theorem sequence_passes_iff_rehearsed :
    let config : SimulatorConfig := { SimulatorConfig.standard with pageSize := 8 }
    let geometry : PageGeometry := ⟨3, by decide, by decide⟩
    let runner : Runner Simulator :=
      ⟨⟨collaborator, .standard, config.headerLayout⟩, geometry, .lowByte, true⟩
    let host : Host := .placing ⟨0x1000⟩
    let region : Region := ⟨geometry, ⟨0x1000⟩, 1, by decide, by decide, by decide, by decide⟩
    let initial : Simulator := ⟨config, geometry, .empty⟩
    let state := ((initial.respond (.setInline ⟨0x1000⟩ 7)).2.respond (.disable ⟨0x1000⟩)).2
    let values : ValueSpec := .inlineSequence .scalar 5
    let scenario := ((Scenario.new "sequence" .standard).withSteps
      [.call (.get 0 .inline) (.failure .noData),
        .loop 3
          [.predicted (.set 0 values), .call (.get 0 .inline) (.value values)]]).withAssertions
      [.statsAvailable (.set .inline)]
    (∀ run, runner.run host (.start state .empty) scenario = .ok run →
      (run.result = .ok () ↔ scenario.PassesRehearsal config.headerLayout region ∧
        runner.release host = .ok ())) ∧
    (∀ error, runner.run host (.start state .empty) scenario = .error error →
      error = .durationSum ∧
        ∃ execution operation,
          runner.operate host (.start state .empty) scenario region = .ok execution ∧
          .statsAvailable operation ∈ scenario.assertions ∧
          execution.session.stats.Overflows operation) := by
  intro config geometry runner host region initial state values scenario
  have drives : Drives id runner.client.collaborator := drives_collaborator
  have started : ofConfig? config = some initial := by
    dsimp +zetaDelta only
    rfl
  have acquired : runner.acquireRegion host scenario = .ok region := by
    dsimp +zetaDelta only
    rfl
  have untimed : ∀ operation, .expansionCostVisible operation ∉ scenario.assertions := by
    intro operation asserted
    obtain same := List.mem_singleton.mp asserted
    contradiction
  have unexpanded : ∀ page ∈ region.pages, state.isExpanded page = false := by
    dsimp +zetaDelta only
    decide
  have reached : initial.Reaches state := (Reaches.refl.respond _).respond _
  exact passes_iff_passesRehearsal drives rfl started rfl rfl rfl rfl untimed acquired (by decide)
    reached unexpanded

end Simulator

end PageMetadata
