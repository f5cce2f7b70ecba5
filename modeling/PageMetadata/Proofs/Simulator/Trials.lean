import PageMetadata.Proofs.Runner.TableView

/-! # What a run that passes says of the simulator

Whatever faults the simulator has and whichever contract and layout it follows: if a run gets
through its steps, the rehearsal of its scenario gets through them as well, and the simulator has
answered every call as predicted.
-/

namespace PageMetadata

/-- The call on a region, without any iteration. -/
def StepCall.callOn (stepCall : StepCall) (region : Region) : Call :=
  stepCall.resolve (region.addressOf stepCall.page) 0

theorem StepCall.callOn_settle (stepCall : StepCall) (iteration : UInt32) (region : Region) :
    (stepCall.settle iteration).callOn region =
      stepCall.resolve (region.addressOf stepCall.page) iteration := by
  rw [callOn, page_settle, resolve_settle]

namespace Simulator

variable {σ : Type}

/-- The simulator answers the calls of the trials as predicted, one after another, and then is in
its last state. -/
inductive Honours (client : Client σ) (region : Region) :
    Simulator → List Trial → Simulator → Prop
  | nil (simulator : Simulator) : Honours client region simulator [] simulator
  | cons {simulator last : Simulator} {trial : Trial} {trials : List Trial} {payloadLength : Nat}
    {request : Request}
    (requested : client.request (trial.call.callOn region) payloadLength = .ok request)
    (answered : client.interpret request (simulator.outcome request) =
      .ok trial.prediction.answer)
    (rest : Honours client region (simulator.respond request).2 trials last) :
    Honours client region simulator (trial :: trials) last

namespace Honours

variable {client : Client σ} {region : Region} {simulator last : Simulator} {page : Nat}
  {prediction : Prediction} {trials : List Trial}

theorem append {middle : Simulator} {later : List Trial}
    (first : Honours client region simulator trials middle)
    (second : Honours client region middle later last) :
    Honours client region simulator (trials ++ later) last := by
  induction first with
  | nil => exact second
  | cons requested answered _ ih => exact .cons requested answered (ih second)

/-- A call succeeds exactly if it is predicted to. -/
theorem step {trial : Trial} (honours : Honours client region simulator (trial :: trials) last) :
    ∃ payloadLength request,
      client.request (trial.call.callOn region) payloadLength = .ok request ∧
      client.interpret request (simulator.outcome request) = .ok trial.prediction.answer ∧
      (simulator.respond request).1.result.isOk =
        decide (trial.prediction.outcome = .success) ∧
      Honours client region (simulator.respond request).2 trials last := by
  cases honours with
  | cons requested answered rest =>
    exact ⟨_, _, requested, answered, isOk_respond_of_interpret answered, rest⟩

end Honours

variable {view : σ → Simulator} {runner : Runner σ}
  (drives : Drives view runner.client.collaborator)
  (standard : runner.client.classifier = .standard)

include drives standard

/-- The call of a step that goes through is rehearsed, and the simulator honours it. -/
private theorem honours_performCall {occurrence : Occurrence} {iteration : UInt32}
    {stepCall : StepCall} {expectation : Expectation} {execution next : Execution σ}
    {table : TableView} (inOneTable : execution.region.InOneTable)
    (shows : table.Shows execution.region execution.model)
    (performed : runner.performCall occurrence iteration stepCall expectation execution =
      .ok next) :
    ∃ trials after,
      table.call? runner.client.layout execution.region.pageCount iteration stepCall
        expectation = some (trials, after) ∧
      after.Shows execution.region next.model ∧
      Honours runner.client execution.region (view execution.session.state) trials
        (view next.session.state) := by
  obtain ⟨address, located, _, _, answered, accepted, rfl⟩ :=
    Runner.performCall_eq_ok_iff.mp performed
  obtain ⟨inside, rfl⟩ := Region.page?_eq_some_iff.mp located
  obtain ⟨request, requested, interpreted, session⟩ := Client.exists_request_of_call answered
  obtain ⟨outcome, _, state⟩ := drives.exchange standard execution.session request
  have predicted := shows.predict inside iteration
  rw [outcome, predicted] at interpreted
  rw [predicted] at accepted
  refine ⟨_, _, TableView.call?_eq_some_iff.mpr ⟨⟨inside, ?_, accepted⟩, rfl, rfl⟩,
    shows.after inOneTable inside iteration, ?_⟩
  · exact StepCall.isEncodable_resolve.mp (Client.isEncodable_of_request requested)
  · change Honours _ _ _ _
      (view (runner.called iteration stepCall expectation execution _).2.state)
    rw [Runner.called, session, state]
    rw [← StepCall.callOn_settle] at requested
    exact .cons requested interpreted (.nil _)

theorem honours_perform {action : Action} {execution next : Execution σ}
    {table : TableView} (inOneTable : execution.region.InOneTable)
    (shows : table.Shows execution.region execution.model)
    (performed : runner.perform execution action = .ok next) :
    ∃ trials after,
      table.perform? runner.client.layout execution.region.pageCount action =
        some (trials, after) ∧
      after.Shows execution.region next.model ∧
      Honours runner.client execution.region (view execution.session.state) trials
        (view next.session.state) := by
  cases action with
  | call position iteration stepCall expectation =>
    exact honours_performCall drives standard inOneTable shows performed
  | read position iteration page =>
    have inside : page < execution.region.pageCount := by
      obtain ⟨_, located, _⟩ := Runner.performCall_eq_ok_iff.mp performed
      exact (Region.page?_eq_some_iff.mp located).1
    rw [Runner.perform, Runner.readPage, shows.held inside] at performed
    exact honours_performCall drives standard inOneTable shows performed
  | lifecycle position page state =>
    obtain ⟨_, located, held, rfl⟩ := Runner.checkLifecycle_eq_ok_iff.mp performed
    obtain ⟨inside, rfl⟩ := Region.page?_eq_some_iff.mp located
    rw [shows.lifecycle page inside] at held
    exact ⟨[], table, if_pos ⟨inside, held⟩, shows, .nil _⟩

theorem honours_performAll {actions : List Action} {execution next : Execution σ}
    {table : TableView} (inOneTable : execution.region.InOneTable)
    (shows : table.Shows execution.region execution.model)
    (performed : runner.performAll actions execution = .ok next) :
    ∃ trials after,
      table.rehearse? runner.client.layout execution.region.pageCount actions =
        some (trials, after) ∧
      Honours runner.client execution.region (view execution.session.state) trials
        (view next.session.state) := by
  induction actions generalizing execution table with
  | nil =>
    cases performed
    exact ⟨[], table, rfl, .nil _⟩
  | cons action actions ih =>
    rw [Runner.performAll_cons] at performed
    obtain ⟨middle, first, rest⟩ := bind_eq_ok_iff.mp performed
    obtain ⟨trials, between, rehearsed, shows, honours⟩ :=
      honours_perform drives standard inOneTable shows first
    have region := Runner.region_perform first
    rw [← region] at inOneTable shows
    obtain ⟨later, after, remaining, continued⟩ := ih inOneTable shows rest
    rw [region] at remaining continued
    refine ⟨trials ++ later, after, ?_, honours.append continued⟩
    simp only [TableView.rehearse?, rehearsed, remaining, Option.bind_eq_bind, Option.bind_some,
      Option.pure_def]

/-- A run that passes is rehearsed, and the simulator honours the rehearsal. -/
theorem honours_of_passed {host : Host} {session : Session σ} {scenario : Scenario}
    (placed : scenario.oneTable = true ∨ scenario.pages = 1) {run : Run σ}
    (ran : runner.run host session scenario = .ok run) (passed : run.result = .ok ()) :
    ∃ region trials last, runner.acquireRegion host scenario = .ok region ∧
      scenario.trials? runner.client.layout = some trials ∧
      Honours runner.client region (view session.state) trials last := by
  obtain ⟨region, execution, acquired, operated, _, _⟩ :=
    Runner.exists_execution_of_passed ran passed
  have filled := Runner.fills_of_acquireRegion acquired
  have inOneTable := Runner.inOneTable_of_acquireRegion acquired placed
  have shows : (TableView.blank scenario.contract).Shows region
      (runner.setup host scenario region session.clearStats).model := by
    have blank := TableView.shows_blank region scenario.contract
    rwa [filled.geometry] at blank
  obtain ⟨trials, after, rehearsed, honours⟩ :=
    honours_performAll drives standard inOneTable shows operated
  refine ⟨region, trials, _, acquired, ?_, honours⟩
  change TableView.rehearse? _ region.pageCount _ (scenario.actions region.pageCount) = _
    at rehearsed
  rw [filled.pageCount] at rehearsed
  rw [Scenario.trials?, rehearsed]
  rfl

end Simulator

end PageMetadata
