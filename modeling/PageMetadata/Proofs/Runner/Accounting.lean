import Mathlib.Data.List.Forall2
import PageMetadata.Proofs.Runner.Corruption
import PageMetadata.Proofs.Runner.Occurrence
import PageMetadata.Proofs.Runner.Rehearsal
import PageMetadata.Proofs.Stats

/-! # What a run has in its statistics

The statistics of a run are those of its setup and of the requests of its steps, however the steps
end: an action makes its one request once its page lies in the region and what it sets has an
encoding, and what comes back is of no account. What was recorded before the run is not among them,
teardown is not, and nothing is left for the run after it.
-/

namespace PageMetadata

theorem Client.exists_request {σ : Type} {client : Client σ} {call : Call}
    (encodable : call.IsEncodable client.layout) (payloadLength : Nat) :
    ∃ request, client.request call payloadLength = .ok request := by
  cases requested : client.request call payloadLength with
  | ok request => exact ⟨request, rfl⟩
  | error error =>
    obtain ⟨address, value, rfl, unencoded⟩ := Client.request_eq_error_iff.mp requested
    simp [Call.IsEncodable, unencoded] at encodable

namespace Action

/-- The action gets as far as its request. -/
def Reaches (layout : HeaderLayout) (region : Region) : Action → Prop
  | .call _ iteration stepCall _ =>
    stepCall.page < region.pageCount ∧
      (stepCall.resolve (region.addressOf stepCall.page) iteration).IsEncodable layout
  | .read _ _ page => page < region.pageCount
  | .lifecycle _ _ _ => False

instance (layout : HeaderLayout) (region : Region) :
    (action : Action) → Decidable (action.Reaches layout region)
  | .call _ _ stepCall _ =>
    have := Nat.decLt stepCall.page region.pageCount
    inferInstanceAs (Decidable (_ ∧ _))
  | .read _ _ page => Nat.decLt page region.pageCount
  | .lifecycle _ _ _ => inferInstanceAs (Decidable False)

/-- The request is made by the action. A page is read in one encoding or the other. -/
def Makes (region : Region) (action : Action) (request : Request) : Prop :=
  match action with
  | .call _ iteration stepCall _ =>
    request.address = region.addressOf stepCall.page ∧
      request.operation = (stepCall.resolve request.address iteration).operation
  | .read _ _ page =>
    request.address = region.addressOf page ∧ ∃ encoding, request.operation = .get encoding
  | .lifecycle _ _ _ => False

/-- The exchanges are those of the actions that get as far as one, in their order. -/
def Accounts (layout : HeaderLayout) (region : Region) (actions : List Action)
    (exchanges : List Exchange) : Prop :=
  List.Forall₂ (fun action exchange => action.Makes region exchange.request)
    (actions.filter (·.Reaches layout region)) exchanges

namespace Accounts

variable {layout : HeaderLayout} {region : Region}

theorem silent {action : Action} (unmade : ¬ action.Reaches layout region) :
    Accounts layout region [action] [] := by
  rw [Accounts, List.filter_cons_of_neg (by simpa using unmade)]
  exact .nil

theorem one {action : Action} {exchange : Exchange} (reaches : action.Reaches layout region)
    (made : action.Makes region exchange.request) :
    Accounts layout region [action] [exchange] := by
  rw [Accounts, List.filter_cons_of_pos (by simpa using reaches)]
  exact .cons made .nil

theorem append {actions later : List Action} {exchanges others : List Exchange}
    (accounts : Accounts layout region actions exchanges)
    (rest : Accounts layout region later others) :
    Accounts layout region (actions ++ later) (exchanges ++ others) := by
  unfold Accounts
  rw [List.filter_append]
  exact List.rel_append accounts rest

end Accounts

end Action

namespace Runner

variable {σ : Type} {runner : Runner σ} {execution next : Execution σ} {action : Action}

/-- The request of a call is one at its page, for its operation. -/
theorem makes_of_request {client : Client σ} {address : Address} {iteration : UInt32}
    {stepCall : StepCall} {payloadLength : Nat} {request : Request}
    (requested : client.request (stepCall.resolve address iteration) payloadLength =
      .ok request) :
    request.address = address ∧
      request.operation = (stepCall.resolve request.address iteration).operation := by
  have sameAddress := Client.address_of_request requested
  rw [address_resolve] at sameAddress
  refine ⟨sameAddress, ?_⟩
  rw [Client.operation_of_request requested, sameAddress]

/-- A call of a step makes a request exactly if its action gets as far as one. -/
private theorem continues_performCall (intact : runner.Intact execution.session.memory)
    (occurrence : Occurrence) {iteration : UInt32} {stepCall : StepCall}
    (expectation : Expectation)
    (reaches : action.Reaches runner.client.layout execution.region ↔
      stepCall.page < execution.region.pageCount ∧
        (stepCall.resolve (execution.region.addressOf stepCall.page) iteration).IsEncodable
          runner.client.layout)
    (makes : ∀ request : Request,
      request.address = execution.region.addressOf stepCall.page →
      request.operation = (stepCall.resolve request.address iteration).operation →
      action.Makes execution.region request) :
    ∃ made, execution.session.Continues
        (Progress.reached
          (runner.performCall occurrence iteration stepCall expectation execution)).session made ∧
      Action.Accounts runner.client.layout execution.region [action] made := by
  cases located : execution.region.page? stepCall.page with
  | none =>
    refine ⟨[], ?_, .silent ?_⟩
    · simp only [performCall, located]
      exact .refl _
    · intro reached
      have inside := Region.page?_eq_some_iff.mpr ⟨(reaches.mp reached).1, rfl⟩
      rw [located] at inside
      contradiction
  | some address =>
    obtain ⟨inside, rfl⟩ := Region.page?_eq_some_iff.mp located
    rw [performCall_of_intact intact occurrence iteration expectation located]
    simp only [(reached_conclude _ _).1]
    rw [answered, called, Client.call_eq]
    cases requested : runner.client.request
        (stepCall.resolve (execution.region.addressOf stepCall.page) iteration)
        (expectation.payloadLength execution.model (execution.region.addressOf stepCall.page)
          iteration) with
    | error error =>
      -- The value has no encoding, so the client answers by itself.
      refine ⟨[], .refl _, .silent ?_⟩
      intro reached
      obtain ⟨request, made⟩ := Client.exists_request (reaches.mp reached).2 _
      rw [requested] at made
      contradiction
    | ok request =>
      obtain ⟨sameAddress, sameOperation⟩ := makes_of_request requested
      refine ⟨_, runner.client.continues_exchange execution.session request, .one ?_ ?_⟩
      · exact reaches.mpr ⟨inside, Client.isEncodable_of_request requested⟩
      · exact makes request sameAddress sameOperation

theorem continues_perform (intact : runner.Intact execution.session.memory) (action : Action) :
    ∃ made, execution.session.Continues
        (Progress.reached (runner.perform execution action)).session made ∧
      Action.Accounts runner.client.layout execution.region [action] made := by
  cases action with
  | call position iteration stepCall expectation =>
    exact continues_performCall intact (.ofPosition position) expectation Iff.rfl
      fun _ address operation => ⟨address, operation⟩
  | read position iteration page =>
    exact continues_performCall intact ⟨position, some page⟩ .model
      ⟨fun inside => ⟨inside, trivial⟩, And.left⟩
      fun _ address operation => ⟨address, _, operation⟩
  | lifecycle position page state =>
    refine ⟨[], ?_, .nil⟩
    simp only [perform, checkLifecycle]
    split
    · exact .refl _
    · split <;> exact .refl _

/-- The exchanges of actions are those of the actions that were begun, however they end. -/
theorem continues_performAll (intact : runner.Intact execution.session.memory)
    (actions : List Action) :
    ∃ made, execution.session.Continues
        (Progress.reached (runner.performAll actions execution)).session made ∧
      Action.Accounts runner.client.layout execution.region (runner.begun actions execution)
        made := by
  induction actions generalizing execution with
  | nil => exact ⟨[], .refl _, .nil⟩
  | cons action actions ih =>
    obtain ⟨first, continues, accounts⟩ := continues_perform intact action
    rw [performAll_cons, begun]
    cases performed : runner.perform execution action with
    | error interruption =>
      rw [performed] at continues
      exact ⟨first, continues, accounts⟩
    | ok middle =>
      rw [performed] at continues
      obtain ⟨later, goesOn, rest⟩ := ih (intact_perform intact performed)
      rw [region_perform performed] at rest
      exact ⟨first ++ later, continues.trans goesOn, accounts.append rest⟩

/-- The timed events of setup, and of the exchanges after it. -/
def timings (host : Host) (exchanges : List Exchange) : List (String × Duration) :=
  ("page_allocation", host.allocationTime) :: ("pattern_stamp", host.stampTime) ::
    exchanges.map fun exchange => (exchange.request.operation.name, exchange.reply.elapsed)

/-- The statistics are those of setup and of the exchanges so far. -/
def Tallied (host : Host) (session : Session σ) : Prop :=
  session.stats = .collect (timings host session.exchanges.toList)

/-- Whatever was timed before is taken away. -/
theorem tallied_setup (runner : Runner σ) (host : Host) (scenario : Scenario) (region : Region)
    (session : Session σ) :
    Tallied host (runner.setup host scenario region session.clearStats).session := rfl

theorem Tallied.exchange {host : Host} {session : Session σ} (tallied : Tallied host session)
    (client : Client σ) (request : Request) :
    Tallied host (client.exchange session request).2 := by
  have appended (exchanges : List Exchange) (last : Exchange) :
      timings host (exchanges ++ [last]) = timings host exchanges ++
        [(last.request.operation.name, last.reply.elapsed)] := by
    simp [timings]
  rw [Tallied, (client.continues_exchange session request).exchanges, appended,
    Stats.collect_append_singleton, ← tallied]
  rfl

theorem tallied_operate (runner : Runner σ) (host : Host) (session : Session σ)
    (scenario : Scenario) (region : Region) :
    Tallied host
      (Progress.reached (runner.operate host session scenario region)).session := by
  have kept (execution next : Execution σ) (touches : runner.Touches execution next)
      (tallied : Tallied host execution.session) : Tallied host next.session := by
    rcases touches.session with same | ⟨request, _, same⟩
    · exact same ▸ tallied
    · exact same ▸ tallied.exchange runner.client request
  exact of_reached_performAll (fun execution => Tallied host execution.session) kept _
    (runner.tallied_setup host scenario region session)

/-- No operation is called like a part of setup. -/
private theorem name_ne (operation : Operation) :
    operation.name ≠ "page_allocation" ∧ operation.name ≠ "pattern_stamp" := by
  rcases operation with _ | _ | ⟨⟨⟩⟩ | ⟨⟨⟩⟩ <;> decide

section Timings

variable (host : Host) (exchanges : List Exchange)

theorem samples_timings_setup :
    (Stats.collect (timings host exchanges)).samples "page_allocation" = [host.allocationTime] ∧
      (Stats.collect (timings host exchanges)).samples "pattern_stamp" = [host.stampTime] := by
  simp only [Stats.samples_collect, timings, List.filter_cons, List.filter_map,
    Function.comp_def, (name_ne _).1, (name_ne _).2]
  simp

theorem samples_timings_operation (operation : Operation) :
    (Stats.collect (timings host exchanges)).samples operation.name =
      (exchanges.filter (·.request.operation = operation)).map (·.reply.elapsed) := by
  obtain ⟨allocation, stamp⟩ := name_ne operation
  rw [Stats.samples_collect, timings, List.filter_cons_of_neg (by simpa using allocation.symm),
    List.filter_cons_of_neg (by simpa using stamp.symm)]
  exact Exchange.times_of_operation exchanges operation

theorem names_timings :
    (Stats.collect (timings host exchanges)).names = "page_allocation" :: "pattern_stamp" ::
      (exchanges.map (·.request.operation.name)).eraseDups := by
  have kept (name : String) (apart : ∀ operation : Operation, operation.name ≠ name) :
      (exchanges.map (·.request.operation.name)).filter (fun other => !other == name) =
        exchanges.map (·.request.operation.name) := by
    simp [List.filter_eq_self, apart]
  have mapped : (timings host exchanges).map Prod.fst = "page_allocation" :: "pattern_stamp" ::
      exchanges.map (·.request.operation.name) := by
    simp [timings]
  rw [Stats.names_collect, mapped, List.eraseDups_cons, List.filter_cons_of_pos (by decide),
    kept _ fun operation => (name_ne operation).1, List.eraseDups_cons,
    kept _ fun operation => (name_ne operation).2]

end Timings

/-- However a run ends that got a region, its statistics have one time for each part of setup and
one for each request of the steps, under the name of its operation, and the names come in the order
of the first such request. The requests are those of the actions that were begun and got as far as
one: teardown and whatever was recorded before leave no trace, and nothing is kept for later. -/
theorem run_accounted {host : Host} {session : Session σ} {scenario : Scenario} {region : Region}
    {run : Run σ} (acquired : runner.acquireRegion host scenario = .ok region)
    (ran : runner.run host session scenario = .ok run) :
    run.stats.samples "page_allocation" = [host.allocationTime] ∧
    run.stats.samples "pattern_stamp" = [host.stampTime] ∧
    (∀ operation : Operation, run.stats.samples operation.name =
      (run.operated.toList.filter (·.request.operation = operation)).map (·.reply.elapsed)) ∧
    run.stats.names = "page_allocation" :: "pattern_stamp" ::
      (run.operated.toList.map (·.request.operation.name)).eraseDups ∧
    Action.Accounts runner.client.layout region
      (runner.begun (scenario.actions region.pageCount)
        (runner.setup host scenario region session.clearStats))
      run.operated.toList ∧
    run.session.stats = .empty := by
  rw [run_eq_finish host session acquired] at ran
  obtain ⟨result, _, rfl⟩ := map_eq_ok_iff.mp ran
  have tallied := runner.tallied_operate host session scenario region
  obtain ⟨allocation, stamp⟩ := samples_timings_setup host
    (Progress.reached (runner.operate host session scenario region)).session.exchanges.toList
  obtain ⟨made, continues, accounts⟩ := continues_performAll
    (runner.intact_setup host scenario region session.clearStats)
    (scenario.actions region.pageCount)
  have operated :
      (Progress.reached (runner.operate host session scenario region)).session.exchanges.toList =
        made := continues.exchanges
  simp only [finish]
  rw [tallied]
  refine ⟨allocation, stamp, fun operation => samples_timings_operation host _ operation,
    names_timings host _, ?_, rfl⟩
  rw [operated]
  exact accounts

/-- A page is read before and after a value that has no encoding is to be set: the set makes no
request, and the steps end there. -/
theorem unencodable_set_not_counted :
    let geometry : PageGeometry := ⟨3, by decide, by decide⟩
    let runner : Runner Simulator :=
      ⟨⟨Simulator.collaborator, .standard, .compact⟩, geometry, .lowByte, true⟩
    let host : Host :=
      { Host.placing ⟨0x1000⟩ with allocationTime := .ofWord 3, stampTime := .ofWord 5 }
    let session : Session Simulator :=
      (Session.start ⟨.standard, geometry, .empty⟩ .empty).record "page_allocation" (.ofWord 9)
    let scenario := (Scenario.new "unencodable" .standard).withSteps
      [.predicted (.get 0 .inline), .predicted (.enable 0), .predicted (.get 0 .inline),
        .predicted (.set 0 (.fixed (.inline ⟨.scalar, 0x8000000000000000⟩))),
        .predicted (.get 0 .inline)]
    let region : Region := ⟨geometry, ⟨0x1000⟩, 1, by decide, by decide, by decide, by decide⟩
    runner.acquireRegion host scenario = .ok region ∧
      ∃ run, runner.run host session scenario = .ok run ∧ run.result.isOk = false ∧
        run.tornDown.toList.map (·.request) = [.disable ⟨0x1000⟩] ∧
        run.stats.samples "page_allocation" = [.ofWord 3] ∧
        run.stats.names =
          ["page_allocation", "pattern_stamp", "get_pte_meta mdp=0", "enable_pte_meta"] ∧
        (run.stats.samples (Operation.get .inline).name).length = 2 ∧
        run.stats.samples (Operation.set .inline).name = [] ∧
        run.stats.samples Operation.disable.name = [] ∧ run.session.stats = .empty := by
  intro geometry runner host session scenario region
  have acquired : runner.acquireRegion host scenario = .ok region := by
    dsimp +zetaDelta only
    rfl
  have observed : (runner.run host session scenario).map (fun run =>
      (run.result.isOk, run.tornDown.toList.map (·.request),
        run.operated.toList.map (·.request.operation))) =
      .ok (false, [.disable ⟨0x1000⟩], [.get .inline, .enable, .get .inline]) := by
    dsimp +zetaDelta only
    decide +kernel
  obtain ⟨run, ran, shown⟩ := map_eq_ok_iff.mp observed
  simp only [Prod.mk.injEq] at shown
  obtain ⟨failed, tornDown, operations⟩ := shown
  obtain ⟨allocation, _, samples, names, _, cleared⟩ := run_accounted acquired ran
  have counted (operation : Operation) : (run.stats.samples operation.name).length =
      [Operation.get .inline, .enable, .get .inline].countP (· = operation) := by
    rw [samples, ← operations, List.length_map, ← List.countP_eq_length_filter, List.countP_map]
    rfl
  refine ⟨acquired, run, ran, failed, tornDown, allocation, ?_, counted _,
    List.length_eq_zero_iff.mp (counted _), List.length_eq_zero_iff.mp (counted _), cleared⟩
  have named : run.operated.toList.map (·.request.operation.name) =
      [Operation.get .inline, .enable, .get .inline].map Operation.name := by
    rw [← operations, List.map_map]
    rfl
  rw [names, named]
  decide

end Runner

end PageMetadata
