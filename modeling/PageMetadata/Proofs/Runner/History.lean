import PageMetadata.Proofs.History
import PageMetadata.Proofs.Runner.Run

/-! # What a passing run says about the collaborator

A run that passes vouches for every answer of its steps: judged by nothing but the exchanges before
it in the same run, each exchange ended as the contract requires. The collaborator may answer
anything and may write to the region.
-/

namespace PageMetadata

/-- The outcome of an exchange, its error number classified. -/
def Exchange.outcome (classifier : Classifier) (exchange : Exchange) :
    Outcome exchange.request.Content :=
  exchange.reply.result.mapError (classifier.classify exchange.request.operation)

namespace History

/-- Every exchange ended as the exchanges before it require. -/
def Justified (classifier : Classifier) (geometry : PageGeometry) (contract : Contract)
    (history : List Exchange) : Prop :=
  ∀ before exchange after, history = before ++ exchange :: after →
    exchange.outcome classifier = outcome geometry contract before exchange.request

theorem Justified.append {classifier : Classifier} {geometry : PageGeometry} {contract : Contract}
    {history : List Exchange} (justified : Justified classifier geometry contract history)
    {exchange : Exchange}
    (required : exchange.outcome classifier = outcome geometry contract history exchange.request) :
    Justified classifier geometry contract (history ++ [exchange]) := by
  intro before other after same
  rcases List.eq_nil_or_concat after with rfl | ⟨middle, last, rfl⟩
  · obtain ⟨rfl, sameLast⟩ := List.append_inj' same rfl
    cases sameLast
    exact required
  · rw [List.concat_eq_append, ← List.cons_append, ← List.append_assoc] at same
    obtain ⟨earlier, _⟩ := List.append_inj' same rfl
    exact justified before other middle earlier

end History

namespace Runner

variable {σ : Type}

/-- The exchanges so far are justified, and the model says of the tables what they say. -/
structure Vouches (runner : Runner σ) (contract : Contract) (execution : Execution σ) : Prop where
  sameGeometry : execution.model.geometry = runner.geometry
  sameContract : execution.model.contract = contract
  backs : History.Backs runner.client.layout execution.session.exchanges.toList execution.model
  justified : History.Justified runner.client.classifier runner.geometry contract
    execution.session.exchanges.toList

theorem vouches_setup (runner : Runner σ) (host : Host) (scenario : Scenario) (region : Region)
    (session : Session σ) :
    runner.Vouches scenario.contract (runner.setup host scenario region session) where
  sameGeometry := rfl
  sameContract := rfl
  backs := ⟨fun _ => rfl, fun _ => rfl⟩
  justified before exchange after same := by
    have counted := congrArg List.length same
    simp [setup, Session.record, Session.enter] at counted

/-- An exchange that ended as predicted ended as the exchanges before it require. -/
theorem Vouches.advance {runner : Runner σ} {contract : Contract} {execution next : Execution σ}
    (vouches : runner.Vouches contract execution) (advances : runner.Advances execution next) :
    runner.Vouches contract next := by
  cases advances with
  | idle session model =>
    refine ⟨?_, ?_, ?_, ?_⟩
    · rw [model, vouches.sameGeometry]
    · rw [model, vouches.sameContract]
    · rw [session, model]
      exact vouches.backs
    · rw [session]
      exact vouches.justified
  | exchange call payloadLength request inside requested answered session model =>
    have exchanges : next.session.exchanges.toList = execution.session.exchanges.toList ++
        [⟨request, (runner.client.collaborator.respond execution.session.state
          execution.session.memory request).1⟩] := by
      rw [session]
      exact Array.toList_push
    have succeeded := Client.isOk_of_interpret answered
    rw [Prediction.isOk_answer] at succeeded
    refine ⟨?_, ?_, ?_, ?_⟩
    · rw [model, Model.geometry_after, vouches.sameGeometry]
    · rw [model, Model.contract_after, vouches.sameContract]
    · rw [exchanges, model]
      apply vouches.backs.append requested
      rw [← succeeded]
      exact (isOk_mapError _ _).symm
    · rw [exchanges]
      apply vouches.justified.append
      have required := vouches.backs.outcome_eq requested answered
      rw [vouches.sameGeometry, vouches.sameContract] at required
      exact required

/-- If a run passes, every exchange of its steps ended as the exchanges before it require, whatever
the collaborator is. -/
theorem operated_justified_of_passed {runner : Runner σ} {host : Host} {session : Session σ}
    {scenario : Scenario} {run : Run σ} (ran : runner.run host session scenario = .ok run)
    (passed : run.result = .ok ()) {before after : List Exchange} {exchange : Exchange}
    (operated : run.operated.toList = before ++ exchange :: after) :
    exchange.outcome runner.client.classifier =
      History.outcome runner.geometry scenario.contract before exchange.request := by
  obtain ⟨region, execution, _, performed, _, rfl⟩ := exists_execution_of_passed ran passed
  have vouches := of_performAll (runner.Vouches scenario.contract)
    (fun _ _ advances _ vouches => vouches.advance advances) performed
    (runner.vouches_setup host scenario region session.clearStats)
  exact vouches.justified before exchange after operated

/-- A value is set and read back: what is read must be what was set. -/
theorem read_back_justified :
    let geometry : PageGeometry := ⟨3, by decide, by decide⟩
    let runner : Runner Simulator :=
      ⟨⟨Simulator.collaborator, .standard, .compact⟩, geometry, .lowByte, true⟩
    let host : Host := .placing ⟨0x1000⟩
    let session : Session Simulator := .start ⟨.standard, geometry, .empty⟩ .empty
    let scenario := (Scenario.new "read back" .standard).withSteps
      [.predicted (.set 0 (.fixed (.inline ⟨.pointer, 5⟩))), .predicted (.get 0 .inline)]
    let word : UInt64 := 0x8000000000000005
    let written : Exchange := ⟨.setInline ⟨0x1000⟩ word, ⟨.ok (), [], .ofWord 50000⟩⟩
    let read : Exchange := ⟨.getInline ⟨0x1000⟩, ⟨.ok word, [], .zero⟩⟩
    ∃ run, runner.run host session scenario = .ok run ∧ run.result = .ok () ∧
      run.operated.toList = [written] ++ read :: [] ∧
      read.outcome .standard = History.outcome geometry .standard [written] read.request := by
  intro geometry runner host session scenario word written read
  obtain ⟨run, ran, passed, operated⟩ : ∃ run, runner.run host session scenario = .ok run ∧
      run.result = .ok () ∧ run.operated.toList = [written] ++ read :: [] := by
    dsimp +zetaDelta only
    exact ⟨_, rfl, rfl, rfl⟩
  exact ⟨run, ran, passed, operated, operated_justified_of_passed ran passed operated⟩

end Runner

end PageMetadata
