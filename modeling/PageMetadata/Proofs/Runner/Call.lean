import PageMetadata.Proofs.Client
import PageMetadata.Runner.Basic

/-! # One call of a step

A call of a step goes through exactly if its page lies in the region, the region is intact before
and after the call, the call is answered as the model predicts it, and the step allows that
prediction. No assumption is made about the collaborator.
-/

namespace PageMetadata

namespace Expectation

/-- The expectation allows what is predicted. A required value concerns reads only. -/
def Accepts (expectation : Expectation) (prediction : Prediction) (iteration : UInt32) : Prop :=
  match expectation with
  | .model => True
  | .success => prediction.outcome = .success
  | .value spec =>
    prediction = .success none ∨ prediction = .success (some (spec.resolve iteration))
  | .failure kind => prediction = .failure kind

instance (expectation : Expectation) (prediction : Prediction) (iteration : UInt32) :
    Decidable (expectation.Accepts prediction iteration) := by
  unfold Accepts
  split <;> infer_instance

theorem check_answer_eq_ok_iff (expectation : Expectation) (call : Call) (prediction : Prediction)
    (iteration : UInt32) :
    expectation.check call prediction.outcome prediction.answer.toOption.join iteration = .ok () ↔
      expectation.Accepts prediction iteration := by
  cases expectation with
  | model => simp [check, outcome?, Accepts]
  | success =>
    cases prediction <;>
      simp [check, outcome?, Accepts, Prediction.outcome, checkValue]
  | value spec =>
    cases prediction with
    | failure kind => simp [check, outcome?, Accepts, Prediction.outcome]
    | success value =>
      simp only [check, outcome?, Prediction.outcome, if_true, mapError_eq_ok_iff]
      cases value with
      | none => simp [checkValue, Accepts, Prediction.answer, Except.toOption]
      | some value =>
        change (spec.resolve iteration).verifyRoundTrip value = .ok () ↔ _
        rw [MetadataValue.verifyRoundTrip_eq_ok_iff]
        simp [Accepts, eq_comm]
  | failure kind =>
    cases prediction <;>
      simp [check, outcome?, Accepts, Prediction.outcome, checkValue]

/-- A structured read that may return what is required has the same room as one of which nothing is
required. -/
theorem Accepts.payloadLength_eq {expectation : Expectation} {model : Model} {address : Address}
    {iteration : UInt32}
    (accepted : expectation.Accepts (model.predict (.get address .structured)) iteration)
    (later : UInt32) :
    expectation.payloadLength model address iteration =
      Expectation.model.payloadLength model address later := by
  cases expectation with
  | value spec =>
    rcases accepted with predicted | predicted
    · obtain ⟨held, _, absurdity⟩ := Model.exists_held_of_predict predicted
      contradiction
    · obtain ⟨held, found, required⟩ := Model.exists_held_of_predict predicted
      simp only [payloadLength, found, Option.some.inj required]
  | _ => rfl

/-- A call that is allowed makes the request that it makes if nothing is required of it. -/
theorem Accepts.request_eq {expectation : Expectation} {model : Model} {call : Call}
    {iteration : UInt32} (accepted : expectation.Accepts (model.predict call) iteration)
    {σ : Type} (client : Client σ) (later : UInt32) :
    client.request call (expectation.payloadLength model call.address iteration) =
      client.request call (Expectation.model.payloadLength model call.address later) := by
  cases call with
  | get address encoding =>
    cases encoding with
    | inline => rfl
    | structured =>
      have lengths := accepted.payloadLength_eq later
      simp only [Call.address, lengths]
  | _ => rfl

end Expectation

namespace Runner

variable {σ : Type}

/-- Memory carries the pattern. -/
def Intact (runner : Runner σ) (memory : Memory) : Prop :=
  runner.pattern.findMismatch? 0 memory.bytes = none

theorem examine_eq_ok_iff {runner : Runner σ} {session : Session σ} {moment : String} :
    runner.examine session moment = .ok () ↔ runner.Intact session.memory := by
  rw [examine, mapError_eq_ok_iff, Pattern.verify, Intact]
  cases runner.pattern.findMismatch? 0 session.memory.bytes <;> simp

private theorem findMismatch?_range' (pattern : Pattern) (start length : Nat) :
    pattern.findMismatch? start ((List.range' start length).map pattern) = none := by
  induction length generalizing start with
  | zero => rfl
  | succ length ih =>
    rw [List.range'_succ, List.map_cons, Pattern.findMismatch?, if_pos rfl]
    exact ih (start + 1)

/-- What was stamped is found again, so setup never fails once there is a region. -/
theorem intact_setup (runner : Runner σ) (host : Host) (scenario : Scenario) (region : Region)
    (session : Session σ) :
    runner.Intact (runner.setup host scenario region session).session.memory := by
  change runner.pattern.findMismatch? 0 ((List.range region.length).map runner.pattern) = none
  rw [List.range_eq_range']
  exact findMismatch?_range' runner.pattern 0 region.length

/-- What the client returns for the call of a step at an address. -/
def called (runner : Runner σ) (iteration : UInt32) (stepCall : StepCall)
    (expectation : Expectation) (execution : Execution σ) (address : Address) :
    Except CodecError (Outcome (Option MetadataValue)) × Session σ :=
  runner.client.call execution.session (stepCall.resolve address iteration)
    (expectation.payloadLength execution.model address iteration)

theorem judge_eq_ok_iff {runner : Runner σ} {execution : Execution σ} {call : Call}
    {expectation : Expectation} {iteration : UInt32}
    {answer : Except CodecError (Outcome (Option MetadataValue))} {model : Model}
    (shaped : ∀ value, answer = .ok (.ok value) → value.isSome = call.operation.reads) :
    runner.judge execution call expectation iteration answer = .ok model ↔
      runner.Intact execution.session.memory ∧
        answer = .ok (execution.model.predict call).answer ∧
        expectation.Accepts (execution.model.predict call) iteration ∧
        execution.model.after call = model := by
  simp only [judge, bind_eq_ok_iff, mapError_eq_ok_iff]
  constructor
  · rintro ⟨⟨⟩, examined, outcome, rfl, ⟨⟩, checked, observed⟩
    obtain ⟨rfl, after⟩ := (Model.observe_outcome_eq_ok_iff
      fun value found => shaped value (congrArg Except.ok found)).mp observed
    rw [Prediction.ofExcept_answer, expectation.check_answer_eq_ok_iff] at checked
    exact ⟨examine_eq_ok_iff.mp examined, rfl, checked, after⟩
  · rintro ⟨intact, rfl, accepted, rfl⟩
    refine ⟨(), examine_eq_ok_iff.mpr intact, _, rfl, (), ?_, Model.observe_answer _ _⟩
    rw [Prediction.ofExcept_answer, expectation.check_answer_eq_ok_iff]
    exact accepted

/-- The execution when the call of a step at an address starts. -/
def started (occurrence : Occurrence) (iteration : UInt32) (stepCall : StepCall)
    (execution : Execution σ) (address : Address) : Execution σ :=
  { execution with
    stage := .call occurrence (stepCall.resolve address iteration).operation stepCall.page }

/-- The execution when the call was answered, and the answer is to be judged. -/
def answered (runner : Runner σ) (occurrence : Occurrence) (iteration : UInt32)
    (stepCall : StepCall) (expectation : Expectation) (execution : Execution σ)
    (address : Address) : Execution σ :=
  { started occurrence iteration stepCall execution address with
    session := (runner.called iteration stepCall expectation execution address).2 }

/-- Where a judgement leads. -/
def conclude (execution : Execution σ) : Except Error Model → Progress σ
  | .error error => .error ⟨error, execution⟩
  | .ok model => .ok { execution with model }

theorem conclude_eq_ok_iff {execution next : Execution σ} {judgement : Except Error Model} :
    conclude execution judgement = .ok next ↔
      ∃ model, judgement = .ok model ∧ { execution with model } = next := by
  cases judgement <;> simp [conclude]

theorem performCall_eq (runner : Runner σ) (occurrence : Occurrence) (iteration : UInt32)
    (stepCall : StepCall) (expectation : Expectation) {execution : Execution σ}
    {address : Address} (located : execution.region.page? stepCall.page = some address) :
    runner.performCall occurrence iteration stepCall expectation execution =
      let started := started occurrence iteration stepCall execution address
      match runner.examine started.session ("before " ++ started.stage.text) with
      | .error error => .error ⟨error, started⟩
      | .ok () =>
        let answered := runner.answered occurrence iteration stepCall expectation execution address
        conclude answered (runner.judge answered (stepCall.resolve address iteration) expectation
          iteration (runner.called iteration stepCall expectation execution address).1) := by
  simp only [performCall, located]
  rfl

/-- On an intact region the call is made, and its answer judged. -/
theorem performCall_of_intact {runner : Runner σ} {execution : Execution σ}
    (intact : runner.Intact execution.session.memory) (occurrence : Occurrence)
    (iteration : UInt32) {stepCall : StepCall} (expectation : Expectation) {address : Address}
    (located : execution.region.page? stepCall.page = some address) :
    runner.performCall occurrence iteration stepCall expectation execution =
      let answered := runner.answered occurrence iteration stepCall expectation execution address
      conclude answered (runner.judge answered (stepCall.resolve address iteration) expectation
        iteration (runner.called iteration stepCall expectation execution address).1) := by
  have before : runner.examine (started occurrence iteration stepCall execution address).session
      ("before " ++ (started occurrence iteration stepCall execution address).stage.text) =
        .ok () := examine_eq_ok_iff.mpr intact
  rw [performCall_eq _ _ _ _ _ located]
  simp only [before]

/-- No call goes through at a page outside of the region, or when the region is not intact. -/
theorem performCall_eq_ok_iff {runner : Runner σ} {occurrence : Occurrence} {iteration : UInt32}
    {stepCall : StepCall} {expectation : Expectation} {execution next : Execution σ} :
    runner.performCall occurrence iteration stepCall expectation execution = .ok next ↔
      ∃ address, execution.region.page? stepCall.page = some address ∧
        runner.Intact execution.session.memory ∧
        runner.Intact (runner.called iteration stepCall expectation execution address).2.memory ∧
        (runner.called iteration stepCall expectation execution address).1 =
          .ok (execution.model.predict (stepCall.resolve address iteration)).answer ∧
        expectation.Accepts (execution.model.predict (stepCall.resolve address iteration))
          iteration ∧
        { runner.answered occurrence iteration stepCall expectation execution address with
          model := execution.model.after (stepCall.resolve address iteration) } = next := by
  cases located : execution.region.page? stepCall.page with
  | none => simp [performCall, located]
  | some address =>
    simp only [Option.some.injEq, exists_eq_left', performCall_eq _ _ _ _ _ located]
    cases examined : runner.examine
        (started occurrence iteration stepCall execution address).session
        ("before " ++ (started occurrence iteration stepCall execution address).stage.text) with
    | error error =>
      have broken : ¬ runner.Intact execution.session.memory := by
        intro intact
        have fine := examined.symm.trans (examine_eq_ok_iff.mpr intact)
        contradiction
      simp [broken]
    | ok _ =>
      have intact : runner.Intact execution.session.memory := examine_eq_ok_iff.mp examined
      have judged (model : Model) : runner.judge
          (runner.answered occurrence iteration stepCall expectation execution address)
          (stepCall.resolve address iteration) expectation iteration
          (runner.called iteration stepCall expectation execution address).1 = .ok model ↔ _ :=
        judge_eq_ok_iff fun value answered => Client.isSome_of_call answered
      simp only [conclude_eq_ok_iff, judged]
      constructor
      · rintro ⟨_, ⟨kept, answered, accepted, rfl⟩, rfl⟩
        exact ⟨intact, kept, answered, accepted, rfl⟩
      · rintro ⟨_, kept, answered, accepted, rfl⟩
        exact ⟨_, ⟨kept, answered, accepted, rfl⟩, rfl⟩

end Runner

end PageMetadata
