import PageMetadata.Proofs.Registry
import PageMetadata.Proofs.TableIndependence

/-! # Verdicts on observations

The model accepts an observation exactly if its outcome was predicted and no value came back other
than the predicted one; a refusal names the first of the two that fails. The model changes only by
accepted successes of calls that do not merely read. A successful read finds its table known, so
following it leaves the model as it was.
-/

namespace PageMetadata

theorem MetadataValue.verifyRoundTrip_eq_error_iff {written read : MetadataValue}
    {error : CodecError} :
    written.verifyRoundTrip read = .error error ↔
      written ≠ read ∧ error = .roundTrip written read := by
  rw [verifyRoundTrip]
  split
  · next same => simp [same]
  · next different => simp [different, eq_comm]

namespace Prediction

variable {prediction : Prediction} {retrieved : Option MetadataValue}

/-- A value is compared only where one is predicted and one came back. -/
theorem checkRetrieved_eq_ok_iff :
    prediction.checkRetrieved retrieved = .ok () ↔
      ∀ expected value, prediction = .success (some expected) → retrieved = some value →
        expected = value := by
  cases prediction with
  | failure kind => simp [checkRetrieved]
  | success expected =>
    cases expected <;> cases retrieved <;>
      simp [checkRetrieved, MetadataValue.verifyRoundTrip_eq_ok_iff]

theorem checkRetrieved_eq_error_iff {error : CodecError} :
    prediction.checkRetrieved retrieved = .error error ↔
      ∃ expected value, prediction = .success (some expected) ∧ retrieved = some value ∧
        expected ≠ value ∧ error = .roundTrip expected value := by
  cases prediction with
  | failure kind => simp [checkRetrieved]
  | success expected =>
    cases expected <;> cases retrieved <;>
      simp [checkRetrieved, MetadataValue.verifyRoundTrip_eq_error_iff]

end Prediction

namespace Model

variable {model : Model}

theorem verdict_eq_ok_iff {observation : Observation} :
    model.verdict observation = .ok () ↔
      (model.predict observation.call).outcome = observation.outcome ∧
        (model.predict observation.call).checkRetrieved observation.retrieved = .ok () := by
  rw [verdict, map_eq_ok_iff]
  simp only [observe_eq_ok_iff, and_true]
  constructor
  · rintro ⟨next, predicted, checked, _⟩
    exact ⟨predicted, checked⟩
  · rintro ⟨predicted, checked⟩
    exact ⟨_, predicted, checked, rfl⟩

/-- The outcome is judged before the value. -/
theorem verdict_eq_error_iff {observation : Observation} {error : Error} :
    model.verdict observation = .error error ↔
      ((model.predict observation.call).outcome ≠ observation.outcome ∧
        error = .stateViolation (model.violation observation.call observation.outcome)) ∨
      ((model.predict observation.call).outcome = observation.outcome ∧
        ∃ mismatch,
          (model.predict observation.call).checkRetrieved observation.retrieved =
            .error mismatch ∧ error = .codec mismatch) := by
  rw [verdict, map_eq_error_iff, observe]
  by_cases predicted : (model.predict observation.call).outcome = observation.outcome
  · simp only [predicted, if_true, ne_eq, not_true_eq_false, false_and, false_or, true_and]
    cases (model.predict observation.call).checkRetrieved observation.retrieved <;>
      simp [eq_comm]
  · simp [predicted, eq_comm]

/-- Of an expanded table something is known. -/
theorem exists_table?_of_expanded {address : Address}
    (expanded : model.lifecycle address = .expanded) :
    ∃ state, model.table? address = some state := by
  rw [lifecycle] at expanded
  split at expanded
  · contradiction
  · next state found => exact ⟨state, found⟩

theorem follow_get {address : Address} {encoding : Encoding}
    (expanded : model.lifecycle address = .expanded) :
    model.follow (.get address encoding) = model := by
  obtain ⟨state, known⟩ := exists_table?_of_expanded expanded
  have unchanged : model.tables.alter (model.geometry.tableOf address) (fun state =>
      (state.getD ⟨.unexpanded, address, .empty⟩).follow (model.geometry.pageIndex address)
        (.get address encoding)) = model.tables :=
    Registry.alter_eq_self known rfl
  obtain ⟨geometry, contract, tables⟩ := model
  exact congrArg (Model.mk geometry contract) unchanged

/-- Nothing is read from a table that is not expanded. -/
theorem expanded_of_predict_get {address : Address} {encoding : Encoding}
    (predicted : (model.predict (.get address encoding)).outcome = .success) :
    model.lifecycle address = .expanded := by
  cases state : model.lifecycle address with
  | expanded => rfl
  | unexpanded =>
    simp only [predict, Call.address, state] at predicted
    contradiction

/-- Only an accepted success of a call that does more than read changes the model. -/
theorem note_eq_self {observation : Observation}
    (idle : model.verdict observation ≠ .ok () ∨ observation.outcome ≠ .success ∨
      observation.call.operation.reads = true) :
    model.note observation = model := by
  rw [note_eq]
  split
  · next confirmed =>
    obtain ⟨accepted, succeeded⟩ := confirmed
    obtain ⟨call, outcome, retrieved⟩ := observation
    have reads : call.operation.reads = true :=
      (idle.resolve_left (not_not_intro accepted)).resolve_left (not_not_intro succeeded)
    obtain ⟨predicted, _⟩ := verdict_eq_ok_iff.mp accepted
    cases call with
    | get address encoding =>
      exact follow_get (expanded_of_predict_get (predicted.trans succeeded))
    | _ => contradiction
  · rfl

/-- In every state an observation is accepted exactly if the outcome was predicted and a value that
came back is the predicted one. Another outcome is a violation of the state, and only a predicted
outcome with another value a failed round trip. A refused observation, an accepted failure and an
accepted read leave no trace: all tables and values, and all that is predicted of later calls and
said to later observations, are as if it had not been made. -/
theorem observation_exact_and_atomic (model : Model) (observation : Observation) :
    let prediction := model.predict observation.call
    let next := model.note observation
    (model.verdict observation = .ok () ↔
      prediction.outcome = observation.outcome ∧
        ∀ expected value, prediction = .success (some expected) →
          observation.retrieved = some value → expected = value) ∧
    (∀ error, model.verdict observation = .error error ↔
      (prediction.outcome ≠ observation.outcome ∧
        error = .stateViolation (model.violation observation.call observation.outcome)) ∨
      (prediction.outcome = observation.outcome ∧
        ∃ expected value, prediction = .success (some expected) ∧
          observation.retrieved = some value ∧ expected ≠ value ∧
          error = .codec (.roundTrip expected value))) ∧
    (model.verdict observation ≠ .ok () ∨ observation.outcome ≠ .success ∨
        observation.call.operation.reads = true →
      (∀ address, next.lifecycle address = model.lifecycle address ∧
        next.value? address = model.value? address) ∧
      next.expandedTables = model.expandedTables ∧
      ∀ later,
        (∀ call, (next.noteAll later).predict call = (model.noteAll later).predict call) ∧
        answersTo judge next later = answersTo judge model later) := by
  intro prediction next
  refine ⟨?_, ?_, ?_⟩
  · rw [verdict_eq_ok_iff, Prediction.checkRetrieved_eq_ok_iff]
  · intro error
    rw [verdict_eq_error_iff]
    simp only [Prediction.checkRetrieved_eq_error_iff]
    apply or_congr_right
    apply and_congr_right
    intro _
    constructor
    · rintro ⟨_, ⟨expected, value, predicted, came, different, rfl⟩, rfl⟩
      exact ⟨expected, value, predicted, came, different, rfl⟩
    · rintro ⟨expected, value, predicted, came, different, rfl⟩
      exact ⟨_, ⟨expected, value, predicted, came, different, rfl⟩, rfl⟩
  · intro idle
    have unchanged : next = model := note_eq_self idle
    rw [unchanged]
    exact ⟨fun _ => ⟨rfl, rfl⟩, rfl, fun _ => ⟨fun _ => rfl, rfl⟩⟩

/-- A value is set and read back as another one, which is a failed round trip; the table is torn down
after that as if it had not been read. -/
theorem wrong_value_leaves_no_trace :
    let model := (empty ⟨12, by decide, by decide⟩ .standard).noteAll
      [⟨.set ⟨0x1000⟩ (.inline ⟨.scalar, 7⟩), .success, none⟩]
    let misread : Observation :=
      ⟨.get ⟨0x1000⟩ .inline, .success, some (.inline ⟨.scalar, 8⟩)⟩
    let tearDown : Observation := ⟨.disable ⟨0x1008⟩, .success, none⟩
    model.verdict misread =
        .error (.codec (.roundTrip (.inline ⟨.scalar, 7⟩) (.inline ⟨.scalar, 8⟩))) ∧
      (model.note misread).value? ⟨0x1ff8⟩ = some (.inline ⟨.scalar, 7⟩) ∧
      answersTo judge (model.note misread) [tearDown, tearDown] =
        answersTo judge model [tearDown, tearDown] := by
  intro model misread tearDown
  have held : model.value? ⟨0x1ff8⟩ = some (.inline ⟨.scalar, 7⟩) := by
    dsimp +zetaDelta only
    decide
  have predicted : model.predict misread.call = .success (some (.inline ⟨.scalar, 7⟩)) := by
    dsimp +zetaDelta only
    decide
  obtain ⟨_, refused, untouched⟩ := observation_exact_and_atomic model misread
  have failed : model.verdict misread =
      .error (.codec (.roundTrip (.inline ⟨.scalar, 7⟩) (.inline ⟨.scalar, 8⟩))) := by
    apply (refused _).mpr
    refine .inr ⟨?_, _, _, predicted, rfl, by decide, rfl⟩
    rw [predicted]
    rfl
  obtain ⟨shown, _, later⟩ := untouched (.inr (.inr rfl))
  exact ⟨failed, (shown _).2.trans held, (later _).2⟩

end Model

end PageMetadata
