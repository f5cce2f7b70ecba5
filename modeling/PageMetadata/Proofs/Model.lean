import PageMetadata.Client
import PageMetadata.Model
import PageMetadata.Proofs.Except

/-! # How the model follows calls

A successful operation settles the lifecycle of its table, unless it only reads; a value is held
from the call that sets it until the next one, or until the table is torn down. An observed outcome
is accepted exactly if it is the predicted one.
-/

namespace PageMetadata

/-- The lifecycle in which a successful operation leaves its table; a read leaves it as it was. -/
def Operation.settles? : Operation → Option Lifecycle
  | .enable => some .expanded
  | .disable => some .unexpanded
  | .set _ => some .expanded
  | .get _ => none

/-- Only a read returns a value. -/
def Operation.reads : Operation → Bool
  | .get _ => true
  | _ => false

/-- The value that a successful call leaves at a page of its table, whether made there or not. -/
def Call.leaves (call : Call) (here : Prop) [Decidable here] (held : Option MetadataValue) :
    Option MetadataValue :=
  match call with
  | .disable _ => none
  | .set _ value => if here then some value else held
  | _ => held

/-- The outcome that is predicted, with the value that a read must return. -/
def Prediction.answer : Prediction → Outcome (Option MetadataValue)
  | .success value => .ok value
  | .failure kind => .error kind

namespace Prediction

@[simp] theorem ofExcept_answer (prediction : Prediction) :
    OutcomeClass.ofExcept prediction.answer = prediction.outcome := by
  cases prediction <;> rfl

theorem answer_eq_ok_iff {prediction : Prediction} {value : Option MetadataValue} :
    prediction.answer = .ok value ↔ prediction = .success value := by
  cases prediction <;> simp [answer]

theorem isOk_answer (prediction : Prediction) :
    prediction.answer.isOk = decide (prediction.outcome = .success) := by
  cases prediction <;> rfl

end Prediction

/-- What the contract predicts for a call, from the lifecycle of its table and the value that its
page holds. -/
def Contract.predict (contract : Contract) (lifecycle : Lifecycle) (held : Option MetadataValue)
    (call : Call) : Prediction :=
  match call, lifecycle with
  | .enable _, .unexpanded => .success none
  | .enable _, .expanded => .failure .alreadyExpanded
  | .disable _, .expanded => .success none
  | .disable _, .unexpanded => .failure .notExpanded
  | .set _ _, .expanded => .success none
  | .set _ _, .unexpanded =>
    if contract.autoExpandOnSet then .success none else .failure .notExpanded
  | .get _ _, .unexpanded => .failure .noData
  | .get _ encoding, .expanded =>
    match held with
    | some value =>
      if value.encoding = encoding then .success (some value) else .failure .invalidArgument
    | none =>
      match contract.unsetRead, encoding with
      | .zeroed, .inline => .success (some (.inline ⟨.scalar, 0⟩))
      | _, _ => .failure .noData

theorem Model.predict_eq (model : Model) (call : Call) :
    model.predict call =
      model.contract.predict (model.lifecycle call.address) (model.value? call.address) call := by
  cases call <;>
    · simp only [Model.predict, Call.address]
      generalize model.lifecycle _ = lifecycle
      cases lifecycle <;> rfl

theorem MetadataValue.verifyRoundTrip_eq_ok_iff {written read : MetadataValue} :
    written.verifyRoundTrip read = .ok () ↔ written = read := by
  simp [verifyRoundTrip]

namespace Model

@[simp] theorem geometry_follow (model : Model) (call : Call) :
    (model.follow call).geometry = model.geometry := rfl

@[simp] theorem contract_follow (model : Model) (call : Call) :
    (model.follow call).contract = model.contract := rfl

theorem table?_follow (model : Model) (call : Call) (address : Address) :
    (model.follow call).table? address =
      if model.geometry.tableOf address = model.geometry.tableOf call.address then
        some (((model.table? address).getD ⟨.unexpanded, call.address, .empty⟩).follow
          (model.geometry.pageIndex call.address) call)
      else model.table? address := by
  simp only [table?, follow, Registry.get?_alter]
  split
  · next same => rw [same]
  · rfl

theorem lifecycle_follow (model : Model) (call : Call) (address : Address) :
    (model.follow call).lifecycle address =
      if model.geometry.tableOf address = model.geometry.tableOf call.address then
        call.operation.settles?.getD (model.lifecycle address)
      else model.lifecycle address := by
  by_cases same : model.geometry.tableOf address = model.geometry.tableOf call.address
  · simp only [lifecycle, table?_follow, if_pos same]
    cases call <;> cases model.table? address <;> rfl
  · simp only [lifecycle, table?_follow, if_neg same]

theorem value?_follow (model : Model) (call : Call) (address : Address) :
    (model.follow call).value? address =
      if model.geometry.tableOf address = model.geometry.tableOf call.address then
        call.leaves (model.geometry.pageIndex address = model.geometry.pageIndex call.address)
          (model.value? address)
      else model.value? address := by
  by_cases same : model.geometry.tableOf address = model.geometry.tableOf call.address
  · simp only [value?, table?_follow, geometry_follow, if_pos same]
    cases call with
    | set target value =>
      cases model.table? address <;>
        · simp only [TableState.follow, Option.bind_eq_bind, Option.bind_some,
            Registry.get?_insert]
          rfl
    | _ => cases model.table? address <;> rfl
  · simp only [value?, table?_follow, geometry_follow, if_neg same]

/-- The model after a call that ended as predicted. -/
def after (model : Model) (call : Call) : Model :=
  if (model.predict call).outcome = .success then model.follow call else model

@[simp] theorem geometry_after (model : Model) (call : Call) :
    (model.after call).geometry = model.geometry := by
  unfold after
  split <;> rfl

@[simp] theorem contract_after (model : Model) (call : Call) :
    (model.after call).contract = model.contract := by
  unfold after
  split <;> rfl

theorem observe_eq_ok_iff {model next : Model} {call : Call} {observed : OutcomeClass}
    {retrieved : Option MetadataValue} :
    model.observe call observed retrieved = .ok next ↔
      (model.predict call).outcome = observed ∧
        (model.predict call).checkRetrieved retrieved = .ok () ∧ model.after call = next := by
  simp only [observe, after]
  split
  · next same =>
    subst same
    cases (model.predict call).checkRetrieved retrieved <;> simp
  · next other => simp [other]

private theorem isSome_of_predictRead {model : Model} {address : Address} {encoding : Encoding}
    {value : Option MetadataValue}
    (predicted : model.predictRead address encoding = .success value) : value.isSome = true := by
  unfold predictRead at predicted
  split at predicted <;> split at predicted
  · cases predicted
    rfl
  · contradiction
  · cases predicted
    rfl
  · contradiction

/-- A structured read succeeds with the structured value that is held, and never without one. -/
theorem exists_held_of_predict {model : Model} {address : Address} {value : Option MetadataValue}
    (predicted : model.predict (.get address .structured) = .success value) :
    ∃ metadata, model.value? address = some (.structured metadata) ∧
      value = some (.structured metadata) := by
  cases state : model.lifecycle address with
  | unexpanded => simp [predict, Call.address, state] at predicted
  | expanded =>
    simp only [predict, Call.address, state, predictRead] at predicted
    cases found : model.value? address with
    | none =>
      rw [found] at predicted
      cases unset : model.contract.unsetRead <;>
        · rw [unset] at predicted
          contradiction
    | some held =>
      simp only [found] at predicted
      cases held with
      | inline _ => contradiction
      | structured metadata =>
        cases predicted
        exact ⟨metadata, rfl, rfl⟩

/-- Where no structured value is held, a structured read is refused and changes nothing. -/
theorem after_get_structured {model : Model} {address : Address}
    (unheld : ∀ metadata, model.value? address ≠ some (.structured metadata)) :
    model.after (.get address .structured) = model := by
  rw [after, if_neg]
  intro success
  cases predicted : model.predict (.get address .structured) with
  | failure kind =>
    rw [predicted] at success
    contradiction
  | success value =>
    obtain ⟨metadata, held, _⟩ := exists_held_of_predict predicted
    exact unheld metadata held

/-- A successful prediction carries a value exactly for a read. -/
theorem isSome_of_predict {model : Model} {call : Call} {value : Option MetadataValue}
    (predicted : model.predict call = .success value) : value.isSome = call.operation.reads := by
  cases call with
  | get address encoding =>
    cases held : model.lifecycle address with
    | unexpanded => simp [predict, Call.address, held] at predicted
    | expanded =>
      simp only [predict, Call.address, held] at predicted
      exact isSome_of_predictRead predicted
  | set address _ =>
    cases held : model.lifecycle address with
    | unexpanded =>
      simp only [predict, Call.address, held] at predicted
      split at predicted
      · cases predicted
        rfl
      · contradiction
    | expanded =>
      simp only [predict, Call.address, held] at predicted
      cases predicted
      rfl
  | enable address =>
    cases held : model.lifecycle address with
    | unexpanded =>
      simp only [predict, Call.address, held] at predicted
      cases predicted
      rfl
    | expanded => simp [predict, Call.address, held] at predicted
  | disable address =>
    cases held : model.lifecycle address with
    | unexpanded => simp [predict, Call.address, held] at predicted
    | expanded =>
      simp only [predict, Call.address, held] at predicted
      cases predicted
      rfl

/-- A value is accepted for a successful read exactly if it is the predicted one. -/
private theorem checkRetrieved_eq_ok_iff {prediction : Prediction}
    {value : Option MetadataValue}
    (shaped : ∀ expected, prediction = .success expected → expected.isSome = value.isSome)
    (success : prediction.outcome = .success) :
    prediction.checkRetrieved value = .ok () ↔ prediction = .success value := by
  cases prediction with
  | failure kind => contradiction
  | success expected =>
    have same := shaped expected rfl
    cases expected <;> cases value <;>
      simp_all [Prediction.checkRetrieved, MetadataValue.verifyRoundTrip_eq_ok_iff]

/-- An outcome with a value exactly if the call reads is accepted if and only if it is predicted. -/
theorem observe_outcome_eq_ok_iff {model next : Model} {call : Call}
    {outcome : Outcome (Option MetadataValue)}
    (shaped : ∀ value, outcome = .ok value → value.isSome = call.operation.reads) :
    model.observe call (.ofExcept outcome) outcome.toOption.join = .ok next ↔
      outcome = (model.predict call).answer ∧ model.after call = next := by
  rw [observe_eq_ok_iff, ← and_assoc]
  apply and_congr_left
  intro _
  cases outcome with
  | error kind =>
    cases prediction : model.predict call with
    | success value => simp [OutcomeClass.ofExcept, Prediction.outcome, Prediction.answer]
    | failure predicted =>
      simp [OutcomeClass.ofExcept, Prediction.outcome, Prediction.answer,
        Prediction.checkRetrieved, eq_comm]
  | ok value =>
    have reads := shaped value rfl
    rw [eq_comm (a := Except.ok value), Prediction.answer_eq_ok_iff]
    constructor
    · rintro ⟨success, checked⟩
      exact (checkRetrieved_eq_ok_iff
        (fun expected predicted => (isSome_of_predict predicted).trans reads.symm) success).mp
          checked
    · intro predicted
      have success : (model.predict call).outcome = .success := by
        rw [predicted]
        rfl
      exact ⟨success, (checkRetrieved_eq_ok_iff
        (fun expected predicted => (isSome_of_predict predicted).trans reads.symm) success).mpr
          predicted⟩

theorem observe_answer (model : Model) (call : Call) :
    model.observe call (.ofExcept (model.predict call).answer)
      (model.predict call).answer.toOption.join = .ok (model.after call) := by
  apply (observe_outcome_eq_ok_iff _).mpr ⟨rfl, rfl⟩
  intro value answered
  exact isSome_of_predict (Prediction.answer_eq_ok_iff.mp answered)

end Model

end PageMetadata
