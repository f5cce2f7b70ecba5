import PageMetadata.Proofs.Observation
import PageMetadata.Proofs.Separation
import PageMetadata.Proofs.Simulator.Alike

/-! # Tables do not interfere

For the simulator and for the model every table is a part of its own. Whatever the contract and the
faults, what is asked about a table is answered from its own past: requests about other tables could
as well not have been made.
-/

namespace PageMetadata

namespace Simulator

/-- Answers a request. -/
def exchange (simulator : Simulator) (request : Request) : Exchange × Simulator :=
  (⟨request, (simulator.respond request).1⟩, (simulator.respond request).2)

theorem separates (geometry : PageGeometry) :
    Separates exchange (fun request => geometry.tableOf request.address)
      (fun exchange => geometry.tableOf exchange.request.address)
      (fun table first second => first.geometry = geometry ∧ AlikeAt table first second) where
  shown_eq _ _ := rfl
  answer request first second := by
    rintro ⟨rfl, alike⟩
    simp only [exchange, alike.reply rfl]
  inside request first second := by
    rintro ⟨rfl, alike⟩
    exact ⟨geometry_respond first request, alike.respond rfl⟩
  elsewhere request first second := by
    rintro ⟨rfl, alike⟩ other
    exact ⟨geometry_respond first request, alike.respond_elsewhere other⟩

end Simulator

namespace Model

/-- The same is known of a table, under the same contract. -/
structure AlikeAt (table : Address) (first second : Model) : Prop where
  geometry : first.geometry = second.geometry
  contract : first.contract = second.contract
  state : ∀ address, first.geometry.tableOf address = table →
    first.table? address = second.table? address

namespace AlikeAt

theorem refl (table : Address) (model : Model) : AlikeAt table model model :=
  ⟨rfl, rfl, fun _ _ => rfl⟩

variable {table : Address} {first second : Model}

theorem lifecycle (alike : AlikeAt table first second) {address : Address}
    (inside : first.geometry.tableOf address = table) :
    first.lifecycle address = second.lifecycle address := by
  rw [Model.lifecycle, alike.state address inside, Model.lifecycle]

theorem value? (alike : AlikeAt table first second) {address : Address}
    (inside : first.geometry.tableOf address = table) :
    first.value? address = second.value? address := by
  rw [Model.value?, alike.state address inside, alike.geometry, Model.value?]

theorem predict (alike : AlikeAt table first second) {call : Call}
    (inside : first.geometry.tableOf call.address = table) :
    first.predict call = second.predict call := by
  rw [predict_eq, predict_eq, alike.contract, alike.lifecycle inside, alike.value? inside]

theorem verdict (alike : AlikeAt table first second) {observation : Observation}
    (inside : first.geometry.tableOf observation.call.address = table) :
    first.verdict observation = second.verdict observation := by
  simp only [Model.verdict, observe, violation, alike.predict inside, alike.lifecycle inside,
    alike.geometry]
  split
  · cases Prediction.checkRetrieved _ _ <;> rfl
  · rfl

theorem note (alike : AlikeAt table first second) {observation : Observation}
    (inside : first.geometry.tableOf observation.call.address = table) :
    AlikeAt table (first.note observation) (second.note observation) := by
  rw [note_eq, note_eq, alike.verdict inside]
  split
  · refine ⟨alike.geometry, alike.contract, ?_⟩
    intro address here
    rw [table?_follow, table?_follow, alike.geometry, alike.state address here]
  · exact alike

theorem note_elsewhere (alike : AlikeAt table first second) {observation : Observation}
    (other : first.geometry.tableOf observation.call.address ≠ table) :
    AlikeAt table (first.note observation) second := by
  rw [note_eq]
  split
  · refine ⟨alike.geometry, alike.contract, ?_⟩
    intro address here
    rw [table?_follow, if_neg fun same => other (same.symm.trans here)]
    exact alike.state address here
  · exact alike

end AlikeAt

/-- Judges an observation, and follows it if it is accepted. -/
def judge (model : Model) (observation : Observation) : (Observation × Except Error Unit) × Model :=
  ((observation, model.verdict observation), model.note observation)

@[simp] theorem geometry_note (model : Model) (observation : Observation) :
    (model.note observation).geometry = model.geometry := by
  rw [note_eq]
  split <;> rfl

theorem separates (geometry : PageGeometry) :
    Separates judge (fun observation => geometry.tableOf observation.call.address)
      (fun judged => geometry.tableOf judged.1.call.address)
      (fun table first second => first.geometry = geometry ∧ AlikeAt table first second) where
  shown_eq _ _ := rfl
  answer observation first second := by
    rintro ⟨rfl, alike⟩
    simp only [judge, alike.verdict rfl]
  inside observation first second := by
    rintro ⟨rfl, alike⟩
    exact ⟨geometry_note first observation, alike.note rfl⟩
  elsewhere observation first second := by
    rintro ⟨rfl, alike⟩ other
    exact ⟨geometry_note first observation, alike.note_elsewhere other⟩

end Model

/-- From any state, under any contract and any faults, the simulator answers and shows a table as if
the requests about other tables had not been made, so interleaving the requests about different
tables in another way changes no answer. The model predicts, shows and judges in the same way. -/
theorem tables_independent (simulator : Simulator) (model : Model) :
    (∀ history table,
      let own := history.filter fun request =>
        simulator.geometry.tableOf request.address = table
      let after := stateAfter Simulator.exchange simulator history
      let alone := stateAfter Simulator.exchange simulator own
      (∀ request, simulator.geometry.tableOf request.address = table →
        (after.respond request).1 = (alone.respond request).1) ∧
      (∀ address, simulator.geometry.tableOf address = table →
        after.isExpanded address = alone.isExpanded address ∧
          after.stored? address = alone.stored? address)) ∧
    (∀ first second,
      (∀ table,
        (first.filter fun request => simulator.geometry.tableOf request.address = table) =
          second.filter fun request => simulator.geometry.tableOf request.address = table) →
      ∀ table,
        ((answersTo Simulator.exchange simulator first).filter fun exchange =>
          simulator.geometry.tableOf exchange.request.address = table) =
        (answersTo Simulator.exchange simulator second).filter fun exchange =>
          simulator.geometry.tableOf exchange.request.address = table) ∧
    (∀ observations table,
      let own := observations.filter fun observation =>
        model.geometry.tableOf observation.call.address = table
      let after := model.noteAll observations
      let alone := model.noteAll own
      (∀ call, model.geometry.tableOf call.address = table →
        after.predict call = alone.predict call) ∧
      (∀ address, model.geometry.tableOf address = table →
        after.lifecycle address = alone.lifecycle address ∧
          after.value? address = alone.value? address)) ∧
    (∀ first second,
      (∀ table,
        (first.filter fun observation =>
          model.geometry.tableOf observation.call.address = table) =
        second.filter fun observation =>
          model.geometry.tableOf observation.call.address = table) →
      ∀ table,
        ((answersTo Model.judge model first).filter fun judged =>
          model.geometry.tableOf judged.1.call.address = table) =
        (answersTo Model.judge model second).filter fun judged =>
          model.geometry.tableOf judged.1.call.address = table) := by
  have simulated := Simulator.separates simulator.geometry
  have modelled := Model.separates model.geometry
  refine ⟨?_, ?_, ?_, ?_⟩
  · intro history table own after alone
    obtain ⟨geometry, alike⟩ :=
      simulated.stateAfter_filter ⟨rfl, Simulator.AlikeAt.refl table simulator⟩ history
    refine ⟨?_, ?_⟩
    · intro request inside
      rw [← geometry] at inside
      exact alike.reply inside
    · intro address inside
      rw [← geometry] at inside
      exact ⟨alike.expanded address inside, alike.stored address inside⟩
  · intro first second interleaved table
    exact simulated.answersTo_interleaved ⟨rfl, Simulator.AlikeAt.refl table simulator⟩
      (interleaved table)
  · intro observations table own after alone
    obtain ⟨geometry, alike⟩ :=
      modelled.stateAfter_filter ⟨rfl, Model.AlikeAt.refl table model⟩ observations
    refine ⟨?_, ?_⟩
    · intro call inside
      rw [← geometry] at inside
      exact alike.predict inside
    · intro address inside
      rw [← geometry] at inside
      exact ⟨alike.lifecycle inside, alike.value? inside⟩
  · intro first second interleaved table
    exact modelled.answersTo_interleaved ⟨rfl, Model.AlikeAt.refl table model⟩
      (interleaved table)

/-- Two tables of two pages each, on a simulator whose pages share one value and keep it: the second
page of the first table is set, torn down and read again between requests about the other table. -/
theorem shared_slots_independent :
    let geometry : PageGeometry := ⟨4, by decide, by decide⟩
    let simulator : Simulator :=
      ⟨{ SimulatorConfig.standard with
          pageSize := 16, faults := .union .sharedSlot .stickyMetadata }, geometry, .empty⟩
    let model := Model.empty geometry .standard
    let set : Request := .setInline ⟨0x30⟩ 7
    let teardown : Request := .disable ⟨0x20⟩
    let other : Request := .enable ⟨0x40⟩
    let read : Request := .getInline ⟨0x20⟩
    let first := [set, other, teardown]
    let second := [other, set, teardown]
    let wrote : Observation := ⟨.set ⟨0x30⟩ (.inline ⟨.scalar, 7⟩), .success, none⟩
    let refused : Observation := ⟨.enable ⟨0x40⟩, .failure .noData, none⟩
    let observations := [wrote, refused]
    let shuffled := [refused, wrote]
    simulator.geometry.tableOf read.address = ⟨0x20⟩ ∧
    ((stateAfter Simulator.exchange simulator first).respond read).1 =
      ((stateAfter Simulator.exchange simulator [set, teardown]).respond read).1 ∧
    (∀ table,
      (first.filter fun request => simulator.geometry.tableOf request.address = table) =
        second.filter fun request => simulator.geometry.tableOf request.address = table) ∧
    ((answersTo Simulator.exchange simulator first).filter fun exchange =>
        simulator.geometry.tableOf exchange.request.address = ⟨0x20⟩) =
      ((answersTo Simulator.exchange simulator second).filter fun exchange =>
        simulator.geometry.tableOf exchange.request.address = ⟨0x20⟩) ∧
    (model.noteAll observations).predict (.get ⟨0x30⟩ .inline) =
      (model.noteAll [wrote]).predict (.get ⟨0x30⟩ .inline) ∧
    (∀ table,
      (observations.filter fun observation =>
        model.geometry.tableOf observation.call.address = table) =
      shuffled.filter fun observation =>
        model.geometry.tableOf observation.call.address = table) ∧
    ((answersTo Model.judge model observations).filter fun judged =>
        model.geometry.tableOf judged.1.call.address = ⟨0x40⟩) =
      (answersTo Model.judge model shuffled).filter fun judged =>
        model.geometry.tableOf judged.1.call.address = ⟨0x40⟩ := by
  intro geometry simulator model set teardown other read first second wrote refused observations
    shuffled
  have near : geometry.tableOf ⟨0x30⟩ = ⟨0x20⟩ := by decide
  have here : geometry.tableOf ⟨0x20⟩ = ⟨0x20⟩ := by decide
  have far : geometry.tableOf ⟨0x40⟩ = ⟨0x40⟩ := by decide
  have requests : ∀ table,
      (first.filter fun request => simulator.geometry.tableOf request.address = table) =
        second.filter fun request => simulator.geometry.tableOf request.address = table := by
    intro table
    simp only [first, second, set, teardown, other, simulator, Request.address, List.filter_cons,
      near, here, far]
    by_cases lower : (⟨0x20⟩ : Address) = table
    · subst lower
      decide
    · simp [lower]
  have judged : ∀ table,
      (observations.filter fun observation =>
        model.geometry.tableOf observation.call.address = table) =
      shuffled.filter fun observation =>
        model.geometry.tableOf observation.call.address = table := by
    intro table
    have sameGeometry : model.geometry = geometry := rfl
    simp only [observations, shuffled, wrote, refused, sameGeometry, Call.address,
      List.filter_cons, near, far]
    by_cases lower : (⟨0x20⟩ : Address) = table
    · subst lower
      decide
    · simp [lower]
  have ownRequests :
      (first.filter fun request => simulator.geometry.tableOf request.address = ⟨0x20⟩) =
        [set, teardown] := by
    dsimp +zetaDelta only
    decide
  have ownObservations :
      (observations.filter fun observation =>
        model.geometry.tableOf observation.call.address = ⟨0x20⟩) = [wrote] := by
    dsimp +zetaDelta only
    decide
  obtain ⟨alone, interleaved, modelAlone, modelInterleaved⟩ := tables_independent simulator model
  obtain ⟨answered, _⟩ := alone first ⟨0x20⟩
  obtain ⟨predicted, _⟩ := modelAlone observations ⟨0x20⟩
  rw [ownRequests] at answered
  rw [ownObservations] at predicted
  exact ⟨here, answered read here, requests, interleaved first second requests _,
    predicted (.get ⟨0x30⟩ .inline) near, judged, modelInterleaved observations shuffled judged _⟩

end PageMetadata
