import PageMetadata.Proofs.Simulator.Agreement

/-! # The simulator and the model in lock step

A client of a faultless simulator makes calls one after another, and the model observes each of
them. Starting with no table expanded, every call ends as the model predicts, the model accepts what
was observed, and after every call both hold the same lifecycles and the same values. A structured
read for which there is no buffer is not made: it finds no structured value in the model, and leaves
both as they were.
-/

namespace PageMetadata

namespace SizedCall

/-- The call has an address, its value an encoding, and a structured read has room for the payload
that the page holds, or, if it holds none, for any number of bytes that a word counts with the
header. -/
structure Admissible (layout : HeaderLayout) (model : Model) (sized : SizedCall) : Prop where
  mapped : sized.call.address ≠ .null
  encodable : ∀ address value, sized.call = .set address value →
    ∃ stored, value.encode layout = .ok stored
  room : model.HasRoom sized.call sized.payloadLength
  counted : ∀ address, sized.call = .get address .structured →
    (∀ metadata, model.value? address ≠ some (.structured metadata)) →
      layout.headerLength + sized.payloadLength < UInt64.size

theorem admissible_of_unheld {layout : HeaderLayout} {model : Model} {address : Address}
    {payloadLength : Nat} (mapped : address ≠ .null)
    (unheld : ∀ metadata, model.value? address ≠ some (.structured metadata))
    (counted : layout.headerLength + payloadLength < UInt64.size) :
    Admissible layout model ⟨.get address .structured, payloadLength⟩ where
  mapped := mapped
  encodable _ _ same := nomatch same
  room := by
    rintro _ metadata ⟨⟩ held
    exact absurd held (unheld metadata)
  counted _ _ _ := counted

/-- Every call is admissible in the state that the calls before it lead to. -/
def AllAdmissible (layout : HeaderLayout) : Model → List SizedCall → Prop
  | _, [] => True
  | model, sized :: rest =>
    sized.Admissible layout model ∧ AllAdmissible layout (model.after sized.call) rest

end SizedCall

/-- The model after calls that all ended as predicted. A read that was not made changes nothing. -/
def Model.afterAll (model : Model) (calls : List SizedCall) : Model :=
  calls.foldl (fun model sized => model.after sized.call) model

theorem SizedCall.allAdmissible_append {layout : HeaderLayout} {model : Model}
    {calls later : List SizedCall} :
    AllAdmissible layout model (calls ++ later) ↔
      AllAdmissible layout model calls ∧ AllAdmissible layout (model.afterAll calls) later := by
  induction calls generalizing model with
  | nil => simp [AllAdmissible, Model.afterAll]
  | cons sized rest ih =>
    rw [List.cons_append, AllAdmissible, ih, AllAdmissible, and_assoc]
    rfl

namespace Client

variable {σ : Type}

/-- Makes a call and shows the model what was observed; `none` if the call has no outcome or the
model does not accept it. A read without a buffer is not made, and there is nothing to observe. -/
def observedCall? (client : Client σ) (state : Session σ × Model) (sized : SizedCall) :
    Option (Session σ × Model) :=
  match client.callSized state.1 sized with
  | .ok (.ok outcome, session) =>
    match state.2.observe sized.call (.ofExcept outcome) outcome.toOption.join with
    | .ok model => some (session, model)
    | .error _ => none
  | .error .capacity => some state
  | _ => none

/-- Makes calls one after another. -/
def observedCalls? (client : Client σ) (state : Session σ × Model) (calls : List SizedCall) :
    Option (Session σ × Model) :=
  calls.foldlM client.observedCall? state

end Client

namespace Simulator

/-- Both hold the same lifecycles and, one of them encoded, the same values. -/
def Mirrors (layout : HeaderLayout) (simulator : Simulator) (model : Model) : Prop :=
  ∀ address,
    (simulator.isExpanded address = true ↔ model.lifecycle address = .expanded) ∧
      Stored.Encodes layout (simulator.stored? address) (model.value? address)

theorem Agrees.mirrors {layout : HeaderLayout} {simulator : Simulator} {model : Model}
    (agrees : Agrees (fun _ => True) layout simulator model) :
    simulator.Mirrors layout model := by
  intro address
  rw [isExpanded_iff, agrees.lifecycle address trivial]
  exact ⟨Iff.rfl, agrees.stored address trivial⟩

/-- Held values are short enough for a buffer with their header. -/
theorem Agrees.buffer {scope : Address → Prop} {layout : HeaderLayout} {simulator : Simulator}
    {model : Model} (agrees : Agrees scope layout simulator model) {address : Address}
    (inside : scope (model.geometry.tableOf address)) {metadata : StructuredMetadata}
    (held : model.value? address = some (.structured metadata)) :
    layout.headerLength + metadata.payload.length < lengthLimit := by
  obtain ⟨stored, _, encoded⟩ := agrees.exists_stored? inside held
  obtain ⟨bytes, encoded, _⟩ := map_eq_ok_iff.mp encoded
  exact StructuredMetadata.length_of_encode_lt encoded

/-- Without a buffer nothing is held that could be read: the call is not made, and the model
expects no change either. -/
theorem Agrees.unbuffered {σ : Type} {client : Client σ} {simulator : Simulator}
    {model : Model} (agrees : Agrees (fun _ => True) client.layout simulator model)
    {sized : SizedCall} (admissible : sized.Admissible client.layout model)
    (missing : ¬ sized.HasBuffer client.layout) (session : Session σ) :
    client.callSized session sized = .error .capacity ∧ model.after sized.call = model := by
  obtain ⟨call, payloadLength⟩ := sized
  simp only [SizedCall.HasBuffer, not_forall, Nat.not_lt] at missing
  obtain ⟨address, rfl, long⟩ := missing
  -- A payload that is held fits a buffer, so the page that is read holds none.
  have unheld : ∀ metadata, model.value? address ≠ some (.structured metadata) := by
    intro metadata held
    have short := agrees.buffer trivial held
    rw [← admissible.room address metadata rfl held] at short
    exact Nat.not_lt.mpr long short
  exact ⟨client.callSized_eq_capacity session address long (admissible.counted address rfl unheld),
    Model.after_get_structured unheld⟩

/-- One call in lock step. -/
theorem Agrees.callSized {σ : Type} {view : σ → Simulator} {client : Client σ}
    {session : Session σ} {model : Model} (drives : Drives view client.collaborator)
    (standard : client.classifier = .standard)
    (agrees : Agrees (fun _ => True) client.layout (view session.state) model)
    {sized : SizedCall} (admissible : sized.Admissible client.layout model)
    (buffer : sized.HasBuffer client.layout) :
    ∃ next, client.callSized session sized = .ok (.ok (model.predict sized.call).answer, next) ∧
      Agrees (fun _ => True) client.layout (view next.state) (model.after sized.call) := by
  obtain ⟨answered, _, next⟩ := agrees.call drives standard admissible.mapped trivial
    admissible.encodable admissible.room
  refine ⟨_, ?_, next⟩
  rw [client.callSized_eq session buffer, ← answered]

/-- One call, made or not, and what the model sees of it. -/
theorem Agrees.observedCall? {σ : Type} {view : σ → Simulator} {client : Client σ}
    {session : Session σ} {model : Model} (drives : Drives view client.collaborator)
    (standard : client.classifier = .standard)
    (agrees : Agrees (fun _ => True) client.layout (view session.state) model)
    {sized : SizedCall} (admissible : sized.Admissible client.layout model) :
    ∃ next, client.observedCall? (session, model) sized = some (next, model.after sized.call) ∧
      Agrees (fun _ => True) client.layout (view next.state) (model.after sized.call) := by
  by_cases buffer : sized.HasBuffer client.layout
  · obtain ⟨next, answered, after⟩ := agrees.callSized drives standard admissible buffer
    refine ⟨next, ?_, after⟩
    simp only [Client.observedCall?, answered, Model.observe_answer]
  · obtain ⟨stopped, unchanged⟩ := agrees.unbuffered admissible buffer session
    refine ⟨session, ?_, unchanged.symm ▸ agrees⟩
    simp only [Client.observedCall?, stopped, unchanged]

/-- Calls one after another stay in lock step. -/
theorem Agrees.observedCalls? {σ : Type} {view : σ → Simulator} {client : Client σ}
    {session : Session σ} {model : Model} (drives : Drives view client.collaborator)
    (standard : client.classifier = .standard)
    (agrees : Agrees (fun _ => True) client.layout (view session.state) model)
    {calls : List SizedCall} (admissible : SizedCall.AllAdmissible client.layout model calls) :
    ∃ next, client.observedCalls? (session, model) calls = some (next, model.afterAll calls) ∧
      Agrees (fun _ => True) client.layout (view next.state) (model.afterAll calls) := by
  induction calls generalizing session model with
  | nil => exact ⟨session, rfl, agrees⟩
  | cons sized rest ih =>
    obtain ⟨first, later⟩ := admissible
    obtain ⟨middle, observed, agrees⟩ := agrees.observedCall? drives standard first
    obtain ⟨next, performed, agrees⟩ := ih agrees later
    refine ⟨next, ?_, agrees⟩
    rw [Client.observedCalls?, List.foldlM_cons, observed]
    exact performed

/-- However many calls were made, the next one, if there is a buffer for it, ends as the model
predicts and the model accepts it, and before and after it the simulator holds what the model holds.
A structured read without a buffer is not made. -/
theorem calls_in_lockstep {σ : Type} {view : σ → Simulator} {client : Client σ}
    (drives : Drives view client.collaborator) (standard : client.classifier = .standard)
    {config : SimulatorConfig} {initial : Simulator} (started : ofConfig? config = some initial)
    (faultless : config.faults = .none) (layout : client.layout = config.headerLayout)
    {state : σ} (fresh : view state = initial) (memory : Memory) (calls : List SizedCall)
    (sized : SizedCall)
    (admissible : SizedCall.AllAdmissible client.layout (.empty initial.geometry config.contract)
      (calls ++ [sized])) :
    ∃ session model,
      client.observedCalls? (.start state memory, .empty initial.geometry config.contract) calls =
          some (session, model) ∧
        (view session.state).Mirrors client.layout model ∧
        (sized.HasBuffer client.layout → ∃ outcome nextSession nextModel,
          client.callSized session sized = .ok (.ok outcome, nextSession) ∧
            .ofExcept outcome = (model.predict sized.call).outcome ∧
            (∀ value, outcome = .ok value → model.predict sized.call = .success value) ∧
            model.observe sized.call (.ofExcept outcome) outcome.toOption.join = .ok nextModel ∧
            (view nextSession.state).Mirrors client.layout nextModel) ∧
        (¬ sized.HasBuffer client.layout →
          client.callSized session sized = .error .capacity) := by
  subst fresh
  have sameConfig := config_of_ofConfig? started
  have start : Agrees (fun _ => True) client.layout (view (Session.start state memory).state)
      (.empty (view state).geometry config.contract) := by
    rw [layout, ← sameConfig]
    apply agrees_of_unexpanded
    · rw [sameConfig, faultless]
    · exact fun address _ => stored?_of_ofConfig? started address
    · exact fun address _ => isExpanded_of_ofConfig? started address
  obtain ⟨earlier, last⟩ := SizedCall.allAdmissible_append.mp admissible
  obtain ⟨session, performed, agrees⟩ := Agrees.observedCalls? drives standard start earlier
  refine ⟨session, _, performed, agrees.mirrors, ?_, ?_⟩
  · intro buffer
    obtain ⟨next, answered, after⟩ := agrees.callSized drives standard last.1 buffer
    refine ⟨_, next, _, answered, Prediction.ofExcept_answer _, ?_, Model.observe_answer _ _,
      after.mirrors⟩
    intro value answer
    exact Prediction.answer_eq_ok_iff.mp answer
  · intro missing
    exact (agrees.unbuffered last.1 missing session).1

/-- A structured value is set at one address of a page, a read without a buffer is not made at
another page, and the value is read at another address of its page. -/
theorem structured_value_in_lockstep :
    let client : Client Simulator := ⟨collaborator, .standard, .compact⟩
    let geometry : PageGeometry := ⟨12, by decide, by decide⟩
    let calls : List SizedCall :=
      [⟨.set ⟨0x1003⟩ (.structured ⟨1, 2, [7, 8]⟩), 0⟩,
        ⟨.get ⟨0x2000⟩ .structured, 0x8000000000000000⟩]
    let sized : SizedCall := ⟨.get ⟨0x1ff8⟩ .structured, 2⟩
    ofConfig? .standard = some ⟨.standard, geometry, .empty⟩ ∧
      SizedCall.AllAdmissible .compact (.empty geometry .standard) (calls ++ [sized]) ∧
      sized.HasBuffer .compact ∧
      ∃ session model,
        client.observedCalls? (.start ⟨.standard, geometry, .empty⟩ .empty,
            .empty geometry .standard) calls = some (session, model) ∧
          session.state.Mirrors .compact model ∧
          (sized.HasBuffer .compact → ∃ outcome nextSession nextModel,
            client.callSized session sized = .ok (.ok outcome, nextSession) ∧
              .ofExcept outcome = (model.predict sized.call).outcome ∧
              (∀ value, outcome = .ok value → model.predict sized.call = .success value) ∧
              model.observe sized.call (.ofExcept outcome) outcome.toOption.join = .ok nextModel ∧
              nextSession.state.Mirrors .compact nextModel) ∧
          (¬ sized.HasBuffer .compact → client.callSized session sized = .error .capacity) := by
  intro client geometry calls sized
  have held : ((Model.empty geometry .standard).afterAll calls).value? ⟨0x1ff8⟩ =
      some (.structured ⟨1, 2, [7, 8]⟩) := by decide
  have first : SizedCall.Admissible .compact (.empty geometry .standard)
      ⟨.set ⟨0x1003⟩ (.structured ⟨1, 2, [7, 8]⟩), 0⟩ := by
    refine ⟨by decide, ?_, ?_, ?_⟩
    · rintro address value same
      cases same
      exact ⟨_, rfl⟩
    · rintro address metadata same
      cases same
    · rintro address same
      cases same
  have second : SizedCall.Admissible .compact
      ((Model.empty geometry .standard).after (.set ⟨0x1003⟩ (.structured ⟨1, 2, [7, 8]⟩)))
      ⟨.get ⟨0x2000⟩ .structured, 0x8000000000000000⟩ := by
    have unset : ((Model.empty geometry .standard).after
        (.set ⟨0x1003⟩ (.structured ⟨1, 2, [7, 8]⟩))).value? ⟨0x2000⟩ = none := by decide
    apply SizedCall.admissible_of_unheld (by decide) _ (by decide)
    exact fun metadata found => nomatch unset.symm.trans found
  have third : sized.Admissible .compact ((Model.empty geometry .standard).afterAll calls) := by
    refine ⟨by decide, ?_, ?_, ?_⟩
    · rintro address value same
      cases same
    · rintro address metadata same found
      cases same
      cases held.symm.trans found
      rfl
    · rintro address same unheld
      cases same
      exact absurd held (unheld _)
  have admissible : SizedCall.AllAdmissible .compact (.empty geometry .standard)
      (calls ++ [sized]) := ⟨first, second, third, trivial⟩
  have buffer : sized.HasBuffer .compact := by
    rintro address same
    decide
  have started : ofConfig? .standard = some ⟨.standard, geometry, .empty⟩ := rfl
  have drives : Drives id client.collaborator := drives_collaborator
  exact ⟨started, admissible, buffer, calls_in_lockstep drives rfl started rfl rfl rfl .empty calls
    sized admissible⟩

/-- With room for half the address space the length of the buffer is still a word, but there is no
such buffer: the first call is out of step already, for it does not end as predicted. -/
theorem read_without_buffer_out_of_step :
    let client : Client Simulator := ⟨collaborator, .standard, .compact⟩
    let geometry : PageGeometry := ⟨12, by decide, by decide⟩
    let model : Model := .empty geometry .standard
    let session : Session Simulator := .start ⟨.standard, geometry, .empty⟩ .empty
    let sized : SizedCall := ⟨.get ⟨0x1000⟩ .structured, 0x8000000000000000⟩
    ofConfig? .standard = some ⟨.standard, geometry, .empty⟩ ∧
      sized.Admissible .compact model ∧
      (model.predict sized.call).outcome = .failure .noData ∧
      client.callSized session sized = .error .capacity ∧
      ¬ ∃ outcome next, client.callSized session sized = .ok (.ok outcome, next) ∧
        .ofExcept outcome = (model.predict sized.call).outcome := by
  intro client geometry model session sized
  have unset : model.value? ⟨0x1000⟩ = none := by decide
  have admissible : sized.Admissible .compact model :=
    SizedCall.admissible_of_unheld (by decide)
      (fun metadata found => nomatch unset.symm.trans found) (by decide)
  have stopped : client.callSized session sized = .error .capacity :=
    client.callSized_eq_capacity session ⟨0x1000⟩ (by decide) (by decide)
  refine ⟨rfl, admissible, rfl, stopped, ?_⟩
  rintro ⟨outcome, next, called, _⟩
  cases stopped.symm.trans called

end Simulator

end PageMetadata
