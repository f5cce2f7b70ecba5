import PageMetadata.Proofs.Simulator.Transition

/-! # The simulator keeps to the model

Without faults the simulator and the model agree on the tables of a scope: on every lifecycle, and
on every value and its encoding. As long as they agree, every call is answered as the model predicts
it, and they agree again afterwards.
-/

namespace PageMetadata

/-- The contract that a simulator is configured for. -/
def SimulatorConfig.contract (config : SimulatorConfig) : Contract :=
  ⟨config.autoExpandOnSet, config.unsetRead⟩

/-- A collaborator that answers like the simulator in its state; its times are left open. -/
structure Simulator.Drives {σ : Type} (view : σ → Simulator) (collaborator : Collaborator σ) :
    Prop where
  result : ∀ state memory request,
    (collaborator.respond state memory request).1.result = ((view state).respond request).1.result
  writes : ∀ state memory request, (collaborator.respond state memory request).1.writes = []
  next : ∀ state memory request,
    view (collaborator.respond state memory request).2 = ((view state).respond request).2

theorem Simulator.drives_collaborator : Simulator.Drives id Simulator.collaborator where
  result _ _ _ := rfl
  writes _ _ request := writes_respond _ request
  next _ _ _ := rfl

/-- A structured read has room for exactly the payload that its page holds, if it holds one. -/
def Model.HasRoom (model : Model) (call : Call) (payloadLength : Nat) : Prop :=
  ∀ address metadata, call = .get address .structured →
    model.value? address = some (.structured metadata) → payloadLength = metadata.payload.length

namespace Simulator

/-- The state of a faultless simulator is what the model expects, on the tables of a scope. -/
structure Agrees (scope : Address → Prop) (layout : HeaderLayout) (simulator : Simulator)
    (model : Model) : Prop where
  faultless : simulator.config.faults = .none
  sameLayout : simulator.config.headerLayout = layout
  geometry : simulator.geometry = model.geometry
  contract : simulator.config.contract = model.contract
  lifecycle : ∀ address, scope (model.geometry.tableOf address) →
    simulator.lifecycle address = model.lifecycle address
  stored : ∀ address, scope (model.geometry.tableOf address) →
    Stored.Encodes layout (simulator.stored? address) (model.value? address)

theorem hasFault_eq_false {simulator : Simulator} (faultless : simulator.config.faults = .none)
    (fault : Faults) (named : fault ∈ Faults.named.map Prod.snd) :
    simulator.hasFault fault = false := by
  rw [hasFault, faultless]
  revert fault
  decide

/-- The outcome that a request has under the standard rules. -/
def outcome (simulator : Simulator) (request : Request) : Outcome request.Content :=
  (simulator.respond request).1.result.mapError (Classifier.standard.classify request.operation)

/-- A request that is answered as predicted succeeds exactly if success is predicted. -/
theorem isOk_respond_of_interpret {σ : Type} {client : Client σ} {simulator : Simulator}
    {request : Request} {prediction : Prediction}
    (answered : client.interpret request (simulator.outcome request) = .ok prediction.answer) :
    (simulator.respond request).1.result.isOk = decide (prediction.outcome = .success) := by
  rw [← Prediction.isOk_answer, ← Client.isOk_of_interpret answered, outcome, isOk_mapError]

section Outcome

variable {simulator : Simulator} {address : Address} (mapped : address ≠ .null)

include mapped

theorem outcome_enable :
    simulator.outcome (.enable address) =
      if simulator.isExpanded address && !simulator.hasFault .permissiveEnable then
        .error .alreadyExpanded
      else .ok () := by
  simp only [outcome, respond, enable_eq, if_neg mapped]
  split <;> rfl

theorem outcome_disable :
    simulator.outcome (.disable address) =
      if simulator.isExpanded address then .ok () else .error .notExpanded := by
  simp only [outcome, respond, disable_eq, if_neg mapped]
  split <;> rfl

theorem outcome_setInline (word : UInt64) :
    simulator.outcome (.setInline address word) =
      if simulator.isExpanded address || simulator.config.autoExpandOnSet then .ok ()
      else .error .notExpanded := by
  simp only [outcome, respond, setInline_eq, if_neg mapped]
  split <;> rfl

theorem outcome_setStructured {bytes : List UInt8} {metadata : StructuredMetadata}
    (encoded : metadata.encode simulator.config.headerLayout = .ok bytes) :
    simulator.outcome (.setStructured address bytes) =
      if simulator.isExpanded address || simulator.config.autoExpandOnSet then .ok ()
      else .error .notExpanded := by
  rw [← StructuredMetadata.decode_eq_ok_iff_encode] at encoded
  rw [outcome, result_setStructured mapped, encoded]
  dsimp only
  split <;> rfl

theorem outcome_getInline :
    simulator.outcome (.getInline address) =
      if simulator.isExpanded address then
        match simulator.stored? address with
        | some (.inline word) =>
          .ok (if simulator.hasFault .corruptPayload then word ^^^ 1 else word)
        | some (.structured _) => .error .invalidArgument
        | none =>
          match simulator.config.unsetRead with
          | .zeroed => .ok 0
          | .noData => .error .noData
      else .error .noData := by
  simp only [outcome, respond, getInline, checkAddress_eq, if_neg mapped]
  cases simulator.isExpanded address with
  | false => rfl
  | true =>
    rcases simulator.stored? address with _ | word | bytes
    · cases simulator.config.unsetRead <;> rfl
    · rfl
    · rfl

theorem outcome_getStructured (honest : simulator.hasFault .corruptPayload = false)
    (buffer : List UInt8) :
    simulator.outcome (.getStructured address buffer) =
      if simulator.isExpanded address then
        match simulator.stored? address with
        | some (.structured bytes) =>
          if buffer.length < bytes.length then .error .invalidArgument
          else .ok (bytes ++ List.replicate (buffer.length - bytes.length) 0)
        | some (.inline _) => .error .invalidArgument
        | none => .error .noData
      else .error .noData := by
  simp only [outcome, respond_getStructured, readStructured, checkAddress_eq, if_neg mapped, honest]
  cases simulator.isExpanded address with
  | false => rfl
  | true =>
    rcases simulator.stored? address with _ | word | bytes
    · rfl
    · rfl
    · by_cases short : buffer.length < bytes.length
      · simp only [if_pos short]
        rfl
      · simp only [if_neg short]
        rfl

end Outcome

namespace Agrees

variable {scope : Address → Prop} {layout : HeaderLayout} {simulator : Simulator} {model : Model}
  {σ : Type} {client : Client σ}

theorem isExpanded_eq (agrees : Agrees scope layout simulator model) {address : Address}
    (inside : scope (model.geometry.tableOf address)) :
    simulator.isExpanded address = decide (model.lifecycle address = .expanded) := by
  rw [Bool.eq_iff_iff, isExpanded_iff, agrees.lifecycle address inside, decide_eq_true_iff]

theorem stored?_eq_none (agrees : Agrees scope layout simulator model) {address : Address}
    (inside : scope (model.geometry.tableOf address)) (unset : model.value? address = none) :
    simulator.stored? address = none :=
  Stored.encodes_none_iff.mp (unset ▸ agrees.stored address inside)

theorem exists_stored? (agrees : Agrees scope layout simulator model) {address : Address}
    (inside : scope (model.geometry.tableOf address)) {value : MetadataValue}
    (held : model.value? address = some value) :
    ∃ stored, simulator.stored? address = some stored ∧ value.encode layout = .ok stored :=
  Stored.encodes_some_iff.mp (held ▸ agrees.stored address inside)

private theorem answer_getInline (agrees : Agrees scope layout simulator model) {address : Address}
    (mapped : address ≠ .null) (inside : scope (model.geometry.tableOf address)) :
    client.interpret (.getInline address) (simulator.outcome (.getInline address)) =
      .ok (model.predict (.get address .inline)).answer := by
  have unsetRead : simulator.config.unsetRead = model.contract.unsetRead :=
    congrArg Contract.unsetRead agrees.contract
  have honest := hasFault_eq_false agrees.faultless .corruptPayload (by decide)
  rw [outcome_getInline mapped, agrees.isExpanded_eq inside, honest]
  cases held : model.lifecycle address with
  | unexpanded => simp only [Model.predict, Call.address, held]; rfl
  | expanded =>
    simp only [Model.predict, Call.address, held, Model.predictRead, decide_true, if_true]
    cases found : model.value? address with
    | none =>
      have zero : InlineMetadata.decode 0 = ⟨.scalar, 0⟩ := by decide
      rw [agrees.stored?_eq_none inside found, unsetRead]
      cases model.contract.unsetRead with
      | noData => rfl
      | zeroed =>
        simp only [Client.interpret, Except.map, zero]
        rfl
    | some value =>
      obtain ⟨stored, kept, encoded⟩ := agrees.exists_stored? inside found
      rw [kept]
      rw [MetadataValue.encode_eq_ok_iff_decode] at encoded
      cases stored with
      | inline word =>
        cases encoded
        rfl
      | structured bytes =>
        obtain ⟨metadata, _, rfl⟩ := map_eq_ok_iff.mp encoded
        rfl

private theorem answer_getStructured (agrees : Agrees scope client.layout simulator model)
    {address : Address}
    (mapped : address ≠ .null) (inside : scope (model.geometry.tableOf address))
    {payloadLength : Nat} (room : model.HasRoom (.get address .structured) payloadLength) :
    let request := .getStructured address
      (List.replicate (client.layout.headerLength + payloadLength) 0)
    client.interpret request (simulator.outcome request) =
      .ok (model.predict (.get address .structured)).answer := by
  have honest := hasFault_eq_false agrees.faultless .corruptPayload (by decide)
  dsimp only
  rw [outcome_getStructured mapped honest, agrees.isExpanded_eq inside]
  cases held : model.lifecycle address with
  | unexpanded => simp only [Model.predict, Call.address, held]; rfl
  | expanded =>
    simp only [Model.predict, Call.address, held, Model.predictRead, decide_true, if_true]
    cases found : model.value? address with
    | none =>
      rw [agrees.stored?_eq_none inside found]
      cases model.contract.unsetRead <;> rfl
    | some value =>
      obtain ⟨stored, kept, encoded⟩ := agrees.exists_stored? inside found
      rw [kept]
      rw [MetadataValue.encode_eq_ok_iff_decode] at encoded
      cases stored with
      | inline word =>
        cases encoded
        rfl
      | structured bytes =>
        obtain ⟨metadata, decoded, rfl⟩ := map_eq_ok_iff.mp encoded
        have length := StructuredMetadata.length_of_encode
          ((metadata.decode_eq_ok_iff_encode _ _).mp decoded)
        rw [room address metadata rfl found, List.length_replicate, ← length]
        simp only [Nat.lt_irrefl, if_false, Nat.sub_self, List.replicate_zero, List.append_nil,
          Client.interpret, decoded]
        rfl

/-- A request that makes a call is answered as the model predicts the call. -/
theorem interpret_outcome (agrees : Agrees scope client.layout simulator model)
    {call : Call}
    (mapped : call.address ≠ .null) (inside : scope (model.geometry.tableOf call.address))
    {payloadLength : Nat} (room : model.HasRoom call payloadLength) {request : Request}
    (requested : client.request call payloadLength = .ok request) :
    client.interpret request (simulator.outcome request) = .ok (model.predict call).answer := by
  have autoExpand : simulator.config.autoExpandOnSet = model.contract.autoExpandOnSet :=
    congrArg Contract.autoExpandOnSet agrees.contract
  have expanded := agrees.isExpanded_eq inside
  cases call with
  | enable address =>
    cases requested
    have nonnull : address ≠ .null := mapped
    have strict := hasFault_eq_false agrees.faultless .permissiveEnable (by decide)
    rw [outcome_enable nonnull, strict, Bool.not_false, Bool.and_true]
    cases held : model.lifecycle address <;>
      · simp only [Call.address, held] at expanded
        simp only [Model.predict, Call.address, held, expanded]
        rfl
  | disable address =>
    cases requested
    have nonnull : address ≠ .null := mapped
    rw [outcome_disable nonnull]
    cases held : model.lifecycle address <;>
      · simp only [Call.address, held] at expanded
        simp only [Model.predict, Call.address, held, expanded]
        rfl
  | set address value =>
    have nonnull : address ≠ .null := mapped
    obtain ⟨stored, encoded, rfl⟩ := map_eq_ok_iff.mp requested
    have interpreted : client.interpret (stored.request address)
        (simulator.outcome (stored.request address)) =
          .ok (if simulator.isExpanded address || simulator.config.autoExpandOnSet then .ok none
            else .error .notExpanded) := by
      cases stored with
      | inline word =>
        simp only [Stored.request, outcome_setInline nonnull]
        split <;> rfl
      | structured bytes =>
        rw [MetadataValue.encode_eq_ok_iff_decode] at encoded
        obtain ⟨metadata, decoded, rfl⟩ := map_eq_ok_iff.mp encoded
        rw [StructuredMetadata.decode_eq_ok_iff_encode, ← agrees.sameLayout] at decoded
        simp only [Stored.request, outcome_setStructured nonnull decoded]
        split <;> rfl
    rw [interpreted, autoExpand]
    cases held : model.lifecycle address with
    | unexpanded =>
      simp only [Call.address, held] at expanded
      simp only [Model.predict, Call.address, held, expanded]
      cases model.contract.autoExpandOnSet <;> rfl
    | expanded =>
      simp only [Call.address, held] at expanded
      simp only [Model.predict, Call.address, held, expanded]
      rfl
  | get address encoding =>
    cases encoding with
    | inline =>
      cases requested
      exact agrees.answer_getInline mapped inside
    | structured =>
      cases requested
      exact agrees.answer_getStructured mapped inside room

theorem slotOf_eq (agrees : Agrees scope layout simulator model) (address : Address) :
    simulator.slotOf address = model.geometry.pageIndex address := by
  have apart := hasFault_eq_false agrees.faultless .sharedSlot (by decide)
  rw [slotOf, apart, agrees.geometry]
  rfl

/-- A successful request and the call that it makes lead to states that agree. -/
theorem follow (agrees : Agrees scope client.layout simulator model)
    {call : Call} {payloadLength : Nat}
    {request : Request} (requested : client.request call payloadLength = .ok request) :
    Agrees scope client.layout (simulator.follow request) (model.follow call) where
  faultless := by rw [config_follow, agrees.faultless]
  sameLayout := by rw [config_follow, agrees.sameLayout]
  geometry := by rw [geometry_follow, agrees.geometry, Model.geometry_follow]
  contract := by rw [config_follow, agrees.contract, Model.contract_follow]
  lifecycle address inside := by
    rw [lifecycle_follow, Model.lifecycle_follow, agrees.geometry,
      agrees.lifecycle address inside, Client.address_of_request requested,
      Client.operation_of_request requested]
  stored address inside := by
    have encodes := agrees.stored address inside
    have forgets := hasFault_eq_false agrees.faultless .stickyMetadata (by decide)
    rw [stored?_follow, Model.value?_follow, agrees.geometry,
      Client.address_of_request requested]
    simp only [forgets, Bool.false_eq_true, and_false, if_false, agrees.slotOf_eq]
    split
    · exact Client.encodes_leaves requested encodes
    · exact encodes

/-- A refusal leaves what the model expects. -/
theorem refuse (agrees : Agrees scope layout simulator model) (address : Address)
    (refusal : Refusal) : Agrees scope layout (simulator.refuse address refusal) model where
  faultless := by rw [config_refuse, agrees.faultless]
  sameLayout := by rw [config_refuse, agrees.sameLayout]
  geometry := by rw [geometry_refuse, agrees.geometry]
  contract := by rw [config_refuse, agrees.contract]
  lifecycle other inside := by rw [lifecycle_refuse, agrees.lifecycle other inside]
  stored other inside := by
    rw [stored?_refuse]
    exact agrees.stored other inside

/-- The answered request leads to the state that the model expects after the call. -/
theorem respond (agrees : Agrees scope client.layout simulator model)
    {call : Call}
    (mapped : call.address ≠ .null) (inside : scope (model.geometry.tableOf call.address))
    {payloadLength : Nat} (room : model.HasRoom call payloadLength) {request : Request}
    (requested : client.request call payloadLength = .ok request) :
    Agrees scope client.layout (simulator.respond request).2 (model.after call) := by
  have succeeded :=
    isOk_respond_of_interpret (agrees.interpret_outcome mapped inside room requested)
  rw [Model.after]
  by_cases success : (model.predict call).outcome = .success
  · rw [decide_eq_true success] at succeeded
    rw [if_pos success, respond_snd_of_isOk succeeded]
    exact agrees.follow requested
  · rw [decide_eq_false success] at succeeded
    obtain ⟨refusal, next⟩ := exists_refuse_of_refused succeeded
    rw [if_neg success, next]
    exact agrees.refuse request.address refusal

end Agrees

/-- No table of the scope is expanded at the start, neither in the simulator nor in the model. -/
theorem agrees_of_unexpanded {scope : Address → Prop} {simulator : Simulator}
    (faultless : simulator.config.faults = .none)
    (unset : ∀ address, scope (simulator.geometry.tableOf address) →
      simulator.stored? address = none)
    (unexpanded : ∀ address, scope (simulator.geometry.tableOf address) →
      simulator.isExpanded address = false) :
    Agrees scope simulator.config.headerLayout simulator
      (.empty simulator.geometry simulator.config.contract) where
  faultless := faultless
  sameLayout := rfl
  geometry := rfl
  contract := rfl
  lifecycle address inside :=
    (simulator.isExpanded_eq_false_iff address).mp (unexpanded address inside)
  stored address inside := by
    rw [unset address inside]
    rfl

theorem Drives.state_exchange {σ : Type} {view : σ → Simulator} {client : Client σ}
    (drives : Drives view client.collaborator) (session : Session σ) (request : Request) :
    view (client.exchange session request).2.state = ((view session.state).respond request).2 :=
  drives.next ..

/-- Whatever rules the client classifies by, it sees the simulator's answer. -/
theorem Drives.outcome_exchange {σ : Type} {view : σ → Simulator} {client : Client σ}
    (drives : Drives view client.collaborator) (session : Session σ) (request : Request) :
    (client.exchange session request).1 =
      ((view session.state).respond request).1.result.mapError
        (client.classifier.classify request.operation) := by
  simp only [Client.exchange, drives.result]

/-- The exchange with a collaborator that answers like the simulator. -/
theorem Drives.exchange {σ : Type} {view : σ → Simulator} {client : Client σ}
    (drives : Drives view client.collaborator) (standard : client.classifier = .standard)
    (session : Session σ) (request : Request) :
    (client.exchange session request).1 = (view session.state).outcome request ∧
      (client.exchange session request).2.memory = session.memory ∧
      view (client.exchange session request).2.state =
        ((view session.state).respond request).2 := by
  refine ⟨?_, ?_, drives.state_exchange session request⟩
  · rw [drives.outcome_exchange, standard, outcome]
  · simp only [Client.exchange, drives.writes, Memory.writeAll, List.foldl_nil]

/-- A call ends as predicted and leaves memory as it is, and afterwards the states agree again. -/
theorem Agrees.call {σ : Type} {view : σ → Simulator} {client : Client σ} {session : Session σ}
    {scope : Address → Prop} {model : Model}
    (drives : Drives view client.collaborator) (standard : client.classifier = .standard)
    (agrees : Agrees scope client.layout (view session.state) model) {call : Call}
    {payloadLength : Nat} (mapped : call.address ≠ .null)
    (inside : scope (model.geometry.tableOf call.address))
    (encodable : ∀ address value, call = .set address value →
      ∃ stored, value.encode client.layout = .ok stored)
    (room : model.HasRoom call payloadLength) :
    (client.call session call payloadLength).1 = .ok (model.predict call).answer ∧
      (client.call session call payloadLength).2.memory = session.memory ∧
      Agrees scope client.layout (view (client.call session call payloadLength).2.state)
        (model.after call) := by
  rw [Client.call_eq]
  cases requested : client.request call payloadLength with
  | error error =>
    obtain ⟨address, value, same, failed⟩ := Client.request_eq_error_iff.mp requested
    obtain ⟨stored, encoded⟩ := encodable address value same
    rw [encoded] at failed
    contradiction
  | ok request =>
    obtain ⟨answered, untouched, next⟩ := drives.exchange standard session request
    refine ⟨?_, untouched, ?_⟩
    · simp only [answered]
      exact agrees.interpret_outcome mapped inside room requested
    · simp only [next]
      exact agrees.respond mapped inside room requested

end Simulator

end PageMetadata
