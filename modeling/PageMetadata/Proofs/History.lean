import PageMetadata.Proofs.Client

/-! # What earlier exchanges say

A history of exchanges determines, without any model, which tables are expanded and what is kept for
every page, and so how the next request must end. As long as every exchange ended as the model
predicted it, the history and the model say the same.
-/

namespace PageMetadata

namespace Exchange

/-- The exchange succeeded within the table of an address. -/
def Concerns (geometry : PageGeometry) (address : Address) (exchange : Exchange) : Prop :=
  geometry.tableOf address = geometry.tableOf exchange.request.address ∧
    exchange.reply.result.isOk = true

instance (geometry : PageGeometry) (address : Address) (exchange : Exchange) :
    Decidable (exchange.Concerns geometry address) := by
  unfold Concerns
  infer_instance

/-- The lifecycle in which the exchange left the table of an address, if it settled it. -/
def settles? (geometry : PageGeometry) (address : Address) (exchange : Exchange) :
    Option Lifecycle :=
  if exchange.Concerns geometry address then exchange.request.operation.settles? else none

/-- What the exchange left at the page of an address, if it changed that: the value that was set, or
nothing after the table was disabled. -/
def leaves? (geometry : PageGeometry) (address : Address) (exchange : Exchange) :
    Option (Option Stored) :=
  if exchange.Concerns geometry address then
    match exchange.request with
    | .disable _ => some none
    | request =>
      if geometry.pageIndex address = geometry.pageIndex request.address then
        request.stored?.map some
      else none
  else none

end Exchange

namespace History

/-- What the latest exchange tells that tells anything. -/
def latest? {α : Type} (tells : Exchange → Option α) (history : List Exchange) : Option α :=
  history.reverse.findSome? tells

@[simp] theorem latest?_append {α : Type} (tells : Exchange → Option α) (history : List Exchange)
    (exchange : Exchange) :
    latest? tells (history ++ [exchange]) = (tells exchange).or (latest? tells history) := by
  cases told : tells exchange <;> simp [latest?, told]

/-- The lifecycle of a table: its latest successful enable, set or disable decides. -/
def lifecycle (geometry : PageGeometry) (history : List Exchange) (address : Address) : Lifecycle :=
  (latest? (Exchange.settles? geometry address) history).getD .unexpanded

/-- What the latest successful set of a page left there, unless its table was disabled since. -/
def stored? (geometry : PageGeometry) (history : List Exchange) (address : Address) :
    Option Stored :=
  (latest? (Exchange.leaves? geometry address) history).join

/-- How setting a value must end after a history. -/
def setOutcome (geometry : PageGeometry) (contract : Contract) (history : List Exchange)
    (address : Address) : Outcome Unit :=
  match lifecycle geometry history address with
  | .unexpanded => if contract.autoExpandOnSet then .ok () else .error .notExpanded
  | .expanded => .ok ()

/-- How a request must end after a history. -/
def outcome (geometry : PageGeometry) (contract : Contract) (history : List Exchange) :
    (request : Request) → Outcome request.Content
  | .enable address =>
    match lifecycle geometry history address with
    | .unexpanded => .ok ()
    | .expanded => .error .alreadyExpanded
  | .disable address =>
    match lifecycle geometry history address with
    | .unexpanded => .error .notExpanded
    | .expanded => .ok ()
  | .setInline address _ => setOutcome geometry contract history address
  | .setStructured address _ => setOutcome geometry contract history address
  | .getInline address =>
    match lifecycle geometry history address, stored? geometry history address with
    | .unexpanded, _ => .error .noData
    | .expanded, some (.inline word) => .ok word
    | .expanded, some (.structured _) => .error .invalidArgument
    | .expanded, none =>
      match contract.unsetRead with
      | .zeroed => .ok 0
      | .noData => .error .noData
  | .getStructured address _ =>
    match lifecycle geometry history address, stored? geometry history address with
    | .unexpanded, _ => .error .noData
    | .expanded, some (.inline _) => .error .invalidArgument
    | .expanded, some (.structured bytes) => .ok bytes
    | .expanded, none => .error .noData

/-- A history and a model say the same about every table and every page. -/
structure Backs (layout : HeaderLayout) (history : List Exchange) (model : Model) : Prop where
  lifecycle : ∀ address,
    model.lifecycle address = History.lifecycle model.geometry history address
  stored : ∀ address,
    Stored.Encodes layout (History.stored? model.geometry history address) (model.value? address)

theorem lifecycle_append (geometry : PageGeometry) (history : List Exchange) (exchange : Exchange)
    (address : Address) :
    lifecycle geometry (history ++ [exchange]) address =
      if exchange.Concerns geometry address then
        exchange.request.operation.settles?.getD (lifecycle geometry history address)
      else lifecycle geometry history address := by
  simp only [lifecycle, latest?_append, Exchange.settles?]
  split
  · cases exchange.request.operation.settles? <;> rfl
  · rfl

theorem stored?_append (geometry : PageGeometry) (history : List Exchange) (exchange : Exchange)
    (address : Address) :
    stored? geometry (history ++ [exchange]) address =
      if exchange.Concerns geometry address then
        exchange.request.leaves
          (geometry.pageIndex address = geometry.pageIndex exchange.request.address)
          (stored? geometry history address)
      else stored? geometry history address := by
  obtain ⟨request, reply⟩ := exchange
  simp only [stored?, latest?_append, Exchange.leaves?]
  split
  · cases request with
    | disable target => rfl
    | _ =>
      simp only [Request.leaves]
      split <;> rfl
  · rfl

namespace Backs

variable {σ : Type} {client : Client σ} {history : List Exchange} {model : Model}

theorem stored?_eq_none {layout : HeaderLayout} (backs : Backs layout history model)
    {address : Address} (unset : model.value? address = none) :
    History.stored? model.geometry history address = none :=
  Stored.encodes_none_iff.mp (unset ▸ backs.stored address)

theorem exists_stored? {layout : HeaderLayout} (backs : Backs layout history model)
    {address : Address} {value : MetadataValue} (held : model.value? address = some value) :
    ∃ stored, History.stored? model.geometry history address = some stored ∧
      stored.decode layout = .ok value := by
  simp only [← MetadataValue.encode_eq_ok_iff_decode]
  exact Stored.encodes_some_iff.mp (held ▸ backs.stored address)

/-- A call without a value ends like its request. -/
private theorem eq_of_map_none {outcome : Outcome Unit} {prediction : Prediction}
    (answered : outcome.map (fun _ => (none : Option MetadataValue)) = prediction.answer) :
    outcome = prediction.answer.map fun _ => () := by
  rw [← answered]
  cases outcome <;> rfl

private theorem eq_error_of_interpret {address : Address} {buffer : List UInt8}
    {outcome : Outcome (List UInt8)} {kind : ErrorKind}
    (answered : client.interpret (.getStructured address buffer) outcome = .ok (.error kind)) :
    outcome = .error kind := by
  cases outcome with
  | error found =>
    cases answered
    rfl
  | ok bytes =>
    obtain ⟨_, _, same⟩ := map_eq_ok_iff.mp answered
    contradiction

private theorem exists_of_interpret {address : Address} {buffer : List UInt8}
    {outcome : Outcome (List UInt8)} {metadata : StructuredMetadata}
    (answered : client.interpret (.getStructured address buffer) outcome =
      .ok (.ok (some (.structured metadata)))) :
    ∃ bytes, outcome = .ok bytes ∧
      StructuredMetadata.decode bytes client.layout = .ok metadata := by
  cases outcome with
  | error found => cases answered
  | ok bytes =>
    obtain ⟨found, read, same⟩ := map_eq_ok_iff.mp answered
    cases same
    exact ⟨bytes, rfl, read⟩

private theorem outcome_getInline {layout : HeaderLayout} (backs : Backs layout history model)
    {address : Address} {outcome : Outcome UInt64}
    (answered : outcome.map (fun word => some (MetadataValue.inline (.decode word))) =
      (model.predict (.get address .inline)).answer) :
    outcome = History.outcome model.geometry model.contract history (.getInline address) := by
  simp only [History.outcome, ← backs.lifecycle]
  cases held : model.lifecycle address with
  | unexpanded =>
    simp only [Model.predict, Call.address, held] at answered
    exact map_eq_error_iff.mp answered
  | expanded =>
    simp only [Model.predict, Call.address, held, Model.predictRead] at answered
    cases found : model.value? address with
    | none =>
      rw [backs.stored?_eq_none found]
      rw [found] at answered
      cases unset : model.contract.unsetRead with
      | noData =>
        rw [unset] at answered
        exact map_eq_error_iff.mp answered
      | zeroed =>
        rw [unset] at answered
        obtain ⟨word, rfl, same⟩ := map_eq_ok_iff.mp answered
        have zero : InlineMetadata.decode word = .decode 0 :=
          MetadataValue.inline.inj (Option.some.inj same)
        rw [InlineMetadata.decode_injective zero]
    | some value =>
      obtain ⟨stored, kept, decoded⟩ := backs.exists_stored? found
      rw [kept]
      rw [found] at answered
      cases stored with
      | inline kept =>
        cases decoded
        obtain ⟨word, rfl, same⟩ := map_eq_ok_iff.mp answered
        rw [InlineMetadata.decode_injective (MetadataValue.inline.inj (Option.some.inj same))]
      | structured bytes =>
        obtain ⟨metadata, _, rfl⟩ := map_eq_ok_iff.mp decoded
        exact map_eq_error_iff.mp answered

private theorem outcome_getStructured (backs : Backs client.layout history model)
    {address : Address} {buffer : List UInt8} {outcome : Outcome (List UInt8)}
    (answered : client.interpret (.getStructured address buffer) outcome =
      .ok (model.predict (.get address .structured)).answer) :
    outcome =
      History.outcome model.geometry model.contract history (.getStructured address buffer) := by
  simp only [History.outcome, ← backs.lifecycle]
  cases held : model.lifecycle address with
  | unexpanded =>
    simp only [Model.predict, Call.address, held] at answered
    exact eq_error_of_interpret answered
  | expanded =>
    simp only [Model.predict, Call.address, held, Model.predictRead] at answered
    cases found : model.value? address with
    | none =>
      rw [backs.stored?_eq_none found]
      rw [found] at answered
      cases unset : model.contract.unsetRead <;>
        · rw [unset] at answered
          exact eq_error_of_interpret answered
    | some value =>
      obtain ⟨stored, kept, decoded⟩ := backs.exists_stored? found
      rw [kept]
      rw [found] at answered
      cases stored with
      | inline word =>
        cases decoded
        exact eq_error_of_interpret answered
      | structured kept =>
        obtain ⟨metadata, written, rfl⟩ := map_eq_ok_iff.mp decoded
        obtain ⟨bytes, rfl, read⟩ := exists_of_interpret answered
        rw [StructuredMetadata.decode_eq_ok_iff_encode] at written read
        rw [Except.ok.inj (written.symm.trans read)]

/-- A request that was answered as the model predicts ended as the history requires. -/
theorem outcome_eq (backs : Backs client.layout history model) {call : Call}
    {payloadLength : Nat} {request : Request}
    (requested : client.request call payloadLength = .ok request)
    {outcome : Outcome request.Content}
    (answered : client.interpret request outcome = .ok (model.predict call).answer) :
    outcome = History.outcome model.geometry model.contract history request := by
  cases call with
  | enable address =>
    cases requested
    rw [eq_of_map_none (Except.ok.inj answered), History.outcome, ← backs.lifecycle]
    cases held : model.lifecycle address <;> simp only [Model.predict, Call.address, held] <;> rfl
  | disable address =>
    cases requested
    rw [eq_of_map_none (Except.ok.inj answered), History.outcome, ← backs.lifecycle]
    cases held : model.lifecycle address <;> simp only [Model.predict, Call.address, held] <;> rfl
  | set address value =>
    have predicted : (model.predict (.set address value)).answer.map (fun _ => ()) =
        setOutcome model.geometry model.contract history address := by
      rw [setOutcome, ← backs.lifecycle]
      cases held : model.lifecycle address with
      | unexpanded =>
        simp only [Model.predict, Call.address, held]
        cases model.contract.autoExpandOnSet <;> rfl
      | expanded =>
        simp only [Model.predict, Call.address, held]
        rfl
    obtain ⟨stored, encoded, rfl⟩ := map_eq_ok_iff.mp requested
    cases stored with
    | inline word => exact (eq_of_map_none (Except.ok.inj answered)).trans predicted
    | structured bytes => exact (eq_of_map_none (Except.ok.inj answered)).trans predicted
  | get address encoding =>
    cases encoding with
    | inline =>
      cases requested
      exact backs.outcome_getInline (Except.ok.inj answered)
    | structured =>
      cases requested
      exact backs.outcome_getStructured answered

/-- After such an exchange the history and the model still say the same. -/
theorem append (backs : Backs client.layout history model) {call : Call} {payloadLength : Nat}
    {request : Request} (requested : client.request call payloadLength = .ok request)
    {reply : Reply request}
    (answered : reply.result.isOk = decide ((model.predict call).outcome = .success)) :
    Backs client.layout (history ++ [⟨request, reply⟩]) (model.after call) := by
  have address := Client.address_of_request requested
  have operation := Client.operation_of_request requested
  by_cases success : (model.predict call).outcome = .success
  · rw [decide_eq_true success] at answered
    have concerns (target : Address) :
        (Exchange.mk request reply).Concerns model.geometry target ↔
          model.geometry.tableOf target = model.geometry.tableOf call.address := by
      simp only [Exchange.Concerns, answered, address, and_true]
    rw [Model.after, if_pos success]
    refine ⟨fun target => ?_, fun target => ?_⟩
    · simp only [lifecycle_append, Model.lifecycle_follow, Model.geometry_follow, concerns,
        backs.lifecycle, operation]
    · simp only [stored?_append, Model.value?_follow, Model.geometry_follow, concerns, address]
      split
      · exact Client.encodes_leaves requested (backs.stored target)
      · exact backs.stored target
  · rw [decide_eq_false success] at answered
    have ignored (target : Address) :
        ¬ (Exchange.mk request reply).Concerns model.geometry target := by
      simp [Exchange.Concerns, answered]
    rw [Model.after, if_neg success]
    refine ⟨fun target => ?_, fun target => ?_⟩
    · rw [lifecycle_append, if_neg (ignored target), backs.lifecycle]
    · rw [stored?_append, if_neg (ignored target)]
      exact backs.stored target

end Backs

end History

end PageMetadata
