import PageMetadata.Proofs.Codec.Value
import PageMetadata.Proofs.Model

/-! # Calls as exchanges

A call makes at most one request, which the call alone determines, and what the call returns is read
off the answer to that request. Only a value without an encoding makes no request.
-/

namespace PageMetadata

/-- The request that keeps an encoded value for the page of an address. -/
def Stored.request (stored : Stored) (address : Address) : Request :=
  match stored with
  | .inline word => .setInline address word
  | .structured bytes => .setStructured address bytes

/-- What a request asks to be kept for a page. -/
def Request.stored? : Request → Option Stored
  | .setInline _ word => some (.inline word)
  | .setStructured _ bytes => some (.structured bytes)
  | _ => none

/-- What a successful request leaves at a page of its table, whether made there or not. -/
def Request.leaves (request : Request) (here : Prop) [Decidable here] (kept : Option Stored) :
    Option Stored :=
  match request with
  | .disable _ => none
  | request => if here then request.stored?.or kept else kept

namespace Stored

@[simp] theorem address_request (stored : Stored) (address : Address) :
    (stored.request address).address = address := by
  cases stored <;> rfl

@[simp] theorem operation_request (stored : Stored) (address : Address) :
    (stored.request address).operation = .set stored.encoding := by
  cases stored <;> rfl

@[simp] theorem leaves_request (stored : Stored) (address : Address) {here : Prop}
    [Decidable here] (kept : Option Stored) :
    (stored.request address).leaves here kept = if here then some stored else kept := by
  cases stored <;> rfl

end Stored

/-- A call, and the payload bytes that a read has room for. -/
structure SizedCall where
  call : Call
  payloadLength : Nat

/-- A structured read has a buffer for what it has room for. -/
def SizedCall.HasBuffer (layout : HeaderLayout) (sized : SizedCall) : Prop :=
  ∀ address, sized.call = .get address .structured →
    layout.headerLength + sized.payloadLength < lengthLimit

namespace Client

variable {σ : Type}

/-- Makes a call, if there is a buffer as long as it needs. -/
def callSized (client : Client σ) (session : Session σ) (sized : SizedCall) :
    Except ArithmeticError
      (Except CodecError (Outcome (Option MetadataValue)) × Session σ) :=
  match sized.call with
  | .get address encoding => do
    let (answer, session) ← client.getSized session address encoding sized.payloadLength
    return (answer.map (·.map some), session)
  | call => .ok (client.call session call sized.payloadLength)

/-- The request of a call; a read has room for so many payload bytes. -/
def request (client : Client σ) (call : Call) (payloadLength : Nat) :
    Except CodecError Request :=
  match call with
  | .enable address => .ok (.enable address)
  | .disable address => .ok (.disable address)
  | .set address value => (value.encode client.layout).map (·.request address)
  | .get address .inline => .ok (.getInline address)
  | .get address .structured =>
    .ok (.getStructured address (List.replicate (client.layout.headerLength + payloadLength) 0))

/-- What a call returns, from the outcome of its request. -/
def interpret (client : Client σ) :
    (request : Request) → Outcome request.Content →
      Except CodecError (Outcome (Option MetadataValue))
  | .enable _, outcome => .ok (outcome.map fun _ => none)
  | .disable _, outcome => .ok (outcome.map fun _ => none)
  | .setInline _ _, outcome => .ok (outcome.map fun _ => none)
  | .setStructured _ _, outcome => .ok (outcome.map fun _ => none)
  | .getInline _, outcome => .ok (outcome.map fun word => some (.inline (.decode word)))
  | .getStructured _ _, .error kind => .ok (.error kind)
  | .getStructured _ _, .ok bytes =>
    (StructuredMetadata.decode bytes client.layout).map fun metadata =>
      .ok (some (.structured metadata))

theorem setRequest_eq (client : Client σ) (address : Address) (value : MetadataValue) :
    client.setRequest address value = (value.encode client.layout).map (·.request address) := by
  cases value with
  | inline metadata =>
    simp only [setRequest, MetadataValue.encode]
    cases metadata.encode <;> rfl
  | structured metadata =>
    simp only [setRequest, MetadataValue.encode]
    cases metadata.encode client.layout <;> rfl

/-- A structured read is its request, exchanged and decoded. -/
theorem get_structured_eq (client : Client σ) (session : Session σ) (address : Address)
    (payloadLength : Nat) :
    client.get session address .structured payloadLength =
      let (outcome, next) := client.exchange session (.getStructured address
        (List.replicate (client.layout.headerLength + payloadLength) 0))
      (match outcome with
        | .error kind => .ok (.error kind)
        | .ok bytes => (StructuredMetadata.decode bytes client.layout).map fun metadata =>
          .ok (.structured metadata),
        next) := by
  rw [get]
  rcases client.exchange session (.getStructured address
    (List.replicate (client.layout.headerLength + payloadLength) 0)) with ⟨kind | bytes, next⟩ <;>
    rfl

/-- A call is its request, exchanged and interpreted. -/
theorem call_eq (client : Client σ) (session : Session σ) (call : Call) (payloadLength : Nat) :
    client.call session call payloadLength =
      match client.request call payloadLength with
      | .error error => (.error error, session)
      | .ok request =>
        (client.interpret request (client.exchange session request).1,
          (client.exchange session request).2) := by
  cases call with
  | enable address => rfl
  | disable address => rfl
  | set address value =>
    simp only [Client.call, set, request, setRequest_eq]
    cases value.encode client.layout with
    | error error => rfl
    | ok stored =>
      simp only [Except.map]
      cases stored <;>
        · simp only [Stored.request, interpret]
          cases (client.exchange session _).1 <;> rfl
  | get address encoding =>
    cases encoding with
    | inline =>
      simp only [Client.call, get, request, interpret]
      cases (client.exchange session (.getInline address)).1 <;> rfl
    | structured =>
      simp only [Client.call, get_structured_eq, request]
      rcases client.exchange session (.getStructured address
        (List.replicate (client.layout.headerLength + payloadLength) 0)) with ⟨kind | bytes, next⟩
      · rfl
      · simp only [interpret]
        cases StructuredMetadata.decode bytes client.layout <;> rfl

/-- A read whose buffer exists is made. -/
theorem getSized_eq (client : Client σ) (session : Session σ) (address : Address)
    {encoding : Encoding} {payloadLength : Nat}
    (buffer : encoding = .structured →
      client.layout.headerLength + payloadLength < lengthLimit) :
    client.getSized session address encoding payloadLength =
      .ok (client.get session address encoding payloadLength) := by
  cases encoding with
  | inline => rfl
  | structured =>
    have short := buffer rfl
    have counted : client.layout.headerLength + payloadLength < UInt64.size :=
      Nat.lt_of_lt_of_le short (by decide)
    simp only [getSized, checkedLengthSum, if_pos counted, checkedLength, if_pos short]
    rfl

/-- With a buffer for it, a call is made. -/
theorem callSized_eq (client : Client σ) (session : Session σ) {sized : SizedCall}
    (buffer : sized.HasBuffer client.layout) :
    client.callSized session sized =
      .ok (client.call session sized.call sized.payloadLength) := by
  obtain ⟨call, payloadLength⟩ := sized
  cases call with
  | get address encoding =>
    simp only [callSized]
    rw [client.getSized_eq session address fun structured => buffer address (structured ▸ rfl)]
    rfl
  | _ => rfl

/-- A buffer whose length is a word need not exist. -/
theorem getSized_eq_capacity (client : Client σ) (session : Session σ) (address : Address)
    {payloadLength : Nat}
    (long : lengthLimit ≤ client.layout.headerLength + payloadLength)
    (counted : client.layout.headerLength + payloadLength < UInt64.size) :
    client.getSized session address .structured payloadLength = .error .capacity := by
  simp only [getSized, checkedLengthSum, if_pos counted, checkedLength,
    if_neg (Nat.not_lt.mpr long)]
  rfl

/-- A read without a buffer is not made. -/
theorem callSized_eq_capacity (client : Client σ) (session : Session σ) (address : Address)
    {payloadLength : Nat} (long : lengthLimit ≤ client.layout.headerLength + payloadLength)
    (counted : client.layout.headerLength + payloadLength < UInt64.size) :
    client.callSized session ⟨.get address .structured, payloadLength⟩ = .error .capacity := by
  rw [callSized]
  dsimp only
  rw [client.getSized_eq_capacity session address long counted]
  rfl

/-- An answer was read off the outcome of a request. -/
theorem exists_request_of_call {client : Client σ} {session : Session σ} {call : Call}
    {payloadLength : Nat} {answer : Outcome (Option MetadataValue)}
    (answered : (client.call session call payloadLength).1 = .ok answer) :
    ∃ request, client.request call payloadLength = .ok request ∧
      client.interpret request (client.exchange session request).1 = .ok answer ∧
      (client.call session call payloadLength).2 = (client.exchange session request).2 := by
  rw [call_eq] at answered ⊢
  cases requested : client.request call payloadLength with
  | error error => simp [requested] at answered
  | ok request =>
    rw [requested] at answered
    exact ⟨request, rfl, answered, rfl⟩

/-- A call makes no request exactly if it sets a value that has no encoding. -/
theorem request_eq_error_iff {client : Client σ} {call : Call} {payloadLength : Nat}
    {error : CodecError} :
    client.request call payloadLength = .error error ↔
      ∃ address value, call = .set address value ∧ value.encode client.layout = .error error := by
  cases call with
  | enable address => simp [request]
  | disable address => simp [request]
  | set address value =>
    cases encoded : value.encode client.layout <;> simp [request, encoded, Except.map]
  | get address encoding => cases encoding <;> simp [request]

theorem address_of_request {client : Client σ} {call : Call} {payloadLength : Nat}
    {request : Request} (requested : client.request call payloadLength = .ok request) :
    request.address = call.address := by
  cases call with
  | enable address =>
    cases requested
    rfl
  | disable address =>
    cases requested
    rfl
  | set address value =>
    obtain ⟨stored, _, rfl⟩ := map_eq_ok_iff.mp requested
    exact stored.address_request address
  | get address encoding =>
    cases encoding <;>
      · cases requested
        rfl

theorem operation_of_request {client : Client σ} {call : Call} {payloadLength : Nat}
    {request : Request} (requested : client.request call payloadLength = .ok request) :
    request.operation = call.operation := by
  cases call with
  | enable address =>
    cases requested
    rfl
  | disable address =>
    cases requested
    rfl
  | set address value =>
    obtain ⟨stored, encoded, rfl⟩ := map_eq_ok_iff.mp requested
    rw [stored.operation_request, MetadataValue.encoding_of_encode encoded]
    rfl
  | get address encoding =>
    cases encoding <;>
      · cases requested
        rfl

/-- A request keeps the encoding of what its call leaves. -/
theorem encodes_leaves {client : Client σ} {call : Call} {payloadLength : Nat} {request : Request}
    (requested : client.request call payloadLength = .ok request) {here : Prop} [Decidable here]
    {kept : Option Stored} {held : Option MetadataValue}
    (encodes : Stored.Encodes client.layout kept held) :
    Stored.Encodes client.layout (request.leaves here kept) (call.leaves here held) := by
  cases call with
  | enable address =>
    cases requested
    simpa only [Request.leaves, Request.stored?, Call.leaves, Option.none_or, ite_self]
      using encodes
  | disable address =>
    cases requested
    rfl
  | set address value =>
    obtain ⟨stored, encoded, rfl⟩ := map_eq_ok_iff.mp requested
    rw [stored.leaves_request, Call.leaves]
    split
    · exact Stored.encodes_some_iff.mpr ⟨stored, rfl, encoded⟩
    · exact encodes
  | get address encoding =>
    cases encoding <;>
      · cases requested
        simpa only [Request.leaves, Request.stored?, Call.leaves, Option.none_or, ite_self]
          using encodes

/-- A call that makes no request leaves the session as it is. -/
theorem session_of_call (client : Client σ) (session : Session σ) (call : Call)
    (payloadLength : Nat) :
    (client.call session call payloadLength).2 = session ∨
      ∃ request, request.address = call.address ∧
        (client.call session call payloadLength).2 = (client.exchange session request).2 := by
  rw [call_eq]
  cases requested : client.request call payloadLength with
  | error error => exact .inl rfl
  | ok request => exact .inr ⟨request, address_of_request requested, rfl⟩

/-- An answered call was timed once, under the name of its operation. -/
theorem samples_of_call {client : Client σ} {session : Session σ} {call : Call}
    {payloadLength : Nat} {answer : Outcome (Option MetadataValue)}
    (answered : (client.call session call payloadLength).1 = .ok answer) :
    ∃ elapsed, ∀ name, (client.call session call payloadLength).2.stats.samples name =
      if name = call.operation.name then session.stats.samples name ++ [elapsed]
      else session.stats.samples name := by
  obtain ⟨request, requested, _, same⟩ := exists_request_of_call answered
  refine ⟨(client.collaborator.respond session.state session.memory request).1.elapsed, ?_⟩
  intro name
  rw [same, exchange, ← operation_of_request requested]
  dsimp only
  rw [Stats.samples_record]
  split
  · next timed => rw [timed]
  · rfl

private theorem isSome_of_interpret {client : Client σ} {request : Request}
    {outcome : Outcome request.Content} {value : Option MetadataValue}
    (interpreted : client.interpret request outcome = .ok (.ok value)) :
    value.isSome = request.operation.reads := by
  cases outcome with
  | error kind => cases request <;> cases interpreted
  | ok content =>
    cases request with
    | getStructured address buffer =>
      obtain ⟨metadata, _, same⟩ := map_eq_ok_iff.mp interpreted
      cases same
      rfl
    | _ =>
      cases interpreted
      rfl

/-- What was interpreted as a success was a success. -/
theorem isOk_of_interpret {client : Client σ} {request : Request}
    {outcome : Outcome request.Content} {answer : Outcome (Option MetadataValue)}
    (interpreted : client.interpret request outcome = .ok answer) : outcome.isOk = answer.isOk := by
  cases outcome with
  | error kind =>
    cases request <;>
      · cases interpreted
        rfl
  | ok content =>
    cases request with
    | getStructured address buffer =>
      obtain ⟨metadata, _, rfl⟩ := map_eq_ok_iff.mp interpreted
      rfl
    | _ =>
      cases interpreted
      rfl

/-- A call returns a value exactly if it reads. -/
theorem isSome_of_call {client : Client σ} {session : Session σ} {call : Call}
    {payloadLength : Nat} {value : Option MetadataValue}
    (answered : (client.call session call payloadLength).1 = .ok (.ok value)) :
    value.isSome = call.operation.reads := by
  obtain ⟨request, requested, interpreted, _⟩ := exists_request_of_call answered
  rw [isSome_of_interpret interpreted, operation_of_request requested]

end Client

end PageMetadata
