import PageMetadata.Proofs.Simulator.Storage

/-! # Reads with room for any payload

The caller of a structured read says how long the payload is, and may be wrong. The simulator refuses
a buffer that is too short and fills one that is too long with zeros, which the decoder of the client
does not take for payload. So a read returns the whole value or none.
-/

namespace PageMetadata.Simulator

section Outcome

variable {simulator : Simulator} {address : Address} {bytes : List UInt8}
  (mapped : address ≠ .null) (expanded : simulator.isExpanded address = true)
  (kept : simulator.stored? address = some (.structured bytes))

include mapped expanded kept

theorem outcome_getInline_of_structured :
    simulator.outcome (.getInline address) = .error .invalidArgument := by
  rw [outcome_getInline mapped, expanded, if_pos rfl, kept]

theorem outcome_getStructured_of_structured (honest : simulator.hasFault .corruptPayload = false)
    (length : Nat) :
    simulator.outcome (.getStructured address (List.replicate length 0)) =
      if length < bytes.length then .error .invalidArgument
      else .ok (bytes ++ List.replicate (length - bytes.length) 0) := by
  rw [outcome_getStructured mapped honest, expanded, if_pos rfl, kept]
  simp only [List.length_replicate]

end Outcome

section Client

variable {σ : Type} {view : σ → Simulator} {client : Client σ}
  (drives : Drives view client.collaborator) (standard : client.classifier = .standard)
  (session : Session σ)

include drives

/-- No read changes the simulator, whatever it returns. -/
theorem Drives.state_get (address : Address) (encoding : Encoding) (room : Nat) :
    view (client.get session address encoding room).2.state = view session.state := by
  cases encoding with
  | inline => exact drives.state_exchange session (.getInline address)
  | structured =>
    have next := drives.state_exchange session
      (.getStructured address (List.replicate (client.layout.headerLength + room) 0))
    rw [respond_getStructured] at next
    rw [Client.get_structured_eq]
    exact next

include standard

/-- A structured value has no inline reading. -/
theorem Drives.get_inline_of_structured {address : Address} {bytes : List UInt8}
    (mapped : address ≠ .null) (expanded : (view session.state).isExpanded address = true)
    (kept : (view session.state).stored? address = some (.structured bytes)) (room : Nat) :
    (client.get session address .inline room).1 = .ok (.error .invalidArgument) := by
  obtain ⟨answered, _, _⟩ := drives.exchange standard session (.getInline address)
  rw [outcome_getInline_of_structured mapped expanded kept] at answered
  simp only [Client.get, answered]
  rfl

/-- A structured value is read if the room is that of its payload. Less room is refused, and with
more the lengths do not match. -/
theorem Drives.get_structured_of_structured {address : Address} {bytes : List UInt8}
    {metadata : StructuredMetadata} (mapped : address ≠ .null)
    (expanded : (view session.state).isExpanded address = true)
    (kept : (view session.state).stored? address = some (.structured bytes))
    (decoded : StructuredMetadata.decode bytes client.layout = .ok metadata)
    (honest : (view session.state).hasFault .corruptPayload = false) (room : Nat) :
    (client.get session address .structured room).1 =
      if room = metadata.payload.length then .ok (.ok (.structured metadata))
      else if room < metadata.payload.length then .ok (.error .invalidArgument)
      else .error (.lengthMismatch metadata.payload.length room) := by
  have length := StructuredMetadata.length_of_encode
    ((metadata.decode_eq_ok_iff_encode _ _).mp decoded)
  obtain ⟨answered, _, _⟩ := drives.exchange standard session
    (.getStructured address (List.replicate (client.layout.headerLength + room) 0))
  rw [outcome_getStructured_of_structured mapped expanded kept honest] at answered
  rw [Client.get_structured_eq]
  dsimp only
  rw [answered]
  rcases Nat.lt_trichotomy room metadata.payload.length with shorter | same | longer
  · have refused : client.layout.headerLength + room < bytes.length := by omega
    rw [if_pos refused, if_neg shorter.ne, if_pos shorter]
  · have filled : client.layout.headerLength + room = bytes.length := by omega
    rw [if_neg filled.not_lt, if_pos same, filled, Nat.sub_self, List.replicate_zero,
      List.append_nil]
    simp only [decoded]
    rfl
  -- The zeros behind the stored bytes are available as payload, but not declared.
  · have padded : ¬ client.layout.headerLength + room < bytes.length := by omega
    have zeros : client.layout.headerLength + room - bytes.length =
        room - metadata.payload.length := by omega
    have behind : List.replicate (room - metadata.payload.length) (0 : UInt8) ≠ [] := by
      rw [Ne, List.replicate_eq_nil_iff]
      omega
    have counted : metadata.payload.length + (room - metadata.payload.length) = room := by omega
    rw [if_neg padded, if_neg longer.ne', if_neg longer.not_gt, zeros]
    simp only [StructuredMetadata.decode_append decoded behind, List.length_replicate, counted]
    rfl

end Client

/-- However the simulator came to hold a structured value, under any contract and any faults that do
not corrupt payloads: if there is a buffer for the room that the caller asks for, the whole value is
read, or the room is refused as too small, or the lengths do not match; if there is none, no read is
made. An inline read is refused, and no read changes the simulator. -/
theorem sized_read_returns_whole_value {σ : Type} {view : σ → Simulator} {client : Client σ}
    (drives : Drives view client.collaborator) (standard : client.classifier = .standard)
    {config : SimulatorConfig} {initial : Simulator} (started : ofConfig? config = some initial)
    (honest : config.faults.contains .corruptPayload = false)
    (layout : client.layout = config.headerLayout) {session : Session σ}
    (reached : initial.Reaches (view session.state)) {address : Address}
    (mapped : address ≠ .null) (expanded : (view session.state).isExpanded address = true)
    {bytes : List UInt8} (kept : (view session.state).stored? address = some (.structured bytes)) :
    ∃ metadata, StructuredMetadata.decode bytes client.layout = .ok metadata ∧
      (∀ room, client.layout.headerLength + room < lengthLimit →
        ∃ next, client.getSized session address .structured room =
            .ok (if room = metadata.payload.length then .ok (.ok (.structured metadata))
              else if room < metadata.payload.length then .ok (.error .invalidArgument)
              else .error (.lengthMismatch metadata.payload.length room), next) ∧
          view next.state = view session.state) ∧
      (∀ room, lengthLimit ≤ client.layout.headerLength + room →
        client.layout.headerLength + room < UInt64.size →
          client.getSized session address .structured room = .error .capacity) ∧
      ∀ room, ∃ next,
        client.getSized session address .inline room = .ok (.ok (.error .invalidArgument), next) ∧
          view next.state = view session.state := by
  have sameConfig : (view session.state).config = config :=
    reached.config.trans (config_of_ofConfig? started)
  obtain ⟨metadata, decoded⟩ := Reaches.wellEncoded_of_ofConfig? started reached address bytes kept
  rw [sameConfig, ← layout] at decoded
  rw [← sameConfig] at honest
  refine ⟨metadata, decoded, ?_, ?_, ?_⟩
  · intro room short
    refine ⟨(client.get session address .structured room).2, ?_, drives.state_get ..⟩
    rw [client.getSized_eq session address fun _ => short,
      ← drives.get_structured_of_structured standard session mapped expanded kept decoded honest]
  · intro room long counted
    exact client.getSized_eq_capacity session address long counted
  · intro room
    have made : client.getSized session address .inline room =
        .ok (client.get session address .inline room) := client.getSized_eq session address nofun
    refine ⟨(client.get session address .inline room).2, ?_, drives.state_get ..⟩
    rw [made, ← drives.get_inline_of_structured standard session mapped expanded kept]

/-- A payload of two bytes, set on another page of a table whose pages share one value and which was
disabled and enabled in between, is read with room for two, one and three bytes. -/
theorem sized_read_of_sticky_value :
    let config : SimulatorConfig :=
      { SimulatorConfig.standard with faults := .union .sharedSlot .stickyMetadata }
    let initial : Simulator := ⟨config, ⟨12, by decide, by decide⟩, .empty⟩
    let client : Client Simulator := ⟨collaborator, .standard, .compact⟩
    let bytes : List UInt8 := [1, 0, 2, 0, 2, 0, 0, 0, 7, 8]
    let set := (initial.respond (.setStructured ⟨0x1000⟩ bytes)).2
    let session : Session Simulator :=
      .start ((set.respond (.disable ⟨0x1000⟩)).2.respond (.enable ⟨0x1000⟩)).2 .empty
    ofConfig? config = some initial ∧ initial.Reaches session.state ∧
      session.state.stored? ⟨0x2000⟩ = some (.structured bytes) ∧
      (∃ next, client.getSized session ⟨0x2000⟩ .structured 2 =
        .ok (.ok (.ok (.structured ⟨1, 2, [7, 8]⟩)), next)) ∧
      (∃ next, client.getSized session ⟨0x2000⟩ .structured 1 =
        .ok (.ok (.error .invalidArgument), next)) ∧
      (∃ next, client.getSized session ⟨0x2000⟩ .structured 3 =
        .ok (.error (.lengthMismatch 2 3), next)) ∧
      ∃ next, client.getSized session ⟨0x2000⟩ .inline 2 =
        .ok (.ok (.error .invalidArgument), next) := by
  intro config initial client bytes set session
  have started : ofConfig? config = some initial := by
    dsimp +zetaDelta only
    rfl
  have reached : initial.Reaches session.state := .respond (.respond (.respond .refl _) _) _
  have expanded : session.state.isExpanded ⟨0x2000⟩ = true := by
    dsimp +zetaDelta only
    decide +kernel
  have kept : session.state.stored? ⟨0x2000⟩ = some (.structured bytes) := by
    dsimp +zetaDelta only
    decide +kernel
  have drives : Drives id client.collaborator := drives_collaborator
  clear_value session
  obtain ⟨metadata, decoded, made, _, inlined⟩ :=
    sized_read_returns_whole_value drives rfl started (by decide) rfl reached (by decide)
      expanded kept
  have encoded : StructuredMetadata.decode bytes .compact = .ok ⟨1, 2, [7, 8]⟩ := by decide
  cases decoded.symm.trans encoded
  obtain ⟨whole, read, _⟩ := made 2 (by decide)
  obtain ⟨shorter, refused, _⟩ := made 1 (by decide)
  obtain ⟨longer, mismatched, _⟩ := made 3 (by decide)
  obtain ⟨unread, failed, _⟩ := inlined 2
  exact ⟨started, reached, kept, ⟨whole, read⟩, ⟨shorter, refused⟩, ⟨longer, mismatched⟩,
    ⟨unread, failed⟩⟩

/-- With room for half the address space the length of the buffer is still a word, but there is no
such buffer: the lengths are never compared. -/
theorem sized_read_without_buffer :
    let initial : Simulator := ⟨.standard, ⟨12, by decide, by decide⟩, .empty⟩
    let client : Client Simulator := ⟨collaborator, .standard, .compact⟩
    let bytes : List UInt8 := [1, 0, 2, 0, 2, 0, 0, 0, 7, 8]
    let session : Session Simulator :=
      .start (initial.respond (.setStructured ⟨0x7f0000001000⟩ bytes)).2 .empty
    let room := 0x8000000000000000
    ofConfig? .standard = some initial ∧ initial.Reaches session.state ∧
      session.state.isExpanded ⟨0x7f0000001000⟩ = true ∧
      session.state.stored? ⟨0x7f0000001000⟩ = some (.structured bytes) ∧
      StructuredMetadata.decode bytes client.layout = .ok ⟨1, 2, [7, 8]⟩ ∧
      client.layout.headerLength + room < UInt64.size ∧ 2 < room ∧
      client.getSized session ⟨0x7f0000001000⟩ .structured room = .error .capacity ∧
      ¬ ∃ next, client.getSized session ⟨0x7f0000001000⟩ .structured room =
        .ok (.error (.lengthMismatch 2 room), next) := by
  intro initial client bytes session room
  have reached : initial.Reaches session.state := .respond .refl _
  have expanded : session.state.isExpanded ⟨0x7f0000001000⟩ = true := by
    dsimp +zetaDelta only
    decide +kernel
  have kept : session.state.stored? ⟨0x7f0000001000⟩ = some (.structured bytes) := by
    dsimp +zetaDelta only
    decide +kernel
  have counted : client.layout.headerLength + room < UInt64.size := by decide
  have unbuffered : client.getSized session ⟨0x7f0000001000⟩ .structured room =
      .error .capacity := client.getSized_eq_capacity session _ (by decide) counted
  refine ⟨rfl, reached, expanded, kept, by decide, counted, by decide, unbuffered, ?_⟩
  rintro ⟨next, read⟩
  cases unbuffered.symm.trans read

end PageMetadata.Simulator
