import PageMetadata.Proofs.Codec.Bijection
import PageMetadata.Proofs.Simulator.Refusal
import PageMetadata.Proofs.Simulator.SizedRead

/-! # Reads of corrupted values

A simulator that corrupts payloads inverts a bit of the word, or the last byte of the buffer, that it
returns. That byte belongs to the payload or, if the payload is empty, to the header. Either way what
is returned is not what is stored, and different codes never stand for one value, so the caller does
not read the stored value. The stored value itself stays as it is.
-/

namespace PageMetadata.Simulator

theorem corruptLast_append_singleton (bytes : List UInt8) (last : UInt8) :
    corruptLast (bytes ++ [last]) = bytes ++ [last ^^^ 0xff] := by
  simp [corruptLast]

/-- Only where there is no byte nothing changes. -/
theorem corruptLast_ne_self {bytes : List UInt8} (filled : bytes ≠ []) :
    corruptLast bytes ≠ bytes := by
  obtain ⟨front, last, rfl⟩ : ∃ front last, bytes = front ++ [last] :=
    ⟨_, _, (List.dropLast_concat_getLast filled).symm⟩
  rw [corruptLast_append_singleton]
  intro same
  have inverted : last ^^^ 0xff = last ^^^ 0 := by
    rw [UInt8.xor_zero]
    exact List.singleton_inj.mp (List.append_cancel_left same)
  exact absurd ((UInt8.xor_right_inj last).mp inverted) (by decide)

/-- An encoding that is corrupted does not decode to its value. -/
theorem decode_corruptLast_ne {bytes : List UInt8} {layout : HeaderLayout}
    {metadata : StructuredMetadata}
    (decoded : StructuredMetadata.decode bytes layout = .ok metadata) :
    StructuredMetadata.decode (corruptLast bytes) layout ≠ .ok metadata := by
  intro corrupted
  have length := StructuredMetadata.length_of_encode
    ((metadata.decode_eq_ok_iff_encode _ _).mp decoded)
  have header : 0 < layout.headerLength := by cases layout <;> decide
  have filled : bytes ≠ [] := by
    rw [← List.length_pos_iff]
    omega
  exact corruptLast_ne_self filled (StructuredMetadata.decode_injective corrupted decoded)

theorem decode_corruptWord_ne (word : UInt64) :
    InlineMetadata.decode (word ^^^ 1) ≠ .decode word := by
  intro same
  have inverted : word ^^^ 1 = word ^^^ 0 := by
    rw [UInt64.xor_zero]
    exact InlineMetadata.decode_injective same
  exact absurd ((UInt64.xor_right_inj word).mp inverted) (by decide)

section Result

variable {simulator : Simulator} {address : Address}
  (corrupts : simulator.hasFault .corruptPayload = true) (mapped : address ≠ .null)
  (expanded : simulator.isExpanded address = true)

include corrupts mapped expanded

theorem result_getInline_of_corrupt {word : UInt64}
    (kept : simulator.stored? address = some (.inline word)) :
    (simulator.respond (.getInline address)).1.result = .ok (word ^^^ 1) := by
  simp only [respond, getInline, checkAddress_eq, if_neg mapped, expanded, kept, corrupts]
  rfl

/-- A buffer of the stored length is filled with the corrupted bytes. -/
theorem result_getStructured_of_corrupt {bytes : List UInt8}
    (kept : simulator.stored? address = some (.structured bytes)) :
    (simulator.respond (.getStructured address (List.replicate bytes.length 0))).1.result =
      .ok (corruptLast bytes) := by
  have read : simulator.readStructured address bytes.length = .ok (corruptLast bytes) := by
    refine readStructured_eq_ok_iff.mpr ⟨mapped, expanded, bytes, kept, Nat.le_refl _, ?_⟩
    rw [corrupts, if_pos rfl, Nat.sub_self, List.replicate_zero, List.append_nil]
  simp only [respond_getStructured, List.length_replicate, read]
  rfl

end Result

section Client

variable {σ : Type} {view : σ → Simulator} {client : Client σ} {session : Session σ}
  {address : Address} (drives : Drives view client.collaborator)
  (corrupts : (view session.state).hasFault .corruptPayload = true) (mapped : address ≠ .null)
  (expanded : (view session.state).isExpanded address = true)

include drives corrupts mapped expanded

/-- Whatever rules the client classifies by, it reads the corrupted word. -/
theorem Drives.get_inline_of_corrupt {word : UInt64}
    (kept : (view session.state).stored? address = some (.inline word)) (room : Nat) :
    (client.get session address .inline room).1 =
      .ok (.ok (.inline (.decode (word ^^^ 1)))) := by
  have answered := drives.outcome_exchange session (.getInline address)
  rw [result_getInline_of_corrupt corrupts mapped expanded kept, mapError_ok] at answered
  simp only [Client.get, answered]
  rfl

/-- With room for the stored payload, the client decodes the corrupted bytes. -/
theorem Drives.get_structured_of_corrupt {bytes : List UInt8} {room : Nat}
    (kept : (view session.state).stored? address = some (.structured bytes))
    (whole : client.layout.headerLength + room = bytes.length) :
    (client.get session address .structured room).1 =
      (StructuredMetadata.decode (corruptLast bytes) client.layout).map fun metadata =>
        .ok (.structured metadata) := by
  have answered := drives.outcome_exchange session
    (.getStructured address (List.replicate bytes.length 0))
  rw [result_getStructured_of_corrupt corrupts mapped expanded kept, mapError_ok] at answered
  rw [Client.get_structured_eq, whole]
  dsimp only
  rw [answered]

end Client

/-- However a simulator that corrupts payloads came to hold a value, under any contract and any
other faults: a client of the same layout that reads it in its encoding, with room for its payload,
gets another value or, in the structured encoding, bytes that do not decode. The simulator is left
as it was. -/
theorem corruption_shows_on_every_read {σ : Type} {view : σ → Simulator} {client : Client σ}
    (drives : Drives view client.collaborator) {config : SimulatorConfig} {initial : Simulator}
    (started : ofConfig? config = some initial)
    (corrupts : config.faults.contains .corruptPayload = true)
    (layout : client.layout = config.headerLayout) {session : Session σ}
    (reached : initial.Reaches (view session.state)) {address : Address}
    (mapped : address ≠ .null) (expanded : (view session.state).isExpanded address = true)
    {stored : Stored} (kept : (view session.state).stored? address = some stored) :
    ∃ value, stored.decode client.layout = .ok value ∧
      ∃ answer next,
        client.getSized session address stored.encoding value.payloadLength =
            .ok (answer, next) ∧
          ((∃ read, answer = .ok (.ok read) ∧ read ≠ value) ∨
            (stored.encoding = .structured ∧ ∃ error, answer = .error error)) ∧
          view next.state = view session.state := by
  have sameConfig : (view session.state).config = config :=
    reached.config.trans (config_of_ofConfig? started)
  have wellEncoded := Reaches.wellEncoded_of_ofConfig? started reached
  rw [WellEncoded, sameConfig, ← layout] at wellEncoded
  rw [← sameConfig] at corrupts
  cases stored with
  | inline word =>
    refine ⟨_, rfl, _, _, client.getSized_eq session address nofun, .inl ?_,
      drives.state_get session address .inline 0⟩
    refine ⟨.inline (.decode (word ^^^ 1)),
      drives.get_inline_of_corrupt corrupts mapped expanded kept 0, ?_⟩
    exact fun same => decode_corruptWord_ne word (MetadataValue.inline.inj same)
  | structured bytes =>
    obtain ⟨metadata, decoded⟩ := wellEncoded address bytes kept
    have encoded := (metadata.decode_eq_ok_iff_encode _ _).mp decoded
    have answered := drives.get_structured_of_corrupt corrupts mapped expanded kept
      (StructuredMetadata.length_of_encode encoded).symm
    refine ⟨.structured metadata, ?_,
      (client.get session address .structured metadata.payload.length).1,
      (client.get session address .structured metadata.payload.length).2, ?_, ?_,
      drives.state_get session address .structured _⟩
    · rw [Stored.decode, decoded]
      rfl
    · exact client.getSized_eq session address
        fun _ => StructuredMetadata.length_of_encode_lt encoded
    · rw [answered]
      cases corrupted : StructuredMetadata.decode (corruptLast bytes) client.layout with
      | error error => exact .inr ⟨rfl, error, rfl⟩
      | ok other =>
        refine .inl ⟨.structured other, rfl, ?_⟩
        rintro ⟨⟩
        exact decode_corruptLast_ne decoded corrupted

/-- A value without payload is set on another page of a table whose pages share one value. The byte
that is inverted is that of the reserved word of its header. -/
theorem corruption_shows_without_payload :
    let config : SimulatorConfig :=
      { SimulatorConfig.standard with
        headerLayout := .wideReserved, faults := .union .corruptPayload .sharedSlot }
    let initial : Simulator := ⟨config, ⟨12, by decide, by decide⟩, .empty⟩
    let client : Client Simulator := ⟨collaborator, .empty, .wideReserved⟩
    let bytes : List UInt8 := [1, 0, 0, 0, 2, 0, 0, 0, 0, 0, 0, 0, 0, 0, 0, 0]
    let session : Session Simulator :=
      .start (initial.respond (.setStructured ⟨0x1000⟩ bytes)).2 .empty
    ofConfig? config = some initial ∧ initial.Reaches session.state ∧
      session.state.stored? ⟨0x2000⟩ = some (.structured bytes) ∧
      StructuredMetadata.decode bytes .wideReserved = .ok ⟨1, 2, []⟩ ∧
      StructuredMetadata.decode (corruptLast bytes) .wideReserved =
        .error (.reservedNotZero 0xff000000) ∧
      ∃ answer next, client.getSized session ⟨0x2000⟩ .structured 0 = .ok (answer, next) ∧
        ((∃ read, answer = .ok (.ok read) ∧ read ≠ .structured ⟨1, 2, []⟩) ∨
          ∃ error, answer = .error error) ∧
        next.state = session.state := by
  intro config initial client bytes session
  have started : ofConfig? config = some initial := by
    dsimp +zetaDelta only
    rfl
  have reached : initial.Reaches session.state := .respond .refl _
  have expanded : session.state.isExpanded ⟨0x2000⟩ = true := by
    dsimp +zetaDelta only
    decide +kernel
  have kept : session.state.stored? ⟨0x2000⟩ = some (.structured bytes) := by
    dsimp +zetaDelta only
    decide +kernel
  have encoded : StructuredMetadata.decode bytes .wideReserved = .ok ⟨1, 2, []⟩ := by decide
  have corrupted : StructuredMetadata.decode (corruptLast bytes) .wideReserved =
      .error (.reservedNotZero 0xff000000) := by decide
  have drives : Drives id client.collaborator := drives_collaborator
  obtain ⟨value, decoded, answer, next, read, shown, untouched⟩ :=
    corruption_shows_on_every_read drives started (by decide) rfl reached (by decide) expanded kept
  have same : (Stored.structured bytes).decode client.layout = .ok (.structured ⟨1, 2, []⟩) := by
    rw [Stored.decode, encoded]
    rfl
  cases decoded.symm.trans same
  refine ⟨started, reached, kept, encoded, corrupted, answer, next, read, ?_, untouched⟩
  exact shown.imp_right And.right

end PageMetadata.Simulator
