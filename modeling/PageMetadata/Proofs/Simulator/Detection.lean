import PageMetadata.Proofs.Simulator.Trials

/-! # Calls that give a simulator away

Every fault changes the answer to some call, and so does every choice of a contract and every choice
of a layout. A simulator that answers the calls below as predicted has not got the fault, or has
made the choice that the prediction is made for, whatever else is wrong with it. Only a value that
is read where none should be is looked for once it is known that values are read as they were
stored.
-/

namespace PageMetadata

/-- Only bits without a meaning are left exactly if each named fault is absent. -/
theorem Faults.truncated_eq_none_iff {faults : Faults} :
    faults.truncated = .none ↔
      ∀ fault ∈ Faults.named.map Prod.snd, faults.contains fault = false := by
  have every : ∀ word < 256, (⟨.ofNat word⟩ : Faults).truncated = .none ↔
      ∀ fault ∈ Faults.named.map Prod.snd, (⟨.ofNat word⟩ : Faults).contains fault = false := by
    decide +kernel
  have found := every faults.bits.toNat faults.bits.toNat_lt
  rwa [UInt8.ofNat_toNat] at found

namespace Simulator

@[simp] theorem hasFault_follow (simulator : Simulator) (request : Request) (fault : Faults) :
    (simulator.follow request).hasFault fault = simulator.hasFault fault := by
  rw [hasFault, config_follow]
  rfl

theorem isExpanded_follow_enable (simulator : Simulator) (address : Address) :
    (simulator.follow (.enable address)).isExpanded address = true := by
  rw [isExpanded_iff, lifecycle_follow]
  exact if_pos rfl

theorem stored?_follow_enable (simulator : Simulator) (address : Address) :
    (simulator.follow (.enable address)).stored? address = simulator.stored? address := by
  simp [stored?_follow, Request.address, Request.operation, Request.leaves, Request.stored?]

/-- A value is kept for the page of an address, whose table is expanded. -/
structure Keeps (simulator : Simulator) (address : Address) (stored : Stored) : Prop where
  expanded : simulator.isExpanded address = true
  stored : simulator.stored? address = some stored

/-- What is set at an address is kept for every page of the table that has the same slot. -/
theorem keeps_follow_request (simulator : Simulator) (stored : Stored) (target : Address)
    {address : Address}
    (sameTable : simulator.geometry.tableOf address = simulator.geometry.tableOf target)
    (sameSlot : simulator.slotOf address = simulator.slotOf target) :
    (simulator.follow (stored.request target)).Keeps address stored where
  expanded := by
    rw [isExpanded_iff, lifecycle_follow, stored.address_request, if_pos sameTable,
      stored.operation_request]
    rfl
  stored := by
    rw [stored?_follow, stored.address_request, if_pos sameTable, stored.operation_request,
      if_neg (fun disabled => nomatch disabled.1), stored.leaves_request, if_pos sameSlot]

namespace Keeps

variable {simulator : Simulator} {address : Address} {stored : Stored}

/-- With sticky metadata a value outlives the expansion it was set in. -/
theorem follow_disable_enable (keeps : simulator.Keeps address stored)
    (sticky : simulator.hasFault .stickyMetadata = true) :
    ((simulator.follow (.disable address)).follow (.enable address)).Keeps address stored where
  expanded := isExpanded_follow_enable _ address
  stored := by
    rw [stored?_follow_enable, stored?_follow]
    simp only [Request.address, Request.operation, sticky, and_self, if_true, keeps.stored]

theorem outcome_getInline {word : UInt64} (keeps : simulator.Keeps address (.inline word))
    (mapped : address ≠ .null) :
    simulator.outcome (.getInline address) =
      .ok (if simulator.hasFault .corruptPayload then word ^^^ 1 else word) := by
  rw [Simulator.outcome_getInline mapped, keeps.expanded, keeps.stored, if_pos rfl]

end Keeps

namespace Honours

variable {σ : Type} {client : Client σ} {region : Region} {simulator last : Simulator}
  {page : Nat} {prediction : Prediction} {trials : List Trial}

theorem enabled (honours : Honours client region simulator
      (⟨.enable page, .success none⟩ :: trials) last) :
    Honours client region (simulator.follow (.enable (region.addressOf page))) trials last := by
  obtain ⟨_, _, ⟨⟩, _, succeeded, rest⟩ := honours.step
  rwa [respond_snd_of_isOk succeeded] at rest

theorem disabled (honours : Honours client region simulator
      (⟨.disable page, .success none⟩ :: trials) last) :
    Honours client region (simulator.follow (.disable (region.addressOf page))) trials last := by
  obtain ⟨_, _, ⟨⟩, _, succeeded, rest⟩ := honours.step
  rwa [respond_snd_of_isOk succeeded] at rest

theorem set {value : MetadataValue} (honours : Honours client region simulator
      (⟨.set page (.fixed value), prediction⟩ :: trials) last) :
    ∃ stored, value.encode client.layout = .ok stored ∧
      (simulator.respond (stored.request (region.addressOf page))).1.result.isOk =
        decide (prediction.outcome = .success) ∧
      Honours client region
        (simulator.respond (stored.request (region.addressOf page))).2 trials last := by
  obtain ⟨_, _, requested, _, succeeded, rest⟩ := honours.step
  obtain ⟨stored, encoded, rfl⟩ := map_eq_ok_iff.mp requested
  exact ⟨stored, encoded, succeeded, rest⟩

/-- An inline value that is set is kept as the word that it is decoded from. -/
theorem setInline {metadata : InlineMetadata} (honours : Honours client region simulator
      (⟨.set page (.fixed (.inline metadata)), .success none⟩ :: trials) last) :
    ∃ word, InlineMetadata.decode word = metadata ∧
      Honours client region
        (simulator.follow ((Stored.inline word).request (region.addressOf page))) trials last := by
  obtain ⟨_, kept, succeeded, rest⟩ := honours.set
  obtain ⟨word, encoded, rfl⟩ := map_eq_ok_iff.mp kept
  rw [respond_snd_of_isOk succeeded] at rest
  exact ⟨word, (metadata.encode_eq_ok_iff word).mp encoded, rest⟩

theorem getInline (honours : Honours client region simulator
      (⟨.get page .inline, prediction⟩ :: trials) last) :
    (simulator.outcome (.getInline (region.addressOf page))).map
        (fun word => some (.inline (.decode word))) = prediction.answer ∧
      Honours client region simulator trials last := by
  obtain ⟨_, _, ⟨⟩, answered, _, rest⟩ := honours.step
  exact ⟨Except.ok.inj answered, rest⟩

/-- A value that is kept is the only one that may be predicted for the page. -/
theorem eq_success_of_keeps {word : UInt64}
    (keeps : simulator.Keeps (region.addressOf page) (.inline word))
    (mapped : region.addressOf page ≠ .null)
    (honest : simulator.hasFault .corruptPayload = false)
    (honours : Honours client region simulator
      (⟨.get page .inline, prediction⟩ :: trials) last) :
    prediction = .success (some (.inline (.decode word))) := by
  have answer := honours.getInline.1
  rw [keeps.outcome_getInline mapped, honest] at answer
  exact Prediction.answer_eq_ok_iff.mp answer.symm

/-- A value is read as it was set. -/
theorem corruptPayload_eq_false {metadata : InlineMetadata}
    (mapped : region.addressOf page ≠ .null)
    (honours : Honours client region simulator
      (⟨.set page (.fixed (.inline metadata)), .success none⟩ ::
        ⟨.get page .inline, .success (some (.inline metadata))⟩ :: trials) last) :
    simulator.hasFault .corruptPayload = false := by
  obtain ⟨word, rfl, rest⟩ := honours.setInline
  have keeps := simulator.keeps_follow_request (.inline word) (region.addressOf page) rfl rfl
  have answer := rest.getInline.1
  rw [keeps.outcome_getInline mapped, hasFault_follow] at answer
  cases faulty : simulator.hasFault .corruptPayload with
  | false => rfl
  | true =>
    rw [faulty, if_pos rfl] at answer
    have same : InlineMetadata.decode (word ^^^ 1) = .decode word :=
      MetadataValue.inline.inj (Option.some.inj (Except.ok.inj answer))
    have flipped := congrArg (word ^^^ ·) (InlineMetadata.decode_injective same)
    simp only [← UInt64.xor_assoc, UInt64.xor_self, UInt64.zero_xor] at flipped
    contradiction

/-- An expanded table is not enabled again. -/
theorem permissiveEnable_eq_false (mapped : region.addressOf page ≠ .null)
    (honours : Honours client region simulator
      (⟨.enable page, .success none⟩ :: ⟨.enable page, .failure .alreadyExpanded⟩ :: trials)
      last) :
    simulator.hasFault .permissiveEnable = false := by
  have answer : ((simulator.follow (.enable (region.addressOf page))).outcome
      (.enable (region.addressOf page))).map (fun _ => none) =
        (Prediction.failure .alreadyExpanded).answer := by
    obtain ⟨_, _, ⟨⟩, answered, _, _⟩ := honours.enabled.step
    exact Except.ok.inj answered
  rw [outcome_enable mapped, isExpanded_follow_enable, hasFault_follow] at answer
  cases faulty : simulator.hasFault .permissiveEnable with
  | false => rfl
  | true =>
    rw [faulty] at answer
    cases answer

/-- A value that is set on one page is not read on another. -/
theorem sharedSlot_eq_false {metadata : InlineMetadata} {other : Nat} {shown : Prediction}
    (mapped : region.addressOf other ≠ .null)
    (sameTable : simulator.geometry.tableOf (region.addressOf other) =
      simulator.geometry.tableOf (region.addressOf page))
    (honest : simulator.hasFault .corruptPayload = false)
    (differs : prediction ≠ .success (some (.inline metadata)))
    (honours : Honours client region simulator
      (⟨.set page (.fixed (.inline metadata)), .success none⟩ :: ⟨.get page .inline, shown⟩ ::
        ⟨.get other .inline, prediction⟩ :: trials) last) :
    simulator.hasFault .sharedSlot = false := by
  obtain ⟨word, rfl, rest⟩ := honours.setInline
  rw [Bool.eq_false_iff]
  intro shared
  have sameSlot : simulator.slotOf (region.addressOf other) =
      simulator.slotOf (region.addressOf page) := by
    rw [slotOf, slotOf, shared]
    rfl
  have keeps := simulator.keeps_follow_request (.inline word) _ sameTable sameSlot
  exact differs (eq_success_of_keeps keeps mapped honest rest.getInline.2)

/-- A value is not read again after its table was disabled and enabled. -/
theorem stickyMetadata_eq_false {metadata : InlineMetadata} {shown : Prediction}
    (mapped : region.addressOf page ≠ .null)
    (honest : simulator.hasFault .corruptPayload = false)
    (differs : prediction ≠ .success (some (.inline metadata)))
    (honours : Honours client region simulator
      (⟨.set page (.fixed (.inline metadata)), .success none⟩ :: ⟨.get page .inline, shown⟩ ::
        ⟨.disable page, .success none⟩ :: ⟨.enable page, .success none⟩ ::
        ⟨.get page .inline, prediction⟩ :: trials) last) :
    simulator.hasFault .stickyMetadata = false := by
  obtain ⟨word, rfl, rest⟩ := honours.setInline
  rw [Bool.eq_false_iff]
  intro sticky
  have keeps := simulator.keeps_follow_request (.inline word) (region.addressOf page) rfl rfl
  have kept := keeps.follow_disable_enable sticky
  exact differs (eq_success_of_keeps kept mapped honest rest.getInline.2.disabled.enabled)

/-- Setting a value on a table that is not expanded succeeds exactly if it expands the table. -/
theorem autoExpandOnSet_eq {metadata : InlineMetadata} (mapped : region.addressOf page ≠ .null)
    (unexpanded : simulator.isExpanded (region.addressOf page) = false)
    (honours : Honours client region simulator
      (⟨.set page (.fixed (.inline metadata)), prediction⟩ :: trials) last) :
    simulator.config.autoExpandOnSet = decide (prediction.outcome = .success) := by
  obtain ⟨_, kept, succeeded, _⟩ := honours.set
  obtain ⟨word, _, rfl⟩ := map_eq_ok_iff.mp kept
  rw [← succeeded, ← isOk_mapError]
  change _ = (simulator.outcome (.setInline (region.addressOf page) word)).isOk
  rw [outcome_setInline mapped, unexpanded, Bool.false_or]
  cases simulator.config.autoExpandOnSet <;> rfl

/-- What is read before any value is set is what the contract says. -/
theorem unsetRead_eq {contract : Contract} (mapped : region.addressOf page ≠ .null)
    (unset : simulator.stored? (region.addressOf page) = none)
    (honours : Honours client region simulator
      (⟨.enable page, .success none⟩ ::
        ⟨.get page .inline, contract.predict .expanded none (.get .null .inline)⟩ :: trials)
      last) :
    simulator.config.unsetRead = contract.unsetRead := by
  have answer := honours.enabled.getInline.1
  rw [outcome_getInline mapped, isExpanded_follow_enable, stored?_follow_enable, unset,
    config_follow] at answer
  obtain ⟨_, unsetRead⟩ := contract
  cases configured : simulator.config.unsetRead <;>
    · rw [configured] at answer
      cases unsetRead <;> first | rfl | cases answer

/-- A structured value is accepted only if its encoding is one in the simulator's layout. -/
theorem exists_encode_of_set {metadata : StructuredMetadata}
    (honours : Honours client region simulator
      (⟨.set page (.fixed (.structured metadata)), .success none⟩ :: trials) last) :
    ∃ bytes, metadata.encode client.layout = .ok bytes ∧
      ∃ other : StructuredMetadata, other.encode simulator.config.headerLayout = .ok bytes := by
  obtain ⟨_, kept, succeeded, _⟩ := honours.set
  obtain ⟨bytes, encoded, rfl⟩ := map_eq_ok_iff.mp kept
  obtain ⟨other, decoded⟩ := exists_decode_of_isOk succeeded
  exact ⟨bytes, encoded, other, (other.decode_eq_ok_iff_encode _ _).mp decoded⟩

end Honours

end Simulator

end PageMetadata
