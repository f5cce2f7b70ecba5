import PageMetadata.Proofs.TableIndependence

/-! # Requests that leave no trace

A refused request may make a table known, so it need not leave the simulator as it was; a read always
does. In either case the simulators before and after are alike, and simulators that are alike answer
every later sequence of requests in the same way. A structured read fills the whole of the caller's
buffer or none of it.
-/

namespace PageMetadata.Simulator

/-- Simulators that are alike answer all later requests in the same way. -/
theorem Alike.answersTo {first second : Simulator} (alike : Alike first second)
    (later : List Request) :
    PageMetadata.answersTo exchange first later = PageMetadata.answersTo exchange second later := by
  induction later generalizing first second with
  | nil => rfl
  | cons request later ih =>
    rw [PageMetadata.answersTo, PageMetadata.answersTo, exchange, exchange, alike.reply]
    exact congrArg _ (ih (alike.respond request))

theorem alike_refuse (simulator : Simulator) (address : Address) (refusal : Refusal) :
    Alike (simulator.refuse address refusal) simulator :=
  Alike.iff_at.mpr fun table => (AlikeAt.refl table simulator).refuse_left address refusal

variable {simulator : Simulator}

/-- What is refused, or merely reads, changes nothing that can be seen. -/
theorem alike_respond {request : Request}
    (idle : (simulator.respond request).1.result.isOk = false ∨
      request.operation.reads = true) :
    Alike (simulator.respond request).2 simulator := by
  rcases idle with refused | reads
  · obtain ⟨refusal, next⟩ := exists_refuse_of_refused refused
    rw [next]
    exact simulator.alike_refuse request.address refusal
  · cases request with
    | getInline address => exact .refl simulator
    | getStructured address buffer =>
      rw [respond_getStructured]
      exact .refl simulator
    | _ => contradiction

/-- A structured read needs an expanded table, a structured value and room for all of it. -/
theorem readStructured_eq_ok_iff {address : Address} {length : Nat} {filled : List UInt8} :
    simulator.readStructured address length = .ok filled ↔
      address ≠ .null ∧ simulator.isExpanded address = true ∧
        ∃ bytes, simulator.stored? address = some (.structured bytes) ∧ bytes.length ≤ length ∧
          (if simulator.hasFault .corruptPayload then corruptLast bytes else bytes) ++
            List.replicate (length - bytes.length) 0 = filled := by
  rw [readStructured, checkAddress_eq]
  by_cases null : address = .null
  · simp [null, bind, Except.bind]
  · cases expanded : simulator.isExpanded address with
    | false => simp [null, bind, Except.bind, throw, throwThe, MonadExceptOf.throw]
    | true =>
      rcases stored : simulator.stored? address with _ | word | bytes
      · simp [null, bind, Except.bind, throw, throwThe, MonadExceptOf.throw]
      · simp [null, bind, Except.bind, throw, throwThe, MonadExceptOf.throw]
      · by_cases short : length < bytes.length
        · simp [null, bind, Except.bind, throw, throwThe, MonadExceptOf.throw, short,
            Nat.not_le.mpr short]
        · simp [null, bind, Except.bind, pure, Except.pure, short, Nat.le_of_not_lt short]

/-- A successful structured read returns the buffer as it was left. -/
theorem result_getStructured (simulator : Simulator) (address : Address) (buffer : List UInt8) :
    (simulator.respond (.getStructured address buffer)).1.result =
      ((simulator.getStructured address buffer).1.mapError Refusal.errno).map
        fun _ => (simulator.getStructured address buffer).2 := by
  rw [respond_getStructured, getStructured]
  cases simulator.readStructured address buffer.length <;> rfl

theorem buffer_of_refused {address : Address} {buffer : List UInt8}
    (refused : (simulator.getStructured address buffer).1.isOk = false) :
    (simulator.getStructured address buffer).2 = buffer := by
  rw [getStructured] at refused ⊢
  cases read : simulator.readStructured address buffer.length with
  | error refusal => rfl
  | ok filled =>
    rw [read] at refused
    contradiction

theorem buffer_of_isOk {address : Address} {buffer : List UInt8}
    (succeeded : (simulator.getStructured address buffer).1.isOk = true)
    (honest : simulator.hasFault .corruptPayload = false) :
    ∃ bytes, simulator.stored? address = some (.structured bytes) ∧
      bytes.length ≤ buffer.length ∧
      (simulator.getStructured address buffer).2 =
        bytes ++ List.replicate (buffer.length - bytes.length) 0 := by
  rw [getStructured] at succeeded ⊢
  cases read : simulator.readStructured address buffer.length with
  | error refusal =>
    rw [read] at succeeded
    contradiction
  | ok filled =>
    obtain ⟨_, _, bytes, stored, room, whole⟩ := readStructured_eq_ok_iff.mp read
    rw [honest] at whole
    exact ⟨bytes, stored, room, whole.symm⟩

/-- In every state, under any contract and any faults, a refused request and a read leave no trace:
all tables and values, and all answers to later requests, are as if it had not been made. A refused
structured read leaves the caller's buffer as it was. A successful one fills it with the stored bytes
and zeros behind them, if the payload is not corrupted. -/
theorem refused_or_reading_leaves_no_trace (simulator : Simulator) :
    (∀ request,
      let next := (simulator.respond request).2
      (simulator.respond request).1.result.isOk = false ∨ request.operation.reads = true →
        (∀ address, next.isExpanded address = simulator.isExpanded address ∧
          next.stored? address = simulator.stored? address) ∧
        ∀ later, answersTo exchange next later = answersTo exchange simulator later) ∧
    (∀ address buffer,
      let result := (simulator.getStructured address buffer).1
      let left := (simulator.getStructured address buffer).2
      (simulator.respond (.getStructured address buffer)).1.result =
          (result.mapError Refusal.errno).map (fun _ => left) ∧
        (result.isOk = false → left = buffer) ∧
        (result.isOk = true → simulator.hasFault .corruptPayload = false →
          ∃ bytes, simulator.stored? address = some (.structured bytes) ∧
            bytes.length ≤ buffer.length ∧
            left = bytes ++ List.replicate (buffer.length - bytes.length) 0)) := by
  refine ⟨?_, ?_⟩
  · intro request next idle
    have alike := alike_respond idle
    exact ⟨fun address => ⟨alike.expanded address, alike.stored address⟩, alike.answersTo⟩
  · intro address buffer result left
    exact ⟨simulator.result_getStructured address buffer, buffer_of_refused, buffer_of_isOk⟩

/-- Without expansion on demand a value is refused, and its table is known from then on; this is not
seen when the table is enabled and read. A structured value, read on another page of the table whose
pages share it, leaves two bytes of a buffer to fill with zeros. -/
theorem refused_set_leaves_no_trace :
    let strict : Simulator :=
      ⟨{ SimulatorConfig.standard with
          autoExpandOnSet := false, faults := .union .sharedSlot .stickyMetadata },
        ⟨12, by decide, by decide⟩, .empty⟩
    let set : Request := .setInline ⟨0x1000⟩ 7
    let later : List Request := [.getInline ⟨0x1000⟩, .enable ⟨0x1008⟩, .getInline ⟨0x2000⟩]
    let holding := stateAfter exchange strict
      [.enable ⟨0x1000⟩, .setStructured ⟨0x1000⟩ [1, 0, 2, 0, 1, 0, 0, 0, 9]]
    (strict.respond set).1.result.isOk = false ∧
      strict.table? ⟨0x1000⟩ = none ∧
      ((strict.respond set).2.table? ⟨0x1000⟩).isSome = true ∧
      answersTo exchange (strict.respond set).2 later = answersTo exchange strict later ∧
      (holding.getStructured ⟨0x2000⟩ (List.replicate 11 0xaa)).1.isOk = true ∧
      (holding.getStructured ⟨0x2000⟩ (List.replicate 11 0xaa)).2 =
        [1, 0, 2, 0, 1, 0, 0, 0, 9, 0, 0] := by
  intro strict set later holding
  have refused : (strict.respond set).1.result.isOk = false := by
    dsimp +zetaDelta only
    decide
  have unknown : strict.table? ⟨0x1000⟩ = none := rfl
  have known : ((strict.respond set).2.table? ⟨0x1000⟩).isSome = true := by
    dsimp +zetaDelta only
    decide
  have stored : holding.stored? ⟨0x2000⟩ = some (.structured [1, 0, 2, 0, 1, 0, 0, 0, 9]) := by
    dsimp +zetaDelta only
    decide +kernel
  have read : (holding.getStructured ⟨0x2000⟩ (List.replicate 11 0xaa)).1.isOk = true := by
    dsimp +zetaDelta only
    decide +kernel
  have honest : holding.hasFault .corruptPayload = false := by
    dsimp +zetaDelta only
    decide +kernel
  obtain ⟨untouched, _⟩ := refused_or_reading_leaves_no_trace strict
  obtain ⟨_, fills⟩ := refused_or_reading_leaves_no_trace holding
  obtain ⟨bytes, kept, _, filled⟩ := (fills ⟨0x2000⟩ (List.replicate 11 0xaa)).2.2 read honest
  cases stored.symm.trans kept
  exact ⟨refused, unknown, known, (untouched set (.inl refused)).2 later, read, filled⟩

end PageMetadata.Simulator
