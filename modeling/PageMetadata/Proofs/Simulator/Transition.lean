import PageMetadata.Proofs.Client
import PageMetadata.Simulator.Basic

/-! # How the simulator follows requests

A refused request changes nothing that can be seen, although it may leave a table known that was not
known before. A successful one settles the lifecycle of its table like a call of the model does,
under every fault; what it does to the values of the table depends on two of the faults.
-/

namespace PageMetadata

/-- The lifecycle of a table that is, or is not, expanded. -/
def Lifecycle.ofBool : Bool → Lifecycle
  | false => .unexpanded
  | true => .expanded

namespace Simulator

@[simp] theorem config_alterTable (simulator : Simulator) (address : Address)
    (change : SimulatedTable → SimulatedTable) :
    (simulator.alterTable address change).config = simulator.config := rfl

@[simp] theorem geometry_alterTable (simulator : Simulator) (address : Address)
    (change : SimulatedTable → SimulatedTable) :
    (simulator.alterTable address change).geometry = simulator.geometry := rfl

@[simp] theorem slotOf_alterTable (simulator : Simulator) (target address : Address)
    (change : SimulatedTable → SimulatedTable) :
    (simulator.alterTable target change).slotOf address = simulator.slotOf address := rfl

theorem table?_alterTable (simulator : Simulator) (target address : Address)
    (change : SimulatedTable → SimulatedTable) :
    (simulator.alterTable target change).table? address =
      if simulator.geometry.tableOf address = simulator.geometry.tableOf target then
        some (change ((simulator.table? address).getD ⟨false, .empty⟩))
      else simulator.table? address := by
  simp only [table?, alterTable, Registry.get?_alter]
  split
  · next same => rw [same]
  · rfl

/-- The lifecycle of the table of an address. -/
def lifecycle (simulator : Simulator) (address : Address) : Lifecycle :=
  .ofBool (simulator.isExpanded address)

theorem isExpanded_iff (simulator : Simulator) (address : Address) :
    simulator.isExpanded address = true ↔ simulator.lifecycle address = .expanded := by
  unfold lifecycle
  cases simulator.isExpanded address <;> simp [Lifecycle.ofBool]

theorem isExpanded_eq_false_iff (simulator : Simulator) (address : Address) :
    simulator.isExpanded address = false ↔ simulator.lifecycle address = .unexpanded := by
  unfold lifecycle
  cases simulator.isExpanded address <;> simp [Lifecycle.ofBool]

theorem isExpanded_congr {simulator : Simulator} {first second : Address}
    (same : simulator.geometry.tableOf first = simulator.geometry.tableOf second) :
    simulator.isExpanded first = simulator.isExpanded second := by
  simp only [isExpanded, table?, same]

theorem config_of_ofConfig? {config : SimulatorConfig} {simulator : Simulator}
    (started : ofConfig? config = some simulator) : simulator.config = config := by
  obtain ⟨geometry, _, same⟩ := Option.bind_eq_some_iff.mp started
  cases same
  rfl

theorem isExpanded_of_ofConfig? {config : SimulatorConfig} {simulator : Simulator}
    (started : ofConfig? config = some simulator) (address : Address) :
    simulator.isExpanded address = false := by
  obtain ⟨geometry, _, same⟩ := Option.bind_eq_some_iff.mp started
  cases same
  rfl

theorem stored?_of_ofConfig? {config : SimulatorConfig} {simulator : Simulator}
    (started : ofConfig? config = some simulator) (address : Address) :
    simulator.stored? address = none := by
  obtain ⟨geometry, _, same⟩ := Option.bind_eq_some_iff.mp started
  cases same
  rfl

/-- The simulator after a successful request. -/
def follow (simulator : Simulator) (request : Request) : Simulator :=
  match request with
  | .enable address =>
    simulator.alterTable address fun table => { table with expanded := true }
  | .disable address =>
    simulator.alterTable address fun table =>
      ⟨false, if simulator.hasFault .stickyMetadata then table.slots else .empty⟩
  | .setInline address word =>
    simulator.alterTable address fun table =>
      ⟨true, table.slots.insert (simulator.slotOf address) (.inline word)⟩
  | .setStructured address bytes =>
    simulator.alterTable address fun table =>
      ⟨true, table.slots.insert (simulator.slotOf address) (.structured bytes)⟩
  | .getInline _ => simulator
  | .getStructured _ _ => simulator

@[simp] theorem config_follow (simulator : Simulator) (request : Request) :
    (simulator.follow request).config = simulator.config := by
  cases request <;> rfl

@[simp] theorem geometry_follow (simulator : Simulator) (request : Request) :
    (simulator.follow request).geometry = simulator.geometry := by
  cases request <;> rfl

theorem lifecycle_follow (simulator : Simulator) (request : Request) (address : Address) :
    (simulator.follow request).lifecycle address =
      if simulator.geometry.tableOf address = simulator.geometry.tableOf request.address then
        request.operation.settles?.getD (simulator.lifecycle address)
      else simulator.lifecycle address := by
  by_cases same : simulator.geometry.tableOf address = simulator.geometry.tableOf request.address
  · rw [if_pos same]
    cases request <;>
      simp_all [follow, lifecycle, isExpanded, table?_alterTable, Request.address,
        Request.operation, Operation.settles?, Lifecycle.ofBool]
  · rw [if_neg same]
    cases request <;>
      simp_all [follow, lifecycle, isExpanded, table?_alterTable, Request.address]

theorem stored?_follow (simulator : Simulator) (request : Request) (address : Address) :
    (simulator.follow request).stored? address =
      if simulator.geometry.tableOf address = simulator.geometry.tableOf request.address then
        if request.operation = .disable ∧ simulator.hasFault .stickyMetadata = true then
          simulator.stored? address
        else
          request.leaves (simulator.slotOf address = simulator.slotOf request.address)
            (simulator.stored? address)
      else simulator.stored? address := by
  by_cases same : simulator.geometry.tableOf address = simulator.geometry.tableOf request.address
  · rw [if_pos same]
    cases request with
    | disable target =>
      cases found : simulator.table? address <;>
        simp_all [follow, stored?, table?_alterTable, Request.address, Request.operation,
          Request.leaves]
      split <;> rfl
    | _ =>
      cases found : simulator.table? address <;>
        simp_all [follow, stored?, table?_alterTable, Request.address, Request.operation,
          Request.leaves, Request.stored?, Registry.get?_insert]
  · rw [if_neg same]
    cases request <;>
      simp_all [follow, stored?, table?_alterTable, Request.address]

@[simp] theorem config_refuse (simulator : Simulator) (address : Address) (refusal : Refusal) :
    (simulator.refuse address refusal).config = simulator.config := by
  cases refusal <;> rfl

@[simp] theorem geometry_refuse (simulator : Simulator) (address : Address) (refusal : Refusal) :
    (simulator.refuse address refusal).geometry = simulator.geometry := by
  cases refusal <;> rfl

@[simp] theorem isExpanded_refuse (simulator : Simulator) (target : Address) (refusal : Refusal)
    (address : Address) :
    (simulator.refuse target refusal).isExpanded address = simulator.isExpanded address := by
  cases refusal with
  | noTable =>
    simp only [refuse, isExpanded, table?_alterTable]
    split
    · cases simulator.table? address <;> rfl
    · rfl
  | _ => rfl

@[simp] theorem lifecycle_refuse (simulator : Simulator) (target : Address) (refusal : Refusal)
    (address : Address) :
    (simulator.refuse target refusal).lifecycle address = simulator.lifecycle address := by
  rw [lifecycle, isExpanded_refuse, lifecycle]

@[simp] theorem stored?_refuse (simulator : Simulator) (target : Address) (refusal : Refusal)
    (address : Address) :
    (simulator.refuse target refusal).stored? address = simulator.stored? address := by
  cases refusal with
  | noTable =>
    simp only [refuse, stored?, table?_alterTable, slotOf_alterTable]
    split
    · cases simulator.table? address <;> rfl
    · rfl
  | _ => rfl

theorem checkAddress_eq (address : Address) :
    checkAddress address = if address = .null then .error .badAddress else .ok () := by
  simp [checkAddress, Address.isNull]

theorem enable_eq (simulator : Simulator) (address : Address) :
    simulator.enable address =
      if address = .null then .error .badAddress
      else if simulator.isExpanded address && !simulator.hasFault .permissiveEnable then
        .error .alreadyExpanded
      else .ok (simulator.follow (.enable address)) := by
  rw [enable, checkAddress_eq]
  split <;> rfl

theorem disable_eq (simulator : Simulator) (address : Address) :
    simulator.disable address =
      if address = .null then .error .badAddress
      else if simulator.isExpanded address then .ok (simulator.follow (.disable address))
      else .error .notExpanded := by
  rw [disable, checkAddress_eq]
  split <;> rfl

theorem setInline_eq (simulator : Simulator) (address : Address) (word : UInt64) :
    simulator.setInline address word =
      if address = .null then .error .badAddress
      else if simulator.isExpanded address || simulator.config.autoExpandOnSet then
        .ok (simulator.follow (.setInline address word))
      else .error .noTable := by
  rw [setInline, checkAddress_eq]
  split <;> rfl

theorem setStructured_eq (simulator : Simulator) (address : Address) (bytes : List UInt8) :
    simulator.setStructured address bytes =
      if address = .null then .error .badAddress
      else match simulator.checkStructured bytes with
        | .error refusal => .error refusal
        | .ok () =>
          if simulator.isExpanded address || simulator.config.autoExpandOnSet then
            .ok (simulator.follow (.setStructured address bytes))
          else .error .noTable := by
  rw [setStructured, checkAddress_eq]
  split
  · rfl
  · cases simulator.checkStructured bytes <;> rfl

/-- What the simulator accepts is what decodes in its layout. -/
theorem checkStructured_eq (simulator : Simulator) (bytes : List UInt8) :
    simulator.checkStructured bytes =
      ((StructuredMetadata.decode bytes simulator.config.headerLayout).map fun _ => ()).mapError
        fun _ => .malformed := by
  rw [checkStructured, StructuredMetadata.decode]
  cases simulator.config.headerLayout.readHeader bytes with
  | error error => rfl
  | ok parts =>
    obtain ⟨header, payload⟩ := parts
    by_cases counted : header.length.toNat = payload.length
    · simp only [bind, Except.bind, if_pos counted]
      rfl
    · simp only [bind, Except.bind, if_neg counted]
      rfl

/-- Whether a buffer decodes is judged before the state of the table. -/
theorem result_setStructured {simulator : Simulator} {address : Address} (mapped : address ≠ .null)
    (bytes : List UInt8) :
    (simulator.respond (.setStructured address bytes)).1.result =
      match StructuredMetadata.decode bytes simulator.config.headerLayout with
      | .error _ => .error .einval
      | .ok _ =>
        if simulator.isExpanded address || simulator.config.autoExpandOnSet then .ok ()
        else .error .enoent := by
  simp only [respond, setStructured_eq, if_neg mapped, checkStructured_eq]
  cases StructuredMetadata.decode bytes simulator.config.headerLayout with
  | error error => rfl
  | ok metadata =>
    simp only [Except.map, Except.mapError]
    split <;> rfl

theorem respond_getStructured (simulator : Simulator) (address : Address)
    (buffer : List UInt8) :
    simulator.respond (.getStructured address buffer) =
      (⟨(simulator.readStructured address buffer.length).mapError Refusal.errno, [], .zero⟩,
        simulator) := by
  simp only [respond, getStructured]
  cases simulator.readStructured address buffer.length <;> rfl

/-- A change that is made leads to `next`; one that is refused leaves what a refusal leaves. -/
private theorem answer_cases (simulator : Simulator) {next : Simulator} (address : Address)
    (changed : Except Refusal Simulator) (expands : Bool)
    (follows : ∀ result, changed = .ok result → result = next) :
    ((simulator.answer address changed expands).1.isOk = true ∧
      (simulator.answer address changed expands).2.2 = next) ∨
    ((simulator.answer address changed expands).1.isOk = false ∧
      ∃ refusal,
        (simulator.answer address changed expands).2.2 = simulator.refuse address refusal) := by
  cases changed with
  | ok result => exact .inl ⟨rfl, follows result rfl⟩
  | error refusal => exact .inr ⟨rfl, refusal, rfl⟩

/-- A request succeeds and is followed, or it is refused. -/
theorem respond_cases (simulator : Simulator) (request : Request) :
    ((simulator.respond request).1.result.isOk = true ∧
      (simulator.respond request).2 = simulator.follow request) ∨
    ((simulator.respond request).1.result.isOk = false ∧
      ∃ refusal, (simulator.respond request).2 = simulator.refuse request.address refusal) := by
  cases request with
  | enable address =>
    refine simulator.answer_cases address (simulator.enable address) true ?_
    intro result changed
    rw [enable_eq] at changed
    split at changed <;> [contradiction; split at changed]
    · contradiction
    · exact (Except.ok.inj changed).symm
  | disable address =>
    refine simulator.answer_cases address (simulator.disable address) false ?_
    intro result changed
    rw [disable_eq] at changed
    split at changed <;> [contradiction; split at changed]
    · exact (Except.ok.inj changed).symm
    · contradiction
  | setInline address word =>
    refine simulator.answer_cases address (simulator.setInline address word) _ ?_
    intro result changed
    rw [setInline_eq] at changed
    split at changed <;> [contradiction; split at changed]
    · exact (Except.ok.inj changed).symm
    · contradiction
  | setStructured address bytes =>
    refine simulator.answer_cases address (simulator.setStructured address bytes) _ ?_
    intro result changed
    rw [setStructured_eq] at changed
    split at changed <;> [contradiction; split at changed]
    · contradiction
    · split at changed
      · exact (Except.ok.inj changed).symm
      · contradiction
  | getInline address =>
    simp only [respond, isOk_mapError]
    cases simulator.getInline address with
    | ok word => exact .inl ⟨rfl, rfl⟩
    | error refusal => exact .inr ⟨rfl, .noData, rfl⟩
  | getStructured address buffer =>
    simp only [respond_getStructured, isOk_mapError]
    cases simulator.readStructured address buffer.length with
    | ok filled => exact .inl ⟨rfl, rfl⟩
    | error refusal => exact .inr ⟨rfl, .noData, rfl⟩

section Answered

variable {simulator : Simulator} {request : Request}

theorem respond_snd_of_isOk (succeeded : (simulator.respond request).1.result.isOk = true) :
    (simulator.respond request).2 = simulator.follow request := by
  obtain ⟨_, next⟩ | ⟨refused, _⟩ := simulator.respond_cases request
  · exact next
  · rw [succeeded] at refused
    contradiction

theorem exists_refuse_of_refused (refused : (simulator.respond request).1.result.isOk = false) :
    ∃ refusal, (simulator.respond request).2 = simulator.refuse request.address refusal := by
  obtain ⟨succeeded, _⟩ | ⟨_, next⟩ := simulator.respond_cases request
  · rw [refused] at succeeded
    contradiction
  · exact next

/-- A buffer that is taken decodes in the simulator's own layout. -/
theorem exists_decode_of_isOk {address : Address} {bytes : List UInt8}
    (succeeded : (simulator.respond (.setStructured address bytes)).1.result.isOk = true) :
    ∃ metadata, StructuredMetadata.decode bytes simulator.config.headerLayout = .ok metadata := by
  cases decoded : StructuredMetadata.decode bytes simulator.config.headerLayout with
  | ok metadata => exact ⟨metadata, rfl⟩
  | error error =>
    simp only [respond, setStructured_eq, checkStructured_eq, decoded] at succeeded
    split at succeeded <;> contradiction

end Answered

@[simp] theorem config_respond (simulator : Simulator) (request : Request) :
    (simulator.respond request).2.config = simulator.config := by
  obtain ⟨_, next⟩ | ⟨_, refusal, next⟩ := simulator.respond_cases request <;>
    · rw [next]
      simp only [config_follow, config_refuse]

@[simp] theorem geometry_respond (simulator : Simulator) (request : Request) :
    (simulator.respond request).2.geometry = simulator.geometry := by
  obtain ⟨_, next⟩ | ⟨_, refusal, next⟩ := simulator.respond_cases request <;>
    · rw [next]
      simp only [geometry_follow, geometry_refuse]

@[simp] theorem writes_respond (simulator : Simulator) (request : Request) :
    (simulator.respond request).1.writes = [] := by
  cases request with
  | getStructured address buffer => rw [respond_getStructured]
  | _ => rfl

theorem lifecycle_respond (simulator : Simulator) (request : Request) (address : Address) :
    (simulator.respond request).2.lifecycle address =
      if simulator.geometry.tableOf address = simulator.geometry.tableOf request.address ∧
          (simulator.respond request).1.result.isOk = true then
        request.operation.settles?.getD (simulator.lifecycle address)
      else simulator.lifecycle address := by
  obtain ⟨succeeded, next⟩ | ⟨refused, refusal, next⟩ := simulator.respond_cases request
  · simp only [succeeded, and_true, next]
    exact simulator.lifecycle_follow request address
  · simp only [refused, Bool.false_eq_true, and_false, if_false, next, lifecycle_refuse]

/-- No values are held for tables that are not expanded. -/
def Tidy (simulator : Simulator) : Prop :=
  ∀ address, simulator.isExpanded address = false → simulator.stored? address = none

/-- Values outlive their table only if tables are torn down without their values. -/
theorem Tidy.respond {simulator : Simulator} (tidy : simulator.Tidy)
    (forgets : simulator.hasFault .stickyMetadata = false) (request : Request) :
    (simulator.respond request).2.Tidy := by
  obtain ⟨_, next⟩ | ⟨_, refusal, next⟩ := simulator.respond_cases request
  · rw [next]
    intro address unexpanded
    rw [isExpanded_eq_false_iff, lifecycle_follow] at unexpanded
    rw [stored?_follow]
    by_cases same : simulator.geometry.tableOf address = simulator.geometry.tableOf request.address
    · rw [if_pos same] at unexpanded ⊢
      rw [forgets, if_neg (by simp)]
      cases request with
      | enable target => contradiction
      | disable target => rfl
      | setInline target word => contradiction
      | setStructured target bytes => contradiction
      | getInline target =>
        have unset := tidy address ((simulator.isExpanded_eq_false_iff address).mpr unexpanded)
        simp only [Request.leaves, Request.stored?, Option.none_or, unset, ite_self]
      | getStructured target buffer =>
        have unset := tidy address ((simulator.isExpanded_eq_false_iff address).mpr unexpanded)
        simp only [Request.leaves, Request.stored?, Option.none_or, unset, ite_self]
    · rw [if_neg same] at unexpanded ⊢
      exact tidy address ((simulator.isExpanded_eq_false_iff address).mpr unexpanded)
  · rw [next]
    intro address unexpanded
    rw [isExpanded_refuse] at unexpanded
    rw [stored?_refuse]
    exact tidy address unexpanded

/-- Requests lead from one state of a simulator to another. -/
inductive Reaches (first : Simulator) : Simulator → Prop where
  | refl : Reaches first first
  | respond {simulator : Simulator} (reached : Reaches first simulator) (request : Request) :
    Reaches first (simulator.respond request).2

namespace Reaches

variable {first second : Simulator} (reached : first.Reaches second)

include reached

theorem config : second.config = first.config := by
  induction reached with
  | refl => rfl
  | respond reached request ih => rw [config_respond, ih]

theorem geometry : second.geometry = first.geometry := by
  induction reached with
  | refl => rfl
  | respond reached request ih => rw [geometry_respond, ih]

theorem trans {third : Simulator} (later : second.Reaches third) : first.Reaches third := by
  induction later with
  | refl => exact reached
  | respond _ request ih => exact ih.respond request

theorem tidy (start : first.Tidy) (forgets : first.hasFault .stickyMetadata = false) :
    second.Tidy := by
  induction reached with
  | refl => exact start
  | respond reached request ih =>
    apply ih.respond
    rw [hasFault, reached.config]
    exact forgets

end Reaches

end Simulator

end PageMetadata
