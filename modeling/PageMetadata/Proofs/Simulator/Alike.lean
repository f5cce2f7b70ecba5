import PageMetadata.Proofs.Collaborator.Projection
import PageMetadata.Proofs.Simulator.Agreement

/-! # Simulators that cannot be told apart

A simulator answers from its configuration, the lifecycles of the tables and the values of the
pages. A table that was torn down without its values differs from one that was never touched in
nothing of these. Two simulators can also be alike at a single table, which then is all that answers
about that table depend on.
-/

namespace PageMetadata.Simulator

/-- All that answers about the addresses of one table depend on is the same. -/
structure AlikeAt (table : Address) (first second : Simulator) : Prop where
  config : first.config = second.config
  geometry : first.geometry = second.geometry
  expanded : ∀ address, first.geometry.tableOf address = table →
    first.isExpanded address = second.isExpanded address
  stored : ∀ address, first.geometry.tableOf address = table →
    first.stored? address = second.stored? address

namespace AlikeAt

theorem refl (table : Address) (simulator : Simulator) : AlikeAt table simulator simulator :=
  ⟨rfl, rfl, fun _ _ => rfl, fun _ _ => rfl⟩

variable {table : Address} {first second : Simulator}

theorem hasFault (alike : AlikeAt table first second) (fault : Faults) :
    first.hasFault fault = second.hasFault fault := by
  rw [Simulator.hasFault, alike.config, Simulator.hasFault]

theorem slotOf (alike : AlikeAt table first second) (address : Address) :
    first.slotOf address = second.slotOf address := by
  rw [Simulator.slotOf, alike.hasFault, alike.geometry, Simulator.slotOf]

/-- What is asked of both about the table is answered alike. -/
theorem reply (alike : AlikeAt table first second) {request : Request}
    (inside : first.geometry.tableOf request.address = table) :
    (first.respond request).1 = (second.respond request).1 := by
  have expanded := alike.expanded request.address inside
  have stored := alike.stored request.address inside
  cases request with
  | enable address =>
    dsimp only [Request.address] at expanded
    simp only [Simulator.respond, enable_eq, expanded, alike.hasFault]
    split <;> [rfl; split]
    · rfl
    · simp only [answer, alike.config]
  | disable address =>
    dsimp only [Request.address] at expanded
    simp only [Simulator.respond, disable_eq, expanded]
    split <;> [rfl; split <;> rfl]
  | setInline address word =>
    dsimp only [Request.address] at expanded
    simp only [Simulator.respond, setInline_eq, expanded, alike.config]
    split <;> [rfl; split]
    · simp only [answer, alike.config]
    · rfl
  | setStructured address bytes =>
    have checked : first.checkStructured bytes = second.checkStructured bytes := by
      rw [checkStructured, alike.config, checkStructured]
    dsimp only [Request.address] at expanded
    simp only [Simulator.respond, setStructured_eq, expanded, alike.config, checked]
    split
    · rfl
    · cases second.checkStructured bytes with
      | error refusal => rfl
      | ok _ =>
        dsimp only
        split
        · simp only [answer, alike.config]
        · rfl
  | getInline address =>
    dsimp only [Request.address] at expanded stored
    simp only [Simulator.respond, getInline, expanded, stored, alike.hasFault, alike.config]
  | getStructured address buffer =>
    dsimp only [Request.address] at expanded stored
    simp only [respond_getStructured, readStructured, expanded, stored, alike.hasFault]

theorem follow (alike : AlikeAt table first second) (request : Request) :
    AlikeAt table (first.follow request) (second.follow request) where
  config := by rw [config_follow, alike.config, config_follow]
  geometry := by rw [geometry_follow, alike.geometry, geometry_follow]
  expanded address inside := by
    rw [geometry_follow] at inside
    have lifecycle : first.lifecycle address = second.lifecycle address :=
      congrArg Lifecycle.ofBool (alike.expanded address inside)
    rw [Bool.eq_iff_iff, isExpanded_iff, isExpanded_iff, lifecycle_follow, lifecycle_follow,
      alike.geometry, lifecycle]
  stored address inside := by
    rw [geometry_follow] at inside
    simp only [stored?_follow, alike.geometry, alike.slotOf, alike.hasFault,
      alike.stored address inside]

/-- A refusal is not seen. -/
theorem refuse_left (alike : AlikeAt table first second) (address : Address) (refusal : Refusal) :
    AlikeAt table (first.refuse address refusal) second where
  config := by rw [config_refuse, alike.config]
  geometry := by rw [geometry_refuse, alike.geometry]
  expanded other inside := by
    rw [geometry_refuse] at inside
    rw [isExpanded_refuse, alike.expanded other inside]
  stored other inside := by
    rw [geometry_refuse] at inside
    rw [stored?_refuse, alike.stored other inside]

theorem refuse_right (alike : AlikeAt table first second) (address : Address)
    (refusal : Refusal) : AlikeAt table first (second.refuse address refusal) where
  config := by rw [alike.config, config_refuse]
  geometry := by rw [alike.geometry, geometry_refuse]
  expanded other inside := by rw [alike.expanded other inside, isExpanded_refuse]
  stored other inside := by rw [alike.stored other inside, stored?_refuse]

/-- A request that both answer in the same way leaves them alike. -/
theorem respond_of_reply (alike : AlikeAt table first second) {request : Request}
    (reply : (first.respond request).1 = (second.respond request).1) :
    AlikeAt table (first.respond request).2 (second.respond request).2 := by
  cases result : (first.respond request).1.result.isOk with
  | true =>
    rw [respond_snd_of_isOk result, respond_snd_of_isOk (reply ▸ result)]
    exact alike.follow request
  | false =>
    have refused : (second.respond request).1.result.isOk = false := reply ▸ result
    obtain ⟨refusal, next⟩ := exists_refuse_of_refused result
    obtain ⟨other, after⟩ := exists_refuse_of_refused refused
    rw [next, after]
    exact (alike.refuse_left _ _).refuse_right _ _

/-- After a request about the table both are alike again. -/
theorem respond (alike : AlikeAt table first second) {request : Request}
    (inside : first.geometry.tableOf request.address = table) :
    AlikeAt table (first.respond request).2 (second.respond request).2 :=
  alike.respond_of_reply (alike.reply inside)

/-- A request about another table changes nothing that concerns this one. -/
theorem respond_elsewhere (alike : AlikeAt table first second) {request : Request}
    (other : first.geometry.tableOf request.address ≠ table) :
    AlikeAt table (first.respond request).2 second := by
  obtain ⟨_, next⟩ | ⟨_, refusal, next⟩ := first.respond_cases request
  · have apart : ∀ address, first.geometry.tableOf address = table →
        first.geometry.tableOf address ≠ first.geometry.tableOf request.address :=
      fun address inside same => other (same.symm.trans inside)
    rw [next]
    refine ⟨?_, ?_, ?_, ?_⟩
    · rw [config_follow, alike.config]
    · rw [geometry_follow, alike.geometry]
    · intro address inside
      rw [geometry_follow] at inside
      rw [← alike.expanded address inside, Bool.eq_iff_iff, isExpanded_iff, isExpanded_iff,
        lifecycle_follow, if_neg (apart address inside)]
    · intro address inside
      rw [geometry_follow] at inside
      rw [← alike.stored address inside, stored?_follow, if_neg (apart address inside)]
  · rw [next]
    exact alike.refuse_left _ _

end AlikeAt

/-- All that answers depend on is the same. -/
structure Alike (first second : Simulator) : Prop where
  config : first.config = second.config
  geometry : first.geometry = second.geometry
  expanded : ∀ address, first.isExpanded address = second.isExpanded address
  stored : ∀ address, first.stored? address = second.stored? address

namespace Alike

theorem refl (simulator : Simulator) : Alike simulator simulator :=
  ⟨rfl, rfl, fun _ => rfl, fun _ => rfl⟩

variable {first second third : Simulator}

theorem symm (alike : Alike first second) : Alike second first :=
  ⟨alike.config.symm, alike.geometry.symm, fun address => (alike.expanded address).symm,
    fun address => (alike.stored address).symm⟩

theorem trans (alike : Alike first second) (next : Alike second third) : Alike first third :=
  ⟨alike.config.trans next.config, alike.geometry.trans next.geometry,
    fun address => (alike.expanded address).trans (next.expanded address),
    fun address => (alike.stored address).trans (next.stored address)⟩

/-- Simulators are alike exactly if they are alike at every table. -/
theorem iff_at : Alike first second ↔ ∀ table, AlikeAt table first second := by
  constructor
  · intro alike table
    exact ⟨alike.config, alike.geometry, fun address _ => alike.expanded address,
      fun address _ => alike.stored address⟩
  · intro each
    exact ⟨(each .null).config, (each .null).geometry,
      fun address => (each _).expanded address rfl, fun address => (each _).stored address rfl⟩

/-- What is asked of both is answered alike. -/
theorem reply (alike : Alike first second) (request : Request) :
    (first.respond request).1 = (second.respond request).1 :=
  (iff_at.mp alike _).reply rfl

theorem respond (alike : Alike first second) (request : Request) :
    Alike (first.respond request).2 (second.respond request).2 :=
  iff_at.mpr fun table => (iff_at.mp alike table).respond_of_reply (alike.reply request)

end Alike

variable {τ : Type}

/-- The simulator under a clock, which alone determines how long each exchange takes. -/
def timed (clock : τ → Exchange → Duration × τ) : Collaborator (Simulator × τ) where
  respond state _ request :=
    let (reply, simulator) := state.1.respond request
    let (elapsed, time) := clock state.2 ⟨request, reply⟩
    (⟨reply.result, reply.writes, elapsed⟩, simulator, time)

theorem drives_timed (clock : τ → Exchange → Duration × τ) : Drives Prod.fst (timed clock) where
  result _ _ _ := rfl
  writes _ _ request := writes_respond _ request
  next _ _ _ := rfl

/-- A clock changes nothing but the times. -/
theorem answersLike_timed (clock : τ → Exchange → Duration × τ) :
    collaborator.AnswersLike (fun simulator state => simulator = state.1) (timed clock) where
  result := by
    rintro _ ⟨simulator, time⟩ memory request rfl
    rfl
  writes := by
    rintro _ ⟨simulator, time⟩ memory request rfl
    rfl
  next := by
    rintro _ ⟨simulator, time⟩ memory request rfl
    rfl

/-- Simulators that are alike, at the same time. -/
def alikeAtTime (τ : Type) : Setoid (Simulator × τ) where
  r first second := Alike first.1 second.1 ∧ first.2 = second.2
  iseqv := {
    refl := fun state => ⟨.refl state.1, rfl⟩
    symm := fun same => ⟨same.1.symm, same.2.symm⟩
    trans := fun same next => ⟨same.1.trans next.1, same.2.trans next.2⟩ }

theorem respects_timed (clock : τ → Exchange → Duration × τ) :
    (timed clock).Respects (alikeAtTime τ) := by
  rintro ⟨first, time⟩ ⟨second, _⟩ memory request ⟨alike, rfl⟩
  have reply := alike.reply request
  refine ⟨?_, ?_, ?_⟩
  · simp only [timed, reply]
  · exact alike.respond request
  · simp only [timed, reply]

end PageMetadata.Simulator
