import PageMetadata.Proofs.Representation
import PageMetadata.Proofs.Runner.Run
import PageMetadata.Proofs.Simulator.Agreement

/-! # Teardown leaves no table expanded

After a pass the model knows which tables are expanded; after a failure every table of the region is
swept. Either way each expanded table has an address among the targets, and a simulator, under
whatever faults, tears down each table that it is asked to.
-/

namespace PageMetadata

namespace Model

/-- Each table of the model has an anchor within it, and all anchors are among the given pages. -/
def Anchored (model : Model) (pages : List Address) : Prop :=
  ∀ table state, (table, state) ∈ model.tables.entries →
    state.anchor ∈ pages ∧ model.geometry.tableOf state.anchor = table

theorem anchored_empty (geometry : PageGeometry) (contract : Contract) (pages : List Address) :
    (empty geometry contract).Anchored pages := by
  intro table state listed
  cases listed

theorem Anchored.after {model : Model} {pages : List Address} (anchored : model.Anchored pages)
    {call : Call} (inside : call.address ∈ pages) : (model.after call).Anchored pages := by
  unfold Model.after
  split
  · intro table state listed
    rw [Model.follow, Registry.mem_entries_alter] at listed
    split at listed
    · next here =>
      have anchor : state.anchor =
          ((model.table? call.address).getD ⟨.unexpanded, call.address, .empty⟩).anchor := by
        rw [← listed]
        cases call <;> rfl
      rw [anchor, here]
      cases found : model.table? call.address with
      | none => exact ⟨inside, rfl⟩
      | some held => exact anchored _ held (Registry.mem_entries_of_get? found)
    · exact anchored table state listed
  · exact anchored

theorem Anchored.of_mem_expandedTables {model : Model} {pages : List Address}
    (anchored : model.Anchored pages) {table anchor : Address}
    (listed : (table, anchor) ∈ model.expandedTables) :
    anchor ∈ pages ∧ model.geometry.tableOf anchor = table := by
  obtain ⟨⟨key, state⟩, kept, same⟩ := List.mem_map.mp listed
  obtain ⟨rfl, rfl⟩ := Prod.mk.inj same
  exact anchored key state (List.mem_filter.mp kept).1

end Model

namespace Runner

theorem unswept_sublist (geometry : PageGeometry) (swept pages : List Address) :
    (unswept geometry swept pages).Sublist pages := by
  induction pages generalizing swept with
  | nil => exact .slnil
  | cons page pages ih =>
    rw [unswept]
    split
    · exact (ih swept).cons page
    · exact (ih _).cons_cons page

/-- The first page of each table is left, unless the table was swept already. -/
theorem map_tableOf_unswept (geometry : PageGeometry) (swept pages : List Address) :
    (unswept geometry swept pages).map geometry.tableOf =
      ((pages.map geometry.tableOf).removeAll swept).eraseDups := by
  induction pages generalizing swept with
  | nil => rfl
  | cons page pages ih =>
    rw [unswept, List.map_cons, List.removeAll, List.filter_cons]
    by_cases listed : geometry.tableOf page ∈ swept
    · rw [if_pos listed, if_neg (by simpa using listed), ih, List.removeAll]
    · rw [if_neg listed, if_pos (by simpa using listed), List.map_cons, ih, List.eraseDups_cons,
        List.removeAll_cons, List.removeAll, List.filter_filter, List.filter_filter]
      simp only [Bool.and_comm]

/-- Only tables of the region are known to the model. -/
structure Confined {σ : Type} (region : Region) (execution : Execution σ) : Prop where
  sameRegion : execution.region = region
  modelGeometry : execution.model.geometry = region.geometry
  anchored : execution.model.Anchored region.pages

theorem Confined.touch {σ : Type} {runner : Runner σ} {region : Region}
    {execution next : Execution σ} (confined : Confined region execution)
    (touches : runner.Touches execution next) : Confined region next := by
  refine ⟨touches.region.trans confined.sameRegion, ?_, ?_⟩
  · rcases touches.model with same | ⟨call, _, same⟩
    · rw [same, confined.modelGeometry]
    · rw [same, Model.geometry_after, confined.modelGeometry]
  · rcases touches.model with same | ⟨call, inside, same⟩
    · rw [same]
      exact confined.anchored
    · rw [same]
      rw [confined.sameRegion] at inside
      exact confined.anchored.after inside

namespace Confined

variable {σ : Type} {region : Region} {execution : Execution σ}
  (confined : Confined region execution)

include confined

theorem of_mem_expandedTables {table anchor : Address}
    (listed : (table, anchor) ∈ execution.model.expandedTables) :
    anchor ∈ region.pages ∧ region.geometry.tableOf anchor = table := by
  rw [← confined.modelGeometry]
  exact confined.anchored.of_mem_expandedTables listed

/-- Teardown stays within the region. -/
theorem mem_pages_of_target {failed : Bool} {target : Address}
    (listed : target ∈ teardownTargets execution failed) : target ∈ region.pages := by
  rcases List.mem_append.mp listed with anchor | left
  · obtain ⟨⟨table, _⟩, expanded, rfl⟩ := List.mem_map.mp anchor
    exact (confined.of_mem_expandedTables expanded).1
  · split at left
    · rw [confined.sameRegion] at left
      exact (unswept_sublist ..).subset left
    · cases left

private theorem map_tableOf_anchors :
    (execution.model.expandedTables.map Prod.snd).map region.geometry.tableOf =
      execution.model.expandedTables.map Prod.fst := by
  rw [List.map_map]
  apply List.map_congr_left
  exact fun ⟨_, _⟩ listed => (confined.of_mem_expandedTables listed).2

/-- If nothing failed these are the tables that the model holds expanded. -/
theorem map_tableOf_passed :
    (teardownTargets execution false).map region.geometry.tableOf =
      execution.model.expandedTables.map Prod.fst := by
  rw [teardownTargets, List.map_append, confined.map_tableOf_anchors]
  exact List.append_nil _

/-- After a failure the other tables of the region follow. -/
theorem map_tableOf_failed :
    (teardownTargets execution true).map region.geometry.tableOf =
      execution.model.expandedTables.map Prod.fst ++
        ((region.pages.map region.geometry.tableOf).removeAll
          (execution.model.expandedTables.map Prod.fst)).eraseDups := by
  rw [teardownTargets, List.map_append, confined.map_tableOf_anchors, confined.sameRegion,
    if_pos rfl, map_tableOf_unswept]

/-- After a failure these are the tables of the region. -/
theorem mem_map_tableOf_failed {table : Address} :
    table ∈ (teardownTargets execution true).map region.geometry.tableOf ↔
      ∃ page ∈ region.pages, region.geometry.tableOf page = table := by
  constructor
  · intro listed
    obtain ⟨target, swept, rfl⟩ := List.mem_map.mp listed
    exact ⟨target, confined.mem_pages_of_target swept, rfl⟩
  · rintro ⟨page, inside, rfl⟩
    rw [confined.map_tableOf_failed, List.mem_append, List.mem_eraseDups, List.removeAll,
      List.mem_filter]
    by_cases listed : region.geometry.tableOf page ∈ execution.model.expandedTables.map Prod.fst
    · exact .inl listed
    · exact .inr ⟨List.mem_map_of_mem inside, by simpa using listed⟩

end Confined

end Runner

namespace Simulator

/-- A table that is still expanded was not asked to be torn down. -/
theorem isExpanded_of_disable {simulator : Simulator} {target address : Address}
    (expanded : (simulator.respond (.disable target)).2.isExpanded address = true) :
    simulator.isExpanded address = true ∧
      (target ≠ .null →
        simulator.geometry.tableOf target ≠ simulator.geometry.tableOf address) := by
  rw [isExpanded_iff, lifecycle_respond] at expanded
  split at expanded
  · contradiction
  · next other =>
    have before := (simulator.isExpanded_iff address).mpr expanded
    refine ⟨before, ?_⟩
    intro mapped same
    apply other
    refine ⟨same.symm, ?_⟩
    rw [← isExpanded_congr same] at before
    simp only [respond, disable_eq, if_neg mapped, before, if_true]
    rfl

/-- If every expanded table has an address among the targets, no table is left expanded. -/
theorem Drives.unexpanded_disableAll {σ : Type} {view : σ → Simulator} {client : Client σ}
    (drives : Drives view client.collaborator) {session : Session σ} {targets : List Address}
    (mapped : ∀ target ∈ targets, target ≠ .null)
    (covered : ∀ address, (view session.state).isExpanded address = true →
      ∃ target ∈ targets, (view session.state).geometry.tableOf target =
        (view session.state).geometry.tableOf address) (address : Address) :
    (view (Runner.disableAll client session targets).state).isExpanded address = false := by
  induction targets generalizing session with
  | nil =>
    rw [← Bool.not_eq_true]
    intro expanded
    obtain ⟨_, listed, _⟩ := covered address expanded
    cases listed
  | cons first targets ih =>
    have next : view (client.disable session first).2.state =
        ((view session.state).respond (.disable first)).2 :=
      drives.state_exchange session (.disable first)
    apply ih (fun target later => mapped target (List.mem_cons_of_mem _ later))
    intro other expanded
    rw [next] at expanded ⊢
    obtain ⟨before, kept⟩ := isExpanded_of_disable expanded
    obtain ⟨target, listed, same⟩ := covered other before
    rcases List.mem_cons.mp listed with rfl | later
    · exact absurd same (kept (mapped target listed))
    · rw [geometry_respond]
      exact ⟨target, later, same⟩

/-- Only tables of the region were touched, by the simulator and by the model. -/
structure Contained {σ : Type} (view : σ → Simulator) (region : Region) (execution : Execution σ) :
    Prop where
  sameRegion : execution.region = region
  geometry : (view execution.session.state).geometry = region.geometry
  modelGeometry : execution.model.geometry = region.geometry
  anchored : execution.model.Anchored region.pages
  expanded : ∀ address, (view execution.session.state).isExpanded address = true →
    ∃ page ∈ region.pages, region.geometry.tableOf page = region.geometry.tableOf address

theorem Contained.confined {σ : Type} {view : σ → Simulator} {region : Region}
    {execution : Execution σ} (contained : Contained view region execution) :
    Runner.Confined region execution :=
  ⟨contained.sameRegion, contained.modelGeometry, contained.anchored⟩

/-- The simulator and the model hold the same tables expanded. -/
structure InStep {σ : Type} (view : σ → Simulator) (execution : Execution σ) : Prop where
  geometry : (view execution.session.state).geometry = execution.model.geometry
  lifecycle : ∀ address,
    (view execution.session.state).lifecycle address = execution.model.lifecycle address

variable {σ : Type} {view : σ → Simulator} {runner : Runner σ} {execution next : Execution σ}
  (drives : Drives view runner.client.collaborator)

include drives

theorem Contained.touch {region : Region} (contained : Contained view region execution)
    (touches : runner.Touches execution next) : Contained view region next := by
  have geometry : (view next.session.state).geometry = region.geometry := by
    rcases touches.session with same | ⟨request, _, same⟩
    · rw [same, contained.geometry]
    · rw [same, drives.state_exchange, geometry_respond, contained.geometry]
  have confined := contained.confined.touch touches
  refine ⟨confined.sameRegion, geometry, confined.modelGeometry, confined.anchored, ?_⟩
  intro address expanded
  rcases touches.session with same | ⟨request, inside, same⟩
  · rw [same] at expanded
    exact contained.expanded address expanded
  · rw [same, drives.state_exchange, isExpanded_iff, lifecycle_respond] at expanded
    split at expanded
    · next here =>
      rw [contained.sameRegion] at inside
      rw [contained.geometry] at here
      exact ⟨request.address, inside, here.1.symm⟩
    · exact contained.expanded address ((isExpanded_iff _ _).mpr expanded)

/-- An exchange that ended as predicted settles a table in the simulator as in the model. -/
theorem InStep.advance (inStep : InStep view execution)
    (advances : runner.Advances execution next) : InStep view next := by
  cases advances with
  | idle session model =>
    refine ⟨?_, ?_⟩
    · rw [session, model, inStep.geometry]
    · intro address
      rw [session, model, inStep.lifecycle]
  | exchange call payloadLength request inside requested answered session model =>
    have responded := drives.state_exchange execution.session request
    rw [← session] at responded
    have succeeded : ((view execution.session.state).respond request).1.result.isOk =
        decide ((execution.model.predict call).outcome = .success) := by
      rw [← Prediction.isOk_answer, ← Client.isOk_of_interpret answered, ← drives.result _
        execution.session.memory]
      exact (isOk_mapError _ _).symm
    refine ⟨?_, ?_⟩
    · rw [responded, geometry_respond, inStep.geometry, model, Model.geometry_after]
    · intro address
      rw [responded, lifecycle_respond, succeeded, model, Model.after, inStep.geometry,
        inStep.lifecycle, Client.address_of_request requested,
        Client.operation_of_request requested]
      by_cases success : (execution.model.predict call).outcome = .success
      · simp only [success, decide_true, and_true, if_true, Model.lifecycle_follow]
      · simp only [success, decide_false, Bool.false_eq_true, and_false, if_false]

/-- Teardown reaches every expanded table of the region: if nothing failed, because the model knows
the tables that are expanded. -/
theorem Contained.unexpanded_finish {region : Region} (contained : Contained view region execution)
    (mapped : region.base ≠ .null) {host : Host} {result : Except Failure Unit}
    (known : result = .ok () → InStep view execution) (address : Address) :
    (view (runner.finish host execution result).session.state).isExpanded address = false := by
  apply drives.unexpanded_disableAll
  · intro target listed
    exact Region.ne_null_of_mem_pages mapped (contained.confined.mem_pages_of_target listed)
  · intro other (expanded : (view execution.session.state).isExpanded other = true)
    have geometry := contained.geometry
    change ∃ target ∈ Runner.teardownTargets execution (!result.isOk),
      (view execution.session.state).geometry.tableOf target =
        (view execution.session.state).geometry.tableOf other
    rw [geometry]
    cases result with
    | ok _ =>
      have inStep := known rfl
      rw [isExpanded_iff, inStep.lifecycle, Model.lifecycle_eq_expanded_iff,
        ← contained.confined.map_tableOf_passed, contained.modelGeometry] at expanded
      exact List.mem_map.mp expanded
    | error failure =>
      exact List.mem_map.mp
        (contained.confined.mem_map_tableOf_failed.mpr (contained.expanded other expanded))

end Simulator

end PageMetadata
