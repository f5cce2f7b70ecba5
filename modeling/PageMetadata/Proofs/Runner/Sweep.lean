import PageMetadata.Collaborator.Interference
import PageMetadata.Collaborator.KeyedStore
import PageMetadata.Proofs.Runner.Corruption
import PageMetadata.Proofs.Runner.Teardown

/-! # What teardown asks for

Which tables teardown disables is settled before it starts, so no answer can keep it from the tables
that remain. After a pass these are the tables that the model holds expanded, in the order in which
they were first touched; after a failure they are all tables of the region, those that the model
holds expanded first. Each is disabled once, at a page of the region that it maps.
-/

namespace PageMetadata

namespace PageGeometry

variable (geometry : PageGeometry)

/-- Each table of a kind maps exactly one of the addresses, and no other table maps any. -/
def Picks (addresses : List Address) (kind : Address → Prop) : Prop :=
  ∀ address, (kind address → addresses.countP (geometry.SameTable · address) = 1) ∧
    (¬ kind address → addresses.countP (geometry.SameTable · address) = 0)

theorem picks_of_nodup {addresses : List Address} {kind : Address → Prop}
    (apart : (addresses.map geometry.tableOf).Nodup)
    (named : ∀ address, geometry.tableOf address ∈ addresses.map geometry.tableOf ↔ kind address) :
    geometry.Picks addresses kind := by
  intro address
  have counted : addresses.countP (geometry.SameTable · address) =
      (addresses.map geometry.tableOf).count (geometry.tableOf address) := by
    rw [List.count_eq_countP, List.countP_map]
    apply List.countP_congr
    intro other _
    simp [geometry.sameTable_iff]
  rw [counted, apart.count, ← named]
  exact ⟨fun listed => if_pos listed, fun missing => if_neg missing⟩

/-- The tables of the exchanges that succeeded. -/
def touched (exchanges : List Exchange) : List Address :=
  (exchanges.filter (·.reply.result.isOk)).map (geometry.tableOf ·.request.address)

theorem touched_append_singleton (exchanges : List Exchange) (last : Exchange) :
    geometry.touched (exchanges ++ [last]) =
      if last.reply.result.isOk then
        geometry.touched exchanges ++ [geometry.tableOf last.request.address]
      else geometry.touched exchanges := by
  rw [touched, List.filter_append, List.map_append, List.filter_cons, List.filter_nil]
  split
  · rfl
  · exact List.append_nil _

end PageGeometry

namespace Runner

variable {σ : Type}

/-- The model lists the tables in the order in which they were first touched with success. -/
structure Ordered (execution : Execution σ) : Prop where
  wellFormed : execution.model.WellFormed
  keys : execution.model.tables.keys =
    (execution.model.geometry.touched execution.session.exchanges.toList).eraseDups

theorem Ordered.advance {runner : Runner σ} {execution next : Execution σ}
    (ordered : Ordered execution) (advances : runner.Advances execution next) : Ordered next := by
  cases advances with
  | idle session model =>
    refine ⟨?_, ?_⟩
    · rw [model]
      exact ordered.wellFormed
    · rw [session, model]
      exact ordered.keys
  | exchange call payloadLength request inside requested answered session model =>
    have succeeded := Client.isOk_of_interpret answered
    rw [Prediction.isOk_answer] at succeeded
    have replied : (runner.client.collaborator.respond execution.session.state
        execution.session.memory request).1.result.isOk =
          decide ((execution.model.predict call).outcome = .success) :=
      (isOk_mapError _ _).symm.trans succeeded
    refine ⟨?_, ?_⟩
    · rw [model]
      exact ordered.wellFormed.after call
    · rw [session, (runner.client.continues_exchange execution.session request).exchanges, model,
        Model.geometry_after, PageGeometry.touched_append_singleton, replied, Model.after,
        Client.address_of_request requested]
      by_cases success : (execution.model.predict call).outcome = .success
      · simp only [success, decide_true, if_true]
        exact Model.keys_follow ordered.keys call
      · simp only [success, decide_false, Bool.false_eq_true, if_false]
        exact ordered.keys

/-- The model's expanded tables come in that order. -/
theorem Ordered.map_fst_expandedTables {execution : Execution σ} (ordered : Ordered execution) :
    execution.model.expandedTables.map Prod.fst =
      (execution.model.geometry.touched execution.session.exchanges.toList).eraseDups.filter
        fun table => execution.model.lifecycle table = .expanded := by
  rw [ordered.wellFormed.map_fst_expandedTables, ordered.keys]

namespace Confined

variable {region : Region} {execution : Execution σ} (confined : Confined region execution)

include confined

theorem lifecycle_eq_expanded_iff {address : Address} :
    execution.model.lifecycle address = .expanded ↔
      region.geometry.tableOf address ∈ execution.model.expandedTables.map Prod.fst := by
  rw [← confined.modelGeometry]
  exact Model.lifecycle_eq_expanded_iff

theorem picks_passed :
    region.geometry.Picks (teardownTargets execution false)
      fun address => execution.model.lifecycle address = .expanded := by
  apply PageGeometry.picks_of_nodup
  · rw [confined.map_tableOf_passed]
    exact execution.model.nodup_expandedTables
  · intro address
    rw [confined.map_tableOf_passed, confined.lifecycle_eq_expanded_iff]

theorem picks_failed :
    region.geometry.Picks (teardownTargets execution true)
      fun address => ∃ page ∈ region.pages, region.geometry.SameTable page address := by
  apply PageGeometry.picks_of_nodup
  · rw [confined.map_tableOf_failed, List.nodup_append]
    refine ⟨execution.model.nodup_expandedTables, nodup_eraseDups _, ?_⟩
    rintro table expanded _ other rfl
    rw [List.mem_eraseDups, List.removeAll, List.mem_filter] at other
    simp [expanded] at other
  · intro address
    simp only [confined.mem_map_tableOf_failed, PageGeometry.sameTable_iff]

/-- After a failure the tables that the model holds expanded come first, and then the others in
ascending order. -/
theorem exists_targets_failed :
    ∃ expanded others, teardownTargets execution true = expanded ++ others ∧
      (∀ target ∈ expanded, execution.model.lifecycle target = .expanded) ∧
      (∀ target ∈ others, execution.model.lifecycle target = .unexpanded) ∧
      others.Pairwise (·.word.toNat < ·.word.toNat) := by
  refine ⟨_, _, rfl, ?_, ?_, ?_⟩
  · intro target listed
    obtain ⟨⟨table, _⟩, expanded, rfl⟩ := List.mem_map.mp listed
    rw [confined.lifecycle_eq_expanded_iff, (confined.of_mem_expandedTables expanded).2]
    exact List.mem_map_of_mem expanded
  · intro target listed
    rw [if_pos rfl, confined.sameRegion] at listed
    have swept : region.geometry.tableOf target ∈ (unswept _ _ _).map region.geometry.tableOf :=
      List.mem_map_of_mem listed
    rw [map_tableOf_unswept, List.mem_eraseDups, List.removeAll, List.mem_filter] at swept
    cases state : execution.model.lifecycle target with
    | unexpanded => rfl
    | expanded =>
      rw [confined.lifecycle_eq_expanded_iff] at state
      simp [state] at swept
  · rw [if_pos rfl, confined.sameRegion]
    exact region.pairwise_pages.sublist (unswept_sublist ..)

end Confined

theorem requests_finish (runner : Runner σ) (host : Host) (execution : Execution σ)
    (result : Except Failure Unit) :
    (runner.finish host execution result).tornDown.toList.map (·.request) =
      (teardownTargets execution (!result.isOk)).map .disable := by
  obtain ⟨later, continues, requests⟩ := continues_disableAll runner.client
    execution.leaving (teardownTargets execution (!result.isOk))
  have exchanges : (runner.finish host execution result).tornDown.toList = later :=
    continues.exchanges
  rw [exchanges, requests]

section Operate

variable {runner : Runner σ} {host : Host} {scenario : Scenario} {region : Region}

/-- As long as nothing fails the order is kept. -/
theorem ordered_of_tested {session : Session σ}
    (tested : runner.tested host session scenario region = .ok (.ok ())) :
    Ordered (Progress.reached (runner.operate host session scenario region)) := by
  cases operated : runner.operate host session scenario region with
  | error interruption =>
    rw [Runner.tested, operated] at tested
    cases tested
  | ok execution =>
    exact of_performAll Ordered (fun _ _ advances _ ordered => ordered.advance advances) operated
      ⟨Model.wellFormed_empty _ _, rfl⟩

theorem confined_operate (acquired : runner.acquireRegion host scenario = .ok region)
    (session : Session σ) :
    Confined region (Progress.reached (runner.operate host session scenario region)) := by
  have kept (execution next : Execution σ) (touches : runner.Touches execution next)
      (confined : Confined region execution) : Confined region next :=
    confined.touch touches
  exact of_reached_performAll (Confined region) kept _
    ⟨rfl, (geometry_of_acquireRegion acquired).symm, Model.anchored_empty _ _ _⟩

/-- However the steps of a run end that got a region, and whatever the answers to the requests of
teardown are, these disable a page of the region for each table that is to be torn down, and for no
other. After a pass these are the tables that the model holds expanded, in the order in which they
were first touched with success. After a failure they are the tables that map a page of the region:
first those that the model holds expanded, then the others in ascending order. -/
theorem teardown_disables_once (acquired : runner.acquireRegion host scenario = .ok region)
    {session : Session σ} {result : Except Failure Unit}
    (tested : runner.tested host session scenario region = .ok result) :
    let model := (Progress.reached (runner.operate host session scenario region)).model
    ∃ run targets, runner.run host session scenario = .ok run ∧
      run.tornDown.toList.map (·.request) = targets.map .disable ∧
      (∀ target ∈ targets, target ∈ region.pages) ∧
      (result = .ok () →
        region.geometry.Picks targets (fun address => model.lifecycle address = .expanded) ∧
        targets.map region.geometry.tableOf =
          (region.geometry.touched run.operated.toList).eraseDups.filter
            (fun table => model.lifecycle table = .expanded)) ∧
      (∀ failure, result = .error failure →
        region.geometry.Picks targets
          (fun address => ∃ page ∈ region.pages, region.geometry.SameTable page address) ∧
        ∃ expanded others, targets = expanded ++ others ∧
          (∀ target ∈ expanded, model.lifecycle target = .expanded) ∧
          (∀ target ∈ others, model.lifecycle target = .unexpanded) ∧
          others.Pairwise (·.word.toNat < ·.word.toNat)) := by
  intro model
  have confined := confined_operate acquired session
  have ran := run_eq_finish host session acquired
  rw [tested] at ran
  refine ⟨_, _, ran, runner.requests_finish host _ result, fun _ => confined.mem_pages_of_target,
    ?_, ?_⟩
  · rintro rfl
    refine ⟨confined.picks_passed, ?_⟩
    refine confined.map_tableOf_passed.trans ?_
    rw [(ordered_of_tested tested).map_fst_expandedTables, confined.modelGeometry]
    rfl
  · rintro failure rfl
    exact ⟨confined.picks_failed, confined.exists_targets_failed⟩

end Operate

/-- The steps fail when one of three tables is expanded. Every disable is refused, and all three are
asked for. -/
theorem refused_disables_made :
    let geometry : PageGeometry := ⟨4, by decide, by decide⟩
    let rule : InterferenceRule := ⟨none, some .disable, none, some .eexist, none, none⟩
    let runner : Runner (Interfered KeyedStore) :=
      ⟨⟨Interference.wrap [rule] KeyedStore.collaborator, .standard, .compact⟩, geometry, .lowByte,
        true⟩
    let host : Host := .placing ⟨0x1010⟩
    let session : Session (Interfered KeyedStore) := .start ⟨.empty, 0, none⟩ .empty
    let scenario : Scenario := { Scenario.new "refused disables" .standard with
      pages := 5
      steps := [.predicted (.enable 4), .call (.get 4 .inline) .success] }
    let region : Region := ⟨geometry, ⟨0x1010⟩, 5, by decide, by decide, by decide, by decide⟩
    let targets : List Address := [⟨0x1050⟩, ⟨0x1010⟩, ⟨0x1020⟩]
    runner.acquireRegion host scenario = .ok region ∧
      ∃ failure, runner.tested host session scenario region = .ok (.error failure) ∧
        ∃ run, runner.run host session scenario = .ok run ∧
          run.tornDown.toList.map (·.request) = targets.map .disable ∧
          run.tornDown.toList.map (·.reply.result.isOk) = [false, false, false] ∧
          geometry.Picks targets fun address =>
            ∃ page ∈ region.pages, geometry.SameTable page address := by
  intro geometry rule runner host session scenario region targets
  have acquired : runner.acquireRegion host scenario = .ok region := by
    dsimp +zetaDelta only
    rfl
  have failed : (runner.tested host session scenario region).map Except.isOk = .ok false := by
    dsimp +zetaDelta only
    decide +kernel
  have observed : (runner.run host session scenario).map (fun run =>
      (run.tornDown.toList.map (·.request),
        run.tornDown.toList.map (·.reply.result.isOk))) =
      .ok (targets.map .disable, [false, false, false]) := by
    dsimp +zetaDelta only
    decide +kernel
  obtain ⟨run, ran, shown⟩ := map_eq_ok_iff.mp observed
  obtain ⟨requests, refused⟩ := Prod.mk.inj shown
  obtain ⟨failure | _, tested, notOk⟩ := map_eq_ok_iff.mp failed
  · obtain ⟨_, swept, again, asked, _, _, sweeps⟩ := teardown_disables_once acquired tested
    cases ran.symm.trans again
    have same : swept = targets :=
      (List.map_inj_right fun _ _ => Request.disable.inj).mp (asked.symm.trans requests)
    exact ⟨acquired, failure, tested, run, ran, requests, refused, same ▸ (sweeps failure rfl).1⟩
  · cases notOk

end Runner

end PageMetadata
