import PageMetadata.Proofs.Runner.TableView
import PageMetadata.Proofs.Runner.Timing
import PageMetadata.Scenario.Catalog

/-! # Rehearsing the catalog

Every scenario of the catalog is rehearsed to its end, under every contract and in every layout. The
stress scenarios repeat their steps any number of times, so what one iteration needs and leaves is
stated for all of them. Only without any iteration does an assertion of a stress scenario lack its
calls.
-/

namespace PageMetadata

/-- The scenario is rehearsed to its end, and its assertions are served. -/
def Scenario.Rehearsed (scenario : Scenario) (layout : HeaderLayout) : Prop :=
  ∃ trials, scenario.trials? layout = some trials ∧
    ∀ assertion ∈ scenario.assertions, assertion.Served (trials.map Trial.operation)

instance (scenario : Scenario) (layout : HeaderLayout) : Decidable (scenario.Rehearsed layout) :=
  decidable_of_iff
    ((scenario.trials? layout).any fun trials =>
      decide (∀ assertion ∈ scenario.assertions, assertion.Served (trials.map Trial.operation)))
    (by simp [Scenario.Rehearsed, Option.any_eq_true])

/-- What one iteration needs of the view and leaves for the next, the repetition as a whole does. -/
theorem TableView.rehearse?_flatMap {layout : HeaderLayout} {pageCount : Nat}
    {Holds : Nat → TableView → Prop} {actions : Nat → List Action} {trials : Nat → List Trial}
    (each : ∀ number view, Holds number view → ∃ next,
      view.rehearse? layout pageCount (actions number) = some (trials number, next) ∧
        Holds (number + 1) next)
    (count start : Nat) {view : TableView} (holds : Holds start view) : ∃ last,
      view.rehearse? layout pageCount ((List.range' start count).flatMap actions) =
        some ((List.range' start count).flatMap trials, last) ∧ Holds (start + count) last := by
  induction count generalizing start view with
  | zero => exact ⟨view, rfl, holds⟩
  | succ count ih =>
    obtain ⟨next, first, holds⟩ := each start view holds
    obtain ⟨last, rest, holds⟩ := ih (start + 1) holds
    refine ⟨last, ?_, ?_⟩
    · rw [List.range'_succ, List.flatMap_cons]
      exact rehearse?_append first rest
    · rw [Nat.add_right_comm] at holds
      exact holds

namespace Catalog

/-- The scenarios that neither repeat their steps as often as the suite says nor look at times. -/
def plain (contract : Contract) : List Scenario :=
  [pageIntegrity contract, basicInline contract, inlineDirectWord contract, structured contract,
    pointerTag contract, multiPage contract, doubleEnable contract, neverEnabled contract,
    enableDisableCycle contract, disableClears contract, getBeforeSet contract,
    stepwise contract, setWithoutEnable contract]

theorem all_eq (suite : Suite) :
    all suite = plain suite.contract
      ++ (if suite.contract.autoExpandOnSet then [setTiming suite.contract] else [])
      ++ [lifecycleStress suite.contract suite.stressIterations,
        inlineStress suite.contract suite.stressIterations] := rfl

theorem rehearsed_plain (contract : Contract) (layout : HeaderLayout) :
    ∀ scenario ∈ plain contract, scenario.Rehearsed layout := by
  rcases contract with ⟨_ | _, _ | _⟩ <;> cases layout <;> decide +kernel

theorem rehearsed_setTiming (contract : Contract) (layout : HeaderLayout) :
    (setTiming contract).Rehearsed layout := by
  rcases contract with ⟨_ | _, _ | _⟩ <;> cases layout <;> decide +kernel

/-- The calls of one iteration of a value that is set and read. -/
private def roundTrip (value : MetadataValue) : List Trial :=
  [⟨.set 0 (.fixed value), .success none⟩, ⟨.get 0 .inline, .success (some value)⟩]

/-- The calls of one iteration of the lifecycle. -/
private def cycle (value : MetadataValue) : List Trial :=
  ⟨.enable 0, .success none⟩ :: roundTrip value ++ [⟨.disable 0, .success none⟩]

/-- Every iteration starts and ends with a blank table. -/
theorem trials?_lifecycleStress (contract : Contract) (iterations : UInt32)
    (layout : HeaderLayout) :
    (lifecycleStress contract iterations).trials? layout =
      some ((List.range' 0 iterations.toNat).flatMap
        fun _ => cycle (.inline ⟨.pointer, inlineValue⟩)) := by
  let value := MetadataValue.inline ⟨.pointer, inlineValue⟩
  let actions (number : Nat) : List Action :=
    Step.allActions 1 ((Position.top 0).within number) 0 (.ofNat number)
      [.call (.enable 0) .success, .call (.set 0 (.fixed value)) .success,
        .call (.get 0 .inline) (.value (.fixed value)), .call (.disable 0) .success]
  let Blank (_ : Nat) (view : TableView) : Prop := view = TableView.blank contract
  have each : ∀ number view, Blank number view → ∃ next,
      view.rehearse? layout 1 (actions number) = some (cycle value, next) ∧
        Blank (number + 1) next := by
    rintro number _ rfl
    exact ⟨_, rfl, rfl⟩
  obtain ⟨last, rehearsed, _⟩ := TableView.rehearse?_flatMap each iterations.toNat 0 rfl
  have performed : (lifecycleStress contract iterations).actions 1 =
      (List.range iterations.toNat).flatMap actions ++ [] := rfl
  change ((TableView.blank contract).rehearse? layout 1
    ((lifecycleStress contract iterations).actions 1)).map Prod.fst = _
  rw [performed, List.append_nil, List.range_eq_range', rehearsed]
  rfl

/-- The value of an iteration of the growing sequence. -/
private def growing (number : Nat) : MetadataValue :=
  .inline ⟨.scalar, 1 + (UInt32.ofNat number).toUInt64⟩

/-- A value that counts iterations stays below the tag. -/
private theorem isOk_encode_growing (number : Nat) (layout : HeaderLayout) :
    ((growing number).encode layout).isOk = true := by
  have fits : 1 + (UInt32.ofNat number).toUInt64 ≤ InlineMetadata.valueMask := by
    have bound := (UInt32.ofNat number).toNat_lt
    rw [InlineMetadata.le_valueMask_iff, UInt64.toNat_add, UInt32.toNat_toUInt64]
    change (1 + (UInt32.ofNat number).toNat) % 2 ^ 64 < 2 ^ 63
    omega
  rw [growing, MetadataValue.encode, InlineMetadata.encode, if_pos fits]
  rfl

/-- The value is set, which leaves the table expanded, and read. -/
private theorem rehearse?_roundTrip {view : TableView} (layout : HeaderLayout)
    (allowed : view.contract.autoExpandOnSet = true ∨ view.lifecycle = .expanded)
    (place : Nat → Position) (number : Nat) : ∃ next,
    view.rehearse? layout 1 (Step.allActions 1 place 0 (.ofNat number)
      [.call (.set 0 (.inlineSequence .scalar 1)) .success,
        .call (.get 0 .inline) (.value (.inlineSequence .scalar 1))]) =
          some (roundTrip (growing number), next) ∧
      next.contract = view.contract ∧ next.lifecycle = .expanded := by
  have encodable : Call.IsEncodable layout (.set .null (growing number)) :=
    isOk_encode_growing number layout
  have predicted (held : Option MetadataValue) : view.contract.predict view.lifecycle held
      (.set .null (growing number)) = .success none := by
    rcases allowed with expands | expanded
    · cases state : view.lifecycle <;> simp [Contract.predict, expands]
    · simp [Contract.predict, expanded]
  let middle : TableView := ⟨view.contract, .expanded,
    fun other => if other = 0 then some (growing number) else view.values other⟩
  have set : view.call? layout 1 (.ofNat number) (.set 0 (.inlineSequence .scalar 1)) .success =
      some ([⟨.set 0 (.fixed (growing number)), .success none⟩], middle) := by
    rw [TableView.call?_eq_some_iff]
    have success := congrArg Prediction.outcome (predicted (view.values 0))
    refine ⟨⟨Nat.one_pos, encodable, success⟩, ?_, if_pos success⟩
    exact congrArg (fun prediction => [Trial.mk _ prediction]) (predicted (view.values 0))
  have get : middle.call? layout 1 (.ofNat number) (.get 0 .inline)
      (.value (.inlineSequence .scalar 1)) =
        some ([⟨.get 0 .inline, .success (some (growing number))⟩], middle) := by
    rw [TableView.call?_eq_some_iff]
    exact ⟨⟨Nat.one_pos, trivial, .inr rfl⟩, rfl, rfl⟩
  refine ⟨middle, ?_, rfl, rfl⟩
  simp only [Step.allActions, Step.actions, List.append_nil, List.cons_append, List.nil_append,
    TableView.rehearse?, TableView.perform?, set, get, Option.bind_eq_bind, Option.bind_some,
    Option.pure_def]
  rfl

private theorem two_le_toNat_max (iterations : UInt32) : 2 ≤ (max iterations 2).toNat := by
  change 2 ≤ (if iterations ≤ 2 then (2 : UInt32) else iterations).toNat
  split
  · exact Nat.le_refl 2
  · next more =>
    rw [UInt32.le_iff_toNat_le] at more
    exact Nat.le_of_not_le more

/-- Every iteration leaves the table expanded. Where setting does not expand it, it was expanded
before. -/
theorem trials?_inlineStress (contract : Contract) (iterations : UInt32)
    (layout : HeaderLayout) :
    (inlineStress contract iterations).trials? layout =
      some ((if contract.autoExpandOnSet then [] else [⟨.enable 0, .success none⟩])
        ++ (List.range' 0 (max iterations 2).toNat).flatMap
          (fun number => roundTrip (growing number))
        ++ [⟨.disable 0, .success none⟩]) := by
  let Ready (number : Nat) (view : TableView) : Prop :=
    view.contract = contract ∧
      (view.lifecycle = .expanded ∨ number = 0 ∧ contract.autoExpandOnSet = true)
  let actions (index number : Nat) : List Action :=
    Step.allActions 1 ((Position.top index).within number) 0 (.ofNat number)
      [.call (.set 0 (.inlineSequence .scalar 1)) .success,
        .call (.get 0 .inline) (.value (.inlineSequence .scalar 1))]
  have each (index : Nat) : ∀ number view, Ready number view → ∃ next,
      view.rehearse? layout 1 (actions index number) =
        some (roundTrip (growing number), next) ∧ Ready (number + 1) next := by
    rintro number view ⟨rfl, ready⟩
    obtain ⟨next, rehearsed, same, expanded⟩ := rehearse?_roundTrip layout
      (ready.symm.imp_left And.right) ((Position.top index).within number) number
    exact ⟨next, rehearsed, same, .inl expanded⟩
  let count := (max iterations 2).toNat
  have positive : 0 + count ≠ 0 := by
    have two : 2 ≤ count := two_le_toNat_max iterations
    omega
  -- From a ready table on, the iterations and the last call are rehearsed alike.
  have looped (index : Nat) {view : TableView} (ready : Ready 0 view) : ∃ last,
      view.rehearse? layout 1 ((List.range' 0 count).flatMap (actions index)
          ++ Step.actions 1 (.top (index + 1)) 0 (.call (.disable 0) .success)) =
        some ((List.range' 0 count).flatMap (fun number => roundTrip (growing number))
          ++ [⟨.disable 0, .success none⟩], last) := by
    obtain ⟨⟨_, _, _⟩, rehearsed, _, expanded⟩ :=
      TableView.rehearse?_flatMap (each index) count 0 ready
    rcases expanded with rfl | ⟨none, _⟩
    · exact ⟨_, TableView.rehearse?_append rehearsed rfl⟩
    · exact absurd none positive
  change ((TableView.blank contract).rehearse? layout 1
    ((inlineStress contract iterations).actions 1)).map Prod.fst = _
  obtain ⟨autoExpand, unsetRead⟩ := contract
  cases autoExpand with
  | true =>
    have performed : (inlineStress ⟨true, unsetRead⟩ iterations).actions 1 =
        (List.range count).flatMap (actions 0)
          ++ (Step.actions 1 (.top 1) 0 (.call (.disable 0) .success) ++ []) := rfl
    have ready : Ready 0 (.blank ⟨true, unsetRead⟩) := ⟨rfl, .inr ⟨rfl, rfl⟩⟩
    obtain ⟨last, rehearsed⟩ := looped 0 ready
    rw [performed, List.append_nil, List.range_eq_range', rehearsed]
    rfl
  | false =>
    have performed : (inlineStress ⟨false, unsetRead⟩ iterations).actions 1 =
        Step.actions 1 (.top 0) 0 (.call (.enable 0) .success)
          ++ ((List.range count).flatMap (actions 1)
            ++ (Step.actions 1 (.top 2) 0 (.call (.disable 0) .success) ++ [])) := rfl
    have ready : Ready 0 ⟨⟨false, unsetRead⟩, .expanded, fun _ => none⟩ := ⟨rfl, .inl rfl⟩
    obtain ⟨last, rehearsed⟩ := looped 1 ready
    have enabled : (TableView.blank ⟨false, unsetRead⟩).rehearse? layout 1
        (Step.actions 1 (.top 0) 0 (.call (.enable 0) .success)) =
          some ([⟨.enable 0, .success none⟩],
            ⟨⟨false, unsetRead⟩, .expanded, fun _ => none⟩) := rfl
    rw [performed, List.append_nil, List.range_eq_range',
      TableView.rehearse?_append enabled rehearsed]
    rfl

theorem rehearsed_lifecycleStress {iterations : UInt32} (repeated : iterations ≠ 0)
    (contract : Contract) (layout : HeaderLayout) :
    (lifecycleStress contract iterations).Rehearsed layout := by
  refine ⟨_, trials?_lifecycleStress contract iterations layout, ?_⟩
  have positive : 0 < iterations.toNat := by
    rw [Nat.pos_iff_ne_zero]
    exact fun none => repeated (UInt32.toNat_inj.mp none)
  have called : ∀ operation ∈ [Operation.enable, .set .inline, .get .inline, .disable],
      operation ∈ ((List.range' 0 iterations.toNat).flatMap
        fun _ => cycle (.inline ⟨.pointer, inlineValue⟩)).map Trial.operation := by
    intro operation listed
    rw [List.map_flatMap, List.mem_flatMap]
    exact ⟨0, List.mem_range'_1.mpr ⟨Nat.le_refl 0, by omega⟩, listed⟩
  intro assertion listed
  change assertion ∈ [.statsAvailable .enable, .statsAvailable (.set .inline),
    .statsAvailable (.get .inline), .statsAvailable .disable] at listed
  simp only [List.mem_cons, List.not_mem_nil, or_false] at listed
  rcases listed with rfl | rfl | rfl | rfl <;> exact called _ (by decide)

/-- Both operations are called once in each iteration. -/
private theorem count_roundTrips (count : Nat) {operation : Operation}
    (looped : operation = .set .inline ∨ operation = .get .inline) :
    (((List.range' 0 count).flatMap fun number => roundTrip (growing number)).map
      Trial.operation).count operation = count := by
  have operations : ((List.range' 0 count).flatMap fun number => roundTrip (growing number)).map
      Trial.operation = (List.range' 0 count).flatMap fun _ => [.set .inline, .get .inline] :=
    List.map_flatMap ..
  have once : [Operation.set .inline, .get .inline].count operation = 1 := by
    rcases looped with rfl | rfl <;> rfl
  rw [operations, List.count_flatMap]
  simp only [Function.comp_def, once, List.map_const', List.length_range',
    List.sum_replicate_nat, Nat.mul_one]

theorem rehearsed_inlineStress (contract : Contract) (iterations : UInt32)
    (layout : HeaderLayout) : (inlineStress contract iterations).Rehearsed layout := by
  refine ⟨_, trials?_inlineStress contract iterations layout, ?_⟩
  have two := two_le_toNat_max iterations
  have bound := (max iterations 2).toNat_lt
  generalize (max iterations 2).toNat = count at two bound ⊢
  -- Neither expanding the table before nor disabling it afterwards counts.
  have counted {operation : Operation}
      (looped : operation = .set .inline ∨ operation = .get .inline) :
      (((if contract.autoExpandOnSet then [] else [Trial.mk (.enable 0) (.success none)])
        ++ (List.range' 0 count).flatMap (fun number => roundTrip (growing number))
        ++ [Trial.mk (.disable 0) (.success none)]).map Trial.operation).count operation =
          count := by
    rw [List.map_append, List.map_append, List.count_append, List.count_append,
      count_roundTrips count looped]
    rcases looped with rfl | rfl <;> cases contract.autoExpandOnSet <;> exact Nat.zero_add count
  intro assertion listed
  have known : assertion = .expansionCostVisible (.set .inline) ∨
      assertion = .statsAvailable (.set .inline) ∨
      assertion = .statsAvailable (.get .inline) := by
    obtain ⟨_ | _, _⟩ := contract
    · exact .inr (by simpa [inlineStress, Scenario.withAssertions, Scenario.withSteps,
        Scenario.new] using listed)
    · simpa [inlineStress, Scenario.withAssertions, Scenario.withSteps, Scenario.new] using listed
  rcases known with rfl | rfl | rfl
  · rw [Assertion.Served, counted (.inl rfl)]
    exact ⟨two, Nat.le_of_lt bound⟩
  · rw [Assertion.Served, ← List.count_pos_iff, counted (.inl rfl)]
    exact Nat.lt_of_lt_of_le Nat.two_pos two
  · rw [Assertion.Served, ← List.count_pos_iff, counted (.inr rfl)]
    exact Nat.lt_of_lt_of_le Nat.two_pos two

/-- Every scenario of the catalog is rehearsed, unless it is to be repeated and never is. -/
theorem rehearsed_of_mem_all {suite : Suite} {scenario : Scenario} (listed : scenario ∈ all suite)
    (repeated : scenario.name = "lifecycle-stress" → suite.stressIterations ≠ 0)
    (layout : HeaderLayout) : scenario.Rehearsed layout := by
  rw [all_eq, List.mem_append, List.mem_append] at listed
  rcases listed with (plain | timed) | stress
  · exact rehearsed_plain suite.contract layout scenario plain
  · split at timed
    · rw [List.mem_singleton.mp timed]
      exact rehearsed_setTiming suite.contract layout
    · cases timed
  · simp only [List.mem_cons, List.not_mem_nil, or_false] at stress
    rcases stress with rfl | rfl
    · exact rehearsed_lifecycleStress (repeated rfl) suite.contract layout
    · exact rehearsed_inlineStress suite.contract suite.stressIterations layout

/-- Every scenario assumes the contract of the suite, and one table maps its pages. -/
theorem contract_of_mem_all {suite : Suite} {scenario : Scenario} (listed : scenario ∈ all suite) :
    scenario.contract = suite.contract ∧ (scenario.oneTable = true ∨ scenario.pages = 1) := by
  have plainly (contract : Contract) : ∀ scenario ∈ plain contract,
      scenario.contract = contract ∧ (scenario.oneTable = true ∨ scenario.pages = 1) := by
    rcases contract with ⟨_ | _, _ | _⟩ <;> decide
  rw [all_eq, List.mem_append, List.mem_append] at listed
  rcases listed with (listed | timed) | stress
  · exact plainly suite.contract scenario listed
  · split at timed
    · next expands =>
      rw [List.mem_singleton.mp timed]
      refine ⟨?_, .inr rfl⟩
      change { suite.contract with autoExpandOnSet := true } = suite.contract
      rw [← expands]
    · cases timed
  · simp only [List.mem_cons, List.not_mem_nil, or_false] at stress
    rcases stress with rfl | rfl <;> exact ⟨rfl, .inr rfl⟩

theorem eq_lifecycleStress_of_mem_all {suite : Suite} {scenario : Scenario}
    (listed : scenario ∈ all suite) (named : scenario.name = "lifecycle-stress") :
    scenario = lifecycleStress suite.contract suite.stressIterations := by
  have plainly (contract : Contract) :
      ∀ scenario ∈ plain contract, scenario.name ≠ "lifecycle-stress" := by
    rcases contract with ⟨_ | _, _ | _⟩ <;> decide
  rw [all_eq, List.mem_append, List.mem_append] at listed
  rcases listed with (listed | timed) | stress
  · exact absurd named (plainly suite.contract scenario listed)
  · split at timed
    · rw [List.mem_singleton.mp timed] at named
      change "set-timing" = _ at named
      exact absurd named (by decide)
    · cases timed
  · simp only [List.mem_cons, List.not_mem_nil, or_false] at stress
    rcases stress with rfl | rfl
    · rfl
    · change "inline-stress" = _ at named
      exact absurd named (by decide)

end Catalog

end PageMetadata
