import PageMetadata.Proofs.Runner.Rehearsal

/-! # Rehearsing without addresses

A scenario names its pages by their indices. If one table maps the whole region, the addresses do
not matter: what the model predicts follows from the lifecycle of that table and the value at each
index. A rehearsal on such a view needs no region, and lists the calls with their predictions.
-/

namespace PageMetadata

/-- Where the call is made does not matter beyond that. -/
theorem Contract.predict_resolve (contract : Contract) (lifecycle : Lifecycle)
    (held : Option MetadataValue) (stepCall : StepCall) (address other : Address)
    (iteration : UInt32) :
    contract.predict lifecycle held (stepCall.resolve address iteration) =
      contract.predict lifecycle held (stepCall.resolve other iteration) := by
  cases stepCall <;> cases lifecycle <;> rfl

namespace StepCall

/-- The call with the value that it has in an iteration. -/
def settle (stepCall : StepCall) (iteration : UInt32) : StepCall :=
  match stepCall with
  | .set page value => .set page (.fixed (value.resolve iteration))
  | other => other

@[simp] theorem page_settle (stepCall : StepCall) (iteration : UInt32) :
    (stepCall.settle iteration).page = stepCall.page := by
  cases stepCall <;> rfl

@[simp] theorem resolve_settle (stepCall : StepCall) (address : Address)
    (iteration later : UInt32) :
    (stepCall.settle iteration).resolve address later = stepCall.resolve address iteration := by
  cases stepCall <;> rfl

theorem operation_resolve (stepCall : StepCall) (address other : Address) (iteration : UInt32) :
    (stepCall.resolve address iteration).operation =
      (stepCall.resolve other iteration).operation := by
  cases stepCall <;> rfl

theorem isEncodable_resolve {layout : HeaderLayout} {stepCall : StepCall} {address other : Address}
    {iteration : UInt32} :
    (stepCall.resolve address iteration).IsEncodable layout ↔
      (stepCall.resolve other iteration).IsEncodable layout := by
  cases stepCall <;> exact Iff.rfl

end StepCall

/-- A call whose value is fixed, and how it is predicted to end. -/
structure Trial where
  call : StepCall
  prediction : Prediction
deriving DecidableEq

def Trial.operation (trial : Trial) : Operation := (trial.call.resolve .null 0).operation

/-- What is known of the table that maps a region; pages are named by their index. -/
structure TableView where
  contract : Contract
  lifecycle : Lifecycle
  values : Nat → Option MetadataValue

namespace TableView

/-- The table is unexpanded and no page of it has a value. -/
def blank (contract : Contract) : TableView := ⟨contract, .unexpanded, fun _ => none⟩

/-- The table after a call on one of its pages that ended as predicted. -/
def after (view : TableView) (page : Nat) (call : Call) : TableView :=
  if (view.contract.predict view.lifecycle (view.values page) call).outcome = .success then
    { view with
      lifecycle := call.operation.settles?.getD view.lifecycle
      values := fun other => call.leaves (other = page) (view.values other) }
  else view

/-- Rehearses the call of a step on a region of so many pages. -/
def call? (layout : HeaderLayout) (pageCount : Nat) (view : TableView) (iteration : UInt32)
    (stepCall : StepCall) (expectation : Expectation) : Option (List Trial × TableView) :=
  let page := stepCall.page
  let call := stepCall.resolve .null iteration
  let prediction := view.contract.predict view.lifecycle (view.values page) call
  if page < pageCount ∧ call.IsEncodable layout ∧ expectation.Accepts prediction iteration then
    some ([⟨stepCall.settle iteration, prediction⟩], view.after page call)
  else none

/-- Rehearses one action. -/
def perform? (layout : HeaderLayout) (pageCount : Nat) (view : TableView) :
    Action → Option (List Trial × TableView)
  | .call _ iteration stepCall expectation =>
    view.call? layout pageCount iteration stepCall expectation
  | .read _ iteration page =>
    let encoding :=
      match view.values page with
      | some value => value.encoding
      | none => .inline
    view.call? layout pageCount iteration (.get page encoding) .model
  | .lifecycle _ page state =>
    if page < pageCount ∧ view.lifecycle = state then some ([], view) else none

/-- Rehearses actions one after another. -/
def rehearse? (layout : HeaderLayout) (pageCount : Nat) :
    TableView → List Action → Option (List Trial × TableView)
  | view, [] => some ([], view)
  | view, action :: actions => do
    let (trials, middle) ← view.perform? layout pageCount action
    let (later, last) ← rehearse? layout pageCount middle actions
    return (trials ++ later, last)

/-- Later actions are rehearsed on the view that the earlier ones lead to. -/
theorem rehearse?_append {layout : HeaderLayout} {pageCount : Nat} {view middle last : TableView}
    {actions later : List Action} {trials others : List Trial}
    (first : view.rehearse? layout pageCount actions = some (trials, middle))
    (rest : middle.rehearse? layout pageCount later = some (others, last)) :
    view.rehearse? layout pageCount (actions ++ later) = some (trials ++ others, last) := by
  induction actions generalizing view trials with
  | nil =>
    cases first
    exact rest
  | cons action actions ih =>
    obtain ⟨⟨head, between⟩, performed, first⟩ := Option.bind_eq_some_iff.mp first
    obtain ⟨⟨tail, reached⟩, remaining, same⟩ := Option.bind_eq_some_iff.mp first
    cases same
    simp only [List.cons_append, rehearse?, performed, ih remaining, Option.bind_eq_bind,
      Option.bind_some, Option.pure_def, List.append_assoc]

/-- The view is what the model holds for a region. -/
structure Shows (view : TableView) (region : Region) (model : Model) : Prop where
  geometry : model.geometry = region.geometry
  contract : model.contract = view.contract
  lifecycle : ∀ index < region.pageCount,
    model.lifecycle (region.addressOf index) = view.lifecycle
  value : ∀ index < region.pageCount,
    model.value? (region.addressOf index) = view.values index

theorem shows_blank (region : Region) (contract : Contract) :
    (blank contract).Shows region (.empty region.geometry contract) :=
  ⟨rfl, rfl, fun _ _ => rfl, fun _ _ => rfl⟩

namespace Shows

variable {view : TableView} {region : Region} {model : Model}
  (shows : view.Shows region model)

include shows

theorem predict {stepCall : StepCall} (inside : stepCall.page < region.pageCount)
    (iteration : UInt32) :
    model.predict (stepCall.resolve (region.addressOf stepCall.page) iteration) =
      view.contract.predict view.lifecycle (view.values stepCall.page)
        (stepCall.resolve .null iteration) := by
  rw [Model.predict_eq, Runner.address_resolve, shows.contract, shows.lifecycle _ inside,
    shows.value _ inside]
  exact view.contract.predict_resolve ..

theorem after (inOneTable : region.InOneTable) {stepCall : StepCall}
    (inside : stepCall.page < region.pageCount) (iteration : UInt32) :
    (view.after stepCall.page (stepCall.resolve .null iteration)).Shows region
      (model.after (stepCall.resolve (region.addressOf stepCall.page) iteration)) := by
  rw [TableView.after, Model.after, shows.predict inside]
  split
  · have sameTable : ∀ index < region.pageCount,
        model.geometry.tableOf (region.addressOf index) =
          model.geometry.tableOf (region.addressOf stepCall.page) := by
      intro index bound
      rw [shows.geometry, inOneTable.sameTable index bound, inOneTable.sameTable _ inside]
    have samePage : ∀ index < region.pageCount,
        (model.geometry.pageIndex (region.addressOf index) =
            model.geometry.pageIndex (region.addressOf stepCall.page)) ↔
          index = stepCall.page := by
      intro index bound
      rw [shows.geometry]
      exact ⟨inOneTable.apart index bound _ inside, fun same => same ▸ rfl⟩
    refine ⟨shows.geometry, shows.contract, ?_, ?_⟩
    · intro index bound
      rw [Model.lifecycle_follow, Runner.address_resolve, if_pos (sameTable index bound),
        shows.lifecycle index bound, stepCall.operation_resolve]
    · intro index bound
      rw [Model.value?_follow, Runner.address_resolve, if_pos (sameTable index bound),
        shows.value index bound]
      cases stepCall <;> simp only [StepCall.resolve, Call.leaves, samePage index bound]
  · exact shows

/-- A page is read in the encoding of the value that is held for it. -/
theorem held {page : Nat} (inside : page < region.pageCount) :
    (region.page? page).bind model.value? = view.values page := by
  rw [Region.page?, if_pos inside]
  exact shows.value page inside

end Shows

theorem call?_eq_some_iff {layout : HeaderLayout} {pageCount : Nat} {view after : TableView}
    {iteration : UInt32} {stepCall : StepCall} {expectation : Expectation} {trials : List Trial} :
    view.call? layout pageCount iteration stepCall expectation = some (trials, after) ↔
      let call := stepCall.resolve .null iteration
      let prediction :=
        view.contract.predict view.lifecycle (view.values stepCall.page) call
      (stepCall.page < pageCount ∧ call.IsEncodable layout ∧
        expectation.Accepts prediction iteration) ∧
      [⟨stepCall.settle iteration, prediction⟩] = trials ∧
      view.after stepCall.page call = after := by
  simp only [call?, Option.ite_none_right_eq_some, Option.some.injEq, Prod.mk.injEq]

end TableView

namespace Rehearsal

variable {layout : HeaderLayout} {region : Region} (inOneTable : region.InOneTable)
  {view after : TableView} {rehearsal : Rehearsal} {trials : List Trial}
  (shows : view.Shows region rehearsal.model)

include inOneTable shows

theorem exists_call?_of_view {iteration : UInt32} {stepCall : StepCall}
    {expectation : Expectation}
    (viewed : view.call? layout region.pageCount iteration stepCall expectation =
      some (trials, after)) :
    ∃ next, rehearsal.call? layout region iteration stepCall expectation = some next ∧
      next.operations = rehearsal.operations ++ trials.map Trial.operation ∧
      after.Shows region next.model := by
  obtain ⟨⟨inside, encodable, accepted⟩, rfl, rfl⟩ := TableView.call?_eq_some_iff.mp viewed
  rw [← shows.predict inside] at accepted
  have encodable : (stepCall.resolve (region.addressOf stepCall.page) iteration).IsEncodable
      layout := StepCall.isEncodable_resolve.mp encodable
  refine ⟨⟨rehearsal.model.after (stepCall.resolve (region.addressOf stepCall.page) iteration),
    rehearsal.operations ++
      [(stepCall.resolve (region.addressOf stepCall.page) iteration).operation]⟩, ?_, ?_,
    shows.after inOneTable inside iteration⟩
  · simp only [Rehearsal.call?, Region.page?, if_pos inside, Option.bind_eq_bind,
      Option.bind_some, encodable, accepted, and_self, if_true]
  · simp only [List.map_cons, List.map_nil, Trial.operation, StepCall.resolve_settle]
    rw [stepCall.operation_resolve]

theorem exists_perform?_of_view {action : Action}
    (viewed : view.perform? layout region.pageCount action = some (trials, after)) :
    ∃ next, rehearsal.perform? layout region action = some next ∧
      next.operations = rehearsal.operations ++ trials.map Trial.operation ∧
      after.Shows region next.model := by
  cases action with
  | call position iteration stepCall expectation =>
    exact exists_call?_of_view inOneTable shows viewed
  | read position iteration page =>
    obtain ⟨⟨inside, _, _⟩, _, _⟩ := TableView.call?_eq_some_iff.mp viewed
    have held : (region.page? page).bind rehearsal.model.value? = view.values page :=
      shows.held inside
    rw [Rehearsal.perform?, held]
    exact exists_call?_of_view inOneTable shows viewed
  | lifecycle position page state =>
    simp only [TableView.perform?, Option.ite_none_right_eq_some, Option.some.injEq,
      Prod.mk.injEq] at viewed
    obtain ⟨⟨inside, held⟩, rfl, rfl⟩ := viewed
    refine ⟨rehearsal, ?_, (List.append_nil _).symm, shows⟩
    simp only [Rehearsal.perform?, Region.page?, if_pos inside, Option.bind_eq_bind,
      Option.bind_some, shows.lifecycle page inside, held, if_true]

/-- What is rehearsed on a view is rehearsed on every region in one table. -/
theorem exists_rehearsal_of_view {actions : List Action}
    (viewed : view.rehearse? layout region.pageCount actions = some (trials, after)) :
    ∃ next, actions.foldlM (Rehearsal.perform? layout region) rehearsal = some next ∧
      next.operations = rehearsal.operations ++ trials.map Trial.operation := by
  induction actions generalizing view rehearsal trials with
  | nil =>
    cases viewed
    exact ⟨rehearsal, rfl, (List.append_nil _).symm⟩
  | cons action actions ih =>
    obtain ⟨⟨first, middle⟩, performed, viewed⟩ := Option.bind_eq_some_iff.mp viewed
    obtain ⟨⟨later, last⟩, rest, same⟩ := Option.bind_eq_some_iff.mp viewed
    cases same
    obtain ⟨between, rehearsed, operations, shows⟩ :=
      exists_perform?_of_view inOneTable shows performed
    obtain ⟨next, continued, all⟩ := ih shows rest
    refine ⟨next, ?_, ?_⟩
    · rw [List.foldlM_cons, rehearsed]
      exact continued
    · rw [all, operations, List.map_append, List.append_assoc]

end Rehearsal

/-- The calls of a scenario that is rehearsed to its end, with their predictions. -/
def Scenario.trials? (scenario : Scenario) (layout : HeaderLayout) : Option (List Trial) :=
  ((TableView.blank scenario.contract).rehearse? layout scenario.pages
    (scenario.actions scenario.pages)).map Prod.fst

theorem Scenario.exists_rehearsal_of_trials? {scenario : Scenario} {layout : HeaderLayout}
    {region : Region} (inOneTable : region.InOneTable) (sized : region.pageCount = scenario.pages)
    {trials : List Trial} (rehearsed : scenario.trials? layout = some trials) :
    ∃ rehearsal, scenario.rehearse? layout region = some rehearsal ∧
      rehearsal.operations = trials.map Trial.operation := by
  obtain ⟨⟨_, after⟩, viewed, rfl⟩ := Option.map_eq_some_iff.mp rehearsed
  rw [← sized] at viewed
  exact Rehearsal.exists_rehearsal_of_view inOneTable
    (TableView.shows_blank region scenario.contract) viewed

end PageMetadata
