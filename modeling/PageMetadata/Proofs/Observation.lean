import Mathlib.Data.List.Induction
import PageMetadata.Proofs.Model
import PageMetadata.Proofs.PageGeometry

/-! # The model as a view of what it accepted

Whatever is observed, also what is refused and what merely confirms a failure, the model is the fold
of the successful calls that it accepted. Their order alone says which tables are expanded and which
value a page holds, and from these two the contract says how every call must end.
-/

namespace PageMetadata

/-- The latest event of a kind: none of the events after it is of that kind. -/
def Latest {α : Type} (kind : α → Prop) (history : List α) (event : α) : Prop :=
  ∃ before after, history = before ++ event :: after ∧ kind event ∧ ∀ later ∈ after, ¬ kind later

section Latest

variable {α : Type} {kind : α → Prop} {history : List α}

theorem not_latest_nil {event : α} : ¬ Latest kind [] event := by
  rintro ⟨before, after, same, _⟩
  simp at same

theorem latest_append_singleton_iff {last event : α} :
    Latest kind (history ++ [last]) event ↔
      kind last ∧ event = last ∨ ¬ kind last ∧ Latest kind history event := by
  constructor
  · rintro ⟨before, after, same, held, none⟩
    rcases List.eq_nil_or_concat after with rfl | ⟨middle, final, rfl⟩
    · obtain ⟨_, sameLast⟩ := List.append_inj' same rfl
      cases sameLast
      exact .inl ⟨held, rfl⟩
    · rw [List.concat_eq_append, ← List.cons_append, ← List.append_assoc] at same
      obtain ⟨rfl, sameLast⟩ := List.append_inj' same rfl
      cases sameLast
      refine .inr ⟨none last (by simp), before, middle, rfl, held, ?_⟩
      intro later listed
      exact none later (by simp [listed])
  · rintro (⟨held, rfl⟩ | ⟨other, before, after, rfl, held, none⟩)
    · exact ⟨history, [], rfl, held, by simp⟩
    · refine ⟨before, after ++ [last], by simp, held, ?_⟩
      intro later listed
      rcases List.mem_append.mp listed with earlier | final
      · exact none later earlier
      · rw [List.mem_singleton.mp final]
        exact other

/-- An event of the kind hides what came before it. -/
theorem exists_latest_append_iff {last : α} {holds : α → Prop} :
    (∃ event, Latest kind (history ++ [last]) event ∧ holds event) ↔
      kind last ∧ holds last ∨ ¬ kind last ∧ ∃ event, Latest kind history event ∧ holds event := by
  simp only [latest_append_singleton_iff]
  constructor
  · rintro ⟨event, ⟨held, rfl⟩ | ⟨other, latest⟩, satisfied⟩
    · exact .inl ⟨held, satisfied⟩
    · exact .inr ⟨other, event, latest, satisfied⟩
  · rintro (⟨held, satisfied⟩ | ⟨other, event, latest, satisfied⟩)
    · exact ⟨last, .inl ⟨held, rfl⟩, satisfied⟩
    · exact ⟨event, .inr ⟨other, latest⟩, satisfied⟩

end Latest

namespace Call

/-- The call decides whether the table of an address is expanded; a read does not. -/
def Settles (geometry : PageGeometry) (address : Address) : Call → Prop
  | .get _ _ => False
  | call => geometry.SameTable address call.address

/-- The call sets a value on the page of an address. -/
def Writes (geometry : PageGeometry) (address : Address) : Call → Prop
  | .set target _ => geometry.SamePage address target
  | _ => False

/-- The call tears down the table of an address. -/
def TearsDown (geometry : PageGeometry) (address : Address) : Call → Prop
  | .disable target => geometry.SameTable address target
  | _ => False

end Call

/-- How a call must end under a contract, from the lifecycle of its table and the value that its
page holds. -/
inductive Contract.Requires (contract : Contract) (lifecycle : Lifecycle)
    (held : Option MetadataValue) : Call → Prediction → Prop where
  | enabled {address : Address} (state : lifecycle = .unexpanded) :
    Requires contract lifecycle held (.enable address) (.success none)
  | alreadyExpanded {address : Address} (state : lifecycle = .expanded) :
    Requires contract lifecycle held (.enable address) (.failure .alreadyExpanded)
  | disabled {address : Address} (state : lifecycle = .expanded) :
    Requires contract lifecycle held (.disable address) (.success none)
  | notExpanded {address : Address} (state : lifecycle = .unexpanded) :
    Requires contract lifecycle held (.disable address) (.failure .notExpanded)
  | set {address : Address} {value : MetadataValue}
    (permitted : lifecycle = .expanded ∨ contract.autoExpandOnSet = true) :
    Requires contract lifecycle held (.set address value) (.success none)
  | notSettable {address : Address} {value : MetadataValue}
    (state : lifecycle = .unexpanded) (strict : contract.autoExpandOnSet = false) :
    Requires contract lifecycle held (.set address value) (.failure .notExpanded)
  | noData {address : Address} {encoding : Encoding}
    (nothing : lifecycle = .unexpanded ∨
      held = none ∧ ¬ (contract.unsetRead = .zeroed ∧ encoding = .inline)) :
    Requires contract lifecycle held (.get address encoding) (.failure .noData)
  | zero {address : Address} (state : lifecycle = .expanded) (unset : held = none)
    (zeroed : contract.unsetRead = .zeroed) :
    Requires contract lifecycle held (.get address .inline)
      (.success (some (.inline ⟨.scalar, 0⟩)))
  | read {address : Address} {encoding : Encoding} {value : MetadataValue}
    (state : lifecycle = .expanded) (found : held = some value)
    (same : value.encoding = encoding) :
    Requires contract lifecycle held (.get address encoding) (.success (some value))
  | otherEncoding {address : Address} {encoding : Encoding} {value : MetadataValue}
    (state : lifecycle = .expanded) (found : held = some value)
    (other : value.encoding ≠ encoding) :
    Requires contract lifecycle held (.get address encoding) (.failure .invalidArgument)

namespace Contract

variable {contract : Contract} {lifecycle : Lifecycle} {held : Option MetadataValue}

theorem requires_predict (call : Call) :
    contract.Requires lifecycle held call (contract.predict lifecycle held call) := by
  cases call with
  | enable address =>
    cases lifecycle with
    | unexpanded => exact .enabled rfl
    | expanded => exact .alreadyExpanded rfl
  | disable address =>
    cases lifecycle with
    | unexpanded => exact .notExpanded rfl
    | expanded => exact .disabled rfl
  | set address value =>
    cases lifecycle with
    | expanded => exact .set (.inl rfl)
    | unexpanded =>
      cases expands : contract.autoExpandOnSet with
      | true =>
        simp only [predict, expands, if_true]
        exact .set (.inr expands)
      | false =>
        simp only [predict, expands, Bool.false_eq_true, if_false]
        exact .notSettable rfl expands
  | get address encoding =>
    cases lifecycle with
    | unexpanded => exact .noData (.inl rfl)
    | expanded =>
      cases held with
      | some value =>
        by_cases same : value.encoding = encoding
        · simp only [predict, if_pos same]
          exact .read rfl rfl same
        · simp only [predict, if_neg same]
          exact .otherEncoding rfl rfl same
      | none =>
        cases unset : contract.unsetRead <;> cases encoding <;> simp only [predict, unset]
        case zeroed.inline => exact .zero rfl rfl unset
        all_goals exact .noData (.inr ⟨rfl, by simp [unset]⟩)

/-- What is required is one thing only, and it is what is predicted. -/
theorem requires_iff {call : Call} {prediction : Prediction} :
    contract.Requires lifecycle held call prediction ↔
      contract.predict lifecycle held call = prediction := by
  constructor
  · intro required
    cases required with
    | set permitted =>
      rcases permitted with rfl | expands
      · rfl
      · cases lifecycle <;> simp [predict, expands]
    | noData nothing =>
      cases lifecycle with
      | unexpanded => rfl
      | expanded =>
        obtain ⟨rfl, otherwise⟩ := nothing.resolve_left (by simp)
        simp only [predict]
        split
        · next zeroed => exact absurd ⟨zeroed, rfl⟩ otherwise
        · rfl
    | _ => simp_all [predict]
  · rintro rfl
    exact requires_predict call

end Contract

/-- A call with the outcome that was observed, and the value that came back if one did. -/
structure Observation where
  call : Call
  outcome : OutcomeClass
  retrieved : Option MetadataValue
deriving DecidableEq

namespace Model

/-- Whether an observation is accepted, or why it is refused. -/
def verdict (model : Model) (observation : Observation) : Except Error Unit :=
  (model.observe observation.call observation.outcome observation.retrieved).map fun _ => ()

/-- The model after an observation; a refused one leaves it as it was. -/
def note (model : Model) (observation : Observation) : Model :=
  match model.observe observation.call observation.outcome observation.retrieved with
  | .ok next => next
  | .error _ => model

/-- The model after observations one after another. -/
def noteAll (model : Model) (observations : List Observation) : Model :=
  observations.foldl note model

/-- The calls that were accepted as successful, in their order. -/
def confirmed (model : Model) : List Observation → List Call
  | [] => []
  | observation :: observations =>
    let later := (model.note observation).confirmed observations
    if model.verdict observation = .ok () ∧ observation.outcome = .success then
      observation.call :: later
    else later

/-- The model after successful calls one after another. -/
def followAll (model : Model) (calls : List Call) : Model := calls.foldl follow model

@[simp] theorem geometry_followAll (model : Model) (calls : List Call) :
    (model.followAll calls).geometry = model.geometry := by
  induction calls generalizing model with
  | nil => rfl
  | cons call calls ih => exact (ih _).trans rfl

@[simp] theorem contract_followAll (model : Model) (calls : List Call) :
    (model.followAll calls).contract = model.contract := by
  induction calls generalizing model with
  | nil => rfl
  | cons call calls ih => exact (ih _).trans rfl

theorem followAll_append_singleton (model : Model) (calls : List Call) (call : Call) :
    model.followAll (calls ++ [call]) = (model.followAll calls).follow call :=
  List.foldl_append

/-- Only a success that is accepted changes the model. -/
theorem note_eq (model : Model) (observation : Observation) :
    model.note observation =
      if model.verdict observation = .ok () ∧ observation.outcome = .success then
        model.follow observation.call
      else model := by
  unfold note verdict
  cases observed : model.observe observation.call observation.outcome observation.retrieved with
  | error error => simp [Except.map]
  | ok next =>
    obtain ⟨predicted, _, rfl⟩ := observe_eq_ok_iff.mp observed
    simp only [Except.map, true_and, after, predicted]

theorem noteAll_eq (model : Model) (observations : List Observation) :
    model.noteAll observations = model.followAll (model.confirmed observations) := by
  induction observations generalizing model with
  | nil => rfl
  | cons observation observations ih =>
    refine (ih (model.note observation)).trans ?_
    rw [confirmed, note_eq]
    split <;> rfl

/-- A table is expanded by a call that settles it, unless the call tears it down. -/
theorem lifecycle_follow_of_settles {model : Model} {call : Call} {address : Address}
    (settles : call.Settles model.geometry address) :
    (model.follow call).lifecycle address = .expanded ↔ call.operation ≠ .disable := by
  have here : model.geometry.tableOf address = model.geometry.tableOf call.address := by
    apply model.geometry.sameTable_iff.mp
    cases call <;> first | exact settles | contradiction
  rw [lifecycle_follow, if_pos here]
  cases call with
  | get target encoding => contradiction
  | _ => simp [Call.operation, Operation.settles?]

theorem lifecycle_follow_of_not_settles {model : Model} {call : Call} {address : Address}
    (ignored : ¬ call.Settles model.geometry address) :
    (model.follow call).lifecycle address = model.lifecycle address := by
  rw [lifecycle_follow]
  split
  · next here =>
    cases call with
    | get target encoding => rfl
    | _ => exact absurd (model.geometry.sameTable_iff.mpr here) ignored
  · rfl

theorem value?_follow_set {model : Model} {target address : Address} (value : MetadataValue)
    (here : model.geometry.SamePage address target) :
    (model.follow (.set target value)).value? address = some value := by
  obtain ⟨table, index⟩ := model.geometry.samePage_iff.mp here
  rw [value?_follow]
  exact (if_pos table).trans (if_pos index)

theorem value?_follow_disable {model : Model} {target address : Address}
    (here : model.geometry.SameTable address target) :
    (model.follow (.disable target)).value? address = none := by
  rw [value?_follow]
  exact if_pos (model.geometry.sameTable_iff.mp here)

theorem value?_follow_of_ignored {model : Model} {call : Call} {address : Address}
    (ignored : ¬ (call.Writes model.geometry address ∨ call.TearsDown model.geometry address)) :
    (model.follow call).value? address = model.value? address := by
  rw [value?_follow]
  split
  · next table =>
    cases call with
    | enable target => rfl
    | get target encoding => rfl
    | disable target => exact absurd (.inr (model.geometry.sameTable_iff.mpr table)) ignored
    | set target value =>
      apply if_neg
      intro index
      exact ignored (.inl (model.geometry.samePage_iff.mpr ⟨table, index⟩))
  · rfl

/-- A table is expanded if the latest call that settles it is no disable. -/
theorem lifecycle_followAll (geometry : PageGeometry) (contract : Contract) (calls : List Call)
    (address : Address) :
    ((empty geometry contract).followAll calls).lifecycle address = .expanded ↔
      ∃ call, Latest (Call.Settles geometry address) calls call ∧ call.operation ≠ .disable := by
  induction calls using List.reverseRecOn with
  | nil => simp [followAll, lifecycle, table?, empty, not_latest_nil]
  | append_singleton calls last ih =>
    have sameGeometry : ((empty geometry contract).followAll calls).geometry = geometry :=
      geometry_followAll _ _
    rw [followAll_append_singleton, exists_latest_append_iff]
    by_cases settles : last.Settles geometry address
    · rw [lifecycle_follow_of_settles (sameGeometry.symm ▸ settles)]
      simp [settles]
    · rw [lifecycle_follow_of_not_settles (sameGeometry.symm ▸ settles), ih]
      simp [settles]

/-- A page holds what was last set there, unless its table was torn down since. -/
theorem value?_followAll (geometry : PageGeometry) (contract : Contract) (calls : List Call)
    (address : Address) (value : MetadataValue) :
    ((empty geometry contract).followAll calls).value? address = some value ↔
      ∃ target, Latest (fun call => call.Writes geometry address ∨ call.TearsDown geometry address)
        calls (.set target value) := by
  induction calls using List.reverseRecOn with
  | nil => simp [followAll, value?, table?, empty, not_latest_nil]
  | append_singleton calls last ih =>
    have sameGeometry : ((empty geometry contract).followAll calls).geometry = geometry :=
      geometry_followAll _ _
    rw [followAll_append_singleton]
    simp only [latest_append_singleton_iff]
    by_cases changes : last.Writes geometry address ∨ last.TearsDown geometry address
    · simp only [changes, true_and, not_true_eq_false, false_and, or_false]
      cases last with
      | enable target => simp [Call.Writes, Call.TearsDown] at changes
      | get target encoding => simp [Call.Writes, Call.TearsDown] at changes
      | disable target =>
        have here : geometry.SameTable address target := changes.resolve_left not_false
        rw [value?_follow_disable (sameGeometry.symm ▸ here)]
        simp
      | set target written =>
        have here : geometry.SamePage address target := changes.resolve_right not_false
        rw [value?_follow_set written (sameGeometry.symm ▸ here)]
        simp [eq_comm]
    · rw [value?_follow_of_ignored (sameGeometry.symm ▸ changes), ih]
      simp only [changes, false_and, not_false_eq_true, true_and, false_or]

/-- After any observations, accepted or refused, the latest successful call that settles a table
says whether it is expanded, the latest one that writes a page or tears it down says what the page
holds, and these two say how every call must end. -/
theorem reflects_confirmed (geometry : PageGeometry) (contract : Contract)
    (observations : List Observation) :
    let reached := (empty geometry contract).noteAll observations
    let calls := (empty geometry contract).confirmed observations
    (∀ address, reached.lifecycle address = .expanded ↔
      ∃ call, Latest (Call.Settles geometry address) calls call ∧ call.operation ≠ .disable) ∧
    (∀ address value, reached.value? address = some value ↔
      ∃ target, Latest (fun call => call.Writes geometry address ∨ call.TearsDown geometry address)
        calls (.set target value)) ∧
    (∀ call prediction, reached.predict call = prediction ↔
      contract.Requires (reached.lifecycle call.address) (reached.value? call.address) call
        prediction) := by
  intro reached calls
  have folded : reached = (empty geometry contract).followAll calls := noteAll_eq _ _
  have sameContract : reached.contract = contract := by
    rw [folded, contract_followAll]
    rfl
  refine ⟨?_, ?_, ?_⟩
  · intro address
    rw [folded]
    exact lifecycle_followAll geometry contract calls address
  · intro address value
    rw [folded]
    exact value?_followAll geometry contract calls address value
  · intro call prediction
    rw [predict_eq, Contract.requires_iff, sameContract]

/-- Neither a failure that was predicted nor a success that was not is among the confirmed calls. -/
example :
    let geometry : PageGeometry := ⟨3, by decide, by decide⟩
    let written : Call := .set ⟨0x1000⟩ (.inline ⟨.scalar, 7⟩)
    (empty geometry .standard).confirmed
      [⟨.disable ⟨0x1000⟩, .failure .notExpanded, none⟩,
        ⟨.get ⟨0x1000⟩ .inline, .success, some (.inline ⟨.scalar, 7⟩)⟩,
        ⟨written, .success, none⟩] = [written] := by
  decide

end Model

end PageMetadata
