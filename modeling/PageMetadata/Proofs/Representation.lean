import PageMetadata.Proofs.Observation
import PageMetadata.Proofs.Registry

/-! # How the model keeps its tables

Every table that the model holds is kept under its own address and is well formed: it has an anchor
within it, it holds no values unless it is expanded, and it holds values only for pages that it has.
The tables are listed in the order in which they were first touched. Tearing down each expanded
table at its anchor is therefore always accepted, and leaves nothing behind.
-/

namespace PageMetadata

/-- What is known of a table concerns that table. -/
structure TableState.WellFormed (geometry : PageGeometry) (table : Address) (state : TableState) :
    Prop where
  anchored : geometry.tableOf state.anchor = table
  vacant : state.lifecycle = .unexpanded → state.pages.entries = []
  bounded : ∀ page value, (page, value) ∈ state.pages.entries →
    page.toNat < geometry.entriesPerTable.toNat

namespace TableState.WellFormed

variable {geometry : PageGeometry} {state : TableState}

/-- A table that is touched for the first time. -/
theorem fresh (geometry : PageGeometry) (anchor : Address) :
    WellFormed geometry (geometry.tableOf anchor) ⟨.unexpanded, anchor, .empty⟩ where
  anchored := rfl
  vacant _ := rfl
  bounded _ _ := nofun

theorem follow {call : Call}
    (wellFormed : state.WellFormed geometry (geometry.tableOf call.address)) :
    (state.follow (geometry.pageIndex call.address) call).WellFormed geometry
      (geometry.tableOf call.address) := by
  obtain ⟨anchored, vacant, bounded⟩ := wellFormed
  cases call with
  | enable address => exact ⟨anchored, nofun, bounded⟩
  | disable address => exact ⟨anchored, fun _ => rfl, fun _ _ => nofun⟩
  | get address encoding => exact ⟨anchored, vacant, bounded⟩
  | set address value =>
    refine ⟨anchored, nofun, ?_⟩
    intro page held listed
    change (page, held) ∈ (state.pages.alter _ _).entries at listed
    rw [Registry.mem_entries_alter] at listed
    split at listed
    · next here =>
      rw [here]
      exact geometry.pageIndex_lt address
    · exact bounded page held listed

end TableState.WellFormed

namespace Model

/-- All tables of the model are well formed. -/
def WellFormed (model : Model) : Prop :=
  ∀ table state, model.tables.get? table = some state →
    state.WellFormed model.geometry table

theorem wellFormed_empty (geometry : PageGeometry) (contract : Contract) :
    (empty geometry contract).WellFormed := nofun

theorem WellFormed.follow {model : Model} (wellFormed : model.WellFormed) (call : Call) :
    (model.follow call).WellFormed := by
  intro table state found
  rw [Model.follow, Registry.get?_alter] at found
  split at found
  · next here =>
    subst here
    cases found
    apply TableState.WellFormed.follow
    cases held : model.tables.get? (model.geometry.tableOf call.address) with
    | none => exact .fresh model.geometry call.address
    | some state => exact wellFormed _ state held
  · exact wellFormed table state found

theorem WellFormed.after {model : Model} (wellFormed : model.WellFormed) (call : Call) :
    (model.after call).WellFormed := by
  unfold Model.after
  split
  · exact wellFormed.follow call
  · exact wellFormed

theorem WellFormed.followAll {model : Model} (wellFormed : model.WellFormed) (calls : List Call) :
    (model.followAll calls).WellFormed := by
  induction calls generalizing model with
  | nil => exact wellFormed
  | cons call calls ih => exact ih (wellFormed.follow call)

/-- A table that is touched for the first time comes last. -/
theorem keys_follow {model : Model} {touched : List Address}
    (before : model.tables.keys = touched.eraseDups) (call : Call) :
    (model.follow call).tables.keys =
      (touched ++ [model.geometry.tableOf call.address]).eraseDups :=
  Registry.keys_alter_eq_eraseDups before _

theorem keys_followAll (geometry : PageGeometry) (contract : Contract) (calls : List Call) :
    ((empty geometry contract).followAll calls).tables.keys =
      (calls.map fun call => geometry.tableOf call.address).eraseDups := by
  induction calls using List.reverseRecOn with
  | nil => rfl
  | append_singleton calls last ih =>
    rw [followAll_append_singleton, keys_follow ih, geometry_followAll, List.map_append]
    rfl

theorem mem_expandedTables_iff {model : Model} {table anchor : Address} :
    (table, anchor) ∈ model.expandedTables ↔
      ∃ state, model.tables.get? table = some state ∧ state.lifecycle = .expanded ∧
        state.anchor = anchor := by
  simp [expandedTables, Registry.mem_entries_iff, and_assoc]

/-- A table is expanded exactly if it is listed as such. -/
theorem lifecycle_eq_expanded_iff {model : Model} {address : Address} :
    model.lifecycle address = .expanded ↔
      model.geometry.tableOf address ∈ model.expandedTables.map Prod.fst := by
  simp only [List.mem_map, Prod.exists, mem_expandedTables_iff]
  rw [lifecycle, table?]
  cases found : model.tables.get? (model.geometry.tableOf address) with
  | none => simp [found]
  | some state => simp [found]

theorem nodup_expandedTables (model : Model) : (model.expandedTables.map Prod.fst).Nodup := by
  rw [expandedTables, List.map_map]
  exact (List.filter_sublist.map _).nodup model.tables.nodup_keys

namespace WellFormed

variable {model : Model} (wellFormed : model.WellFormed)

include wellFormed

/-- A table is found at the address that names it. -/
theorem table?_eq {table : Address} {state : TableState}
    (found : model.tables.get? table = some state) : model.table? table = some state := by
  have named : model.geometry.tableOf table = table := by
    rw [← (wellFormed table state found).anchored, PageGeometry.tableOf_tableOf]
  rw [Model.table?, named, found]

theorem lifecycle_eq {table : Address} {state : TableState}
    (found : model.tables.get? table = some state) : model.lifecycle table = state.lifecycle := by
  rw [lifecycle, wellFormed.table?_eq found]

/-- An unexpanded table holds no value. -/
theorem value?_eq_none {address : Address} (unexpanded : model.lifecycle address = .unexpanded) :
    model.value? address = none := by
  cases found : model.table? address with
  | none => simp [value?, found]
  | some state =>
    rw [lifecycle, found] at unexpanded
    have empty := (wellFormed _ state found).vacant unexpanded
    simp [value?, found, Registry.get?, empty]

theorem anchor_of_mem {table anchor : Address} (listed : (table, anchor) ∈ model.expandedTables) :
    model.geometry.tableOf anchor = table := by
  obtain ⟨state, found, _, rfl⟩ := mem_expandedTables_iff.mp listed
  exact (wellFormed table state found).anchored

/-- The expanded tables are the tables that are expanded, in the order of all tables. -/
theorem map_fst_expandedTables :
    model.expandedTables.map Prod.fst =
      model.tables.keys.filter fun table => model.lifecycle table = .expanded := by
  rw [expandedTables, List.map_map, Registry.keys, List.filter_map]
  congr 1
  apply List.filter_congr
  rintro ⟨table, state⟩ listed
  have held := wellFormed.lifecycle_eq (Registry.mem_entries_iff.mp listed)
  simp only [Function.comp_apply, held]

end WellFormed

/-- Every observation is accepted in its turn. -/
inductive Accepts : Model → List Observation → Prop where
  | nil (model : Model) : Accepts model []
  | cons {model : Model} {observation : Observation} {later : List Observation}
    (accepted : model.verdict observation = .ok ())
    (next : Accepts (model.note observation) later) : Accepts model (observation :: later)

/-- The observations that tables are torn down; what comes back is of no account. -/
def disables (retrieved : Address → Option MetadataValue) (anchors : List Address) :
    List Observation :=
  anchors.map fun anchor => ⟨.disable anchor, .success, retrieved anchor⟩

theorem observe_disable {model : Model} {anchor : Address}
    (expanded : model.lifecycle anchor = .expanded) (retrieved : Option MetadataValue) :
    model.observe (.disable anchor) .success retrieved = .ok (model.follow (.disable anchor)) := by
  have predicted : model.predict (.disable anchor) = .success none := by
    simp only [predict, Call.address, expanded]
  rw [observe_eq_ok_iff, after, predicted]
  exact ⟨rfl, rfl, rfl⟩

/-- Tearing down one table leaves the others as they are, so each is still expanded in its turn. -/
theorem accepts_disables {model : Model} (retrieved : Address → Option MetadataValue)
    {anchors : List Address} (apart : (anchors.map model.geometry.tableOf).Nodup)
    (expanded : ∀ anchor ∈ anchors, model.lifecycle anchor = .expanded) :
    model.Accepts (disables retrieved anchors) ∧
      model.noteAll (disables retrieved anchors) = model.followAll (anchors.map .disable) := by
  induction anchors generalizing model with
  | nil => exact ⟨.nil model, rfl⟩
  | cons first anchors ih =>
    have observed := observe_disable (expanded first (List.mem_cons_self ..)) (retrieved first)
    have noted : model.note ⟨.disable first, .success, retrieved first⟩ =
        model.follow (.disable first) := by
      rw [note, observed]
    rw [List.map_cons, List.nodup_cons] at apart
    obtain ⟨other, apart⟩ := apart
    have still : ∀ anchor ∈ anchors,
        (model.follow (.disable first)).lifecycle anchor = .expanded := by
      intro anchor listed
      have different : model.geometry.tableOf anchor ≠ model.geometry.tableOf first :=
        fun same => other (same ▸ List.mem_map_of_mem listed)
      rw [lifecycle_follow]
      exact (if_neg different).trans (expanded anchor (List.mem_cons_of_mem _ listed))
    obtain ⟨accepted, followed⟩ :
        (model.follow (.disable first)).Accepts (disables retrieved anchors) ∧
          (model.follow (.disable first)).noteAll (disables retrieved anchors) =
            (model.follow (.disable first)).followAll (anchors.map .disable) := ih apart still
    refine ⟨.cons ?_ (noted ▸ accepted), ?_⟩
    · rw [verdict, observed]
      rfl
    · change (model.note _).noteAll _ = _
      rw [noted]
      exact followed

theorem lifecycle_followAll_disable {model : Model} {anchors : List Address} {address : Address} :
    (model.followAll (anchors.map .disable)).lifecycle address = .expanded ↔
      model.lifecycle address = .expanded ∧
        model.geometry.tableOf address ∉ anchors.map model.geometry.tableOf := by
  induction anchors generalizing model with
  | nil => simp [followAll]
  | cons first anchors ih =>
    have next : (model.follow (.disable first)).lifecycle address = .expanded ↔
        model.lifecycle address = .expanded ∧
          model.geometry.tableOf address ≠ model.geometry.tableOf first := by
      rw [lifecycle_follow]
      by_cases here : model.geometry.tableOf address = model.geometry.tableOf first
      · simp [here, Call.address, Call.operation, Operation.settles?]
      · simp [here, Call.address]
    refine ih.trans ?_
    rw [next, geometry_follow, List.map_cons, List.mem_cons, not_or, and_assoc]

namespace WellFormed

variable {model : Model} (wellFormed : model.WellFormed)

include wellFormed

theorem map_tableOf_anchors :
    (model.expandedTables.map Prod.snd).map model.geometry.tableOf =
      model.expandedTables.map Prod.fst := by
  rw [List.map_map]
  apply List.map_congr_left
  exact fun ⟨_, _⟩ listed => wellFormed.anchor_of_mem listed

/-- Each expanded table can be torn down at its anchor, one after another. -/
theorem accepts_tearDown (retrieved : Address → Option MetadataValue) :
    let tearDown := disables retrieved (model.expandedTables.map Prod.snd)
    model.Accepts tearDown ∧
      model.noteAll tearDown =
        model.followAll ((model.expandedTables.map Prod.snd).map .disable) := by
  apply accepts_disables retrieved
  · rw [wellFormed.map_tableOf_anchors]
    exact model.nodup_expandedTables
  · intro anchor listed
    rw [lifecycle_eq_expanded_iff, ← wellFormed.map_tableOf_anchors]
    exact List.mem_map_of_mem listed

theorem lifecycle_tornDown (address : Address) :
    (model.followAll ((model.expandedTables.map Prod.snd).map .disable)).lifecycle address =
      .unexpanded := by
  cases state : (model.followAll
    ((model.expandedTables.map Prod.snd).map .disable)).lifecycle address with
  | unexpanded => rfl
  | expanded =>
    rw [lifecycle_followAll_disable, wellFormed.map_tableOf_anchors,
      ← lifecycle_eq_expanded_iff] at state
    exact absurd state.1 state.2

theorem expandedTables_eq_nil (unexpanded : ∀ address, model.lifecycle address = .unexpanded) :
    model.expandedTables = [] := by
  rw [List.eq_nil_iff_forall_not_mem]
  intro ⟨table, anchor⟩ listed
  have here : model.geometry.tableOf anchor ∈ model.expandedTables.map Prod.fst := by
    rw [wellFormed.anchor_of_mem listed]
    exact List.mem_map_of_mem listed
  have contrary := (unexpanded anchor).symm.trans (lifecycle_eq_expanded_iff.mpr here)
  contradiction

end WellFormed

/-- Whatever is observed, each table is well formed and the expanded ones are listed once each, in
the order in which the tables were first touched. Tearing them down at their anchors is accepted
every time, and leaves no table expanded and no page with a value. -/
theorem tables_kept_and_torn_down (geometry : PageGeometry) (contract : Contract)
    (observations : List Observation) (retrieved : Address → Option MetadataValue) :
    let reached := (empty geometry contract).noteAll observations
    let calls := (empty geometry contract).confirmed observations
    let tearDown := disables retrieved (reached.expandedTables.map Prod.snd)
    let left := reached.noteAll tearDown
    (∀ table state, (table, state) ∈ reached.tables.entries → state.WellFormed geometry table) ∧
    (∀ address, reached.lifecycle address = .expanded ↔
      geometry.tableOf address ∈ reached.expandedTables.map Prod.fst) ∧
    (reached.expandedTables.map Prod.fst).Nodup ∧
    reached.expandedTables.map Prod.fst =
      (calls.map fun call => geometry.tableOf call.address).eraseDups.filter
        (fun table => reached.lifecycle table = .expanded) ∧
    reached.Accepts tearDown ∧ left.expandedTables = [] ∧
    ∀ address, left.lifecycle address = .unexpanded ∧ left.value? address = none := by
  intro reached calls tearDown left
  have folded : reached = (empty geometry contract).followAll calls := noteAll_eq _ _
  have sameGeometry : reached.geometry = geometry := by
    rw [folded, geometry_followAll]
    rfl
  have wellFormed : reached.WellFormed := by
    rw [folded]
    exact (wellFormed_empty geometry contract).followAll calls
  obtain ⟨accepted, followed⟩ := wellFormed.accepts_tearDown retrieved
  have folding : left = reached.followAll ((reached.expandedTables.map Prod.snd).map .disable) :=
    followed
  have unexpanded : ∀ address, left.lifecycle address = .unexpanded :=
    fun address => folding ▸ wellFormed.lifecycle_tornDown address
  have leftWellFormed : left.WellFormed := folding ▸ wellFormed.followAll _
  refine ⟨?_, ?_, reached.nodup_expandedTables, ?_, accepted,
    leftWellFormed.expandedTables_eq_nil unexpanded,
    fun address => ⟨unexpanded address, leftWellFormed.value?_eq_none (unexpanded address)⟩⟩
  · intro table state listed
    rw [← sameGeometry]
    exact wellFormed table state (Registry.mem_entries_iff.mp listed)
  · intro address
    rw [← sameGeometry]
    exact lifecycle_eq_expanded_iff
  · rw [wellFormed.map_fst_expandedTables, ← keys_followAll geometry contract, ← folded]

/-- A table that is expanded again through its other page keeps its place and its anchor. -/
theorem reexpanded_table_torn_down :
    let geometry : PageGeometry := ⟨4, by decide, by decide⟩
    let observations : List Observation :=
      [⟨.set ⟨0x1010⟩ (.inline ⟨.scalar, 7⟩), .success, none⟩,
        ⟨.enable ⟨0x1000⟩, .success, none⟩,
        ⟨.enable ⟨0x2000⟩, .success, none⟩,
        ⟨.disable ⟨0x1018⟩, .success, none⟩,
        ⟨.disable ⟨0x1018⟩, .failure .notExpanded, none⟩,
        ⟨.enable ⟨0x1000⟩, .success, none⟩]
    let reached := (empty geometry .standard).noteAll observations
    let tearDown := disables (fun _ => none) [⟨0x1010⟩, ⟨0x2000⟩]
    reached.expandedTables = [(⟨0x1000⟩, ⟨0x1010⟩), (⟨0x2000⟩, ⟨0x2000⟩)] ∧
      reached.Accepts tearDown ∧ (reached.noteAll tearDown).expandedTables = [] := by
  intro geometry observations reached tearDown
  have listed : reached.expandedTables = [(⟨0x1000⟩, ⟨0x1010⟩), (⟨0x2000⟩, ⟨0x2000⟩)] := by
    dsimp +zetaDelta only
    decide +kernel
  obtain ⟨_, _, _, _, accepted, left, _⟩ :=
    tables_kept_and_torn_down geometry .standard observations fun _ => none
  have same : tearDown = disables (fun _ => none) (reached.expandedTables.map Prod.snd) := by
    rw [listed]
    rfl
  rw [same]
  exact ⟨listed, accepted, left⟩

end Model

end PageMetadata
