import PageMetadata.Collaborator.Interference
import PageMetadata.Collaborator.KeyedStore
import PageMetadata.Proofs.Pattern
import PageMetadata.Proofs.Runner.Run

/-! # Corrupted regions

The bytes that a collaborator writes can be read off the exchanges. A call after which the region
does not carry the pattern is the last call of the steps, and it is reported as such, whatever its
answer was. What teardown does to the region counts only if nothing failed before.
-/

namespace PageMetadata

/-- The memory after exchanges one after another. -/
def Memory.follow (memory : Memory) (exchanges : List Exchange) : Memory :=
  exchanges.foldl (fun memory exchange => memory.writeAll exchange.reply.writes) memory

theorem Memory.follow_append (memory : Memory) (exchanges later : List Exchange) :
    memory.follow (exchanges ++ later) = (memory.follow exchanges).follow later :=
  List.foldl_append

/-- The call that an action makes, and the page that it concerns. -/
def Action.call? : Action → Option (Occurrence × Nat)
  | .call position _ stepCall _ => some (.ofPosition position, stepCall.page)
  | .read position _ page => some (⟨position, some page⟩, page)
  | .lifecycle _ _ _ => none

/-- The calls of a scenario in their order, on a region of so many pages. -/
def Scenario.calls (scenario : Scenario) (pageCount : Nat) : List (Occurrence × Nat) :=
  (scenario.actions pageCount).filterMap Action.call?

/-- The session went on by exchanges, and memory holds what they wrote. -/
structure Session.Continues {σ : Type} (first last : Session σ) (later : List Exchange) : Prop where
  exchanges : last.exchanges.toList = first.exchanges.toList ++ later
  memory : last.memory = first.memory.follow later

namespace Session.Continues

variable {σ : Type} {first second third : Session σ} {earlier later : List Exchange}

theorem refl (session : Session σ) : session.Continues session [] :=
  ⟨(List.append_nil _).symm, rfl⟩

theorem trans (continues : first.Continues second earlier)
    (next : second.Continues third later) : first.Continues third (earlier ++ later) where
  exchanges := by rw [next.exchanges, continues.exchanges, List.append_assoc]
  memory := by rw [next.memory, continues.memory, Memory.follow_append]

end Session.Continues

theorem Client.continues_exchange {σ : Type} (client : Client σ) (session : Session σ)
    (request : Request) :
    session.Continues (client.exchange session request).2
      [⟨request, (client.collaborator.respond session.state session.memory request).1⟩] :=
  ⟨Array.toList_push, rfl⟩

namespace Runner

variable {σ : Type}

theorem intact_iff_carried {runner : Runner σ} {memory : Memory} :
    runner.Intact memory ↔ runner.pattern.Carried memory.bytes :=
  Pattern.carried_iff.symm

/-- Progress stands at a call with this request, and whatever is found wrong with the region after
the call has ended it. -/
structure Reports (runner : Runner σ) (region : Region) (call : Occurrence × Nat)
    (request : Request) (progress : Progress σ) : Prop where
  located : region.page? call.2 = some request.address
  stage : (Progress.reached progress).stage = .call call.1 request.operation call.2
  examined : ∀ error, runner.examine (Progress.reached progress).session
      ("after " ++ (Progress.reached progress).stage.text) = .error error →
    progress = .error ⟨error, Progress.reached progress⟩

/-- What an action does to the session: nothing, or one exchange that is reported at its call. -/
inductive Exchanges (runner : Runner σ) (execution : Execution σ) (action : Action)
    (progress : Progress σ) : Prop where
  | silent (session : (Progress.reached progress).session = execution.session)
    (without : ∀ next, progress = .ok next → action.call? = none)
  | one (call : Occurrence × Nat) (request : Request) (called : action.call? = some call)
    (session : (Progress.reached progress).session =
      (runner.client.exchange execution.session request).2)
    (reports : runner.Reports execution.region call request progress)

/-- Judging an answer starts with the region. -/
private theorem conclude_judge_of_examine {runner : Runner σ} {execution : Execution σ}
    {call : Call} {expectation : Expectation} {iteration : UInt32}
    {answer : Except CodecError (Outcome (Option MetadataValue))} {error : Error}
    (examined : runner.examine execution.session ("after " ++ execution.stage.text) =
      .error error) :
    conclude execution (runner.judge execution call expectation iteration answer) =
      .error ⟨error, execution⟩ := by
  rw [judge, examined]
  rfl

private theorem exchanges_performCall {runner : Runner σ} {execution : Execution σ}
    (intact : runner.Intact execution.session.memory) {action : Action} {occurrence : Occurrence}
    {iteration : UInt32} {stepCall : StepCall} {expectation : Expectation}
    (called : action.call? = some (occurrence, stepCall.page)) :
    runner.Exchanges execution action
      (runner.performCall occurrence iteration stepCall expectation execution) := by
  cases located : execution.region.page? stepCall.page with
  | none =>
    simp only [performCall, located]
    refine .silent rfl ?_
    intro next finished
    cases finished
  | some address =>
    rw [performCall_of_intact intact occurrence iteration expectation located]
    dsimp only
    generalize judged : runner.judge _ _ _ _ _ = judgement
    obtain ⟨session, stage⟩ := reached_conclude
      (runner.answered occurrence iteration stepCall expectation execution address) judgement
    cases requested : runner.client.request (stepCall.resolve address iteration)
        (expectation.payloadLength execution.model address iteration) with
    | error error =>
      -- The value has no encoding, so nothing is exchanged and the answer is refused.
      have same : runner.called iteration stepCall expectation execution address =
          (.error error, execution.session) := by
        rw [Runner.called, Client.call_eq, requested]
      refine .silent ?_ ?_
      · rw [session, answered, same]
      · intro next finished
        obtain ⟨model, rfl, _⟩ := conclude_eq_ok_iff.mp finished
        obtain ⟨_, found, _⟩ :=
          (judge_eq_ok_iff fun _ found => Client.isSome_of_call found).mp judged
        have contrary := (congrArg Prod.fst same).symm.trans found
        contradiction
    | ok request =>
      have operation := Client.operation_of_request requested
      have sameAddress := Client.address_of_request requested
      rw [address_resolve] at sameAddress
      refine .one _ request called ?_ ⟨?_, ?_, ?_⟩
      · rw [session, answered, Runner.called, Client.call_eq, requested]
      · rw [located, sameAddress]
      · rw [stage, operation]
        rfl
      · intro error examined
        rw [session, stage] at examined
        rw [← judged, conclude_judge_of_examine examined]
        rfl

theorem exchanges_perform {runner : Runner σ} {execution : Execution σ}
    (intact : runner.Intact execution.session.memory) (action : Action) :
    runner.Exchanges execution action (runner.perform execution action) := by
  cases action with
  | call position iteration stepCall expectation => exact exchanges_performCall intact rfl
  | read position iteration page => exact exchanges_performCall intact rfl
  | lifecycle position page state =>
    refine .silent ?_ fun _ _ => rfl
    simp only [perform, checkLifecycle]
    split
    · rfl
    · split <;> rfl

/-- Only the last exchange can have changed the region, and then it is reported at the call of its
number. -/
def Catches (runner : Runner σ) (region : Region) (memory : Memory)
    (calls : List (Occurrence × Nat)) (exchanges : List Exchange) (progress : Progress σ) : Prop :=
  ∀ before exchange after, exchanges = before ++ exchange :: after →
    ¬ runner.Intact (memory.follow (before ++ [exchange])) →
    after = [] ∧ ∃ call, calls[before.length]? = some call ∧
      runner.Reports region call exchange.request progress

section Catches

variable {runner : Runner σ} {region : Region} {memory : Memory} {calls : List (Occurrence × Nat)}
  {progress : Progress σ}

theorem catches_nil : runner.Catches region memory calls [] progress := by
  intro before exchange after same
  have counted := congrArg List.length same
  simp at counted

theorem catches_singleton {call : Occurrence × Nat} {exchange : Exchange}
    (reports : runner.Reports region call exchange.request progress) :
    runner.Catches region memory (call :: calls) [exchange] progress := by
  intro before other after same _
  cases before with
  | nil =>
    cases same
    exact ⟨rfl, call, rfl, reports⟩
  | cons first before =>
    have counted := congrArg List.length same
    simp at counted

theorem Catches.cons {call : Occurrence × Nat} {exchange : Exchange} {later : List Exchange}
    (intact : runner.Intact (memory.follow [exchange]))
    (catches : runner.Catches region (memory.follow [exchange]) calls later progress) :
    runner.Catches region memory (call :: calls) (exchange :: later) progress := by
  intro before other after same changed
  cases before with
  | nil =>
    cases same
    exact absurd intact changed
  | cons first before =>
    cases same
    exact catches before other after rfl changed

end Catches

/-- As long as the region is found intact the next action is performed. -/
theorem catches_performAll {runner : Runner σ} (actions : List Action) {execution : Execution σ}
    (intact : runner.Intact execution.session.memory) :
    ∃ later,
      execution.session.Continues
        (Progress.reached (runner.performAll actions execution)).session later ∧
      runner.Catches execution.region execution.session.memory
        (actions.filterMap Action.call?) later (runner.performAll actions execution) := by
  induction actions generalizing execution with
  | nil => exact ⟨[], .refl _, catches_nil⟩
  | cons action actions ih =>
    have exchanged := exchanges_perform intact action
    rw [performAll_cons]
    cases performed : runner.perform execution action with
    | error interruption =>
      rw [performed] at exchanged
      change ∃ later, execution.session.Continues interruption.execution.session later ∧
        runner.Catches _ _ _ later (.error interruption)
      cases exchanged with
      | silent session without =>
        refine ⟨[], ?_, catches_nil⟩
        change interruption.execution.session = execution.session at session
        rw [session]
        exact .refl _
      | one call request called session reports =>
        change interruption.execution.session = _ at session
        rw [session, List.filterMap_cons_some called]
        exact ⟨_, runner.client.continues_exchange execution.session request,
          catches_singleton reports⟩
    | ok next =>
      rw [performed] at exchanged
      change ∃ later, execution.session.Continues
          (Progress.reached (runner.performAll actions next)).session later ∧
        runner.Catches _ _ _ later (runner.performAll actions next)
      rw [← region_perform performed]
      cases exchanged with
      | silent session without =>
        change next.session = execution.session at session
        rw [List.filterMap_cons_none (without next rfl), ← session]
        rw [← session] at intact
        exact ih intact
      | one call request called session reports =>
        change next.session = (runner.client.exchange execution.session request).2 at session
        have continues := runner.client.continues_exchange execution.session request
        rw [← session] at continues
        have kept := intact_perform intact performed
        obtain ⟨later, continued, catches⟩ := ih kept
        rw [continues.memory] at kept catches
        refine ⟨_, continues.trans continued, ?_⟩
        rw [List.filterMap_cons_some called]
        exact catches.cons kept

/-- One request to disable is made for each target, whatever the answers are. -/
theorem continues_disableAll (client : Client σ) (session : Session σ) (targets : List Address) :
    ∃ later, session.Continues (disableAll client session targets) later ∧
      later.map (·.request) = targets.map .disable := by
  induction targets generalizing session with
  | nil => exact ⟨[], .refl _, rfl⟩
  | cons target targets ih =>
    obtain ⟨later, continues, requests⟩ := ih (client.disable session target).2
    refine ⟨_, (client.continues_exchange session (.disable target)).trans continues, ?_⟩
    rw [List.cons_append, List.nil_append, List.map_cons, List.map_cons, requests]

/-- Teardown counts its exchanges apart from those of the steps. -/
private theorem memory_disableAll (client : Client σ) (execution : Execution σ)
    (targets : List Address) :
    let after := disableAll client execution.leaving targets
    after.memory = execution.session.memory.follow after.exchanges.toList := by
  intro after
  obtain ⟨later, continues, _⟩ := continues_disableAll client execution.leaving targets
  have exchanges : after.exchanges.toList = later := continues.exchanges
  rw [exchanges]
  exact continues.memory

/-- A region that is found changed is reported for its first byte that differs. -/
theorem exists_examine_eq_error {runner : Runner σ} {session : Session σ}
    (changed : ¬ runner.pattern.Carried session.memory.bytes) : ∃ offset observed,
      runner.pattern.FirstMismatch session.memory.bytes offset observed ∧
        ∀ moment, runner.examine session moment =
          .error (.patternMismatch ⟨moment, offset, runner.pattern offset, observed⟩) := by
  obtain ⟨offset, observed, first, verified⟩ := Pattern.exists_verify_eq_error changed
  refine ⟨offset, observed, first, ?_⟩
  intro moment
  rw [examine, verified]
  rfl

/-- Without a failure before it, teardown hands back what its exchanges have left. -/
private theorem exists_handBack (runner : Runner σ) (host : Host) (execution : Execution σ) :
    let run := runner.finish host execution (.ok ())
    ∃ after : Session σ, after.memory = execution.session.memory.follow run.tornDown.toList ∧
      run.result = (runner.handBack host after).mapError fun error => ⟨.teardown, error⟩ :=
  ⟨_, memory_disableAll runner.client execution (teardownTargets execution false), rfl⟩

/-- Without a failure before it, teardown fails a run for what it leaves of the region. -/
theorem exists_result_finish {runner : Runner σ} {host : Host} {execution : Execution σ} :
    let run := runner.finish host execution (.ok ())
    let left := execution.session.memory.follow run.tornDown.toList
    ¬ runner.pattern.Carried left.bytes → ∃ offset observed,
      runner.pattern.FirstMismatch left.bytes offset observed ∧
        run.result = .error ⟨.teardown, .patternMismatch
          ⟨"after teardown", offset, runner.pattern offset, observed⟩⟩ := by
  intro run left changed
  obtain ⟨after, memory, result⟩ := runner.exists_handBack host execution
  rw [← show after.memory = left from memory] at changed ⊢
  obtain ⟨offset, observed, first, examined⟩ := exists_examine_eq_error changed
  refine ⟨offset, observed, first, ?_⟩
  rw [result, handBack, examined]
  rfl

/-- Teardown that leaves the region intact fails a run only if the region is not released. -/
theorem result_finish_of_carried {runner : Runner σ} {host : Host} {execution : Execution σ} :
    let run := runner.finish host execution (.ok ())
    runner.pattern.Carried (execution.session.memory.follow run.tornDown.toList).bytes →
      run.result = (runner.release host).mapError fun error => ⟨.teardown, error⟩ := by
  intro run carried
  obtain ⟨after, memory, result⟩ := runner.exists_handBack host execution
  rw [← memory] at carried
  have examined : runner.examine after "after teardown" = .ok () :=
    examine_eq_ok_iff.mpr (intact_iff_carried.mpr carried)
  rw [result, handBack, examined]
  rfl

/-- The first call after which the region does not carry the pattern is the last one of the steps,
and the run fails for the first byte that differs, whatever else is wrong. Teardown fails a run for
what it does to the region only if nothing failed before, and for a region that is not released only
if it is intact. -/
theorem corruption_reported {runner : Runner σ} {host : Host} {session : Session σ}
    {scenario : Scenario} {region : Region}
    (acquired : runner.acquireRegion host scenario = .ok region) :
    let stamped := { region.memory with bytes := runner.pattern.stamp region.length }
    let operated := (Progress.reached
      (runner.operate host session scenario region)).session.exchanges.toList
    (∀ before exchange after, operated = before ++ exchange :: after →
      ¬ runner.pattern.Carried (stamped.follow (before ++ [exchange])).bytes →
      after = [] ∧
        ∃ run occurrence page offset observed, runner.run host session scenario = .ok run ∧
          run.operated.toList = operated ∧
          (scenario.calls region.pageCount)[before.length]? = some (occurrence, page) ∧
          region.page? page = some exchange.request.address ∧
          runner.pattern.FirstMismatch (stamped.follow operated).bytes offset observed ∧
          let stage := Stage.call occurrence exchange.request.operation page
          run.result = .error ⟨stage, .patternMismatch
            ⟨"after " ++ stage.text, offset, runner.pattern offset, observed⟩⟩) ∧
    (∀ result, runner.tested host session scenario region = .ok result →
      ∃ run, runner.run host session scenario = .ok run ∧ run.operated.toList = operated ∧
        (∀ failure, result = .error failure → run.result = .error failure) ∧
        (result = .ok () →
          let left := stamped.follow (operated ++ run.tornDown.toList)
          (¬ runner.pattern.Carried left.bytes →
            ∃ offset observed, runner.pattern.FirstMismatch left.bytes offset observed ∧
              run.result = .error ⟨.teardown, .patternMismatch
                ⟨"after teardown", offset, runner.pattern offset, observed⟩⟩) ∧
          (runner.pattern.Carried left.bytes →
            run.result = (runner.release host).mapError fun error => ⟨.teardown, error⟩))) := by
  intro stamped operated
  have run_eq := run_eq_finish host session acquired
  obtain ⟨later, continues, caught⟩ := runner.catches_performAll
    (scenario.actions region.pageCount)
    (runner.intact_setup host scenario region session.clearStats)
  have same : operated = later := continues.exchanges
  have catches : runner.Catches region stamped (scenario.calls region.pageCount) operated
      (runner.operate host session scenario region) := by
    rw [same]
    exact caught
  have memory : (Progress.reached
      (runner.operate host session scenario region)).session.memory = stamped.follow operated := by
    rw [same]
    exact continues.memory
  constructor
  · intro before exchange after split changed
    obtain ⟨last, ⟨occurrence, page⟩, listed, reports⟩ :=
      catches before exchange after split (mt intact_iff_carried.mp changed)
    subst last
    rw [← split, ← memory] at changed
    obtain ⟨offset, observed, first, examined⟩ := exists_examine_eq_error changed
    have stopped := reports.examined _ (examined _)
    let stage := Stage.call occurrence exchange.request.operation page
    have failed : runner.tested host session scenario region =
        .ok (.error ⟨stage, .patternMismatch
          ⟨"after " ++ stage.text, offset, runner.pattern offset, observed⟩⟩) := by
      have here : (Progress.reached
          (runner.operate host session scenario region)).stage = stage := reports.stage
      rw [here] at stopped
      rw [tested, stopped]
      dsimp only
      rw [here]
    rw [failed] at run_eq
    rw [memory] at first
    exact ⟨rfl, _, occurrence, page, offset, observed, run_eq, rfl, listed, reports.located,
      first, rfl⟩
  · intro result ended
    rw [ended] at run_eq
    refine ⟨_, run_eq, rfl, ?_, ?_⟩
    · rintro failure rfl
      rfl
    · rintro rfl left
      have appended : left = (stamped.follow operated).follow _ := Memory.follow_append ..
      rw [appended, ← memory]
      exact ⟨exists_result_finish, result_finish_of_carried⟩

/-- A read is refused and inverts the byte at offset 3 as well: the byte is what is reported. -/
theorem refused_read_reported :
    let geometry : PageGeometry := ⟨3, by decide, by decide⟩
    let rule : InterferenceRule := ⟨some 1, none, some 3, some .eexist, none, none⟩
    let runner : Runner (Interfered KeyedStore) :=
      ⟨⟨Interference.wrap [rule] KeyedStore.collaborator, .standard, .compact⟩, geometry, .lowByte,
        true⟩
    let host : Host := .placing ⟨0x1000⟩
    let session : Session (Interfered KeyedStore) := .start ⟨.empty, 0, none⟩ .empty
    let scenario := (Scenario.new "refused read" .standard).withSteps
      [.predicted (.set 0 (.fixed (.inline ⟨.scalar, 7⟩))), .predicted (.get 0 .inline),
        .predicted (.disable 0)]
    let region : Region := ⟨geometry, ⟨0x1000⟩, 1, by decide, by decide, by decide, by decide⟩
    let stamped := { region.memory with bytes := runner.pattern.stamp region.length }
    let operated := (Progress.reached
      (runner.operate host session scenario region)).session.exchanges.toList
    let written : Exchange := ⟨.setInline ⟨0x1000⟩ 7, ⟨.ok (), [], .zero⟩⟩
    let read : Exchange :=
      ⟨.getInline ⟨0x1000⟩, ⟨.error .eexist, [(⟨0x1003⟩, 0xfc)], .zero⟩⟩
    runner.acquireRegion host scenario = .ok region ∧ operated = [written] ++ read :: [] ∧
      ¬ runner.pattern.Carried (stamped.follow ([written] ++ [read])).bytes ∧
      ∃ run occurrence page offset observed, runner.run host session scenario = .ok run ∧
        run.operated.toList = operated ∧
        (scenario.calls 1)[1]? = some (occurrence, page) ∧
        region.page? page = some ⟨0x1000⟩ ∧
        runner.pattern.FirstMismatch (stamped.follow operated).bytes offset observed ∧
        let stage := Stage.call occurrence (.get .inline) page
        run.result = .error ⟨stage, .patternMismatch
          ⟨"after " ++ stage.text, offset, runner.pattern offset, observed⟩⟩ := by
  intro geometry rule runner host session scenario region stamped operated written read
  have acquired : runner.acquireRegion host scenario = .ok region := by
    dsimp +zetaDelta only
    rfl
  have split : operated = [written] ++ read :: [] := by
    dsimp +zetaDelta only
    rfl
  have changed : ¬ runner.pattern.Carried (stamped.follow ([written] ++ [read])).bytes := by
    rw [Pattern.carried_iff]
    dsimp +zetaDelta only
    decide
  obtain ⟨_, reported⟩ := (corruption_reported acquired).1 [written] read [] split changed
  exact ⟨acquired, split, changed, reported⟩

end Runner

end PageMetadata
