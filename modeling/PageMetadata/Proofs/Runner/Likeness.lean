import PageMetadata.Proofs.Collaborator.Projection
import PageMetadata.Proofs.Runner.Assertion

/-! # Runs that go alike

Collaborators that answer alike may take different times, and the same call may belong to different
steps. Runs that are alike differ in nothing else: they make the same exchanges on the same region,
record as many times under every name, and end with the same verdict.
-/

namespace PageMetadata

/-- The reply without the time that it took. -/
def Reply.untimed {request : Request} (reply : Reply request) : Reply request :=
  { reply with elapsed := .zero }

def Exchange.untimed (exchange : Exchange) : Exchange := ⟨exchange.request, exchange.reply.untimed⟩

/-- The stage of a step, whatever the position of the step. -/
def Stage.unplaced : Stage → Stage
  | .call occurrence operation page => .call ⟨.top 0, occurrence.readPage⟩ operation page
  | .lifecycle _ page => .lifecycle (.top 0) page
  | stage => stage

/-- Failures at the same stage apart from the position of the step, for the same error apart from
the text of the stage: that text is part of the error if the region was found changed. -/
structure Failure.Alike (first second : Failure) : Prop where
  stage : first.stage.unplaced = second.stage.unplaced
  error : first.error = second.error ∨ ∃ moment offset expected observed,
    first.error = .patternMismatch ⟨moment ++ first.stage.text, offset, expected, observed⟩ ∧
      second.error = .patternMismatch ⟨moment ++ second.stage.text, offset, expected, observed⟩

theorem Failure.Alike.refl (failure : Failure) : failure.Alike failure := ⟨rfl, .inl rfl⟩

variable {σ τ : Type}

structure Session.Alike (related : σ → τ → Prop) (first : Session σ) (second : Session τ) :
    Prop where
  state : related first.state second.state
  memory : first.memory = second.memory
  counts : ∀ name, (first.stats.samples name).length = (second.stats.samples name).length
  exchanges : first.exchanges.map Exchange.untimed = second.exchanges.map Exchange.untimed

structure Execution.Alike (related : σ → τ → Prop) (first : Execution σ) (second : Execution τ) :
    Prop where
  region : first.region = second.region
  session : Session.Alike related first.session second.session
  model : first.model = second.model
  stage : first.stage.unplaced = second.stage.unplaced

structure Interruption.Alike (related : σ → τ → Prop) (first : Interruption σ)
    (second : Interruption τ) : Prop where
  execution : Execution.Alike related first.execution second.execution
  failure : Failure.Alike ⟨first.execution.stage, first.error⟩
    ⟨second.execution.stage, second.error⟩

/-- Both executions go on alike, or both are interrupted alike. -/
def Progress.Alike (related : σ → τ → Prop) (first : Progress σ) (second : Progress τ) : Prop :=
  Parallel (Interruption.Alike related) (Execution.Alike related) first second

structure Run.Alike (related : σ → τ → Prop) (first : Run σ) (second : Run τ) : Prop where
  region : first.region = second.region
  result : Parallel Failure.Alike Eq first.result second.result
  counts : ∀ name, (first.stats.samples name).length = (second.stats.samples name).length
  operated : first.operated.map Exchange.untimed = second.operated.map Exchange.untimed
  tornDown : first.tornDown.map Exchange.untimed = second.tornDown.map Exchange.untimed
  state : related first.session.state second.session.state

/-- The steps of the scenario end well, but the times of an operation whose statistics must be
available are too long to be summed. -/
def Runner.TimesOverflow (runner : Runner σ) (host : Host) (session : Session σ)
    (scenario : Scenario) : Prop :=
  ∃ region execution operation, runner.acquireRegion host scenario = .ok region ∧
    runner.operate host session scenario region = .ok execution ∧
    .statsAvailable operation ∈ scenario.assertions ∧
    execution.session.stats.Overflows operation

/-- A run comes to no result for no other reason. -/
theorem Runner.timesOverflow_of_run {runner : Runner σ} {host : Host} {session : Session σ}
    {scenario : Scenario}
    (untimed : ∀ operation, .expansionCostVisible operation ∉ scenario.assertions)
    {error : ArithmeticError} (failed : runner.run host session scenario = .error error) :
    error = .durationSum ∧ runner.TimesOverflow host session scenario := by
  obtain ⟨region, execution, acquired, operated, checked⟩ := exists_of_run_eq_error failed
  have undecided : checkAssertions execution.session.stats scenario.assertions = .error error := by
    rw [checkAfterwards] at checked
    split at checked
    · contradiction
    · exact checked
  obtain ⟨sum, operation, asserted, long⟩ := overflows_of_checkAssertions untimed undecided
  exact ⟨sum, region, execution, operation, acquired, operated, asserted, long⟩

namespace Session.Alike

variable {related : σ → τ → Prop} {first : Session σ} {second : Session τ}

theorem record (alike : Session.Alike related first second) (name : String)
    (duration other : Duration) :
    Session.Alike related (first.record name duration) (second.record name other) where
  state := alike.state
  memory := alike.memory
  counts recorded := by
    simp only [Session.record, Stats.samples_record]
    split <;> simp [alike.counts]
  exchanges := alike.exchanges

end Session.Alike

section Client

variable {related : σ → τ → Prop} {client : Client σ} {other : Collaborator τ}
  (answers : client.collaborator.AnswersLike related other) {first : Session σ}
  {second : Session τ} (alike : Session.Alike related first second)

include answers alike

theorem Client.alike_exchange (request : Request) :
    (client.exchange first request).1 = ((client.through other).exchange second request).1 ∧
      Session.Alike related (client.exchange first request).2
        ((client.through other).exchange second request).2 := by
  have result := answers.result _ _ second.memory request alike.state
  have writes := answers.writes _ _ second.memory request alike.state
  refine ⟨?_, ?_, ?_, ?_, ?_⟩
  · simp only [exchange, through, alike.memory, result]
  · simp only [exchange, through, alike.memory]
    exact answers.next _ _ second.memory request alike.state
  · simp only [exchange, through, alike.memory, writes]
  · exact (alike.record request.operation.name _ _).counts
  · simp only [exchange, through, Array.map_push, alike.exchanges, alike.memory, Exchange.untimed,
      Reply.untimed, result, writes]

/-- Calls that make the same request are answered alike. -/
theorem Client.alike_call (call : Call) {payloadLength otherLength : Nat}
    (same : client.request call payloadLength = client.request call otherLength) :
    (client.call first call payloadLength).1 =
        ((client.through other).call second call otherLength).1 ∧
      Session.Alike related (client.call first call payloadLength).2
        ((client.through other).call second call otherLength).2 := by
  rw [call_eq, call_eq, request_through, ← same]
  cases client.request call payloadLength with
  | error error => exact ⟨rfl, alike⟩
  | ok request =>
    obtain ⟨answered, next⟩ := alike_exchange answers alike request
    refine ⟨?_, next⟩
    simp only [interpret_through, answered]

omit alike in
theorem Runner.alike_disableAll {first : Session σ} {second : Session τ}
    (alike : Session.Alike related first second) (targets : List Address) :
    Session.Alike related (disableAll client first targets)
      (disableAll (client.through other) second targets) := by
  induction targets generalizing first second with
  | nil => exact alike
  | cons target targets ih =>
    obtain ⟨_, next⟩ := Client.alike_exchange answers alike (.disable target)
    exact ih next

end Client

namespace Runner

variable {related : σ → τ → Prop} {runner : Runner σ} {other : Collaborator τ}

theorem examine_eq {first : Session σ} {second : Session τ} (memory : first.memory = second.memory)
    (moment : String) :
    (runner.through other).examine second moment = runner.examine first moment := by
  rw [examine, examine, memory]
  rfl

/-- The same memory is examined with the same result, apart from the stage that is named. -/
theorem parallel_examine {first : Session σ} {second : Session τ}
    (memory : first.memory = second.memory) (moment : String) {stage later : Stage}
    (unplaced : stage.unplaced = later.unplaced) :
    Parallel (fun error found => Failure.Alike ⟨stage, error⟩ ⟨later, found⟩) Eq
      (runner.examine first (moment ++ stage.text))
      ((runner.through other).examine second (moment ++ later.text)) := by
  have pattern : (runner.through other).pattern = runner.pattern := rfl
  simp only [examine, Pattern.verify, pattern, ← memory]
  cases runner.pattern.findMismatch? 0 first.memory.bytes with
  | none => exact .ok rfl
  | some mismatch => exact .error ⟨unplaced, .inr ⟨moment, _, _, _, rfl, rfl⟩⟩

section Step

variable {first : Execution σ} {second : Execution τ} (alike : Execution.Alike related first second)

include alike

/-- The same answer is judged alike by expectations that check the same. -/
theorem parallel_judge {call : Call} {expectation required : Expectation}
    {iteration later : UInt32}
    (checks : ∀ observed retrieved, expectation.check call observed retrieved iteration =
      required.check call observed retrieved later)
    (answer : Except CodecError (Outcome (Option MetadataValue))) :
    Parallel (fun error found => Failure.Alike ⟨first.stage, error⟩ ⟨second.stage, found⟩) Eq
      (runner.judge first call expectation iteration answer)
      ((runner.through other).judge second call required later answer) := by
  apply Parallel.bind (parallel_examine alike.session.memory "after " alike.stage)
  intro _ _ _
  refine parallel_of_eq (fun error => ⟨alike.stage, .inl rfl⟩) (fun _ => rfl) ?_
  simp only [checks, alike.model]

theorem alike_conclude {judgement verdict : Except Error Model}
    (judged : Parallel (fun error found => Failure.Alike ⟨first.stage, error⟩ ⟨second.stage, found⟩)
      Eq judgement verdict) :
    Progress.Alike related (conclude first judgement) (conclude second verdict) := by
  cases judged with
  | error failures => exact .error ⟨alike, failures⟩
  | ok same => exact .ok { alike with model := same }

variable {occurrence performed : Occurrence} {iteration later : UInt32}
  {stepCall written : StepCall} {expectation required : Expectation} {address : Address}
  (readPage : occurrence.readPage = performed.readPage) (page : stepCall.page = written.page)
  (call : stepCall.resolve address iteration = written.resolve address later)

include readPage page call

theorem alike_started :
    Execution.Alike related (started occurrence iteration stepCall first address)
      (started performed later written second address) where
  region := alike.region
  session := alike.session
  model := alike.model
  stage := by simp only [started, Stage.unplaced, readPage, page, call]

/-- Calls that make the same request are answered alike. -/
theorem alike_answered (answers : runner.client.collaborator.AnswersLike related other)
    (request : runner.client.request (stepCall.resolve address iteration)
        (expectation.payloadLength first.model address iteration) =
      runner.client.request (stepCall.resolve address iteration)
        (required.payloadLength first.model address later)) :
    (runner.called iteration stepCall expectation first address).1 =
        ((runner.through other).called later written required second address).1 ∧
      Execution.Alike related
        (runner.answered occurrence iteration stepCall expectation first address)
        ((runner.through other).answered performed later written required second address) := by
  obtain ⟨answer, next⟩ := Client.alike_call answers alike.session
    (stepCall.resolve address iteration) request
  rw [call, alike.model] at answer next
  refine ⟨?_, alike.region, ?_, alike.model, (alike_started alike readPage page call).stage⟩
  · rw [called, call, alike.model]
    exact answer
  · simp only [answered, called, call, alike.model]
    exact next

end Step

/-- The same call of different steps is performed alike if both expect the same of it. -/
theorem alike_performCall (answers : runner.client.collaborator.AnswersLike related other)
    {first : Execution σ} {second : Execution τ} (alike : Execution.Alike related first second)
    {occurrence performed : Occurrence} {iteration later : UInt32}
    {stepCall written : StepCall} {expectation required : Expectation}
    (readPage : occurrence.readPage = performed.readPage) (page : stepCall.page = written.page)
    (call : ∀ address, stepCall.resolve address iteration = written.resolve address later)
    (lengths : ∀ model address, expectation.payloadLength model address iteration =
      required.payloadLength model address later)
    (checks : ∀ call observed retrieved, expectation.check call observed retrieved iteration =
      required.check call observed retrieved later) :
    Progress.Alike related (runner.performCall occurrence iteration stepCall expectation first)
      ((runner.through other).performCall performed later written required second) := by
  cases located : first.region.page? stepCall.page with
  | none =>
    have elsewhere : second.region.page? written.page = none := by
      rw [← alike.region, ← page, located]
    simp only [performCall, located, elsewhere]
    exact .error ⟨alike, alike.stage, .inl rfl⟩
  | some address =>
    have again : second.region.page? written.page = some address := by
      rw [← alike.region, ← page, located]
    have begun := alike_started alike readPage page (call address)
    have examined : Parallel _ Eq (runner.examine _ _) ((runner.through other).examine _ _) :=
      parallel_examine begun.session.memory "before " begun.stage
    obtain ⟨answer, answered⟩ := alike_answered alike readPage page (call address) answers
      (by rw [lengths])
    rw [performCall_eq _ _ _ _ _ located, performCall_eq _ _ _ _ _ again]
    dsimp only
    generalize runner.examine _ _ = intact at *
    generalize (runner.through other).examine _ _ = stillIntact at *
    cases examined with
    | error failures => exact .error ⟨begun, failures⟩
    | ok _ =>
      rw [← answer, ← call]
      exact alike_conclude answered (parallel_judge answered (checks _) _)

theorem alike_checkLifecycle {first : Execution σ} {second : Execution τ}
    (alike : Execution.Alike related first second) (position place : Position) (page : Nat)
    (state : Lifecycle) :
    Progress.Alike related (checkLifecycle position page state first)
      (checkLifecycle place page state second) := by
  obtain ⟨region, session, model, stage⟩ := first
  obtain ⟨_, others, _, _⟩ := second
  obtain ⟨rfl, sessions, rfl, _⟩ := alike
  have begun : Execution.Alike related ⟨region, session, model, .lifecycle position page⟩
      ⟨region, others, model, .lifecycle place page⟩ := ⟨rfl, sessions, rfl, rfl⟩
  simp only [checkLifecycle]
  cases region.page? page with
  | none => exact .error ⟨begun, rfl, .inl rfl⟩
  | some address =>
    dsimp only
    split
    · exact .ok begun
    · exact .error ⟨begun, rfl, .inl rfl⟩

/-- Before the first step executions are alike. -/
theorem alike_setup {host again : Host} {scenario later : Scenario}
    (contract : scenario.contract = later.contract) (region : Region) {session : Session σ}
    {started : Session τ} (start : related session.state started.state) :
    Execution.Alike related (runner.setup host scenario region session.clearStats)
      ((runner.through other).setup again later region started.clearStats) where
  region := rfl
  session := by
    let stamped : Memory := { region.memory with bytes := runner.pattern.stamp region.length }
    have fresh : Session.Alike related (session.clearStats.enter stamped)
        (started.clearStats.enter stamped) :=
      ⟨start, rfl, fun _ => rfl, rfl⟩
    exact (fresh.record _ _ _).record _ _ _
  model := congrArg (Model.empty runner.geometry) contract
  stage := rfl

/-- The checks after the last step have the same verdict. -/
theorem eq_of_checkAfterwards {scenario later : Scenario}
    (assertions : scenario.assertions = later.assertions)
    (untimed : ∀ operation, .expansionCostVisible operation ∉ scenario.assertions)
    {first : Session σ} {second : Session τ} (alike : Session.Alike related first second)
    {result verdict : Except Failure Unit}
    (checked : runner.checkAfterwards scenario first = .ok result)
    (again : (runner.through other).checkAfterwards later second = .ok verdict) :
    result = verdict := by
  rw [checkAfterwards] at checked again
  rw [examine_eq alike.memory] at again
  cases found : runner.examine first "at verify" with
  | error error =>
    rw [found] at checked again
    cases checked
    cases again
    rfl
  | ok _ =>
    rw [found] at checked again
    rw [← assertions] at again
    exact checkAssertions_eq_of_counts untimed alike.counts checked again

/-- Teardown of executions that are alike, after verdicts that are alike, if both regions are
released alike. -/
theorem alike_finish (answers : runner.client.collaborator.AnswersLike related other)
    {host again : Host} (released : runner.release again = runner.release host)
    {first : Execution σ} {second : Execution τ}
    (alike : Execution.Alike related first second) {result verdict : Except Failure Unit}
    (verdicts : Parallel Failure.Alike Eq result verdict) :
    Run.Alike related (runner.finish host first result)
      ((runner.through other).finish again second verdict) := by
  obtain ⟨region, session, model, -⟩ := alike
  have targets (failed : Bool) : teardownTargets first failed = teardownTargets second failed := by
    rw [teardownTargets, teardownTargets, region, model]
  have leaving : Session.Alike related first.leaving second.leaving :=
    ⟨session.state, session.memory, fun _ => rfl, rfl⟩
  have torn (failed : Bool) : Session.Alike related
      (disableAll runner.client first.leaving (teardownTargets first failed))
      (disableAll (runner.through other).client second.leaving
        (teardownTargets second failed)) := by
    rw [targets]
    exact alike_disableAll answers leaving _
  cases verdicts with
  | error failures =>
    exact ⟨congrArg some region, .error failures, session.counts, session.exchanges,
      (torn true).exchanges, (torn true).state⟩
  | ok same =>
    refine ⟨congrArg some region, ?_, session.counts, session.exchanges, (torn false).exchanges,
      (torn false).state⟩
    have examined : (runner.through other).examine _ "after teardown" =
        runner.examine _ "after teardown" := examine_eq (torn false).memory _
    refine parallel_of_eq Failure.Alike.refl (fun _ => rfl) ?_
    have given : (runner.through other).handBack again _ = runner.handBack host _ :=
      congrArg₂ (fun examination release => examination >>= fun _ => release) examined released
    exact congrArg (Except.mapError fun error => Failure.mk .teardown error) given.symm

/-- Runs on the same region are alike if their steps are performed alike. -/
theorem alike_run (answers : runner.client.collaborator.AnswersLike related other)
    {host again : Host} {session : Session σ} {later : Session τ}
    (start : related session.state later.state) {scenario written : Scenario}
    (placed : runner.acquireRegion again written = runner.acquireRegion host scenario)
    (released : runner.release again = runner.release host)
    (assertions : scenario.assertions = written.assertions)
    (untimed : ∀ operation, .expansionCostVisible operation ∉ scenario.assertions)
    (performed : ∀ region, runner.acquireRegion host scenario = .ok region →
      Progress.Alike related (runner.operate host session scenario region)
        ((runner.through other).operate again later written region))
    {run : Run σ} {second : Run τ} (ran : runner.run host session scenario = .ok run)
    (ranAgain : (runner.through other).run again later written = .ok second) :
    Run.Alike related run second := by
  have placed : (runner.through other).acquireRegion again written =
      runner.acquireRegion host scenario := placed
  cases acquired : runner.acquireRegion host scenario with
  | error error =>
    rw [acquired] at placed
    rw [run_of_refused session acquired] at ran
    rw [run_of_refused later placed] at ranAgain
    cases ran
    cases ranAgain
    exact ⟨rfl, .error (.refl _), fun _ => rfl, rfl, rfl, start⟩
  | ok region =>
    rw [acquired] at placed
    rw [run_eq_finish host session acquired] at ran
    rw [run_eq_finish again later placed] at ranAgain
    obtain ⟨result, tested, rfl⟩ := map_eq_ok_iff.mp ran
    obtain ⟨verdict, testedAgain, rfl⟩ := map_eq_ok_iff.mp ranAgain
    have alike := performed region acquired
    rw [Runner.tested] at tested testedAgain
    generalize runner.operate host session scenario region = first at *
    generalize (runner.through other).operate again later written region = second at *
    cases alike with
    | error interruptions =>
      cases tested
      cases testedAgain
      exact alike_finish answers released interruptions.execution (.error interruptions.failure)
    | ok executions =>
      have same := eq_of_checkAfterwards assertions untimed executions.session tested testedAgain
      exact alike_finish answers released executions
        (parallel_of_eq Failure.Alike.refl (fun _ => rfl) same)

end Runner

end PageMetadata
