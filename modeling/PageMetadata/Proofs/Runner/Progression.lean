import PageMetadata.Proofs.Runner.Accounting

/-! # Sequences in a passing run

The values of a sequence are counted with wrapping around, but never do so in a run that passes. What
is set has an encoding and what is read was decoded, so each value is less than `2 ^ 63`. The value of
the first iteration is the start of the sequence, and so many iterations as there can be do not lead
from there beyond the words.
-/

namespace PageMetadata

/-- The step sets the values of a sequence, or requires them of what it reads. -/
inductive Step.Counts (tag : InlineTag) (start : UInt64) : Step → Prop where
  | set (page : Nat) (expectation : Expectation) :
    Counts tag start (.call (.set page (.inlineSequence tag start)) expectation)
  | get (page : Nat) (encoding : Encoding) :
    Counts tag start (.call (.get page encoding) (.value (.inlineSequence tag start)))

/-- The inline value that an exchange writes, or has read. -/
def Exchange.inline? (exchange : Exchange) : Option InlineMetadata :=
  match exchange with
  | ⟨.setInline _ word, _⟩ => some (.decode word)
  | ⟨.getInline _, reply⟩ => reply.result.toOption.map .decode
  | _ => none

/-- Words have room for values of 63 bits only. -/
theorem Exchange.value_lt_of_inline? {exchange : Exchange} {metadata : InlineMetadata}
    (carried : exchange.inline? = some metadata) : metadata.value.toNat < 2 ^ 63 := by
  obtain ⟨word, rfl⟩ : ∃ word, InlineMetadata.decode word = metadata := by
    obtain ⟨request, reply⟩ := exchange
    cases request with
    | setInline address word => exact ⟨word, Option.some.inj carried⟩
    | getInline address =>
      obtain ⟨word, _, decoded⟩ := Option.map_eq_some_iff.mp carried
      exact ⟨word, decoded⟩
    | _ => contradiction
  rw [InlineMetadata.toNat_value_decode]
  exact Nat.mod_lt _ (by decide)

namespace Client

variable {σ : Type} {client : Client σ} {request : Request} {metadata : InlineMetadata}

/-- A request that sets an inline value carries it. -/
theorem inline?_of_request_set {address : Address} {payloadLength : Nat}
    (requested : client.request (.set address (.inline metadata)) payloadLength = .ok request)
    (reply : Reply request) : Exchange.inline? ⟨request, reply⟩ = some metadata := by
  obtain ⟨stored, encoded, rfl⟩ := map_eq_ok_iff.mp requested
  obtain ⟨word, packed, rfl⟩ := map_eq_ok_iff.mp encoded
  exact congrArg some (InlineMetadata.decode_of_encode packed)

/-- An inline value that was returned was carried by the reply. -/
theorem inline?_of_interpret {reply : Reply request}
    (interpreted : client.interpret request
      (reply.result.mapError (client.classifier.classify request.operation)) =
        .ok (.ok (some (.inline metadata)))) :
    Exchange.inline? ⟨request, reply⟩ = some metadata := by
  obtain ⟨result, writes, elapsed⟩ := reply
  cases result with
  | error errno => cases request <;> cases interpreted
  | ok content =>
    cases request with
    | getInline address =>
      cases interpreted
      rfl
    | getStructured address buffer =>
      obtain ⟨_, _, absurdity⟩ := map_eq_ok_iff.mp interpreted
      cases absurdity
    | _ => cases interpreted

end Client

namespace Runner

variable {σ : Type} {runner : Runner σ}

/-- A call that goes through makes an exchange, which carries the value of its iteration. -/
theorem exists_inline_of_perform {position : Position} {iteration : UInt32}
    {stepCall : StepCall} {expectation : Expectation} {execution next : Execution σ}
    {tag : InlineTag} {start : UInt64} (counts : (Step.call stepCall expectation).Counts tag start)
    (performed : runner.perform execution (.call position iteration stepCall expectation) =
      .ok next) :
    ∃ exchange, next.session.exchanges = execution.session.exchanges.push exchange ∧
      (Action.call position iteration stepCall expectation).Makes execution.region
        exchange.request ∧
      exchange.inline? = some ⟨tag, start + iteration.toUInt64⟩ := by
  obtain ⟨address, located, _, _, answered, accepted, rfl⟩ := performCall_eq_ok_iff.mp performed
  obtain ⟨request, requested, interpreted, session⟩ := Client.exists_request_of_call answered
  refine ⟨⟨request, (runner.client.collaborator.respond execution.session.state
    execution.session.memory request).1⟩, ?_, ?_, ?_⟩
  · change (runner.called iteration stepCall expectation execution address).2.exchanges = _
    rw [called, session]
    rfl
  · obtain ⟨_, rfl⟩ := Region.page?_eq_some_iff.mp located
    exact makes_of_request requested
  · cases counts with
    | set page expectation => exact Client.inline?_of_request_set requested _
    | get page encoding =>
      rcases accepted with none | required
      · have read := Model.isSome_of_predict none
        contradiction
      · rw [required] at interpreted
        exact Client.inline?_of_interpret interpreted

/-- Exchanges are added behind those that were made. -/
theorem exchanges_prefix_of_performAll {actions : List Action} {execution last : Execution σ}
    (performed : runner.performAll actions execution = .ok last) :
    execution.session.exchanges.toList <+: last.session.exchanges.toList := by
  refine of_performAll
    (fun reached => execution.session.exchanges.toList <+: reached.session.exchanges.toList)
    ?_ performed (List.prefix_refl _)
  intro reached next advances _ extended
  cases advances with
  | idle session _ => exact session ▸ extended
  | exchange call payloadLength request _ _ _ session _ =>
    rw [session, (runner.client.continues_exchange reached.session request).exchanges]
    exact extended.trans (List.prefix_append ..)

section Operated

variable {host : Host} {session : Session σ} {scenario : Scenario} {region : Region}
  {execution : Execution σ} {iteration : UInt32} {position : Position} {stepCall : StepCall}
  {expectation : Expectation} {tag : InlineTag} {start : UInt64}
  (operated : runner.operate host session scenario region = .ok execution)
  (counts : (Step.call stepCall expectation).Counts tag start)

include operated counts

/-- Once all steps have succeeded, each occurrence of one that counts has made its exchange. -/
theorem exists_inline_of_operate {before after : List Action}
    (split : scenario.actions region.pageCount =
      before ++ .call position iteration stepCall expectation :: after) :
    ∃ reached next exchange later,
      runner.performAll before (runner.setup host scenario region session.clearStats) =
        .ok reached ∧
      runner.perform reached (.call position iteration stepCall expectation) = .ok next ∧
      execution.session.exchanges.toList =
        reached.session.exchanges.toList ++ exchange :: later ∧
      (Action.call position iteration stepCall expectation).Makes region exchange.request ∧
      exchange.inline? = some ⟨tag, start + iteration.toUInt64⟩ := by
  rw [operate, split] at operated
  obtain ⟨reached, next, earlier, here, rest⟩ := exists_perform_of_performAll operated
  obtain ⟨exchange, exchanged, made, carried⟩ := exists_inline_of_perform counts here
  obtain ⟨later, extended⟩ := exchanges_prefix_of_performAll rest
  rw [region_performAll earlier] at made
  refine ⟨reached, next, exchange, later, earlier, here, ?_, made, carried⟩
  rw [← extended, exchanged, Array.toList_push, List.append_assoc]
  rfl

/-- The first iteration has succeeded as well, and its value is the start of the sequence. -/
theorem start_lt_of_operate
    (listed : .call position iteration stepCall expectation ∈ scenario.actions region.pageCount) :
    start.toNat < 2 ^ 63 := by
  obtain ⟨source, _⟩ := Scenario.call_mem_actions_iff.mp listed
  -- A repetition that has any iterations has a first one, where nothing is added to the start.
  obtain ⟨first, zero, source⟩ := Scenario.exists_first_of_step? source
  have performed : .call first 0 stepCall expectation ∈ scenario.actions region.pageCount :=
    Scenario.call_mem_actions_iff.mpr ⟨source, by rw [zero]; rfl⟩
  obtain ⟨before, after, split⟩ := List.append_of_mem performed
  obtain ⟨_, _, exchange, _, _, _, _, _, carried⟩ :=
    exists_inline_of_operate operated counts split
  have bound := Exchange.value_lt_of_inline? carried
  have same : start + (0 : UInt32).toUInt64 = start := UInt64.add_zero start
  rw [same] at bound
  exact bound

/-- From a start of 63 bits so many iterations as can be counted do not lead around the words. -/
theorem toNat_value_of_operate
    (listed : .call position iteration stepCall expectation ∈ scenario.actions region.pageCount) :
    (start + iteration.toUInt64).toNat = start.toNat + iteration.toNat := by
  have low := start_lt_of_operate operated counts listed
  have few := iteration.toNat_lt
  rw [UInt64.toNat_add, UInt32.toNat_toUInt64]
  apply Nat.mod_eq_of_lt
  omega

end Operated

/-- In a run that passes, each occurrence of a step that sets a value of a sequence, or reads and
requires one, writes or reads the inline value that the sequence has in its iteration: its start and
the number of the iteration, without wrapping around, and less than `2 ^ 63`. So from iteration to
iteration of a repetition the values of a step grow. -/
theorem sequences_exact_of_passed {host : Host} {session : Session σ} {scenario : Scenario}
    {run : Run σ} (ran : runner.run host session scenario = .ok run)
    (passed : run.result = .ok ()) :
    ∃ region, runner.acquireRegion host scenario = .ok region ∧
      (∀ before position iteration stepCall expectation after tag start,
        scenario.actions region.pageCount =
          before ++ .call position iteration stepCall expectation :: after →
        (Step.call stepCall expectation).Counts tag start →
        ∃ reached next exchange later metadata,
          runner.performAll before (runner.setup host scenario region session.clearStats) =
            .ok reached ∧
          runner.perform reached (.call position iteration stepCall expectation) = .ok next ∧
          run.operated.toList = reached.session.exchanges.toList ++ exchange :: later ∧
          (Action.call position iteration stepCall expectation).Makes region exchange.request ∧
          exchange.inline? = some metadata ∧
          (ValueSpec.inlineSequence tag start).resolve iteration = .inline metadata ∧
          iteration.toNat = position.iteration ∧ metadata.tag = tag ∧
          metadata.value.toNat = start.toNat + iteration.toNat ∧
          metadata.value.toNat < 2 ^ 63) ∧
      ∀ (repetition : Position) index earlier later stepCall expectation tag start first second,
        .call (repetition.within earlier index) first stepCall expectation ∈
          scenario.actions region.pageCount →
        .call (repetition.within later index) second stepCall expectation ∈
          scenario.actions region.pageCount →
        (Step.call stepCall expectation).Counts tag start → earlier < later →
        ∃ value greater,
          (ValueSpec.inlineSequence tag start).resolve first = .inline ⟨tag, value⟩ ∧
          (ValueSpec.inlineSequence tag start).resolve second = .inline ⟨tag, greater⟩ ∧
          value < greater := by
  obtain ⟨region, execution, acquired, operated, _, rfl⟩ := exists_execution_of_passed ran passed
  refine ⟨region, acquired, ?_, ?_⟩
  · intro before position iteration stepCall expectation after tag start split counts
    have listed : .call position iteration stepCall expectation ∈
        scenario.actions region.pageCount := by simp [split]
    obtain ⟨reached, next, exchange, later, earlier, here, exchanges, made, carried⟩ :=
      exists_inline_of_operate operated counts split
    exact ⟨reached, next, exchange, later, _, earlier, here, exchanges, made, carried, rfl,
      Scenario.toNat_iteration_of_mem listed, rfl, toNat_value_of_operate operated counts listed,
      Exchange.value_lt_of_inline? carried⟩
  · intro repetition index earlier later stepCall expectation tag start first second firstListed
      secondListed counts grows
    refine ⟨_, _, rfl, rfl, ?_⟩
    rw [UInt64.lt_iff_toNat_lt, toNat_value_of_operate operated counts firstListed,
      toNat_value_of_operate operated counts secondListed,
      Scenario.toNat_iteration_of_mem firstListed, Scenario.toNat_iteration_of_mem secondListed,
      Position.iteration_within, Position.iteration_within]
    omega

/-- A nested repetition counts up to the greatest value that has an encoding. -/
theorem sequence_exact_up_to_limit :
    let geometry : PageGeometry := ⟨3, by decide, by decide⟩
    let runner : Runner Simulator :=
      ⟨⟨Simulator.collaborator, .standard, .compact⟩, geometry, .lowByte, true⟩
    let host : Host := .placing ⟨0x1000⟩
    let session : Session Simulator := .start ⟨.standard, geometry, .empty⟩ .empty
    let counting : ValueSpec := .inlineSequence .pointer 0x7FFFFFFFFFFFFFFD
    let scenario := (Scenario.new "limit" .standard).withSteps
      [.loop 2 [.loop 3 [.predicted (.set 0 counting),
        .call (.get 0 .inline) (.value counting)]]]
    let last : Position := ((Position.top 0).within 1 0).within 2 1
    ∃ run, runner.run host session scenario = .ok run ∧ run.result = .ok () ∧
      ∃ region reached exchange later, runner.acquireRegion host scenario = .ok region ∧
        .call last 2 (.get 0 .inline) (.value counting) ∈ scenario.actions region.pageCount ∧
        run.operated.toList = reached ++ exchange :: later ∧
        exchange.inline? = some ⟨.pointer, 0x7FFFFFFFFFFFFFFF⟩ := by
  intro geometry runner host session counting scenario last
  have passes : (runner.run host session scenario).toOption.any
      (fun run => decide (run.result = .ok ())) = true := by
    dsimp +zetaDelta only
    decide +kernel
  obtain ⟨run, ran, shown⟩ := any_toOption_iff.mp passes
  have passed := of_decide_eq_true shown
  obtain ⟨region, acquired, exact, _⟩ := sequences_exact_of_passed ran passed
  have listed : .call last 2 (.get 0 .inline) (.value counting) ∈
      scenario.actions region.pageCount := Scenario.call_mem_actions_iff.mpr ⟨rfl, rfl⟩
  obtain ⟨before, after, split⟩ := List.append_of_mem listed
  obtain ⟨reached, _, exchange, later, metadata, _, _, exchanges, _, carried, _, _, tag, value,
    _⟩ := exact before last 2 _ _ after _ _ split (.get 0 .inline)
  have word : metadata.value = 0x7FFFFFFFFFFFFFFF := UInt64.toNat_inj.mp (value.trans (by decide))
  refine ⟨run, ran, passed, region, _, exchange, later, acquired, listed, exchanges, ?_⟩
  rw [carried, ← tag, ← word]

end Runner

end PageMetadata
