import PageMetadata.Proofs.Runner.Run

/-! # What a run can observe of its collaborator

If the answers of a collaborator depend on its state only through a projection, then so does
everything else about a run: it goes as with a collaborator that has the projected state only.
States with the same projection cannot be told apart by any scenario.
-/

namespace PageMetadata

variable {σ τ : Type}

/-- From the projected state, `part` answers and moves on as `whole` does from the full state. -/
def Collaborator.Projects (project : σ → τ) (whole : Collaborator σ) (part : Collaborator τ) :
    Prop :=
  ∀ state memory request, part.respond (project state) memory request =
    ((whole.respond state memory request).1, project (whole.respond state memory request).2)

/-- Related states answer every request alike, in whatever time, and lead to related states. -/
structure Collaborator.AnswersLike (related : σ → τ → Prop) (first : Collaborator σ)
    (second : Collaborator τ) : Prop where
  result : ∀ state other memory request, related state other →
    (first.respond state memory request).1.result = (second.respond other memory request).1.result
  writes : ∀ state other memory request, related state other →
    (first.respond state memory request).1.writes = (second.respond other memory request).1.writes
  next : ∀ state other memory request, related state other →
    related (first.respond state memory request).2 (second.respond other memory request).2

/-- The same client with another collaborator. -/
def Client.through (client : Client σ) (collaborator : Collaborator τ) : Client τ :=
  ⟨collaborator, client.classifier, client.layout⟩

theorem Client.request_through (client : Client σ) (collaborator : Collaborator τ) (call : Call)
    (payloadLength : Nat) :
    (client.through collaborator).request call payloadLength =
      client.request call payloadLength := by
  cases call with
  | get address encoding => cases encoding <;> rfl
  | _ => rfl

theorem Client.interpret_through (client : Client σ) (collaborator : Collaborator τ)
    (request : Request) (outcome : Outcome request.Content) :
    (client.through collaborator).interpret request outcome =
      client.interpret request outcome := by
  cases request with
  | getStructured address buffer => cases outcome <;> rfl
  | _ => rfl

/-- The same runner with another collaborator. -/
def Runner.through (runner : Runner σ) (collaborator : Collaborator τ) : Runner τ :=
  ⟨runner.client.through collaborator, runner.geometry, runner.pattern, runner.pinMemory⟩

def Session.map (project : σ → τ) (session : Session σ) : Session τ :=
  { session with state := project session.state }

def Execution.map (project : σ → τ) (execution : Execution σ) : Execution τ :=
  { execution with session := execution.session.map project }

def Interruption.map (project : σ → τ) (interruption : Interruption σ) : Interruption τ :=
  { interruption with execution := interruption.execution.map project }

def Progress.map (project : σ → τ) :
    Except (Interruption σ) (Execution σ) → Except (Interruption τ) (Execution τ)
  | .ok execution => .ok (execution.map project)
  | .error interruption => .error (interruption.map project)

def Run.map (project : σ → τ) (run : Run σ) : Run τ :=
  { run with session := run.session.map project }

section Client

variable {project : σ → τ} {client : Client σ} {part : Collaborator τ}
  (projects : client.collaborator.Projects project part)

include projects

theorem Client.exchange_through (session : Session σ) (request : Request) :
    (client.through part).exchange (session.map project) request =
      ((client.exchange session request).1, (client.exchange session request).2.map project) := by
  simp only [exchange, through, Session.map, projects session.state session.memory request]

theorem Client.call_through (session : Session σ) (call : Call) (payloadLength : Nat) :
    (client.through part).call (session.map project) call payloadLength =
      ((client.call session call payloadLength).1,
        (client.call session call payloadLength).2.map project) := by
  rw [call_eq, call_eq, request_through]
  cases client.request call payloadLength with
  | error error => rfl
  | ok request => simp only [exchange_through projects, interpret_through]

theorem Runner.disableAll_through (session : Session σ) (targets : List Address) :
    disableAll (client.through part) (session.map project) targets =
      (disableAll client session targets).map project := by
  induction targets generalizing session with
  | nil => rfl
  | cons target targets ih =>
    have disabled := Client.exchange_through projects session (.disable target)
    simp only [disableAll, List.foldl_cons, Client.disable, disabled]
    exact ih _

end Client

namespace Runner

variable {project : σ → τ} {runner : Runner σ} {part : Collaborator τ}
  (projects : runner.client.collaborator.Projects project part)

include projects

theorem performCall_through (occurrence : Occurrence) (iteration : UInt32) (stepCall : StepCall)
    (expectation : Expectation) (execution : Execution σ) :
    (runner.through part).performCall occurrence iteration stepCall expectation
        (execution.map project) =
      Progress.map project
        (runner.performCall occurrence iteration stepCall expectation execution) := by
  cases located : execution.region.page? stepCall.page with
  | none =>
    have same : (execution.map project).region = execution.region := rfl
    simp only [performCall, same, located]
    rfl
  | some address =>
    have called : (runner.through part).called iteration stepCall expectation
        (execution.map project) address =
          ((runner.called iteration stepCall expectation execution address).1,
            (runner.called iteration stepCall expectation execution address).2.map project) :=
      Client.call_through projects execution.session (stepCall.resolve address iteration) _
    have answered : (runner.through part).answered occurrence iteration stepCall expectation
        (execution.map project) address =
          (runner.answered occurrence iteration stepCall expectation execution address).map
            project := by
      rw [Runner.answered, called]
      rfl
    have examined (moment : String) :
        (runner.through part).examine
            (started occurrence iteration stepCall (execution.map project) address).session moment =
          runner.examine (started occurrence iteration stepCall execution address).session
            moment := rfl
    have judged (execution : Execution σ) (call : Call)
        (answer : Except CodecError (Outcome (Option MetadataValue))) :
        (runner.through part).judge (execution.map project) call expectation iteration answer =
          runner.judge execution call expectation iteration answer := rfl
    have stage : (started occurrence iteration stepCall (execution.map project) address).stage =
        (started occurrence iteration stepCall execution address).stage := rfl
    have mapped : (execution.map project).region.page? stepCall.page = some address := located
    rw [performCall_eq _ _ _ _ _ located, performCall_eq _ _ _ _ _ mapped]
    simp only [called, answered, judged, examined, stage]
    cases runner.examine _ _ with
    | error error => rfl
    | ok _ => cases runner.judge _ _ expectation iteration _ <;> rfl

theorem perform_through (execution : Execution σ) (action : Action) :
    (runner.through part).perform (execution.map project) action =
      Progress.map project (runner.perform execution action) := by
  cases action with
  | call position iteration stepCall expectation =>
    exact performCall_through projects (.ofPosition position) iteration stepCall expectation
      execution
  | read position iteration page =>
    exact performCall_through projects ⟨position, some page⟩ iteration _ .model execution
  | lifecycle position page state =>
    have region : (execution.map project).region = execution.region := rfl
    have model : (execution.map project).model = execution.model := rfl
    simp only [perform, checkLifecycle, region, model]
    cases execution.region.page? page with
    | none => rfl
    | some address =>
      by_cases held : execution.model.lifecycle address = state
      · simp only [held, if_true]
        rfl
      · simp only [held, if_false]
        rfl

theorem performAll_through (actions : List Action) (execution : Execution σ) :
    (runner.through part).performAll actions (execution.map project) =
      Progress.map project (runner.performAll actions execution) := by
  induction actions generalizing execution with
  | nil => rfl
  | cons action actions ih =>
    rw [performAll_cons, performAll_cons, perform_through projects]
    cases runner.perform execution action with
    | error interruption => rfl
    | ok reached => exact ih reached

theorem finish_through (host : Host) (execution : Execution σ) (result : Except Failure Unit) :
    (runner.through part).finish host (execution.map project) result =
      (runner.finish host execution result).map project := by
  have torn (failed : Bool) : disableAll (runner.through part).client
      (execution.map project).leaving (teardownTargets (execution.map project) failed) =
        (disableAll runner.client execution.leaving (teardownTargets execution failed)).map
          project :=
    disableAll_through projects execution.leaving (teardownTargets execution failed)
  simp only [finish, torn]
  cases result <;> rfl

/-- A run goes with the projected state as it goes with the full one. -/
theorem run_through (host : Host) (session : Session σ) (scenario : Scenario) :
    (runner.through part).run host (session.map project) scenario =
      (runner.run host session scenario).map (Run.map project) := by
  have operate (region : Region) : (runner.through part).operate host (session.map project) scenario
      region = Progress.map project (runner.operate host session scenario region) :=
    performAll_through projects (scenario.actions region.pageCount)
      (runner.setup host scenario region session.clearStats)
  cases acquired : runner.acquireRegion host scenario with
  | error error =>
    have refused : (runner.through part).acquireRegion host scenario = .error error := acquired
    rw [run_of_refused _ acquired, run_of_refused _ refused]
    rfl
  | ok region =>
    have again : (runner.through part).acquireRegion host scenario = .ok region := acquired
    rw [run_of_acquired _ acquired, run_of_acquired _ again]
    cases operated : runner.operate host session scenario region with
    | error interruption =>
      simp only [operate, operated, Progress.map]
      exact congrArg Except.ok (finish_through projects host interruption.execution
        (.error ⟨interruption.execution.stage, interruption.error⟩))
    | ok execution =>
      have check : (runner.through part).checkAfterwards scenario (execution.map project).session =
          runner.checkAfterwards scenario execution.session := rfl
      simp only [operate, operated, Progress.map, check]
      cases runner.checkAfterwards scenario execution.session with
      | error error => rfl
      | ok result => exact congrArg Except.ok (finish_through projects host execution result)

end Runner

/-- Related states are answered alike, and the states that they lead to are related again. -/
def Collaborator.Respects (collaborator : Collaborator σ) (related : Setoid σ) : Prop :=
  ∀ first second memory request, related first second →
    (collaborator.respond first memory request).1 =
        (collaborator.respond second memory request).1 ∧
      related (collaborator.respond first memory request).2
        (collaborator.respond second memory request).2

/-- The collaborator on classes of related states. -/
def Collaborator.quotient (collaborator : Collaborator σ) {related : Setoid σ}
    (respects : collaborator.Respects related) : Collaborator (Quotient related) where
  respond state memory request := Quotient.liftOn state
    (fun state => ((collaborator.respond state memory request).1,
      Quotient.mk related (collaborator.respond state memory request).2))
    fun first second same => by
      obtain ⟨reply, next⟩ := respects first second memory request same
      exact Prod.ext reply (Quotient.sound next)

/-- What a run shows of itself, its collaborator apart. -/
def Run.erase (run : Run σ) : Run Unit := run.map fun _ => ()

/-- No run can tell related states apart. -/
theorem Runner.run_erase_eq {runner : Runner σ} {related : Setoid σ}
    (respects : runner.client.collaborator.Respects related) {first second : Session σ}
    (same : related first.state second.state) (host : Host) (scenario : Scenario) :
    (runner.run host first scenario).map Run.erase =
      (runner.run host second scenario).map Run.erase := by
  have projects : runner.client.collaborator.Projects (Quotient.mk related)
      (runner.client.collaborator.quotient respects) := fun _ _ _ => rfl
  have erase (result : Except ArithmeticError (Run σ)) : result.map Run.erase =
      (result.map (Run.map (Quotient.mk related))).map Run.erase := by
    cases result <;> rfl
  have classes : Quotient.mk related first.state = Quotient.mk related second.state :=
    Quotient.sound same
  have left := run_through projects host (.start first.state .empty) scenario
  have right := run_through projects host (.start second.state .empty) scenario
  simp only [Session.map, Session.start, classes] at left right
  calc (runner.run host first scenario).map Run.erase
      = ((runner.run host (.start first.state .empty) scenario).map
          (Run.map (Quotient.mk related))).map Run.erase := erase _
    _ = ((runner.run host (.start second.state .empty) scenario).map
          (Run.map (Quotient.mk related))).map Run.erase :=
        congrArg (Except.map Run.erase) (left.symm.trans right)
    _ = (runner.run host second scenario).map Run.erase := (erase _).symm

end PageMetadata
