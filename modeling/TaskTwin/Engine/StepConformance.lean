import TaskTwin.Engine.EngineRules
import TaskTwin.Engine.RunInvariant

/-!
# Steps follow the run model

What the engine does with one step of a prepared workflow, from the ready
state before it to the ready state after it or to the end of the run, is a
run of the model.
-/

namespace TaskTwin.Engine

open Effect Effect.Program Schema Workflow Recovery

/-- How the race stands when a step is about to be closed. -/
inductive Settled (step : WorkflowStep) :
    Closing → Option SafeExecutionError → TerminationRace → Prop where
  | succeeded {race : TerminationRace} :
      Racing (.undecided none) race → Settled step .succeeded none race
  | failed {race : TerminationRace} (stepError : SafeExecutionError) :
      Racing (.undecided none) race →
      Settled step (.own (stepTermination step stepError)) (some stepError) race
  | recorded {race : TerminationRace} (own : PrimaryTermination) :
      Racing (.undecided (some own)) race → Settled step (.own own) none race
  | chosen {race : TerminationRace} (primary : PrimaryTermination) :
      Racing (.decided primary) race →
      Settled step (.chosen primary) none race

variable
    {dependencies : EngineDependencies}
    {executionId : Uuid}
    {prepared : PreparedWorkflowExecution dependencies}
    {core : EngineCore}
    {race : TerminationRace}
    {progress : SafeProgressEmitter}
    {index : Nat}
    {step : WorkflowStep}

/-- The step waits to be closed with an error that the engine carries on. -/
def ReachesClosing
    (executionId : Uuid)
    (prepared : PreparedWorkflowExecution dependencies)
    (index : Nat)
    (step : WorkflowStep)
    (stepError : Option SafeExecutionError)
    (world : EngineWorld) :
    Prop :=
  ∃ closing,
    RunReaches executionId (.executed prepared)
        ⟨.closing index closing, world.core⟩ ∧
      Settled step closing stepError world.race

/-- The step is done and the next one may be opened. -/
def ReachesReady
    (executionId : Uuid)
    (prepared : PreparedWorkflowExecution dependencies)
    (index : Nat)
    (world : EngineWorld) :
    Prop :=
  RunReaches executionId (.executed prepared) ⟨.ready index, world.core⟩ ∧
    Racing (.undecided none) world.race

/-- What handling a running step leads to. -/
def ReachesStepEnd
    (executionId : Uuid)
    (prepared : PreparedWorkflowExecution dependencies)
    (index : Nat)
    (step : WorkflowStep) :
    StepEnd → EngineWorld → Prop
  | .continued, world => ReachesReady executionId prepared (index + 1) world
  | .closing stepError, world =>
      ReachesClosing executionId prepared index step stepError world

section Approvals

variable
    {β : Type}
    {post : Outcome EngineError β → EngineWorld → Prop}
    {binding : ApprovalBinding}
    {attempt : SafeStepAttempt}

theorem awaitApproval_then
    {status : RaceStatus}
    {next : ApprovalCoordinatorResult → EngineProgram β}
    {request : ApprovalCoordinatorRequest}
    (racing : Racing status race)
    (answered :
      ∀ approval race',
        Racing status race' →
        (next approval).Ensures post
          ⟨(core.note (.approvalRequested index request)).note
              (.approvalAnswered index (.ok approval)),
            race', progress⟩)
    (failed :
      ∀ error race',
        Racing status race' →
        post (.threw error)
          ⟨(core.note (.approvalRequested index request)).note
              (.approvalAnswered index (.error error)),
            race', progress⟩) :
    (awaitApproval index request >>= next).Ensures post
      ⟨core, race, progress⟩ := by
  unfold awaitApproval
  refine Ensures.assoc (updateCore_then ?_)
  refine environment_then racing ?_
  intro reply race' racing'
  cases answer : reply.approval with
  | ok approval => simpa [answer] using answered approval race' racing'
  | error error => simpa [answer] using failed error race' racing'

/-- Asking for an approval in a step that has just begun its attempt. -/
theorem requestApproval_then
    {before opened : EngineCore}
    {startedAtMs openedAt begunAt timeoutMs remainingTimeMs : Nat}
    {next : ApprovalCoordinatorResult → EngineProgram β}
    (reaches :
      RunReaches executionId (.executed prepared) ⟨.ready index, before⟩)
    (racing : Racing (.undecided none) race)
    (atIndex : prepared.workflow.steps[index]? = some step)
    (isApproval : step.type = .approval)
    (bound :
      requireApprovalBinding prepared.workflow step.id = some binding)
    (openedCore :
      opened =
        (before.startRecord index startedAtMs).tellStep executionId openedAt
          index step .running none none)
    (isAttempt : attempt = newAttempt opened index .initial none begunAt)
    (answered :
      ∀ asked approval race' progress',
        RunReaches executionId (.executed prepared)
          ⟨.awaitingApproval index binding attempt, asked⟩ →
        Racing (.undecided none) race' →
        (next approval).Ensures post
          ⟨asked.approvalTold executionId index binding approval,
            race', progress'⟩)
    (failed :
      ∀ asked error race' progress',
        RunReaches executionId (.executed prepared)
          ⟨.awaitingApproval index binding attempt, asked⟩ →
        Racing (.undecided none) race' →
        post (.threw error)
          ⟨asked.note (.approvalAnswered index (.error error)), race',
            progress'⟩) :
    (requestApproval executionId prepared index step timeoutMs remainingTimeMs
        binding >>= next).Ensures post
      ⟨opened.tellBegun executionId index step attempt, race, progress⟩ := by
  obtain ⟨executing, ready⟩ := reaches.shape
  have working := ready.open atIndex executionId startedAtMs openedAt
  have isRunning : opened.run = .running := by
    rw [openedCore]
    exact executing.isRun
  rw [← openedCore] at working
  have begun := working.tellBegun executionId step attempt
  unfold requestApproval
  refine Ensures.assoc (transitionStep_then racing ?_ ?_)
  · exact begun.allows atIndex (by decide)
  intro waitsAt race progress racing
  refine Ensures.assoc (transitionRun_then racing ?_ ?_)
  · change .waitingForApproval ∈ runTransitions opened.run
    rw [isRunning]
    decide
  intro runWaitsAt race progress racing
  refine Ensures.assoc (nowMs_then racing ?_)
  intro now race racing
  refine Ensures.assoc (nowMs_then racing ?_)
  intro askedAt race racing
  refine Ensures.assoc (emit_then racing ?_)
  intro race progress racing
  have asks (request : ApprovalCoordinatorRequest) :=
    reaches.next (.approvalRequested startedAtMs openedAt begunAt waitsAt
      runWaitsAt askedAt request rfl atIndex isApproval bound openedCore
      isAttempt)
  refine Ensures.assoc (awaitApproval_then racing ?_ ?_)
  · intro approval race racing
    refine Ensures.assoc (emit_then racing ?_)
    intro race progress racing
    refine Ensures.pureThen ?_
    exact answered _ approval race progress (asks _) racing
  · intro error race racing
    exact failed _ error race progress (asks _) racing

variable {approval : ApprovalCoordinatorResult}

/-- An approval that is granted before anything ends the run. -/
theorem grantApproval_returns
    (reaches :
      RunReaches executionId (.executed prepared)
        ⟨.awaitingApproval index binding attempt, core⟩)
    (racing : Racing (.undecided none) race)
    (atIndex : prepared.workflow.steps[index]? = some step)
    (approved : approval.decision = .approved) :
    (grantApproval executionId dependencies index step attempt).Returns
      (ReachesStepEnd executionId prepared index step)
      ⟨core.approvalTold executionId index binding approval,
        race, progress⟩ := by
  obtain ⟨executing, history, working⟩ := reaches.shape
  have told :=
    (working.note (.approvalAnswered index (.ok approval))).tell executionId
      approval.decidedAt
      (.approvalStatusChanged binding.approvalStepId binding.gatedStepId
        binding.riskLevel approval.decision.status (some approval.decision))
  unfold grantApproval
  refine transitionRun_then racing ?_ ?_
  · change .running ∈ runTransitions core.run
    rw [executing.isRun]
    decide
  intro ranAt race progress racing
  refine nowMs_then racing ?_
  intro finishedAtMs race racing
  refine updateCore_then ?_
  have finished :=
    (told.tellRun executionId ranAt .running none).finishRecord finishedAtMs
  refine transitionStep_then racing ?_ ?_
  · exact finished.allows atIndex (by decide)
  intro succeededAt race progress racing
  refine finishAttempt_then racing ?_
  intro attemptFinishedAt race progress racing
  have grants :=
    reaches.next (.approvalGranted approval ranAt finishedAtMs succeededAt
      attemptFinishedAt atIndex approved)
  exact Returns.pure ⟨grants, racing⟩

/-- An approval that is refused, or that comes too late. -/
theorem refuseApproval_returns
    {refusal : ApprovalRefusal}
    (reaches :
      RunReaches executionId (.executed prepared)
        ⟨.awaitingApproval index binding attempt, core⟩)
    (racing : Racing (.undecided none) race)
    (atIndex : prepared.workflow.steps[index]? = some step)
    (refused : approvalRefusal approval.decision = some refusal) :
    (refuseApproval executionId dependencies index step attempt
        approval.decision).Returns
      (ReachesStepEnd executionId prepared index step)
      ⟨core.approvalTold executionId index binding approval,
        race, progress⟩ := by
  unfold refuseApproval
  rw [refused]
  refine nowMs_then racing ?_
  intro atMs race racing
  refine updateRace_then ?_
  have recorded :=
    racing.recordOwn
      { cause := refusal.cause
        atMs
        error := safeError refusal.code
        stepId := some step.id }
  refine finishAttempt_then recorded ?_
  intro finishedAt race progress racing
  have refuses :=
    reaches.next (.approvalRefused approval finishedAt atIndex refused)
  exact Returns.pure ⟨_, refuses, .recorded _ racing⟩

theorem refuseApproval_late
    {primary : PrimaryTermination}
    (reaches :
      RunReaches executionId (.executed prepared)
        ⟨.awaitingApproval index binding attempt, core⟩)
    (racing : Racing (.decided primary) race)
    (external : External primary)
    (atIndex : prepared.workflow.steps[index]? = some step) :
    (refuseApproval executionId dependencies index step attempt
        approval.decision).Returns
      (ReachesStepEnd executionId prepared index step)
      ⟨(core.approvalTold executionId index binding approval).chosen primary,
        race, progress⟩ := by
  unfold refuseApproval
  cases refused : approvalRefusal approval.decision with
  | none =>
      have approved : approval.decision = .approved := by
        cases decision : approval.decision <;>
          simp [decision, approvalRefusal] at refused
        rfl
      have overrules :=
        reaches.next (.approvalOverruled approval approved external)
      exact Returns.pure ⟨_, overrules, .chosen primary racing⟩
  | some refusal =>
      refine nowMs_then racing ?_
      intro atMs race racing
      refine updateRace_then ?_
      refine finishAttempt_then (racing.recordLate _) ?_
      intro finishedAt race progress racing
      have refuses :=
        reaches.next
          (.approvalRefusedLate approval finishedAt atIndex refused external)
      exact Returns.pure ⟨_, refuses, .chosen primary racing⟩

theorem settleApproval_returns
    (reaches :
      RunReaches executionId (.executed prepared)
        ⟨.awaitingApproval index binding attempt, core⟩)
    (racing : Racing (.undecided none) race)
    (atIndex : prepared.workflow.steps[index]? = some step) :
    (settleApproval executionId dependencies index step attempt
        approval).Returns
      (ReachesStepEnd executionId prepared index step)
      ⟨core.approvalTold executionId index binding approval,
        race, progress⟩ := by
  have unended := reaches.shape.1.unended
  unfold settleApproval
  refine recordDeadlineIfElapsed_then racing ?_
  intro race racing
  refine choosePrimary_then racing unended ?_ ?_
  · intro _
    by_cases approved : approval.decision = .approved
    · rw [if_pos ⟨approved, rfl⟩]
      exact grantApproval_returns reaches racing atIndex approved
    · rw [if_neg fun granted => approved granted.1]
      have isRefused :
          ∃ refusal, approvalRefusal approval.decision = some refusal := by
        cases decision : approval.decision with
        | approved => exact absurd decision approved
        | rejected => exact ⟨_, rfl⟩
        | expired => exact ⟨_, rfl⟩
        | cancelled => exact ⟨_, rfl⟩
        | invalidated => exact ⟨_, rfl⟩
      obtain ⟨refusal, refused⟩ := isRefused
      exact refuseApproval_returns reaches racing atIndex refused
  · intro primary race asked racing
    have external : External primary := by simpa using asked
    rw [if_neg (by simp)]
    exact refuseApproval_late reaches racing external atIndex

theorem abandonApproval_returns
    {error : EngineError}
    (reaches :
      RunReaches executionId (.executed prepared)
        ⟨.awaitingApproval index binding attempt, core⟩)
    (racing : Racing (.undecided none) race)
    (atIndex : prepared.workflow.steps[index]? = some step) :
    (abandonApproval executionId dependencies index step attempt
        error).Returns
      (ReachesStepEnd executionId prepared index step)
      ⟨core.note (.approvalAnswered index (.error error)), race,
        progress⟩ := by
  unfold abandonApproval
  refine finishAttempt_then racing ?_
  intro finishedAt race progress racing
  have fails :=
    reaches.next (.approvalFailed error finishedAt atIndex rfl)
  exact Returns.pure ⟨_, fails, .failed _ racing⟩

end Approvals

/-- An approval step, from its opening on. -/
theorem runApprovalStep_returns
    {before opened : EngineCore}
    {startedAtMs openedAt timeoutMs remainingTimeMs : Nat}
    (reaches :
      RunReaches executionId (.executed prepared) ⟨.ready index, before⟩)
    (racing : Racing (.undecided none) race)
    (atIndex : prepared.workflow.steps[index]? = some step)
    (isApproval : step.type = .approval)
    (openedCore :
      opened =
        (before.startRecord index startedAtMs).tellStep executionId openedAt
          index step .running none none) :
    (runApprovalStep executionId prepared index step timeoutMs
        remainingTimeMs).Returns
      (ReachesStepEnd executionId prepared index step)
      ⟨opened, race, progress⟩ := by
  obtain ⟨coordinated, binding, _, bound, _⟩ :=
    prepared.approval_binding atIndex isApproval
  unfold runApprovalStep
  refine beginAttempt_then racing ?_
  intro attempt begunAt race progress isAttempt racing
  refine Ensures.tryCatch ?_
  unfold coordinateApproval
  rw [if_pos coordinated, bound]
  refine requestApproval_then reaches racing atIndex isApproval bound
    openedCore isAttempt ?_ ?_
  · intro asked approval race progress waits racing
    have settles :=
      @settleApproval_returns _ _ _ _ _ progress _ _ _ _ approval
        waits racing atIndex
    refine Ensures.mono settles ?_
    rintro outcome world ⟨stepEnd, rfl, reached⟩
    exact ⟨stepEnd, rfl, reached⟩
  · intro asked error race progress waits racing
    exact abandonApproval_returns waits racing atIndex

section Attempts

variable
    {β : Type}
    {post : Outcome EngineError β → EngineWorld → Prop}
    {attempt : SafeStepAttempt}

/-- Calling the adapter for an attempt that has just been begun. -/
theorem callAdapter_then
    {before : EngineCore}
    {trigger : RetryTrigger}
    {repairRequestId : Option Uuid}
    {startedAt : Nat}
    {next : AdapterStepOutput → EngineProgram β}
    (reaches :
      RunReaches executionId (.executed prepared)
        ⟨.attempting index trigger repairRequestId, before⟩)
    (racing : Racing (.undecided none) race)
    (atIndex : prepared.workflow.steps[index]? = some step)
    (isAttempt :
      attempt = newAttempt before index trigger repairRequestId startedAt)
    (answered :
      ∀ asked output race',
        RunReaches executionId (.executed prepared)
          ⟨.executing index attempt, asked⟩ →
        Racing (.undecided none) race' →
        (next output).Ensures post
          ⟨asked.note (.stepAnswered index (.ok output)), race', progress⟩)
    (failed :
      ∀ asked error race',
        RunReaches executionId (.executed prepared)
          ⟨.executing index attempt, asked⟩ →
        Racing (.undecided none) race' →
        post (.threw error)
          ⟨asked.note (.stepAnswered index (.error error)), race',
            progress⟩) :
    (callAdapter prepared index step attempt >>= next).Ensures post
      ⟨before.tellBegun executionId index step attempt, race, progress⟩ := by
  unfold callAdapter
  refine Ensures.assoc (nowMs_then racing ?_)
  intro now race racing
  refine Ensures.assoc (Ensures.getThen (Ensures.assoc (updateCore_then ?_)))
  refine environment_then racing ?_
  intro reply race racing
  have isTrigger : attempt.trigger = trigger := by
    rw [isAttempt]
    rfl
  have asks
      (context : AdapterStepContext)
      (ofStep : context.stepIndex = index ∧ context.step = step)
      (ofAttempt :
        context.trigger = trigger ∧
          context.attemptNumber = attempt.attemptNumber) :=
    reaches.next
      (.attemptBegun context startedAt atIndex isAttempt ofStep ofAttempt)
  cases answer : reply.executed with
  | ok output =>
      simp only [andThen_returned]
      exact answered _ output race (asks _ ⟨rfl, rfl⟩ ⟨isTrigger, rfl⟩) racing
  | error error =>
      simp only [andThen_threw]
      exact failed _ error race (asks _ ⟨rfl, rfl⟩ ⟨isTrigger, rfl⟩) racing

theorem storeOutput_then
    {locator : Option ElementLocator}
    {source : ExtractSource}
    {outputName : Identifier}
    {outputLabel : Option NonEmptyString}
    {timeoutMs :
      Option (BoundedNat minVerificationTimeoutMs maxVerificationTimeoutMs)}
    {output : AdapterStepOutput}
    {produced : ProducedOutput}
    {next : Unit → EngineProgram β}
    (reaches :
      RunReaches executionId (.executed prepared)
        ⟨.executing index attempt, core⟩)
    (racing : Racing (.undecided none) race)
    (atIndex : prepared.workflow.steps[index]? = some step)
    (isExtract :
      step.action = .extract locator source outputName outputLabel timeoutMs)
    (typed : outputTypeForExtractStep source = some produced.outputType)
    (stored :
      ∀ judged race' progress',
        RunReaches executionId (.executed prepared)
          ⟨.judging index attempt none, judged⟩ →
        Racing (.undecided none) race' →
        (next ()).Ensures post ⟨judged, race', progress'⟩)
    (refused :
      ∀ code effectCertainty,
        failedAttemptStatus code = .failed →
        post (.threw (.safe code none effectCertainty))
          ⟨(core.note (.stepAnswered index (.ok output))).verifyRecord index
              output.verification,
            race, progress⟩) :
    (storeOutput executionId dependencies step outputName produced >>=
        next).Ensures post
      ⟨(core.note (.stepAnswered index (.ok output))).verifyRecord index
          output.verification,
        race, progress⟩ := by
  obtain ⟨definition, defined, isName, isType⟩ :=
    outputOfStep_extract isExtract typed index
  have sameOutputs :
      ((core.note (.stepAnswered index (.ok output))).verifyRecord index
          output.verification).outputs =
        core.outputs := by
    rw [EngineCore.verifyRecord_outputs]
    rfl
  unfold storeOutput
  refine Ensures.assoc (Ensures.getThen ?_)
  simp only [sameOutputs]
  cases set : core.outputs.set outputName produced.outputType
      produced.value with
  | error code =>
      have ordinary : failedAttemptStatus code = .failed := by
        rcases RuntimeOutputStore.set_refused set with rfl | rfl | rfl <;> rfl
      exact Ensures.bind (Ensures.throwing (refused code none ordinary))
  | ok outputs =>
      rw [← isName, ← isType] at set
      refine Ensures.assoc (updateCore_then (Ensures.assoc ?_))
      refine nowMs_then racing ?_
      intro timestamp race racing
      refine emit_then racing ?_
      intro race progress racing
      have produces :=
        reaches.next
          (.outputProduced output produced.value timestamp atIndex defined set)
      rw [isName, isType] at produces
      exact stored _ race progress produces racing

theorem recordProducedOutput_then
    {output : AdapterStepOutput}
    {next : Unit → EngineProgram β}
    (reaches :
      RunReaches executionId (.executed prepared)
        ⟨.executing index attempt, core⟩)
    (racing : Racing (.undecided none) race)
    (atIndex : prepared.workflow.steps[index]? = some step)
    (stored :
      ∀ judged race' progress',
        RunReaches executionId (.executed prepared)
          ⟨.judging index attempt none, judged⟩ →
        Racing (.undecided none) race' →
        (next ()).Ensures post ⟨judged, race', progress'⟩)
    (refused :
      ∀ code effectCertainty,
        failedAttemptStatus code = .failed →
        post (.threw (.safe code none effectCertainty))
          ⟨(core.note (.stepAnswered index (.ok output))).verifyRecord index
              output.verification,
            race, progress⟩) :
    (recordProducedOutput executionId dependencies step
        output.producedOutput >>= next).Ensures post
      ⟨(core.note (.stepAnswered index (.ok output))).verifyRecord index
          output.verification,
        race, progress⟩ := by
  unfold recordProducedOutput
  split
  case h_1 locator source outputName outputLabel timeoutMs produced isExtract
      isProduced =>
    split
    · exact Ensures.bind (Ensures.throwing (refused _ none rfl))
    · rename_i matched
      have typed :
          outputTypeForExtractStep source = some produced.outputType := by
        by_contra different
        exact matched (Or.inr fun same => different same.symm)
      exact storeOutput_then reaches racing atIndex isExtract typed stored
        refused
  case h_2 =>
    exact Ensures.bind (Ensures.throwing (refused _ (some .readOnly) rfl))
  case h_3 =>
    exact Ensures.bind (Ensures.throwing (refused _ none rfl))
  case h_4 _ notExtracted =>
    have noOutput : step.type ≠ .extract := by
      intro isExtract
      rw [WorkflowStep.type] at isExtract
      cases action : step.action with
      | extract locator source outputName outputLabel timeoutMs =>
          exact notExtracted _ _ _ _ _ action
      | _ => simp [action, WorkflowStepAction.type] at isExtract
    have answers :=
      reaches.next (.adapterAnswered output atIndex noOutput)
    exact Ensures.pureThen (stored _ race progress answers racing)

/-- What an attempt leads to, once the adapter has answered. -/
def ReachesJudging
    (executionId : Uuid)
    (prepared : PreparedWorkflowExecution dependencies)
    (index : Nat)
    (attempt : SafeStepAttempt)
    (failure : Option AttemptFailure)
    (world : EngineWorld) :
    Prop :=
  RunReaches executionId (.executed prepared)
      ⟨.judging index attempt failure, world.core⟩ ∧
    Racing (.undecided none) world.race

theorem catchAttempt_returns
    {error : EngineError}
    (reaches :
      RunReaches executionId (.executed prepared)
        ⟨.executing index attempt, core⟩)
    (racing : Racing (.undecided none) race) :
    (catchAttempt index error).Returns
      (ReachesJudging executionId prepared index attempt)
      ⟨core.note (.stepAnswered index (.error error)), race, progress⟩ := by
  have throws := reaches.next (.adapterThrew error)
  unfold catchAttempt
  refine recordVerification_then ?_
  exact Returns.pure ⟨throws, racing⟩

theorem performAttempt_returns
    {before : EngineCore}
    {trigger : RetryTrigger}
    {repairRequestId : Option Uuid}
    {startedAt : Nat}
    (reaches :
      RunReaches executionId (.executed prepared)
        ⟨.attempting index trigger repairRequestId, before⟩)
    (racing : Racing (.undecided none) race)
    (atIndex : prepared.workflow.steps[index]? = some step)
    (isAttempt :
      attempt = newAttempt before index trigger repairRequestId startedAt) :
    (performAttempt executionId prepared index step attempt).Returns
      (ReachesJudging executionId prepared index attempt)
      ⟨before.tellBegun executionId index step attempt, race, progress⟩ := by
  unfold performAttempt
  refine Ensures.tryCatch ?_
  refine callAdapter_then reaches racing atIndex isAttempt ?_ ?_
  · intro asked output race asks racing
    refine recordVerification_then ?_
    refine recordProducedOutput_then asks racing atIndex ?_ ?_
    · intro judged race progress judges racing
      exact Ensures.pure ⟨none, rfl, judges, racing⟩
    · intro code effectCertainty ordinary
      have refuses :=
        asks.next
          (.outputRefused output
            (.refused code (effectCertainty.getD .unknown) ordinary))
      exact Returns.pure ⟨refuses, racing⟩
  · intro asked error race asks racing
    exact catchAttempt_returns asks racing

end Attempts

section Repairs

variable
    {β : Type}
    {post : Outcome EngineError β → EngineWorld → Prop}
    {attempt : SafeStepAttempt}
    {failure : AttemptFailure}
    {proposalOnly : Bool}

/-- Another attempt may be begun, after at least so many earlier ones. -/
def ReachesAttempting
    (executionId : Uuid)
    (prepared : PreparedWorkflowExecution dependencies)
    (index : Nat)
    (trigger : RetryTrigger)
    (repairRequestId : Option Uuid)
    (earlier : Nat)
    (world : EngineWorld) :
    Prop :=
  RunReaches executionId (.executed prepared)
      ⟨.attempting index trigger repairRequestId, world.core⟩ ∧
    Racing (.undecided none) world.race ∧
    earlier ≤ (world.core.attemptsAt index).length

/-- What waiting for a repair leads to. -/
def ReachesRepairEnd
    (executionId : Uuid)
    (prepared : PreparedWorkflowExecution dependencies)
    (index : Nat)
    (step : WorkflowStep)
    (earlier : Nat) :
    RepairEnd → EngineWorld → Prop
  | .retrying repairRequestId, world =>
      ReachesAttempting executionId prepared index .manualRetry
        (some repairRequestId) earlier world
  | .ended stepError, world =>
      ReachesClosing executionId prepared index step stepError world

theorem EngineCore.attemptsAt_tellStep
    (core : EngineCore)
    (timestamp moved : Nat)
    (status : WorkflowEngineStepStatus)
    (error : Option SafeExecutionError)
    (reason : Option SkippedStepReason) :
    (core.tellStep executionId timestamp moved step status error
        reason).attemptsAt index =
      core.attemptsAt index := by
  simp only [EngineCore.attemptsAt, EngineCore.tellStep, EngineCore.setStep,
    EngineCore.updateRecord, EngineCore.tell, EngineCore.note,
    List.getElem?_modify, Option.map_eq_map]
  cases core.records[index]? with
  | none => rfl
  | some record =>
      simp only [Option.map_some, Option.bind_some]
      split <;> rfl

theorem awaitRepair_then
    {status : RaceStatus}
    {request : RecoveryCoordinatorRequest}
    {next : RecoveryCoordinatorResult → EngineProgram β}
    (racing : Racing status race)
    (answered :
      ∀ repair race',
        Racing status race' →
        (next repair).Ensures post
          ⟨(core.note (.repairRequested request)).note
              (.repairAnswered request.stepIndex request.attemptNumber
                (.ok repair)),
            race', progress⟩)
    (failed :
      ∀ error race',
        Racing status race' →
        post (.threw error)
          ⟨(core.note (.repairRequested request)).note
              (.repairAnswered request.stepIndex request.attemptNumber
                (.error error)),
            race', progress⟩) :
    (awaitRepair request >>= next).Ensures post ⟨core, race, progress⟩ := by
  unfold awaitRepair
  refine Ensures.assoc (updateCore_then ?_)
  refine environment_then racing ?_
  intro reply race' racing'
  cases answer : reply.repair with
  | ok repair =>
      simp only [andThen_returned]
      exact answered repair race' racing'
  | error error =>
      simp only [andThen_threw]
      exact failed error race' racing'

/-- What asking for a repair leads to. -/
def ReachesRepairAnswer
    (executionId : Uuid)
    (prepared : PreparedWorkflowExecution dependencies)
    (index : Nat)
    (attempt : SafeStepAttempt)
    (failure : AttemptFailure)
    (proposalOnly : Bool)
    (answer : Option RecoveryCoordinatorResult)
    (world : EngineWorld) :
    Prop :=
  ∃ asked,
    RunReaches executionId (.executed prepared)
        ⟨.awaitingRepair index attempt failure proposalOnly, asked⟩ ∧
      Racing (.undecided none) world.race ∧
      match answer with
      | some repair =>
          world.core =
            asked.note
              (.repairAnswered index attempt.attemptNumber (.ok repair))
      | none =>
          ∃ error,
            world.core =
              asked.note
                (.repairAnswered index attempt.attemptNumber (.error error))

/-- Asking for a repair after a failed attempt was finished. -/
theorem requestRepair_returns
    {judged : EngineCore}
    {decision : RetryPolicyDecision}
    {finishedAt : Nat}
    (reaches :
      RunReaches executionId (.executed prepared)
        ⟨.judging index attempt (some failure), judged⟩)
    (racing : Racing (.undecided none) race)
    (atIndex : prepared.workflow.steps[index]? = some step)
    (decided :
      decision =
        decideRetry
          (retryPolicyInput prepared step failure (judged.attemptsAt index)))
    (repairs : repairDisposition decision.disposition = some proposalOnly) :
    (requestRepair executionId prepared index step attempt failure).Returns
      (ReachesRepairAnswer executionId prepared index attempt failure
        proposalOnly)
      ⟨judged.tellFailed executionId finishedAt index step attempt failure
        decision.retryAllowed,
        race, progress⟩ := by
  obtain ⟨executing, _, attempts, _, working⟩ := reaches.shape
  have finished :=
    working.tellFailed executionId finishedAt step failure decision.retryAllowed
  unfold requestRepair
  refine transitionStep_then racing ?_ ?_
  · exact finished.allows atIndex (by decide)
  intro waitsAt race progress racing
  refine transitionRun_then racing ?_ ?_
  · change .waitingForRepair ∈ runTransitions judged.run
    rw [executing.isRun]
    decide
  intro runWaitsAt race progress racing
  refine nowMs_then racing ?_
  intro now race racing
  refine nowMs_then racing ?_
  intro later race racing
  refine Ensures.getThen (Ensures.orNone (Ensures.tail ?_))
  have asks (request : RecoveryCoordinatorRequest) :=
    reaches.next
      (.repairRequested request finishedAt waitsAt runWaitsAt rfl atIndex
        decided repairs)
  refine awaitRepair_then racing ?_ ?_
  · intro repair race racing
    exact Ensures.pure ⟨some repair, rfl, _, asks _, racing, rfl⟩
  · intro error race racing
    exact ⟨none, rfl, _, asks _, racing, error, rfl⟩

variable {repair : RecoveryCoordinatorResult}

theorem endAfterRepair_returns
    {earlier : Nat}
    (reaches :
      RunReaches executionId (.executed prepared)
        ⟨.awaitingRepair index attempt failure proposalOnly, core⟩)
    (racing : Racing (.undecided none) race)
    (atIndex : prepared.workflow.steps[index]? = some step)
    (refuses : ¬ (proposalOnly = false ∧ repair.decision = .retry)) :
    (endAfterRepair step proposalOnly repair.decision).Returns
      (ReachesRepairEnd executionId prepared index step earlier)
      ⟨core.repairTold executionId index step attempt failure proposalOnly
        repair,
        race, progress⟩ := by
  have isTermination :
      ∃ cause code,
        repairTermination proposalOnly repair.decision =
          some (cause, code) := by
    cases decision : repair.decision with
    | retry =>
        cases proposalOnly with
        | false => exact absurd ⟨rfl, decision⟩ refuses
        | true => exact ⟨_, _, rfl⟩
    | abort => exact ⟨_, _, rfl⟩
    | expired => exact ⟨_, _, rfl⟩
    | cancelled => exact ⟨_, _, rfl⟩
    | invalidated => exact ⟨_, _, rfl⟩
  obtain ⟨cause, code, ends⟩ := isTermination
  have ended := reaches.next (.repairEnded repair atIndex ends)
  unfold endAfterRepair
  rw [ends]
  refine nowMs_then racing ?_
  intro atMs race racing
  refine updateRace_then ?_
  have recorded :=
    racing.recordOwn
      { cause, atMs, error := safeError code, stepId := some step.id }
  exact Returns.pure ⟨_, ended, .recorded _ recorded⟩

theorem endAfterRepair_late
    {primary : PrimaryTermination}
    {earlier : Nat}
    (reaches :
      RunReaches executionId (.executed prepared)
        ⟨.awaitingRepair index attempt failure proposalOnly, core⟩)
    (racing : Racing (.decided primary) race)
    (external : External primary)
    (atIndex : prepared.workflow.steps[index]? = some step) :
    (endAfterRepair step proposalOnly repair.decision).Returns
      (ReachesRepairEnd executionId prepared index step earlier)
      ⟨(core.repairTold executionId index step attempt failure proposalOnly
        repair).chosen primary,
        race, progress⟩ := by
  have overruled := reaches.next (.repairOverruled repair atIndex external)
  unfold endAfterRepair
  split
  · exact Returns.pure ⟨_, overruled, .chosen primary racing⟩
  · refine nowMs_then racing ?_
    intro atMs race racing
    refine updateRace_then ?_
    exact Returns.pure ⟨_, overruled, .chosen primary (racing.recordLate _)⟩

theorem resumeAfterRepair_returns
    (reaches :
      RunReaches executionId (.executed prepared)
        ⟨.awaitingRepair index attempt failure false, core⟩)
    (racing : Racing (.undecided none) race)
    (atIndex : prepared.workflow.steps[index]? = some step)
    (retry : repair.decision = .retry) :
    (resumeAfterRepair executionId dependencies index step
        repair.repairRequestId).Returns
      (ReachesRepairEnd executionId prepared index step attempt.attemptNumber)
      ⟨core.repairTold executionId index step attempt failure false repair,
        race, progress⟩ := by
  obtain ⟨executing, attempts, _, _, isNumber, _, _, working⟩ := reaches.shape
  have isList := working.attemptsAt
  unfold resumeAfterRepair
  refine transitionRun_then racing ?_ ?_
  · change .running ∈ runTransitions core.run
    rw [executing.isRun]
    decide
  intro ranAt race progress racing
  refine transitionStep_then racing ?_ ?_
  · exact working.allows atIndex (by decide)
  intro steppedAt race progress racing
  have retries :=
    reaches.next (.repairRetried repair ranAt steppedAt atIndex retry)
  refine Returns.pure ⟨retries, racing, ?_⟩
  rw [EngineCore.attemptsAt_tellStep]
  change attempt.attemptNumber ≤ (core.attemptsAt index).length
  rw [isList, ← isNumber]
  exact Nat.le_refl _

theorem settleRepair_returns
    (reaches :
      RunReaches executionId (.executed prepared)
        ⟨.awaitingRepair index attempt failure proposalOnly, core⟩)
    (racing : Racing (.undecided none) race)
    (atIndex : prepared.workflow.steps[index]? = some step) :
    (settleRepair executionId dependencies index step attempt failure
        proposalOnly repair).Returns
      (ReachesRepairEnd executionId prepared index step attempt.attemptNumber)
      ⟨core.note (.repairAnswered index attempt.attemptNumber (.ok repair)),
        race, progress⟩ := by
  have unended := reaches.shape.1.unended
  unfold settleRepair
  refine emit_then racing ?_
  intro race progress racing
  refine recordDeadlineIfElapsed_then racing ?_
  intro race racing
  refine choosePrimary_then racing unended ?_ ?_
  · intro _
    by_cases resumes : proposalOnly = false ∧ repair.decision = .retry
    · obtain ⟨rfl, retry⟩ := resumes
      rw [if_pos ⟨rfl, retry, rfl⟩]
      exact resumeAfterRepair_returns reaches racing atIndex retry
    · rw [if_neg fun all => resumes ⟨all.1, all.2.1⟩]
      exact endAfterRepair_returns reaches racing atIndex resumes
  · intro primary race asked racing
    have external : External primary := by simpa using asked
    rw [if_neg (by simp)]
    exact endAfterRepair_late reaches racing external atIndex

theorem repairStep_returns
    {judged : EngineCore}
    {decision : RetryPolicyDecision}
    {finishedAt : Nat}
    (reaches :
      RunReaches executionId (.executed prepared)
        ⟨.judging index attempt (some failure), judged⟩)
    (racing : Racing (.undecided none) race)
    (atIndex : prepared.workflow.steps[index]? = some step)
    (decided :
      decision =
        decideRetry
          (retryPolicyInput prepared step failure (judged.attemptsAt index)))
    (repairs : repairDisposition decision.disposition = some proposalOnly) :
    (repairStep executionId prepared index step attempt failure
        proposalOnly).Returns
      (ReachesRepairEnd executionId prepared index step attempt.attemptNumber)
      ⟨judged.tellFailed executionId finishedAt index step attempt failure
        decision.retryAllowed,
        race, progress⟩ := by
  have waits :
      decision.disposition = .manualRepair ∨
        decision.disposition = .locatorProposal := by
    cases disposition : decision.disposition <;>
      simp [disposition, repairDisposition] at repairs ⊢
  rw [decided] at waits
  have coordinated := prepared.recovery_coordinator rfl waits
  unfold repairStep
  rw [if_pos coordinated]
  refine (requestRepair_returns reaches racing atIndex decided repairs).seq ?_
  rintro answer ⟨core, race, progress⟩ ⟨asked, waiting, racing, isCore⟩
  cases answer with
  | none =>
      obtain ⟨error, rfl⟩ := isCore
      have fails := waiting.next (.repairFailed error atIndex)
      exact Returns.pure ⟨_, fails, .failed _ racing⟩
  | some repair =>
      cases isCore
      exact settleRepair_returns waiting racing atIndex

end Repairs

section AttemptLoop

variable
    {attempt : SafeStepAttempt}
    {failure : AttemptFailure}
    {earlier : Nat}
    {retry : RetryTrigger → Option Uuid →
      EngineProgram (Option SafeExecutionError)}

/-- What a further round of the loop does, from wherever it is begun. -/
def Retries
    (executionId : Uuid)
    (prepared : PreparedWorkflowExecution dependencies)
    (index : Nat)
    (step : WorkflowStep)
    (earlier : Nat)
    (retry : RetryTrigger → Option Uuid →
      EngineProgram (Option SafeExecutionError)) :
    Prop :=
  ∀ trigger repairRequestId world,
    ReachesAttempting executionId prepared index trigger repairRequestId
        earlier world →
      (retry trigger repairRequestId).Returns
        (ReachesClosing executionId prepared index step) world

theorem followRepair_returns
    {ending : RepairEnd}
    {world : EngineWorld}
    (retries : Retries executionId prepared index step earlier retry)
    (reached :
      ReachesRepairEnd executionId prepared index step earlier ending world) :
    (match ending with
      | .retrying repairRequestId => retry .manualRetry (some repairRequestId)
      | .ended stepError => pure stepError).Returns
      (ReachesClosing executionId prepared index step) world := by
  cases ending with
  | retrying repairRequestId => exact retries _ _ world reached
  | ended stepError => exact Returns.pure reached

theorem followUp_returns
    {judged : EngineCore}
    {decision : RetryPolicyDecision}
    {finishedAt : Nat}
    (retries :
      Retries executionId prepared index step attempt.attemptNumber retry)
    (reaches :
      RunReaches executionId (.executed prepared)
        ⟨.judging index attempt (some failure), judged⟩)
    (racing : Racing (.undecided none) race)
    (atIndex : prepared.workflow.steps[index]? = some step)
    (decided :
      decision =
        decideRetry
          (retryPolicyInput prepared step failure
            (judged.attemptsAt index))) :
    (followUp executionId prepared retry index step attempt failure
        decision.disposition).Returns
      (ReachesClosing executionId prepared index step)
      ⟨judged.tellFailed executionId finishedAt index step attempt failure
        decision.retryAllowed,
        race, progress⟩ := by
  have fails
      {stepError : SafeExecutionError}
      (final :
        finalStepError failure decision.disposition = some stepError) :=
    reaches.next (.attemptFailed finishedAt rfl atIndex decided final)
  cases disposition : decision.disposition with
  | none =>
      exact Returns.pure
        ⟨_, fails (by rw [disposition]; rfl), .failed _ racing⟩
  | newRunRequired =>
      exact Returns.pure
        ⟨_, fails (by rw [disposition]; rfl), .failed _ racing⟩
  | automaticRetry =>
      obtain ⟨_, _, attempts, history, working⟩ := reaches.shape
      have finished :=
        working.tellFailed executionId finishedAt step failure
          decision.retryAllowed
      have again :=
        reaches.next (.attemptRetried finishedAt rfl atIndex decided
          disposition)
      refine retries _ _ _ ⟨again, racing, ?_⟩
      rw [finished.attemptsAt, history.lastNumber]
      simp
  | manualRepair =>
      have repairs :=
        @repairStep_returns _ _ _ _ progress _ _ _ _ false _ _ finishedAt
          reaches racing atIndex decided
          (by rw [disposition]; rfl)
      refine repairs.seq ?_
      intro ending world reached
      exact followRepair_returns retries reached
  | locatorProposal =>
      have repairs :=
        @repairStep_returns _ _ _ _ progress _ _ _ _ true _ _ finishedAt
          reaches racing atIndex decided
          (by rw [disposition]; rfl)
      refine repairs.seq ?_
      intro ending world reached
      exact followRepair_returns retries reached

theorem attemptRound_returns
    {trigger : RetryTrigger}
    {repairRequestId : Option Uuid}
    (retries :
      Retries executionId prepared index step
        ((core.attemptsAt index).length + 1) retry)
    (reaches :
      RunReaches executionId (.executed prepared)
        ⟨.attempting index trigger repairRequestId, core⟩)
    (racing : Racing (.undecided none) race)
    (atIndex : prepared.workflow.steps[index]? = some step) :
    (attemptRound executionId prepared retry index step trigger
        repairRequestId).Returns
      (ReachesClosing executionId prepared index step)
      ⟨core, race, progress⟩ := by
  unfold attemptRound
  refine beginAttempt_then racing ?_
  intro attempt startedAt race progress isAttempt racing
  have isNumber :
      attempt.attemptNumber = (core.attemptsAt index).length + 1 := by
    rw [isAttempt]
    rfl
  rw [← isNumber] at retries
  refine (performAttempt_returns reaches racing atIndex isAttempt).seq ?_
  rintro failure ⟨judged, race, progress⟩ ⟨judging, racing⟩
  cases failure with
  | none =>
      refine finishAttempt_then racing ?_
      intro finishedAt race progress racing
      have succeeds := judging.next (.attemptSucceeded finishedAt atIndex)
      exact Returns.pure ⟨_, succeeds, .succeeded racing⟩
  | some failure =>
      refine Ensures.getThen (finishAttempt_then racing ?_)
      intro finishedAt race progress racing
      exact followUp_returns retries judging racing atIndex rfl

/-- The fuel is enough for the attempts that are still allowed. -/
theorem attemptLoop_returns
    (atIndex : prepared.workflow.steps[index]? = some step)
    (fuel : Nat) :
    Retries executionId prepared index step (maxTotalAttempts - fuel)
      (attemptLoop executionId prepared index step fuel) := by
  induction fuel with
  | zero =>
      rintro trigger repairRequestId ⟨core, race, progress⟩
        ⟨reaches, racing, used⟩
      obtain ⟨_, attempts, working, _, may⟩ := reaches.shape
      have below := may.below
      rw [← working.attemptsAt] at below
      exact absurd used (Nat.not_le.mpr below)
  | succ fuel inductionHypothesis =>
      rintro trigger repairRequestId ⟨core, race, progress⟩
        ⟨reaches, racing, used⟩
      have unended := reaches.shape.1.unended
      have retries :
          Retries executionId prepared index step
            ((core.attemptsAt index).length + 1)
            (attemptLoop executionId prepared index step fuel) := by
        rintro trigger repairRequestId world ⟨again, racing, more⟩
        have enough :
            maxTotalAttempts - fuel ≤
              (world.core.attemptsAt index).length := by
          dsimp only at used
          omega
        exact inductionHypothesis _ _ world ⟨again, racing, enough⟩
      unfold attemptLoop
      refine recordDeadlineIfElapsed_then racing ?_
      intro race racing
      refine choosePrimary_then racing unended ?_ ?_
      · intro _
        exact attemptRound_returns retries reaches racing atIndex
      · intro primary race asked racing
        have external : External primary := by simpa using asked
        have ends := reaches.next (.endedBeforeAttempt external)
        exact Returns.pure ⟨_, ends, .chosen primary racing⟩

end AttemptLoop

/-- What closing a step leads to. -/
def ReachesNext
    (executionId : Uuid)
    (prepared : PreparedWorkflowExecution dependencies)
    (index : Nat)
    (succeeded : Bool)
    (world : EngineWorld) :
    Prop :=
  if succeeded then ReachesReady executionId prepared (index + 1) world
  else
    ∃ primary,
      RunReaches executionId (.executed prepared)
          ⟨.skipping (.terminated primary), world.core⟩ ∧
        Racing (.decided primary) world.race

section Closing

variable {stepError : Option SafeExecutionError}

theorem ReachesReady.succeeded
    {world : EngineWorld}
    (ready : ReachesReady executionId prepared (index + 1) world) :
    ReachesNext executionId prepared index true world := by
  simpa [ReachesNext] using ready

/-- Finishing a step at which the run ends. -/
theorem settleStep_ended
    {status : WorkflowEngineStepStatus}
    {attempts : Option (List SafeStepAttempt)}
    {run : WorkflowEngineRunStatus}
    {primary : PrimaryTermination}
    (working : Working (.executed prepared) core index status attempts)
    (inStep : InStep run status)
    (racing : Racing (.decided primary) race)
    (atIndex : prepared.workflow.steps[index]? = some step)
    (closes :
      ∀ finishedAtMs timestamp,
        RunReaches executionId (.executed prepared)
          ⟨.skipping (.terminated primary),
            ((core.finishRecord index finishedAtMs).failRecord index
                primary.error).tellStep
              executionId timestamp index step
              (terminatedStepStatus primary.cause) (some primary.error)
              none⟩) :
    (settleStep executionId dependencies index step (some primary)).Returns
      (ReachesNext executionId prepared index) ⟨core, race, progress⟩ := by
  have listed := terminatedStepStatus_of_inStep inStep primary.cause
  unfold settleStep
  refine nowMs_then racing ?_
  intro finishedAtMs race racing
  refine updateCore_then (updateCore_then ?_)
  refine transitionStep_then racing ?_ ?_
  · exact working.allows atIndex listed
  intro timestamp race progress racing
  have closed := closes finishedAtMs timestamp
  refine Returns.pure ?_
  simp only [ReachesNext, Bool.false_eq_true, if_false]
  exact ⟨primary, closed, racing⟩

/-- A step whose last attempt succeeded. -/
theorem closeStep_succeeded
    (reaches :
      RunReaches executionId (.executed prepared)
        ⟨.closing index .succeeded, core⟩)
    (racing : Racing (.undecided none) race)
    (atIndex : prepared.workflow.steps[index]? = some step) :
    (closeStep executionId dependencies index step none).Returns
      (ReachesNext executionId prepared index) ⟨core, race, progress⟩ := by
  obtain ⟨executing, attempts, last, _, _, working⟩ := reaches.shape
  unfold closeStep
  refine recordDeadlineIfElapsed_then racing ?_
  intro race racing
  refine Ensures.pureThen ?_
  refine choosePrimary_then racing executing.unended ?_ ?_
  · intro _
    unfold settleStep
    refine nowMs_then racing ?_
    intro finishedAtMs race racing
    refine updateCore_then ?_
    refine transitionStep_then racing ?_ ?_
    · exact working.allows atIndex (by decide)
    intro timestamp race progress racing
    have succeeds :=
      reaches.next (.closedSucceeded finishedAtMs timestamp atIndex)
    exact Returns.pure (ReachesReady.succeeded ⟨succeeds, racing⟩)
  · intro primary race asked racing
    have external : External primary := by simpa using asked
    refine settleStep_ended (working.chosen primary) .running racing atIndex ?_
    intro finishedAtMs timestamp
    exact reaches.next
      (.closedByChoice finishedAtMs timestamp atIndex (.afterSuccess external))

/-- Choosing the end of a run that its open step asks for. -/
theorem chooseOwn_returns
    {own : PrimaryTermination}
    (reaches :
      RunReaches executionId (.executed prepared)
        ⟨.closing index (.own own), core⟩)
    (racing : Racing (.undecided (some own)) race)
    (atIndex : prepared.workflow.steps[index]? = some step) :
    (choosePrimary >>=
        settleStep executionId dependencies index step).Returns
      (ReachesNext executionId prepared index) ⟨core, race, progress⟩ := by
  obtain ⟨⟨unended, _, status, attempts, inStep, working, _, _⟩, _⟩ :=
    reaches.shape
  refine choosePrimary_then racing unended ?_ ?_
  · intro isNone
    cases isNone
  · intro primary race asked racing
    have closes : Closes (.own own) primary := by
      rcases asked with external | isOwn
      · exact .overruled external
      · cases isOwn
        exact .own own
    refine settleStep_ended (working.chosen primary) inStep racing atIndex ?_
    intro finishedAtMs timestamp
    exact reaches.next
      (.closedByChoice finishedAtMs timestamp atIndex closes)

theorem closeStep_returns
    {world : EngineWorld}
    (reached :
      ReachesClosing executionId prepared index step stepError world)
    (atIndex : prepared.workflow.steps[index]? = some step) :
    (closeStep executionId dependencies index step stepError).Returns
      (ReachesNext executionId prepared index) world := by
  obtain ⟨core, race, progress⟩ := world
  obtain ⟨closing, reaches, settled⟩ := reached
  cases settled with
  | succeeded racing => exact closeStep_succeeded reaches racing atIndex
  | failed stepError racing =>
      unfold closeStep
      refine recordDeadlineIfElapsed_then racing ?_
      intro race racing
      unfold recordStepError
      refine Ensures.assoc (nowMs_then racing ?_)
      intro atMs race racing
      refine updateRace_then ?_
      have recorded :=
        racing.recordOwn
          { cause :=
              if stepError.code ∈ timeoutErrorCodes then .stepTimeout
              else .stepFailed
            atMs
            error := stepError
            stepId := some step.id }
      exact chooseOwn_returns reaches recorded atIndex
  | recorded own racing =>
      unfold closeStep
      refine recordDeadlineIfElapsed_then racing ?_
      intro race racing
      exact Ensures.pureThen (chooseOwn_returns reaches racing atIndex)
  | chosen primary racing =>
      obtain ⟨⟨isPrimary, _, status, attempts, inStep, working, _, _⟩, _⟩ :=
        reaches.shape
      unfold closeStep
      refine recordDeadlineIfElapsed_then racing ?_
      intro race racing
      refine Ensures.pureThen (choosePrimary_decided racing isPrimary ?_)
      intro race racing
      refine settleStep_ended working inStep racing atIndex ?_
      intro finishedAtMs timestamp
      exact reaches.next (.closedAfterChoice finishedAtMs timestamp atIndex)

end Closing

theorem performStep_returns
    {before opened : EngineCore}
    {startedAtMs openedAt remainingTimeMs : Nat}
    (reaches :
      RunReaches executionId (.executed prepared) ⟨.ready index, before⟩)
    (racing : Racing (.undecided none) race)
    (atIndex : prepared.workflow.steps[index]? = some step)
    (openedCore :
      opened =
        (before.startRecord index startedAtMs).tellStep executionId openedAt
          index step .running none none) :
    (performStep executionId prepared index step remainingTimeMs).Returns
      (ReachesStepEnd executionId prepared index step)
      ⟨opened, race, progress⟩ := by
  unfold performStep
  split
  case h_1 message riskLevel timeoutMs isApproval =>
    have isType : step.type = .approval := by
      rw [WorkflowStep.type, isApproval]
      rfl
    exact runApprovalStep_returns reaches racing atIndex isType openedCore
  case h_2 notApproval =>
    have isAction : step.type ≠ .approval := by
      intro isApproval
      obtain ⟨message, riskLevel, timeoutMs, action⟩ :=
        step.action_of_approval isApproval
      exact notApproval _ _ _ action
    have opens :=
      reaches.next (.opened startedAtMs openedAt atIndex isAction)
    rw [← openedCore] at opens
    refine (attemptLoop_returns atIndex maxTotalAttempts .initial none _
      ⟨opens, racing, by simp⟩).seq ?_
    intro stepError world reached
    exact Returns.pure reached

theorem runStep_returns
    {remainingTimeMs : Nat}
    (reaches :
      RunReaches executionId (.executed prepared) ⟨.ready index, core⟩)
    (racing : Racing (.undecided none) race)
    (atIndex : prepared.workflow.steps[index]? = some step) :
    (runStep executionId prepared index step remainingTimeMs).Returns
      (ReachesNext executionId prepared index) ⟨core, race, progress⟩ := by
  obtain ⟨_, ready⟩ := reaches.shape
  unfold runStep
  refine nowMs_then racing ?_
  intro startedAtMs race racing
  refine updateCore_then ?_
  refine transitionStep_then racing ?_ ?_
  · exact ready.allowsRunning atIndex
  intro openedAt race progress racing
  refine (performStep_returns reaches racing atIndex rfl).seq ?_
  intro ending world reached
  cases ending with
  | continued => exact Returns.pure (ReachesReady.succeeded reached)
  | closing stepError => exact closeStep_returns reached atIndex

/-- What the step loop leads to. -/
def ReachesLoopEnd
    (executionId : Uuid)
    (prepared : PreparedWorkflowExecution dependencies)
    (world : EngineWorld) :
    Prop :=
  ReachesReady executionId prepared prepared.workflow.steps.length world ∨
    ∃ primary,
      RunReaches executionId (.executed prepared)
          ⟨.skipping (.terminated primary), world.core⟩ ∧
        Racing (.decided primary) world.race

/-- The loop goes through the steps in order and stops at the first failure. -/
theorem runSteps_returns
    {steps : List WorkflowStep}
    (remaining : prepared.workflow.steps.drop index = steps)
    (reaches :
      RunReaches executionId (.executed prepared) ⟨.ready index, core⟩)
    (racing : Racing (.undecided none) race) :
    (runSteps executionId prepared steps index).Returns
      (fun _ world => ReachesLoopEnd executionId prepared world)
      ⟨core, race, progress⟩ := by
  induction steps generalizing index core race progress with
  | nil =>
      have inside := reaches.shape.2.between.inside
      have atEnd : index = prepared.workflow.steps.length :=
        Nat.le_antisymm inside (List.drop_eq_nil_iff.mp remaining)
      subst atEnd
      exact Returns.pure (Or.inl ⟨reaches, racing⟩)
  | cons step rest inductionHypothesis =>
      have atIndex : prepared.workflow.steps[index]? = some step := by
        have first := congrArg List.head? remaining
        simpa using first
      have remains : index < prepared.workflow.steps.length :=
        (List.getElem?_eq_some_iff.mp atIndex).1
      have further : prepared.workflow.steps.drop (index + 1) = rest := by
        have dropped := congrArg List.tail remaining
        simpa using dropped
      have unended := reaches.shape.1.unended
      have ends
          {primary : PrimaryTermination}
          (external : External primary) :=
        reaches.next (.endedBetweenSteps remains external)
      unfold runSteps
      refine recordDeadlineIfElapsed_then racing ?_
      intro race racing
      refine choosePrimary_then racing unended ?_ ?_
      · intro _
        refine nowMs_then racing ?_
        intro now race racing
        refine Ensures.getThen ?_
        split
        · unfold timeOutBetweenSteps
          refine Ensures.getThen (updateRace_then ?_)
          have elapsed :=
            racing.recordOwn (timeoutCandidate race.deadlineMs)
          refine choosePrimary_then elapsed unended ?_ ?_
          · intro isNone
            cases isNone
          · intro primary race asked racing
            have external : External primary := by
              rcases asked with external | isTimeout
              · exact external
              · cases isTimeout
                exact .timedOut
            exact Returns.pure (Or.inr ⟨primary, ends external, racing⟩)
        · refine (runStep_returns reaches racing atIndex).seq ?_
          rintro succeeded ⟨core, race, progress⟩ reached
          cases succeeded with
          | true =>
              have ready :
                  ReachesReady executionId prepared (index + 1)
                    ⟨core, race, progress⟩ := by
                simpa [ReachesNext] using reached
              exact inductionHypothesis further ready.1 ready.2
          | false =>
              refine Returns.pure (Or.inr ?_)
              simpa [ReachesNext] using reached
      · intro primary race asked racing
        have external : External primary := by simpa using asked
        exact Returns.pure (Or.inr ⟨primary, ends external, racing⟩)

end TaskTwin.Engine
