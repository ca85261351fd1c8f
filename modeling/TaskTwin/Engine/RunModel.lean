import TaskTwin.Engine.WorkflowEngine

/-!
# The run model

An execution as a transition system.  A point says what the run waits for or
does next; a step of the model is what happens between two such points, with
every clock reading and every answer left open.  The engine only ever takes
steps of the model, so what holds in every reachable state of the model holds
of every execution.
-/

namespace TaskTwin.Engine

open Effect Schema Workflow Recovery

/-- Whether the preflight lets a request execute. -/
inductive RunPlan (dependencies : EngineDependencies) where
  | discarded (workflow : Option WorkflowDefinition)
  | executed (prepared : PreparedWorkflowExecution dependencies)

def RunPlan.workflow
    {dependencies : EngineDependencies} :
    RunPlan dependencies → Option WorkflowDefinition
  | .discarded workflow => workflow
  | .executed prepared => some prepared.workflow

def RunPlan.steps
    {dependencies : EngineDependencies}
    (plan : RunPlan dependencies) :
    List WorkflowStep :=
  declaredSteps plan.workflow

/-- What a step waits to be closed with. -/
inductive Closing where
  /-- The last attempt succeeded. -/
  | succeeded
  /-- The step itself gives a cause to end the run. -/
  | own (primary : PrimaryTermination)
  /-- The end of the run has already been chosen. -/
  | chosen (primary : PrimaryTermination)
  deriving DecidableEq, Repr

/-- Why the remaining steps are skipped. -/
inductive Skipping where
  | early
      (status : TerminalRunStatus)
      (cause : TerminationCause)
      (error : SafeExecutionError)
  | terminated (primary : PrimaryTermination)
  deriving DecidableEq, Repr

def Skipping.reason : Skipping → SkippedStepReason
  | .early _ .runCancelled _ => .runCancelled
  | .early .. => .preflightFailed
  | .terminated primary => skipReasonFor primary.cause

inductive RunPoint where
  | created
  | announced
  | validating
  | initializing (next : Nat)
  | starting
  | ready (index : Nat)
  | awaitingApproval
      (index : Nat)
      (binding : ApprovalBinding)
      (attempt : SafeStepAttempt)
  | attempting
      (index : Nat)
      (trigger : RetryTrigger)
      (repairRequestId : Option Uuid)
  | executing (index : Nat) (attempt : SafeStepAttempt)
  | judging
      (index : Nat)
      (attempt : SafeStepAttempt)
      (failure : Option AttemptFailure)
  | awaitingRepair
      (index : Nat)
      (attempt : SafeStepAttempt)
      (failure : AttemptFailure)
      (proposalOnly : Bool)
  | closing (index : Nat) (closing : Closing)
  | skipping (skipping : Skipping)
  | stopping (primary : Option PrimaryTermination)
  | concluding
      (primary : Option PrimaryTermination)
      (cleanupError : Option SafeExecutionError)
  | finished (ending : RunEnd)
  deriving Repr

structure RunState where
  point : RunPoint
  core : EngineCore

namespace EngineCore

variable (core : EngineCore) (executionId : Uuid) (timestamp : Nat)

def tell (kind : ProgressEventKind) : EngineCore :=
  core.note (.emitted { executionId, timestamp, kind })

def tellRun
    (status : WorkflowEngineRunStatus)
    (error : Option SafeExecutionError) :
    EngineCore :=
  (core.setRun status).tell executionId timestamp
    (.runStatusChanged status (error.map SafeExecutionError.code))

def tellStep
    (index : Nat)
    (step : WorkflowStep)
    (status : WorkflowEngineStepStatus)
    (error : Option SafeExecutionError)
    (skippedReason : Option SkippedStepReason) :
    EngineCore :=
  (core.setStep index step status).tell executionId timestamp
    (.stepStatusChanged step.id step.type status
      (error.map SafeExecutionError.code) skippedReason)

def tellApproval
    (binding : ApprovalBinding)
    (status : ApprovalRequestStatus)
    (decision : Option ApprovalDecision) :
    EngineCore :=
  core.tell executionId timestamp
    (.approvalStatusChanged binding.approvalStepId binding.gatedStepId
      binding.riskLevel status decision)

/-- A new attempt is recorded and announced. -/
def tellBegun
    (index : Nat)
    (step : WorkflowStep)
    (attempt : SafeStepAttempt) :
    EngineCore :=
  (core.setAttempts index (core.attemptsAt index ++ [attempt])).tell
    executionId attempt.startedAt
    (.stepAttemptStatusChanged step.id attempt.attemptNumber attempt.trigger
      .running none .unknown false)

/-- The last attempt is finished and announced. -/
def tellFinished
    (index : Nat)
    (step : WorkflowStep)
    (attempt : SafeStepAttempt)
    (status : StepAttemptStatus)
    (effectCertainty : ExecutionEffectCertainty)
    (retryAllowed : Bool)
    (error : Option SafeExecutionError) :
    EngineCore :=
  (core.setAttempts index
      ((core.attemptsAt index).dropLast ++
        [finishedAttempt attempt status effectCertainty error
          timestamp])).tell
    executionId timestamp
    (.stepAttemptStatusChanged step.id attempt.attemptNumber attempt.trigger
      status (error.map SafeExecutionError.code) effectCertainty retryAllowed)

def tellRepair
    (step : WorkflowStep)
    (attempt : SafeStepAttempt)
    (failure : AttemptFailure)
    (proposalOnly : Bool)
    (decision : RepairCoordinatorDecision) :
    EngineCore :=
  core.tell executionId timestamp
    (.repairStatusChanged step.id attempt.attemptNumber decision.status
      failure.error.code failure.effectCertainty
      (!proposalOnly && decision == .retry))

def tellWarning (cleanupError : Option SafeExecutionError) : EngineCore :=
  match cleanupError with
  | none => core
  | some _ => core.tell executionId timestamp (.warning .resourceCleanupFailed)

def startRecord (index startedAtMs : Nat) : EngineCore :=
  core.updateRecord index fun record =>
    { record with startedAtMs := some startedAtMs }

def finishRecord (index finishedAtMs : Nat) : EngineCore :=
  core.updateRecord index fun record =>
    { record with finishedAtMs := some finishedAtMs }

def failRecord (index : Nat) (error : SafeExecutionError) : EngineCore :=
  core.updateRecord index fun record => { record with error := some error }

def skipRecord
    (index finishedAtMs : Nat)
    (reason : SkippedStepReason) :
    EngineCore :=
  core.updateRecord index fun record =>
    { record with
      skippedReason := some reason
      finishedAtMs := some finishedAtMs }

def verifyRecord
    (index : Nat)
    (verification : Option SafeVerificationResult) :
    EngineCore :=
  match verification with
  | none => core
  | some result =>
      core.updateRecord index fun record =>
        { record with verification := some result }

def createSteps (workflow : Option WorkflowDefinition) : EngineCore :=
  { core with
    records := createRecords workflow
    steps := StepStateMachine.create (declaredSteps workflow) }

def createOutputs (workflow : WorkflowDefinition) : EngineCore :=
  { core with
    outputs := RuntimeOutputStore.create (defineWorkflowOutputs workflow) }

def setOutputs (outputs : RuntimeOutputStore) : EngineCore :=
  { core with outputs }

/-- The end of the run is chosen. -/
def chosen (primary : PrimaryTermination) : EngineCore :=
  core.choose (some primary) false

end EngineCore

/-- A termination that does not come from a step: an abort or the deadline. -/
inductive External : PrimaryTermination → Prop where
  | cancelled :
      External
        { cause := .runCancelled
          error := safeError .executionCancelled
          stepId := none }
  | timedOut :
      External
        { cause := .totalTimeout
          error := safeError .totalExecutionTimeout
          stepId := none }

/-- What may end a run before its first step. -/
inductive EndsStart : PrimaryTermination → Prop where
  | external {primary : PrimaryTermination} :
      External primary → EndsStart primary
  | startFailed (error : EngineError) :
      EndsStart
        { cause := .adapterStartFailed
          error := toSafeError error .adapterStartFailed
          stepId := none }

/-- What may be chosen when a step is closed. -/
inductive Closes : Closing → PrimaryTermination → Prop where
  | afterSuccess {primary : PrimaryTermination} :
      External primary → Closes .succeeded primary
  | overruled {own primary : PrimaryTermination} :
      External primary → Closes (.own own) primary
  | own (primary : PrimaryTermination) : Closes (.own primary) primary

/-- The termination a failed step asks for. -/
def stepTermination
    (step : WorkflowStep)
    (stepError : SafeExecutionError) :
    PrimaryTermination :=
  { cause :=
      if stepError.code ∈ timeoutErrorCodes then .stepTimeout else .stepFailed
    error := stepError
    stepId := some step.id }

def ApprovalRefusal.termination
    (refusal : ApprovalRefusal)
    (step : WorkflowStep) :
    PrimaryTermination :=
  { cause := refusal.cause
    error := safeError refusal.code
    stepId := some step.id }

/-- The attempt that a step begins with. -/
def newAttempt
    (core : EngineCore)
    (index : Nat)
    (trigger : RetryTrigger)
    (repairRequestId : Option Uuid)
    (startedAt : Nat) :
    SafeStepAttempt :=
  { attemptNumber := (core.attemptsAt index).length + 1
    trigger
    status := .running
    startedAt
    finishedAt := none
    durationMs := none
    errorCode := none
    effectCertainty := .unknown
    repairRequestId }

/-- The step error of an attempt that is not followed by another one. -/
def finalStepError
    (failure : AttemptFailure) :
    RetryDisposition → Option SafeExecutionError
  | .none => some failure.error
  | .newRunRequired => some (safeError .approvalGatedRetryRequiresNewRun)
  | _ => none

/-- Whether a disposition waits for a repair, and for a proposal only. -/
def repairDisposition : RetryDisposition → Option Bool
  | .manualRepair => some false
  | .locatorProposal => some true
  | _ => none

/-- How the engine refuses the output of an answered attempt. -/
inductive RefusesOutput : AttemptFailure → Prop where
  | refused
      (code : ExecutionErrorCode)
      (effectCertainty : ExecutionEffectCertainty)
      (ordinary : failedAttemptStatus code = .failed) :
      RefusesOutput { error := safeError code, effectCertainty }

variable
    {dependencies : EngineDependencies}
    (executionId : Uuid)
    (plan : RunPlan dependencies)

/-- The core after a failed attempt was told. -/
abbrev EngineCore.tellFailed
    (core : EngineCore)
    (executionId : Uuid)
    (finishedAt index : Nat)
    (step : WorkflowStep)
    (attempt : SafeStepAttempt)
    (failure : AttemptFailure)
    (retryAllowed : Bool) :
    EngineCore :=
  core.tellFinished executionId finishedAt index step attempt
    (failedAttemptStatus failure.error.code) failure.effectCertainty
    retryAllowed (some failure.error)

/-- The core after the answer to an approval request was told. -/
abbrev EngineCore.approvalTold
    (core : EngineCore)
    (executionId : Uuid)
    (index : Nat)
    (binding : ApprovalBinding)
    (approval : ApprovalCoordinatorResult) :
    EngineCore :=
  (core.note (.approvalAnswered index (.ok approval))).tellApproval
    executionId approval.decidedAt binding approval.decision.status
    (some approval.decision)

/-- The core after the answer to a repair request was told. -/
abbrev EngineCore.repairTold
    (core : EngineCore)
    (executionId : Uuid)
    (index : Nat)
    (step : WorkflowStep)
    (attempt : SafeStepAttempt)
    (failure : AttemptFailure)
    (proposalOnly : Bool)
    (repair : RecoveryCoordinatorResult) :
    EngineCore :=
  (core.note
      (.repairAnswered index attempt.attemptNumber (.ok repair))).tellRepair
    executionId repair.decidedAt step attempt failure proposalOnly
    repair.decision

inductive RunStep : RunState → RunState → Prop where
  | announced
      {core : EngineCore}
      (timestamp : Nat) :
      RunStep ⟨.created, core⟩
        ⟨.announced,
          core.tell executionId timestamp (.runStatusChanged .pending none)⟩
  | leftUnvalidated
      {core : EngineCore} :
      RunStep ⟨.announced, core⟩
        ⟨.initializing 0, core.createSteps plan.workflow⟩
  | validated
      {core : EngineCore}
      (timestamp : Nat) :
      RunStep ⟨.announced, core⟩
        ⟨.validating, core.tellRun executionId timestamp .validating none⟩
  | stepsCreated
      {core : EngineCore} :
      RunStep ⟨.validating, core⟩
        ⟨.initializing 0, core.createSteps plan.workflow⟩
  | initialized
      {core : EngineCore}
      {next : Nat}
      {step : WorkflowStep}
      (timestamp : Nat)
      (atNext : plan.steps[next]? = some step) :
      RunStep ⟨.initializing next, core⟩
        ⟨.initializing (next + 1),
          core.tell executionId timestamp
            (.stepStatusChanged step.id step.type .pending none none)⟩
  | cancelledEarly
      {core : EngineCore}
      (timestamp : Nat) :
      RunStep ⟨.initializing plan.steps.length, core⟩
        ⟨.skipping
            (.early .cancelled .runCancelled (safeError .executionCancelled)),
          core.tellRun executionId timestamp .cancelling none⟩
  | rejected
      {core : EngineCore}
      {workflow : Option WorkflowDefinition}
      (error : SafeExecutionError)
      (discarded : plan = .discarded workflow)
      (isValidating : core.run = .validating)
      (errorParses : error.parses = true) :
      RunStep ⟨.initializing plan.steps.length, core⟩
        ⟨.skipping (.early .failed .preflightFailed error), core⟩
  | started
      {core : EngineCore}
      {prepared : PreparedWorkflowExecution dependencies}
      (timestamp : Nat)
      (executed : plan = .executed prepared)
      (isValidating : core.run = .validating) :
      RunStep ⟨.initializing plan.steps.length, core⟩
        ⟨.starting,
          ((core.createOutputs prepared.workflow).tellRun executionId timestamp
            .starting none).note .adapterStarted⟩
  | ran
      {core : EngineCore}
      (timestamp : Nat) :
      RunStep ⟨.starting, core⟩
        ⟨.ready 0, core.tellRun executionId timestamp .running none⟩
  | endedAtStart
      {core : EngineCore}
      {primary : PrimaryTermination}
      (ends : EndsStart primary) :
      RunStep ⟨.starting, core⟩
        ⟨.skipping (.terminated primary), core.chosen primary⟩
  | endedBetweenSteps
      {core : EngineCore}
      {index : Nat}
      {primary : PrimaryTermination}
      (remains : index < plan.steps.length)
      (external : External primary) :
      RunStep ⟨.ready index, core⟩
        ⟨.skipping (.terminated primary), core.chosen primary⟩
  | opened
      {core : EngineCore}
      {index : Nat}
      {step : WorkflowStep}
      (startedAtMs timestamp : Nat)
      (atIndex : plan.steps[index]? = some step)
      (isAction : step.type ≠ .approval) :
      RunStep ⟨.ready index, core⟩
        ⟨.attempting index .initial none,
          (core.startRecord index startedAtMs).tellStep executionId timestamp
            index step .running none none⟩
  | approvalRequested
      {core core' : EngineCore}
      {index : Nat}
      {step : WorkflowStep}
      {prepared : PreparedWorkflowExecution dependencies}
      {binding : ApprovalBinding}
      {attempt : SafeStepAttempt}
      (startedAtMs openedAt begunAt waitsAt runWaitsAt askedAt : Nat)
      (request : ApprovalCoordinatorRequest)
      (executed : plan = .executed prepared)
      (atIndex : plan.steps[index]? = some step)
      (isApproval : step.type = .approval)
      (bound :
        requireApprovalBinding prepared.workflow step.id = some binding)
      (openedCore :
        core' =
          (core.startRecord index startedAtMs).tellStep executionId openedAt
            index step .running none none)
      (isAttempt : attempt = newAttempt core' index .initial none begunAt) :
      RunStep ⟨.ready index, core⟩
        ⟨.awaitingApproval index binding attempt,
          ((((core'.tellBegun executionId index step attempt).tellStep
                executionId waitsAt index step .waitingForApproval none
                none).tellRun
              executionId runWaitsAt .waitingForApproval none).tellApproval
            executionId askedAt binding .pending none).note
            (.approvalRequested index request)⟩
  | approvalFailed
      {core : EngineCore}
      {index : Nat}
      {step : WorkflowStep}
      {binding : ApprovalBinding}
      {attempt : SafeStepAttempt}
      {stepError : SafeExecutionError}
      (error : EngineError)
      (finishedAt : Nat)
      (atIndex : plan.steps[index]? = some step)
      (isStepError : stepError = toSafeError error .approvalRequestFailed) :
      RunStep ⟨.awaitingApproval index binding attempt, core⟩
        ⟨.closing index (.own (stepTermination step stepError)),
          (core.note (.approvalAnswered index (.error error))).tellFinished
            executionId finishedAt index step attempt
            (failedAttemptStatus stepError.code) .unknown false
            (some stepError)⟩
  | approvalGranted
      {core : EngineCore}
      {index : Nat}
      {step : WorkflowStep}
      {binding : ApprovalBinding}
      {attempt : SafeStepAttempt}
      (approval : ApprovalCoordinatorResult)
      (ranAt finishedAtMs succeededAt attemptFinishedAt : Nat)
      (atIndex : plan.steps[index]? = some step)
      (approved : approval.decision = .approved) :
      RunStep ⟨.awaitingApproval index binding attempt, core⟩
        ⟨.ready (index + 1),
          (((((core.note (.approvalAnswered index (.ok approval))).tellApproval
                    executionId approval.decidedAt binding
                    approval.decision.status (some approval.decision)).tellRun
                  executionId ranAt .running none).finishRecord
                index finishedAtMs).tellStep executionId succeededAt index
              step .succeeded none none).tellFinished
            executionId attemptFinishedAt index step attempt .succeeded
            .completed false none⟩
  | approvalOverruled
      {core : EngineCore}
      {index : Nat}
      {binding : ApprovalBinding}
      {attempt : SafeStepAttempt}
      {primary : PrimaryTermination}
      (approval : ApprovalCoordinatorResult)
      (approved : approval.decision = .approved)
      (external : External primary) :
      RunStep ⟨.awaitingApproval index binding attempt, core⟩
        ⟨.closing index (.chosen primary),
          ((core.note (.approvalAnswered index (.ok approval))).tellApproval
            executionId approval.decidedAt binding approval.decision.status
            (some approval.decision)).chosen primary⟩
  | approvalRefused
      {core : EngineCore}
      {index : Nat}
      {step : WorkflowStep}
      {binding : ApprovalBinding}
      {attempt : SafeStepAttempt}
      {refusal : ApprovalRefusal}
      (approval : ApprovalCoordinatorResult)
      (finishedAt : Nat)
      (atIndex : plan.steps[index]? = some step)
      (refused : approvalRefusal approval.decision = some refusal) :
      RunStep ⟨.awaitingApproval index binding attempt, core⟩
        ⟨.closing index (.own (refusal.termination step)),
          ((core.note (.approvalAnswered index (.ok approval))).tellApproval
              executionId approval.decidedAt binding approval.decision.status
              (some approval.decision)).tellFinished
            executionId finishedAt index step attempt refusal.attemptStatus
            .readOnly false (some (safeError refusal.code))⟩
  | approvalRefusedLate
      {core : EngineCore}
      {index : Nat}
      {step : WorkflowStep}
      {binding : ApprovalBinding}
      {attempt : SafeStepAttempt}
      {refusal : ApprovalRefusal}
      {primary : PrimaryTermination}
      (approval : ApprovalCoordinatorResult)
      (finishedAt : Nat)
      (atIndex : plan.steps[index]? = some step)
      (refused : approvalRefusal approval.decision = some refusal)
      (external : External primary) :
      RunStep ⟨.awaitingApproval index binding attempt, core⟩
        ⟨.closing index (.chosen primary),
          (((core.note (.approvalAnswered index (.ok approval))).tellApproval
                executionId approval.decidedAt binding approval.decision.status
                (some approval.decision)).chosen primary).tellFinished
            executionId finishedAt index step attempt refusal.attemptStatus
            .readOnly false (some (safeError refusal.code))⟩
  | endedBeforeAttempt
      {core : EngineCore}
      {index : Nat}
      {trigger : RetryTrigger}
      {repairRequestId : Option Uuid}
      {primary : PrimaryTermination}
      (external : External primary) :
      RunStep ⟨.attempting index trigger repairRequestId, core⟩
        ⟨.closing index (.chosen primary), core.chosen primary⟩
  | attemptBegun
      {core : EngineCore}
      {index : Nat}
      {step : WorkflowStep}
      {trigger : RetryTrigger}
      {repairRequestId : Option Uuid}
      {attempt : SafeStepAttempt}
      (context : AdapterStepContext)
      (startedAt : Nat)
      (atIndex : plan.steps[index]? = some step)
      (isAttempt :
        attempt = newAttempt core index trigger repairRequestId startedAt)
      (ofStep : context.stepIndex = index ∧ context.step = step)
      (ofAttempt :
        context.trigger = trigger ∧
          context.attemptNumber = attempt.attemptNumber) :
      RunStep ⟨.attempting index trigger repairRequestId, core⟩
        ⟨.executing index attempt,
          (core.tellBegun executionId index step attempt).note
            (.stepExecuted context)⟩
  | adapterThrew
      {core : EngineCore}
      {index : Nat}
      {attempt : SafeStepAttempt}
      (error : EngineError) :
      RunStep ⟨.executing index attempt, core⟩
        ⟨.judging index attempt
            (some
              { error := toSafeError error .actionFailed
                effectCertainty := error.effectCertainty }),
          (core.note (.stepAnswered index (.error error))).verifyRecord index
            error.verification⟩
  | outputRefused
      {core : EngineCore}
      {index : Nat}
      {attempt : SafeStepAttempt}
      {failure : AttemptFailure}
      (output : AdapterStepOutput)
      (refuses : RefusesOutput failure) :
      RunStep ⟨.executing index attempt, core⟩
        ⟨.judging index attempt (some failure),
          (core.note (.stepAnswered index (.ok output))).verifyRecord index
            output.verification⟩
  | adapterAnswered
      {core : EngineCore}
      {index : Nat}
      {step : WorkflowStep}
      {attempt : SafeStepAttempt}
      (output : AdapterStepOutput)
      (atIndex : plan.steps[index]? = some step)
      (noOutput : step.type ≠ .extract) :
      RunStep ⟨.executing index attempt, core⟩
        ⟨.judging index attempt none,
          (core.note (.stepAnswered index (.ok output))).verifyRecord index
            output.verification⟩
  | outputProduced
      {core : EngineCore}
      {index : Nat}
      {step : WorkflowStep}
      {definition : WorkflowOutputDefinition}
      {attempt : SafeStepAttempt}
      {outputs : RuntimeOutputStore}
      (output : AdapterStepOutput)
      (value : RuntimeOutputValue)
      (timestamp : Nat)
      (atIndex : plan.steps[index]? = some step)
      (defined : outputOfStep step index = some definition)
      (stored :
        core.outputs.set definition.name definition.valueType value =
          .ok outputs) :
      RunStep ⟨.executing index attempt, core⟩
        ⟨.judging index attempt none,
          (((core.note (.stepAnswered index (.ok output))).verifyRecord index
                output.verification).setOutputs outputs).tell
            executionId timestamp
            (.outputProduced step.id definition.name definition.valueType)⟩
  | attemptSucceeded
      {core : EngineCore}
      {index : Nat}
      {step : WorkflowStep}
      {attempt : SafeStepAttempt}
      (finishedAt : Nat)
      (atIndex : plan.steps[index]? = some step) :
      RunStep ⟨.judging index attempt none, core⟩
        ⟨.closing index .succeeded,
          core.tellFinished executionId finishedAt index step attempt
            .succeeded .completed false none⟩
  | attemptRetried
      {core : EngineCore}
      {index : Nat}
      {step : WorkflowStep}
      {prepared : PreparedWorkflowExecution dependencies}
      {attempt : SafeStepAttempt}
      {failure : AttemptFailure}
      {decision : RetryPolicyDecision}
      (finishedAt : Nat)
      (executed : plan = .executed prepared)
      (atIndex : plan.steps[index]? = some step)
      (decided :
        decision =
          decideRetry
            (retryPolicyInput prepared step failure (core.attemptsAt index)))
      (retries : decision.disposition = .automaticRetry) :
      RunStep ⟨.judging index attempt (some failure), core⟩
        ⟨.attempting index .automaticRetry none,
          core.tellFinished executionId finishedAt index step attempt
            (failedAttemptStatus failure.error.code) failure.effectCertainty
            decision.retryAllowed (some failure.error)⟩
  | attemptFailed
      {core : EngineCore}
      {index : Nat}
      {step : WorkflowStep}
      {prepared : PreparedWorkflowExecution dependencies}
      {attempt : SafeStepAttempt}
      {failure : AttemptFailure}
      {decision : RetryPolicyDecision}
      {stepError : SafeExecutionError}
      (finishedAt : Nat)
      (executed : plan = .executed prepared)
      (atIndex : plan.steps[index]? = some step)
      (decided :
        decision =
          decideRetry
            (retryPolicyInput prepared step failure (core.attemptsAt index)))
      (final : finalStepError failure decision.disposition = some stepError) :
      RunStep ⟨.judging index attempt (some failure), core⟩
        ⟨.closing index (.own (stepTermination step stepError)),
          core.tellFinished executionId finishedAt index step attempt
            (failedAttemptStatus failure.error.code) failure.effectCertainty
            decision.retryAllowed (some failure.error)⟩
  | repairRequested
      {core : EngineCore}
      {index : Nat}
      {step : WorkflowStep}
      {prepared : PreparedWorkflowExecution dependencies}
      {attempt : SafeStepAttempt}
      {failure : AttemptFailure}
      {decision : RetryPolicyDecision}
      {proposalOnly : Bool}
      (request : RecoveryCoordinatorRequest)
      (finishedAt waitsAt runWaitsAt : Nat)
      (executed : plan = .executed prepared)
      (atIndex : plan.steps[index]? = some step)
      (decided :
        decision =
          decideRetry
            (retryPolicyInput prepared step failure (core.attemptsAt index)))
      (repairs : repairDisposition decision.disposition = some proposalOnly) :
      RunStep ⟨.judging index attempt (some failure), core⟩
        ⟨.awaitingRepair index attempt failure proposalOnly,
          (((core.tellFinished executionId finishedAt index step attempt
                  (failedAttemptStatus failure.error.code)
                  failure.effectCertainty decision.retryAllowed
                  (some failure.error)).tellStep
                executionId waitsAt index step .waitingForRepair none
                none).tellRun
              executionId runWaitsAt .waitingForRepair none).note
            (.repairRequested request)⟩
  | repairFailed
      {core : EngineCore}
      {index : Nat}
      {step : WorkflowStep}
      {attempt : SafeStepAttempt}
      {failure : AttemptFailure}
      {proposalOnly : Bool}
      (error : EngineError)
      (atIndex : plan.steps[index]? = some step) :
      RunStep ⟨.awaitingRepair index attempt failure proposalOnly, core⟩
        ⟨.closing index
            (.own (stepTermination step (safeError .recoveryRequestFailed))),
          core.note
            (.repairAnswered index attempt.attemptNumber (.error error))⟩
  | repairRetried
      {core : EngineCore}
      {index : Nat}
      {step : WorkflowStep}
      {attempt : SafeStepAttempt}
      {failure : AttemptFailure}
      (repair : RecoveryCoordinatorResult)
      (ranAt steppedAt : Nat)
      (atIndex : plan.steps[index]? = some step)
      (retry : repair.decision = .retry) :
      RunStep ⟨.awaitingRepair index attempt failure false, core⟩
        ⟨.attempting index .manualRetry (some repair.repairRequestId),
          (((core.note
                  (.repairAnswered index attempt.attemptNumber
                    (.ok repair))).tellRepair
                executionId repair.decidedAt step attempt failure false
                repair.decision).tellRun
              executionId ranAt .running none).tellStep
            executionId steppedAt index step .running none none⟩
  | repairEnded
      {core : EngineCore}
      {index : Nat}
      {step : WorkflowStep}
      {attempt : SafeStepAttempt}
      {failure : AttemptFailure}
      {proposalOnly : Bool}
      {cause : RacingTerminationCause}
      {code : ExecutionErrorCode}
      (repair : RecoveryCoordinatorResult)
      (atIndex : plan.steps[index]? = some step)
      (ends :
        repairTermination proposalOnly repair.decision = some (cause, code)) :
      RunStep ⟨.awaitingRepair index attempt failure proposalOnly, core⟩
        ⟨.closing index
            (.own
              { cause, error := safeError code, stepId := some step.id }),
          (core.note
              (.repairAnswered index attempt.attemptNumber
                (.ok repair))).tellRepair
            executionId repair.decidedAt step attempt failure proposalOnly
            repair.decision⟩
  | repairOverruled
      {core : EngineCore}
      {index : Nat}
      {step : WorkflowStep}
      {attempt : SafeStepAttempt}
      {failure : AttemptFailure}
      {proposalOnly : Bool}
      {primary : PrimaryTermination}
      (repair : RecoveryCoordinatorResult)
      (atIndex : plan.steps[index]? = some step)
      (external : External primary) :
      RunStep ⟨.awaitingRepair index attempt failure proposalOnly, core⟩
        ⟨.closing index (.chosen primary),
          ((core.note
                (.repairAnswered index attempt.attemptNumber
                  (.ok repair))).tellRepair
              executionId repair.decidedAt step attempt failure proposalOnly
              repair.decision).chosen primary⟩
  | closedSucceeded
      {core : EngineCore}
      {index : Nat}
      {step : WorkflowStep}
      (finishedAtMs timestamp : Nat)
      (atIndex : plan.steps[index]? = some step) :
      RunStep ⟨.closing index .succeeded, core⟩
        ⟨.ready (index + 1),
          (core.finishRecord index finishedAtMs).tellStep executionId timestamp
            index step .succeeded none none⟩
  | closedByChoice
      {core : EngineCore}
      {index : Nat}
      {step : WorkflowStep}
      {closing : Closing}
      {primary : PrimaryTermination}
      (finishedAtMs timestamp : Nat)
      (atIndex : plan.steps[index]? = some step)
      (closes : Closes closing primary) :
      RunStep ⟨.closing index closing, core⟩
        ⟨.skipping (.terminated primary),
          (((core.chosen primary).finishRecord index finishedAtMs).failRecord
              index primary.error).tellStep
            executionId timestamp index step
            (terminatedStepStatus primary.cause) (some primary.error) none⟩
  | closedAfterChoice
      {core : EngineCore}
      {index : Nat}
      {step : WorkflowStep}
      {primary : PrimaryTermination}
      (finishedAtMs timestamp : Nat)
      (atIndex : plan.steps[index]? = some step) :
      RunStep ⟨.closing index (.chosen primary), core⟩
        ⟨.skipping (.terminated primary),
          ((core.finishRecord index finishedAtMs).failRecord
              index primary.error).tellStep
            executionId timestamp index step
            (terminatedStepStatus primary.cause) (some primary.error) none⟩
  | skipped
      {core : EngineCore}
      {skipping : Skipping}
      {index : Nat}
      {step : WorkflowStep}
      (finishedAtMs timestamp : Nat)
      (atIndex : plan.steps[index]? = some step)
      (isPending :
        core.records[index]?.map ExecutionStepRecord.status =
          some .pending) :
      RunStep ⟨.skipping skipping, core⟩
        ⟨.skipping skipping,
          (core.skipRecord index finishedAtMs skipping.reason).tellStep
            executionId timestamp index step .skipped none
            (some skipping.reason)⟩
  | endedEarly
      {core : EngineCore}
      {status : TerminalRunStatus}
      {cause : TerminationCause}
      {error : SafeExecutionError}
      (timestamp : Nat)
      (nonePending :
        ∀ record ∈ core.records, record.status ≠ .pending) :
      RunStep ⟨.skipping (.early status cause error), core⟩
        ⟨.finished
            { status, cause, error := some error, failedStepId := none },
          core.tellRun executionId timestamp status.runStatus (some error)⟩
  | terminationAnnounced
      {core : EngineCore}
      {primary : PrimaryTermination}
      (timestamp : Nat)
      (nonePending :
        ∀ record ∈ core.records, record.status ≠ .pending) :
      RunStep ⟨.skipping (.terminated primary), core⟩
        ⟨.stopping (some primary),
          core.tellRun executionId timestamp
            (if cancelsRun primary.cause then .cancelling
            else (terminalStatusFor primary.cause).runStatus)
            (some primary.error)⟩
  | completed
      {core : EngineCore} :
      RunStep ⟨.ready plan.steps.length, core⟩ ⟨.stopping none, core⟩
  | stopped
      {core : EngineCore}
      {primary : Option PrimaryTermination}
      {cause : TerminationCause}
      (cleanupError : Option SafeExecutionError)
      (isCause :
        cause =
          match primary with
          | none => .completed
          | some primary => primary.cause.terminationCause) :
      RunStep ⟨.stopping primary, core⟩
        ⟨.concluding primary cleanupError,
          (core.note (.adapterStopped cause cleanupError)).setOutputs
            core.outputs.clear⟩
  | concludedCancelled
      {core : EngineCore}
      {primary : PrimaryTermination}
      {cleanupError : Option SafeExecutionError}
      (warnedAt timestamp : Nat)
      (cancels : cancelsRun primary.cause = true) :
      RunStep ⟨.concluding (some primary) cleanupError, core⟩
        ⟨.finished
            { status := terminalStatusFor primary.cause
              cause := primary.cause.terminationCause
              error := some primary.error
              failedStepId := primary.stepId },
          (core.tellWarning executionId warnedAt cleanupError).tellRun
            executionId timestamp .cancelled (some primary.error)⟩
  | concludedTerminated
      {core : EngineCore}
      {primary : PrimaryTermination}
      {cleanupError : Option SafeExecutionError}
      (warnedAt : Nat)
      (terminal : cancelsRun primary.cause = false) :
      RunStep ⟨.concluding (some primary) cleanupError, core⟩
        ⟨.finished
            { status := terminalStatusFor primary.cause
              cause := primary.cause.terminationCause
              error := some primary.error
              failedStepId := primary.stepId },
          core.tellWarning executionId warnedAt cleanupError⟩
  | concludedFailed
      {core : EngineCore}
      {cleanupError : SafeExecutionError}
      (warnedAt timestamp : Nat) :
      RunStep ⟨.concluding none (some cleanupError), core⟩
        ⟨.finished
            { status := .failed
              cause := .cleanupFailed
              error := some cleanupError
              failedStepId := none },
          (core.tellWarning executionId warnedAt (some cleanupError)).tellRun
            executionId timestamp .failed (some cleanupError)⟩
  | concludedSucceeded
      {core : EngineCore}
      (timestamp : Nat) :
      RunStep ⟨.concluding none none, core⟩
        ⟨.finished
            { status := .succeeded
              cause := .completed
              error := none
              failedStepId := none },
          core.tellRun executionId timestamp .succeeded none⟩

/-- The states of the model that an execution may be in. -/
def RunReaches (state : RunState) : Prop :=
  Reachable
    (fun start => start = ⟨.created, (EngineWorld.initial false).core⟩)
    (RunStep executionId plan) state

variable {executionId plan}

theorem RunReaches.next
    {state state' : RunState}
    (reaches : RunReaches executionId plan state)
    (stepped : RunStep executionId plan state state') :
    RunReaches executionId plan state' :=
  Reachable.next reaches stepped

end TaskTwin.Engine
