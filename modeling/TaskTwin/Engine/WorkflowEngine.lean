import TaskTwin.Engine.World

/-!
# The workflow engine

`WorkflowEngine.execute`: preflight, the step loop with its approval waits,
attempts and repairs, the early terminations, and the result at the end.
-/

namespace TaskTwin.Engine

open Effect Schema Workflow Recovery

def skipReasonFor : RacingTerminationCause → SkippedStepReason
  | .adapterStartFailed => .adapterStartFailed
  | .runCancelled => .runCancelled
  | .totalTimeout => .runTimedOut
  | .approvalRejected => .approvalRejected
  | .approvalExpired => .approvalExpired
  | .approvalInvalidated => .approvalInvalidated
  | .repairAborted => .repairAborted
  | .repairExpired => .repairExpired
  | .repairInvalidated => .repairInvalidated
  | .stepFailed => .priorStepFailed
  | .stepTimeout => .priorStepFailed

def terminalStatusFor : RacingTerminationCause → TerminalRunStatus
  | .runCancelled => .cancelled
  | .totalTimeout => .timedOut
  | .approvalRejected => .cancelled
  | .repairAborted => .cancelled
  | .approvalExpired => .timedOut
  | .repairExpired => .timedOut
  | .approvalInvalidated => .interrupted
  | .repairInvalidated => .interrupted
  | .adapterStartFailed => .failed
  | .stepFailed => .failed
  | .stepTimeout => .failed

/-- The causes that pass through `cancelling`. -/
def cancelsRun (cause : RacingTerminationCause) : Bool :=
  cause == .runCancelled || cause == .approvalRejected ||
    cause == .repairAborted

/-- The status of the step that a run ends at. -/
def terminatedStepStatus :
    RacingTerminationCause → WorkflowEngineStepStatus
  | .runCancelled => .cancelled
  | .approvalRejected => .cancelled
  | .repairAborted => .cancelled
  | .totalTimeout => .timedOut
  | .stepTimeout => .timedOut
  | .approvalExpired => .timedOut
  | .repairExpired => .timedOut
  | .approvalInvalidated => .interrupted
  | .repairInvalidated => .interrupted
  | .adapterStartFailed => .failed
  | .stepFailed => .failed

/-- The attempt status of a failure with an error code. -/
def failedAttemptStatus (code : ExecutionErrorCode) : StepAttemptStatus :=
  if code = .executionCancelled then .cancelled
  else if code ∈ timeoutErrorCodes then .timedOut
  else .failed

/-- How a run and an attempt end when an approval is not granted. -/
structure ApprovalRefusal where
  cause : RacingTerminationCause
  code : ExecutionErrorCode
  attemptStatus : StepAttemptStatus
  deriving DecidableEq, Repr

def approvalRefusal : ApprovalDecision → Option ApprovalRefusal
  | .approved => none
  | .rejected =>
      some
        { cause := .approvalRejected
          code := .approvalRejected
          attemptStatus := .cancelled }
  | .expired =>
      some
        { cause := .approvalExpired
          code := .approvalExpired
          attemptStatus := .timedOut }
  | .invalidated =>
      some
        { cause := .approvalInvalidated
          code := .approvalInvalidated
          attemptStatus := .interrupted }
  | .cancelled =>
      some
        { cause := .runCancelled
          code := .executionCancelled
          attemptStatus := .cancelled }

/-- The termination a repair decision asks for. -/
def repairTermination
    (proposalOnly : Bool) :
    RepairCoordinatorDecision →
      Option (RacingTerminationCause × ExecutionErrorCode)
  | .abort => some (.repairAborted, .recoveryAborted)
  | .expired => some (.repairExpired, .recoveryExpired)
  | .cancelled => some (.runCancelled, .executionCancelled)
  | .invalidated => some (.repairInvalidated, .recoveryInvalidated)
  | .retry =>
      if proposalOnly then some (.repairInvalidated, .recoveryInvalidated)
      else none

def TerminationCandidate.primary
    (candidate : TerminationCandidate) :
    PrimaryTermination :=
  { cause := candidate.cause
    error := candidate.error
    stepId := candidate.stepId }

def EngineError.effectCertainty : EngineError → ExecutionEffectCertainty
  | .safe _ _ effectCertainty => effectCertainty.getD .unknown
  | .other => .unknown

def EngineError.verification : EngineError → Option SafeVerificationResult
  | .safe _ verification _ => verification
  | .other => none

/-- Call a dependency; aborts and the timer may fire before it answers. -/
def environment
    {α : Type}
    (respond : EngineReply → EngineWorld → Outcome EngineError α × EngineWorld) :
    EngineProgram α :=
  Program.call fun reply world =>
    respond reply { world with race := world.race.signalled reply.signals }

def nowMs : EngineProgram Nat :=
  environment fun reply world => (.returned reply.nowMs, world)

def updateCore (update : EngineCore → EngineCore) : EngineProgram Unit :=
  Program.modify fun world => { world with core := update world.core }

def updateRace
    (update : TerminationRace → TerminationRace) :
    EngineProgram Unit :=
  Program.modify fun world => { world with race := update world.race }

/-- A state machine throws; the refusal stays in the history. -/
def refuseTransition {α : Type} (code : ExecutionErrorCode) :
    EngineProgram α := do
  updateCore fun core => core.note (.transitionRefused code)
  Program.throwing (.safe code none none)

variable (executionId : Uuid) (dependencies : EngineDependencies)

def emit
    (timestamp : Nat)
    (kind : ProgressEventKind) :
    EngineProgram Unit :=
  environment fun reply world =>
    let event := { executionId, timestamp, kind }
    (.returned (),
      { world with
        core := world.core.note (.emitted event)
        progress :=
          world.progress.emit event dependencies.progressSink
            reply.sinkAccepts })

def emitRun
    (status : WorkflowEngineRunStatus)
    (error : Option SafeExecutionError) :
    EngineProgram Unit := do
  let timestamp ← nowMs
  emit executionId dependencies timestamp
    (.runStatusChanged status (error.map SafeExecutionError.code))

def transitionRun
    (status : WorkflowEngineRunStatus)
    (error : Option SafeExecutionError) :
    EngineProgram Unit := do
  let world ← Program.get
  if status ∈ runTransitions world.core.run then do
    updateCore fun core => core.setRun status
    emitRun executionId dependencies status error
  else
    refuseTransition .invalidRunTransition

def transitionStep
    (index : Nat)
    (step : WorkflowStep)
    (status : WorkflowEngineStepStatus)
    (error : Option SafeExecutionError)
    (skippedReason : Option SkippedStepReason) :
    EngineProgram Unit := do
  let world ← Program.get
  if world.core.steps.allows step.id status then do
    updateCore fun core => core.setStep index step status
    let timestamp ← nowMs
    emit executionId dependencies timestamp
      (.stepStatusChanged step.id step.type status
        (error.map SafeExecutionError.code) skippedReason)
  else
    refuseTransition .invalidStepTransition

/-- Skip one step if nothing has happened to it. -/
def skipIfPending
    (reason : SkippedStepReason)
    (entry : WorkflowStep × Nat) :
    EngineProgram Unit := do
  let world ← Program.get
  if world.core.records[entry.2]?.map ExecutionStepRecord.status =
      some .pending then do
    let finishedAtMs ← nowMs
    updateCore fun core => core.updateRecord entry.2 fun record =>
      { record with
        skippedReason := some reason
        finishedAtMs := some finishedAtMs }
    transitionStep executionId dependencies entry.2 entry.1 .skipped none
      (some reason)
  else
    pure ()

def skipPending
    (steps : List WorkflowStep)
    (reason : SkippedStepReason) :
    EngineProgram Unit :=
  Program.forEach (skipIfPending executionId dependencies reason) steps.zipIdx

/-- The steps of a workflow that may have failed to parse. -/
def declaredSteps (workflow : Option WorkflowDefinition) : List WorkflowStep :=
  match workflow with
  | none => []
  | some workflow => workflow.steps

def emitPendingStep (step : WorkflowStep) : EngineProgram Unit := do
  let timestamp ← nowMs
  emit executionId dependencies timestamp
    (.stepStatusChanged step.id step.type .pending none none)

def initializeSteps
    (workflow : Option WorkflowDefinition) :
    EngineProgram Unit := do
  updateCore fun core =>
    { core with
      records := createRecords workflow
      steps := StepStateMachine.create (declaredSteps workflow) }
  Program.forEach (emitPendingStep executionId dependencies)
    (declaredSteps workflow)

def recordTermination (candidate : TerminationCandidate) :
    EngineProgram Unit :=
  updateRace fun race => race.record candidate

def recordDeadlineIfElapsed : EngineProgram Unit := do
  let now ← nowMs
  let world ← Program.get
  if world.race.deadlineMs ≤ now then
    recordTermination (timeoutCandidate world.race.deadlineMs)
  else
    pure ()

/-- Assign the primary termination; the first choice enters the history. -/
def EngineCore.choose
    (core : EngineCore)
    (primary : Option PrimaryTermination)
    (alreadyLocked : Bool) :
    EngineCore :=
  match primary, alreadyLocked with
  | some chosen, false =>
      { core.note (.terminationChosen chosen) with primary }
  | _, _ => { core with primary }

def choosePrimary : EngineProgram (Option PrimaryTermination) := do
  let world ← Program.get
  let locking := world.race.arbiter.lockWinner
  let primary := locking.2.map TerminationCandidate.primary
  updateCore fun core =>
    core.choose primary world.race.arbiter.locked.isSome
  updateRace fun race => { race with arbiter := locking.1 }
  return primary

def beginAttempt
    (index : Nat)
    (step : WorkflowStep)
    (trigger : RetryTrigger)
    (repairRequestId : Option Uuid) :
    EngineProgram SafeStepAttempt := do
  let startedAt ← nowMs
  let world ← Program.get
  let attempts := world.core.attemptsAt index
  let attempt : SafeStepAttempt :=
    { attemptNumber := attempts.length + 1
      trigger
      status := .running
      startedAt
      finishedAt := none
      durationMs := none
      errorCode := none
      effectCertainty := .unknown
      repairRequestId }
  updateCore fun core => core.setAttempts index (attempts ++ [attempt])
  emit executionId dependencies startedAt
    (.stepAttemptStatusChanged step.id attempt.attemptNumber trigger .running
      none .unknown false)
  return attempt

/-- The fields that finishing an attempt assigns. -/
def finishedAttempt
    (attempt : SafeStepAttempt)
    (status : StepAttemptStatus)
    (effectCertainty : ExecutionEffectCertainty)
    (error : Option SafeExecutionError)
    (finishedAt : Nat) :
    SafeStepAttempt :=
  { attempt with
    status
    finishedAt := some finishedAt
    durationMs := some (finishedAt - attempt.startedAt)
    effectCertainty
    errorCode := (error.map SafeExecutionError.code).or attempt.errorCode }

/-- Finish the attempt that was begun last. -/
def finishAttempt
    (index : Nat)
    (step : WorkflowStep)
    (attempt : SafeStepAttempt)
    (status : StepAttemptStatus)
    (effectCertainty : ExecutionEffectCertainty)
    (retryAllowed : Bool)
    (error : Option SafeExecutionError) :
    EngineProgram Unit := do
  let finishedAt ← nowMs
  updateCore fun core =>
    core.setAttempts index
      ((core.attemptsAt index).dropLast ++
        [finishedAttempt attempt status effectCertainty error finishedAt])
  emit executionId dependencies finishedAt
    (.stepAttemptStatusChanged step.id attempt.attemptNumber attempt.trigger
      status (error.map SafeExecutionError.code) effectCertainty retryAllowed)

variable {dependencies}
variable (prepared : PreparedWorkflowExecution dependencies)

/-- How the handling of a running step ends. -/
inductive StepEnd where
  /-- The step succeeded and the loop continues. -/
  | continued
  | closing (stepError : Option SafeExecutionError)
  deriving DecidableEq, Repr

def awaitApproval
    (index : Nat)
    (request : ApprovalCoordinatorRequest) :
    EngineProgram ApprovalCoordinatorResult := do
  updateCore fun core => core.note (.approvalRequested index request)
  environment fun reply world =>
    let world' :=
      { world with
        core := world.core.note (.approvalAnswered index reply.approval) }
    match reply.approval with
    | .ok result => (.returned result, world')
    | .error error => (.threw error, world')

def requestApproval
    (index : Nat)
    (step : WorkflowStep)
    (timeoutMs remainingTimeMs : Nat)
    (binding : ApprovalBinding) :
    EngineProgram ApprovalCoordinatorResult := do
  transitionStep executionId dependencies index step .waitingForApproval none
    none
  transitionRun executionId dependencies .waitingForApproval none
  let now ← nowMs
  let timestamp ← nowMs
  emit executionId dependencies timestamp
    (.approvalStatusChanged binding.approvalStepId binding.gatedStepId
      binding.riskLevel .pending none)
  let approval ← awaitApproval index
    { executionId
      workflowId := prepared.workflow.workflowId
      workflowVersion := prepared.workflow.version
      approvalStepId := binding.approvalStepId
      gatedStepId := binding.gatedStepId
      riskLevel := binding.riskLevel
      expiresAt := now + min timeoutMs remainingTimeMs }
  emit executionId dependencies approval.decidedAt
    (.approvalStatusChanged binding.approvalStepId binding.gatedStepId
      binding.riskLevel approval.decision.status (some approval.decision))
  return approval

/-- Ask for the approval, provided there is a coordinator and a binding. -/
def coordinateApproval
    (index : Nat)
    (step : WorkflowStep)
    (timeoutMs remainingTimeMs : Nat) :
    EngineProgram ApprovalCoordinatorResult :=
  if dependencies.approvalCoordinator then
    match requireApprovalBinding prepared.workflow step.id with
    | none => Program.throwing .other
    | some binding =>
        requestApproval executionId prepared index step timeoutMs
          remainingTimeMs binding
  else
    Program.throwing (.safe .approvalCoordinatorUnavailable none none)

variable (dependencies) in
def grantApproval
    (index : Nat)
    (step : WorkflowStep)
    (attempt : SafeStepAttempt) :
    EngineProgram StepEnd := do
  transitionRun executionId dependencies .running none
  let finishedAtMs ← nowMs
  updateCore fun core => core.updateRecord index fun record =>
    { record with finishedAtMs := some finishedAtMs }
  transitionStep executionId dependencies index step .succeeded none none
  finishAttempt executionId dependencies index step attempt .succeeded
    .completed false none
  return .continued

variable (dependencies) in
def refuseApproval
    (index : Nat)
    (step : WorkflowStep)
    (attempt : SafeStepAttempt)
    (decision : ApprovalDecision) :
    EngineProgram StepEnd :=
  match approvalRefusal decision with
  | none => pure (.closing none)
  | some refusal => do
      let atMs ← nowMs
      recordTermination
        { cause := refusal.cause
          atMs
          error := safeError refusal.code
          stepId := some step.id }
      finishAttempt executionId dependencies index step attempt
        refusal.attemptStatus .readOnly false (some (safeError refusal.code))
      return .closing none

variable (dependencies) in
def settleApproval
    (index : Nat)
    (step : WorkflowStep)
    (attempt : SafeStepAttempt)
    (approval : ApprovalCoordinatorResult) :
    EngineProgram StepEnd := do
  recordDeadlineIfElapsed
  let primary ← choosePrimary
  if approval.decision = .approved ∧ primary = none then
    grantApproval executionId dependencies index step attempt
  else
    refuseApproval executionId dependencies index step attempt
      approval.decision

variable (dependencies) in
/-- The handler of an approval that could not be requested. -/
def abandonApproval
    (index : Nat)
    (step : WorkflowStep)
    (attempt : SafeStepAttempt)
    (error : EngineError) :
    EngineProgram StepEnd := do
  let stepError := toSafeError error .approvalRequestFailed
  finishAttempt executionId dependencies index step attempt
    (failedAttemptStatus stepError.code) .unknown false (some stepError)
  return .closing (some stepError)

def runApprovalStep
    (index : Nat)
    (step : WorkflowStep)
    (timeoutMs remainingTimeMs : Nat) :
    EngineProgram StepEnd := do
  let attempt ← beginAttempt executionId dependencies index step .initial none
  Program.tryCatch
    (do
      let approval ←
        coordinateApproval executionId prepared index step timeoutMs
          remainingTimeMs
      settleApproval executionId dependencies index step attempt approval)
    (abandonApproval executionId dependencies index step attempt)

def recordVerification
    (index : Nat)
    (verification : Option SafeVerificationResult) :
    EngineProgram Unit :=
  match verification with
  | none => pure ()
  | some result =>
      updateCore fun core => core.updateRecord index fun record =>
        { record with verification := some result }

variable (dependencies) in
def storeOutput
    (step : WorkflowStep)
    (outputName : Identifier)
    (produced : ProducedOutput) :
    EngineProgram Unit := do
  let world ← Program.get
  match world.core.outputs.set outputName produced.outputType
      produced.value with
  | .error code => Program.throwing (.safe code none none)
  | .ok outputs => do
      updateCore fun core => { core with outputs }
      let timestamp ← nowMs
      emit executionId dependencies timestamp
        (.outputProduced step.id outputName produced.outputType)

variable (dependencies) in
def recordProducedOutput
    (step : WorkflowStep)
    (produced : Option ProducedOutput) :
    EngineProgram Unit :=
  match step.action, produced with
  | .extract _ source outputName _ _, some produced =>
      if produced.outputName ≠ outputName.text ∨
          some produced.outputType ≠ outputTypeForExtractStep source then
        Program.throwing (.safe .outputTypeMismatch none none)
      else
        storeOutput executionId dependencies step outputName produced
  | .extract .., none =>
      Program.throwing
        (.safe .extractionValueUnavailable none (some .readOnly))
  | _, some _ => Program.throwing (.safe .invalidWorkflow none none)
  | _, none => pure ()

def callAdapter
    (index : Nat)
    (step : WorkflowStep)
    (attempt : SafeStepAttempt) :
    EngineProgram AdapterStepOutput := do
  let now ← nowMs
  let world ← Program.get
  let remainingTimeMs := world.race.deadlineMs - now
  updateCore fun core =>
    core.note (.stepExecuted
      { stepIndex := index
        step
        trigger := attempt.trigger
        attemptNumber := attempt.attemptNumber
        totalTimeoutMs := prepared.options.totalTimeoutMs.value
        remainingTimeMs
        effectiveTimeoutMs :=
          min prepared.options.stepTimeoutMs.value remainingTimeMs })
  environment fun reply world =>
    let world' :=
      { world with
        core := world.core.note (.stepAnswered index reply.executed) }
    match reply.executed with
    | .ok output => (.returned output, world')
    | .error error => (.threw error, world')

/-- How an attempt failed. -/
structure AttemptFailure where
  error : SafeExecutionError
  effectCertainty : ExecutionEffectCertainty
  deriving DecidableEq, Repr

def catchAttempt
    (index : Nat)
    (error : EngineError) :
    EngineProgram (Option AttemptFailure) := do
  recordVerification index error.verification
  return some
    { error := toSafeError error .actionFailed
      effectCertainty := error.effectCertainty }

def performAttempt
    (index : Nat)
    (step : WorkflowStep)
    (attempt : SafeStepAttempt) :
    EngineProgram (Option AttemptFailure) :=
  Program.tryCatch
    (do
      let output ← callAdapter prepared index step attempt
      recordVerification index output.verification
      recordProducedOutput executionId dependencies step output.producedOutput
      return none)
    (catchAttempt index)

/-- What the retry policy is asked about a failed attempt. -/
def retryPolicyInput
    (step : WorkflowStep)
    (failure : AttemptFailure)
    (attempts : List SafeStepAttempt) :
    RetryPolicyInput :=
  { stepType := step.type
    errorCode := failure.error.code
    effectCertainty := failure.effectCertainty
    recoveryMode := prepared.options.recoveryMode
    automaticRetryCount := triggerCount .automaticRetry attempts
    manualRetryCount := triggerCount .manualRetry attempts
    totalAttemptCount := attempts.length
    approvalGated := isApprovalGatedStep prepared.workflow step.id }

inductive RepairEnd where
  | retrying (repairRequestId : Uuid)
  | ended (stepError : Option SafeExecutionError)
  deriving DecidableEq, Repr

def awaitRepair
    (request : RecoveryCoordinatorRequest) :
    EngineProgram RecoveryCoordinatorResult := do
  updateCore fun core => core.note (.repairRequested request)
  environment fun reply world =>
    let world' :=
      { world with
        core := world.core.note
          (.repairAnswered request.stepIndex request.attemptNumber
            reply.repair) }
    match reply.repair with
    | .ok result => (.returned result, world')
    | .error error => (.threw error, world')

variable (dependencies) in
def resumeAfterRepair
    (index : Nat)
    (step : WorkflowStep)
    (repairRequestId : Uuid) :
    EngineProgram RepairEnd := do
  transitionRun executionId dependencies .running none
  transitionStep executionId dependencies index step .running none none
  return .retrying repairRequestId

def endAfterRepair
    (step : WorkflowStep)
    (proposalOnly : Bool)
    (decision : RepairCoordinatorDecision) :
    EngineProgram RepairEnd :=
  match repairTermination proposalOnly decision with
  | none => pure (.ended none)
  | some (cause, code) => do
      let atMs ← nowMs
      recordTermination
        { cause, atMs, error := safeError code, stepId := some step.id }
      return .ended none

variable (dependencies) in
def settleRepair
    (index : Nat)
    (step : WorkflowStep)
    (attempt : SafeStepAttempt)
    (failure : AttemptFailure)
    (proposalOnly : Bool)
    (repair : RecoveryCoordinatorResult) :
    EngineProgram RepairEnd := do
  emit executionId dependencies repair.decidedAt
    (.repairStatusChanged step.id attempt.attemptNumber repair.decision.status
      failure.error.code failure.effectCertainty
      (!proposalOnly && repair.decision == .retry))
  recordDeadlineIfElapsed
  let primary ← choosePrimary
  if proposalOnly = false ∧ repair.decision = .retry ∧ primary = none then
    resumeAfterRepair executionId dependencies index step
      repair.repairRequestId
  else
    endAfterRepair step proposalOnly repair.decision

def requestRepair
    (index : Nat)
    (step : WorkflowStep)
    (attempt : SafeStepAttempt)
    (failure : AttemptFailure) :
    EngineProgram (Option RecoveryCoordinatorResult) := do
  transitionStep executionId dependencies index step .waitingForRepair none
    none
  transitionRun executionId dependencies .waitingForRepair none
  let now ← nowMs
  let later ← nowMs
  let world ← Program.get
  Program.orNone <| awaitRepair
    { executionId
      workflowId := prepared.workflow.workflowId
      workflowVersion := prepared.workflow.version
      stepId := step.id
      stepIndex := index
      stepType := step.type
      attemptNumber := attempt.attemptNumber
      safeErrorCode := failure.error.code
      effectCertainty := failure.effectCertainty
      expiresAt :=
        now + min maxRepairTimeoutMs (max 1 (world.race.deadlineMs - later)) }

def repairStep
    (index : Nat)
    (step : WorkflowStep)
    (attempt : SafeStepAttempt)
    (failure : AttemptFailure)
    (proposalOnly : Bool) :
    EngineProgram RepairEnd :=
  if dependencies.recoveryCoordinator then do
    match ← requestRepair executionId prepared index step attempt failure with
    | none => return .ended (some (safeError .recoveryRequestFailed))
    | some repair =>
        settleRepair executionId dependencies index step attempt failure
          proposalOnly repair
  else
    pure (.ended (some (safeError .recoveryCoordinatorUnavailable)))

/-- What follows an attempt that failed and was finished. -/
def followUp
    (retry : RetryTrigger → Option Uuid →
      EngineProgram (Option SafeExecutionError))
    (index : Nat)
    (step : WorkflowStep)
    (attempt : SafeStepAttempt)
    (failure : AttemptFailure) :
    RetryDisposition → EngineProgram (Option SafeExecutionError)
  | .automaticRetry => retry .automaticRetry none
  | .manualRepair => do
      match ← repairStep executionId prepared index step attempt failure
          false with
      | .retrying repairRequestId =>
          retry .manualRetry (some repairRequestId)
      | .ended stepError => return stepError
  | .locatorProposal => do
      match ← repairStep executionId prepared index step attempt failure
          true with
      | .retrying repairRequestId =>
          retry .manualRetry (some repairRequestId)
      | .ended stepError => return stepError
  | .newRunRequired =>
      pure (some (safeError .approvalGatedRetryRequiresNewRun))
  | .none => pure (some failure.error)

/-- One round of the loop: an attempt and what follows it. -/
def attemptRound
    (retry : RetryTrigger → Option Uuid →
      EngineProgram (Option SafeExecutionError))
    (index : Nat)
    (step : WorkflowStep)
    (trigger : RetryTrigger)
    (repairRequestId : Option Uuid) :
    EngineProgram (Option SafeExecutionError) := do
  let attempt ←
    beginAttempt executionId dependencies index step trigger repairRequestId
  match ← performAttempt executionId prepared index step attempt with
  | none => do
      finishAttempt executionId dependencies index step attempt .succeeded
        .completed false none
      return none
  | some failure => do
      let world ← Program.get
      let decision :=
        decideRetry
          (retryPolicyInput prepared step failure (world.core.attemptsAt index))
      finishAttempt executionId dependencies index step attempt
        (failedAttemptStatus failure.error.code) failure.effectCertainty
        decision.retryAllowed (some failure.error)
      followUp executionId prepared retry index step attempt failure
        decision.disposition

/--
The attempts at a step.  The fuel bounds the number of rounds; running out of
it stops the program without an answer.
-/
def attemptLoop
    (index : Nat)
    (step : WorkflowStep) :
    Nat → RetryTrigger → Option Uuid →
      EngineProgram (Option SafeExecutionError)
  | 0, _, _ => Program.crashing
  | fuel + 1, trigger, repairRequestId => do
      recordDeadlineIfElapsed
      match ← choosePrimary with
      | some _ => return none
      | none =>
          attemptRound executionId prepared (attemptLoop index step fuel)
            index step trigger repairRequestId

/-- Record the failure that a step ends with. -/
def recordStepError
    (step : WorkflowStep) :
    Option SafeExecutionError → EngineProgram Unit
  | none => pure ()
  | some stepError => do
      let atMs ← nowMs
      recordTermination
        { cause :=
            if stepError.code ∈ timeoutErrorCodes then .stepTimeout
            else .stepFailed
          atMs
          error := stepError
          stepId := some step.id }

variable (dependencies) in
/-- Finish a step; `true` when it succeeded. -/
def settleStep
    (index : Nat)
    (step : WorkflowStep)
    (primary : Option PrimaryTermination) :
    EngineProgram Bool := do
  let finishedAtMs ← nowMs
  updateCore fun core => core.updateRecord index fun record =>
    { record with finishedAtMs := some finishedAtMs }
  match primary with
  | some primary => do
      updateCore fun core => core.updateRecord index fun record =>
        { record with error := some primary.error }
      transitionStep executionId dependencies index step
        (terminatedStepStatus primary.cause) (some primary.error) none
      return false
  | none => do
      transitionStep executionId dependencies index step .succeeded none none
      return true

variable (dependencies) in
/-- Close a step that did not continue. -/
def closeStep
    (index : Nat)
    (step : WorkflowStep)
    (stepError : Option SafeExecutionError) :
    EngineProgram Bool := do
  recordDeadlineIfElapsed
  recordStepError step stepError
  let primary ← choosePrimary
  settleStep executionId dependencies index step primary

/-- Execute an opened step up to its end. -/
def performStep
    (index : Nat)
    (step : WorkflowStep)
    (remainingTimeMs : Nat) :
    EngineProgram StepEnd :=
  match step.action with
  | .approval _ _ timeoutMs =>
      runApprovalStep executionId prepared index step timeoutMs.value
        remainingTimeMs
  | _ => do
      let stepError ←
        attemptLoop executionId prepared index step maxTotalAttempts .initial
          none
      return .closing stepError

/-- One turn of the step loop; `true` when the loop continues. -/
def runStep
    (index : Nat)
    (step : WorkflowStep)
    (remainingTimeMs : Nat) :
    EngineProgram Bool := do
  let startedAtMs ← nowMs
  updateCore fun core => core.updateRecord index fun record =>
    { record with startedAtMs := some startedAtMs }
  transitionStep executionId dependencies index step .running none none
  match ← performStep executionId prepared index step remainingTimeMs with
  | .continued => return true
  | .closing stepError =>
      closeStep executionId dependencies index step stepError

def timeOutBetweenSteps : EngineProgram Unit := do
  let world ← Program.get
  recordTermination (timeoutCandidate world.race.deadlineMs)
  let _ ← choosePrimary
  return ()

def runSteps :
    List WorkflowStep → Nat → EngineProgram Unit
  | [], _ => pure ()
  | step :: rest, index => do
      recordDeadlineIfElapsed
      match ← choosePrimary with
      | some _ => return ()
      | none => do
          let now ← nowMs
          let world ← Program.get
          if world.race.deadlineMs - now = 0 then
            timeOutBetweenSteps
          else do
            match ← runStep executionId prepared index step
                (world.race.deadlineMs - now) with
            | true => runSteps rest (index + 1)
            | false => return ()

def failAdapterStart (error : EngineError) : EngineProgram Unit := do
  let atMs ← nowMs
  recordTermination
    { cause := .adapterStartFailed
      atMs
      error := toSafeError error .adapterStartFailed
      stepId := none }

def startAdapter : EngineProgram Unit :=
  Program.tryCatch
    (do
      updateCore fun core => core.note .adapterStarted
      environment fun reply world =>
        match reply.started with
        | .ok _ => (.returned (), world)
        | .error error => (.threw error, world))
    failAdapterStart

/-- Skip what is left of a terminated run and announce its end. -/
def announceTermination : EngineProgram Unit := do
  let world ← Program.get
  match world.core.primary with
  | none => return ()
  | some primary => do
      skipPending executionId dependencies prepared.workflow.steps
        (skipReasonFor primary.cause)
      transitionRun executionId dependencies
        (if cancelsRun primary.cause then .cancelling
        else (terminalStatusFor primary.cause).runStatus)
        (some primary.error)

def runPrepared : EngineProgram Unit := do
  startAdapter
  recordDeadlineIfElapsed
  match ← choosePrimary with
  | some _ => announceTermination executionId prepared
  | none => do
      transitionRun executionId dependencies .running none
      runSteps executionId prepared prepared.workflow.steps 0
      announceTermination executionId prepared

/-- What is known after the resources were released. -/
structure ReleasedResources where
  cleanupError : Option SafeExecutionError
  outputs : List SafeWorkflowOutputSummary
  deriving DecidableEq, Repr

def stopAdapter (cause : TerminationCause) :
    EngineProgram (Option SafeExecutionError) :=
  environment fun reply world =>
    let cleanupError :=
      match reply.stopped with
      | .ok cleanupError => cleanupError
      | .error _ => some (safeError .resourceCleanupFailed)
    (.returned cleanupError,
      { world with
        core := world.core.note (.adapterStopped cause cleanupError) })

def releaseResources : EngineProgram ReleasedResources := do
  updateRace fun race => { race with listening := false, timerArmed := false }
  let world ← Program.get
  let cleanupError ← stopAdapter
    (match world.core.primary with
    | none => .completed
    | some primary => primary.cause.terminationCause)
  let outputs := world.core.outputs.summaries
  updateCore fun core => { core with outputs := core.outputs.clear }
  return { cleanupError, outputs }

/-- Parse the result, or throw what its schema throws. -/
def buildResult (input : FinalResultInput) :
    EngineProgram WorkflowExecutionResult :=
  match buildWorkflowExecutionResult input with
  | none => Program.throwing .other
  | some result => pure result

def cleanupWarning : WorkflowEngineWarning :=
  { code := .resourceCleanupFailed
    message := "Execution resources could not be closed cleanly." }

def isTerminalRunStatus : WorkflowEngineRunStatus → Bool
  | .succeeded => true
  | .failed => true
  | .cancelled => true
  | .timedOut => true
  | .interrupted => true
  | _ => false

/-- How a prepared run ends, once its status has been announced. -/
structure RunEnd where
  status : TerminalRunStatus
  cause : TerminationCause
  error : Option SafeExecutionError
  failedStepId : Option NonEmptyString
  deriving DecidableEq, Repr

def finishPrepared
    (startedAtMs : Nat)
    (released : ReleasedResources)
    (ending : RunEnd) :
    EngineProgram WorkflowExecutionResult := do
  let world ← Program.get
  if isTerminalRunStatus world.core.run then do
    let finishedAtMs ← nowMs
    buildResult
      { executionId
        workflow := some prepared.workflow
        status := ending.status
        startedAtMs
        finishedAtMs
        terminationCause := ending.cause
        records := world.core.records
        warnings :=
          world.progress.warnings ++
            (if released.cleanupError.isSome then [cleanupWarning] else [])
        error := ending.error
        failedStepId := ending.failedStepId
        outputs := some released.outputs }
  else
    Program.throwing .other

variable (dependencies) in
def warnAboutCleanup
    (cleanupError : Option SafeExecutionError) :
    EngineProgram Unit :=
  match cleanupError with
  | none => pure ()
  | some _ => do
      let timestamp ← nowMs
      emit executionId dependencies timestamp (.warning .resourceCleanupFailed)

/-- The final run status of a terminated run, if it is still to be reached. -/
def settleTermination (primary : PrimaryTermination) : EngineProgram Unit :=
  if cancelsRun primary.cause then
    transitionRun executionId dependencies .cancelled (some primary.error)
  else
    pure ()

def concludePrepared
    (startedAtMs : Nat)
    (released : ReleasedResources) :
    EngineProgram WorkflowExecutionResult := do
  warnAboutCleanup executionId dependencies released.cleanupError
  let world ← Program.get
  match world.core.primary, released.cleanupError with
  | some primary, _ => do
      @settleTermination executionId dependencies primary
      finishPrepared executionId prepared startedAtMs released
        { status := terminalStatusFor primary.cause
          cause := primary.cause.terminationCause
          error := some primary.error
          failedStepId := primary.stepId }
  | none, some cleanupError => do
      transitionRun executionId dependencies .failed (some cleanupError)
      finishPrepared executionId prepared startedAtMs released
        { status := .failed
          cause := .cleanupFailed
          error := some cleanupError
          failedStepId := none }
  | none, none => do
      transitionRun executionId dependencies .succeeded none
      finishPrepared executionId prepared startedAtMs released
        { status := .succeeded
          cause := .completed
          error := none
          failedStepId := none }

/-- An abort that came before the listener was installed. -/
def recordEarlierAbort : EngineProgram Unit := do
  let world ← Program.get
  if world.race.aborted then do
    let atMs ← nowMs
    recordTermination (cancelCandidate atMs)
  else
    pure ()

/-- Install the abort listener and the total timer. -/
def startRace (totalTimeoutMs : Nat) : EngineProgram Unit := do
  let executionStartedAtMs ← nowMs
  updateRace fun race =>
    { race with
      listening := true
      deadlineMs := executionStartedAtMs + totalTimeoutMs }
  recordEarlierAbort
  updateRace fun race => { race with timerArmed := true }

def executePrepared
    (startedAtMs : Nat) :
    EngineProgram WorkflowExecutionResult := do
  updateCore fun core =>
    { core with
      outputs :=
        RuntimeOutputStore.create (defineWorkflowOutputs prepared.workflow) }
  startRace prepared.options.totalTimeoutMs.value
  transitionRun executionId dependencies .starting none
  let (_, released) ←
    Program.withCleanup (runPrepared executionId prepared) releaseResources
  concludePrepared executionId prepared startedAtMs released

variable (dependencies) in
/-- End a run before its adapter is started. -/
def finishEarly
    (workflow : Option WorkflowDefinition)
    (startedAtMs : Nat)
    (status : TerminalRunStatus)
    (cause : TerminationCause)
    (error : SafeExecutionError) :
    EngineProgram WorkflowExecutionResult := do
  transitionRun executionId dependencies status.runStatus (some error)
  let finishedAtMs ← nowMs
  let world ← Program.get
  buildResult
    { executionId
      workflow
      status
      startedAtMs
      finishedAtMs
      terminationCause := cause
      records := world.core.records
      warnings := world.progress.warnings
      error := some error
      failedStepId := none
      outputs := none }

variable (dependencies) in
def cancelBeforeStart
    (workflow : Option WorkflowDefinition)
    (startedAtMs : Nat) :
    EngineProgram WorkflowExecutionResult := do
  transitionRun executionId dependencies .cancelling none
  skipPending executionId dependencies (declaredSteps workflow) .runCancelled
  finishEarly executionId dependencies workflow startedAtMs .cancelled
    .runCancelled (safeError .executionCancelled)

variable (dependencies) in
def rejectPreflight
    (workflow : Option WorkflowDefinition)
    (startedAtMs : Nat)
    (error : SafeExecutionError) :
    EngineProgram WorkflowExecutionResult := do
  skipPending executionId dependencies (declaredSteps workflow)
    .preflightFailed
  finishEarly executionId dependencies workflow startedAtMs .failed
    .preflightFailed error

variable (dependencies) in
/-- What follows the preflight, unless the caller has aborted. -/
def followPreflight
    (startedAtMs : Nat)
    (preflight : PreflightResult dependencies) :
    EngineProgram WorkflowExecutionResult := do
  initializeSteps executionId dependencies preflight.workflow
  let world ← Program.get
  if world.race.aborted then
    cancelBeforeStart executionId dependencies preflight.workflow startedAtMs
  else
    match preflight with
    | .failed error workflow =>
        rejectPreflight executionId dependencies workflow startedAtMs error
    | .prepared prepared => executePrepared executionId prepared startedAtMs

variable (dependencies) in
def validateAndExecute
    (input : ExecutionInput)
    (startedAtMs : Nat) :
    EngineProgram WorkflowExecutionResult := do
  transitionRun executionId dependencies .validating none
  match preflightWorkflowExecution dependencies input with
  | none => Program.throwing .other
  | some preflight =>
      followPreflight executionId dependencies startedAtMs preflight

variable (dependencies) in
/-- `WorkflowEngine.execute`. -/
def execute (input : ExecutionInput) :
    EngineProgram WorkflowExecutionResult := do
  let startedAtMs ← nowMs
  emitRun executionId dependencies .pending none
  let world ← Program.get
  if world.race.aborted then do
    initializeSteps executionId dependencies input.workflow
    cancelBeforeStart executionId dependencies input.workflow startedAtMs
  else
    validateAndExecute executionId dependencies input startedAtMs

/-- The world in which an execution begins. -/
def EngineWorld.initial (aborted : Bool) : EngineWorld :=
  { core :=
      { run := .pending
        steps := StepStateMachine.create []
        records := []
        outputs := RuntimeOutputStore.create []
        primary := none
        history := [] }
    race :=
      { aborted
        listening := false
        timerArmed := false
        deadlineMs := 0
        arbiter := TerminationArbiter.create }
    progress := { enabled := true, failed := false } }

end TaskTwin.Engine
