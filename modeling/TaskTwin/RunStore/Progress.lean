import TaskTwin.RunStore.Leases

/-!
# Progress

The batches of progress that a runner submits.  A batch whose identifier is
known is compared with the batch that was accepted under it; any other batch
has to continue where the last one ended, and its events are applied one after
the other.
-/

namespace TaskTwin.RunStore

open Text Schema Workflow Recovery Engine Audit Store

structure SequencedWorkflowProgressEvent where
  sequence : Nat
  event : WorkflowProgressEvent
  deriving DecidableEq

def maxProgressBatchEvents : Nat := 50

/-- A parsed `WorkflowProgressBatchSchema` value. -/
structure WorkflowProgressBatch where
  clientBatchId : JsString
  firstSequence : Nat
  lastSequence : Nat
  events : List SequencedWorkflowProgressEvent
  positive : 0 < firstSequence
  nonEmpty : events ≠ []
  notTooMany : events.length ≤ maxProgressBatchEvents
  eventsParse : events.all (·.event.parses) = true
  range : lastSequence + 1 = firstSequence + events.length
  contiguous :
    events.map (·.sequence) = List.range' firstSequence events.length
  deriving DecidableEq

structure IngestProgress where
  workflowRunId : JsString
  lease : LeaseClaim
  batch : WorkflowProgressBatch
  payloadDigest : JsString
  now : Nat
  /-- The identifiers of the attempts that the events create. -/
  newAttemptId : Nat → JsString

structure ProgressBatchResult where
  acceptedThroughSequence : Nat
  idempotent : Bool
  cancelRequested : Bool
  deriving DecidableEq

def WorkflowProgressBatch.row
    (batch : WorkflowProgressBatch)
    (payloadDigest : JsString) :
    WorkflowRunProgressBatch :=
  { clientBatchId := batch.clientBatchId
    firstSequence := batch.firstSequence
    lastSequence := batch.lastSequence
    eventCount := batch.events.length
    payloadDigest }

/-- What is kept while the events of a batch are applied. -/
structure Ingestion where
  /-- The row of the run, with its steps and outputs, as it is being changed. -/
  run : WorkflowRun
  lastEngineStatus : Option WorkflowEngineRunStatus
  waitingApprovalEmitted : Bool
  waitingRepairEmitted : Bool
  events : List AuditEventInput

def Ingestion.begin (run : WorkflowRun) : Ingestion :=
  { run
    lastEngineStatus := run.lastEngineStatus
    waitingApprovalEmitted := false
    waitingRepairEmitted := false
    events := [] }

def Ingestion.setStatus
    (state : Ingestion)
    (status : WorkflowRunStatus) :
    Ingestion :=
  { state with run := { state.run with status } }

def Ingestion.audit
    (state : Ingestion)
    (event : AuditEventInput) :
    Ingestion :=
  { state with events := state.events ++ [event] }

def Ingestion.changeStep
    (state : Ingestion)
    (stepId : NonEmptyString)
    (change : WorkflowRunStep → WorkflowRunStep) :
    Ingestion :=
  { state with
    run :=
      { state.run with
        steps :=
          updateMany (fun step => step.sourceStepId = stepId) change
            state.run.steps } }

def WorkflowRun.step?
    (run : WorkflowRun)
    (stepId : NonEmptyString) :
    Option WorkflowRunStep :=
  findUnique WorkflowRunStep.sourceStepId stepId run.steps

/-- The last approval step of a run. -/
def WorkflowRun.lastApprovalStep (run : WorkflowRun) : Option WorkflowRunStep :=
  run.steps.reverse.find? fun step => step.stepType = .approval

/-- The last step of a run that a repair was requested for. -/
def WorkflowRun.lastRepairStep (run : WorkflowRun) : Option WorkflowRunStep :=
  run.steps.reverse.find? fun step =>
    run.repairRequests.any fun request => request.stepId = step.sourceStepId

def WorkflowRun.latestRepair
    (run : WorkflowRun)
    (stepId : NonEmptyString) :
    Option WorkflowRepairRequest :=
  run.orderedRepairRequests.reverse.find? fun request =>
    request.stepId = stepId

variable (hasher : AuditHasher) (runnerDeviceId : JsString)

/-- The run begins, or goes on after it has waited. -/
def Ingestion.runs (state : Ingestion) (time : Nat) : Ingestion :=
  if state.run.status = .claimed ∨ state.run.status = .waitingForApproval ∨
      state.run.status = .waitingForRepair then
    let running := state.setStatus .running
    if state.run.startedAt = none then
      let run := { running.run with startedAt := some time }
      { running with run }.audit
        (buildRunStartedInput hasher run runnerDeviceId time)
    else
      running
  else
    state

/-- The run waits for an approval; the event names the last approval step. -/
def Ingestion.waitsForApproval (state : Ingestion) (time : Nat) : Ingestion :=
  if state.run.status = .running then
    let waiting := state.setStatus .waitingForApproval
    if state.waitingApprovalEmitted then
      waiting
    else
      let waiting := { waiting with waitingApprovalEmitted := true }
      match state.run.lastApprovalStep with
      | none => waiting
      | some step =>
          waiting.audit
            (buildWaitingForApprovalInput hasher waiting.run runnerDeviceId step
              time)
  else
    state

/-- The run waits for a repair of the last step that one was requested for. -/
def Ingestion.waitsForRepair (state : Ingestion) (time : Nat) : Ingestion :=
  if state.run.status = .running then
    let waiting := state.setStatus .waitingForRepair
    if state.waitingRepairEmitted then
      waiting
    else
      let waiting := { waiting with waitingRepairEmitted := true }
      match
          state.run.lastRepairStep.bind fun step =>
            (state.run.latestRepair step.sourceStepId).map fun request =>
              (step, request)
        with
      | none => waiting
      | some (step, request) =>
          waiting.audit
            (buildWaitingForRepairInput hasher waiting.run runnerDeviceId step
              request.attemptNumber time)
  else
    state

/-- `run_status_changed`. -/
def applyRunStatus
    (status : WorkflowEngineRunStatus)
    (time : Nat)
    (state : Ingestion) :
    Except StoreFailure Ingestion := do
  refuseIf (!validEngineRunTransition state.lastEngineStatus status)
    .progressTransitionInvalid
  let state := { state with lastEngineStatus := some status }
  match status with
  | .running => .ok (state.runs hasher runnerDeviceId time)
  | .waitingForApproval =>
      .ok (state.waitsForApproval hasher runnerDeviceId time)
  | .waitingForRepair => .ok (state.waitsForRepair hasher runnerDeviceId time)
  | _ => .ok state

/-- `output_produced`. -/
def applyOutputProduced
    (producerStepId : NonEmptyString)
    (outputName : Identifier)
    (outputType : WorkflowOutputType)
    (time : Nat)
    (state : Ingestion) :
    Except StoreFailure Ingestion := do
  let output ←
    orThrow .progressTransitionInvalid
      (findUnique WorkflowRunOutput.outputName outputName state.run.outputs)
  let producer ←
    orThrow .progressTransitionInvalid (state.run.step? producerStepId)
  refuseIf
    (output.producerStepId ≠ producerStepId ∨ output.outputType ≠ outputType ∨
      output.status ≠ .notProduced ∨ producer.status ≠ .running)
    .progressTransitionInvalid
  let outputs :=
    updateMany (fun output => output.outputName = outputName)
      (fun output =>
        { output with status := .produced, producedAt := some time })
      state.run.outputs
  .ok
    ({ state with run := { state.run with outputs } }.audit
      (buildOutputProducedInput hasher state.run runnerDeviceId output
        producer.sourceStepIndex time))

/-- `approval_status_changed`: the control plane has to know the status. -/
def applyApprovalStatus
    (approvalStepId gatedStepId : NonEmptyString)
    (status : ApprovalRequestStatus)
    (state : Ingestion) :
    Except StoreFailure Ingestion := do
  let request :=
    state.run.approvalRequests.find? fun request =>
      request.approvalStepId = approvalStepId
  refuseIf
    (status ≠ .pending ∧
      request.all fun request =>
        request.gatedStepId ≠ gatedStepId ∨ request.status ≠ status)
    .progressTransitionInvalid
  .ok state

/-- `repair_status_changed`. -/
def applyRepairStatus
    (stepId : NonEmptyString)
    (attemptNumber : Nat)
    (status : RepairRequestStatus)
    (errorCode : ExecutionErrorCode)
    (retryAllowed : Bool)
    (state : Ingestion) :
    Except StoreFailure Ingestion := do
  let request ←
    orThrow .progressTransitionInvalid
      (state.run.repairRequests.find? fun request =>
        request.stepId = stepId ∧ request.attemptNumber = attemptNumber)
  refuseIf
    (request.status ≠ status ∨ request.retryAllowed ≠ retryAllowed ∨
      request.safeErrorCode ≠ errorCode)
    .progressTransitionInvalid
  .ok state

/-- The approved request that a manual retry follows. -/
def retryAuthorization
    (run : WorkflowRun)
    (stepId : NonEmptyString)
    (attemptNumber : Nat)
    (trigger : RetryTrigger) :
    Except StoreFailure (Option JsString) :=
  if trigger = .manualRetry then do
    let request ←
      orThrow .progressTransitionInvalid
        (run.repairRequests.find? fun request =>
          request.stepId = stepId ∧
            request.attemptNumber + 1 = attemptNumber ∧
            request.status = .retryApproved)
    refuseIf
      (run.steps.any fun step =>
        step.attempts.any fun attempt =>
          attempt.authorizedByRepairRequestId = some request.id)
      .uniqueConstraint
    return some request.id
  else
    return none

/-- `step_attempt_status_changed` of an attempt that begins. -/
def beginAttempt
    (stepId : NonEmptyString)
    (attemptNumber : Nat)
    (trigger : RetryTrigger)
    (effectCertainty : ExecutionEffectCertainty)
    (attemptId : JsString)
    (time : Nat)
    (state : Ingestion) :
    Except StoreFailure Ingestion := do
  let step ← orThrow .progressTransitionInvalid (state.run.step? stepId)
  refuseIf (attemptNumber ≠ step.attempts.length + 1)
    .progressTransitionInvalid
  refuseIf (attemptNumber ≠ 1 ∧ trigger = .initial) .progressTransitionInvalid
  let authorizedByRepairRequestId ←
    retryAuthorization state.run stepId attemptNumber trigger
  let created : WorkflowRunStepAttempt :=
    { id := attemptId
      attemptNumber
      trigger
      status := .running
      startedAt := time
      finishedAt := none
      durationMs := none
      safeErrorCode := none
      effectCertainty
      authorizedByRepairRequestId }
  .ok
    ((state.changeStep stepId fun step =>
        { step with attempts := step.attempts ++ [created] }).audit
      (buildAttemptStartedInput hasher state.run runnerDeviceId step created))

/-- `step_attempt_status_changed` of an attempt that ends. -/
def endAttempt
    (stepId : NonEmptyString)
    (attemptNumber : Nat)
    (trigger : RetryTrigger)
    (status : StepAttemptStatus)
    (errorCode : Option ExecutionErrorCode)
    (effectCertainty : ExecutionEffectCertainty)
    (time : Nat)
    (state : Ingestion) :
    Except StoreFailure Ingestion := do
  let step ← orThrow .progressTransitionInvalid (state.run.step? stepId)
  let attempt ←
    orThrow .progressTransitionInvalid
      (step.attempts.find? fun attempt =>
        attempt.attemptNumber = attemptNumber)
  refuseIf (attempt.status ≠ .running ∨ trigger ≠ attempt.trigger)
    .progressTransitionInvalid
  let durationMs := time - attempt.startedAt
  let finish (attempt : WorkflowRunStepAttempt) : WorkflowRunStepAttempt :=
    { attempt with
      status
      finishedAt := some time
      durationMs := some durationMs
      safeErrorCode := errorCode.map .engine
      effectCertainty }
  .ok
    ((state.changeStep stepId fun step =>
        { step with
          attempts :=
            updateMany (fun attempt => attempt.attemptNumber = attemptNumber)
              finish step.attempts }).audit
      (buildAttemptTerminalInput hasher state.run runnerDeviceId step attempt.id
        attemptNumber trigger status effectCertainty errorCode durationMs time))

/-- `step_status_changed`. -/
def applyStepStatus
    (stepId : NonEmptyString)
    (stepType : WorkflowStepType)
    (status : WorkflowEngineStepStatus)
    (errorCode : Option ExecutionErrorCode)
    (skippedReason : Option SkippedStepReason)
    (time : Nat)
    (state : Ingestion) :
    Except StoreFailure Ingestion := do
  let step ← orThrow .progressTransitionInvalid (state.run.step? stepId)
  let next := persistedStepStatus status
  refuseIf
    (step.stepType ≠ stepType ∨
      !validEngineStepTransition step.lastEngineStatus status)
    .progressTransitionInvalid
  refuseIf (step.status ≠ next ∧ !canTransitionRunStep step.status next)
    .progressTransitionInvalid
  refuseIf
    (next = .running ∧
      state.run.steps.any fun candidate =>
        candidate.sourceStepId ≠ stepId ∧ candidate.status = .running)
    .progressTransitionInvalid
  .ok
    (state.changeStep stepId fun step =>
      { step with
        lastEngineStatus := some status
        status := next
        startedAt := if status = .running then some time else step.startedAt
        finishedAt := if finishesStep status then some time else step.finishedAt
        errorCode := errorCode.map .engine
        skippedReason := skippedReason.map .engine })

/-- One event of a batch. -/
def applyEvent
    (newAttemptId : Nat → JsString)
    (state : Ingestion)
    (item : SequencedWorkflowProgressEvent) :
    Except StoreFailure Ingestion := do
  let event := item.event
  refuseIf (uuidText event.executionId ≠ state.run.id)
    .progressTransitionInvalid
  match event.kind with
  | .runStatusChanged status _ =>
      applyRunStatus hasher runnerDeviceId status event.timestamp state
  | .warning _ => .ok state
  | .outputProduced producerStepId outputName outputType =>
      applyOutputProduced hasher runnerDeviceId producerStepId outputName
        outputType event.timestamp state
  | .approvalStatusChanged approvalStepId gatedStepId _ status _ =>
      applyApprovalStatus approvalStepId gatedStepId status state
  | .repairStatusChanged stepId attemptNumber status errorCode _
      retryAllowed =>
      applyRepairStatus stepId attemptNumber status errorCode retryAllowed state
  | .stepAttemptStatusChanged stepId attemptNumber trigger status errorCode
      effectCertainty _ =>
      if status = .running then
        beginAttempt hasher runnerDeviceId stepId attemptNumber trigger
          effectCertainty (newAttemptId item.sequence) event.timestamp state
      else
        endAttempt hasher runnerDeviceId stepId attemptNumber trigger status
          errorCode effectCertainty event.timestamp state
  | .stepStatusChanged stepId stepType status errorCode skippedReason =>
      applyStepStatus stepId stepType status errorCode skippedReason
        event.timestamp state

/-- The events of a batch, one after the other. -/
def applyEvents
    (newAttemptId : Nat → JsString)
    (items : List SequencedWorkflowProgressEvent)
    (state : Ingestion) :
    Except StoreFailure Ingestion :=
  items.foldlM (applyEvent hasher runnerDeviceId newAttemptId) state

/-- The answer to a batch whose identifier was accepted before. -/
def replayBatch
    (input : IngestProgress)
    (run : WorkflowRun)
    (existing : WorkflowRunProgressBatch) :
    Except StoreFailure (RunChange ProgressBatchResult) := do
  refuseIf
    (existing.payloadDigest ≠ input.payloadDigest ∨
      existing.firstSequence ≠ input.batch.firstSequence ∨
      existing.lastSequence ≠ input.batch.lastSequence)
    .progressBatchConflict
  return unchanged run
    { acceptedThroughSequence := existing.lastSequence
      idempotent := true
      cancelRequested := run.status = .cancelRequested }

/-- The run after the events of a batch were applied. -/
def Ingestion.finish
    (state : Ingestion)
    (input : IngestProgress) :
    RunChange ProgressBatchResult :=
  { run :=
      { state.run with
        lastEngineStatus := state.lastEngineStatus
        lastProgressSequence := input.batch.lastSequence
        progressBatches :=
          state.run.progressBatches ++ [input.batch.row input.payloadDigest] }
    events := state.events
    answer :=
      { acceptedThroughSequence := input.batch.lastSequence
        idempotent := false
        cancelRequested := state.run.status = .cancelRequested } }

/-- A batch under a new identifier. -/
def applyBatch
    (input : IngestProgress)
    (run : WorkflowRun) :
    Except StoreFailure (RunChange ProgressBatchResult) := do
  refuseIf (input.batch.firstSequence ≠ run.lastProgressSequence + 1)
    .progressSequenceInvalid
  let state ←
    applyEvents hasher input.lease.runnerDeviceId input.newAttemptId
      input.batch.events (.begin run)
  return state.finish input

def ingestRun
    (input : IngestProgress)
    (run : WorkflowRun) :
    Except StoreFailure (RunChange ProgressBatchResult) := do
  requireLease none input.lease input.now run
  match
      findUnique WorkflowRunProgressBatch.clientBatchId
        input.batch.clientBatchId run.progressBatches with
  | some existing => replayBatch input run existing
  | none => applyBatch hasher input run

variable {Trail : Type} (append : Trail → JsValue → Option Trail)

/-- The second transaction of `ingestProgress`. -/
def ingestLockedProgress
    (input : IngestProgress)
    (db : Database Trail) :
    Except StoreFailure (Database Trail × ProgressBatchResult) :=
  changeRun append input.workflowRunId .runNotFound (ingestRun hasher input) db

def ingestProgress
    (input : IngestProgress)
    (db : Database Trail) :
    Database Trail × Except StoreFailure ProgressBatchResult :=
  andThen (expireRunIfRequired hasher append input.workflowRunId input.now)
    (ingestLockedProgress hasher append input) db

end TaskTwin.RunStore

/-! ## Completion -/

namespace TaskTwin.RunStore

open Text Schema Workflow Recovery Engine Audit Store

structure CompletionInput where
  clientCompletionId : JsString
  digest : JsString
  result : WorkflowExecutionResult
  /-- `createCanonicalJsonDigest` of the parsed result. -/
  resultDigest : JsString

structure Complete where
  workflowRunId : JsString
  lease : LeaseClaim
  completion : CompletionInput
  now : Nat

/-- The result has the steps of the run. -/
def stepsMatch
    (result : WorkflowExecutionResult)
    (run : WorkflowRun) :
    Bool :=
  result.steps.map (fun step => (step.stepId, step.stepType)) ==
    run.steps.map fun step => (step.sourceStepId, step.stepType)

/-- A result that says that the run was ended by an expired wait. -/
def matchesExpiry
    (cause : TerminationCause)
    (result : WorkflowExecutionResult)
    (run : WorkflowRun) :
    Bool :=
  result.parses && uuidText result.executionId == run.id &&
    result.status == .timedOut && result.terminationCause == cause &&
    stepsMatch result run

/-- The run with a completion that changes nothing else. -/
def WorkflowRun.recordCompletion
    (run : WorkflowRun)
    (completion : CompletionInput) :
    WorkflowRun :=
  { run with
    clientCompletionId := some completion.clientCompletionId
    completionDigest := some completion.digest
    finalResult := some completion.result }

/-- The completion that is recorded for a run. -/
def WorkflowRun.hasRecorded
    (run : WorkflowRun)
    (completion : CompletionInput) :
    Bool :=
  run.clientCompletionId = some completion.clientCompletionId &&
    run.completionDigest = some completion.digest

/-- A completion of a run that is finished. -/
def completeFinished
    (completion : CompletionInput)
    (run : WorkflowRun) :
    Except StoreFailure (RunChange CompletionResult) :=
  if run.hasRecorded completion then do
    let record ← toRecord run
    return unchanged run { run := record, idempotent := true }
  else if run.status = .timedOut ∧
      run.terminationCause = some (.engine .approvalExpired) ∧
      run.clientCompletionId = none then do
    refuseIf (!matchesExpiry .approvalExpired completion.result run)
      .completionInvalid
    let updated := run.recordCompletion completion
    let record ← toRecord updated
    .ok
      { run := updated
        events := []
        answer := { run := record, idempotent := false } }
  else
    .error .completionConflict

/-- An attempt of the result is the one that the control plane has seen. -/
def attemptAgrees
    (attempt : SafeStepAttempt)
    (persisted : WorkflowRunStepAttempt) :
    Bool :=
  persisted.attemptNumber == attempt.attemptNumber &&
    attempt.trigger == persisted.trigger &&
    attempt.status == persisted.status &&
    attempt.effectCertainty == persisted.effectCertainty &&
    attempt.errorCode.map StoredErrorCode.engine == persisted.safeErrorCode &&
    attempt.repairRequestId.map uuidText ==
      persisted.authorizedByRepairRequestId

def attemptsAgree
    (step : StepExecutionResult)
    (source : WorkflowRunStep) :
    Bool :=
  source.attempts.isEmpty ||
    (step.attempts.getD []).length == source.attempts.length &&
      ((step.attempts.getD []).zip source.attempts).all fun pair =>
        attemptAgrees pair.1 pair.2

/-- The result says of an approval what became of it. -/
def approvalAgrees
    (result : WorkflowExecutionResult)
    (approval : WorkflowApprovalRequest) :
    Bool :=
  let statusOf (stepId : NonEmptyString) : Option TerminalStepStatus :=
    (findUnique StepExecutionResult.stepId stepId result.steps).map
      StepExecutionResult.status
  match statusOf approval.approvalStepId, statusOf approval.gatedStepId with
  | some approvalStep, some gatedStep =>
      match approval.status with
      | .approved => approvalStep == .succeeded
      | .rejected =>
          result.terminationCause == .approvalRejected &&
            approvalStep == .cancelled && gatedStep == .skipped
      | .expired =>
          result.terminationCause == .approvalExpired &&
            approvalStep == .timedOut && gatedStep == .skipped
      | .cancelled => result.status == .cancelled && gatedStep == .skipped
      | .invalidated => result.status == .interrupted && gatedStep == .skipped
      | .pending => false
  | _, _ => false

/-- An output of the result is the one of the run, produced by its step. -/
def outputAgrees
    (result : WorkflowExecutionResult)
    (output : SafeWorkflowOutputSummary)
    (source : WorkflowRunOutput) :
    Bool :=
  source.outputName == output.outputName &&
    source.producerStepId == output.producerStepId &&
    source.outputType == output.outputType &&
    (source.status != .produced || output.status == .produced) &&
    match result.steps[source.producerStepIndex]? with
    | none => false
    | some producer =>
        producer.stepId == source.producerStepId &&
          (output.status == .produced) == (producer.status == .succeeded)

/-- What the result of a completion has to agree with. -/
def resultAgrees
    (result : WorkflowExecutionResult)
    (run : WorkflowRun) :
    Bool :=
  uuidText result.executionId == run.id &&
    stepsMatch result run &&
    ((result.steps.zip run.steps).all fun pair =>
      attemptsAgree pair.1 pair.2) &&
    run.approvalRequests.all (approvalAgrees result) &&
    result.outputs.length == run.outputs.length &&
    (result.outputs.zip run.outputs).all fun pair =>
      outputAgrees result pair.1 pair.2

def completedStep
    (step : StepExecutionResult)
    (source : WorkflowRunStep) :
    WorkflowRunStep :=
  { source with
    status := persistedStepStatus (engineStepStatus step.status)
    lastEngineStatus := some (engineStepStatus step.status)
    startedAt := step.startedAt
    finishedAt := some step.finishedAt
    durationMs := some step.durationMs
    errorCode := step.error.map fun error => .engine error.code
    skippedReason := step.skippedReason.map .engine }

def completedOutput
    (finishedAt : Nat)
    (output : SafeWorkflowOutputSummary)
    (source : WorkflowRunOutput) :
    WorkflowRunOutput :=
  { source with
    status := output.status
    producedAt :=
      if output.status = .produced then
        some (source.producedAt.getD finishedAt)
      else
        none }

/-- The run that a result has ended. -/
def WorkflowRun.completed
    (run : WorkflowRun)
    (completion : CompletionInput) :
    WorkflowRun :=
  let result := completion.result
  { run with
    steps := List.zipWith completedStep result.steps run.steps
    outputs :=
      List.zipWith (completedOutput result.finishedAt) result.outputs
        run.outputs
    status := persistedRunStatus result.status
    startedAt := some result.startedAt
    finishedAt := some result.finishedAt
    terminationCause := some (.engine result.terminationCause)
    clientCompletionId := some completion.clientCompletionId
    completionDigest := some completion.digest
    finalResult := some result
    leaseTokenHash := none
    leaseExpiresAt := none }

variable (hasher : AuditHasher)

/-- The events of the verifications that a result tells of. -/
def verificationEvents
    (runnerDeviceId : JsString)
    (result : WorkflowExecutionResult)
    (run : WorkflowRun) :
    List AuditEventInput :=
  (result.steps.zip run.steps).filterMap fun (step, source) =>
    step.verification.map fun verification =>
      buildVerificationCompletedInput hasher run runnerDeviceId source
        verification step.finishedAt

def completionEnding
    (runnerDeviceId : JsString)
    (completion : CompletionInput) :
    RunTerminal :=
  let result := completion.result
  { actor := .runner runnerDeviceId
    terminalStatus := result.status
    terminationCause := .engine result.terminationCause
    finishedAt := result.finishedAt
    engineResultDigest := some completion.resultDigest
    durationMs := some (result.finishedAt - result.startedAt)
    producedOutputCount :=
      result.outputs.countP fun output => output.status == .produced }

/-- A completion of a run that is not finished. -/
def completeUnfinished
    (input : Complete)
    (run : WorkflowRun) :
    Except StoreFailure (RunChange CompletionResult) := do
  requireLease none input.lease input.now run
  refuseIf (!input.completion.result.parses) .schema
  refuseIf (!resultAgrees input.completion.result run) .completionInvalid
  let completed := run.completed input.completion
  let record ← toRecord completed
  .ok
    { run := completed
      events :=
        verificationEvents hasher input.lease.runnerDeviceId
            input.completion.result run ++
          [buildRunTerminalInput hasher run
            (completionEnding input.lease.runnerDeviceId input.completion)]
      answer := { run := record, idempotent := false } }

def completeRun
    (input : Complete)
    (run : WorkflowRun) :
    Except StoreFailure (RunChange CompletionResult) :=
  if run.status.isTerminal then
    completeFinished input.completion run
  else
    completeUnfinished hasher input run

variable {Trail : Type} (append : Trail → JsValue → Option Trail)

/-- The second transaction of `complete`. -/
def completeLocked
    (input : Complete)
    (db : Database Trail) :
    Except StoreFailure (Database Trail × CompletionResult) :=
  changeRun append input.workflowRunId .runNotFound (completeRun hasher input)
    db

def complete
    (input : Complete)
    (db : Database Trail) :
    Database Trail × Except StoreFailure CompletionResult :=
  andThen (expireRunIfRequired hasher append input.workflowRunId input.now)
    (completeLocked hasher append input) db

end TaskTwin.RunStore
