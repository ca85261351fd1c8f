import TaskTwin.RunStore.Rows

/-!
# Audit events of runs

What the repositories of runs, approvals and repairs write to the audit trail.
A time that has no text makes an event that the trail refuses.
-/

namespace TaskTwin.RunStore

open Text Schema Workflow Recovery Engine Audit

/-- `date.toISOString()`. -/
def isoText (time : Nat) : Option JsString :=
  (timeClip time).map TimeValue.toISOString

def timestamp (time : Nat) : JsValue :=
  (isoText time).elim .undefined .string

def timePart (time : Nat) : SourcePart := .text ((isoText time).getD [])

def textValue (value : String) : JsValue := .string (js value)

def stepIdValue (stepId : NonEmptyString) : JsValue := .string (js stepId.text)

def runEntity (runId : JsString) : AuditEntityRef :=
  { kind := js "workflow_run", id := runId }

/-- A field that is left out when it has no value. -/
def optionalField
    (name : String)
    (value : Option JsValue) :
    List (JsString × JsValue) :=
  value.toList.map fun value => (js name, value)

def automaticExpiry : AuditActor := .system (js "automatic_expiry")

variable (hasher : AuditHasher)

/-- How a request ends without a decision. -/
inductive LifecycleReason where
  | expired
  | cancelled
  | invalidated
  deriving DecidableEq, Repr

def LifecycleReason.text : LifecycleReason → String
  | .expired => "expired"
  | .cancelled => "cancelled"
  | .invalidated => "invalidated"

def buildApprovalLifecycleInput
    (run : WorkflowRun)
    (approvalRequestId : JsString)
    (reason : LifecycleReason)
    (resolvedAt : Nat) :
    AuditEventInput :=
  { workspaceId := run.workspaceId
    eventType := .approvalLifecycle
    actor := automaticExpiry
    primaryEntity := { kind := js "approval_request", id := approvalRequestId }
    relatedEntities := [runEntity run.id]
    occurredAt := timeClip resolvedAt
    sourceId :=
      createAuditSourceId hasher "approval_lifecycle"
        [.text approvalRequestId, .text (js reason.text), timePart resolvedAt]
    payload :=
      [(js "approvalRequestId", .string approvalRequestId),
        (js "workflowRunId", .string run.id),
        (js "reason", textValue reason.text),
        (js "resolvedAt", timestamp resolvedAt)] }

def buildRepairLifecycleInput
    (run : WorkflowRun)
    (repairRequestId : JsString)
    (reason : LifecycleReason)
    (resolvedAt : Nat) :
    AuditEventInput :=
  { workspaceId := run.workspaceId
    eventType := .repairLifecycle
    actor := automaticExpiry
    primaryEntity := { kind := js "repair_request", id := repairRequestId }
    relatedEntities := [runEntity run.id]
    occurredAt := timeClip resolvedAt
    sourceId :=
      createAuditSourceId hasher "repair_lifecycle"
        [.text repairRequestId, .text (js reason.text), timePart resolvedAt]
    payload :=
      [(js "repairRequestId", .string repairRequestId),
        (js "workflowRunId", .string run.id),
        (js "reason", textValue reason.text),
        (js "resolvedAt", timestamp resolvedAt)] }

def buildApprovalRequestedInput
    (run : WorkflowRun)
    (runnerDeviceId : JsString)
    (request : WorkflowApprovalRequest) :
    AuditEventInput :=
  { workspaceId := run.workspaceId
    eventType := .approvalRequested
    actor := .runner runnerDeviceId
    primaryEntity := { kind := js "approval_request", id := request.id }
    relatedEntities := [runEntity run.id]
    occurredAt := timeClip request.requestedAt
    sourceId :=
      createAuditSourceId hasher "approval_requested" [.text request.id]
    payload :=
      [(js "approvalRequestId", .string request.id),
        (js "workflowRunId", .string run.id),
        (js "approvalStepId", stepIdValue request.approvalStepId),
        (js "gatedStepId", stepIdValue request.gatedStepId),
        (js "riskLevel", textValue (riskLevelText request.riskLevel)),
        (js "requestedAt", timestamp request.requestedAt),
        (js "expiresAt", timestamp request.expiresAt)] }

/-- The two decisions on an approval request. -/
inductive ApprovalAnswer where
  | approved
  | rejected
  deriving DecidableEq, Repr

def ApprovalAnswer.status : ApprovalAnswer → ApprovalRequestStatus
  | .approved => .approved
  | .rejected => .rejected

def ApprovalAnswer.text : ApprovalAnswer → String
  | .approved => "approved"
  | .rejected => "rejected"

def buildApprovalDecidedInput
    (run : WorkflowRun)
    (userId approvalRequestId : JsString)
    (decision : ApprovalAnswer)
    (resolvedAt : Nat) :
    AuditEventInput :=
  { workspaceId := run.workspaceId
    eventType := .approvalDecided
    actor := .user userId
    primaryEntity := { kind := js "approval_request", id := approvalRequestId }
    relatedEntities := [runEntity run.id]
    occurredAt := timeClip resolvedAt
    sourceId :=
      createAuditSourceId hasher "approval_decided"
        [.text approvalRequestId, .text (js decision.text),
          timePart resolvedAt]
    payload :=
      [(js "approvalRequestId", .string approvalRequestId),
        (js "workflowRunId", .string run.id),
        (js "decision", textValue decision.text),
        (js "decidedByUserId", .string userId),
        (js "resolvedAt", timestamp resolvedAt)] }

def buildRepairRequestedInput
    (run : WorkflowRun)
    (runnerDeviceId : JsString)
    (request : WorkflowRepairRequest) :
    AuditEventInput :=
  { workspaceId := run.workspaceId
    eventType := .repairRequested
    actor := .runner runnerDeviceId
    primaryEntity := { kind := js "repair_request", id := request.id }
    relatedEntities := [runEntity run.id]
    occurredAt := timeClip request.requestedAt
    sourceId := createAuditSourceId hasher "repair_requested" [.text request.id]
    payload :=
      [(js "repairRequestId", .string request.id),
        (js "workflowRunId", .string run.id),
        (js "stepId", stepIdValue request.stepId),
        (js "stepIndex", wholeNumberValue request.stepIndex),
        (js "attemptNumber", wholeNumberValue request.attemptNumber),
        (js "safeErrorCode", textValue (errorCodeText request.safeErrorCode)),
        (js "effectCertainty",
          textValue (certaintyText request.effectCertainty)),
        (js "retryAllowed", .boolean request.retryAllowed),
        (js "requestedAt", timestamp request.requestedAt),
        (js "expiresAt", timestamp request.expiresAt)] }

/-- The two decisions on a repair request. -/
inductive RepairAnswer where
  | retryApproved
  | aborted
  deriving DecidableEq, Repr

def RepairAnswer.status : RepairAnswer → RepairRequestStatus
  | .retryApproved => .retryApproved
  | .aborted => .aborted

def RepairAnswer.text : RepairAnswer → String
  | .retryApproved => "retry_approved"
  | .aborted => "aborted"

def buildRepairDecidedInput
    (run : WorkflowRun)
    (userId repairRequestId : JsString)
    (decision : RepairAnswer)
    (resolvedAt : Nat) :
    AuditEventInput :=
  { workspaceId := run.workspaceId
    eventType := .repairDecided
    actor := .user userId
    primaryEntity := { kind := js "repair_request", id := repairRequestId }
    relatedEntities := [runEntity run.id]
    occurredAt := timeClip resolvedAt
    sourceId :=
      createAuditSourceId hasher "repair_decided"
        [.text repairRequestId, .text (js decision.text), timePart resolvedAt]
    payload :=
      [(js "repairRequestId", .string repairRequestId),
        (js "workflowRunId", .string run.id),
        (js "decision", textValue decision.text),
        (js "decidedByUserId", .string userId),
        (js "resolvedAt", timestamp resolvedAt)] }

/-- An event about a run itself. -/
def runEvent
    (run : WorkflowRun)
    (eventType : AuditEventType)
    (actor : AuditActor)
    (occurredAt : Nat)
    (sourceName : String)
    (parts : List SourcePart)
    (payload : List (JsString × JsValue)) :
    AuditEventInput :=
  { workspaceId := run.workspaceId
    eventType
    actor
    primaryEntity := runEntity run.id
    relatedEntities := []
    occurredAt := timeClip occurredAt
    sourceId := createAuditSourceId hasher sourceName (.text run.id :: parts)
    payload := (js "workflowRunId", .string run.id) :: payload }

def buildRunCreatedInput
    (run : WorkflowRun)
    (version : WorkflowVersion)
    (policy : PolicyVersion)
    (userId : JsString)
    (occurredAt : Nat) :
    AuditEventInput :=
  { runEvent hasher run .workflowRunCreated (.user userId) occurredAt
      "workflow_run_created" []
      [(js "workflowId", stepIdValue version.workflow.workflowId),
        (js "workflowVersionId", .string version.id),
        (js "runnerDeviceId", .string run.runnerDeviceId),
        (js "workflowDigest", .string version.definitionDigest),
        (js "policyVersionId", .string policy.id),
        (js "policyDigest", .string policy.digest)] with
    relatedEntities :=
      [{ kind := js "workflow", id := js version.workflow.workflowId.text },
        { kind := js "workflow_version", id := version.id },
        { kind := js "policy_version", id := policy.id }] }

def buildRunClaimedInput
    (run : WorkflowRun)
    (runnerDeviceId claimAttemptId : JsString)
    (leaseExpiresAt occurredAt : Nat) :
    AuditEventInput :=
  runEvent hasher run .workflowRunClaimed (.runner runnerDeviceId) occurredAt
    "workflow_run_claimed" [.text claimAttemptId]
    [(js "runnerDeviceId", .string runnerDeviceId),
      (js "claimAttemptId", .string claimAttemptId),
      (js "leaseExpiresAt", timestamp leaseExpiresAt)]

def buildRunStartedInput
    (run : WorkflowRun)
    (runnerDeviceId : JsString)
    (startedAt : Nat) :
    AuditEventInput :=
  runEvent hasher run .workflowRunStarted (.runner runnerDeviceId) startedAt
    "workflow_run_started" [timePart startedAt]
    [(js "startedAt", timestamp startedAt)]

def buildWaitingForApprovalInput
    (run : WorkflowRun)
    (runnerDeviceId : JsString)
    (step : WorkflowRunStep)
    (occurredAt : Nat) :
    AuditEventInput :=
  runEvent hasher run .workflowRunWaitingForApproval (.runner runnerDeviceId)
    occurredAt "workflow_run_waiting_for_approval"
    [.text (js step.sourceStepId.text), .number step.sourceStepIndex]
    [(js "stepId", stepIdValue step.sourceStepId),
      (js "stepIndex", wholeNumberValue step.sourceStepIndex)]

def buildWaitingForRepairInput
    (run : WorkflowRun)
    (runnerDeviceId : JsString)
    (step : WorkflowRunStep)
    (attemptNumber occurredAt : Nat) :
    AuditEventInput :=
  runEvent hasher run .workflowRunWaitingForRepair (.runner runnerDeviceId)
    occurredAt "workflow_run_waiting_for_repair"
    [.text (js step.sourceStepId.text), .number attemptNumber]
    [(js "stepId", stepIdValue step.sourceStepId),
      (js "stepIndex", wholeNumberValue step.sourceStepIndex),
      (js "attemptNumber", wholeNumberValue attemptNumber)]

def buildRunCancelRequestedInput
    (run : WorkflowRun)
    (userId : JsString)
    (requestedAt : Nat) :
    AuditEventInput :=
  runEvent hasher run .workflowRunCancelRequested (.user userId) requestedAt
    "workflow_run_cancel_requested" [timePart requestedAt]
    [(js "requestedAt", timestamp requestedAt)]

/-- The event that ends a run with a status. -/
def terminalEventType : TerminalRunStatus → AuditEventType
  | .succeeded => .workflowRunSucceeded
  | .failed => .workflowRunFailed
  | .cancelled => .workflowRunCancelled
  | .timedOut => .workflowRunTimedOut
  | .interrupted => .workflowRunInterrupted

structure RunTerminal where
  actor : AuditActor
  terminalStatus : TerminalRunStatus
  terminationCause : StoredTerminationCause
  finishedAt : Nat
  engineResultDigest : Option JsString
  durationMs : Option Nat
  producedOutputCount : Nat

def buildRunTerminalInput
    (run : WorkflowRun)
    (ending : RunTerminal) :
    AuditEventInput :=
  let eventType := terminalEventType ending.terminalStatus
  runEvent hasher run eventType ending.actor ending.finishedAt
    "workflow_run_terminal"
    [.text (js eventType.text), timePart ending.finishedAt]
    ([(js "terminalStatus",
        textValue (terminalStatusText ending.terminalStatus)),
      (js "terminationCause", textValue ending.terminationCause.upperText),
      (js "finishedAt", timestamp ending.finishedAt)] ++
      optionalField "engineResultDigest"
        (ending.engineResultDigest.map .string) ++
      optionalField "durationMs" (ending.durationMs.map wholeNumberValue) ++
      [(js "stepCount", wholeNumberValue run.steps.length),
        (js "producedOutputCount",
          wholeNumberValue ending.producedOutputCount)])

def buildRunInterruptedInput
    (run : WorkflowRun)
    (finishedAt : Nat) :
    AuditEventInput :=
  runEvent hasher run .workflowRunInterrupted (.system (js "lease_expired"))
    finishedAt "workflow_run_interrupted" [timePart finishedAt]
    [(js "terminalStatus", textValue "interrupted"),
      (js "terminationCause", textValue "LEASE_EXPIRED"),
      (js "finishedAt", timestamp finishedAt),
      (js "stepCount", wholeNumberValue run.steps.length),
      (js "producedOutputCount", wholeNumberValue run.producedOutputCount)]

/-- An event about an attempt. -/
def attemptEvent
    (run : WorkflowRun)
    (eventType : AuditEventType)
    (runnerDeviceId attemptId : JsString)
    (occurredAt : Nat)
    (sourceName : String)
    (payload : List (JsString × JsValue)) :
    AuditEventInput :=
  { workspaceId := run.workspaceId
    eventType
    actor := .runner runnerDeviceId
    primaryEntity :=
      { kind := js "workflow_run_step_attempt", id := attemptId }
    relatedEntities := [runEntity run.id]
    occurredAt := timeClip occurredAt
    sourceId := createAuditSourceId hasher sourceName [.text attemptId]
    payload :=
      (js "workflowRunId", .string run.id) ::
        (js "runStepAttemptId", .string attemptId) :: payload }

def buildAttemptStartedInput
    (run : WorkflowRun)
    (runnerDeviceId : JsString)
    (step : WorkflowRunStep)
    (attempt : WorkflowRunStepAttempt) :
    AuditEventInput :=
  attemptEvent hasher run .executionAttemptStarted runnerDeviceId attempt.id
    attempt.startedAt "execution_attempt_started"
    ([(js "stepId", stepIdValue step.sourceStepId),
      (js "stepIndex", wholeNumberValue step.sourceStepIndex),
      (js "stepType", textValue (stepTypeText step.stepType)),
      (js "attemptNumber", wholeNumberValue attempt.attemptNumber),
      (js "trigger", textValue (triggerText attempt.trigger)),
      (js "effectCertainty",
        textValue (certaintyText attempt.effectCertainty))] ++
      optionalField "authorizedByRepairRequestId"
        (attempt.authorizedByRepairRequestId.map .string))

def buildAttemptTerminalInput
    (run : WorkflowRun)
    (runnerDeviceId : JsString)
    (step : WorkflowRunStep)
    (attemptId : JsString)
    (attemptNumber : Nat)
    (trigger : RetryTrigger)
    (attemptStatus : StepAttemptStatus)
    (effectCertainty : ExecutionEffectCertainty)
    (safeErrorCode : Option ExecutionErrorCode)
    (durationMs occurredAt : Nat) :
    AuditEventInput :=
  attemptEvent hasher run .executionAttemptTerminal runnerDeviceId attemptId
    occurredAt "execution_attempt_terminal"
    ([(js "stepId", stepIdValue step.sourceStepId),
      (js "stepIndex", wholeNumberValue step.sourceStepIndex),
      (js "stepType", textValue (stepTypeText step.stepType)),
      (js "attemptNumber", wholeNumberValue attemptNumber),
      (js "trigger", textValue (triggerText trigger)),
      (js "attemptStatus", textValue (attemptStatusText attemptStatus)),
      (js "effectCertainty", textValue (certaintyText effectCertainty))] ++
      optionalField "safeErrorCode"
        (safeErrorCode.map fun code => textValue (errorCodeText code)) ++
      [(js "durationMs", wholeNumberValue durationMs)])

def buildVerificationCompletedInput
    (run : WorkflowRun)
    (runnerDeviceId : JsString)
    (step : WorkflowRunStep)
    (verification : SafeVerificationResult)
    (occurredAt : Nat) :
    AuditEventInput :=
  runEvent hasher run .executionVerificationCompleted (.runner runnerDeviceId)
    occurredAt "execution_verification_completed"
    [.text (js step.sourceStepId.text), .number 1]
    [(js "stepId", stepIdValue step.sourceStepId),
      (js "stepIndex", wholeNumberValue step.sourceStepIndex),
      (js "verificationSequence", wholeNumberValue 1),
      (js "verificationKind",
        textValue (verificationKindText verification.kind)),
      (js "outcome",
        textValue
          (if verification.outcome = .matched then "passed" else "failed")),
      (js "attemptCount", wholeNumberValue verification.attemptCount.toNat)]

def buildOutputProducedInput
    (run : WorkflowRun)
    (runnerDeviceId : JsString)
    (output : WorkflowRunOutput)
    (producerStepIndex occurredAt : Nat) :
    AuditEventInput :=
  { workspaceId := run.workspaceId
    eventType := .executionOutputProduced
    actor := .runner runnerDeviceId
    primaryEntity :=
      { kind := js "workflow_run_output"
        id := run.id ++ unit ':' :: js output.outputName.text }
    relatedEntities := [runEntity run.id]
    occurredAt := timeClip occurredAt
    sourceId :=
      createAuditSourceId hasher "execution_output_produced"
        [.text run.id, .text (js output.outputName.text)]
    payload :=
      [(js "workflowRunId", .string run.id),
        (js "outputName", .string (js output.outputName.text)),
        (js "outputType", textValue (outputTypeText output.outputType)),
        (js "producerStepId", stepIdValue output.producerStepId),
        (js "producerStepIndex", wholeNumberValue producerStepIndex)] }

end TaskTwin.RunStore
