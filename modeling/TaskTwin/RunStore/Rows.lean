import TaskTwin.Audit.EventInput
import TaskTwin.Engine.StateMachines
import TaskTwin.Store.Table
import TaskTwin.Store.Transaction

/-!
# Persisted statuses

The statuses of the rows of a run, the transitions its steps may make, and the
texts by which statuses, triggers and codes are written to the audit trail.
-/

namespace TaskTwin.RunStore

open Schema Workflow Recovery Engine

inductive WorkflowRunStatus where
  | queued
  | claimed
  | running
  | waitingForApproval
  | waitingForRepair
  | cancelRequested
  | succeeded
  | failed
  | cancelled
  | timedOut
  | interrupted
  deriving DecidableEq, Repr

/-- `ACTIVE_STATUSES.includes(status)`. -/
def WorkflowRunStatus.isActive : WorkflowRunStatus → Bool
  | .claimed => true
  | .running => true
  | .waitingForApproval => true
  | .waitingForRepair => true
  | .cancelRequested => true
  | _ => false

/-- `TERMINAL_STATUSES.includes(status)`. -/
def WorkflowRunStatus.isTerminal : WorkflowRunStatus → Bool
  | .succeeded => true
  | .failed => true
  | .cancelled => true
  | .timedOut => true
  | .interrupted => true
  | _ => false

def persistedRunStatus : TerminalRunStatus → WorkflowRunStatus
  | .succeeded => .succeeded
  | .failed => .failed
  | .cancelled => .cancelled
  | .timedOut => .timedOut
  | .interrupted => .interrupted

@[simp] theorem persistedRunStatus_isTerminal (status : TerminalRunStatus) :
    (persistedRunStatus status).isTerminal = true := by
  cases status <;> rfl

theorem not_isTerminal_of_isActive
    {status : WorkflowRunStatus}
    (active : status.isActive = true) :
    status.isTerminal = false := by
  cases status <;> first | rfl | cases active

inductive WorkflowRunStepStatus where
  | pending
  | running
  | waitingForApproval
  | waitingForRepair
  | succeeded
  | failed
  | cancelled
  | timedOut
  | skipped
  | interrupted
  deriving DecidableEq, Repr

/-- `STEP_TRANSITIONS`. -/
def persistedStepTransitions :
    WorkflowRunStepStatus → List WorkflowRunStepStatus
  | .pending =>
      [.running, .succeeded, .failed, .cancelled, .timedOut, .skipped,
        .interrupted]
  | .running =>
      [.waitingForApproval, .waitingForRepair, .succeeded, .failed,
        .cancelled, .timedOut, .interrupted]
  | .waitingForApproval =>
      [.running, .succeeded, .failed, .cancelled, .timedOut, .interrupted]
  | .waitingForRepair =>
      [.running, .failed, .cancelled, .timedOut, .interrupted]
  | .succeeded => []
  | .failed => []
  | .cancelled => []
  | .timedOut => []
  | .skipped => []
  | .interrupted => []

def canTransitionRunStep (current next : WorkflowRunStepStatus) : Bool :=
  (persistedStepTransitions current).contains next

def persistedStepStatus :
    WorkflowEngineStepStatus → WorkflowRunStepStatus
  | .pending => .pending
  | .running => .running
  | .waitingForApproval => .waitingForApproval
  | .waitingForRepair => .waitingForRepair
  | .succeeded => .succeeded
  | .failed => .failed
  | .cancelled => .cancelled
  | .timedOut => .timedOut
  | .skipped => .skipped
  | .interrupted => .interrupted

/-- A terminal status of a step as the engine reports it. -/
def engineStepStatus : TerminalStepStatus → WorkflowEngineStepStatus
  | .succeeded => .succeeded
  | .failed => .failed
  | .cancelled => .cancelled
  | .timedOut => .timedOut
  | .skipped => .skipped
  | .interrupted => .interrupted

/-- The statuses whose events give a step its finish time. -/
def finishesStep : WorkflowEngineStepStatus → Bool
  | .succeeded => true
  | .failed => true
  | .cancelled => true
  | .timedOut => true
  | .skipped => true
  | .interrupted => true
  | _ => false

/-- `validEngineRunTransition`; a run without a status begins as pending. -/
def validEngineRunTransition
    (current : Option WorkflowEngineRunStatus)
    (next : WorkflowEngineRunStatus) :
    Bool :=
  match current with
  | none => next == .pending
  | some current => (runTransitions current).contains next

/-- `validEngineStepTransition`. -/
def validEngineStepTransition
    (current : Option WorkflowEngineStepStatus)
    (next : WorkflowEngineStepStatus) :
    Bool :=
  match current with
  | none => next == .pending
  | some current => (stepTransitions current).contains next

/-- Why a step is skipped, by the engine or by the control plane. -/
inductive StoredSkippedReason where
  | engine (reason : SkippedStepReason)
  | secretInventoryChangedBeforeExecution
  | policyChangedBeforeExecution
  deriving DecidableEq, Repr

/-- A code of an error, of the engine or of the control plane. -/
inductive StoredErrorCode where
  | engine (code : ExecutionErrorCode)
  | leaseExpired
  | runnerRevoked
  deriving DecidableEq, Repr

/-- Why a run has ended, by its completion or by the control plane. -/
inductive StoredTerminationCause where
  | engine (cause : TerminationCause)
  | secretInventoryChangedBeforeExecution
  | policyChangedBeforeExecution
  | leaseExpired
  | runnerRevoked
  | scheduleStartWindowExpired
  deriving DecidableEq, Repr

def stepTypeText : WorkflowStepType → String
  | .navigate => "navigate"
  | .click => "click"
  | .fill => "fill"
  | .select => "select"
  | .setChecked => "setChecked"
  | .wait => "wait"
  | .extract => "extract"
  | .verify => "verify"
  | .approval => "approval"

def triggerText : RetryTrigger → String
  | .initial => "initial"
  | .automaticRetry => "automatic_retry"
  | .manualRetry => "manual_retry"

def attemptStatusText : StepAttemptStatus → String
  | .running => "running"
  | .succeeded => "succeeded"
  | .failed => "failed"
  | .cancelled => "cancelled"
  | .timedOut => "timed_out"
  | .interrupted => "interrupted"

def certaintyText : ExecutionEffectCertainty → String
  | .notStarted => "not_started"
  | .readOnly => "read_only"
  | .sideEffectPossible => "side_effect_possible"
  | .completed => "completed"
  | .unknown => "unknown"

def riskLevelText : ApprovalRiskLevel → String
  | .low => "low"
  | .medium => "medium"
  | .high => "high"
  | .critical => "critical"

def outputTypeText : WorkflowOutputType → String
  | .string => "string"
  | .boolean => "boolean"

def verificationKindText : VerificationKind → String
  | .url => "url"
  | .text => "text"
  | .visibility => "visibility"
  | .fieldValue => "fieldValue"
  | .checked => "checked"

def terminalStatusText : TerminalRunStatus → String
  | .succeeded => "succeeded"
  | .failed => "failed"
  | .cancelled => "cancelled"
  | .timedOut => "timed_out"
  | .interrupted => "interrupted"

/-- A cause of termination after `toUpperCase`. -/
def causeUpperText : TerminationCause → String
  | .completed => "COMPLETED"
  | .preflightFailed => "PREFLIGHT_FAILED"
  | .adapterStartFailed => "ADAPTER_START_FAILED"
  | .stepFailed => "STEP_FAILED"
  | .stepTimeout => "STEP_TIMEOUT"
  | .runCancelled => "RUN_CANCELLED"
  | .totalTimeout => "TOTAL_TIMEOUT"
  | .cleanupFailed => "CLEANUP_FAILED"
  | .approvalRejected => "APPROVAL_REJECTED"
  | .approvalExpired => "APPROVAL_EXPIRED"
  | .approvalInvalidated => "APPROVAL_INVALIDATED"
  | .repairAborted => "REPAIR_ABORTED"
  | .repairExpired => "REPAIR_EXPIRED"
  | .repairInvalidated => "REPAIR_INVALIDATED"

def StoredTerminationCause.upperText : StoredTerminationCause → String
  | .engine cause => causeUpperText cause
  | .secretInventoryChangedBeforeExecution =>
      "SECRET_INVENTORY_CHANGED_BEFORE_EXECUTION"
  | .policyChangedBeforeExecution => "POLICY_CHANGED_BEFORE_EXECUTION"
  | .leaseExpired => "LEASE_EXPIRED"
  | .runnerRevoked => "RUNNER_REVOKED"
  | .scheduleStartWindowExpired => "SCHEDULE_START_WINDOW_EXPIRED"

def errorCodeText : ExecutionErrorCode → String
  | .invalidExecutionRequest => "INVALID_EXECUTION_REQUEST"
  | .invalidWorkflow => "INVALID_WORKFLOW"
  | .invalidRuntimeInputs => "INVALID_RUNTIME_INPUTS"
  | .invalidExecutionTimeout => "INVALID_EXECUTION_TIMEOUT"
  | .unsupportedStepType => "UNSUPPORTED_STEP_TYPE"
  | .secretResolutionUnavailable => "SECRET_RESOLUTION_UNAVAILABLE"
  | .invalidNavigationUrl => "INVALID_NAVIGATION_URL"
  | .unsafeUrlScheme => "UNSAFE_URL_SCHEME"
  | .originNotAllowed => "ORIGIN_NOT_ALLOWED"
  | .postNavigationOriginNotAllowed => "POST_NAVIGATION_ORIGIN_NOT_ALLOWED"
  | .unsupportedLocator => "UNSUPPORTED_LOCATOR"
  | .unsupportedRole => "UNSUPPORTED_ROLE"
  | .locatorNotFound => "LOCATOR_NOT_FOUND"
  | .locatorNotUnique => "LOCATOR_NOT_UNIQUE"
  | .browserLaunchFailed => "BROWSER_LAUNCH_FAILED"
  | .browserContextFailed => "BROWSER_CONTEXT_FAILED"
  | .adapterStartFailed => "ADAPTER_START_FAILED"
  | .navigationTimeout => "NAVIGATION_TIMEOUT"
  | .actionTimeout => "ACTION_TIMEOUT"
  | .stepTimeout => "STEP_TIMEOUT"
  | .totalExecutionTimeout => "TOTAL_EXECUTION_TIMEOUT"
  | .actionFailed => "ACTION_FAILED"
  | .executionCancelled => "EXECUTION_CANCELLED"
  | .resourceCleanupFailed => "RESOURCE_CLEANUP_FAILED"
  | .invalidRunTransition => "INVALID_RUN_TRANSITION"
  | .invalidStepTransition => "INVALID_STEP_TRANSITION"
  | .verificationRuleInvalid => "VERIFICATION_RULE_INVALID"
  | .verificationExpectationInvalid => "VERIFICATION_EXPECTATION_INVALID"
  | .verificationNotMatched => "VERIFICATION_NOT_MATCHED"
  | .verificationTargetUnsupported => "VERIFICATION_TARGET_UNSUPPORTED"
  | .outputNotAvailable => "OUTPUT_NOT_AVAILABLE"
  | .outputTypeMismatch => "OUTPUT_TYPE_MISMATCH"
  | .duplicateOutputProduction => "DUPLICATE_OUTPUT_PRODUCTION"
  | .extractionTargetUnsupported => "EXTRACTION_TARGET_UNSUPPORTED"
  | .extractionValueUnavailable => "EXTRACTION_VALUE_UNAVAILABLE"
  | .approvalCoordinatorUnavailable => "APPROVAL_COORDINATOR_UNAVAILABLE"
  | .approvalBindingInvalid => "APPROVAL_BINDING_INVALID"
  | .approvalRequestFailed => "APPROVAL_REQUEST_FAILED"
  | .approvalRejected => "APPROVAL_REJECTED"
  | .approvalExpired => "APPROVAL_EXPIRED"
  | .approvalInvalidated => "APPROVAL_INVALIDATED"
  | .recoveryNotAllowed => "RECOVERY_NOT_ALLOWED"
  | .recoveryAttemptLimitReached => "RECOVERY_ATTEMPT_LIMIT_REACHED"
  | .recoveryCoordinatorUnavailable => "RECOVERY_COORDINATOR_UNAVAILABLE"
  | .recoveryRequestFailed => "RECOVERY_REQUEST_FAILED"
  | .recoveryAborted => "RECOVERY_ABORTED"
  | .recoveryExpired => "RECOVERY_EXPIRED"
  | .recoveryInvalidated => "RECOVERY_INVALIDATED"
  | .approvalGatedRetryRequiresNewRun => "APPROVAL_GATED_RETRY_REQUIRES_NEW_RUN"

end TaskTwin.RunStore

/-!
## The rows of runs

A run is read and written together with the rows that belong to it.
-/

namespace TaskTwin.RunStore

open Text Schema Workflow Recovery Engine Store

/-- The last digits of a number in hexadecimal. -/
def hexText : Nat → Nat → JsString
  | 0, _ => []
  | width + 1, number =>
      hexText width (number / 16) ++ [hexUnit (number % 16)]

/-- The text of an identifier. -/
def uuidText (id : Uuid) : JsString :=
  hexText 8 (id.value / 16 ^ 24) ++ unit '-' ::
    (hexText 4 (id.value / 16 ^ 20) ++ unit '-' ::
      (hexText 4 (id.value / 16 ^ 16) ++ unit '-' ::
        (hexText 4 (id.value / 16 ^ 12) ++ unit '-' ::
          hexText 12 id.value)))

/-- The identifier that a text is of. -/
def readUuid (text : JsString) : Uuid :=
  { value :=
      (text.filter (· ≠ unit '-')).foldl
        (fun number symbol => 16 * number + hexValue symbol) 0 }

structure WorkflowRunStepAttempt where
  id : JsString
  attemptNumber : Nat
  trigger : RetryTrigger
  status : StepAttemptStatus
  startedAt : Nat
  finishedAt : Option Nat
  durationMs : Option Nat
  safeErrorCode : Option StoredErrorCode
  effectCertainty : ExecutionEffectCertainty
  authorizedByRepairRequestId : Option JsString
  deriving DecidableEq

structure WorkflowRunStep where
  sourceStepId : NonEmptyString
  sourceStepIndex : Nat
  stepType : WorkflowStepType
  status : WorkflowRunStepStatus
  lastEngineStatus : Option WorkflowEngineStepStatus
  startedAt : Option Nat
  finishedAt : Option Nat
  durationMs : Option Nat
  errorCode : Option StoredErrorCode
  skippedReason : Option StoredSkippedReason
  attempts : List WorkflowRunStepAttempt
  deriving DecidableEq

/-- The code that the engine knows; codes are not checked as they are read. -/
def StoredErrorCode.engineCode : StoredErrorCode → Option ExecutionErrorCode
  | .engine code => some code
  | _ => none

def WorkflowRunStepAttempt.toSafe
    (attempt : WorkflowRunStepAttempt) :
    SafeStepAttempt :=
  { attemptNumber := attempt.attemptNumber
    trigger := attempt.trigger
    status := attempt.status
    startedAt := attempt.startedAt
    finishedAt := attempt.finishedAt
    durationMs := attempt.durationMs
    errorCode := attempt.safeErrorCode.bind StoredErrorCode.engineCode
    effectCertainty := attempt.effectCertainty
    repairRequestId := attempt.authorizedByRepairRequestId.map readUuid }

/-- The attempts at a step parse as it is read, unless there are none. -/
def WorkflowRunStep.isReadable (step : WorkflowRunStep) : Bool :=
  step.attempts.isEmpty ||
    attemptListParses (step.attempts.map WorkflowRunStepAttempt.toSafe)

structure WorkflowRunOutput where
  outputName : Identifier
  outputType : WorkflowOutputType
  producerStepId : NonEmptyString
  producerStepIndex : Nat
  status : WorkflowOutputStatus
  producedAt : Option Nat
  deriving DecidableEq

structure WorkflowApprovalRequest where
  id : JsString
  runnerDeviceId : JsString
  approvalStepId : NonEmptyString
  gatedStepId : NonEmptyString
  clientRequestId : JsString
  requestDigest : JsString
  status : ApprovalRequestStatus
  riskLevel : ApprovalRiskLevel
  requestedAt : Nat
  expiresAt : Nat
  resolvedAt : Option Nat
  decidedByUserId : Option JsString
  clientDecisionId : Option JsString
  deriving DecidableEq

structure WorkflowRepairRequest where
  id : JsString
  runnerDeviceId : JsString
  stepId : NonEmptyString
  stepIndex : Nat
  attemptNumber : Nat
  clientRequestId : JsString
  requestDigest : JsString
  safeErrorCode : ExecutionErrorCode
  effectCertainty : ExecutionEffectCertainty
  retryAllowed : Bool
  status : RepairRequestStatus
  requestedAt : Nat
  expiresAt : Nat
  resolvedAt : Option Nat
  decidedByUserId : Option JsString
  clientDecisionId : Option JsString
  deriving DecidableEq

structure WorkflowRunProgressBatch where
  clientBatchId : JsString
  firstSequence : Nat
  lastSequence : Nat
  eventCount : Nat
  payloadDigest : JsString
  deriving DecidableEq

/-- The inventory of local secrets that a run was prepared with. -/
structure SecretInventoryPin where
  vaultId : JsString
  vaultRevision : Nat
  inventoryDigest : JsString
  deriving DecidableEq

structure WorkflowRun where
  id : JsString
  workspaceId : JsString
  workflowVersionId : JsString
  runnerDeviceId : JsString
  clientRunId : JsString
  createdAt : Nat
  runProtocolVersion : Nat
  /-- The definition of the version, which is published and never changes. -/
  workflow : WorkflowDefinition
  recoveryMode : RecoveryMode
  policyVersionId : Option JsString
  pinnedSecretInventory : Option SecretInventoryPin
  status : WorkflowRunStatus
  claimAttemptId : Option JsString
  leaseTokenHash : Option JsString
  leaseExpiresAt : Option Nat
  claimedAt : Option Nat
  startedAt : Option Nat
  lastProgressSequence : Nat
  lastEngineStatus : Option WorkflowEngineRunStatus
  cancelRequestedAt : Option Nat
  cancelRequestedByUserId : Option JsString
  clientCompletionId : Option JsString
  completionDigest : Option JsString
  finalResult : Option WorkflowExecutionResult
  terminationCause : Option StoredTerminationCause
  finishedAt : Option Nat
  steps : List WorkflowRunStep
  outputs : List WorkflowRunOutput
  approvalRequests : List WorkflowApprovalRequest
  repairRequests : List WorkflowRepairRequest
  progressBatches : List WorkflowRunProgressBatch

def WorkflowRun.isReadable (run : WorkflowRun) : Bool :=
  run.steps.all WorkflowRunStep.isReadable

/-- How many outputs of a run are produced. -/
def WorkflowRun.producedOutputCount (run : WorkflowRun) : Nat :=
  run.outputs.countP fun output => output.status == .produced

/-- Requests in the order in which they were made. -/
def WorkflowRun.orderedRepairRequests
    (run : WorkflowRun) :
    List WorkflowRepairRequest :=
  run.repairRequests.insertionSort fun first second =>
    first.requestedAt ≤ second.requestedAt

structure RunnerDevice where
  id : JsString
  workspaceId : JsString
  revoked : Bool
  credentialRevoked : Bool
  runnerVersion : JsString
  runProtocolVersion : Nat
  workflowSchemaVersion : Nat
  /-- `canRunnerClaimJobs(evaluatePersistedRunnerCompatibility(runner))`. -/
  canClaimJobs : Bool
  /-- The release of its version is blocked. -/
  releaseBlocked : Bool
  draining : Bool
  /-- The inventory of its secret store, when the store is ready. -/
  secretInventory : Option SecretInventoryPin
  deriving DecidableEq

structure WorkflowVersion where
  id : JsString
  workspaceId : JsString
  workflow : WorkflowDefinition
  definitionDigest : JsString

inductive OrganizationRole where
  | owner
  | admin
  | member
  | viewer
  deriving DecidableEq, Repr

structure Membership where
  userId : JsString
  workspaceId : JsString
  role : OrganizationRole
  deriving DecidableEq

structure PolicyVersion where
  id : JsString
  workspaceId : JsString
  digest : JsString
  active : Bool
  deriving DecidableEq

structure Database (Trail : Type) where
  runs : List WorkflowRun
  runners : List RunnerDevice
  versions : List WorkflowVersion
  policies : List PolicyVersion
  memberships : List Membership
  trail : Trail

inductive StoreFailure where
  | runNotFound
  | runForbidden
  | runConflict
  | runNotReady
  | runnerMismatch
  | runnerRevoked
  | leaseInvalid
  | leaseExpired
  | progressBatchConflict
  | progressSequenceInvalid
  | progressTransitionInvalid
  | completionInvalid
  | completionConflict
  | approvalNotFound
  | approvalForbidden
  | approvalInvalid
  | approvalConflict
  | approvalExpired
  | repairNotFound
  | repairForbidden
  | repairInvalid
  | repairConflict
  | runnerDeviceNotFound
  /-- A schema rejected what was read. -/
  | schema
  /-- A key that is taken. -/
  | uniqueConstraint
  /-- The audit trail refused an event. -/
  | audit
  deriving DecidableEq, Repr

/-- `toRecord`: a run is shown when the attempts at its steps parse. -/
def toRecord (run : WorkflowRun) : Except StoreFailure WorkflowRun :=
  if run.isReadable then .ok run else .error .schema

end TaskTwin.RunStore
