import TaskTwin.Recovery.RetryPolicy
import TaskTwin.Workflow.Approval

/-!
# Engine contracts

Statuses, termination causes, errors, progress events and the execution
result, with the checks their schemas make.
-/

namespace TaskTwin.Engine

open Schema Workflow Recovery

inductive WorkflowEngineRunStatus where
  | pending
  | validating
  | starting
  | running
  | waitingForApproval
  | waitingForRepair
  | cancelling
  | succeeded
  | failed
  | cancelled
  | timedOut
  | interrupted
  deriving DecidableEq, Repr

inductive TerminalRunStatus where
  | succeeded
  | failed
  | cancelled
  | timedOut
  | interrupted
  deriving DecidableEq, Repr

def TerminalRunStatus.runStatus : TerminalRunStatus → WorkflowEngineRunStatus
  | .succeeded => .succeeded
  | .failed => .failed
  | .cancelled => .cancelled
  | .timedOut => .timedOut
  | .interrupted => .interrupted

inductive WorkflowEngineStepStatus where
  | pending
  | running
  | waitingForApproval
  | waitingForRepair
  | succeeded
  | failed
  | cancelled
  | timedOut
  | skipped
  | interrupted
  deriving DecidableEq, Repr

inductive TerminalStepStatus where
  | succeeded
  | failed
  | cancelled
  | timedOut
  | skipped
  | interrupted
  deriving DecidableEq, Repr

/-- `TerminalStepStatusSchema`; `none` when it rejects the status. -/
def TerminalStepStatus.parse :
    WorkflowEngineStepStatus → Option TerminalStepStatus
  | .succeeded => some .succeeded
  | .failed => some .failed
  | .cancelled => some .cancelled
  | .timedOut => some .timedOut
  | .skipped => some .skipped
  | .interrupted => some .interrupted
  | _ => none

inductive SkippedStepReason where
  | preflightFailed
  | adapterStartFailed
  | priorStepFailed
  | previousStepFailed
  | runCancelled
  | runTimedOut
  | approvalRejected
  | approvalExpired
  | approvalInvalidated
  | repairAborted
  | repairExpired
  | repairInvalidated
  | runInterrupted
  deriving DecidableEq, Repr

inductive TerminationCause where
  | completed
  | preflightFailed
  | adapterStartFailed
  | stepFailed
  | stepTimeout
  | runCancelled
  | totalTimeout
  | cleanupFailed
  | approvalRejected
  | approvalExpired
  | approvalInvalidated
  | repairAborted
  | repairExpired
  | repairInvalidated
  deriving DecidableEq, Repr

structure SafeExecutionError where
  code : ExecutionErrorCode
  message : String
  deriving DecidableEq, Repr

def maxSafeMessageLength : Nat := 200

/-- `SafeExecutionErrorSchema`. -/
def SafeExecutionError.parses (error : SafeExecutionError) : Bool :=
  isTrimmedWithin maxSafeMessageLength error.message

def safeError (code : ExecutionErrorCode) : SafeExecutionError :=
  { code, message := safeMessage code }

inductive VerificationKind where
  | url
  | text
  | visibility
  | fieldValue
  | checked
  deriving DecidableEq, Repr

inductive VerificationOutcome where
  | matched
  | notMatched
  deriving DecidableEq, Repr

inductive SafeObservedState where
  | visible
  | hidden
  | absent
  | checked
  | unchecked
  deriving DecidableEq, Repr

structure SafeVerificationResult where
  kind : VerificationKind
  outcome : VerificationOutcome
  attemptCount : Int
  durationMs : Int
  observedState : Option SafeObservedState
  deriving DecidableEq, Repr

def maxVerificationAttempts : Int := 10000

/-- `SafeVerificationResultSchema`. -/
def SafeVerificationResult.parses (result : SafeVerificationResult) : Bool :=
  0 < result.attemptCount &&
    result.attemptCount ≤ maxVerificationAttempts &&
    0 ≤ result.durationMs &&
    (result.kind == .visibility || result.kind == .checked ||
      result.observedState.isNone)

/-- An error thrown inside the engine or by one of its dependencies. -/
inductive EngineError where
  /-- A `SafeExecutionException`. -/
  | safe
      (code : ExecutionErrorCode)
      (verification : Option SafeVerificationResult)
      (effectCertainty : Option ExecutionEffectCertainty)
  /-- Any other error, such as one raised by a schema. -/
  | other
  deriving DecidableEq, Repr

def toSafeError
    (error : EngineError)
    (fallback : ExecutionErrorCode) :
    SafeExecutionError :=
  match error with
  | .safe code _ _ => safeError code
  | .other => safeError fallback

def timeoutErrorCodes : List ExecutionErrorCode :=
  [.actionTimeout, .navigationTimeout, .stepTimeout]

inductive WorkflowEngineWarningCode where
  | progressSinkFailed
  | resourceCleanupFailed
  deriving DecidableEq, Repr

inductive ProgressEventKind where
  | runStatusChanged
      (status : WorkflowEngineRunStatus)
      (errorCode : Option ExecutionErrorCode)
  | stepStatusChanged
      (stepId : NonEmptyString)
      (stepType : WorkflowStepType)
      (status : WorkflowEngineStepStatus)
      (errorCode : Option ExecutionErrorCode)
      (skippedReason : Option SkippedStepReason)
  | outputProduced
      (producerStepId : NonEmptyString)
      (outputName : Identifier)
      (outputType : WorkflowOutputType)
  | approvalStatusChanged
      (approvalStepId : NonEmptyString)
      (gatedStepId : NonEmptyString)
      (riskLevel : ApprovalRiskLevel)
      (status : ApprovalRequestStatus)
      (decision : Option ApprovalDecision)
  | stepAttemptStatusChanged
      (stepId : NonEmptyString)
      (attemptNumber : Nat)
      (trigger : RetryTrigger)
      (status : StepAttemptStatus)
      (errorCode : Option ExecutionErrorCode)
      (effectCertainty : ExecutionEffectCertainty)
      (retryAllowed : Bool)
  | repairStatusChanged
      (stepId : NonEmptyString)
      (attemptNumber : Nat)
      (status : RepairRequestStatus)
      (errorCode : ExecutionErrorCode)
      (effectCertainty : ExecutionEffectCertainty)
      (retryAllowed : Bool)
  | warning (warningCode : WorkflowEngineWarningCode)
  deriving DecidableEq, Repr

structure WorkflowProgressEvent where
  executionId : Uuid
  timestamp : Nat
  kind : ProgressEventKind
  deriving DecidableEq, Repr

/-- The bounds `WorkflowProgressEventSchema` puts on an event. -/
def WorkflowProgressEvent.parses (event : WorkflowProgressEvent) : Bool :=
  match event.kind with
  | .outputProduced producerStepId _ _ =>
      isTrimmedWithin maxStepIdLength producerStepId.text
  | .approvalStatusChanged approvalStepId gatedStepId _ _ _ =>
      isTrimmedWithin maxStepIdLength approvalStepId.text &&
        isTrimmedWithin maxStepIdLength gatedStepId.text
  | .stepAttemptStatusChanged stepId attemptNumber _ _ _ _ _ =>
      isTrimmedWithin maxStepIdLength stepId.text &&
        1 ≤ attemptNumber && attemptNumber ≤ 3
  | .repairStatusChanged stepId attemptNumber _ _ _ _ =>
      isTrimmedWithin maxStepIdLength stepId.text &&
        1 ≤ attemptNumber && attemptNumber ≤ 3
  | _ => true

structure WorkflowEngineWarning where
  code : WorkflowEngineWarningCode
  message : String
  deriving DecidableEq, Repr

/-- `WorkflowEngineWarningSchema`. -/
def WorkflowEngineWarning.parses (warning : WorkflowEngineWarning) : Bool :=
  isTrimmedWithin maxSafeMessageLength warning.message

structure StepExecutionResult where
  stepId : NonEmptyString
  stepType : WorkflowStepType
  status : TerminalStepStatus
  startedAt : Option Nat
  finishedAt : Nat
  durationMs : Nat
  locatorKind : Option LocatorKind
  skippedReason : Option SkippedStepReason
  error : Option SafeExecutionError
  verification : Option SafeVerificationResult
  attempts : Option (List SafeStepAttempt)
  deriving DecidableEq, Repr

/-- `compatibleStatuses`; a skipped step is compatible with anything. -/
def compatibleStatuses :
    TerminalStepStatus → List StepAttemptStatus
  | .succeeded => [.succeeded]
  | .failed => [.failed]
  | .cancelled => [.cancelled, .failed]
  | .timedOut => [.timedOut, .cancelled, .failed]
  | .interrupted => [.interrupted, .cancelled, .failed]
  | .skipped =>
      [.running, .succeeded, .failed, .cancelled, .timedOut, .interrupted]

/-- The last attempt and the step status are compatible. -/
def finalAttemptCompatible (result : StepExecutionResult) : Bool :=
  match result.attempts.bind List.getLast? with
  | none => true
  | some finalAttempt =>
      (compatibleStatuses result.status).contains finalAttempt.status

/-- `StepExecutionResultSchema`. -/
def StepExecutionResult.parses (result : StepExecutionResult) : Bool :=
  isNonEmptyTrimmed result.stepId.text &&
    result.error.all SafeExecutionError.parses &&
    result.verification.all SafeVerificationResult.parses &&
    result.attempts.all attemptListParses &&
    (result.status == .skipped) == result.skippedReason.isSome &&
    (result.status != .skipped ||
      (result.startedAt.isNone && result.attempts.isNone)) &&
    finalAttemptCompatible result

structure StepCountSummary where
  total : Nat
  attempted : Nat
  succeeded : Nat
  failed : Nat
  cancelled : Nat
  timedOut : Nat
  interrupted : Nat
  skipped : Nat
  deriving DecidableEq, Repr

/-- `StepCountSummarySchema`. -/
def StepCountSummary.parses (counts : StepCountSummary) : Bool :=
  counts.succeeded + counts.failed + counts.cancelled + counts.timedOut +
      counts.interrupted + counts.skipped == counts.total &&
    counts.attempted + counts.skipped == counts.total

structure WorkflowExecutionResult where
  executionId : Uuid
  workflowId : Option NonEmptyString
  workflowVersion : Option Nat
  status : TerminalRunStatus
  startedAt : Nat
  finishedAt : Nat
  durationMs : Nat
  terminationCause : TerminationCause
  counts : StepCountSummary
  failedStepId : Option NonEmptyString
  error : Option SafeExecutionError
  warnings : List WorkflowEngineWarning
  steps : List StepExecutionResult
  outputs : List SafeWorkflowOutputSummary
  deriving DecidableEq, Repr

/-- How many steps of a result have a status. -/
def stepCount
    (status : TerminalStepStatus)
    (steps : List StepExecutionResult) :
    Nat :=
  steps.countP fun step => step.status == status

/-- `WorkflowExecutionResultSchema`. -/
def WorkflowExecutionResult.parses (result : WorkflowExecutionResult) : Bool :=
  result.workflowId.all (fun workflowId =>
      isNonEmptyTrimmed workflowId.text) &&
    result.workflowVersion.all (fun version => decide (1 ≤ version)) &&
    result.counts.parses &&
    result.failedStepId.all (fun stepId => isNonEmptyTrimmed stepId.text) &&
    result.error.all SafeExecutionError.parses &&
    result.warnings.all WorkflowEngineWarning.parses &&
    result.steps.all StepExecutionResult.parses &&
    result.outputs.all SafeWorkflowOutputSummary.parses &&
    result.steps.length == result.counts.total &&
    stepCount .succeeded result.steps == result.counts.succeeded &&
    stepCount .failed result.steps == result.counts.failed &&
    stepCount .cancelled result.steps == result.counts.cancelled &&
    stepCount .timedOut result.steps == result.counts.timedOut &&
    stepCount .interrupted result.steps == result.counts.interrupted &&
    stepCount .skipped result.steps == result.counts.skipped

/-- Every fixed message passes the schema of the errors it is put into. -/
theorem safeError_parses (code : ExecutionErrorCode) :
    (safeError code).parses = true := by
  cases code <;> decide +kernel

theorem toSafeError_parses
    (error : EngineError)
    (fallback : ExecutionErrorCode) :
    (toSafeError error fallback).parses = true := by
  cases error with
  | safe code verification effectCertainty => exact safeError_parses code
  | other => exact safeError_parses fallback

end TaskTwin.Engine
