import TaskTwin.Engine.ErrorCode
import TaskTwin.Workflow.Extraction

/-!
# Step attempts

One attempt at a step, the history of the attempts at a step, and the schema
both are parsed with.  Identifiers that a schema requires to be UUIDs are
values of `Uuid`, and timestamps are milliseconds.
-/

namespace TaskTwin.Recovery

open TaskTwin.Engine (ExecutionErrorCode)
open Schema

def maxAutomaticRetries : Nat := 1
def maxManualRetries : Nat := 1
def maxTotalAttempts : Nat := 3
def maxRepairTimeoutMs : Nat := 300000
inductive ExecutionEffectCertainty where
  | notStarted
  | readOnly
  | sideEffectPossible
  | completed
  | unknown
  deriving DecidableEq, Repr

inductive RecoveryMode where
  | automaticSafeOnly
  | automaticSafeAndManual
  | automaticSafeAndLocatorProposals
  deriving DecidableEq, Repr

inductive RetryTrigger where
  | initial
  | automaticRetry
  | manualRetry
  deriving DecidableEq, Repr

inductive StepAttemptStatus where
  | running
  | succeeded
  | failed
  | cancelled
  | timedOut
  | interrupted
  deriving DecidableEq, Repr

structure SafeStepAttempt where
  attemptNumber : Nat
  trigger : RetryTrigger
  status : StepAttemptStatus
  startedAt : Nat
  finishedAt : Option Nat
  durationMs : Option Nat
  errorCode : Option ExecutionErrorCode
  effectCertainty : ExecutionEffectCertainty
  repairRequestId : Option Uuid
  deriving DecidableEq, Repr

/-- The refinement of `SafeStepAttemptSchema`. -/
def SafeStepAttempt.parses (attempt : SafeStepAttempt) : Bool :=
  1 ≤ attempt.attemptNumber &&
    (if attempt.status = .running then
      attempt.finishedAt.isNone && attempt.durationMs.isNone
    else
      attempt.finishedAt.isSome && attempt.durationMs.isSome) &&
    (attempt.trigger == .manualRetry) == attempt.repairRequestId.isSome

/-- How many attempts a trigger started. -/
def triggerCount
    (trigger : RetryTrigger)
    (attempts : List SafeStepAttempt) :
    Nat :=
  attempts.countP fun attempt => attempt.trigger == trigger

/-- Numbers are continuous from one and only the first trigger is initial. -/
def attemptsInOrder (attempts : List SafeStepAttempt) : Bool :=
  attempts.zipIdx.all fun (attempt, index) =>
    attempt.attemptNumber == index + 1 &&
      (index == 0) == (attempt.trigger == .initial)

/-- `SafeStepAttemptListSchema`. -/
def attemptListParses (attempts : List SafeStepAttempt) : Bool :=
  attempts.all SafeStepAttempt.parses &&
    1 ≤ attempts.length &&
    attempts.length ≤ 3 &&
    attemptsInOrder attempts &&
    triggerCount .automaticRetry attempts ≤ 1 &&
    triggerCount .manualRetry attempts ≤ 1

inductive RepairRequestStatus where
  | pending
  | retryApproved
  | aborted
  | expired
  | cancelled
  | invalidated
  deriving DecidableEq, Repr

inductive RepairCoordinatorDecision where
  | retry
  | abort
  | expired
  | cancelled
  | invalidated
  deriving DecidableEq, Repr

/-- `repairStatus[repair.decision]`. -/
def RepairCoordinatorDecision.status :
    RepairCoordinatorDecision → RepairRequestStatus
  | .retry => .retryApproved
  | .abort => .aborted
  | .expired => .expired
  | .cancelled => .cancelled
  | .invalidated => .invalidated

structure RecoveryCoordinatorResult where
  repairRequestId : Uuid
  decision : RepairCoordinatorDecision
  decidedAt : Nat
  deriving DecidableEq, Repr

theorem triggerCount_append
    (trigger : RetryTrigger)
    (attempts : List SafeStepAttempt)
    (attempt : SafeStepAttempt) :
    triggerCount trigger (attempts ++ [attempt]) =
      triggerCount trigger attempts +
        if attempt.trigger = trigger then 1 else 0 := by
  simp [triggerCount, List.countP_append, List.countP_singleton]

theorem attemptsInOrder_append
    (attempts : List SafeStepAttempt)
    (attempt : SafeStepAttempt) :
    attemptsInOrder (attempts ++ [attempt]) = true ↔
      attemptsInOrder attempts = true ∧
        attempt.attemptNumber = attempts.length + 1 ∧
        (attempts = [] ↔ attempt.trigger = .initial) := by
  rw [← List.length_eq_zero_iff]
  simp only [attemptsInOrder, List.zipIdx_append, List.zipIdx_singleton,
    List.all_append, List.all_cons, List.all_nil, Bool.and_true,
    Bool.and_eq_true, beq_iff_eq, Nat.zero_add]
  rw [Bool.eq_iff_iff]
  simp

end TaskTwin.Recovery

namespace TaskTwin.Recovery

open TaskTwin.Engine (ExecutionErrorCode)
open TaskTwin.Workflow (WorkflowStepType)

inductive FailureCategory where
  | transientRead
  | locatorResolution
  | validation
  | policy
  | cancellation
  | approval
  | action
  | navigation
  | output
  | infrastructure
  | unknown
  deriving DecidableEq, Repr

def validationErrors : List ExecutionErrorCode :=
  [.invalidExecutionRequest, .invalidWorkflow, .invalidRuntimeInputs,
    .invalidExecutionTimeout, .unsupportedStepType, .unsupportedLocator,
    .unsupportedRole, .verificationRuleInvalid,
    .verificationExpectationInvalid, .verificationTargetUnsupported,
    .extractionTargetUnsupported]

def policyErrors : List ExecutionErrorCode :=
  [.secretResolutionUnavailable, .invalidNavigationUrl, .unsafeUrlScheme,
    .originNotAllowed, .postNavigationOriginNotAllowed]

def approvalErrors : List ExecutionErrorCode :=
  [.approvalCoordinatorUnavailable, .approvalBindingInvalid,
    .approvalRequestFailed, .approvalRejected, .approvalExpired,
    .approvalInvalidated]

def outputErrors : List ExecutionErrorCode :=
  [.outputNotAvailable, .outputTypeMismatch, .duplicateOutputProduction]

def infrastructureErrors : List ExecutionErrorCode :=
  [.browserLaunchFailed, .browserContextFailed, .adapterStartFailed,
    .resourceCleanupFailed]

def classifyFailure (errorCode : ExecutionErrorCode) : FailureCategory :=
  if errorCode = .verificationNotMatched ∨
      errorCode = .extractionValueUnavailable then
    .transientRead
  else if errorCode = .locatorNotFound ∨ errorCode = .locatorNotUnique then
    .locatorResolution
  else if errorCode ∈ validationErrors then
    .validation
  else if errorCode ∈ policyErrors then
    .policy
  else if errorCode = .executionCancelled ∨
      errorCode = .totalExecutionTimeout then
    .cancellation
  else if errorCode ∈ approvalErrors then
    .approval
  else if errorCode ∈ outputErrors then
    .output
  else if errorCode ∈ infrastructureErrors then
    .infrastructure
  else if errorCode = .navigationTimeout then
    .navigation
  else if errorCode = .actionTimeout ∨ errorCode = .stepTimeout ∨
      errorCode = .actionFailed then
    .action
  else
    .unknown

/-- `AUTO_RETRY`: the failures a step of a type is retried for by itself. -/
def automaticRetryErrors : WorkflowStepType → List ExecutionErrorCode
  | .verify => [.verificationNotMatched, .locatorNotFound]
  | .extract => [.extractionValueUnavailable, .locatorNotFound]
  | _ => []

def manualStepTypes : List WorkflowStepType :=
  [.verify, .extract, .click, .fill, .select, .setChecked]

def manualBlockedCategories : List FailureCategory :=
  [.validation, .policy, .cancellation, .approval, .output, .infrastructure,
    .unknown]

structure RetryPolicyInput where
  stepType : WorkflowStepType
  errorCode : ExecutionErrorCode
  effectCertainty : ExecutionEffectCertainty
  recoveryMode : RecoveryMode
  automaticRetryCount : Nat
  manualRetryCount : Nat
  totalAttemptCount : Nat
  approvalGated : Bool
  deriving DecidableEq, Repr

inductive RetryDisposition where
  | none
  | automaticRetry
  | manualRepair
  | locatorProposal
  | newRunRequired
  deriving DecidableEq, Repr

structure RetryPolicyDecision where
  category : FailureCategory
  disposition : RetryDisposition
  retryAllowed : Bool
  recoveryErrorCode : Option ExecutionErrorCode
  deriving DecidableEq, Repr

/-- Whether the effect of a failed attempt is known to be harmless. -/
def ExecutionEffectCertainty.isSafe (certainty : ExecutionEffectCertainty) :
    Bool :=
  certainty == .readOnly || certainty == .notStarted

def decideRetry (input : RetryPolicyInput) : RetryPolicyDecision :=
  let category := classifyFailure input.errorCode
  if input.approvalGated then
    { category
      disposition := .newRunRequired
      retryAllowed := false
      recoveryErrorCode := some .approvalGatedRetryRequiresNewRun }
  else if input.effectCertainty = .unknown ∨
      input.effectCertainty = .sideEffectPossible ∨
      input.effectCertainty = .completed then
    { category, disposition := .none, retryAllowed := false,
      recoveryErrorCode := .none }
  else if maxTotalAttempts ≤ input.totalAttemptCount then
    { category
      disposition := .none
      retryAllowed := false
      recoveryErrorCode := some .recoveryAttemptLimitReached }
  else if input.effectCertainty = .readOnly ∧
      input.errorCode ∈ automaticRetryErrors input.stepType ∧
      input.automaticRetryCount < maxAutomaticRetries then
    { category, disposition := .automaticRetry, retryAllowed := true,
      recoveryErrorCode := .none }
  else if input.recoveryMode = .automaticSafeAndManual ∧
      input.effectCertainty.isSafe ∧
      input.stepType ∈ manualStepTypes ∧
      category ∉ manualBlockedCategories ∧
      input.manualRetryCount < maxManualRetries then
    { category, disposition := .manualRepair, retryAllowed := true,
      recoveryErrorCode := .none }
  else if input.recoveryMode = .automaticSafeAndLocatorProposals ∧
      category = .locatorResolution ∧
      input.effectCertainty.isSafe ∧
      input.stepType ∈ manualStepTypes then
    { category, disposition := .locatorProposal, retryAllowed := false,
      recoveryErrorCode := .none }
  else
    { category, disposition := .none, retryAllowed := false,
      recoveryErrorCode := .none }

/-- The policy either closes the step or follows up a harmless failure. -/
inductive RetryReason (input : RetryPolicyInput) : RetryDisposition → Prop where
  | none : RetryReason input .none
  | newRunRequired
      (gated : input.approvalGated = true) :
      RetryReason input .newRunRequired
  | automaticRetry
      (ungated : input.approvalGated = false)
      (readOnly : input.effectCertainty = .readOnly)
      (below : input.totalAttemptCount < maxTotalAttempts)
      (admitted : input.errorCode ∈ automaticRetryErrors input.stepType)
      (first : input.automaticRetryCount < maxAutomaticRetries) :
      RetryReason input .automaticRetry
  | manualRepair
      (ungated : input.approvalGated = false)
      (safe : input.effectCertainty.isSafe = true)
      (below : input.totalAttemptCount < maxTotalAttempts)
      (manual : input.recoveryMode = .automaticSafeAndManual)
      (first : input.manualRetryCount < maxManualRetries) :
      RetryReason input .manualRepair
  | locatorProposal
      (ungated : input.approvalGated = false)
      (safe : input.effectCertainty.isSafe = true)
      (below : input.totalAttemptCount < maxTotalAttempts)
      (proposals : input.recoveryMode = .automaticSafeAndLocatorProposals)
      (locator : classifyFailure input.errorCode = .locatorResolution) :
      RetryReason input .locatorProposal

theorem decideRetry_reason (input : RetryPolicyInput) :
    RetryReason input (decideRetry input).disposition := by
  unfold decideRetry
  dsimp only
  split
  case isTrue gated => exact .newRunRequired gated
  case isFalse ungated =>
  have isUngated : input.approvalGated = false := by simpa using ungated
  split
  case isTrue => exact .none
  case isFalse =>
  split
  case isTrue => exact .none
  case isFalse below =>
  have isBelow : input.totalAttemptCount < maxTotalAttempts := by omega
  split
  case isTrue allowed =>
    exact .automaticRetry isUngated allowed.1 isBelow allowed.2.1 allowed.2.2
  case isFalse =>
  split
  case isTrue allowed =>
    exact .manualRepair isUngated allowed.2.1 isBelow allowed.1
      allowed.2.2.2.2
  case isFalse =>
  split
  case isTrue allowed =>
    exact .locatorProposal isUngated allowed.2.2.1 isBelow allowed.1
      allowed.2.1
  case isFalse => exact .none

end TaskTwin.Recovery
