import Mathlib.Logic.Basic

/-!
# Execution error codes

The stable codes of the execution engine and the fixed message of each code.
-/

namespace TaskTwin.Engine

/-- `ExecutionErrorCodeSchema`. -/
inductive ExecutionErrorCode where
  | invalidExecutionRequest
  | invalidWorkflow
  | invalidRuntimeInputs
  | invalidExecutionTimeout
  | unsupportedStepType
  | secretResolutionUnavailable
  | invalidNavigationUrl
  | unsafeUrlScheme
  | originNotAllowed
  | postNavigationOriginNotAllowed
  | unsupportedLocator
  | unsupportedRole
  | locatorNotFound
  | locatorNotUnique
  | browserLaunchFailed
  | browserContextFailed
  | adapterStartFailed
  | navigationTimeout
  | actionTimeout
  | stepTimeout
  | totalExecutionTimeout
  | actionFailed
  | executionCancelled
  | resourceCleanupFailed
  | invalidRunTransition
  | invalidStepTransition
  | verificationRuleInvalid
  | verificationExpectationInvalid
  | verificationNotMatched
  | verificationTargetUnsupported
  | outputNotAvailable
  | outputTypeMismatch
  | duplicateOutputProduction
  | extractionTargetUnsupported
  | extractionValueUnavailable
  | approvalCoordinatorUnavailable
  | approvalBindingInvalid
  | approvalRequestFailed
  | approvalRejected
  | approvalExpired
  | approvalInvalidated
  | recoveryNotAllowed
  | recoveryAttemptLimitReached
  | recoveryCoordinatorUnavailable
  | recoveryRequestFailed
  | recoveryAborted
  | recoveryExpired
  | recoveryInvalidated
  | approvalGatedRetryRequiresNewRun
  deriving DecidableEq, Repr

/-- `SAFE_MESSAGES`. -/
def safeMessage : ExecutionErrorCode → String
  | .invalidExecutionRequest => "The workflow execution request is invalid."
  | .invalidWorkflow => "The workflow definition is invalid."
  | .invalidRuntimeInputs => "The workflow runtime inputs are invalid."
  | .invalidExecutionTimeout => "The workflow execution timeout is invalid."
  | .unsupportedStepType => "The workflow contains an unsupported step type."
  | .secretResolutionUnavailable => "Secret resolution is unavailable."
  | .invalidNavigationUrl => "The navigation destination is invalid."
  | .unsafeUrlScheme => "The navigation protocol is not allowed."
  | .originNotAllowed => "The navigation origin is not allowed."
  | .postNavigationOriginNotAllowed =>
      "Navigation finished on an origin that is not allowed."
  | .unsupportedLocator => "The locator strategy is not supported."
  | .unsupportedRole => "The locator role is not supported."
  | .locatorNotFound => "The locator did not match an element."
  | .locatorNotUnique => "The locator matched more than one element."
  | .browserLaunchFailed => "Chromium could not be launched."
  | .browserContextFailed =>
      "The isolated browser context could not be created."
  | .adapterStartFailed => "The execution adapter could not be started."
  | .navigationTimeout => "Navigation exceeded its allowed step timeout."
  | .actionTimeout => "The browser action exceeded its allowed step timeout."
  | .stepTimeout => "The workflow step exceeded its allowed timeout."
  | .totalExecutionTimeout =>
      "The workflow exceeded its total execution timeout."
  | .actionFailed => "The browser action could not be completed."
  | .executionCancelled => "The workflow execution was cancelled."
  | .resourceCleanupFailed =>
      "Execution resources could not be closed cleanly."
  | .invalidRunTransition => "The run state transition is invalid."
  | .invalidStepTransition => "The step state transition is invalid."
  | .verificationRuleInvalid => "The verification rule is invalid."
  | .verificationExpectationInvalid =>
      "The verification expectation is invalid."
  | .verificationNotMatched => "The verification outcome did not match."
  | .verificationTargetUnsupported =>
      "The verification target is not supported."
  | .outputNotAvailable => "The workflow output is not available."
  | .outputTypeMismatch => "The workflow output type is incompatible."
  | .duplicateOutputProduction =>
      "The workflow output was produced more than once."
  | .extractionTargetUnsupported => "The extraction target is not supported."
  | .extractionValueUnavailable =>
      "The workflow output could not be extracted."
  | .approvalCoordinatorUnavailable =>
      "Human approval coordination is unavailable."
  | .approvalBindingInvalid => "The Approval step binding is invalid."
  | .approvalRequestFailed => "The approval request could not be completed."
  | .approvalRejected => "The workflow approval request was rejected."
  | .approvalExpired => "The workflow approval request expired."
  | .approvalInvalidated => "The workflow approval request was invalidated."
  | .recoveryNotAllowed => "The workflow step cannot be retried safely."
  | .recoveryAttemptLimitReached =>
      "The workflow step retry limit was reached."
  | .recoveryCoordinatorUnavailable =>
      "Attended workflow repair is unavailable."
  | .recoveryRequestFailed =>
      "The workflow repair request could not be completed."
  | .recoveryAborted => "The workflow repair request was aborted."
  | .recoveryExpired => "The workflow repair request expired."
  | .recoveryInvalidated => "The workflow repair request was invalidated."
  | .approvalGatedRetryRequiresNewRun =>
      "An approval-gated action requires a new workflow run."

end TaskTwin.Engine
