import TaskTwin.Policy.Definition
import TaskTwin.Workflow.Inputs

/-!
# Verification rules

The analysis of the verify steps of a workflow, and the normal forms of the
addresses and texts that they expect.
-/

namespace TaskTwin.Workflow

open Schema Text
open TaskTwin.Policy (Url)

def maxVerificationUrlLength : Nat := 2048

def maxVerificationTextLength : Nat := 4096

def maxVerificationFieldValueLength : Nat := 4096

inductive UrlNormalizationFailure where
  | invalid
  | unsafeUrl
  deriving DecidableEq, Repr

/-- The origin and the path of an address. -/
structure NormalizedVerificationUrl where
  origin : JsString
  pathname : JsString
  deriving DecidableEq

variable (parseUrl : JsString → Option Url)

def normalizeVerificationUrl
    (input : String) :
    Except UrlNormalizationFailure NormalizedVerificationUrl :=
  if utf16Length input = 0 ∨ maxVerificationUrlLength < utf16Length input then
    .error .invalid
  else
    match parseUrl (js input) with
    | none => .error .invalid
    | some url =>
        if url.isHttp = false ∨ url.username ≠ [] ∨ url.password ≠ [] then
          .error .unsafeUrl
        else
          .ok { origin := url.origin, pathname := url.pathname }

/-- `normalizeVerificationUrl(input).ok`. -/
def isVerificationUrl (input : String) : Bool :=
  (normalizeVerificationUrl parseUrl input).toOption.isSome

/-- `normalizeVerificationText(input) !== null`. -/
def isVerificationText (input : String) : Bool :=
  utf16Length input ≤ maxVerificationTextLength

inductive VerificationAnalysisIssueCode where
  | secretExpectationForbidden
  | fileExpectationForbidden
  | expectationTypeIncompatible
  | expectationTooLong
  | urlInvalid
  | urlUnsafe
  | legacyOperatorUnsupported
  deriving DecidableEq, Repr

structure VerificationAnalysisIssue where
  code : VerificationAnalysisIssueCode
  stepId : NonEmptyString
  stepIndex : Nat
  deriving DecidableEq, Repr

structure WorkflowVerificationAnalysis where
  hasValidVerification : Bool
  verificationStepCount : Nat
  issues : List VerificationAnalysisIssue
  deriving DecidableEq, Repr

/-- `urlMatchMode`; `none` when no safe mode was selected. -/
def urlMatchMode : WorkflowAssertion → Option UrlMatchMode
  | .url (some matchMode) _ _ => some matchMode
  | .url none (some .equals) _ => some .originAndPath
  | _ => none

def expectedSource :
    WorkflowAssertion → Option (ValueSource × ValueSourceTarget)
  | .url _ _ expected => some (expected, .verifyUrlExpected)
  | .text _ _ _ expected => some (expected, .verifyTextExpected)
  | .value _ _ expected => some (expected, .verifyValueExpected)
  | _ => none

/-- The expectation as a literal of the type that its assertion compares. -/
def literalExpectationIssue
    (target : ValueSourceTarget)
    (value : LiteralValue) :
    Option VerificationAnalysisIssueCode :=
  if !isLiteralCompatible target value then
    some .expectationTypeIncompatible
  else
    match value with
    | .string text =>
        let maximum :=
          if target = .verifyValueExpected then
            maxVerificationFieldValueLength
          else
            maxVerificationTextLength
        if maximum < utf16Length text then some .expectationTooLong
        else if target = .verifyUrlExpected then
          match normalizeVerificationUrl parseUrl text with
          | .ok _ => none
          | .error .unsafeUrl => some .urlUnsafe
          | .error .invalid => some .urlInvalid
        else
          none
    | _ => none

/-- `analyzeExpected`. -/
def analyzeExpected
    (declared : List WorkflowVariable)
    (assertion : WorkflowAssertion) :
    Option VerificationAnalysisIssueCode :=
  match expectedSource assertion with
  | none => none
  | some (.secret _, _) => some .secretExpectationForbidden
  | some (.variable variableName, target) =>
      match
        declared.find? fun declaration => declaration.name = variableName
      with
      | none => none
      | some declaration =>
          if declaration.valueType = .file then some .fileExpectationForbidden
          else if isVariableTypeCompatible target declaration.valueType then
            none
          else
            some .expectationTypeIncompatible
  | some (.output _, _) => none
  | some (.literal value, target) =>
      literalExpectationIssue parseUrl target value

/-- A URL assertion without a safe mode, or a value that may be contained. -/
def hasLegacyOperator : WorkflowAssertion → Bool
  | .url matchMode operator expected =>
      (urlMatchMode (.url matchMode operator expected)).isNone
  | .value _ (some .contains) _ => true
  | _ => false

def verificationIssueCodes
    (declared : List WorkflowVariable)
    (assertion : WorkflowAssertion) :
    List VerificationAnalysisIssueCode :=
  (if hasLegacyOperator assertion then [.legacyOperatorUnsupported] else []) ++
    (analyzeExpected parseUrl declared assertion).toList

def verificationStepIssues
    (declared : List WorkflowVariable)
    (step : WorkflowStep)
    (stepIndex : Nat) :
    List VerificationAnalysisIssue :=
  match step.action with
  | .verify assertion _ =>
      (verificationIssueCodes parseUrl declared assertion).map fun code =>
        { code, stepId := step.id, stepIndex }
  | _ => []

def analyzeWorkflowVerifications
    (workflow : WorkflowDefinition) :
    WorkflowVerificationAnalysis :=
  let issues :=
    workflow.steps.zipIdx.flatMap fun placed =>
      verificationStepIssues parseUrl workflow.workflowVariables placed.1
        placed.2
  let verificationStepCount :=
    workflow.steps.countP fun step => step.type = .verify
  { hasValidVerification :=
      0 < verificationStepCount &&
        workflow.steps.any fun step =>
          step.type = .verify &&
            !issues.any fun issue => issue.stepId = step.id
    verificationStepCount
    issues }

end TaskTwin.Workflow
