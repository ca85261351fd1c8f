import TaskTwin.Policy.Evaluation
import TaskTwin.Workflow.Verification

/-!
# Publish readiness

Before a draft is tested or published, five analyses of its definition are put
together in one report, which passes a schema of its own before it is returned.
A definition that does not parse is reported by the issues of its schema.
-/

namespace TaskTwin.Publication

open Text Schema Workflow
open TaskTwin.Policy
  (Platform WorkspaceExecutionPolicyDefinition PolicyEvaluationIssue
    PolicyIssueCode evaluateWorkflowPolicy)

/-- `MAX_LIFECYCLE_ISSUES`. -/
def maxLifecycleIssues : Nat := 2000

inductive PublishReadinessIssueCode where
  | unsupportedWorkflowSchemaVersion
  | invalidWorkflowDefinition
  | workflowStepsRequired
  | duplicateStepId
  | duplicateVariableName
  | invalidVerification
  | outcomeVerificationMissing
  | approvalStepOrphaned
  | input (code : WorkflowInputIssueCode)
  | extraction (code : ExtractionIssueCode)
  | policy (code : PolicyIssueCode)
  deriving DecidableEq, Repr

/-- `ISSUE_DETAILS[code].severity`, where it is read. -/
def PublishReadinessIssueCode.severity :
    PublishReadinessIssueCode → Workflow.IssueSeverity
  | .outcomeVerificationMissing => .warning
  | .input .unusedVariable => .warning
  | _ => .blocking

def inputMessage : WorkflowInputIssueCode → String
  | .unknownVariableReference =>
      "A referenced workflow variable does not exist."
  | .incompatibleVariableType =>
      "A workflow variable type is incompatible with its usage."
  | .incompatibleLiteral =>
      "A literal value type is incompatible with its usage."
  | .secretSourceNotAllowed =>
      "A secret reference is not allowed for this property."
  | .unsafeSecretReference => "A secret reference must be a safe alias."
  | .unusedVariable => "A workflow variable is not referenced by any step."

def extractionMessage : ExtractionIssueCode → String
  | .unsupportedExtractionSource => "An extraction source is unsupported."
  | .duplicateOutputName => "Workflow output names must be unique."
  | .unknownOutputReference => "A referenced workflow output does not exist."
  | .outputReferenceBeforeProducer =>
      "An output must be produced before use."
  | .outputSelfReference => "An Extract step cannot consume its own output."
  | .outputTypeIncompatible =>
      "An output type is incompatible with its consumer."
  | .outputNavigateForbidden => "Navigate cannot use an output source."
  | .unusedOutput => "A workflow output is not used."

def policyMessage : PolicyIssueCode → String
  | .unknownActionIntent => "An action has an explicit unknown intent."
  | .highRiskAction => "The workflow contains a high-risk action."
  | .multipleWorkflowOrigins =>
      "The workflow declares multiple execution origins."
  | .unsafeUrlScheme => "The execution policy denies an unsafe URL scheme."
  | .urlCredentialsDenied =>
      "The execution policy denies credential-bearing URLs."
  | .originInvalid => "The workflow origin cannot be evaluated safely."
  | .httpOriginDenied => "The execution policy denies this HTTP origin."
  | .originBlocked => "The execution policy blocks a workflow origin."
  | .originNotAllowed => "A workflow origin is not allowed by policy."
  | .actionDenied => "The execution policy denies a workflow action."
  | .approvalRequiredMissing =>
      "A policy-gated action requires an immediate Approval step."
  | .approvalBindingInvalid =>
      "The policy-required Approval binding is invalid."

/-- `ISSUE_DETAILS[code].message`. -/
def PublishReadinessIssueCode.message : PublishReadinessIssueCode → String
  | .unsupportedWorkflowSchemaVersion =>
      "The workflow schema version is not supported."
  | .invalidWorkflowDefinition => "The workflow definition is invalid."
  | .workflowStepsRequired => "The workflow must contain at least one step."
  | .duplicateStepId => "Workflow step IDs must be unique."
  | .duplicateVariableName => "Workflow variable names must be unique."
  | .invalidVerification =>
      "A Verify step contains an invalid or unsafe rule."
  | .outcomeVerificationMissing =>
      "The workflow has no valid explicit outcome verification."
  | .approvalStepOrphaned =>
      "An Approval step must gate an immediate following step."
  | .input code => inputMessage code
  | .extraction code => extractionMessage code
  | .policy code => policyMessage code

/-- The path of an issue, of names and indices, passes its schema always. -/
structure PublishReadinessIssue where
  code : PublishReadinessIssueCode
  severity : Workflow.IssueSeverity
  message : String
  stepId : Option NonEmptyString
  stepIndex : Option Nat
  variableName : Option Identifier
  deriving DecidableEq, Repr

def maxIssueMessageLength : Nat := 240

/-- `PublishReadinessIssueSchema`. -/
def PublishReadinessIssue.parses (issue : PublishReadinessIssue) : Bool :=
  isTrimmedWithin maxIssueMessageLength issue.message &&
    issue.stepId.all (fun stepId => isNonEmptyTrimmed stepId.text) &&
    issue.variableName.all fun variableName =>
      isNonEmptyTrimmed variableName.text

/-- An array has fewer entries than the largest safe integer. -/
structure PublishReadinessSummary where
  blockingCount : Nat
  warningCount : Nat
  issueCount : Nat
  stepCount : Nat
  variableCount : Nat
  secretRequirementCount : Nat
  deriving DecidableEq, Repr

structure PublishReadinessReport where
  workflowId : JsString
  workflowVersion : Nat
  ready : Bool
  issues : List PublishReadinessIssue
  summary : PublishReadinessSummary
  deriving DecidableEq, Repr

/-- `PublishReadinessReportSchema`. -/
def PublishReadinessReport.parses (report : PublishReadinessReport) : Bool :=
  decide ((report.workflowVersion : Int) ≤ maxSafeInteger) &&
    decide (report.issues.length ≤ maxLifecycleIssues) &&
    report.issues.all PublishReadinessIssue.parses &&
    decide (report.summary.blockingCount ≤ maxLifecycleIssues) &&
    decide (report.summary.warningCount ≤ maxLifecycleIssues) &&
    decide (report.summary.issueCount ≤ maxLifecycleIssues)

/-- `PublishReadinessReportSchema.parse`; `none` when it throws. -/
def PublishReadinessReport.parse
    (report : PublishReadinessReport) :
    Option PublishReadinessReport :=
  if report.parses then some report else none

/-- A segment of the path of an issue; a symbol is neither of the two. -/
inductive PropertyKey where
  | name (text : JsString)
  | index (position : Int)
  | symbol
  deriving DecidableEq, Repr

/-- What is read of an issue of `WorkflowDefinitionSchema`. -/
structure SchemaIssue where
  code : JsString
  message : JsString
  path : List PropertyKey
  deriving DecidableEq, Repr

/-- `safePath`. -/
def safePath (path : List PropertyKey) : List PropertyKey :=
  path.filter fun segment =>
    match segment with
    | .name _ => true
    | .index position => decide (0 ≤ position)
    | .symbol => false

def structuralCode (issue : SchemaIssue) : PublishReadinessIssueCode :=
  let path := safePath issue.path
  if path.head? = some (.name (js "schemaVersion")) then
    .unsupportedWorkflowSchemaVersion
  else if path.length = 1 ∧ path.head? = some (.name (js "steps")) ∧
      issue.code = js "too_small" then
    .workflowStepsRequired
  else if path.head? = some (.name (js "steps")) ∧
      path.getLast? = some (.name (js "id")) ∧
      (js "Duplicate step ID:").isPrefixOf issue.message then
    .duplicateStepId
  else if path.head? = some (.name (js "variables")) ∧
      path.getLast? = some (.name (js "name")) ∧
      (js "Duplicate variable name:").isPrefixOf issue.message then
    .duplicateVariableName
  else
    .invalidWorkflowDefinition

def issueOfCode (code : PublishReadinessIssueCode) : PublishReadinessIssue :=
  { code
    severity := code.severity
    message := code.message
    stepId := none
    stepIndex := none
    variableName := none }

def structuralIssue (issue : SchemaIssue) : PublishReadinessIssue :=
  issueOfCode (structuralCode issue)

structure Identity where
  workflowId : JsString
  workflowVersion : Nat
  stepCount : Nat
  variableCount : Nat
  deriving DecidableEq, Repr

def textOf : JsValue → JsString
  | .string text => text
  | _ => []

/-- A whole number that is not negative, or 0. -/
def versionOf : JsValue → Nat
  | .number value =>
      match wholeNumber value with
      | some whole => whole.toNat
      | none => 0
  | _ => 0

def entryCount : JsValue → Nat
  | .array items => items.length
  | _ => 0

/-- An object that is no record of fields has none of the four properties. -/
def getIdentity : JsValue → Identity
  | .object fields =>
      { workflowId := textOf (JsValue.get fields (js "workflowId"))
        workflowVersion := versionOf (JsValue.get fields (js "version"))
        stepCount := entryCount (JsValue.get fields (js "steps"))
        variableCount := entryCount (JsValue.get fields (js "variables")) }
  | _ =>
      { workflowId := []
        workflowVersion := 0
        stepCount := 0
        variableCount := 0 }

/-- What `WorkflowDefinitionSchema.safeParse` makes of an input. -/
inductive ParsedDefinition where
  | success
      (workflow : WorkflowDefinition)
      (versionIsSafe : (workflow.version : Int) ≤ maxSafeInteger)
  | failure (issues : List SchemaIssue)

def invalidReport
    (input : JsValue)
    (schemaIssues : List SchemaIssue) :
    PublishReadinessReport :=
  let identity := getIdentity input
  let issues := (schemaIssues.take maxLifecycleIssues).map structuralIssue
  { workflowId := identity.workflowId
    workflowVersion := identity.workflowVersion
    ready := false
    issues
    summary :=
      { blockingCount := issues.length
        warningCount := 0
        issueCount := issues.length
        stepCount := identity.stepCount
        variableCount := identity.variableCount
        secretRequirementCount := 0 } }

def inputIssue (issue : WorkflowInputIssue) : PublishReadinessIssue :=
  { issueOfCode (.input issue.code) with
    stepId := issue.step.map Prod.fst
    stepIndex := issue.step.map Prod.snd
    variableName := issue.variableName }

def verificationIssue
    (issue : VerificationAnalysisIssue) :
    PublishReadinessIssue :=
  { issueOfCode .invalidVerification with
    stepId := some issue.stepId
    stepIndex := some issue.stepIndex }

def extractionIssue (issue : ExtractionAnalysisIssue) : PublishReadinessIssue :=
  { issueOfCode (.extraction issue.code) with
    severity := issue.severity
    stepId := some issue.stepId
    stepIndex := some issue.stepIndex }

def approvalIssue (issue : ApprovalAnalysisIssue) : PublishReadinessIssue :=
  { issueOfCode .approvalStepOrphaned with
    stepId := some issue.stepId
    stepIndex := some issue.stepIndex }

def policySeverity : Policy.IssueSeverity → Workflow.IssueSeverity
  | .blocking => .blocking
  | .warning => .warning

def policyIssue (issue : PolicyEvaluationIssue) : PublishReadinessIssue :=
  { issueOfCode (.policy issue.code) with
    severity := policySeverity issue.severity
    stepId := issue.stepId
    stepIndex := issue.stepIndex }

variable (platform : Platform)

/-- `'0'.repeat(64)`. -/
def placeholderDigest : JsString := List.replicate 64 (unit '0')

/-- The issues of the policy, if there is one; `none` when it throws. -/
def policyIssues
    (workflow : WorkflowDefinition)
    (policy : Option WorkspaceExecutionPolicyDefinition) :
    Option (List PolicyEvaluationIssue) :=
  match policy with
  | none => some []
  | some policy =>
      (evaluateWorkflowPolicy platform
        { policy
          workflow
          policyDigest := placeholderDigest
          workflowDigest := placeholderDigest }).map fun evaluation =>
        evaluation.issues

def PublishReadinessIssue.isBlocking (issue : PublishReadinessIssue) : Bool :=
  issue.severity == .blocking

/-- All issues of a definition, one analysis after the other. -/
def allIssues
    (workflow : WorkflowDefinition)
    (extraction : WorkflowExtractionAnalysis)
    (approvals : WorkflowApprovalAnalysis)
    (ofPolicy : List PolicyEvaluationIssue) :
    List PublishReadinessIssue :=
  let verification := analyzeWorkflowVerifications platform.parseUrl workflow
  (analyzeWorkflowInputs workflow).issues.map inputIssue ++
    verification.issues.map verificationIssue ++
    (if verification.hasValidVerification then []
      else [issueOfCode .outcomeVerificationMissing]) ++
    extraction.issues.map extractionIssue ++
    approvals.issues.map approvalIssue ++
    ofPolicy.map policyIssue

def reportOf
    (workflow : WorkflowDefinition)
    (issues : List PublishReadinessIssue) :
    PublishReadinessReport :=
  let blockingCount := issues.countP PublishReadinessIssue.isBlocking
  { workflowId := js workflow.workflowId.text
    workflowVersion := workflow.version
    ready := blockingCount = 0
    issues
    summary :=
      { blockingCount
        warningCount := issues.length - blockingCount
        issueCount := issues.length
        stepCount := workflow.steps.length
        variableCount := workflow.workflowVariables.length
        secretRequirementCount :=
          (analyzeWorkflowInputs workflow).secretRequirements.length } }

/-- `analyzePublishReadiness`; `none` when it throws. -/
def analyzePublishReadiness
    (input : JsValue)
    (parsed : ParsedDefinition)
    (policy : Option WorkspaceExecutionPolicyDefinition) :
    Option PublishReadinessReport :=
  match parsed with
  | .failure schemaIssues => (invalidReport input schemaIssues).parse
  | .success workflow _ => do
      let extraction ← analyzeWorkflowExtraction workflow
      let approvals ← analyzeWorkflowApprovals workflow
      let ofPolicy ← policyIssues platform workflow policy
      (reportOf workflow
        (allIssues platform workflow extraction approvals ofPolicy)).parse

end TaskTwin.Publication
