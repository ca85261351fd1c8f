import Mathlib.Data.List.Nodup
import TaskTwin.Schema.Text

/-!
# Workflow definitions

The workflow schema: value sources, element locators, assertions, the nine
kinds of steps and the definition that holds them.  A definition that breaks
a rule of its schema cannot be built.
-/

namespace TaskTwin.Workflow

open Schema

def maxWaitDurationMs : Nat := 300000
def minApprovalTimeoutMs : Nat := 5000
def maxApprovalTimeoutMs : Nat := 300000
def minVerificationTimeoutMs : Nat := 100
def maxVerificationTimeoutMs : Nat := 60000

inductive LiteralValue where
  | string (value : String)
  | number (value : Rat)
  | boolean (value : Bool)
  deriving DecidableEq, Repr

inductive ValueSource where
  | literal (value : LiteralValue)
  | variable (variableName : Identifier)
  | secret (secretName : Identifier)
  | output (outputName : Identifier)
  deriving DecidableEq, Repr

inductive WorkflowVariableValueType where
  | string
  | number
  | boolean
  | date
  | file
  deriving DecidableEq, Repr

structure WorkflowVariable where
  name : Identifier
  label : Option NonEmptyString
  valueType : WorkflowVariableValueType
  required : Bool
  description : Option NonEmptyString
  deriving DecidableEq, Repr

inductive TestIdAttribute where
  | dataTestid
  | dataTest
  | dataCy
  | dataQa
  deriving DecidableEq, Repr

inductive ElementLocator where
  | testId (value : NonEmptyString) (testIdAttribute : Option TestIdAttribute)
  | role
      (role : NonEmptyString)
      (name : Option NonEmptyString)
      (exact : Option Bool)
  | label (value : NonEmptyString) (exact : Option Bool)
  | text (value : NonEmptyString) (exact : Option Bool)
  | placeholder (value : NonEmptyString) (exact : Option Bool)
  | css (selector : NonEmptyString)
  deriving DecidableEq, Repr

inductive LocatorKind where
  | testId
  | role
  | label
  | placeholder
  | text
  | css
  deriving DecidableEq, Repr

def ElementLocator.kind : ElementLocator → LocatorKind
  | .testId .. => .testId
  | .role .. => .role
  | .label .. => .label
  | .text .. => .text
  | .placeholder .. => .placeholder
  | .css .. => .css

inductive AssertionOperator where
  | equals
  | contains
  deriving DecidableEq, Repr

inductive TextMatchMode where
  | exact
  | contains
  deriving DecidableEq, Repr

inductive UrlMatchMode where
  | origin
  | originAndPath
  deriving DecidableEq, Repr

inductive WorkflowAssertion where
  | visible (locator : ElementLocator)
  | hidden (locator : ElementLocator)
  | text
      (locator : ElementLocator)
      (matchMode : Option TextMatchMode)
      (operator : Option AssertionOperator)
      (expected : ValueSource)
  | value
      (locator : ElementLocator)
      (operator : Option AssertionOperator)
      (expected : ValueSource)
  | url
      (matchMode : Option UrlMatchMode)
      (operator : Option AssertionOperator)
      (expected : ValueSource)
  | checked (locator : ElementLocator) (expected : Bool)
  deriving DecidableEq, Repr

/-- `requireOneMatchMode`, for the two assertions that refine with it. -/
def WorkflowAssertion.requireOneMatchMode : WorkflowAssertion → Bool
  | .text _ matchMode operator _ => operator.isNone != matchMode.isNone
  | .url matchMode operator _ => operator.isNone != matchMode.isNone
  | _ => true

/-- The locator of an assertion that has one. -/
def WorkflowAssertion.locator? : WorkflowAssertion → Option ElementLocator
  | .visible locator => some locator
  | .hidden locator => some locator
  | .text locator .. => some locator
  | .value locator .. => some locator
  | .url .. => none
  | .checked locator _ => some locator

inductive ClickActionIntent where
  | changeState
  | submit
  | send
  | delete
  | purchase
  | permissionChange
  | unknown
  deriving DecidableEq, Repr

inductive UrlExtractMode where
  | origin
  | originAndPath
  deriving DecidableEq, Repr

inductive ExtractSource where
  | text
  | value
  | attribute (name : NonEmptyString)
  | checked
  | url (mode : UrlExtractMode)
  deriving DecidableEq, Repr

inductive ApprovalRiskLevel where
  | low
  | medium
  | high
  | critical
  deriving DecidableEq, Repr

inductive WorkflowStepType where
  | navigate
  | click
  | fill
  | select
  | setChecked
  | wait
  | extract
  | verify
  | approval
  deriving DecidableEq, Repr

/-- What a step does, by its type. -/
inductive WorkflowStepAction where
  | navigate (url : ValueSource)
  | click (locator : ElementLocator) (actionIntent : Option ClickActionIntent)
  | fill (locator : ElementLocator) (value : ValueSource)
  | select (locator : ElementLocator) (value : ValueSource)
  | setChecked (locator : ElementLocator) (checked : Bool)
  | wait (durationMs : BoundedNat 1 maxWaitDurationMs)
  | extract
      (locator : Option ElementLocator)
      (source : ExtractSource)
      (outputName : Identifier)
      (outputLabel : Option NonEmptyString)
      (timeoutMs :
        Option (BoundedNat minVerificationTimeoutMs maxVerificationTimeoutMs))
  | verify
      (assertion : WorkflowAssertion)
      (timeoutMs :
        Option (BoundedNat minVerificationTimeoutMs maxVerificationTimeoutMs))
  | approval
      (message : NonEmptyString)
      (riskLevel : ApprovalRiskLevel)
      (timeoutMs : BoundedNat minApprovalTimeoutMs maxApprovalTimeoutMs)
  deriving DecidableEq, Repr

def WorkflowStepAction.type : WorkflowStepAction → WorkflowStepType
  | .navigate .. => .navigate
  | .click .. => .click
  | .fill .. => .fill
  | .select .. => .select
  | .setChecked .. => .setChecked
  | .wait .. => .wait
  | .extract .. => .extract
  | .verify .. => .verify
  | .approval .. => .approval

/-- The refinements of the step schemas. -/
def WorkflowStepAction.refined : WorkflowStepAction → Bool
  | .extract locator (.url _) .. => locator.isNone
  | .extract locator .. => locator.isSome
  | .verify assertion _ => assertion.requireOneMatchMode
  | _ => true

structure WorkflowStep where
  id : NonEmptyString
  name : NonEmptyString
  action : WorkflowStepAction
  refined : action.refined = true
  deriving DecidableEq, Repr

def WorkflowStep.type (step : WorkflowStep) : WorkflowStepType :=
  step.action.type

theorem WorkflowStep.action_of_approval
    (step : WorkflowStep)
    (isApproval : step.type = .approval) :
    ∃ message riskLevel timeoutMs,
      step.action = .approval message riskLevel timeoutMs := by
  rw [WorkflowStep.type] at isApproval
  cases actionIs : step.action with
  | approval message riskLevel timeoutMs => exact ⟨_, _, _, rfl⟩
  | _ => simp [actionIs, WorkflowStepAction.type] at isApproval

/-- `locatorKind`: the kind of the locator a step or its assertion uses. -/
def WorkflowStep.locatorKind (step : WorkflowStep) : Option LocatorKind :=
  match step.action with
  | .click locator _ => some locator.kind
  | .fill locator _ => some locator.kind
  | .select locator _ => some locator.kind
  | .setChecked locator _ => some locator.kind
  | .extract locator .. => locator.map ElementLocator.kind
  | .verify assertion _ => assertion.locator?.map ElementLocator.kind
  | _ => none

inductive WorkflowLifecycleStatus where
  | draft
  | testing
  | published
  | archived
  deriving DecidableEq, Repr

/-- A parsed `WorkflowDefinitionSchema` value. -/
structure WorkflowDefinition where
  workflowId : NonEmptyString
  version : Nat
  versionPositive : 0 < version
  name : NonEmptyString
  description : Option NonEmptyString
  status : WorkflowLifecycleStatus
  workflowVariables : List WorkflowVariable
  steps : List WorkflowStep
  stepsNonEmpty : steps ≠ []
  stepIdsUnique : (steps.map WorkflowStep.id).Nodup
  variableNamesUnique : (workflowVariables.map WorkflowVariable.name).Nodup
  deriving Repr

/-- Step identifiers tell the steps of a definition apart. -/
theorem WorkflowDefinition.index_of_id
    (workflow : WorkflowDefinition)
    {left right : Nat}
    {leftStep rightStep : WorkflowStep}
    (atLeft : workflow.steps[left]? = some leftStep)
    (atRight : workflow.steps[right]? = some rightStep)
    (sameId : leftStep.id = rightStep.id) :
    left = right := by
  obtain ⟨leftInside, leftIs⟩ := List.getElem?_eq_some_iff.mp atLeft
  obtain ⟨rightInside, rightIs⟩ := List.getElem?_eq_some_iff.mp atRight
  have sameEntry :
      (workflow.steps.map WorkflowStep.id).get ⟨left, by simpa using leftInside⟩ =
        (workflow.steps.map WorkflowStep.id).get
          ⟨right, by simpa using rightInside⟩ := by
    simp [leftIs, rightIs, sameId]
  exact workflow.stepIdsUnique.getElem_inj_iff.mp sameEntry

end TaskTwin.Workflow

namespace TaskTwin.Workflow

open Schema

inductive ValueSourceTarget where
  | navigateUrl
  | fillValue
  | selectValue
  | verifyTextExpected
  | verifyValueExpected
  | verifyUrlExpected
  deriving DecidableEq, Repr

/-- `getValueSourceCompatibility(target).variableTypes`. -/
def acceptedVariableTypes :
    ValueSourceTarget → List WorkflowVariableValueType
  | .navigateUrl => [.string]
  | .fillValue => [.string]
  | .selectValue => [.string, .number]
  | .verifyTextExpected => [.string]
  | .verifyValueExpected => [.string, .number, .boolean]
  | .verifyUrlExpected => [.string]

structure LocatedValueSource where
  source : ValueSource
  stepId : NonEmptyString
  stepIndex : Nat
  stepType : WorkflowStepType
  target : ValueSourceTarget
  deriving DecidableEq, Repr

/-- The value source a step reads, with the property that reads it. -/
def WorkflowStep.valueSource
    (step : WorkflowStep) :
    Option (ValueSource × ValueSourceTarget) :=
  match step.action with
  | .navigate url => some (url, .navigateUrl)
  | .fill _ value => some (value, .fillValue)
  | .select _ value => some (value, .selectValue)
  | .verify (.text _ _ _ expected) _ => some (expected, .verifyTextExpected)
  | .verify (.value _ _ expected) _ => some (expected, .verifyValueExpected)
  | .verify (.url _ _ expected) _ => some (expected, .verifyUrlExpected)
  | _ => none

def locate
    (step : WorkflowStep)
    (stepIndex : Nat) :
    List LocatedValueSource :=
  match step.valueSource with
  | none => []
  | some (source, target) =>
      [{ source, stepId := step.id, stepIndex, stepType := step.type, target }]

def findWorkflowValueSources
    (workflow : WorkflowDefinition) :
    List LocatedValueSource :=
  workflow.steps.zipIdx.flatMap fun (step, stepIndex) => locate step stepIndex

inductive WorkflowOutputType where
  | string
  | boolean
  deriving DecidableEq, Repr

def outputTypeForExtractStep : ExtractSource → Option WorkflowOutputType
  | .text => some .string
  | .value => some .string
  | .url _ => some .string
  | .checked => some .boolean
  | .attribute _ => none

structure WorkflowOutputDefinition where
  name : Identifier
  label : Option NonEmptyString
  valueType : WorkflowOutputType
  producerStepId : NonEmptyString
  producerStepIndex : Nat
  deriving DecidableEq, Repr

/-- The output one step defines, if it is an extract step of a known type. -/
def outputOfStep
    (step : WorkflowStep)
    (producerStepIndex : Nat) :
    Option WorkflowOutputDefinition :=
  match step.action with
  | .extract _ source outputName outputLabel _ =>
      (outputTypeForExtractStep source).map fun valueType =>
        { name := outputName
          label := outputLabel
          valueType
          producerStepId := step.id
          producerStepIndex }
  | _ => none

theorem outputOfStep_extract
    {step : WorkflowStep}
    {locator : Option ElementLocator}
    {source : ExtractSource}
    {outputName : Identifier}
    {outputLabel : Option NonEmptyString}
    {timeoutMs :
      Option (BoundedNat minVerificationTimeoutMs maxVerificationTimeoutMs)}
    {valueType : WorkflowOutputType}
    (isExtract :
      step.action = .extract locator source outputName outputLabel timeoutMs)
    (typed : outputTypeForExtractStep source = some valueType)
    (index : Nat) :
    ∃ definition,
      outputOfStep step index = some definition ∧
        definition.name = outputName ∧
        definition.valueType = valueType := by
  simp [outputOfStep, isExtract, typed]

def defineWorkflowOutputs
    (workflow : WorkflowDefinition) :
    List WorkflowOutputDefinition :=
  workflow.steps.zipIdx.filterMap fun (step, index) => outputOfStep step index

inductive WorkflowOutputStatus where
  | produced
  | notProduced
  deriving DecidableEq, Repr

structure SafeWorkflowOutputSummary where
  outputName : Identifier
  outputType : WorkflowOutputType
  producerStepId : NonEmptyString
  status : WorkflowOutputStatus
  deriving DecidableEq, Repr

def maxStepIdLength : Nat := 256

/-- `SafeWorkflowOutputSummarySchema`. -/
def SafeWorkflowOutputSummary.parses
    (summary : SafeWorkflowOutputSummary) :
    Bool :=
  isTrimmedWithin maxStepIdLength summary.producerStepId.text

inductive ExtractionIssueCode where
  | unsupportedExtractionSource
  | duplicateOutputName
  | unknownOutputReference
  | outputReferenceBeforeProducer
  | outputSelfReference
  | outputTypeIncompatible
  | outputNavigateForbidden
  | unusedOutput
  deriving DecidableEq, Repr

inductive IssueSeverity where
  | blocking
  | warning
  deriving DecidableEq, Repr

structure ExtractionAnalysisIssue where
  code : ExtractionIssueCode
  severity : IssueSeverity
  stepId : NonEmptyString
  stepIndex : Nat
  outputName : Identifier
  deriving DecidableEq, Repr

structure WorkflowOutputUsage where
  outputName : Identifier
  consumerStepId : NonEmptyString
  consumerStepIndex : Nat
  target : ValueSourceTarget
  deriving DecidableEq, Repr

structure WorkflowExtractionAnalysis where
  outputs : List WorkflowOutputDefinition
  usages : List WorkflowOutputUsage
  issues : List ExtractionAnalysisIssue
  hasBlockingIssues : Bool
  deriving Repr

def WorkflowOutputType.variableType :
    WorkflowOutputType → WorkflowVariableValueType
  | .string => .string
  | .boolean => .boolean

def isOutputTypeCompatible
    (target : ValueSourceTarget)
    (outputType : WorkflowOutputType) :
    Bool :=
  target != .navigateUrl &&
    (acceptedVariableTypes target).contains outputType.variableType

/-- Issues of the extract steps themselves. -/
def producerIssues
    (outputs : List WorkflowOutputDefinition)
    (step : WorkflowStep)
    (stepIndex : Nat) :
    List ExtractionAnalysisIssue :=
  match step.action with
  | .extract _ source outputName _ _ =>
      let report code : ExtractionAnalysisIssue :=
        { code, severity := .blocking, stepId := step.id, stepIndex,
          outputName }
      match outputTypeForExtractStep source with
      | none => [report .unsupportedExtractionSource]
      | some _ =>
          -- Only the first producer of a name enters the producer table.
          if outputs.any fun output =>
              output.name == outputName &&
                output.producerStepIndex < stepIndex then
            [report .duplicateOutputName]
          else
            []
  | _ => []

/-- The consumption of an output at a located value source. -/
def outputUsage (located : LocatedValueSource) : Option WorkflowOutputUsage :=
  match located.source with
  | .output outputName =>
      some
        { outputName
          consumerStepId := located.stepId
          consumerStepIndex := located.stepIndex
          target := located.target }
  | _ => none

/-- Issues of one consumption. -/
def usageIssues
    (outputs : List WorkflowOutputDefinition)
    (usage : WorkflowOutputUsage) :
    List ExtractionAnalysisIssue :=
  let report code : ExtractionAnalysisIssue :=
    { code, severity := .blocking, stepId := usage.consumerStepId,
      stepIndex := usage.consumerStepIndex, outputName := usage.outputName }
  let navigateIssues :=
    if usage.target = .navigateUrl then [report .outputNavigateForbidden]
    else []
  let producer := outputs.find? fun output => output.name == usage.outputName
  navigateIssues ++
    match producer with
    | none => [report .unknownOutputReference]
    | some producer =>
        (if producer.producerStepIndex = usage.consumerStepIndex then
          [report .outputSelfReference]
        else if usage.consumerStepIndex < producer.producerStepIndex then
          [report .outputReferenceBeforeProducer]
        else
          []) ++
        (if isOutputTypeCompatible usage.target producer.valueType then []
        else [report .outputTypeIncompatible])

/-- Warnings about outputs that nothing consumes. -/
def unusedIssues
    (usages : List WorkflowOutputUsage)
    (output : WorkflowOutputDefinition) :
    List ExtractionAnalysisIssue :=
  if usages.any fun usage => usage.outputName == output.name then
    []
  else
    [{ code := .unusedOutput
       severity := .warning
       stepId := output.producerStepId
       stepIndex := output.producerStepIndex
       outputName := output.name }]

/-- The bounds `WorkflowExtractionAnalysisSchema` puts on step identifiers. -/
def WorkflowExtractionAnalysis.parses
    (analysis : WorkflowExtractionAnalysis) :
    Bool :=
  analysis.outputs.all (fun output =>
      isTrimmedWithin maxStepIdLength output.producerStepId.text) &&
    analysis.usages.all (fun usage =>
      isTrimmedWithin maxStepIdLength usage.consumerStepId.text) &&
    analysis.issues.all fun issue =>
      isTrimmedWithin maxStepIdLength issue.stepId.text

/--
`analyzeWorkflowExtraction` of a parsed definition; `none` when the analysis
fails its own schema and the call throws.
-/
def analyzeWorkflowExtraction
    (workflow : WorkflowDefinition) :
    Option WorkflowExtractionAnalysis :=
  let outputs := defineWorkflowOutputs workflow
  let usages := (findWorkflowValueSources workflow).filterMap outputUsage
  let issues :=
    workflow.steps.zipIdx.flatMap (fun (step, stepIndex) =>
        producerIssues outputs step stepIndex) ++
      usages.flatMap (usageIssues outputs) ++
      outputs.flatMap (unusedIssues usages)
  let analysis : WorkflowExtractionAnalysis :=
    { outputs
      usages
      issues
      hasBlockingIssues := issues.any fun issue =>
        issue.severity == .blocking }
  if analysis.parses then some analysis else none

/-- A workflow whose steps have no issue as producers. -/
theorem flatMap_producerIssues
    (workflow : WorkflowDefinition)
    (outputs : List WorkflowOutputDefinition)
    (noIssue :
      ∀ step stepIndex, workflow.steps[stepIndex]? = some step →
        producerIssues outputs step stepIndex = []) :
    (workflow.steps.zipIdx.flatMap fun (step, stepIndex) =>
        producerIssues outputs step stepIndex) =
      [] := by
  rw [List.flatMap_eq_nil_iff]
  rintro ⟨step, stepIndex⟩ isStep
  exact noIssue step stepIndex (List.mem_zipIdx_iff_getElem?.mp isStep)

theorem defineWorkflowOutputs_index
    (workflow : WorkflowDefinition)
    {output : WorkflowOutputDefinition}
    (defined : output ∈ defineWorkflowOutputs workflow) :
    ∃ step,
      workflow.steps[output.producerStepIndex]? = some step ∧
        outputOfStep step output.producerStepIndex = some output := by
  simp only [defineWorkflowOutputs, List.mem_filterMap, Prod.exists] at defined
  obtain ⟨step, index, located, isOutput⟩ := defined
  have atIndex : workflow.steps[index]? = some step :=
    List.mem_zipIdx_iff_getElem?.mp located
  have sameIndex : output.producerStepIndex = index := by
    unfold outputOfStep at isOutput
    split at isOutput
    · obtain ⟨valueType, _, rfl⟩ := Option.map_eq_some_iff.mp isOutput
      rfl
    · cases isOutput
  exact ⟨step, sameIndex ▸ atIndex, sameIndex ▸ isOutput⟩

end TaskTwin.Workflow
