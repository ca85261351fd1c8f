import Mathlib.Data.List.Sort
import TaskTwin.Engine.Contracts
import TaskTwin.Workflow.Inputs

/-!
# The runtime output store

The values that extract steps produced in the current run, each declared by
the workflow and produced at most once.
-/

namespace TaskTwin.Engine

open Schema Workflow

inductive RuntimeOutputValue where
  | string (value : String)
  | boolean (value : Bool)
  deriving DecidableEq, Repr

/-- `typeof value`. -/
def RuntimeOutputValue.type : RuntimeOutputValue → WorkflowOutputType
  | .string _ => .string
  | .boolean _ => .boolean

structure StoredOutput where
  name : Identifier
  type : WorkflowOutputType
  value : RuntimeOutputValue
  deriving DecidableEq, Repr

structure RuntimeOutputStore where
  definitions : List WorkflowOutputDefinition
  values : List StoredOutput
  deriving DecidableEq, Repr

def RuntimeOutputStore.create
    (definitions : List WorkflowOutputDefinition) :
    RuntimeOutputStore :=
  { definitions, values := [] }

def RuntimeOutputStore.has
    (store : RuntimeOutputStore)
    (outputName : Identifier) :
    Bool :=
  store.values.any fun stored => stored.name == outputName

/-- `set`: the code it throws, or the store with the value. -/
def RuntimeOutputStore.set
    (store : RuntimeOutputStore)
    (outputName : Identifier)
    (outputType : WorkflowOutputType)
    (value : RuntimeOutputValue) :
    Except ExecutionErrorCode RuntimeOutputStore :=
  match store.definitions.find? fun item => item.name == outputName with
  | none => .error .outputNotAvailable
  | some definition =>
      if store.has outputName then
        .error .duplicateOutputProduction
      else if definition.valueType ≠ outputType ∨
          value.type ≠ definition.valueType then
        .error .outputTypeMismatch
      else
        .ok
          { store with
            values :=
              store.values ++ [{ name := outputName, type := outputType, value }] }

/-- `get`: the code it throws, or the value that was stored. -/
def RuntimeOutputStore.get
    (store : RuntimeOutputStore)
    (outputName : Identifier)
    (acceptedTypes : List WorkflowVariableValueType) :
    Except ExecutionErrorCode RuntimeOutputValue :=
  match store.values.find? fun stored => stored.name == outputName with
  | none => .error .outputNotAvailable
  | some stored =>
      if acceptedTypes.contains stored.type.variableType then
        .ok stored.value
      else
        .error .outputTypeMismatch

def RuntimeOutputStore.summaries
    (store : RuntimeOutputStore) :
    List SafeWorkflowOutputSummary :=
  store.definitions.map fun definition =>
    { outputName := definition.name
      outputType := definition.valueType
      producerStepId := definition.producerStepId
      status := if store.has definition.name then .produced else .notProduced }

def RuntimeOutputStore.clear (store : RuntimeOutputStore) :
    RuntimeOutputStore :=
  { store with values := [] }

/-- Producing a value keeps the declarations. -/
theorem RuntimeOutputStore.set_definitions
    {store store' : RuntimeOutputStore}
    {outputName : Identifier}
    {outputType : WorkflowOutputType}
    {value : RuntimeOutputValue}
    (stored : store.set outputName outputType value = .ok store') :
    store'.definitions = store.definitions := by
  unfold RuntimeOutputStore.set at stored
  split at stored
  · cases stored
  · split at stored
    · cases stored
    · split at stored
      · cases stored
      · cases stored
        rfl

/-- The codes that the store refuses a value with. -/
theorem RuntimeOutputStore.set_refused
    {store : RuntimeOutputStore}
    {outputName : Identifier}
    {outputType : WorkflowOutputType}
    {value : RuntimeOutputValue}
    {code : ExecutionErrorCode}
    (refused : store.set outputName outputType value = .error code) :
    code = .outputNotAvailable ∨ code = .duplicateOutputProduction ∨
      code = .outputTypeMismatch := by
  unfold RuntimeOutputStore.set at refused
  split at refused
  · cases refused
    exact Or.inl rfl
  · split at refused
    · cases refused
      exact Or.inr (Or.inl rfl)
    · split at refused
      · cases refused
        exact Or.inr (Or.inr rfl)
      · cases refused

end TaskTwin.Engine

/-! ## Preflight -/

namespace TaskTwin.Engine

open Schema Workflow Recovery

def minExecutionTimeoutMs : Nat := 100
def maxExecutionTimeoutMs : Nat := 600000
def minStepTimeoutMs : Nat := 100
def maxStepTimeoutMs : Nat := 60000

structure WorkflowEngineExecutionOptions where
  totalTimeoutMs : BoundedNat minExecutionTimeoutMs maxExecutionTimeoutMs
  stepTimeoutMs : BoundedNat minStepTimeoutMs maxStepTimeoutMs
  recoveryMode : RecoveryMode
  deriving DecidableEq, Repr

/-- Which of the optional dependencies the engine was given. -/
structure EngineDependencies where
  progressSink : Bool
  approvalCoordinator : Bool
  recoveryCoordinator : Bool
  deriving DecidableEq, Repr

/-- What the checks outside this model answer for a request. -/
structure PreflightVerdicts where
  envelopeValid : Bool
  inputsValid : Bool
  inputsHaveBlockingIssues : Bool
  verificationsHaveIssues : Bool
  /-- The runtime values and secrets that the workflow needs. -/
  runtimeValues : Option ExecutionErrorCode
  allowedOrigins : Option ExecutionErrorCode
  /-- The per-step checks of the adapter and the value resolver. -/
  stepSupport : Option EngineError
  deriving DecidableEq, Repr

/-- A request as its schemas read it. -/
structure ExecutionInput where
  /-- The parsed workflow, if it parses: `findTypedWorkflow`. -/
  workflow : Option WorkflowDefinition
  options : Option WorkflowEngineExecutionOptions
  verdicts : PreflightVerdicts

/-- A request that passed the preflight, with what the preflight found out. -/
structure PreparedWorkflowExecution (dependencies : EngineDependencies) where
  workflow : WorkflowDefinition
  options : WorkflowEngineExecutionOptions
  extraction : WorkflowExtractionAnalysis
  extractionAnalyzed : analyzeWorkflowExtraction workflow = some extraction
  approvals : WorkflowApprovalAnalysis
  approvalsAnalyzed : analyzeWorkflowApprovals workflow = some approvals
  approvalsBound : approvals.hasBlockingIssues = false
  approvalsCoordinated :
    approvals.bindings ≠ [] → dependencies.approvalCoordinator = true
  recoveryCoordinated :
    options.recoveryMode ≠ .automaticSafeOnly →
      dependencies.recoveryCoordinator = true

inductive PreflightResult (dependencies : EngineDependencies) where
  | prepared (execution : PreparedWorkflowExecution dependencies)
  | failed (error : SafeExecutionError) (workflow : Option WorkflowDefinition)

variable (dependencies : EngineDependencies)

def preflightFailure
    (code : ExecutionErrorCode)
    (workflow : Option WorkflowDefinition) :
    Option (PreflightResult dependencies) :=
  some (.failed (safeError code) workflow)

/-- The checks after the approval analysis, which only give verdicts. -/
def preflightVerdicts
    (verdicts : PreflightVerdicts)
    (prepared : PreparedWorkflowExecution dependencies) :
    Option (PreflightResult dependencies) :=
  match verdicts.runtimeValues, verdicts.allowedOrigins,
      verdicts.stepSupport with
  | some code, _, _ =>
      preflightFailure dependencies code (some prepared.workflow)
  | none, some code, _ =>
      preflightFailure dependencies code (some prepared.workflow)
  | none, none, some error =>
      some (.failed (toSafeError error .invalidWorkflow)
        (some prepared.workflow))
  | none, none, none => some (.prepared prepared)

/-- The data-flow and approval analyses of a request. -/
def preflightAnalyses
    (verdicts : PreflightVerdicts)
    (workflow : WorkflowDefinition)
    (options : WorkflowEngineExecutionOptions)
    (recoveryCoordinated :
      options.recoveryMode ≠ .automaticSafeOnly →
        dependencies.recoveryCoordinator = true) :
    Option (PreflightResult dependencies) :=
  match extractionAnalyzed : analyzeWorkflowExtraction workflow with
  | none => none
  | some extraction =>
      if extraction.hasBlockingIssues then
        preflightFailure dependencies .invalidWorkflow workflow
      else
        match approvalsAnalyzed : analyzeWorkflowApprovals workflow with
        | none => none
        | some approvals =>
            if approvalsBound : approvals.hasBlockingIssues = false then
              if approvalsCoordinated :
                  approvals.bindings ≠ [] →
                    dependencies.approvalCoordinator = true then
                preflightVerdicts dependencies verdicts
                  { workflow, options, extraction, extractionAnalyzed,
                    approvals, approvalsAnalyzed, approvalsBound,
                    approvalsCoordinated, recoveryCoordinated }
              else
                preflightFailure dependencies .approvalCoordinatorUnavailable
                  workflow
            else
              preflightFailure dependencies .approvalBindingInvalid workflow

/-- `preflightWorkflowExecution`; `none` when one of its schemas throws. -/
def preflightWorkflowExecution
    (input : ExecutionInput) :
    Option (PreflightResult dependencies) :=
  if ¬ input.verdicts.envelopeValid then
    preflightFailure dependencies .invalidExecutionRequest input.workflow
  else
    match input.workflow, input.options with
    | none, _ => preflightFailure dependencies .invalidWorkflow none
    | some workflow, none =>
        preflightFailure dependencies .invalidExecutionTimeout workflow
    | some workflow, some options =>
        if recoveryCoordinated :
            options.recoveryMode ≠ .automaticSafeOnly →
              dependencies.recoveryCoordinator = true then
          if ¬ input.verdicts.inputsValid then
            preflightFailure dependencies .invalidRuntimeInputs workflow
          else if input.verdicts.inputsHaveBlockingIssues then
            preflightFailure dependencies .invalidWorkflow workflow
          else if input.verdicts.verificationsHaveIssues then
            preflightFailure dependencies .verificationRuleInvalid workflow
          else
            preflightAnalyses dependencies input.verdicts workflow options
              recoveryCoordinated
        else
          preflightFailure dependencies .recoveryCoordinatorUnavailable
            workflow

/-- The workflow of a preflight result. -/
def PreflightResult.workflow
    {dependencies : EngineDependencies} :
    PreflightResult dependencies → Option WorkflowDefinition
  | .prepared execution => some execution.workflow
  | .failed _ workflow => workflow

variable {dependencies}

/-- A preflight answers about a workflow, with an error that its schema accepts. -/
def Answers
    (workflow : Option WorkflowDefinition)
    (answer : Option (PreflightResult dependencies)) :
    Prop :=
  ∀ result,
    answer = some result →
      result.workflow = workflow ∧
        ∀ error discarded,
          result = .failed error discarded → error.parses = true

theorem preflightFailure_answers
    (code : ExecutionErrorCode)
    (workflow : Option WorkflowDefinition) :
    Answers workflow (preflightFailure dependencies code workflow) := by
  intro result isResult
  cases isResult
  refine ⟨rfl, ?_⟩
  intro error discarded failed
  cases failed
  exact safeError_parses code

theorem preflightVerdicts_answers
    (verdicts : PreflightVerdicts)
    (prepared : PreparedWorkflowExecution dependencies) :
    Answers (some prepared.workflow)
      (preflightVerdicts dependencies verdicts prepared) := by
  unfold preflightVerdicts
  split
  · exact preflightFailure_answers _ _
  · exact preflightFailure_answers _ _
  · intro result isResult
    cases isResult
    refine ⟨rfl, ?_⟩
    intro error discarded failed
    cases failed
    exact toSafeError_parses _ .invalidWorkflow
  · intro result isResult
    cases isResult
    exact ⟨rfl, by simp⟩

theorem preflightAnalyses_answers
    (verdicts : PreflightVerdicts)
    (workflow : WorkflowDefinition)
    (options : WorkflowEngineExecutionOptions)
    (recoveryCoordinated :
      options.recoveryMode ≠ .automaticSafeOnly →
        dependencies.recoveryCoordinator = true) :
    Answers (some workflow)
      (preflightAnalyses dependencies verdicts workflow options
        recoveryCoordinated) := by
  unfold preflightAnalyses
  split
  · simp [Answers]
  · split
    · exact preflightFailure_answers _ _
    · split
      · simp [Answers]
      · split
        · split
          · exact preflightVerdicts_answers verdicts _
          · exact preflightFailure_answers _ _
        · exact preflightFailure_answers _ _

theorem preflightWorkflowExecution_answers (input : ExecutionInput) :
    Answers input.workflow
      (preflightWorkflowExecution dependencies input) := by
  unfold preflightWorkflowExecution
  split
  · exact preflightFailure_answers _ _
  · split
    case h_1 isNone =>
      rw [isNone]
      exact preflightFailure_answers _ _
    case h_2 workflow isSome _ =>
      rw [isSome]
      exact preflightFailure_answers _ _
    case h_3 workflow options isSome _ =>
      rw [isSome]
      split
      · split
        · exact preflightFailure_answers _ _
        · split
          · exact preflightFailure_answers _ _
          · split
            · exact preflightFailure_answers _ _
            · exact preflightAnalyses_answers _ _ _ _
      · exact preflightFailure_answers _ _

/-- An approval step of a prepared execution has a binding and a coordinator. -/
theorem PreparedWorkflowExecution.approval_binding
    (prepared : PreparedWorkflowExecution dependencies)
    {index : Nat}
    {step : WorkflowStep}
    (atIndex : prepared.workflow.steps[index]? = some step)
    (isApproval : step.type = .approval) :
    dependencies.approvalCoordinator = true ∧
      ∃ binding gatedStep,
        requireApprovalBinding prepared.workflow step.id = some binding ∧
          prepared.workflow.steps[index + 1]? = some gatedStep ∧
          binding.approvalStepId = step.id ∧
          binding.gatedStepId = gatedStep.id := by
  have bound :=
    requireApprovalBinding_of_analysis prepared.approvalsAnalyzed
      prepared.approvalsBound atIndex isApproval
  refine ⟨prepared.approvalsCoordinated ?_, bound⟩
  obtain ⟨binding, _, required, _⟩ := bound
  simp only [requireApprovalBinding, prepared.approvalsAnalyzed,
    Option.bind_some] at required
  exact List.ne_nil_of_mem (List.mem_of_find?_eq_some required)

/-- Every disposition that waits for a repair has a coordinator. -/
theorem PreparedWorkflowExecution.recovery_coordinator
    (prepared : PreparedWorkflowExecution dependencies)
    {input : RetryPolicyInput}
    (sameMode : input.recoveryMode = prepared.options.recoveryMode)
    (waits :
      (decideRetry input).disposition = .manualRepair ∨
        (decideRetry input).disposition = .locatorProposal) :
    dependencies.recoveryCoordinator = true := by
  apply prepared.recoveryCoordinated
  rw [← sameMode]
  have reason := decideRetry_reason input
  rcases waits with isManual | isProposal
  · rw [isManual] at reason
    cases reason with
    | manualRepair _ _ _ manual _ => simp [manual]
  · rw [isProposal] at reason
    cases reason with
    | locatorProposal _ _ _ proposals _ => simp [proposals]

end TaskTwin.Engine

/-!
## Runtime inputs and value resolution
-/

namespace TaskTwin.Engine

open Schema Workflow

/-- A parsed `RuntimeInputValueSchema` value. -/
inductive RuntimeInputValue where
  | string (value : String)
  | number (value : Rat)
  | boolean (value : Bool)
  | date (value : String)
  | file (sizeBytes : Nat) (mediaType : Option String)
  deriving DecidableEq, Repr

def RuntimeInputValue.kind : RuntimeInputValue → WorkflowVariableValueType
  | .string _ => .string
  | .number _ => .number
  | .boolean _ => .boolean
  | .date _ => .date
  | .file .. => .file

abbrev RuntimeValueRecord := List (Identifier × RuntimeInputValue)

/-- A parsed `WorkflowRunInputSubmissionSchema` value. -/
structure WorkflowRunInputSubmission where
  values : RuntimeValueRecord
  namesUnique : (values.map Prod.fst).Nodup

/-- What a property of the record is read as. -/
inductive RecordProperty where
  | missing
  /-- A property of every object, which has no `kind`. -/
  | inherited
  | own (value : RuntimeInputValue)
  deriving DecidableEq, Repr

/-- The properties of `Object.prototype`. -/
def objectPrototypeProperties : List String :=
  ["constructor", "__defineGetter__", "__defineSetter__", "hasOwnProperty",
    "__lookupGetter__", "__lookupSetter__", "isPrototypeOf",
    "propertyIsEnumerable", "toString", "valueOf", "__proto__",
    "toLocaleString"]

/-- `values[name]`. -/
def readProperty
    (values : RuntimeValueRecord)
    (name : Identifier) :
    RecordProperty :=
  match values.lookup name with
  | some value => .own value
  | none =>
      if objectPrototypeProperties.contains name.text then .inherited
      else .missing

inductive RunInputIssueCode where
  | missingRequiredInput
  | runtimeInputTypeMismatch
  | unknownRuntimeInput
  deriving DecidableEq, Repr

structure RunInputIssue where
  code : RunInputIssueCode
  variableName : Identifier
  deriving DecidableEq, Repr

structure SafeRunInputSummary where
  declaredCount : Nat
  requiredCount : Nat
  providedCount : Nat
  missingRequiredCount : Nat
  fileCount : Nat
  issueCount : Nat
  valid : Bool
  deriving DecidableEq, Repr

structure RunInputValidationResult where
  issues : List RunInputIssue
  summary : SafeRunInputSummary
  deriving DecidableEq, Repr

/-- The issue of one declared variable. -/
def declaredInputIssue
    (values : RuntimeValueRecord)
    (declaration : WorkflowVariable) :
    Option RunInputIssue :=
  let mismatch : RunInputIssue :=
    { code := .runtimeInputTypeMismatch, variableName := declaration.name }
  match readProperty values declaration.name with
  | .missing =>
      if declaration.required then
        some
          { code := .missingRequiredInput, variableName := declaration.name }
      else
        none
  | .inherited => some mismatch
  | .own value =>
      if value.kind = declaration.valueType then none else some mismatch

/-- The issue of one submitted name. -/
def unknownInputIssue
    (declared : List WorkflowVariable)
    (name : Identifier) :
    Option RunInputIssue :=
  if declared.any fun declaration => declaration.name = name then
    none
  else
    some { code := .unknownRuntimeInput, variableName := name }

/-- `validateWorkflowRunInputs`, of parsed values. -/
def validateWorkflowRunInputs
    (workflow : WorkflowDefinition)
    (submission : WorkflowRunInputSubmission) :
    RunInputValidationResult :=
  let declared := workflow.workflowVariables
  let names :=
    (submission.values.map Prod.fst).insertionSort fun first second =>
      first.text ≤ second.text
  let issues :=
    declared.filterMap (declaredInputIssue submission.values) ++
      names.filterMap (unknownInputIssue declared)
  { issues
    summary :=
      { declaredCount := declared.length
        requiredCount := declared.countP fun declaration => declaration.required
        providedCount := submission.values.length
        missingRequiredCount :=
          issues.countP fun issue => issue.code == .missingRequiredInput
        fileCount :=
          submission.values.countP fun entry => entry.2.kind == .file
        issueCount := issues.length
        valid := issues.isEmpty } }

/-- An exception with a code. -/
def thrown (code : ExecutionErrorCode) : EngineError :=
  .safe code none none

structure WorkflowRuntimeValueResolver where
  hasVariable : Identifier → WorkflowVariableValueType → Bool
  hasSecret : Identifier → Bool
  resolve : ValueSource → ValueSourceTarget → Except EngineError LiteralValue

/-- The value of an input, unless it is a file. -/
def RuntimeInputValue.literal : RuntimeInputValue → Option LiteralValue
  | .string value => some (.string value)
  | .number value => some (.number value)
  | .boolean value => some (.boolean value)
  | .date value => some (.string value)
  | .file .. => none

def resolveValueSource
    (source : ValueSource)
    (target : ValueSourceTarget)
    (runtimeValues : RuntimeValueRecord) :
    Except EngineError LiteralValue :=
  let compatibility := getValueSourceCompatibility target
  match source with
  | .secret _ => .error (thrown .secretResolutionUnavailable)
  | .literal value =>
      if compatibility.literalTypes.contains value.type then .ok value
      else .error (thrown .invalidWorkflow)
  | .output _ => .error (thrown .outputNotAvailable)
  | .variable variableName =>
      match readProperty runtimeValues variableName with
      | .own value =>
          if compatibility.variableTypes.contains value.kind then
            match value.literal with
            | some literal => .ok literal
            | none => .error (thrown .invalidRuntimeInputs)
          else
            .error (thrown .invalidRuntimeInputs)
      | _ => .error (thrown .invalidRuntimeInputs)

def createRuntimeValueResolver
    (runtimeValues : RuntimeValueRecord) :
    WorkflowRuntimeValueResolver :=
  { hasVariable := fun name valueType =>
      match readProperty runtimeValues name with
      | .own value => value.kind = valueType
      | _ => false
    hasSecret := fun _ => false
    resolve := fun source target =>
      resolveValueSource source target runtimeValues }

def RuntimeOutputValue.literal : RuntimeOutputValue → LiteralValue
  | .string value => .string value
  | .boolean value => .boolean value

def withRuntimeOutputs
    (resolver : WorkflowRuntimeValueResolver)
    (outputs : RuntimeOutputStore) :
    WorkflowRuntimeValueResolver :=
  { resolver with
    resolve := fun source target =>
      match source with
      | .output outputName =>
          match
              outputs.get outputName
                (getValueSourceCompatibility target).variableTypes with
          | .ok value => .ok value.literal
          | .error code => .error (thrown code)
      | _ => resolver.resolve source target }

def resolveTextWithResolver
    (source : ValueSource)
    (target : ValueSourceTarget)
    (resolver : WorkflowRuntimeValueResolver) :
    Except EngineError String :=
  match resolver.resolve source target with
  | .error error => .error error
  | .ok (.string value) => .ok value
  | .ok _ => .error (thrown .invalidRuntimeInputs)

/-- `resolveSelectWithResolver`; the text of a number is left to be printed. -/
def resolveSelectWithResolver
    (source : ValueSource)
    (resolver : WorkflowRuntimeValueResolver) :
    Except EngineError LiteralValue :=
  match resolver.resolve source .selectValue with
  | .error error => .error error
  | .ok (.boolean _) => .error (thrown .invalidRuntimeInputs)
  | .ok value => .ok value

/-- What an executed step reads from its value source. -/
def resolveForStep
    (source : ValueSource)
    (target : ValueSourceTarget)
    (resolver : WorkflowRuntimeValueResolver) :
    Except EngineError LiteralValue :=
  match target with
  | .navigateUrl | .fillValue =>
      (resolveTextWithResolver source target resolver).map LiteralValue.string
  | .selectValue => resolveSelectWithResolver source resolver
  | _ => resolver.resolve source target

/-- What the adapter and the rules for addresses and texts answer. -/
structure StepChecks where
  /-- `adapter.supportedStepTypes`. -/
  supportedStepTypes : List WorkflowStepType
  /-- `adapter.validateStep`. -/
  validateStep : WorkflowStep → Option EngineError
  /-- `validateNavigationUrl`, with the allowed origins. -/
  validateNavigationUrl : String → Option EngineError
  /-- `normalizeVerificationUrl(expected).ok`. -/
  isVerificationUrl : String → Bool
  /-- `normalizeVerificationText(expected) !== null`. -/
  isVerificationText : String → Bool

/-- A resolved expectation that is a text of the required form. -/
def checkExpectation
    (isValid : String → Bool)
    (expected : Except EngineError LiteralValue) :
    Option EngineError :=
  match expected with
  | .error error => some error
  | .ok (.string value) =>
      if isValid value then none
      else some (thrown .verificationExpectationInvalid)
  | .ok _ => some (thrown .verificationExpectationInvalid)

def errorOf {α : Type} : Except EngineError α → Option EngineError
  | .error error => some error
  | .ok _ => none

/-- The resolution of the value source of a step, before it is executed. -/
def checkStepValue
    (checks : StepChecks)
    (resolver : WorkflowRuntimeValueResolver)
    (step : WorkflowStep) :
    Option EngineError :=
  match step.action with
  | .navigate (.output _) => some (thrown .invalidWorkflow)
  | .navigate url =>
      match resolveTextWithResolver url .navigateUrl resolver with
      | .error error => some error
      | .ok value => checks.validateNavigationUrl value
  | .fill _ (.output _) => none
  | .fill _ value => errorOf (resolveTextWithResolver value .fillValue resolver)
  | .select _ (.output _) => none
  | .select _ value => errorOf (resolveSelectWithResolver value resolver)
  | .verify (.url _ _ (.output _)) _ => none
  | .verify (.url _ _ expected) _ =>
      checkExpectation checks.isVerificationUrl
        (resolver.resolve expected .verifyUrlExpected)
  | .verify (.text _ _ _ (.output _)) _ => none
  | .verify (.text _ _ _ expected) _ =>
      checkExpectation checks.isVerificationText
        (resolver.resolve expected .verifyTextExpected)
  | .verify (.value _ _ (.output _)) _ => none
  | .verify (.value _ _ expected) _ =>
      errorOf (resolver.resolve expected .verifyValueExpected)
  | _ => none

def checkStep
    (checks : StepChecks)
    (resolver : WorkflowRuntimeValueResolver)
    (step : WorkflowStep) :
    Option EngineError :=
  if step.type = .approval then
    none
  else if !checks.supportedStepTypes.contains step.type then
    some (thrown .unsupportedStepType)
  else
    (checks.validateStep step).or (checkStepValue checks resolver step)

/-- The values and the secrets that a workflow needs are there. -/
def checkRuntimeValues
    (workflow : WorkflowDefinition)
    (submission : WorkflowRunInputSubmission)
    (externalResolver : Option WorkflowRuntimeValueResolver) :
    Option ExecutionErrorCode :=
  let analysis := analyzeWorkflowInputs workflow
  match externalResolver with
  | none =>
      if !analysis.secretRequirements.isEmpty then
        some .secretResolutionUnavailable
      else if !(validateWorkflowRunInputs workflow submission).summary.valid then
        some .invalidRuntimeInputs
      else
        none
  | some resolver =>
      if analysis.variableAnalyses.any fun item =>
          (item.variableIs.required || 0 < item.usageCount) &&
            (item.variableIs.valueType == .file ||
              !resolver.hasVariable item.variableIs.name
                item.variableIs.valueType) then
        some .invalidRuntimeInputs
      else if analysis.secretRequirements.any fun requirement =>
          !resolver.hasSecret requirement.secretName then
        some .secretResolutionUnavailable
      else
        none

/-- A request whose workflow parses, before its analyses. -/
structure RuntimeRequest where
  workflow : WorkflowDefinition
  options : Option WorkflowEngineExecutionOptions
  submission : Option WorkflowRunInputSubmission
  externalResolver : Option WorkflowRuntimeValueResolver
  envelopeValid : Bool
  verificationsHaveIssues : Bool
  allowedOrigins : Option ExecutionErrorCode
  checks : StepChecks

/-- `valueResolver`. -/
def RuntimeRequest.valueResolver
    (request : RuntimeRequest) :
    WorkflowRuntimeValueResolver :=
  request.externalResolver.getD
    (createRuntimeValueResolver
      ((request.submission.map WorkflowRunInputSubmission.values).getD []))

/-- What the preflight is given about a request. -/
def RuntimeRequest.input (request : RuntimeRequest) : ExecutionInput :=
  { workflow := some request.workflow
    options := request.options
    verdicts :=
      { envelopeValid := request.envelopeValid
        inputsValid := request.submission.isSome
        inputsHaveBlockingIssues :=
          (analyzeWorkflowInputs request.workflow).hasBlockingIssues
        verificationsHaveIssues := request.verificationsHaveIssues
        runtimeValues :=
          request.submission.bind fun submission =>
            checkRuntimeValues request.workflow submission
              request.externalResolver
        allowedOrigins := request.allowedOrigins
        stepSupport :=
          request.workflow.steps.findSome?
            (checkStep request.checks request.valueResolver) } }

end TaskTwin.Engine
