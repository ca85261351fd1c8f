import TaskTwin.Collection.Canonical
import TaskTwin.Workflow.Approval
import TaskTwin.Workflow.Inputs

/-!
# Workflow definitions in the editor

What the editor holds has the shape of a workflow definition, but its names
have not passed the schema.  The schema trims a name before it checks it, so a
name that passes need not be the name that is read.
-/

namespace TaskTwin.Editor

open Schema Workflow Collection

inductive ValueSourceInput where
  | literal (value : LiteralValue)
  | variable (variableName : String)
  | secret (secretName : String)
  | output (outputName : String)
  deriving DecidableEq, Repr

structure WorkflowVariableInput where
  name : String
  label : Option String
  valueType : WorkflowVariableValueType
  required : Bool
  description : Option String
  deriving DecidableEq, Repr

inductive WorkflowAssertionInput where
  | visible (locator : ElementLocator)
  | hidden (locator : ElementLocator)
  | text
      (locator : ElementLocator)
      (matchMode : Option TextMatchMode)
      (operator : Option AssertionOperator)
      (expected : ValueSourceInput)
  | value
      (locator : ElementLocator)
      (operator : Option AssertionOperator)
      (expected : ValueSourceInput)
  | url
      (matchMode : Option UrlMatchMode)
      (operator : Option AssertionOperator)
      (expected : ValueSourceInput)
  | checked (locator : ElementLocator) (expected : Bool)
  deriving DecidableEq, Repr

/-- The texts that no operation of the editor writes have passed the schema. -/
inductive WorkflowStepActionInput where
  | navigate (url : ValueSourceInput)
  | click (locator : ElementLocator) (actionIntent : Option ClickActionIntent)
  | fill (locator : ElementLocator) (value : ValueSourceInput)
  | select (locator : ElementLocator) (value : ValueSourceInput)
  | setChecked (locator : ElementLocator) (checked : Bool)
  | wait (durationMs : BoundedNat 1 maxWaitDurationMs)
  | extract
      (locator : Option ElementLocator)
      (source : ExtractSource)
      (outputName : String)
      (outputLabel : Option NonEmptyString)
      (timeoutMs :
        Option (BoundedNat minVerificationTimeoutMs maxVerificationTimeoutMs))
  | verify
      (assertion : WorkflowAssertionInput)
      (timeoutMs :
        Option (BoundedNat minVerificationTimeoutMs maxVerificationTimeoutMs))
  | approval
      (message : NonEmptyString)
      (riskLevel : ApprovalRiskLevel)
      (timeoutMs : BoundedNat minApprovalTimeoutMs maxApprovalTimeoutMs)
  deriving DecidableEq, Repr

structure WorkflowStepInput where
  id : NonEmptyString
  name : NonEmptyString
  action : WorkflowStepActionInput
  deriving DecidableEq, Repr

structure WorkflowDefinitionInput where
  workflowId : NonEmptyString
  version : Nat
  name : NonEmptyString
  description : Option NonEmptyString
  status : WorkflowLifecycleStatus
  workflowVariables : List WorkflowVariableInput
  steps : List WorkflowStepInput
  deriving DecidableEq, Repr

/-- `MAX_WORKFLOW_VARIABLE_LABEL_LENGTH`. -/
def maxWorkflowVariableLabelLength : Nat := 120

/-- `MAX_WORKFLOW_VARIABLE_DESCRIPTION_LENGTH`. -/
def maxWorkflowVariableDescriptionLength : Nat := 500

/-- `IdentifierSchema`. -/
def parseIdentifier (text : String) : Option Identifier :=
  if valid : utf16Length (trim text) ≤ 128 ∧ isIdentifierText (trim text) then
    some { text := trim text, short := valid.1, pattern := valid.2 }
  else none

/-- `NonEmptyStringSchema.max(maximum)`. -/
def parseNonEmptyString
    (maximum : Nat)
    (text : String) :
    Option NonEmptyString :=
  if valid :
      trim (trim text) = trim text ∧
        isNonEmptyTrimmed (trim text) = true ∧
        utf16Length (trim text) ≤ maximum then
    some { text := trim text, trimmed := valid.1, nonEmpty := valid.2.1 }
  else none

/-- A property that may be missing. -/
def parseOptional
    {α β : Type}
    (parse : α → Option β) :
    Option α → Option (Option β)
  | none => some none
  | some value => (parse value).map some

/-- `ValueSourceSchema`. -/
def ValueSourceInput.parse : ValueSourceInput → Option ValueSource
  | .literal value => some (.literal value)
  | .variable variableName => (parseIdentifier variableName).map .variable
  | .secret secretName => (parseIdentifier secretName).map .secret
  | .output outputName => (parseIdentifier outputName).map .output

/-- `WorkflowVariableSchema`. -/
def WorkflowVariableInput.parse
    (input : WorkflowVariableInput) :
    Option WorkflowVariable := do
  let name ← parseIdentifier input.name
  let label ←
    parseOptional (parseNonEmptyString maxWorkflowVariableLabelLength)
      input.label
  let description ←
    parseOptional (parseNonEmptyString maxWorkflowVariableDescriptionLength)
      input.description
  some
    { name
      label
      valueType := input.valueType
      required := input.required
      description }

def WorkflowAssertionInput.parse :
    WorkflowAssertionInput → Option WorkflowAssertion
  | .visible locator => some (.visible locator)
  | .hidden locator => some (.hidden locator)
  | .text locator matchMode operator expected =>
      expected.parse.map (.text locator matchMode operator)
  | .value locator operator expected =>
      expected.parse.map (.value locator operator)
  | .url matchMode operator expected =>
      expected.parse.map (.url matchMode operator)
  | .checked locator expected => some (.checked locator expected)

def WorkflowStepActionInput.parse :
    WorkflowStepActionInput → Option WorkflowStepAction
  | .navigate url => url.parse.map .navigate
  | .click locator actionIntent => some (.click locator actionIntent)
  | .fill locator value => value.parse.map (.fill locator)
  | .select locator value => value.parse.map (.select locator)
  | .setChecked locator checked => some (.setChecked locator checked)
  | .wait durationMs => some (.wait durationMs)
  | .extract locator source outputName outputLabel timeoutMs =>
      (parseIdentifier outputName).map fun outputName =>
        .extract locator source outputName outputLabel timeoutMs
  | .verify assertion timeoutMs =>
      assertion.parse.map fun assertion => .verify assertion timeoutMs
  | .approval message riskLevel timeoutMs =>
      some (.approval message riskLevel timeoutMs)

/-- `WorkflowStepSchema`. -/
def WorkflowStepInput.parse (input : WorkflowStepInput) : Option WorkflowStep :=
  input.action.parse.bind fun action =>
    if refined : action.refined = true then
      some { id := input.id, name := input.name, action, refined }
    else none

/-- `WorkflowDefinitionSchema.safeParse`. -/
def WorkflowDefinitionInput.parse
    (input : WorkflowDefinitionInput) :
    Option WorkflowDefinition := do
  let declared ← input.workflowVariables.mapM WorkflowVariableInput.parse
  let steps ← input.steps.mapM WorkflowStepInput.parse
  if valid :
      0 < input.version ∧ steps ≠ [] ∧ (steps.map WorkflowStep.id).Nodup ∧
        (declared.map WorkflowVariable.name).Nodup then
    some
      { workflowId := input.workflowId
        version := input.version
        versionPositive := valid.1
        name := input.name
        description := input.description
        status := input.status
        workflowVariables := declared
        steps
        stepsNonEmpty := valid.2.1
        stepIdsUnique := valid.2.2.1
        variableNamesUnique := valid.2.2.2 }
  else none

end TaskTwin.Editor

namespace TaskTwin.Workflow

open Editor

/-- A parsed value is a value of the editor. -/
def ValueSource.input : ValueSource → ValueSourceInput
  | .literal value => .literal value
  | .variable variableName => .variable variableName.text
  | .secret secretName => .secret secretName.text
  | .output outputName => .output outputName.text

def WorkflowVariable.input (parsed : WorkflowVariable) : WorkflowVariableInput :=
  { name := parsed.name.text
    label := parsed.label.map (·.text)
    valueType := parsed.valueType
    required := parsed.required
    description := parsed.description.map (·.text) }

def WorkflowAssertion.input : WorkflowAssertion → WorkflowAssertionInput
  | .visible locator => .visible locator
  | .hidden locator => .hidden locator
  | .text locator matchMode operator expected =>
      .text locator matchMode operator expected.input
  | .value locator operator expected => .value locator operator expected.input
  | .url matchMode operator expected => .url matchMode operator expected.input
  | .checked locator expected => .checked locator expected

def WorkflowStepAction.input : WorkflowStepAction → WorkflowStepActionInput
  | .navigate url => .navigate url.input
  | .click locator actionIntent => .click locator actionIntent
  | .fill locator value => .fill locator value.input
  | .select locator value => .select locator value.input
  | .setChecked locator checked => .setChecked locator checked
  | .wait durationMs => .wait durationMs
  | .extract locator source outputName outputLabel timeoutMs =>
      .extract locator source outputName.text outputLabel timeoutMs
  | .verify assertion timeoutMs => .verify assertion.input timeoutMs
  | .approval message riskLevel timeoutMs =>
      .approval message riskLevel timeoutMs

def WorkflowStep.input (step : WorkflowStep) : WorkflowStepInput :=
  { id := step.id
    name := step.name
    action := step.action.input }

def WorkflowDefinition.input (workflow : WorkflowDefinition) :
    WorkflowDefinitionInput :=
  { workflowId := workflow.workflowId
    version := workflow.version
    name := workflow.name
    description := workflow.description
    status := workflow.status
    workflowVariables := workflow.workflowVariables.map WorkflowVariable.input
    steps := workflow.steps.map WorkflowStep.input }

end TaskTwin.Workflow

namespace TaskTwin.Editor

open Schema Workflow Collection

theorem Identifier.eq_of_text
    {first second : Identifier}
    (same : first.text = second.text) :
    first = second := by
  cases first
  cases second
  cases same
  rfl

theorem NonEmptyString.eq_of_text
    {first second : NonEmptyString}
    (same : first.text = second.text) :
    first = second := by
  cases first
  cases second
  cases same
  rfl

theorem parseIdentifier_eq_some_iff
    {text : String}
    {name : Identifier} :
    parseIdentifier text = some name ↔ trim text = name.text := by
  unfold parseIdentifier
  constructor
  · intro parsed
    split at parsed
    case isTrue valid =>
      rw [← Option.some.inj parsed]
    case isFalse invalid => cases parsed
  · intro same
    rw [dif_pos ⟨same ▸ name.short, same ▸ name.pattern⟩]
    exact congrArg some (Identifier.eq_of_text same)

/-- A name that has been parsed parses to itself. -/
theorem parseIdentifier_text (name : Identifier) :
    parseIdentifier name.text = some name :=
  parseIdentifier_eq_some_iff.mpr name.trim_text

theorem ValueSource.parse_input (source : ValueSource) :
    source.input.parse = some source := by
  cases source with
  | literal value => rfl
  | «variable» variableName =>
      simp [ValueSource.input, ValueSourceInput.parse, parseIdentifier_text]
  | secret secretName =>
      simp [ValueSource.input, ValueSourceInput.parse, parseIdentifier_text]
  | output outputName =>
      simp [ValueSource.input, ValueSourceInput.parse, parseIdentifier_text]

theorem WorkflowAssertion.parse_input (assertion : WorkflowAssertion) :
    assertion.input.parse = some assertion := by
  cases assertion <;>
    simp [WorkflowAssertion.input, WorkflowAssertionInput.parse,
      ValueSource.parse_input]

theorem WorkflowStepAction.parse_input (action : WorkflowStepAction) :
    action.input.parse = some action := by
  cases action <;>
    simp [WorkflowStepAction.input, WorkflowStepActionInput.parse,
      ValueSource.parse_input, WorkflowAssertion.parse_input,
      parseIdentifier_text]

/-- A step that has been parsed parses to itself. -/
theorem WorkflowStep.parse_input (step : WorkflowStep) :
    step.input.parse = some step := by
  simp [WorkflowStep.input, WorkflowStepInput.parse,
    WorkflowStepAction.parse_input, step.refined]

/-- The variables parse, which bounds their labels and descriptions. -/
def VariablesParse (declared : List WorkflowVariable) : Prop :=
  ∀ declaration ∈ declared, declaration.input.parse = some declaration

/-- A workflow that has been parsed parses to itself. -/
theorem WorkflowDefinition.parse_input
    {workflow : WorkflowDefinition}
    (parse : VariablesParse workflow.workflowVariables) :
    workflow.input.parse = some workflow := by
  have isVariables :
      (workflow.workflowVariables.map WorkflowVariable.input).mapM
          WorkflowVariableInput.parse =
        some workflow.workflowVariables := by
    rw [List.mapM_map]
    exact mapM_of_fixed parse
  have isSteps :
      (workflow.steps.map WorkflowStep.input).mapM WorkflowStepInput.parse =
        some workflow.steps := by
    rw [List.mapM_map]
    exact mapM_of_fixed fun step _ => WorkflowStep.parse_input step
  simp [WorkflowDefinition.input, WorkflowDefinitionInput.parse, isVariables,
    isSteps, workflow.versionPositive, workflow.stepsNonEmpty,
    workflow.stepIdsUnique, workflow.variableNamesUnique]

theorem parseNonEmptyString_text
    {maximum : Nat}
    {text : String}
    {parsed : NonEmptyString}
    (isParsed : parseNonEmptyString maximum text = some parsed) :
    parseNonEmptyString maximum parsed.text = some parsed := by
  unfold parseNonEmptyString at isParsed
  split at isParsed
  case isFalse invalid => cases isParsed
  case isTrue valid =>
    have short : utf16Length parsed.text ≤ maximum := by
      rw [← Option.some.inj isParsed]
      exact valid.2.2
    unfold parseNonEmptyString
    have again :
        trim (trim parsed.text) = trim parsed.text ∧
          isNonEmptyTrimmed (trim parsed.text) = true ∧
          utf16Length (trim parsed.text) ≤ maximum := by
      rw [parsed.trimmed, parsed.trimmed]
      exact ⟨rfl, parsed.nonEmpty, short⟩
    rw [dif_pos again]
    exact congrArg some (NonEmptyString.eq_of_text parsed.trimmed)

theorem parseOptional_text
    {maximum : Nat}
    {text : Option String}
    {parsed : Option NonEmptyString}
    (isParsed :
      parseOptional (parseNonEmptyString maximum) text = some parsed) :
    parseOptional (parseNonEmptyString maximum)
        (parsed.map NonEmptyString.text) =
      some parsed := by
  cases text with
  | none =>
      cases isParsed
      rfl
  | some text =>
      rw [parseOptional, Option.map_eq_some_iff] at isParsed
      obtain ⟨value, isValue, rfl⟩ := isParsed
      simp [parseOptional, parseNonEmptyString_text isValue]

/-- What the schema has read of a variable parses to itself. -/
theorem WorkflowVariableInput.parse_parse
    {input : WorkflowVariableInput}
    {parsed : WorkflowVariable}
    (isParsed : input.parse = some parsed) :
    parsed.input.parse = some parsed := by
  simp only [WorkflowVariableInput.parse, Option.bind_eq_bind,
    Option.bind_eq_some_iff] at isParsed
  obtain ⟨name, -, label, isLabel, description, isDescription, isParsed⟩ :=
    isParsed
  obtain rfl := Option.some.inj isParsed
  have nameAgain := parseIdentifier_text name
  have labelAgain := parseOptional_text isLabel
  have descriptionAgain := parseOptional_text isDescription
  simp only [WorkflowVariableInput.parse, WorkflowVariable.input, nameAgain,
    labelAgain, descriptionAgain, Option.bind_eq_bind, Option.bind_some]

end TaskTwin.Editor

/-!
## Operations of the editor on variables and outputs
-/

namespace TaskTwin.Editor

open Schema Workflow

def WorkflowStepActionInput.type : WorkflowStepActionInput → WorkflowStepType
  | .navigate .. => .navigate
  | .click .. => .click
  | .fill .. => .fill
  | .select .. => .select
  | .setChecked .. => .setChecked
  | .wait .. => .wait
  | .extract .. => .extract
  | .verify .. => .verify
  | .approval .. => .approval

structure VariableUsage where
  stepId : NonEmptyString
  stepIndex : Nat
  stepType : WorkflowStepType
  target : ValueSourceTarget
  deriving DecidableEq, Repr

/-- The value source of a step, with the property that reads it. -/
def WorkflowStepActionInput.valueSource :
    WorkflowStepActionInput → Option (ValueSourceInput × ValueSourceTarget)
  | .navigate url => some (url, .navigateUrl)
  | .fill _ value => some (value, .fillValue)
  | .select _ value => some (value, .selectValue)
  | .verify (.text _ _ _ expected) _ => some (expected, .verifyTextExpected)
  | .verify (.value _ _ expected) _ => some (expected, .verifyValueExpected)
  | .verify (.url _ _ expected) _ => some (expected, .verifyUrlExpected)
  | _ => none

/-- `findWorkflowValueSources`, of what the editor holds. -/
def findValueSources
    (workflow : WorkflowDefinitionInput) :
    List (ValueSourceInput × VariableUsage) :=
  workflow.steps.zipIdx.filterMap fun (step, stepIndex) =>
    step.action.valueSource.map fun (source, target) =>
      (source,
        { stepId := step.id
          stepIndex
          stepType := step.action.type
          target })

def findVariableUsages
    (workflow : WorkflowDefinitionInput)
    (variableName : String) :
    List VariableUsage :=
  (findValueSources workflow).filterMap fun (source, usage) =>
    if source = .variable variableName then some usage else none

/-- The inputs of a definition that does not parse have blocking issues. -/
def hasBlockingInputIssues (workflow : WorkflowDefinitionInput) : Bool :=
  match workflow.parse with
  | none => true
  | some parsed => (analyzeWorkflowInputs parsed).hasBlockingIssues

/-- The issues of a variable whose type does not fit its usages. -/
def incompatibleVariableIssues
    (workflow : WorkflowDefinitionInput)
    (variableName : String) :
    List WorkflowInputIssue :=
  match workflow.parse with
  | none => []
  | some parsed =>
      (analyzeWorkflowInputs parsed).issues.filter fun issue =>
        issue.code = .incompatibleVariableType &&
          issue.variableName.map Identifier.text = some variableName

/-- `none` when `analyzeWorkflowExtraction` throws. -/
def hasBlockingExtractionIssues (workflow : WorkflowDefinitionInput) :
    Option Bool :=
  match workflow.parse with
  | none => some true
  | some parsed =>
      (analyzeWorkflowExtraction parsed).map fun analysis =>
        analysis.hasBlockingIssues

/-- `none` when `analyzeWorkflowExtraction` throws. -/
def outputUsages (workflow : WorkflowDefinitionInput) :
    Option (List WorkflowOutputUsage) :=
  match workflow.parse with
  | none => some []
  | some parsed =>
      (analyzeWorkflowExtraction parsed).map fun analysis => analysis.usages

inductive WorkflowVariableOperationErrorCode where
  | variableInvalid
  | variableNotFound
  | variableNameCollision
  | variableHasUsages
  | variableTypeIncompatible
  | stepNotFound
  | valueSourceTargetMismatch
  | valueSourceInvalid
  deriving DecidableEq, Repr

inductive WorkflowOutputOperationErrorCode where
  | outputInvalid
  | outputNotFound
  | outputNameCollision
  | outputHasUsages
  deriving DecidableEq, Repr

inductive WorkflowOperationError where
  | variable
      (code : WorkflowVariableOperationErrorCode)
      (message : String)
      (variableName : Option String)
      (usages : List VariableUsage)
  | output
      (code : WorkflowOutputOperationErrorCode)
      (message : String)
      (usageStepIds : List NonEmptyString)
  deriving DecidableEq, Repr

inductive WorkflowOperationResult where
  | ok (workflow : WorkflowDefinitionInput)
  | failure (error : WorkflowOperationError)
  /-- An analysis fails its own schema. -/
  | throws
  deriving DecidableEq, Repr

def variableFailure
    (code : WorkflowVariableOperationErrorCode)
    (message : String)
    (variableName : Option String)
    (usages : List VariableUsage) :
    WorkflowOperationResult :=
  .failure (.variable code message variableName usages)

def outputFailure
    (code : WorkflowOutputOperationErrorCode)
    (message : String)
    (usageStepIds : List NonEmptyString) :
    WorkflowOperationResult :=
  .failure (.output code message usageStepIds)

def addVariable
    (workflow : WorkflowDefinitionInput)
    (variableInput : WorkflowVariableInput) :
    WorkflowOperationResult :=
  match variableInput.parse with
  | none =>
      variableFailure .variableInvalid "Workflow variable is invalid." none []
  | some added =>
      if workflow.workflowVariables.any fun item =>
          item.name = added.name.text then
        variableFailure .variableNameCollision
          "A workflow variable with this name already exists."
          (some added.name.text) []
      else
        .ok
          { workflow with
            workflowVariables := workflow.workflowVariables ++ [added.input] }

def updateVariable
    (workflow : WorkflowDefinitionInput)
    (variableName : String)
    (replacementInput : WorkflowVariableInput) :
    WorkflowOperationResult :=
  let index :=
    workflow.workflowVariables.findIdx? fun item => item.name = variableName
  match index with
  | none =>
      variableFailure .variableNotFound "Workflow variable was not found."
        (some variableName) []
  | some index =>
      match
          replacementInput.parse.filter fun replacement =>
            replacement.name.text = variableName with
      | none =>
          variableFailure .variableInvalid
            "Workflow variable update is invalid. Use rename for name changes."
            (some variableName) []
      | some replacement =>
          let candidate :=
            { workflow with
              workflowVariables :=
                workflow.workflowVariables.set index replacement.input }
          if (incompatibleVariableIssues candidate variableName).isEmpty then
            .ok candidate
          else
            variableFailure .variableTypeIncompatible
              "Variable type is incompatible with one or more usages."
              (some variableName) (findVariableUsages workflow variableName)

/-- `renameSource`. -/
def renameSource
    (currentName nextName : String)
    (source : ValueSourceInput) :
    ValueSourceInput :=
  if source = .variable currentName then .variable nextName else source

/-- `renameStepReferences`, by what becomes of each value source. -/
def mapStepReferences
    (change : ValueSourceInput → ValueSourceInput)
    (step : WorkflowStepInput) :
    WorkflowStepInput :=
  match step.action with
  | .navigate url => { step with action := .navigate (change url) }
  | .fill locator value => { step with action := .fill locator (change value) }
  | .select locator value =>
      { step with action := .select locator (change value) }
  | .verify (.text locator matchMode operator expected) timeoutMs =>
      { step with
        action :=
          .verify (.text locator matchMode operator (change expected))
            timeoutMs }
  | .verify (.value locator operator expected) timeoutMs =>
      { step with
        action := .verify (.value locator operator (change expected)) timeoutMs }
  | .verify (.url matchMode operator expected) timeoutMs =>
      { step with
        action := .verify (.url matchMode operator (change expected)) timeoutMs }
  | _ => step

def renameStepReferences
    (currentName nextName : String)
    (step : WorkflowStepInput) :
    WorkflowStepInput :=
  mapStepReferences (renameSource currentName nextName) step

def renameVariable
    (workflow : WorkflowDefinitionInput)
    (currentName nextName : String) :
    WorkflowOperationResult :=
  let currentIndex :=
    workflow.workflowVariables.findIdx? fun item => item.name = currentName
  match currentIndex with
  | none =>
      variableFailure .variableNotFound "Workflow variable was not found."
        (some currentName) []
  | some currentIndex =>
      if (parseIdentifier nextName).isNone then
        variableFailure .variableInvalid "New variable name is invalid." none []
      else if currentName ≠ nextName ∧
          ∃ item ∈ workflow.workflowVariables, item.name = nextName then
        variableFailure .variableNameCollision
          "A workflow variable with this name already exists."
          (some nextName) []
      else if currentName = nextName then
        .ok workflow
      else
        .ok
          { workflow with
            workflowVariables :=
              workflow.workflowVariables.modify currentIndex fun item =>
                { item with name := nextName }
            steps :=
              workflow.steps.map (renameStepReferences currentName nextName) }

def removeVariable
    (workflow : WorkflowDefinitionInput)
    (variableName : String) :
    WorkflowOperationResult :=
  if ¬∃ item ∈ workflow.workflowVariables, item.name = variableName then
    variableFailure .variableNotFound "Workflow variable was not found."
      (some variableName) []
  else
    let usages := findVariableUsages workflow variableName
    if usages.isEmpty then
      .ok
        { workflow with
          workflowVariables :=
            workflow.workflowVariables.filter fun item =>
              item.name ≠ variableName }
    else
      variableFailure .variableHasUsages
        "Referenced workflow variables cannot be removed." (some variableName)
        usages

/-- `replaceStepValueSource`; `none` when the step has no such property. -/
def replaceStepValueSource
    (step : WorkflowStepInput)
    (target : ValueSourceTarget)
    (source : ValueSourceInput) :
    Option WorkflowStepInput :=
  match step.action, target with
  | .navigate _, .navigateUrl => some { step with action := .navigate source }
  | .fill locator _, .fillValue =>
      some { step with action := .fill locator source }
  | .select locator _, .selectValue =>
      some { step with action := .select locator source }
  | .verify (.text locator matchMode operator _) timeoutMs,
      .verifyTextExpected =>
      some
        { step with
          action := .verify (.text locator matchMode operator source) timeoutMs }
  | .verify (.value locator operator _) timeoutMs, .verifyValueExpected =>
      some
        { step with
          action := .verify (.value locator operator source) timeoutMs }
  | .verify (.url matchMode operator _) timeoutMs, .verifyUrlExpected =>
      some
        { step with
          action := .verify (.url matchMode operator source) timeoutMs }
  | _, _ => none

/-- The error of `updateStepValueSource` for a source that does not fit. -/
def incompatibleSourceFailure
    (candidate : WorkflowDefinitionInput)
    (source : ValueSource) :
    WorkflowOperationResult :=
  let message := "Value source is incompatible with this step property."
  match source with
  | .variable variableName =>
      variableFailure .variableTypeIncompatible message
        (some variableName.text)
        (findVariableUsages candidate variableName.text)
  | _ => variableFailure .valueSourceInvalid message none []

def updateStepValueSource
    (workflow : WorkflowDefinitionInput)
    (stepId : String)
    (target : ValueSourceTarget)
    (sourceInput : ValueSourceInput) :
    WorkflowOperationResult :=
  match sourceInput.parse with
  | none =>
      variableFailure .valueSourceInvalid "Value source is invalid." none []
  | some source =>
      match workflow.steps.findIdx? fun step => step.id.text = stepId with
      | none =>
          variableFailure .stepNotFound "Workflow step was not found." none []
      | some stepIndex =>
          match workflow.steps[stepIndex]? with
          | none =>
              variableFailure .stepNotFound "Workflow step was not found." none
                []
          | some currentStep =>
              match replaceStepValueSource currentStep target source.input with
              | none =>
                  variableFailure .valueSourceTargetMismatch
                    "Value source target does not match the selected step."
                    none []
              | some replacement =>
                  let candidate :=
                    { workflow with
                      steps := workflow.steps.set stepIndex replacement }
                  match hasBlockingExtractionIssues candidate with
                  | none => .throws
                  | some extractionBlocking =>
                      if hasBlockingInputIssues candidate ||
                          extractionBlocking then
                        incompatibleSourceFailure candidate source
                      else .ok candidate

/-- `replaceOutputSource`. -/
def replaceOutputSource
    (currentName nextName : String)
    (source : ValueSourceInput) :
    ValueSourceInput :=
  if source = .output currentName then .output nextName else source

/-- `renameReferences`. -/
def renameReferences
    (currentName nextName : String)
    (step : WorkflowStepInput) :
    WorkflowStepInput :=
  mapStepReferences (replaceOutputSource currentName nextName) step

/-- The name of the output that an extract step produces. -/
def WorkflowStepInput.outputName? (step : WorkflowStepInput) : Option String :=
  match step.action with
  | .extract _ _ outputName _ _ => some outputName
  | _ => none

/-- An extract step with another name for its output. -/
def WorkflowStepInput.withOutputName
    (nextName : String)
    (step : WorkflowStepInput) :
    WorkflowStepInput :=
  match step.action with
  | .extract locator source _ outputLabel timeoutMs =>
      { step with
        action := .extract locator source nextName outputLabel timeoutMs }
  | _ => step

def renameWorkflowOutput
    (workflow : WorkflowDefinitionInput)
    (currentName nextName : String) :
    WorkflowOperationResult :=
  let producer :=
    workflow.steps.find? fun step => step.outputName? = some currentName
  match producer with
  | none => outputFailure .outputNotFound "Workflow output was not found." []
  | some producer =>
      if (parseIdentifier nextName).isNone then
        outputFailure .outputInvalid "Output name is invalid." []
      else if currentName ≠ nextName ∧
          ∃ step ∈ workflow.steps, step.outputName? = some nextName then
        outputFailure .outputNameCollision "Output name already exists." []
      else if currentName = nextName then
        .ok workflow
      else
        .ok
          { workflow with
            steps :=
              workflow.steps.map fun step =>
                renameReferences currentName nextName
                  (if step.id = producer.id then step.withOutputName nextName
                  else step) }

def removeExtractStep
    (workflow : WorkflowDefinitionInput)
    (stepId : String) :
    WorkflowOperationResult :=
  let candidate := workflow.steps.find? fun step => step.id.text = stepId
  match candidate.bind WorkflowStepInput.outputName? with
  | none => outputFailure .outputNotFound "Extract step was not found." []
  | some outputName =>
      match outputUsages workflow with
      | none => .throws
      | some usages =>
          let usages :=
            usages.filter fun usage => usage.outputName.text = outputName
          if usages.isEmpty then
            .ok
              { workflow with
                steps := workflow.steps.filter fun step => step.id.text ≠ stepId }
          else
            outputFailure .outputHasUsages
              "A referenced Extract step cannot be removed."
              (usages.map WorkflowOutputUsage.consumerStepId)

inductive EditorOperation where
  | addVariable (variableInput : WorkflowVariableInput)
  | updateVariable
      (variableName : String)
      (replacementInput : WorkflowVariableInput)
  | renameVariable (currentName nextName : String)
  | removeVariable (variableName : String)
  | updateStepValueSource
      (stepId : String)
      (target : ValueSourceTarget)
      (sourceInput : ValueSourceInput)
  | renameWorkflowOutput (currentName nextName : String)
  | removeExtractStep (stepId : String)
  deriving DecidableEq, Repr

def EditorOperation.apply
    (workflow : WorkflowDefinitionInput) :
    EditorOperation → WorkflowOperationResult
  | .addVariable variableInput => Editor.addVariable workflow variableInput
  | .updateVariable variableName replacementInput =>
      Editor.updateVariable workflow variableName replacementInput
  | .renameVariable currentName nextName =>
      Editor.renameVariable workflow currentName nextName
  | .removeVariable variableName => Editor.removeVariable workflow variableName
  | .updateStepValueSource stepId target sourceInput =>
      Editor.updateStepValueSource workflow stepId target sourceInput
  | .renameWorkflowOutput currentName nextName =>
      Editor.renameWorkflowOutput workflow currentName nextName
  | .removeExtractStep stepId => Editor.removeExtractStep workflow stepId

/-- What the editor holds after an operation. -/
def EditorOperation.after
    (workflow : WorkflowDefinitionInput)
    (operation : EditorOperation) :
    WorkflowDefinitionInput :=
  match operation.apply workflow with
  | .ok changed => changed
  | .failure _ => workflow
  | .throws => workflow

end TaskTwin.Editor
