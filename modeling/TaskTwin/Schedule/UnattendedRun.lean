import TaskTwin.Schedule.ScheduledInputs

/-!
# When a ready schedule runs unattended

The condition on a workflow under which the run of a ready schedule passes the
validation of the preflight.
-/

namespace TaskTwin.Schedule

open Schema Text Workflow Engine

/-- What a workflow must be like to run with no inputs but local secrets. -/
structure RunsWithoutInputs (workflow : WorkflowDefinition) : Prop where
  optional :
    ∀ declaration ∈ workflow.workflowVariables, declaration.required = false
  unread :
    ∀ located ∈ findWorkflowValueSources workflow, ∀ variableName,
      located.source ≠ .variable variableName
  placed :
    ∀ located ∈ findWorkflowValueSources workflow, ∀ secretName,
      located.source = .secret secretName →
      isSafeSecretAlias secretName = true ∧ located.target = .fillValue
  /-- Without secrets, no variable has the name of a property of every object. -/
  ownNames :
    (∀ located ∈ findWorkflowValueSources workflow, ∀ secretName,
      located.source ≠ .secret secretName) →
    ∀ declaration ∈ workflow.workflowVariables,
      objectPrototypeProperties.contains declaration.name.text = false
  outputs : OutputsInOrder workflow

variable {workflow : WorkflowDefinition}

theorem sourceIssue_blocking
    {declared : List WorkflowVariable}
    {located : LocatedValueSource}
    {issue : WorkflowInputIssue}
    (isIssue : sourceIssue declared located = some issue) :
    issue.severity = .blocking := by
  unfold sourceIssue at isIssue
  split at isIssue
  · split at isIssue
    · obtain rfl := Option.some.inj isIssue
      rfl
    · split at isIssue
      · cases isIssue
      · obtain rfl := Option.some.inj isIssue
        rfl
  · split at isIssue
    · cases isIssue
    · obtain rfl := Option.some.inj isIssue
      rfl
  · cases isIssue
  · split at isIssue
    · obtain rfl := Option.some.inj isIssue
      rfl
    · split at isIssue
      · obtain rfl := Option.some.inj isIssue
        rfl
      · cases isIssue

theorem unusedVariableIssue_warning
    {analysis : WorkflowVariableAnalysis}
    {issue : WorkflowInputIssue}
    (isIssue : unusedVariableIssue analysis = some issue) :
    issue.severity = .warning := by
  unfold unusedVariableIssue at isIssue
  split at isIssue
  · obtain rfl := Option.some.inj isIssue
    rfl
  · cases isIssue

/-- Only the issues of value sources are blocking. -/
theorem analyzeWorkflowInputs_blocking_iff :
    (analyzeWorkflowInputs workflow).hasBlockingIssues = false ↔
      ∀ located ∈ findWorkflowValueSources workflow,
        sourceIssue workflow.workflowVariables located = none := by
  rw [analyzeWorkflowInputs]
  dsimp only
  rw [List.any_eq_false]
  constructor
  · intro notBlocking located isSource
    by_contra hasIssue
    obtain ⟨issue, isIssue⟩ := Option.ne_none_iff_exists'.mp hasIssue
    apply notBlocking issue
    · exact List.mem_append_left _
        (List.mem_filterMap.mpr ⟨located, isSource, isIssue⟩)
    · rw [sourceIssue_blocking isIssue]
      rfl
  · intro noIssue issue listed
    rcases List.mem_append.mp listed with ofSource | ofVariable
    · obtain ⟨located, isSource, isIssue⟩ := List.mem_filterMap.mp ofSource
      rw [noIssue located isSource] at isIssue
      cases isIssue
    · obtain ⟨analysis, -, isIssue⟩ := List.mem_filterMap.mp ofVariable
      rw [unusedVariableIssue_warning isIssue]
      decide

/-- A check that finds nothing leaves only issues about secrets. -/
theorem sourceIssue_of_check
    {localSecrets : Option LocalSecrets}
    (checked : checkNoInputsRequired workflow localSecrets = none)
    {located : LocatedValueSource}
    (isSource : located ∈ findWorkflowValueSources workflow)
    (notSecret : ∀ secretName, located.source ≠ .secret secretName) :
    sourceIssue workflow.workflowVariables located = none := by
  by_contra hasIssue
  obtain ⟨issue, isIssue⟩ := Option.ne_none_iff_exists'.mp hasIssue
  have noneRequired := (Option.or_eq_none_iff.mp checked).1
  rw [List.findSome?_eq_none_iff] at noneRequired
  have notRequired :=
    noneRequired issue
      (List.mem_append_left _
        (List.mem_filterMap.mpr ⟨located, isSource, isIssue⟩))
  rw [inputRequiredIssue, if_neg (by rw [sourceIssue_blocking isIssue]; simp)]
    at notRequired
  unfold sourceIssue at isIssue
  cases source : located.source with
  | secret secretName => exact absurd source (notSecret secretName)
  | output outputName =>
      rw [source] at isIssue
      cases isIssue
  | literal value =>
      rw [source] at isIssue
      dsimp only at isIssue
      split at isIssue
      · cases isIssue
      · obtain rfl := Option.some.inj isIssue
        cases notRequired
  | «variable» variableName =>
      rw [source] at isIssue
      dsimp only at isIssue
      split at isIssue
      · obtain rfl := Option.some.inj isIssue
        cases notRequired
      · split at isIssue
        · cases isIssue
        · obtain rfl := Option.some.inj isIssue
          cases notRequired

theorem sourceIssue_secret_iff
    {declared : List WorkflowVariable}
    {located : LocatedValueSource}
    {secretName : Identifier}
    (isSecret : located.source = .secret secretName) :
    sourceIssue declared located = none ↔
      isSafeSecretAlias secretName = true ∧ located.target = .fillValue := by
  have allows :
      (getValueSourceCompatibility located.target).allowsSecret = true ↔
        located.target = .fillValue := by
    simp [getValueSourceCompatibility]
  rw [sourceIssue, isSecret, ← allows]
  dsimp only
  cases isSafeSecretAlias secretName <;>
    cases (getValueSourceCompatibility located.target).allowsSecret <;> simp

/-- After the check the analysis passes when the secrets are placed right. -/
theorem inputs_iff_placed
    {localSecrets : Option LocalSecrets}
    (checked : checkNoInputsRequired workflow localSecrets = none) :
    (analyzeWorkflowInputs workflow).hasBlockingIssues = false ↔
      ∀ located ∈ findWorkflowValueSources workflow, ∀ secretName,
        located.source = .secret secretName →
        isSafeSecretAlias secretName = true ∧
          located.target = .fillValue := by
  rw [analyzeWorkflowInputs_blocking_iff]
  constructor
  · intro noIssue located isSource secretName isSecret
    exact (sourceIssue_secret_iff isSecret).mp (noIssue located isSource)
  · intro placed located isSource
    by_cases isSecret : ∃ secretName, located.source = .secret secretName
    · obtain ⟨secretName, isSecret⟩ := isSecret
      exact
        (sourceIssue_secret_iff isSecret).mpr
          (placed located isSource secretName isSecret)
    · apply sourceIssue_of_check checked isSource
      intro secretName same
      exact isSecret ⟨secretName, same⟩

theorem mem_addSecretUsage
    (requirements : List WorkflowSecretRequirement)
    (located : LocatedValueSource)
    (secretName : Identifier) :
    secretName ∈ (addSecretUsage requirements located).map (·.secretName) ↔
      secretName ∈ requirements.map (·.secretName) ∨
        requiredSecret located = some secretName := by
  unfold addSecretUsage
  split
  case h_1 notRequired => simp [notRequired]
  case h_2 required isRequired =>
    rw [isRequired]
    split
    case isTrue isKnown =>
      have sameNames :
          (requirements.map fun requirement =>
            if requirement.secretName = required then
              { requirement with usages := requirement.usages ++ [located] }
            else
              requirement).map (·.secretName) =
            requirements.map (·.secretName) := by
        rw [List.map_map]
        apply List.map_congr_left
        intro requirement _
        dsimp only [Function.comp_apply]
        split <;> rfl
      rw [sameNames]
      constructor
      · exact Or.inl
      · rintro (listed | same)
        · exact listed
        · obtain rfl := Option.some.inj same
          obtain ⟨requirement, isRequirement, sameName⟩ :=
            List.any_eq_true.mp isKnown
          exact List.mem_map.mpr
            ⟨requirement, isRequirement, of_decide_eq_true sameName⟩
    case isFalse => simp [eq_comm]

/-- The required secrets are those of the sources that require one. -/
theorem mem_secretRequirements (secretName : Identifier) :
    secretName ∈
        (analyzeWorkflowInputs workflow).secretRequirements.map
          (·.secretName) ↔
      ∃ located ∈ findWorkflowValueSources workflow,
        requiredSecret located = some secretName := by
  have collected :
      ∀ (sources : List LocatedValueSource)
        (requirements : List WorkflowSecretRequirement),
        secretName ∈
            (sources.foldl addSecretUsage requirements).map (·.secretName) ↔
          secretName ∈ requirements.map (·.secretName) ∨
            ∃ located ∈ sources, requiredSecret located = some secretName := by
    intro sources
    induction sources with
    | nil => simp
    | cons located sources ih =>
        intro requirements
        rw [List.foldl_cons, ih, mem_addSecretUsage, or_assoc]
        simp
  rw [analyzeWorkflowInputs, collected]
  simp

theorem requiredSecret_of_placed
    {located : LocatedValueSource}
    {secretName : Identifier}
    (isSecret : located.source = .secret secretName)
    (placed :
      isSafeSecretAlias secretName = true ∧ located.target = .fillValue) :
    requiredSecret located = some secretName := by
  simp [requiredSecret, isSecret, placed, getValueSourceCompatibility]

theorem secret_of_requiredSecret
    {located : LocatedValueSource}
    {secretName : Identifier}
    (required : requiredSecret located = some secretName) :
    located.source = .secret secretName := by
  unfold requiredSecret at required
  split at required
  case h_1 name isSecret =>
    obtain ⟨-, same⟩ := Option.ite_none_right_eq_some.mp required
    rw [isSecret, Option.some.inj same]
  case h_2 => cases required

/-- No source requires a secret when there is no secret to place. -/
theorem secretRequirements_isEmpty_iff :
    (analyzeWorkflowInputs workflow).secretRequirements.isEmpty = true ↔
      ∀ located ∈ findWorkflowValueSources workflow,
        requiredSecret located = none := by
  constructor
  · intro empty located isSource
    by_contra isRequired
    obtain ⟨secretName, required⟩ := Option.ne_none_iff_exists'.mp isRequired
    have listed :=
      (mem_secretRequirements secretName).mpr ⟨located, isSource, required⟩
    rw [List.isEmpty_iff.mp empty] at listed
    cases listed
  · intro noneRequired
    rw [List.isEmpty_iff, List.eq_nil_iff_forall_not_mem]
    intro requirement isRequirement
    obtain ⟨located, isSource, required⟩ :=
      (mem_secretRequirements requirement.secretName).mp
        (List.mem_map_of_mem isRequirement)
    rw [noneRequired located isSource] at required
    cases required

theorem readProperty_nil (name : Identifier) :
    readProperty [] name =
      if objectPrototypeProperties.contains name.text then .inherited
      else .missing :=
  rfl

theorem readProperty_nil_ne_own
    (name : Identifier)
    (value : RuntimeInputValue) :
    readProperty [] name ≠ .own value := by
  rw [readProperty_nil]
  split <;> simp

theorem hasVariable_unset
    (name : Identifier)
    (valueType : WorkflowVariableValueType) :
    (createRuntimeValueResolver []).hasVariable name valueType = false := by
  dsimp only [createRuntimeValueResolver]
  split
  case h_1 value isOwn =>
    exact absurd isOwn (readProperty_nil_ne_own name value)
  case h_2 => rfl

theorem resolve_unset
    (variableName : Identifier)
    (target : ValueSourceTarget) :
    (createRuntimeValueResolver []).resolve (.variable variableName) target =
      .error (thrown .invalidRuntimeInputs) := by
  dsimp only [createRuntimeValueResolver, resolveValueSource]
  split
  case h_1 value isOwn =>
    exact absurd isOwn (readProperty_nil_ne_own variableName value)
  case h_2 => rfl

/-- With no inputs, a declared variable is accepted when it is optional and
not found in every object. -/
theorem declaredInputIssue_nil_iff (declaration : WorkflowVariable) :
    declaredInputIssue [] declaration = none ↔
      declaration.required = false ∧
        objectPrototypeProperties.contains declaration.name.text = false := by
  unfold declaredInputIssue
  rw [readProperty_nil]
  cases objectPrototypeProperties.contains declaration.name.text <;>
    cases declaration.required <;> simp

theorem scheduledInputs_valid_iff :
    (validateWorkflowRunInputs workflow scheduledSubmission).summary.valid =
        true ↔
      ∀ declaration ∈ workflow.workflowVariables,
        declaration.required = false ∧
          objectPrototypeProperties.contains declaration.name.text = false := by
  simp only [validateWorkflowRunInputs, scheduledSubmission, List.map_nil,
    List.insertionSort_nil, List.filterMap_nil, List.append_nil,
    List.isEmpty_iff, List.filterMap_eq_nil_iff, declaredInputIssue_nil_iff]

/-- A lease on the required secrets has them; the variables are not set. -/
theorem checkRuntimeValues_leased_iff (secrets : Identifier → String) :
    checkRuntimeValues workflow scheduledSubmission
          (some
            (acquireLocalSecretRuntime
              (analyzeWorkflowInputs workflow).secretRequirements secrets)) =
        none ↔
      ∀ item ∈ (analyzeWorkflowInputs workflow).variableAnalyses,
        item.variableIs.required = false ∧ item.usageCount = 0 := by
  have leased :
      ((analyzeWorkflowInputs workflow).secretRequirements.any
        fun requirement =>
          !(acquireLocalSecretRuntime
            (analyzeWorkflowInputs workflow).secretRequirements
            secrets).hasSecret requirement.secretName) =
        false := by
    rw [List.any_eq_false]
    intro requirement isRequirement
    dsimp only [acquireLocalSecretRuntime]
    rw [Bool.not_eq_true, Bool.not_eq_false', List.any_eq_true]
    exact ⟨requirement, isRequirement, beq_self_eq_true _⟩
  have noVariable :
      ∀ name valueType,
        (acquireLocalSecretRuntime
          (analyzeWorkflowInputs workflow).secretRequirements
          secrets).hasVariable name valueType = false :=
    hasVariable_unset
  simp only [checkRuntimeValues, leased, noVariable]
  simp [Nat.pos_iff_ne_zero]

/-- A variable is used as often as a value source reads it. -/
theorem usageCount_eq_zero_iff
    {sources : List LocatedValueSource}
    {declaration : WorkflowVariable} :
    (createVariableAnalysis sources declaration).usageCount = 0 ↔
      ∀ located ∈ sources, located.source ≠ .variable declaration.name := by
  simp [createVariableAnalysis, WorkflowVariableAnalysis.usageCount,
    LocatedValueSource.readsVariable]

/-- The resolver that a scheduled run reads its values from. -/
def scheduledValueResolver
    (workflow : WorkflowDefinition)
    (secrets : Identifier → String) :
    WorkflowRuntimeValueResolver :=
  (scheduledResolver workflow secrets).getD
    (createRuntimeValueResolver scheduledSubmission.values)

theorem scheduledResolver_of_none
    (noneRequired :
      (analyzeWorkflowInputs workflow).secretRequirements.isEmpty = true)
    (secrets : Identifier → String) :
    scheduledResolver workflow secrets = none :=
  if_pos noneRequired

theorem scheduledResolver_of_some
    (someRequired :
      ¬(analyzeWorkflowInputs workflow).secretRequirements.isEmpty = true)
    (secrets : Identifier → String) :
    scheduledResolver workflow secrets =
      some
        (acquireLocalSecretRuntime
          (analyzeWorkflowInputs workflow).secretRequirements secrets) :=
  if_neg someRequired

variable (secrets : Identifier → String) {value : LiteralValue}

theorem scheduledValueResolver_variable
    (variableName : Identifier)
    (target : ValueSourceTarget) :
    (scheduledValueResolver workflow secrets).resolve (.variable variableName)
        target =
      .error (thrown .invalidRuntimeInputs) := by
  by_cases noneRequired :
      (analyzeWorkflowInputs workflow).secretRequirements.isEmpty = true
  · rw [scheduledValueResolver, scheduledResolver_of_none noneRequired]
    exact resolve_unset variableName target
  · rw [scheduledValueResolver, scheduledResolver_of_some noneRequired]
    exact resolve_unset variableName target

theorem scheduledValueResolver_literal
    {target : ValueSourceTarget}
    (compatible : isLiteralCompatible target value = true) :
    (scheduledValueResolver workflow secrets).resolve (.literal value) target =
      .ok value := by
  by_cases noneRequired :
      (analyzeWorkflowInputs workflow).secretRequirements.isEmpty = true
  · rw [scheduledValueResolver, scheduledResolver_of_none noneRequired]
    exact if_pos compatible
  · rw [scheduledValueResolver, scheduledResolver_of_some noneRequired]
    exact if_pos compatible

theorem scheduledValueResolver_secret
    {secretName : Identifier}
    (required :
      secretName ∈
        (analyzeWorkflowInputs workflow).secretRequirements.map
          (·.secretName))
    (target : ValueSourceTarget) :
    (scheduledValueResolver workflow secrets).resolve (.secret secretName)
        target =
      .ok (.string (secrets secretName)) := by
  obtain ⟨requirement, isRequirement, sameName⟩ := List.mem_map.mp required
  have someRequired :
      ¬(analyzeWorkflowInputs workflow).secretRequirements.isEmpty = true := by
    intro empty
    rw [List.isEmpty_iff.mp empty] at isRequirement
    cases isRequirement
  rw [scheduledValueResolver, scheduledResolver_of_some someRequired]
  apply if_pos
  rw [List.any_eq_true]
  exact ⟨requirement, isRequirement, by simp [sameName]⟩

/-- No step reads a variable that is not set. -/
theorem resolveForStep_variable
    (variableName : Identifier)
    (target : ValueSourceTarget) :
    resolveForStep (.variable variableName) target
        (scheduledValueResolver workflow secrets) =
      .error (thrown .invalidRuntimeInputs) := by
  cases target <;>
    simp only [resolveForStep, resolveTextWithResolver,
      resolveSelectWithResolver, scheduledValueResolver_variable, Except.map]

theorem resolveForStep_literal
    {target : ValueSourceTarget}
    (compatible : isLiteralCompatible target value = true) :
    ∃ resolved,
      resolveForStep (.literal value) target
          (scheduledValueResolver workflow secrets) =
        .ok resolved := by
  have resolves :=
    @scheduledValueResolver_literal workflow secrets _ _ compatible
  cases target with
  | navigateUrl | fillValue =>
      apply map_string_of_ok
      rw [resolveTextWithResolver, resolves]
      cases value with
      | string text => exact ⟨text, rfl⟩
      | number number => cases compatible
      | boolean flag => cases compatible
  | selectValue =>
      rw [resolveForStep, resolveSelectWithResolver, resolves]
      cases value with
      | string text => exact ⟨.string text, rfl⟩
      | number number => exact ⟨.number number, rfl⟩
      | boolean flag => cases compatible
  | verifyTextExpected | verifyValueExpected | verifyUrlExpected =>
      exact ⟨value, resolves⟩

theorem isLiteralCompatible_of_sourceIssue
    {declared : List WorkflowVariable}
    {located : LocatedValueSource}
    {value : LiteralValue}
    (isLiteral : located.source = .literal value)
    (noIssue : sourceIssue declared located = none) :
    isLiteralCompatible located.target value = true := by
  rw [sourceIssue, isLiteral] at noIssue
  dsimp only at noIssue
  by_contra incompatible
  rw [if_neg incompatible] at noIssue
  cases noIssue

/-- The values that no step produces are resolved before the run. -/
theorem resolved_of_conditions
    (secrets : Identifier → String)
    {localSecrets : Option LocalSecrets}
    (checked : checkNoInputsRequired workflow localSecrets = none)
    (runs : RunsWithoutInputs workflow)
    {located : LocatedValueSource}
    (isSource : located ∈ findWorkflowValueSources workflow)
    (notOutput : ∀ outputName, located.source ≠ .output outputName) :
    ∃ value,
      resolveForStep located.source located.target
          (scheduledValueResolver workflow secrets) =
        .ok value := by
  cases source : located.source with
  | output outputName => exact absurd source (notOutput outputName)
  | «variable» variableName =>
      exact absurd source (runs.unread located isSource variableName)
  | literal value =>
      apply resolveForStep_literal
      apply isLiteralCompatible_of_sourceIssue source
      apply sourceIssue_of_check checked isSource
      intro secretName isSecret
      rw [source] at isSecret
      cases isSecret
  | secret secretName =>
      have placed := runs.placed located isSource secretName source
      have required :=
        (mem_secretRequirements secretName).mpr
          ⟨located, isSource, requiredSecret_of_placed source placed⟩
      rw [placed.2]
      apply map_string_of_ok
      rw [resolveTextWithResolver,
        scheduledValueResolver_secret secrets required]
      exact ⟨secrets secretName, rfl⟩

theorem runtimeValues_iff
    (secrets : Identifier → String)
    (unread :
      ∀ located ∈ findWorkflowValueSources workflow, ∀ variableName,
        located.source ≠ .variable variableName) :
    checkRuntimeValues workflow scheduledSubmission
          (scheduledResolver workflow secrets) =
        none ↔
      ∀ declaration ∈ workflow.workflowVariables,
        declaration.required = false ∧
          ((analyzeWorkflowInputs workflow).secretRequirements.isEmpty = true →
            objectPrototypeProperties.contains declaration.name.text =
              false) := by
  by_cases noneRequired :
      (analyzeWorkflowInputs workflow).secretRequirements.isEmpty = true
  · have unresolved :
        checkRuntimeValues workflow scheduledSubmission none = none ↔
          (validateWorkflowRunInputs workflow
            scheduledSubmission).summary.valid = true := by
      simp [checkRuntimeValues, noneRequired]
    rw [scheduledResolver_of_none noneRequired, unresolved,
      scheduledInputs_valid_iff]
    simp [noneRequired]
  · have analyses :
        (analyzeWorkflowInputs workflow).variableAnalyses =
          workflow.workflowVariables.map
            (createVariableAnalysis (findWorkflowValueSources workflow)) :=
      rfl
    rw [scheduledResolver_of_some noneRequired, checkRuntimeValues_leased_iff,
      analyses, List.forall_mem_map]
    constructor
    · intro accepted declaration isDeclaration
      exact
        ⟨(accepted declaration isDeclaration).1,
          fun empty => absurd empty noneRequired⟩
    · intro accepted declaration isDeclaration
      refine ⟨(accepted declaration isDeclaration).1, ?_⟩
      rw [usageCount_eq_zero_iff]
      intro located isSource
      exact unread located isSource declaration.name

/--
The run of a ready schedule passes the validation of its inputs and data flow
when its workflow needs no inputs.
-/
theorem ready_validates_iff
    {platform : Policy.Platform}
    {input : ScheduleCreationReadinessInput}
    {report : ScheduleReadinessReport}
    (analyzed :
      analyzeScheduleCreationReadiness platform input = some report)
    (ready : report.ready = true)
    (secrets : Identifier → String) :
    ∃ workflow,
      input.workflowDefinition = some workflow ∧
        (ValidatesInputs workflow scheduledSubmission
            (scheduledResolver workflow secrets) ↔
          RunsWithoutInputs workflow) := by
  obtain ⟨workflow, isWorkflow, checked, -⟩ := checks_of_ready analyzed ready
  refine ⟨workflow, isWorkflow, ?_, ?_⟩
  · intro validates
    have unread :
        ∀ located ∈ findWorkflowValueSources workflow, ∀ variableName,
          located.source ≠ .variable variableName := by
      intro located isSource variableName isVariable
      obtain ⟨value, resolves⟩ :=
        validates.resolved located isSource (by simp [isVariable])
      rw [isVariable] at resolves
      have unresolved :=
        @resolveForStep_variable workflow secrets variableName located.target
      rw [scheduledValueResolver, resolves] at unresolved
      cases unresolved
    have accepted := (runtimeValues_iff secrets unread).mp validates.runtimeValues
    constructor
    · intro declaration isDeclaration
      exact (accepted declaration isDeclaration).1
    · exact unread
    · exact (inputs_iff_placed checked).mp validates.inputs
    · intro noSecret declaration isDeclaration
      apply (accepted declaration isDeclaration).2
      rw [secretRequirements_isEmpty_iff]
      intro located isSource
      by_contra isRequired
      obtain ⟨secretName, required⟩ := Option.ne_none_iff_exists'.mp isRequired
      exact noSecret located isSource secretName (secret_of_requiredSecret required)
    · exact dataFlow_iff.mp validates.dataFlow
  · intro runs
    constructor
    · exact (inputs_iff_placed checked).mpr runs.placed
    · exact dataFlow_iff.mpr runs.outputs
    · apply (runtimeValues_iff secrets runs.unread).mpr
      intro declaration isDeclaration
      refine ⟨runs.optional declaration isDeclaration, ?_⟩
      intro noneRequired
      apply runs.ownNames _ declaration isDeclaration
      intro located isSource secretName isSecret
      have notRequired :=
        secretRequirements_isEmpty_iff.mp noneRequired located isSource
      rw [requiredSecret_of_placed isSecret
        (runs.placed located isSource secretName isSecret)] at notRequired
      cases notRequired
    · intro located isSource notOutput
      exact resolved_of_conditions secrets checked runs isSource notOutput

/-- A required variable. -/
def exampleVariable : WorkflowVariable :=
  { name := exampleNote
    label := none
    valueType := .string
    required := true
    description := none }

/-- A step that fills in the variable. -/
def exampleVariableStep : WorkflowStep :=
  { exampleFillStep with
    action := .fill (.css exampleGate) (.variable exampleNote)
    refined := rfl }

def exampleVariableFlow : WorkflowDefinition :=
  { exampleWorkflow with
    workflowVariables := [exampleVariable]
    steps := [exampleVariableStep]
    stepsNonEmpty := List.cons_ne_nil _ _
    stepIdsUnique := List.nodup_singleton _
    variableNamesUnique := List.nodup_singleton _ }

def exampleReadinessInput : ScheduleCreationReadinessInput :=
  { workflowVersionStatus := some .published
    workflowDefinition := some exampleVariableFlow
    runnerWorkspaceId := some "workspace"
    targetWorkspaceId := "workspace"
    runnerRevokedAt := none
    executionPolicy := some (Policy.examplePolicy [] [])
    executionPolicyDigest := List.replicate 64 (unit 'a')
    workflowDigest := List.replicate 64 (unit 'b')
    localSecrets := none }

theorem exampleReadinessInput_ready :
    analyzeScheduleCreationReadiness Policy.examplePlatform
        exampleReadinessInput =
      some { ready := true, issues := [] } := by
  decide +kernel

theorem exampleVariableFlow_unresolved (secrets : Identifier → String) :
    checkRuntimeValues exampleVariableFlow scheduledSubmission
        (scheduledResolver exampleVariableFlow secrets) =
      some .invalidRuntimeInputs := by
  have noneRequired :
      (analyzeWorkflowInputs exampleVariableFlow).secretRequirements.isEmpty =
        true := by
    decide
  rw [scheduledResolver_of_none noneRequired]
  decide +kernel

/-- A ready report does not mean that the run passes. -/
theorem ready_without_input :
    ¬∀ (platform : Policy.Platform) (input : ScheduleCreationReadinessInput)
      (report : ScheduleReadinessReport),
      analyzeScheduleCreationReadiness platform input = some report →
      report.ready = true →
      ∀ secrets : Identifier → String,
        ∃ workflow,
          input.workflowDefinition = some workflow ∧
            ValidatesInputs workflow scheduledSubmission
              (scheduledResolver workflow secrets) := by
  intro everyReady
  obtain ⟨workflow, isWorkflow, validates⟩ :=
    everyReady Policy.examplePlatform exampleReadinessInput _
      exampleReadinessInput_ready rfl fun _ => ""
  cases isWorkflow
  have accepted := validates.runtimeValues
  rw [exampleVariableFlow_unresolved] at accepted
  cases accepted

/-- The workflow of the example needs an input. -/
theorem exampleReadinessInput_needs :
    ∃ workflow,
      exampleReadinessInput.workflowDefinition = some workflow ∧
        (ValidatesInputs workflow scheduledSubmission
            (scheduledResolver workflow fun _ => "") ↔
          RunsWithoutInputs workflow) :=
  ready_validates_iff exampleReadinessInput_ready rfl fun _ => ""

end TaskTwin.Schedule
