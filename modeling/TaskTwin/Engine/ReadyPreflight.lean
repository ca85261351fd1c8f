import TaskTwin.Engine.Readiness

/-!
# The preflight of a ready workflow

A ready report leaves no issue.  Every value source is then a literal of the
right type or the output of an earlier step, every address can be visited, and
each check of the preflight passes.
-/

namespace TaskTwin.Engine

open Text Schema Workflow Recovery
open TaskTwin.Policy (Url)

variable {parser : UrlParser}

structure IsReady
    (parser : UrlParser)
    (workflow : WorkflowDefinition)
    (extraction : WorkflowExtractionAnalysis)
    (approvals : WorkflowApprovalAnalysis) :
    Prop where
  inputs : (analyzeWorkflowInputs workflow).hasBlockingIssues = false
  verifications :
    (analyzeWorkflowVerifications parser.parseUrl workflow).issues = []
  dataFlow : extraction.hasBlockingIssues = false
  gates : approvals.hasBlockingIssues = false
  variablesUnused :
    ∀ item ∈ (analyzeWorkflowInputs workflow).variableAnalyses,
      item.usages = []
  noSecrets : (analyzeWorkflowInputs workflow).secretRequirements = []
  inputsValid :
    (validateWorkflowRunInputs workflow emptyInputs).summary.valid = true
  steps :
    ∀ index step,
      workflow.steps[index]? = some step →
        (navigationFindings parser step index).1 = []
  origins : visitedOrigins parser workflow ≠ []

theorem reportIf_eq_nil
    {condition : Bool}
    {finding : Finding} :
    reportIf condition finding = [] ↔ condition = false := by
  cases condition <;> simp [reportIf]

variable
  {workflow : WorkflowDefinition}
  {extraction : WorkflowExtractionAnalysis}
  {approvals : WorkflowApprovalAnalysis}

theorem readinessOf_ready
    {approvals : WorkflowApprovalAnalysis} :
    (readinessOf parser workflow extraction approvals).ready =
      (uniqueIssues
        (workflowIssues parser workflow extraction approvals ++
            (stepFindings parser workflow).1 ++
          reportIf (visitedOrigins parser workflow).isEmpty
            .noOrigin)).isEmpty := by
  simp only [readinessOf, visitedOrigins]

theorem isReady_of_ready
    (ready :
      (readinessOf parser workflow extraction approvals).ready = true) :
    IsReady parser workflow extraction approvals := by
  rw [readinessOf_ready, List.isEmpty_iff, uniqueIssues_eq_nil] at ready
  have noIssue := ready
  simp only [List.append_eq_nil_iff, workflowIssues, reportIf_eq_nil]
    at noIssue
  obtain ⟨⟨⟨⟨⟨⟨⟨⟨⟨⟨⟨-, inputs⟩, verifications⟩, dataFlow⟩, gates⟩, unread⟩,
    secrets⟩, -⟩, inputsValid⟩, -⟩, steps⟩, origins⟩ := noIssue
  constructor
  case inputs => exact inputs
  case verifications => simpa using verifications
  case dataFlow => exact dataFlow
  case gates => exact gates
  case variablesUnused =>
    intro item listed
    have unused := (List.any_eq_false.mp unread) item listed
    apply List.length_eq_zero_iff.mp
    apply Nat.eq_zero_of_not_pos
    intro isUsed
    exact unused (decide_eq_true isUsed)
  case noSecrets => simpa using secrets
  case inputsValid => simpa using inputsValid
  case steps =>
    intro index step atIndex
    simp only [stepFindings, List.flatMap_eq_nil_iff, List.mem_map] at steps
    exact
      steps _
        ⟨(step, index), List.mem_zipIdx_iff_getElem?.mpr atIndex, rfl⟩
  case origins => simpa [visitedOrigins] using origins

theorem sourceIssue_severity
    {declared : List WorkflowVariable}
    {located : LocatedValueSource}
    {issue : WorkflowInputIssue}
    (reported : sourceIssue declared located = some issue) :
    issue.severity = .blocking := by
  unfold sourceIssue at reported
  repeat' split at reported
  all_goals first
    | cases reported
      rfl
    | cases reported

/-- No value source has an issue. -/
theorem IsReady.noSourceIssue
    (isReady : IsReady parser workflow extraction approvals)
    {located : LocatedValueSource}
    (listed : located ∈ findWorkflowValueSources workflow) :
    sourceIssue workflow.workflowVariables located = none := by
  cases reported : sourceIssue workflow.workflowVariables located with
  | none => rfl
  | some issue =>
      have noneBlocks := List.any_eq_false.mp isReady.inputs
      have isListed :
          issue ∈
            (findWorkflowValueSources workflow).filterMap
              (sourceIssue workflow.workflowVariables) :=
        List.mem_filterMap.mpr ⟨located, listed, reported⟩
      have notBlocking := noneBlocks issue (List.mem_append_left _ isListed)
      rw [sourceIssue_severity reported] at notBlocking
      exact absurd rfl notBlocking

theorem addSecretUsage_ne_nil
    {requirements : List WorkflowSecretRequirement}
    {located : LocatedValueSource}
    (required :
      requirements ≠ [] ∨ (requiredSecret located).isSome = true) :
    addSecretUsage requirements located ≠ [] := by
  unfold addSecretUsage
  cases isSecret : requiredSecret located with
  | none =>
      rcases required with notEmpty | isSome
      · exact notEmpty
      · rw [isSecret] at isSome
        cases isSome
  | some secretName =>
      dsimp only
      split
      case isTrue isThere =>
        intro isEmpty
        rw [List.map_eq_nil_iff.mp isEmpty] at isThere
        cases isThere
      case isFalse isNew => exact List.append_ne_nil_of_right_ne_nil _ (by simp)

/-- A required secret is in the requirements. -/
theorem foldl_addSecretUsage_ne_nil
    {sources : List LocatedValueSource}
    {requirements : List WorkflowSecretRequirement}
    (required :
      requirements ≠ [] ∨
        ∃ located ∈ sources, (requiredSecret located).isSome = true) :
    sources.foldl addSecretUsage requirements ≠ [] := by
  induction sources generalizing requirements with
  | nil =>
      rcases required with notEmpty | ⟨located, listed, -⟩
      · exact notEmpty
      · cases listed
  | cons first sources inductionHypothesis =>
      apply inductionHypothesis
      rcases required with notEmpty | ⟨located, listed, isSecret⟩
      · exact Or.inl (addSecretUsage_ne_nil (Or.inl notEmpty))
      · rcases List.mem_cons.mp listed with rfl | isLater
        · exact Or.inl (addSecretUsage_ne_nil (Or.inr isSecret))
        · exact Or.inr ⟨located, isLater, isSecret⟩

/-- A value source of a ready workflow. -/
inductive IsReadySource (target : ValueSourceTarget) : ValueSource → Prop where
  | literal
      {value : LiteralValue}
      (compatible : isLiteralCompatible target value = true) :
      IsReadySource target (.literal value)
  | output (outputName : Identifier) :
      IsReadySource target (.output outputName)

theorem IsReady.isReadySource
    (isReady : IsReady parser workflow extraction approvals)
    {index : Nat}
    {step : WorkflowStep}
    (atIndex : workflow.steps[index]? = some step)
    {source : ValueSource}
    {target : ValueSourceTarget}
    (isSource : step.valueSource = some (source, target)) :
    IsReadySource target source := by
  have listed :
      { source, stepId := step.id, stepIndex := index, stepType := step.type,
        target : LocatedValueSource } ∈
        findWorkflowValueSources workflow :=
    mem_findWorkflowValueSources.mpr
      ⟨step, index, atIndex, mem_locate.mpr ⟨isSource, rfl, rfl, rfl⟩⟩
  have noIssue := isReady.noSourceIssue listed
  cases source with
  | output outputName => exact IsReadySource.output outputName
  | literal value =>
      apply IsReadySource.literal
      by_cases compatible : isLiteralCompatible target value = true
      · exact compatible
      · simp [sourceIssue, compatible] at noIssue
  | «variable» variableName =>
      -- A declared variable would be used, another one would be an issue.
      exfalso
      cases found :
          workflow.workflowVariables.find?
            fun declaration => declaration.name = variableName with
      | none => simp [sourceIssue, found] at noIssue
      | some declaration =>
          have isDeclared := List.mem_of_find?_eq_some found
          have sameName : declaration.name = variableName := by
            simpa using List.find?_some found
          have unused :=
            isReady.variablesUnused
              (createVariableAnalysis (findWorkflowValueSources workflow)
                declaration)
              (List.mem_map_of_mem isDeclared)
          have isUsage := List.filter_eq_nil_iff.mp unused _ listed
          simp [LocatedValueSource.readsVariable, sameName] at isUsage
  | secret secretName =>
      -- A safe secret in the right place would be a requirement.
      exfalso
      have noneRequired :
          ¬∃ located ∈ findWorkflowValueSources workflow,
            (requiredSecret located).isSome = true := by
        intro required
        exact foldl_addSecretUsage_ne_nil (Or.inr required) isReady.noSecrets
      by_cases isSafe : isSafeSecretAlias secretName = true
      · by_cases allowed :
            (getValueSourceCompatibility target).allowsSecret = true
        · apply noneRequired
          exact ⟨_, listed, by simp [requiredSecret, isSafe, allowed]⟩
        · simp [sourceIssue, isSafe, allowed] at noIssue
      · simp [sourceIssue, isSafe] at noIssue

/-- A literal is resolved to itself. -/
theorem resolve_literal
    {target : ValueSourceTarget}
    {value : LiteralValue}
    (compatible : isLiteralCompatible target value = true)
    (values : RuntimeValueRecord) :
    (createRuntimeValueResolver values).resolve (.literal value) target =
      .ok value := by
  exact if_pos compatible

variable
  {workflow : WorkflowDefinition}
  {extraction : WorkflowExtractionAnalysis}
  {approvals : WorkflowApprovalAnalysis}

/-- A navigate step of a ready workflow has an address that can be visited. -/
theorem IsReady.navigate
    (isReady : IsReady parser workflow extraction approvals)
    {index : Nat}
    {step : WorkflowStep}
    (atIndex : workflow.steps[index]? = some step)
    {url : ValueSource}
    (isNavigate : step.action = .navigate url) :
    ∃ value origin,
      url = .literal (.string value) ∧
        navigationOrigin parser value = some origin ∧
        origin ∈ visitedOrigins parser workflow := by
  have noIssue := isReady.steps index step atIndex
  have isSupported : supportedSteps.contains step.type = true := by
    cases step.type <;> rfl
  simp only [navigationFindings, isSupported, Bool.not_true,
    Bool.false_eq_true, if_false, isNavigate] at noIssue
  split at noIssue
  case h_1 action value isText =>
    cases isText
    split at noIssue
    case h_1 origin pushed =>
      refine ⟨value, origin, rfl, pushed, ?_⟩
      apply mem_distinctOrigins.mpr
      apply mem_stepFindings_origins.mpr
      exact
        ⟨step, List.mem_of_getElem? atIndex, value, isNavigate, pushed⟩
    case h_2 => cases noIssue
  case h_2 => cases noIssue
  case h_3 action notText notNavigate => exact absurd rfl (notNavigate url)

/-- The verify steps of a ready workflow have no issue. -/
theorem IsReady.verify
    (isReady : IsReady parser workflow extraction approvals)
    {index : Nat}
    {step : WorkflowStep}
    (atIndex : workflow.steps[index]? = some step)
    {assertion : WorkflowAssertion}
    {timeoutMs :
      Option (BoundedNat minVerificationTimeoutMs maxVerificationTimeoutMs)}
    (isVerify : step.action = .verify assertion timeoutMs) :
    analyzeExpected parser.parseUrl workflow.workflowVariables assertion =
      none := by
  have noIssue := isReady.verifications
  simp only [analyzeWorkflowVerifications, List.flatMap_eq_nil_iff]
    at noIssue
  have noneHere :=
    noIssue (step, index) (List.mem_zipIdx_iff_getElem?.mpr atIndex)
  simp only [verificationStepIssues, isVerify, List.map_eq_nil_iff,
    verificationIssueCodes, List.append_eq_nil_iff] at noneHere
  cases isIssue :
      analyzeExpected parser.parseUrl workflow.workflowVariables
        assertion with
  | none => rfl
  | some code =>
      rw [isIssue] at noneHere
      cases noneHere.2

/-- A literal that a verify step expects without an issue. -/
theorem literalExpectation
    {target : ValueSourceTarget}
    {text : String}
    (noIssue :
      literalExpectationIssue parser.parseUrl target (.string text) = none)
    (isText : target = .verifyTextExpected ∨ target = .verifyUrlExpected) :
    isVerificationText text = true ∧
      (target = .verifyUrlExpected →
        isVerificationUrl parser.parseUrl text = true) := by
  have notValue : target ≠ .verifyValueExpected := by
    rcases isText with rfl | rfl
    · simp
    · simp
  have compatible : isLiteralCompatible target (.string text) = true := by
    rcases isText with rfl | rfl
    · rfl
    · rfl
  simp only [literalExpectationIssue, compatible, Bool.not_true,
    Bool.false_eq_true, if_false, notValue] at noIssue
  split at noIssue
  case isTrue => cases noIssue
  case isFalse notLong =>
    refine ⟨decide_eq_true (not_lt.mp notLong), ?_⟩
    intro isUrl
    rw [if_pos isUrl] at noIssue
    split at noIssue
    case h_1 normalized isNormal =>
      rw [isVerificationUrl, isNormal]
      rfl
    case h_2 => cases noIssue
    case h_3 => cases noIssue

/-- The check of an expectation that passed the analysis. -/
theorem checkExpectation_literal
    {target : ValueSourceTarget}
    {value : LiteralValue}
    (noIssue :
      literalExpectationIssue parser.parseUrl target value = none)
    (isText : target = .verifyTextExpected ∨ target = .verifyUrlExpected)
    {isValid : String → Bool}
    (accepts :
      ∀ text,
        isVerificationText text = true →
          (target = .verifyUrlExpected →
            isVerificationUrl parser.parseUrl text = true) →
          isValid text = true) :
    checkExpectation isValid
        ((createRuntimeValueResolver []).resolve (.literal value) target) =
      none := by
  have compatible : isLiteralCompatible target value = true := by
    by_cases isCompatible : isLiteralCompatible target value = true
    · exact isCompatible
    · simp [literalExpectationIssue, isCompatible] at noIssue
  rw [resolve_literal compatible]
  cases value with
  | string text =>
      obtain ⟨isShort, isUrl⟩ := literalExpectation noIssue isText
      simp [checkExpectation, accepts text isShort isUrl]
  | number value =>
      rcases isText with rfl | rfl
      · cases compatible
      · cases compatible
  | boolean value =>
      rcases isText with rfl | rfl
      · cases compatible
      · cases compatible

/-- Every value that a ready workflow names is resolved and accepted. -/
theorem IsReady.checkStepValue
    (isReady : IsReady parser workflow extraction approvals)
    {index : Nat}
    {step : WorkflowStep}
    (atIndex : workflow.steps[index]? = some step)
    (supportedStepTypes : List WorkflowStepType)
    (validateStep : WorkflowStep → Option EngineError) :
    checkStepValue
        (adapterChecks parser supportedStepTypes validateStep
          (visitedOrigins parser workflow))
        (createRuntimeValueResolver []) step =
      none := by
  have sources {source : ValueSource} {target : ValueSourceTarget}
      (isSource : step.valueSource = some (source, target)) :=
    isReady.isReadySource atIndex isSource
  cases actionIs : step.action with
  | navigate url =>
      obtain ⟨value, origin, rfl, pushed, visited⟩ :=
        isReady.navigate atIndex actionIs
      obtain ⟨parsedUrl, parsed, isHttp, noCredentials, rfl⟩ :=
        navigationOrigin_eq_some.mp pushed
      have accepted :
          validateNavigationUrl parser.parseUrl (js value)
              (visitedOrigins parser workflow) =
            .ok parsedUrl :=
        validateNavigationUrl_eq_ok.mpr
          ⟨parsed, isHttp, noCredentials, visited⟩
      have resolved :
          resolveTextWithResolver (.literal (.string value)) .navigateUrl
              (createRuntimeValueResolver []) =
            .ok value :=
        rfl
      simp [Engine.checkStepValue, actionIs, resolved, adapterChecks,
        accepted, refusalOf]
  | fill locator value =>
      have isReadySource :=
        @sources value .fillValue (by simp [WorkflowStep.valueSource, actionIs])
      cases isReadySource with
      | output outputName => simp [Engine.checkStepValue, actionIs]
      | @literal literal compatible =>
          cases literal with
          | string text =>
              simp [Engine.checkStepValue, actionIs, resolveTextWithResolver,
                resolve_literal compatible, errorOf]
          | number value => cases compatible
          | boolean value => cases compatible
  | select locator value =>
      have isReadySource :=
        @sources value .selectValue
          (by simp [WorkflowStep.valueSource, actionIs])
      cases isReadySource with
      | output outputName => simp [Engine.checkStepValue, actionIs]
      | @literal literal compatible =>
          cases literal with
          | string text =>
              simp [Engine.checkStepValue, actionIs,
                resolveSelectWithResolver, resolve_literal compatible,
                errorOf]
          | number value =>
              simp [Engine.checkStepValue, actionIs,
                resolveSelectWithResolver, resolve_literal compatible,
                errorOf]
          | boolean value => cases compatible
  | verify assertion timeoutMs =>
      have noIssue := isReady.verify atIndex actionIs
      cases assertion with
      | text locator matchMode operator expected =>
          have isReadySource :=
            @sources expected .verifyTextExpected
              (by simp [WorkflowStep.valueSource, actionIs])
          cases isReadySource with
          | output outputName => simp [Engine.checkStepValue, actionIs]
          | literal compatible =>
              have noLiteralIssue := noIssue
              simp only [analyzeExpected, expectedSource] at noLiteralIssue
              simp only [Engine.checkStepValue, actionIs]
              apply checkExpectation_literal noLiteralIssue (Or.inl rfl)
              intro text isShort _
              exact isShort
      | value locator operator expected =>
          have isReadySource :=
            @sources expected .verifyValueExpected
              (by simp [WorkflowStep.valueSource, actionIs])
          cases isReadySource with
          | output outputName => simp [Engine.checkStepValue, actionIs]
          | literal compatible =>
              simp [Engine.checkStepValue, actionIs,
                resolve_literal compatible, errorOf]
      | url matchMode operator expected =>
          have isReadySource :=
            @sources expected .verifyUrlExpected
              (by simp [WorkflowStep.valueSource, actionIs])
          cases isReadySource with
          | output outputName => simp [Engine.checkStepValue, actionIs]
          | literal compatible =>
              have noLiteralIssue := noIssue
              simp only [analyzeExpected, expectedSource] at noLiteralIssue
              simp only [Engine.checkStepValue, actionIs]
              apply checkExpectation_literal noLiteralIssue (Or.inr rfl)
              intro text _ isUrl
              exact isUrl rfl
      | visible locator => simp [Engine.checkStepValue, actionIs]
      | hidden locator => simp [Engine.checkStepValue, actionIs]
      | checked locator expected => simp [Engine.checkStepValue, actionIs]
  | click locator actionIntent => simp [Engine.checkStepValue, actionIs]
  | setChecked locator checked => simp [Engine.checkStepValue, actionIs]
  | wait durationMs => simp [Engine.checkStepValue, actionIs]
  | extract locator source outputName outputLabel timeoutMs =>
      simp [Engine.checkStepValue, actionIs]
  | approval message riskLevel timeoutMs =>
      simp [Engine.checkStepValue, actionIs]

variable {workflow : WorkflowDefinition}

/-- The reported origins pass the schema of a request and stay as they are. -/
theorem prepareAllowedOrigins_visited
    (someOrigin : visitedOrigins parser workflow ≠ [])
    (few : (visitedOrigins parser workflow).length ≤ maxReportedOrigins)
    (short :
      ∀ origin ∈ visitedOrigins parser workflow,
        origin.length ≤ maxReportedOriginLength) :
    prepareAllowedOrigins parser (visitedOrigins parser workflow) =
      .ok (visitedOrigins parser workflow) := by
  have parsesAll :
      (visitedOrigins parser workflow).mapM parseAllowedOrigin =
        some (visitedOrigins parser workflow) := by
    apply Collection.mapM_of_fixed
    intro origin visited
    have isOrigin := isOrigin_of_visited visited
    have positive : 1 ≤ origin.length :=
      List.length_pos_iff.mpr isOrigin.ne_nil
    have bounded := short origin visited
    simp only [parseAllowedOrigin, trimText_of_visible isOrigin.visible,
      hasLength]
    rw [if_pos]
    exact Bool.and_eq_true_iff.mpr
      ⟨decide_eq_true positive, decide_eq_true bounded⟩
  have isList :
      parseAllowedOrigins (visitedOrigins parser workflow) =
        some (visitedOrigins parser workflow) := by
    rw [parseAllowedOrigins,
      if_pos ⟨List.length_pos_iff.mpr someOrigin, few⟩]
    exact parsesAll
  rw [prepareAllowedOrigins, isList]
  apply normalizeAllowedOrigins_of_stable (nodup_distinctOrigins _)
  intro origin visited
  exact (isOrigin_of_visited visited).stable

theorem IsReady.checkStep
    {extraction : WorkflowExtractionAnalysis}
    {approvals : WorkflowApprovalAnalysis}
    (isReady : IsReady parser workflow extraction approvals)
    {supportedStepTypes : List WorkflowStepType}
    {validateStep : WorkflowStep → Option EngineError}
    (supportsAll : ∀ type, type ∈ supportedStepTypes)
    (acceptsAll : ∀ step, validateStep step = none)
    {step : WorkflowStep}
    (isStep : step ∈ workflow.steps) :
    checkStep
        (adapterChecks parser supportedStepTypes validateStep
          (visitedOrigins parser workflow))
        (createRuntimeValueResolver []) step =
      none := by
  obtain ⟨index, atIndex⟩ := List.mem_iff_getElem?.mp isStep
  have isSupported : supportedStepTypes.contains step.type = true := by
    simpa using supportsAll step.type
  rw [Engine.checkStep]
  split
  case isTrue => rfl
  case isFalse =>
    simp only [adapterChecks, isSupported, Bool.not_true, Bool.false_eq_true,
      if_false, acceptsAll, Option.none_or]
    exact isReady.checkStepValue atIndex supportedStepTypes validateStep

/-- The values `{ totalTimeoutMs: 300_000, stepTimeoutMs: 30_000 }`. -/
def defaultExecutionOptions : WorkflowEngineExecutionOptions :=
  { totalTimeoutMs :=
      { value := 300000
        atLeast := Nat.le_of_ble_eq_true rfl
        atMost := Nat.le_of_ble_eq_true rfl }
    stepTimeoutMs :=
      { value := 30000
        atLeast := Nat.le_of_ble_eq_true rfl
        atMost := Nat.le_of_ble_eq_true rfl }
    recoveryMode := .automaticSafeOnly }

/-- The preflight prepares a ready workflow. -/
theorem IsReady.preflight
    {extraction : WorkflowExtractionAnalysis}
    {approvals : WorkflowApprovalAnalysis}
    (isReady : IsReady parser workflow extraction approvals)
    (isExtraction : analyzeWorkflowExtraction workflow = some extraction)
    (isApprovals : analyzeWorkflowApprovals workflow = some approvals)
    (fits : ReportFits parser workflow)
    {dependencies : EngineDependencies}
    (hasCoordinator : dependencies.approvalCoordinator = true)
    {supportedStepTypes : List WorkflowStepType}
    {validateStep : WorkflowStep → Option EngineError}
    (supportsAll : ∀ type, type ∈ supportedStepTypes)
    (acceptsAll : ∀ step, validateStep step = none) :
    ∃ execution,
      preflightWorkflowExecution dependencies
          (preflightRequest parser workflow defaultExecutionOptions
            (visitedOrigins parser workflow) supportedStepTypes
            validateStep).input =
        some (.prepared execution) := by
  have origins :=
    prepareAllowedOrigins_visited isReady.origins fits.fewOrigins
      fits.shortOrigins
  have noRefusal :
      workflow.steps.findSome?
          (Engine.checkStep
            (adapterChecks parser supportedStepTypes validateStep
              (visitedOrigins parser workflow))
            (createRuntimeValueResolver [])) =
        none := by
    apply List.findSome?_eq_none_iff.mpr
    intro step isStep
    exact isReady.checkStep supportsAll acceptsAll isStep
  have runtimeValues :
      checkRuntimeValues workflow emptyInputs none = none := by
    simp [checkRuntimeValues, isReady.noSecrets, isReady.inputsValid]
  have coordinated :
      defaultExecutionOptions.recoveryMode ≠ .automaticSafeOnly →
        dependencies.recoveryCoordinator = true :=
    fun isOther => absurd rfl isOther
  have isInput :
      (preflightRequest parser workflow defaultExecutionOptions
          (visitedOrigins parser workflow) supportedStepTypes
          validateStep).input =
        { workflow := some workflow
          options := some defaultExecutionOptions
          verdicts :=
            { envelopeValid := true
              inputsValid := true
              inputsHaveBlockingIssues := false
              verificationsHaveIssues := false
              runtimeValues := none
              allowedOrigins := none
              stepSupport := none } } := by
    simp only [RuntimeRequest.input, preflightRequest, origins, refusalOf,
      Except.toOption, Option.getD_some, RuntimeRequest.valueResolver,
      Option.getD_none, Option.map_some, Option.bind_some, runtimeValues,
      isReady.inputs, isReady.verifications, List.isEmpty_nil, Bool.not_true,
      Option.isSome_some]
    rw [show emptyInputs.values = [] from rfl, noRefusal]
  rw [isInput, preflightWorkflowExecution]
  simp only [not_true_eq_false, if_false, dif_pos coordinated,
    Bool.false_eq_true]
  unfold preflightAnalyses
  split
  case h_1 notReturned =>
    rw [isExtraction] at notReturned
    cases notReturned
  case h_2 other isOther =>
    obtain rfl := Option.some.inj (isExtraction.symm.trans isOther)
    rw [if_neg (by simp [isReady.dataFlow])]
    split
    case h_1 notReturned =>
      rw [isApprovals] at notReturned
      cases notReturned
    case h_2 found isFound =>
      obtain rfl := Option.some.inj (isApprovals.symm.trans isFound)
      rw [dif_pos isReady.gates, dif_pos fun _ => hasCoordinator]
      exact ⟨_, rfl⟩

/-- What the report is relied on for. -/
structure ReadinessLaw
    (parser : UrlParser)
    (input : Option WorkflowDefinition) :
    Prop where
  returns : ∃ report, analyzeWorkflowRunReadiness parser input = some report
  /-- A ready workflow passes the preflight under the reported origins. -/
  preflight :
    ∀ report,
      analyzeWorkflowRunReadiness parser input = some report →
        report.ready = true →
        ∃ workflow,
          input = some workflow ∧
            ∀ (dependencies : EngineDependencies) supportedStepTypes
                validateStep,
              dependencies.approvalCoordinator = true →
                (∀ type, type ∈ supportedStepTypes) →
                (∀ step, validateStep step = none) →
                ∃ execution,
                  preflightWorkflowExecution dependencies
                      (preflightRequest parser workflow
                        defaultExecutionOptions report.allowedOrigins
                        supportedStepTypes validateStep).input =
                    some (.prepared execution)

/--
The report can be relied on exactly for the definitions whose report stays
within the bounds of its schemas; for every other definition the analysis
throws.
-/
theorem analyzeWorkflowRunReadiness_law
    (parser : UrlParser)
    (input : Option WorkflowDefinition) :
    ReadinessLaw parser input ↔
      ∀ workflow ∈ input, ReportFits parser workflow := by
  constructor
  · intro law workflow isInput
    have returned := law.returns
    rw [isInput] at returned
    exact analyzeWorkflowRunReadiness_isSome_iff.mp returned
  · intro fits
    cases input with
    | none =>
        constructor
        case returns => exact ⟨_, invalidDefinitionReport_parses⟩
        case preflight =>
          intro report isReport ready
          have isInvalid :
              analyzeWorkflowRunReadiness parser none =
                some invalidDefinitionReport :=
            invalidDefinitionReport_parses
          rw [← Option.some.inj (isInvalid.symm.trans isReport)] at ready
          cases ready
    | some workflow =>
        have reportFits := fits workflow rfl
        constructor
        case returns =>
          exact analyzeWorkflowRunReadiness_isSome_iff.mpr reportFits
        case preflight =>
          intro report isReport ready
          obtain ⟨extraction, approvals, isExtraction, isApprovals, -,
            rfl⟩ := analyzeWorkflowRunReadiness_eq_some.mp isReport
          have isReady := isReady_of_ready ready
          refine ⟨workflow, rfl, ?_⟩
          intro dependencies supportedStepTypes validateStep hasCoordinator
            supportsAll acceptsAll
          exact
            isReady.preflight isExtraction isApprovals reportFits
              hasCoordinator supportsAll acceptsAll

def exampleScheme : JsString := js "https://"

/-- `https://` and a host of small letters. -/
def isExampleAddress (text : JsString) : Bool :=
  exampleScheme.isPrefixOf text && exampleScheme.length < text.length &&
    (text.drop exampleScheme.length).all CodeUnit.isLower

def exampleAddress (text : JsString) : Url :=
  { protocol := js "https:"
    username := []
    password := []
    hostname := text.drop exampleScheme.length
    port := []
    pathname := js "/"
    search := []
    hash := []
    origin := text }

/-- A constructor that knows these addresses only. -/
def parseExampleAddress (text : JsString) : Option Url :=
  if isExampleAddress text then some (exampleAddress text) else none

theorem parseExampleAddress_eq_some
    {text : JsString}
    {url : Url}
    (parsed : parseExampleAddress text = some url) :
    isExampleAddress text = true ∧ exampleAddress text = url := by
  obtain ⟨isAddress, isUrl⟩ := Option.ite_none_right_eq_some.mp parsed
  exact ⟨isAddress, Option.some.inj isUrl⟩

theorem parseExampleAddress_empty : parseExampleAddress [] = none := by
  decide

theorem parseExampleAddress_stable
    (text : JsString)
    (url : Url)
    (parsed : parseExampleAddress text = some url)
    (isHttp : url.isHttp = true) :
    ∃ again,
      parseExampleAddress url.origin = some again ∧
        again.isBareOrigin = true ∧ again.origin = url.origin := by
  obtain ⟨isAddress, rfl⟩ := parseExampleAddress_eq_some parsed
  refine ⟨exampleAddress text, parsed, ?_, rfl⟩
  simp only [Url.isBareOrigin, isHttp, Bool.true_and]
  simp [exampleAddress]

theorem isVisible_of_isLower
    {symbol : CodeUnit}
    (isLower : CodeUnit.isLower symbol = true) :
    Policy.isVisible symbol = true := by
  have bounds :
      (unit 'a').val = 97 ∧ (unit 'z').val = 122 ∧
        (unit '!').val = 33 ∧ (unit '~').val = 126 := by
    decide
  simp only [CodeUnit.isLower, CodeUnit.within, Bool.and_eq_true,
    decide_eq_true_eq, Fin.le_def] at isLower
  simp only [Policy.isVisible, CodeUnit.within, Bool.and_eq_true, decide_eq_true_eq,
    Fin.le_def]
  omega

theorem exampleScheme_visible :
    exampleScheme.all Policy.isVisible = true := by
  decide

theorem parseExampleAddress_visible
    (text : JsString)
    (url : Url)
    (parsed : parseExampleAddress text = some url)
    (_ : url.isHttp = true)
    (symbol : CodeUnit)
    (listed : symbol ∈ url.origin) :
    Policy.isVisible symbol = true := by
  obtain ⟨isAddress, rfl⟩ := parseExampleAddress_eq_some parsed
  simp only [isExampleAddress, Bool.and_eq_true,
    List.isPrefixOf_iff_prefix, List.all_eq_true] at isAddress
  obtain ⟨⟨⟨host, isText⟩, -⟩, lower⟩ := isAddress
  have isOrigin : (exampleAddress text).origin = exampleScheme ++ host :=
    isText.symm
  rw [isOrigin] at listed
  rcases List.mem_append.mp listed with inScheme | inHost
  · exact List.all_eq_true.mp exampleScheme_visible symbol inScheme
  · apply isVisible_of_isLower
    apply lower
    rw [← isText, List.drop_left]
    exact inHost

def exampleUrlParser : UrlParser :=
  { parseUrl := parseExampleAddress
    empty_throws := parseExampleAddress_empty
    origin_stable := parseExampleAddress_stable
    origin_visible := parseExampleAddress_visible }

/-- Pairwise different names of small letters. -/
def exampleHost (index : Fin 33) : String :=
  String.ofList (List.replicate (index + 1) 'a')

theorem exampleHost_isName (index : Fin 33) :
    trim (exampleHost index) = exampleHost index ∧
      isNonEmptyTrimmed (exampleHost index) = true := by
  have isTrimmed : trim (exampleHost index) = exampleHost index := by
    apply trim_ofList
    intro letter listed
    rw [List.eq_of_mem_replicate listed]
    decide
  refine ⟨isTrimmed, ?_⟩
  rw [isNonEmptyTrimmed, isTrimmed, exampleHost, List.replicate_succ]
  simp [utf16Length]

theorem exampleHost_injective : Function.Injective exampleHost := by
  intro first second same
  have sameLetters := congrArg String.toList same
  rw [exampleHost, exampleHost, String.toList_ofList, String.toList_ofList]
    at sameLetters
  have sameLength := congrArg List.length sameLetters
  simp only [List.length_replicate] at sameLength
  omega

def exampleVisitName (index : Fin 33) : NonEmptyString :=
  { text := exampleHost index
    trimmed := (exampleHost_isName index).1
    nonEmpty := (exampleHost_isName index).2 }

/-- A step that visits a site of its own. -/
def exampleVisit (index : Fin 33) : WorkflowStep :=
  { id := exampleVisitName index
    name := exampleVisitName index
    action :=
      .navigate (.literal (.string ("https://" ++ exampleHost index)))
    refined := rfl }

def exampleVisits : List WorkflowStep :=
  (List.finRange 33).map exampleVisit

theorem exampleVisits_ne_nil : exampleVisits ≠ [] := by
  simp [exampleVisits]

theorem exampleVisits_ids :
    (exampleVisits.map WorkflowStep.id).Nodup := by
  rw [exampleVisits, List.map_map]
  refine (List.nodup_finRange 33).map ?_
  intro first second sameName
  exact exampleHost_injective (congrArg NonEmptyString.text sameName)

/-- A definition that visits one site more than a report may name. -/
def exampleTour : WorkflowDefinition :=
  { exampleWorkflow with
    steps := exampleVisits
    stepsNonEmpty := exampleVisits_ne_nil
    stepIdsUnique := exampleVisits_ids }

def exampleOrigin (index : Fin 33) : JsString :=
  exampleScheme ++ List.replicate (index + 1) (unit 'a')

theorem exampleOrigin_injective : Function.Injective exampleOrigin := by
  intro first second same
  have sameLength := congrArg List.length same
  simp only [exampleOrigin, List.length_append, List.length_replicate]
    at sameLength
  omega

theorem js_exampleHost (index : Fin 33) :
    js ("https://" ++ exampleHost index) = exampleOrigin index := by
  have isHost :
      (exampleHost index).toList = List.replicate (index + 1) 'a' :=
    String.toList_ofList
  have isSmall : 'a'.toNat < 0x10000 := by decide
  rw [js_eq, String.toList_append, List.flatMap_append, isHost,
    List.flatMap_replicate]
  simp only [characterUnits, isSmall, ↓reduceIte]
  rw [List.flatten_replicate_singleton]
  rfl

theorem exampleOrigin_visited (index : Fin 33) :
    exampleOrigin index ∈ visitedOrigins exampleUrlParser exampleTour := by
  have isAddress : isExampleAddress (exampleOrigin index) = true := by
    have isLower : CodeUnit.isLower (unit 'a') = true := by decide
    simp [isExampleAddress, exampleOrigin, isLower]
  have pushed :
      navigationOrigin exampleUrlParser ("https://" ++ exampleHost index) =
        some (exampleOrigin index) := by
    rw [navigationOrigin_eq_some, js_exampleHost]
    exact ⟨exampleAddress _, if_pos isAddress, rfl, ⟨rfl, rfl⟩, rfl⟩
  exact
    mem_distinctOrigins.mpr
      (mem_stepFindings_origins.mpr
        ⟨exampleVisit index, List.mem_map_of_mem (List.mem_finRange index), _,
          rfl, pushed⟩)

theorem exampleTour_visitedOrigins :
    maxReportedOrigins <
      (visitedOrigins exampleUrlParser exampleTour).length := by
  have distinct : ((List.finRange 33).map exampleOrigin).Nodup :=
    (List.nodup_finRange 33).map exampleOrigin_injective
  have visited :
      (List.finRange 33).map exampleOrigin ⊆
        visitedOrigins exampleUrlParser exampleTour := by
    intro origin listed
    obtain ⟨index, -, rfl⟩ := List.mem_map.mp listed
    exact exampleOrigin_visited index
  have counted := (List.subperm_of_subset distinct visited).length_le
  rw [List.length_map, List.length_finRange] at counted
  exact counted

/-- The report of a tour of 33 sites is not returned. -/
theorem not_readinessLaw_exampleTour :
    ¬ReadinessLaw exampleUrlParser (some exampleTour) := by
  intro law
  have fits := analyzeWorkflowRunReadiness_isSome_iff.mp law.returns
  exact absurd fits.fewOrigins (Nat.not_le.mpr exampleTour_visitedOrigins)

end TaskTwin.Engine
