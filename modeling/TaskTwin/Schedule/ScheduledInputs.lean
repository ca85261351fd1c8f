import TaskTwin.Engine.DataFlow
import TaskTwin.Policy.Evaluation

/-!
# Readiness of a schedule

What is checked before a schedule is created: the version, the definition, the
inputs, the steps, the runner and the policy.  A report is ready when no check
has found an issue.
-/

namespace TaskTwin.Schedule

open Schema Text Workflow

inductive ScheduleReadinessIssueCode where
  | workflowVersionNotPublished
  | workflowDefinitionInvalid
  | runtimeInputRequired
  | localSecretStoreNotReady
  | localSecretAliasMissing
  | approvalStepForbidden
  | runnerNotInWorkspace
  | runnerRevoked
  | policyDenied
  | policyRequiresApproval
  | workflowVersionUnavailable
  deriving DecidableEq, Repr

structure ScheduleReadinessIssue where
  code : ScheduleReadinessIssueCode
  message : String
  stepId : Option NonEmptyString
  stepIndex : Option Nat
  deriving DecidableEq, Repr

/-- An issue that is about no step. -/
def issueOf
    (code : ScheduleReadinessIssueCode)
    (message : String) :
    ScheduleReadinessIssue :=
  { code, message, stepId := none, stepIndex := none }

def lifecycleStatusText : WorkflowLifecycleStatus → String
  | .draft => "draft"
  | .testing => "testing"
  | .published => "published"
  | .archived => "archived"

/-- `checkVersionStatus`; a status that does not parse is `none`. -/
def checkVersionStatus
    (status : Option WorkflowLifecycleStatus) :
    Option ScheduleReadinessIssue :=
  match status with
  | none =>
      some
        (issueOf .workflowDefinitionInvalid
          "Workflow version status is invalid.")
  | some .published => none
  | some status =>
      some
        (issueOf .workflowVersionNotPublished
          ("Workflow version status is '" ++ lifecycleStatusText status ++
            "'; only 'published' versions can be scheduled."))

/-- `checkDefinition`; a definition that does not parse is `none`. -/
def checkDefinition
    (definition : Option WorkflowDefinition) :
    Option ScheduleReadinessIssue :=
  match definition with
  | none =>
      some
        (issueOf .workflowDefinitionInvalid "Workflow definition is invalid.")
  | some _ => none

inductive LocalSecretStoreStatus where
  | ready
  | locked
  | unavailable
  | corrupted
  deriving DecidableEq, Repr

/-- `localSecrets`. -/
structure LocalSecrets where
  capabilityAvailable : Bool
  status : LocalSecretStoreStatus
  synchronized : Bool
  aliases : List String
  deriving DecidableEq, Repr

/-- What one issue of the input analysis says about a schedule. -/
def inputRequiredIssue (issue : WorkflowInputIssue) : Option ScheduleReadinessIssue :=
  let required (message : String) : ScheduleReadinessIssue :=
    { code := .runtimeInputRequired
      message
      stepId := issue.step.map Prod.fst
      stepIndex := issue.step.map Prod.snd }
  if issue.severity ≠ .blocking then
    none
  else
    match issue.code with
    | .unknownVariableReference | .incompatibleVariableType =>
        some
          (required
            ("Workflow requires a runtime variable '" ++
              (issue.variableName.map Identifier.text).getD "unknown" ++
                "' that cannot be resolved for scheduled execution."))
    | .incompatibleLiteral =>
        some (required "Workflow step has a literal that cannot be resolved.")
    -- Secrets in the wrong place are passed over.
    | _ => none

/-- The secrets that are required are those of the local store. -/
def checkLocalSecrets
    (required : List WorkflowSecretRequirement)
    (localSecrets : Option LocalSecrets) :
    Option ScheduleReadinessIssue :=
  let notReady :=
    some
      (issueOf .localSecretStoreNotReady
        "The selected Runner Local Secret Store is not ready and synchronized.")
  if required.isEmpty then
    none
  else
    match localSecrets with
    | none => notReady
    | some store =>
        if !store.capabilityAvailable || store.status != .ready ||
            !store.synchronized then
          notReady
        else if required.any fun requirement =>
            !store.aliases.contains requirement.secretName.text then
          some
            (issueOf .localSecretAliasMissing
              "The selected Runner is missing at least one required secret alias.")
        else
          none

def checkNoInputsRequired
    (workflow : WorkflowDefinition)
    (localSecrets : Option LocalSecrets) :
    Option ScheduleReadinessIssue :=
  let analysis := analyzeWorkflowInputs workflow
  (analysis.issues.findSome? inputRequiredIssue).or
    (checkLocalSecrets analysis.secretRequirements localSecrets)

def checkNoForbiddenSteps
    (workflow : WorkflowDefinition) :
    Option ScheduleReadinessIssue :=
  workflow.steps.zipIdx.findSome? fun (step, stepIndex) =>
    if step.type = .approval then
      some
        { code := .approvalStepForbidden
          message :=
            "Workflow contains an Approval Step which requires human intervention and cannot be scheduled."
          stepId := some step.id
          stepIndex := some stepIndex }
    else
      none

def checkRunnerWorkspace
    (runnerWorkspaceId : Option String)
    (targetWorkspaceId : String) :
    Option ScheduleReadinessIssue :=
  match runnerWorkspaceId with
  | none =>
      some
        (issueOf .workflowVersionUnavailable
          "Runner workspace membership could not be verified.")
  | some runnerWorkspaceId =>
      if runnerWorkspaceId ≠ targetWorkspaceId then
        some
          (issueOf .runnerNotInWorkspace
            "Selected Runner belongs to a different Workspace.")
      else
        none

def checkRunnerRevoked (revokedAt : Option Nat) : Option ScheduleReadinessIssue :=
  revokedAt.map fun _ =>
    issueOf .runnerRevoked "Selected Runner has been revoked."

variable (platform : Policy.Platform)

/-- What one issue of the policy says about a schedule. -/
def policyReadinessIssue
    (issue : Policy.PolicyEvaluationIssue) :
    ScheduleReadinessIssue :=
  { code :=
      if issue.code = .actionDenied ∨ issue.code = .originBlocked ∨
          issue.code = .httpOriginDenied then
        .policyDenied
      else
        .policyRequiresApproval
    message := "Policy issue: " ++ issue.code.text
    stepId := issue.stepId
    stepIndex := issue.stepIndex }

structure SchedulePolicyResult where
  overallDecision : Policy.PolicyDecision
  issues : List ScheduleReadinessIssue
  deriving DecidableEq, Repr

/-- `evaluateSchedulePolicy`; `none` when the evaluation throws. -/
def evaluateSchedulePolicy
    (policy : Option Policy.WorkspaceExecutionPolicyDefinition)
    (workflow : WorkflowDefinition)
    (policyDigest workflowDigest : JsString) :
    Option SchedulePolicyResult :=
  match policy.bind fun policy => policy.parse platform with
  | none =>
      some
        { overallDecision := .deny
          issues :=
            [issueOf .policyDenied "Current execution policy is invalid."] }
  | some policy =>
      (Policy.evaluateWorkflowPolicy platform
        { policy, workflow, policyDigest, workflowDigest }).map fun result =>
          { overallDecision := result.overallDecision
            issues :=
              (result.issues.filter fun issue =>
                issue.severity == .blocking).map policyReadinessIssue }

/-- What does not parse is `none`. -/
structure ScheduleCreationReadinessInput where
  workflowVersionStatus : Option WorkflowLifecycleStatus
  workflowDefinition : Option WorkflowDefinition
  runnerWorkspaceId : Option String
  targetWorkspaceId : String
  runnerRevokedAt : Option Nat
  executionPolicy : Option Policy.WorkspaceExecutionPolicyDefinition
  executionPolicyDigest : JsString
  workflowDigest : JsString
  localSecrets : Option LocalSecrets

structure ScheduleReadinessReport where
  ready : Bool
  issues : List ScheduleReadinessIssue
  deriving DecidableEq, Repr

/-- `analyzeScheduleCreationReadiness`; `none` when the policy evaluation
throws. -/
def analyzeScheduleCreationReadiness
    (input : ScheduleCreationReadinessInput) :
    Option ScheduleReadinessReport :=
  let parsingIssues :=
    (checkVersionStatus input.workflowVersionStatus).toList ++
      (checkDefinition input.workflowDefinition).toList
  match input.workflowDefinition with
  | none => some { ready := false, issues := parsingIssues }
  | some workflow =>
      (evaluateSchedulePolicy platform input.executionPolicy workflow
        input.executionPolicyDigest input.workflowDigest).map fun policyResult =>
          let issues :=
            parsingIssues ++
              (checkNoInputsRequired workflow input.localSecrets).toList ++
              (checkNoForbiddenSteps workflow).toList ++
              (checkRunnerWorkspace input.runnerWorkspaceId
                input.targetWorkspaceId).toList ++
              (checkRunnerRevoked input.runnerRevokedAt).toList ++
              policyResult.issues
          { ready := issues.isEmpty, issues }

variable {platform}

/-- A ready report is about a workflow whose inputs and steps are accepted. -/
theorem checks_of_ready
    {input : ScheduleCreationReadinessInput}
    {report : ScheduleReadinessReport}
    (analyzed :
      analyzeScheduleCreationReadiness platform input = some report)
    (ready : report.ready = true) :
    ∃ workflow,
      input.workflowDefinition = some workflow ∧
        checkNoInputsRequired workflow input.localSecrets = none ∧
        checkNoForbiddenSteps workflow = none := by
  cases isWorkflow : input.workflowDefinition with
  | none =>
      simp only [analyzeScheduleCreationReadiness, isWorkflow] at analyzed
      cases analyzed
      cases ready
  | some workflow =>
      simp only [analyzeScheduleCreationReadiness, isWorkflow] at analyzed
      obtain ⟨policyResult, -, rfl⟩ := Option.map_eq_some_iff.mp analyzed
      have noIssue := List.isEmpty_iff.mp ready
      simp only [List.append_eq_nil_iff, Option.toList_eq_nil_iff] at noIssue
      obtain ⟨⟨⟨⟨⟨-, inputs⟩, steps⟩, -⟩, -⟩, -⟩ := noIssue
      exact ⟨workflow, rfl, inputs, steps⟩

end TaskTwin.Schedule

/-! ## The inputs of a scheduled run -/

namespace TaskTwin.Schedule

open Schema Workflow Engine

/-- `inputs: { schemaVersion: 1, values: {} }`. -/
def scheduledSubmission : WorkflowRunInputSubmission :=
  { values := []
    namesUnique := List.nodup_nil }

/-- `acquireLocalSecretRuntime`, with the secrets that a lease holds for the
requirements. -/
def acquireLocalSecretRuntime
    (required : List WorkflowSecretRequirement)
    (secrets : Identifier → String) :
    WorkflowRuntimeValueResolver :=
  let unset := createRuntimeValueResolver []
  let leased (name : Identifier) : Bool :=
    required.any fun requirement => requirement.secretName == name
  { hasVariable := unset.hasVariable
    hasSecret := leased
    resolve := fun source target =>
      match source with
      | .secret name =>
          if leased name then .ok (.string (secrets name))
          else .error (thrown .secretResolutionUnavailable)
      | _ => unset.resolve source target }

/-- The resolver of a scheduled run: there is one when it needs secrets. -/
def scheduledResolver
    (workflow : WorkflowDefinition)
    (secrets : Identifier → String) :
    Option WorkflowRuntimeValueResolver :=
  let required := (analyzeWorkflowInputs workflow).secretRequirements
  if required.isEmpty then none
  else some (acquireLocalSecretRuntime required secrets)

/-- What the preflight validates about the inputs and the data flow. -/
structure ValidatesInputs
    (workflow : WorkflowDefinition)
    (submission : WorkflowRunInputSubmission)
    (externalResolver : Option WorkflowRuntimeValueResolver) :
    Prop where
  inputs : (analyzeWorkflowInputs workflow).hasBlockingIssues = false
  dataFlow :
    ∃ analysis,
      analyzeWorkflowExtraction workflow = some analysis ∧
        analysis.hasBlockingIssues = false
  runtimeValues :
    checkRuntimeValues workflow submission externalResolver = none
  /-- What no step produces is resolved before the run. -/
  resolved :
    ∀ located ∈ findWorkflowValueSources workflow,
      (∀ outputName, located.source ≠ .output outputName) →
      ∃ value,
        resolveForStep located.source located.target
            (externalResolver.getD
              (createRuntimeValueResolver submission.values)) =
          .ok value

/-- Every output is produced once, before it is read, with a type that fits. -/
structure OutputsInOrder (workflow : WorkflowDefinition) : Prop where
  supported :
    ∀ step ∈ workflow.steps, ∀ locator source outputName outputLabel timeoutMs,
      step.action =
        .extract locator source outputName outputLabel timeoutMs →
      outputTypeForExtractStep source ≠ none
  distinct : ((defineWorkflowOutputs workflow).map (·.name)).Nodup
  ordered :
    ∀ located ∈ findWorkflowValueSources workflow, ∀ outputName,
      located.source = .output outputName →
      ∃ output ∈ defineWorkflowOutputs workflow,
        output.name = outputName ∧
          output.producerStepIndex < located.stepIndex ∧
          isOutputTypeCompatible located.target output.valueType = true
  /-- The steps that produce or read outputs have identifiers of a bounded
  length. -/
  identified :
    (∀ output ∈ defineWorkflowOutputs workflow,
      isTrimmedWithin maxStepIdLength output.producerStepId.text = true) ∧
      ∀ located ∈ findWorkflowValueSources workflow, ∀ outputName,
        located.source = .output outputName →
        isTrimmedWithin maxStepIdLength located.stepId.text = true

variable {workflow : WorkflowDefinition}

theorem outputOfStep_index
    {step : WorkflowStep}
    {stepIndex : Nat}
    {output : WorkflowOutputDefinition}
    (defined : outputOfStep step stepIndex = some output) :
    output.producerStepIndex = stepIndex := by
  unfold outputOfStep at defined
  split at defined
  · obtain ⟨valueType, -, rfl⟩ := Option.map_eq_some_iff.mp defined
    rfl
  · cases defined

/-- Outputs are listed in the order of the steps that produce them. -/
theorem defineWorkflowOutputs_ascend (workflow : WorkflowDefinition) :
    (defineWorkflowOutputs workflow).Pairwise fun before after =>
      before.producerStepIndex < after.producerStepIndex := by
  have ascend :
      workflow.steps.zipIdx.Pairwise fun before after =>
        before.2 < after.2 := by
    rw [List.pairwise_iff_getElem]
    intro first second firstBelow secondBelow isBefore
    simpa using isBefore
  apply ascend.filterMap
  intro before after isBefore output defined output' defined'
  have index := outputOfStep_index defined
  have index' := outputOfStep_index defined'
  rw [index, index']
  exact isBefore

theorem producerIssues_blocking
    {outputs : List WorkflowOutputDefinition}
    {step : WorkflowStep}
    {stepIndex : Nat}
    {issue : ExtractionAnalysisIssue}
    (listed : issue ∈ producerIssues outputs step stepIndex) :
    issue.severity = .blocking := by
  unfold producerIssues at listed
  split at listed
  · dsimp only at listed
    split at listed
    · obtain rfl := List.mem_singleton.mp listed
      rfl
    · split at listed
      · obtain rfl := List.mem_singleton.mp listed
        rfl
      · cases listed
  · cases listed

theorem unusedIssues_warning
    {usages : List WorkflowOutputUsage}
    {output : WorkflowOutputDefinition}
    {issue : ExtractionAnalysisIssue}
    (listed : issue ∈ unusedIssues usages output) :
    issue.severity = .warning ∧ issue.stepId = output.producerStepId := by
  unfold unusedIssues at listed
  split at listed
  · cases listed
  · obtain rfl := List.mem_singleton.mp listed
    exact ⟨rfl, rfl⟩

/-- The extract steps have no issue when they are supported and name their
outputs apart. -/
theorem producerIssues_empty_iff :
    (∀ step stepIndex, workflow.steps[stepIndex]? = some step →
      producerIssues (defineWorkflowOutputs workflow) step stepIndex = []) ↔
      (∀ step ∈ workflow.steps,
        ∀ locator source outputName outputLabel timeoutMs,
          step.action =
            .extract locator source outputName outputLabel timeoutMs →
          outputTypeForExtractStep source ≠ none) ∧
        ((defineWorkflowOutputs workflow).map (·.name)).Nodup := by
  constructor
  · intro noIssue
    constructor
    · intro step isStep locator source outputName outputLabel timeoutMs
        isExtract unsupported
      obtain ⟨stepIndex, atIndex⟩ := List.mem_iff_getElem?.mp isStep
      have empty := noIssue step stepIndex atIndex
      simp [producerIssues, isExtract, unsupported] at empty
    · rw [List.Nodup, List.pairwise_map]
      apply (defineWorkflowOutputs_ascend workflow).imp_of_mem
      intro before after isBefore isAfter earlier sameName
      obtain ⟨step, atIndex, defined⟩ :=
        defineWorkflowOutputs_index workflow isAfter
      have empty := noIssue step after.producerStepIndex atIndex
      unfold outputOfStep at defined
      split at defined
      case h_2 => cases defined
      case h_1 locator source outputName outputLabel timeoutMs isExtract =>
        obtain ⟨valueType, typed, isOutput⟩ :=
          Option.map_eq_some_iff.mp defined
        have isName : after.name = outputName := by rw [← isOutput]
        have repeated :
            ((defineWorkflowOutputs workflow).any fun output =>
              output.name == outputName &&
                output.producerStepIndex < after.producerStepIndex) =
              true := by
          rw [List.any_eq_true]
          exact ⟨before, isBefore, by simp [sameName, isName, earlier]⟩
        simp [producerIssues, isExtract, typed, repeated] at empty
  · rintro ⟨supported, distinct⟩ step stepIndex atIndex
    unfold producerIssues
    split
    case h_2 => rfl
    case h_1 locator source outputName outputLabel timeoutMs isExtract =>
      cases typed : outputTypeForExtractStep source with
      | none =>
          exact absurd typed
            (supported step (List.mem_of_getElem? atIndex) _ _ _ _ _ isExtract)
      | some valueType =>
          apply if_neg
          intro repeated
          obtain ⟨other, isOther, isRepeated⟩ := List.any_eq_true.mp repeated
          simp only [Bool.and_eq_true, beq_iff_eq, decide_eq_true_eq] at isRepeated
          obtain ⟨definition, defined, isName, -⟩ :=
            outputOfStep_extract isExtract typed stepIndex
          have isDefinition :
              definition ∈ defineWorkflowOutputs workflow := by
            rw [defineWorkflowOutputs, List.mem_filterMap]
            exact ⟨(step, stepIndex),
              List.mem_zipIdx_iff_getElem?.mpr atIndex, defined⟩
          have same :=
            List.inj_on_of_nodup_map distinct isOther isDefinition
              (isRepeated.1.trans isName.symm)
          rw [same, outputOfStep_index defined] at isRepeated
          exact absurd isRepeated.2 (lt_irrefl _)

/-- The consumption of an output at a value source. -/
def usageAt
    (located : LocatedValueSource)
    (outputName : Identifier) :
    WorkflowOutputUsage :=
  { outputName
    consumerStepId := located.stepId
    consumerStepIndex := located.stepIndex
    target := located.target }

theorem outputUsage_eq_some
    {located : LocatedValueSource}
    {usage : WorkflowOutputUsage}
    (isUsage : outputUsage located = some usage) :
    ∃ outputName,
      located.source = .output outputName ∧
        usageAt located outputName = usage := by
  unfold outputUsage at isUsage
  split at isUsage
  case h_1 outputName isOutput =>
    exact ⟨outputName, isOutput, Option.some.inj isUsage⟩
  case h_2 => cases isUsage

/-- A source that reads an output has no issue when the output fits. -/
theorem usageIssues_empty_iff
    {outputs : List WorkflowOutputDefinition}
    (distinct : (outputs.map (·.name)).Nodup)
    (usage : WorkflowOutputUsage) :
    usageIssues outputs usage = [] ↔
      ∃ output ∈ outputs,
        output.name = usage.outputName ∧
          output.producerStepIndex < usage.consumerStepIndex ∧
          isOutputTypeCompatible usage.target output.valueType = true := by
  constructor
  · intro noIssue
    obtain ⟨producer, readsOutput⟩ := readsOutput_of_no_issue noIssue
    refine ⟨producer, List.mem_of_find?_eq_some readsOutput.isProducer, ?_,
      readsOutput.before, ?_⟩
    · simpa using List.find?_some readsOutput.isProducer
    · rw [isOutputTypeCompatible, Bool.and_eq_true, bne_iff_ne]
      exact ⟨readsOutput.notNavigate, readsOutput.accepted⟩
  · rintro ⟨output, isOutput, sameName, before, compatible⟩
    have isProducer :
        outputs.find? (fun output => output.name == usage.outputName) =
          some output := by
      cases found :
          outputs.find? fun output => output.name == usage.outputName with
      | none =>
          have notNamed := List.find?_eq_none.mp found output isOutput
          simp [sameName] at notNamed
      | some other =>
          have otherName : other.name = usage.outputName := by
            simpa using List.find?_some found
          rw [List.inj_on_of_nodup_map distinct
            (List.mem_of_find?_eq_some found) isOutput
            (otherName.trans sameName.symm)]
    have notNavigate : usage.target ≠ .navigateUrl := by
      intro isNavigate
      rw [isNavigate] at compatible
      cases compatible
    have notSelf : output.producerStepIndex ≠ usage.consumerStepIndex := by
      omega
    have notLater : ¬usage.consumerStepIndex < output.producerStepIndex := by
      omega
    simp [usageIssues, notNavigate, isProducer, notSelf, notLater, compatible]

theorem inOrder_of_dataFlow
    {analysis : WorkflowExtractionAnalysis}
    (analyzed : analyzeWorkflowExtraction workflow = some analysis)
    (notBlocking : analysis.hasBlockingIssues = false) :
    OutputsInOrder workflow := by
  simp only [analyzeWorkflowExtraction] at analyzed
  split at analyzed
  case isFalse => cases analyzed
  case isTrue parses =>
    obtain rfl := Option.some.inj analyzed
    simp only [WorkflowExtractionAnalysis.parses, Bool.and_eq_true,
      List.all_eq_true] at parses
    obtain ⟨⟨producersIdentified, consumersIdentified⟩, -⟩ := parses
    rw [List.any_eq_false] at notBlocking
    have producers :
        ∀ step stepIndex, workflow.steps[stepIndex]? = some step →
          producerIssues (defineWorkflowOutputs workflow) step stepIndex =
            [] := by
      intro step stepIndex atIndex
      rw [List.eq_nil_iff_forall_not_mem]
      intro issue isIssue
      apply notBlocking issue
      · rw [List.mem_append, List.mem_append]
        exact Or.inl (Or.inl (List.mem_flatMap.mpr
          ⟨(step, stepIndex), List.mem_zipIdx_iff_getElem?.mpr atIndex,
            isIssue⟩))
      · rw [producerIssues_blocking isIssue]
        rfl
    obtain ⟨supported, distinct⟩ := producerIssues_empty_iff.mp producers
    constructor
    · exact supported
    · exact distinct
    · intro located isSource outputName isOutput
      have isUsage :
          outputUsage located = some (usageAt located outputName) := by
        rw [outputUsage, isOutput, usageAt]
      apply
        (usageIssues_empty_iff distinct (usageAt located outputName)).mp
      rw [List.eq_nil_iff_forall_not_mem]
      intro issue isIssue
      apply notBlocking issue
      · rw [List.mem_append, List.mem_append]
        exact Or.inl (Or.inr (List.mem_flatMap.mpr
          ⟨_, List.mem_filterMap.mpr ⟨located, isSource, isUsage⟩,
            isIssue⟩))
      · rw [usageIssues_blocking isIssue]
        rfl
    · refine ⟨producersIdentified, ?_⟩
      intro located isSource outputName isOutput
      apply consumersIdentified (usageAt located outputName)
      rw [List.mem_filterMap]
      exact ⟨located, isSource, by rw [outputUsage, isOutput, usageAt]⟩

theorem dataFlow_of_inOrder
    (inOrder : OutputsInOrder workflow) :
    ∃ analysis,
      analyzeWorkflowExtraction workflow = some analysis ∧
        analysis.hasBlockingIssues = false := by
  have noProducerIssue :=
    flatMap_producerIssues workflow (defineWorkflowOutputs workflow)
      (producerIssues_empty_iff.mpr ⟨inOrder.supported, inOrder.distinct⟩)
  have noUsageIssue :
      (((findWorkflowValueSources workflow).filterMap outputUsage).flatMap
        (usageIssues (defineWorkflowOutputs workflow))) = [] := by
    rw [List.flatMap_eq_nil_iff]
    intro usage isUsage
    obtain ⟨located, isSource, isOutput⟩ := List.mem_filterMap.mp isUsage
    obtain ⟨outputName, source, rfl⟩ := outputUsage_eq_some isOutput
    exact
      (usageIssues_empty_iff inOrder.distinct _).mpr
        (inOrder.ordered located isSource outputName source)
  refine ⟨_, if_pos ?_, ?_⟩
  · simp only [WorkflowExtractionAnalysis.parses, Bool.and_eq_true,
      List.all_eq_true, noProducerIssue, noUsageIssue, List.nil_append]
    refine ⟨⟨inOrder.identified.1, ?_⟩, ?_⟩
    · intro usage isUsage
      obtain ⟨located, isSource, isOutput⟩ := List.mem_filterMap.mp isUsage
      obtain ⟨outputName, source, rfl⟩ := outputUsage_eq_some isOutput
      exact inOrder.identified.2 located isSource outputName source
    · intro issue isIssue
      obtain ⟨output, isOutput, listed⟩ := List.mem_flatMap.mp isIssue
      rw [(unusedIssues_warning listed).2]
      exact inOrder.identified.1 output isOutput
  · simp only [noProducerIssue, noUsageIssue, List.nil_append]
    rw [List.any_eq_false]
    intro issue isIssue
    obtain ⟨output, -, listed⟩ := List.mem_flatMap.mp isIssue
    rw [(unusedIssues_warning listed).1]
    decide

/-- The data flow passes when the outputs are in order. -/
theorem dataFlow_iff :
    (∃ analysis,
      analyzeWorkflowExtraction workflow = some analysis ∧
        analysis.hasBlockingIssues = false) ↔
      OutputsInOrder workflow := by
  constructor
  · rintro ⟨analysis, analyzed, notBlocking⟩
    exact inOrder_of_dataFlow analyzed notBlocking
  · exact dataFlow_of_inOrder

end TaskTwin.Schedule
