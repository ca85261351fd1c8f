import TaskTwin.Workflow.Extraction

/-!
# Approval steps and the steps they gate

An approval step gates the step that directly follows it.  The analysis lists
the bindings of a workflow, and the coordinator is asked about one binding.
-/

namespace TaskTwin.Workflow

open Schema

inductive ApprovalRequestStatus where
  | pending
  | approved
  | rejected
  | expired
  | cancelled
  | invalidated
  deriving DecidableEq, Repr

inductive ApprovalDecision where
  | approved
  | rejected
  | expired
  | cancelled
  | invalidated
  deriving DecidableEq, Repr

/-- The request status that records a decision. -/
def ApprovalDecision.status : ApprovalDecision → ApprovalRequestStatus
  | .approved => .approved
  | .rejected => .rejected
  | .expired => .expired
  | .cancelled => .cancelled
  | .invalidated => .invalidated

structure ApprovalBinding where
  approvalStepId : NonEmptyString
  approvalStepIndex : Nat
  gatedStepId : NonEmptyString
  gatedStepIndex : Nat
  riskLevel : ApprovalRiskLevel
  timeoutMs : BoundedNat minApprovalTimeoutMs maxApprovalTimeoutMs
  deriving DecidableEq, Repr

/-- `APPROVAL_STEP_ORPHANED`: an approval step that gates nothing. -/
structure ApprovalAnalysisIssue where
  stepId : NonEmptyString
  stepIndex : Nat
  deriving DecidableEq, Repr

structure WorkflowApprovalAnalysis where
  bindings : List ApprovalBinding
  issues : List ApprovalAnalysisIssue
  hasBlockingIssues : Bool
  deriving Repr

def maxApprovalIssues : Nat := 1000

/-- `WorkflowApprovalAnalysisSchema`. -/
def WorkflowApprovalAnalysis.parses
    (analysis : WorkflowApprovalAnalysis) :
    Bool :=
  analysis.bindings.length ≤ maxApprovalIssues &&
    analysis.issues.length ≤ maxApprovalIssues &&
    analysis.bindings.all (fun binding =>
      isTrimmedWithin maxStepIdLength binding.approvalStepId.text &&
        isTrimmedWithin maxStepIdLength binding.gatedStepId.text) &&
    analysis.issues.all fun issue =>
      isTrimmedWithin maxStepIdLength issue.stepId.text

/-- The binding of an approval step that has a following step. -/
def bindingAt
    (workflow : WorkflowDefinition)
    (step : WorkflowStep)
    (stepIndex : Nat) :
    Option ApprovalBinding :=
  match step.action, workflow.steps[stepIndex + 1]? with
  | .approval _ riskLevel timeoutMs, some gatedStep =>
      some
        { approvalStepId := step.id
          approvalStepIndex := stepIndex
          gatedStepId := gatedStep.id
          gatedStepIndex := stepIndex + 1
          riskLevel
          timeoutMs }
  | _, _ => none

/-- The issue of an approval step that has no following step. -/
def orphanAt
    (workflow : WorkflowDefinition)
    (step : WorkflowStep)
    (stepIndex : Nat) :
    Option ApprovalAnalysisIssue :=
  match step.action, workflow.steps[stepIndex + 1]? with
  | .approval .., none => some { stepId := step.id, stepIndex }
  | _, _ => none

def approvalBindings (workflow : WorkflowDefinition) : List ApprovalBinding :=
  workflow.steps.zipIdx.filterMap fun (step, index) =>
    bindingAt workflow step index

/--
`analyzeWorkflowApprovals` of a parsed definition; `none` when the analysis
fails its own schema and the call throws.
-/
def analyzeWorkflowApprovals
    (workflow : WorkflowDefinition) :
    Option WorkflowApprovalAnalysis :=
  let issues :=
    workflow.steps.zipIdx.filterMap fun (step, index) =>
      orphanAt workflow step index
  let analysis : WorkflowApprovalAnalysis :=
    { bindings := approvalBindings workflow
      issues
      hasBlockingIssues := 0 < issues.length }
  if analysis.parses then some analysis else none

/-- `requireApprovalBinding`; `none` when it throws. -/
def requireApprovalBinding
    (workflow : WorkflowDefinition)
    (approvalStepId : NonEmptyString) :
    Option ApprovalBinding :=
  (analyzeWorkflowApprovals workflow).bind fun analysis =>
    analysis.bindings.find? fun candidate =>
      candidate.approvalStepId == approvalStepId

/-- `isApprovalGatedStep`. -/
def isApprovalGatedStep
    (workflow : WorkflowDefinition)
    (stepId : NonEmptyString) :
    Bool :=
  match workflow.steps.findIdx? fun step => step.id == stepId with
  | none => false
  | some index =>
      0 < index &&
        (workflow.steps[index - 1]?.map WorkflowStep.type) == some .approval

structure ApprovalCoordinatorRequest where
  executionId : Uuid
  workflowId : NonEmptyString
  workflowVersion : Nat
  approvalStepId : NonEmptyString
  gatedStepId : NonEmptyString
  riskLevel : ApprovalRiskLevel
  expiresAt : Nat
  deriving DecidableEq, Repr

structure ApprovalCoordinatorResult where
  decision : ApprovalDecision
  decidedAt : Nat
  deriving DecidableEq, Repr

variable {workflow : WorkflowDefinition}

theorem bindingAt_eq_some
    {step : WorkflowStep}
    {index : Nat}
    {binding : ApprovalBinding}
    (bound : bindingAt workflow step index = some binding) :
    binding.approvalStepId = step.id ∧
      binding.approvalStepIndex = index ∧
      ∃ gatedStep,
        workflow.steps[index + 1]? = some gatedStep ∧
          binding.gatedStepId = gatedStep.id := by
  unfold bindingAt at bound
  split at bound
  case h_1 gatedStep _ next =>
    cases bound
    exact ⟨rfl, rfl, gatedStep, next, rfl⟩
  case h_2 => cases bound

theorem mem_approvalBindings
    {binding : ApprovalBinding} :
    binding ∈ approvalBindings workflow ↔
      ∃ step index,
        workflow.steps[index]? = some step ∧
          bindingAt workflow step index = some binding := by
  simp [approvalBindings, List.mem_zipIdx_iff_getElem?]

/--
After an analysis without blocking issues, every approval step has a binding
and gates the step that directly follows it.
-/
theorem requireApprovalBinding_of_analysis
    {analysis : WorkflowApprovalAnalysis}
    (analyzed : analyzeWorkflowApprovals workflow = some analysis)
    (noIssues : analysis.hasBlockingIssues = false)
    {index : Nat}
    {step : WorkflowStep}
    (atIndex : workflow.steps[index]? = some step)
    (isApproval : step.type = .approval) :
    ∃ binding gatedStep,
      requireApprovalBinding workflow step.id = some binding ∧
        workflow.steps[index + 1]? = some gatedStep ∧
        binding.approvalStepId = step.id ∧
        binding.gatedStepId = gatedStep.id := by
  have analysisIs := analyzed
  simp only [analyzeWorkflowApprovals] at analysisIs
  split at analysisIs
  case isFalse => cases analysisIs
  case isTrue parses =>
  cases analysisIs
  -- An approval step without a successor would be reported as an orphan.
  have located : (step, index) ∈ workflow.steps.zipIdx :=
    List.mem_zipIdx_iff_getElem?.mpr atIndex
  have notOrphan : orphanAt workflow step index = none := by
    simp only [decide_eq_false_iff_not, Nat.not_lt, Nat.le_zero,
      List.length_eq_zero_iff, List.filterMap_eq_nil_iff, Prod.forall]
      at noIssues
    exact noIssues step index located
  obtain ⟨message, riskLevel, timeoutMs, actionIs⟩ :=
    step.action_of_approval isApproval
  obtain ⟨expected, bound⟩ :
      ∃ expected, bindingAt workflow step index = some expected := by
    cases next : workflow.steps[index + 1]? with
    | none => simp [orphanAt, actionIs, next] at notOrphan
    | some gatedStep => simp [bindingAt, actionIs, next]
  have expectedId := (bindingAt_eq_some bound).1
  have listed : expected ∈ approvalBindings workflow :=
    mem_approvalBindings.mpr ⟨step, index, atIndex, bound⟩
  have found :
      ((approvalBindings workflow).find? fun candidate =>
        candidate.approvalStepId == step.id).isSome := by
    rw [List.find?_isSome]
    exact ⟨expected, listed, by simp [expectedId]⟩
  obtain ⟨binding, isBinding⟩ := Option.isSome_iff_exists.mp found
  have sameId : binding.approvalStepId = step.id := by
    simpa using List.find?_some isBinding
  obtain ⟨otherStep, other, atOther, boundOther⟩ :=
    mem_approvalBindings.mp (List.mem_of_find?_eq_some isBinding)
  obtain ⟨otherId, _, gatedStep, next, gatedId⟩ :=
    bindingAt_eq_some boundOther
  have sameIndex : other = index :=
    workflow.index_of_id atOther atIndex (otherId.symm.trans sameId)
  rw [sameIndex] at next
  exact ⟨binding, gatedStep,
    by simpa [requireApprovalBinding, analyzed] using isBinding,
    next, sameId, gatedId⟩

theorem gate_isName :
    trim "gate" = "gate" ∧ isNonEmptyTrimmed "gate" = true := by
  decide +kernel

theorem pause_isName :
    trim "pause" = "pause" ∧ isNonEmptyTrimmed "pause" = true := by
  decide +kernel

theorem secondGate_isName :
    trim "gate2" = "gate2" ∧ isNonEmptyTrimmed "gate2" = true := by
  decide +kernel

theorem secondPause_isName :
    trim "pause2" = "pause2" ∧ isNonEmptyTrimmed "pause2" = true := by
  decide +kernel

def exampleGate : NonEmptyString :=
  { text := "gate"
    trimmed := gate_isName.1
    nonEmpty := gate_isName.2 }

def examplePause : NonEmptyString :=
  { text := "pause"
    trimmed := pause_isName.1
    nonEmpty := pause_isName.2 }

def exampleSecondGate : NonEmptyString :=
  { text := "gate2"
    trimmed := secondGate_isName.1
    nonEmpty := secondGate_isName.2 }

def exampleSecondPause : NonEmptyString :=
  { text := "pause2"
    trimmed := secondPause_isName.1
    nonEmpty := secondPause_isName.2 }

/-- A step that waits for an approval. -/
def exampleApprovalStep (id : NonEmptyString) : WorkflowStep :=
  { id
    name := id
    action :=
      .approval id .low
        { value := minApprovalTimeoutMs
          atLeast := Nat.le_refl _
          atMost := Nat.le_of_ble_eq_true rfl }
    refined := rfl }

/-- A step that waits. -/
def exampleWaitStep (id : NonEmptyString) : WorkflowStep :=
  { id
    name := id
    action :=
      .wait
        { value := 1
          atLeast := Nat.le_refl _
          atMost := Nat.le_of_ble_eq_true rfl }
    refined := rfl }

/-- Two gates, each before a step that it guards. -/
def exampleSteps : List WorkflowStep :=
  [exampleApprovalStep exampleGate, exampleWaitStep examplePause,
    exampleApprovalStep exampleSecondGate, exampleWaitStep exampleSecondPause]

theorem exampleSteps_ids : (exampleSteps.map WorkflowStep.id).Nodup := by
  decide +kernel

def exampleWorkflow : WorkflowDefinition :=
  { workflowId := exampleGate
    version := 1
    versionPositive := Nat.one_pos
    name := exampleGate
    description := none
    status := .published
    workflowVariables := []
    steps := exampleSteps
    stepsNonEmpty := List.cons_ne_nil _ _
    stepIdsUnique := exampleSteps_ids
    variableNamesUnique := List.nodup_nil }

end TaskTwin.Workflow
