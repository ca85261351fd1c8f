import Mathlib.Data.List.Perm.Subperm
import TaskTwin.Policy.Monotonicity

/-!
# The bounds of evaluations

An evaluation is read by a schema of its own before it is returned.  What the
schema bounds is counted here from the policy and the workflow, and the schema
accepts the evaluation exactly when the counts are within its bounds.
-/

namespace TaskTwin.Policy

open Text Schema Workflow Collection

variable {platform : Platform}

/-- How many approval steps end a workflow. -/
def orphanCount (workflow : WorkflowDefinition) : Nat :=
  (workflow.steps.zipIdx.filterMap fun (step, index) =>
    orphanAt workflow step index).length

variable {workflow : WorkflowDefinition}

/-- Only the last step has no step after it. -/
theorem orphanAt_eq_none
    {step : WorkflowStep}
    {index : Nat}
    (notLast : index + 1 < workflow.steps.length) :
    orphanAt workflow step index = none := by
  rw [orphanAt, List.getElem?_eq_getElem notLast]
  cases step.action <;> rfl

theorem orphanCount_le_one (workflow : WorkflowDefinition) :
    orphanCount workflow ≤ 1 := by
  have isSplit :=
    List.dropLast_append_getLast workflow.stepsNonEmpty
  have front :
      workflow.steps.dropLast.zipIdx.filterMap
          (fun (step, index) => orphanAt workflow step index) = [] := by
    rw [List.filterMap_eq_nil_iff]
    intro (step, index) listed
    refine orphanAt_eq_none ?_
    have inRange := (List.mem_zipIdx' listed).1
    rw [List.length_dropLast] at inRange
    omega
  have whole :
      workflow.steps.zipIdx =
        workflow.steps.dropLast.zipIdx ++
          [workflow.steps.getLast workflow.stepsNonEmpty].zipIdx
            (0 + workflow.steps.dropLast.length) := by
    rw [← List.zipIdx_append, isSplit]
  rw [orphanCount, whole, List.filterMap_append, front, List.nil_append]
  exact List.length_filterMap_le _ _

/-- Identifiers that fit into the records of the control plane. -/
def ShortStepIds (workflow : WorkflowDefinition) : Prop :=
  ∀ step ∈ workflow.steps, utf16Length step.id.text ≤ maxStepIdLength

theorem ShortStepIds.isTrimmedWithin
    (short : ShortStepIds workflow)
    {step : WorkflowStep}
    (listed : step ∈ workflow.steps) :
    isTrimmedWithin maxStepIdLength step.id.text = true :=
  (step.id.isTrimmedWithin_iff _).mpr (short step listed)

/-- The analysis of the approvals of a workflow, before its schema reads it. -/
def approvalAnalysis (workflow : WorkflowDefinition) :
    WorkflowApprovalAnalysis :=
  { bindings := approvalBindings workflow
    issues :=
      workflow.steps.zipIdx.filterMap fun (step, index) =>
        orphanAt workflow step index
    hasBlockingIssues := 0 < orphanCount workflow }

theorem analyzeWorkflowApprovals_eq (workflow : WorkflowDefinition) :
    analyzeWorkflowApprovals workflow =
      if (approvalAnalysis workflow).parses then
        some (approvalAnalysis workflow)
      else
        none :=
  rfl

theorem approvalBindings_listed
    {binding : ApprovalBinding}
    (isBinding : binding ∈ approvalBindings workflow) :
    (∃ step ∈ workflow.steps, binding.approvalStepId = step.id) ∧
      ∃ step ∈ workflow.steps, binding.gatedStepId = step.id := by
  obtain ⟨step, index, located, bound⟩ := mem_approvalBindings.mp isBinding
  obtain ⟨approvalId, -, gatedStep, next, gatedId⟩ := bindingAt_eq_some bound
  exact ⟨⟨step, List.mem_of_getElem? located, approvalId⟩,
    gatedStep, List.mem_of_getElem? next, gatedId⟩

theorem orphanAt_listed
    {issue : ApprovalAnalysisIssue}
    (listed : issue ∈ (approvalAnalysis workflow).issues) :
    workflow.steps[issue.stepIndex]?.map WorkflowStep.id =
      some issue.stepId := by
  obtain ⟨⟨step, index⟩, located, isOrphan⟩ := List.mem_filterMap.mp listed
  rw [List.mem_zipIdx_iff_getElem?] at located
  dsimp only at isOrphan located
  rw [orphanAt] at isOrphan
  split at isOrphan
  case h_1 =>
    cases isOrphan
    rw [located]
    rfl
  case h_2 => cases isOrphan

/-- With short identifiers, only the number of gates can be too large. -/
theorem approvalAnalysis_parses
    (short : ShortStepIds workflow) :
    (approvalAnalysis workflow).parses = true ↔
      (approvalBindings workflow).length ≤ maxApprovalIssues := by
  have fewOrphans : (approvalAnalysis workflow).issues.length ≤
      maxApprovalIssues :=
    Nat.le_trans (orphanCount_le_one workflow) (by decide)
  have bindingsParse :
      (approvalAnalysis workflow).bindings.all (fun binding =>
        isTrimmedWithin maxStepIdLength binding.approvalStepId.text &&
          isTrimmedWithin maxStepIdLength binding.gatedStepId.text) = true := by
    rw [List.all_eq_true]
    intro binding isBinding
    obtain ⟨⟨step, listed, isStep⟩, gated, isListed, isGated⟩ :=
      approvalBindings_listed isBinding
    rw [isStep, isGated, short.isTrimmedWithin listed,
      short.isTrimmedWithin isListed, Bool.and_self]
  have issuesParse :
      (approvalAnalysis workflow).issues.all (fun issue =>
        isTrimmedWithin maxStepIdLength issue.stepId.text) = true := by
    rw [List.all_eq_true]
    intro issue listed
    obtain ⟨step, located, isStep⟩ :=
      Option.map_eq_some_iff.mp (orphanAt_listed listed)
    rw [← isStep]
    exact short.isTrimmedWithin (List.mem_of_getElem? located)
  rw [WorkflowApprovalAnalysis.parses, bindingsParse, issuesParse,
    decide_eq_true fewOrphans, Bool.and_true, Bool.and_true, Bool.and_true,
    decide_eq_true_eq]
  exact Iff.rfl

section Counts

variable
  (platform : Platform)
  (policy : WorkspaceExecutionPolicyDefinition)
  (declaredOrigins : List JsString)
  (bindings : List ApprovalBinding)

/-- How many things a policy finds at a step. -/
def findingsAt
    (step : WorkflowStep)
    (stepIndex : Nat)
    (address : OriginDecision) :
    Nat :=
  (if deriveActionIntent step = .unknown then 1 else 0) +
    (if address.code.isSome then 1 else 0) +
    (if riskAtLeast (stepRisk platform policy step address.origin) .high then 1
      else 0) +
    (if isStopped bindings stepIndex (stepDecision platform policy step address)
      then 1 else 0)

/-- How many things a policy finds at steps, one after the other. -/
def findingsFrom :
    List (WorkflowStep × Nat) → Option JsString → Nat
  | [], _ => 0
  | (step, stepIndex) :: steps, currentOrigin =>
      let address := addressOf platform policy declaredOrigins step currentOrigin
      findingsAt platform policy bindings step stepIndex address +
        findingsFrom steps address.origin

/-- How many things a policy finds in a workflow. -/
def findingCount (workflow : WorkflowDefinition) : Nat :=
  let declaredOrigins := workflowDeclaredOrigins platform workflow
  findingsFrom platform policy declaredOrigins (approvalBindings workflow)
      workflow.steps.zipIdx none +
    (if 1 < declaredOrigins.length then 1 else 0) + orphanCount workflow

theorem length_evaluateStep_issues
    (step : WorkflowStep)
    (stepIndex : Nat)
    (currentOrigin : Option JsString) :
    (evaluateStep platform policy declaredOrigins bindings step stepIndex
        currentOrigin).1.issues.length =
      findingsAt platform policy bindings step stepIndex
        (addressOf platform policy declaredOrigins step currentOrigin) := by
  rw [evaluateStep_issues, List.length_mergeSort, evaluateStep_risk,
    evaluateStep_decision, stepIssues, findingsAt]
  generalize addressOf platform policy declaredOrigins step currentOrigin =
    address
  generalize stepDecision platform policy step address = decision
  simp only [List.length_append]
  congr 1
  · congr 1
    · congr 1
      · split <;> rfl
      · cases address.code <;> rfl
    · split <;> rfl
  · cases isApproved : isApproved bindings stepIndex <;>
      cases decision <;> simp [isStopped, isApproved]

theorem length_evaluateSteps_issues
    (steps : List (WorkflowStep × Nat))
    (currentOrigin : Option JsString) :
    ((evaluateSteps platform policy declaredOrigins bindings steps
        currentOrigin).flatMap StepPolicyEvaluation.issues).length =
      findingsFrom platform policy declaredOrigins bindings steps
        currentOrigin := by
  induction steps generalizing currentOrigin with
  | nil => rfl
  | cons indexed steps inductionHypothesis =>
      obtain ⟨step, stepIndex⟩ := indexed
      rw [findingsFrom, ← length_evaluateStep_issues]
      simp only [evaluateSteps, List.flatMap_cons, List.length_append]
      rw [inductionHypothesis]
      rfl

theorem length_unparsedEvaluation_issues
    (workflow : WorkflowDefinition)
    (policyDigest workflowDigest : JsString) :
    (unparsedEvaluation platform policy workflow policyDigest workflowDigest
        (approvalAnalysis workflow)).issues.length =
      findingCount platform policy workflow := by
  have ofSteps :=
    length_evaluateSteps_issues platform policy
      (workflowDeclaredOrigins platform workflow) (approvalBindings workflow)
      workflow.steps.zipIdx none
  simp only [unparsedEvaluation, List.length_mergeSort, List.length_append,
    List.length_map]
  rw [findingCount, ← ofSteps]
  congr 1
  congr 1
  split <;> rfl

end Counts

/-- Rules that a schema has read. -/
structure BoundedRules (rules : List ActionPolicyRule) : Prop where
  few : rules.length ≤ maxPolicyRules
  ids : ∀ rule ∈ rules, isRuleIdText rule.id = true

theorem boundedRules_of_parsed
    {policy parsed : WorkspaceExecutionPolicyDefinition}
    (isParsed : policy.parse platform = some parsed) :
    BoundedRules parsed.rules := by
  simp only [WorkspaceExecutionPolicyDefinition.parse, Option.bind_eq_bind,
    Option.bind_eq_some_iff, Option.ite_none_right_eq_some,
    Option.some.injEq] at isParsed
  obtain ⟨allowed, -, blocked, -, rules, isRules, bounds, rfl⟩ := isParsed
  refine ⟨bounds.1, ?_⟩
  intro rule listed
  obtain ⟨input, -, isRule⟩ := (mem_of_mapM isRules rule).mp listed
  simp only [ActionPolicyRule.parse, Option.bind_eq_bind,
    Option.bind_eq_some_iff, Option.ite_none_right_eq_some,
    Option.some.injEq] at isRule
  obtain ⟨origins, -, ⟨isId, -⟩, rfl⟩ := isRule
  have hasId := isId
  rw [isRuleId, Bool.and_eq_true] at isId
  rw [isRuleIdText, trimText_of_visible (isRuleId_visible hasId)]
  exact isId.1

theorem boundedRules_of_canonical
    {policy canonical : WorkspaceExecutionPolicyDefinition}
    (isCanonical :
      canonicalizePolicyDefinition platform policy = some canonical) :
    BoundedRules canonical.rules := by
  simp only [canonicalizePolicyDefinition, Option.bind_eq_bind,
    Option.bind_eq_some_iff] at isCanonical
  obtain ⟨_, -, _, -, isParsed⟩ := isCanonical
  exact boundedRules_of_parsed isParsed

section Steps

variable
  {policy : WorkspaceExecutionPolicyDefinition}
  {declaredOrigins : List JsString}
  {bindings : List ApprovalBinding}

theorem length_evaluateSteps
    (steps : List (WorkflowStep × Nat))
    (currentOrigin : Option JsString) :
    (evaluateSteps platform policy declaredOrigins bindings steps
        currentOrigin).length =
      steps.length := by
  induction steps generalizing currentOrigin with
  | nil => rfl
  | cons indexed steps inductionHypothesis =>
      simp only [evaluateSteps, List.length_cons, inductionHypothesis]

/-- Every evaluation is that of a step, at some origin. -/
theorem mem_evaluateSteps
    {steps : List (WorkflowStep × Nat)}
    {currentOrigin : Option JsString}
    {evaluation : StepPolicyEvaluation}
    (listed :
      evaluation ∈
        evaluateSteps platform policy declaredOrigins bindings steps
          currentOrigin) :
    ∃ indexed ∈ steps, ∃ origin,
      evaluation =
        (evaluateStep platform policy declaredOrigins bindings indexed.1
          indexed.2 origin).1 := by
  induction steps generalizing currentOrigin with
  | nil => cases listed
  | cons indexed steps inductionHypothesis =>
      rcases List.mem_cons.mp listed with isFirst | later
      · exact ⟨indexed, List.mem_cons_self, currentOrigin, isFirst⟩
      · obtain ⟨other, isOther, origin, isEvaluation⟩ :=
          inductionHypothesis later
        exact ⟨other, List.mem_cons_of_mem _ isOther, origin, isEvaluation⟩

/-- The identifiers of every step are among the results. -/
theorem stepId_mem_evaluateSteps
    {steps : List (WorkflowStep × Nat)}
    {indexed : WorkflowStep × Nat}
    (currentOrigin : Option JsString)
    (listed : indexed ∈ steps) :
    ∃ evaluation ∈
        evaluateSteps platform policy declaredOrigins bindings steps
          currentOrigin,
      evaluation.stepId = indexed.1.id := by
  induction steps generalizing currentOrigin with
  | nil => cases listed
  | cons first steps inductionHypothesis =>
      rcases List.mem_cons.mp listed with rfl | later
      · exact ⟨_, List.mem_cons_self, rfl⟩
      · obtain ⟨evaluation, isEvaluation, sameId⟩ :=
          inductionHypothesis (evaluateStep platform policy declaredOrigins
            bindings first.1 first.2 currentOrigin).2 later
        exact ⟨evaluation, List.mem_cons_of_mem _ isEvaluation, sameId⟩

variable {step : WorkflowStep}

/-- Steps match rules of the policy only. -/
theorem matchedRuleIds_listed
    {stepIndex : Nat}
    {origin : Option JsString}
    {ruleId : JsString}
    (listed :
      ruleId ∈
        (evaluateStep platform policy declaredOrigins bindings step stepIndex
          origin).1.matchedRuleIds) :
    ruleId ∈ policy.rules.map ActionPolicyRule.id := by
  have isMatch := (List.mergeSort_perm _ _).mem_iff.mp listed
  obtain ⟨rule, isRule, rfl⟩ := List.mem_map.mp isMatch
  exact List.mem_map_of_mem (List.mem_filter.mp isRule).1

theorem length_matchedRuleIds
    (step : WorkflowStep)
    (stepIndex : Nat)
    (origin : Option JsString) :
    (evaluateStep platform policy declaredOrigins bindings step stepIndex
        origin).1.matchedRuleIds.length ≤
      policy.rules.length := by
  simp only [evaluateStep, List.length_mergeSort, List.length_map]
  exact List.length_filter_le _ _

theorem stepIssue_parses
    {code : PolicyIssueCode}
    {severity : IssueSeverity}
    {step : Option WorkflowStep}
    {stepIndex : Option Nat}
    (short :
      ∀ isStep ∈ step, isTrimmedWithin maxStepIdLength isStep.id.text = true) :
    (stepIssue code severity step stepIndex).parses = true := by
  cases step with
  | none => rfl
  | some isStep =>
      simpa [PolicyEvaluationIssue.parses, stepIssue, maxStepIdLength] using
        short isStep rfl

/-- The issues of a step name the step. -/
theorem evaluateStep_issues_parse
    (short : isTrimmedWithin maxStepIdLength step.id.text = true)
    (stepIndex : Nat)
    (origin : Option JsString) :
    ∀ issue ∈
        (evaluateStep platform policy declaredOrigins bindings step stepIndex
          origin).1.issues,
      issue.parses = true := by
  intro issue listed
  rw [evaluateStep_issues, (List.mergeSort_perm _ _).mem_iff] at listed
  have named :
      ∃ code severity,
        issue = stepIssue code severity (some step) (some stepIndex) := by
    simp only [stepIssues, List.mem_append, Option.mem_toList,
      Option.map_eq_some_iff] at listed
    rcases listed with ((unknown | ⟨code, -, rfl⟩) | highRisk) | stops
    · split at unknown
      · exact ⟨_, _, List.mem_singleton.mp unknown⟩
      · cases unknown
    · exact ⟨_, _, rfl⟩
    · split at highRisk
      · exact ⟨_, _, List.mem_singleton.mp highRisk⟩
      · cases highRisk
    · split at stops
      · exact ⟨_, _, List.mem_singleton.mp stops⟩
      · split at stops
        · exact ⟨_, _, List.mem_singleton.mp stops⟩
        · cases stops
  obtain ⟨code, severity, rfl⟩ := named
  refine stepIssue_parses ?_
  intro isStep same
  cases same
  exact short

theorem findingsAt_le_four
    (step : WorkflowStep)
    (stepIndex : Nat)
    (address : OriginDecision) :
    findingsAt platform policy bindings step stepIndex address ≤ 4 := by
  unfold findingsAt
  have atMostOne (condition : Prop) [Decidable condition] :
      (if condition then 1 else 0) ≤ 1 := by
    split <;> decide
  have first := atMostOne (deriveActionIntent step = .unknown)
  have second := atMostOne (address.code.isSome = true)
  have third :=
    atMostOne
      (riskAtLeast (stepRisk platform policy step address.origin) .high = true)
  have fourth :=
    atMostOne
      (isStopped bindings stepIndex (stepDecision platform policy step address) =
        true)
  omega

theorem findingsFrom_le
    (steps : List (WorkflowStep × Nat))
    (currentOrigin : Option JsString) :
    findingsFrom platform policy declaredOrigins bindings steps currentOrigin ≤
      4 * steps.length := by
  induction steps generalizing currentOrigin with
  | nil => exact Nat.le_refl _
  | cons indexed steps inductionHypothesis =>
      obtain ⟨step, stepIndex⟩ := indexed
      have here :=
        @findingsAt_le_four platform policy bindings step stepIndex
          (addressOf platform policy declaredOrigins step currentOrigin)
      have later :=
        inductionHypothesis
          (addressOf platform policy declaredOrigins step currentOrigin).origin
      simp only [findingsFrom, List.length_cons]
      omega

/-- A policy finds at most four things at each step, and two more. -/
theorem findingCount_le
    (platform : Platform)
    (policy : WorkspaceExecutionPolicyDefinition)
    (workflow : WorkflowDefinition) :
    findingCount platform policy workflow ≤ 4 * workflow.steps.length + 2 := by
  have ofSteps :=
    @findingsFrom_le platform policy (workflowDeclaredOrigins platform workflow)
      (approvalBindings workflow) workflow.steps.zipIdx none
  have orphans := orphanCount_le_one workflow
  rw [List.length_zipIdx] at ofSteps
  rw [findingCount]
  split <;> omega

theorem evaluateStep_parses
    (bounded : BoundedRules policy.rules)
    (stepIndex : Nat)
    (origin : Option JsString) :
    (evaluateStep platform policy declaredOrigins bindings step stepIndex
        origin).1.parses =
      isTrimmedWithin maxStepIdLength step.id.text := by
  cases short : isTrimmedWithin maxStepIdLength step.id.text with
  | false =>
      have stepId :
          isTrimmedWithin 256
              (evaluateStep platform policy declaredOrigins bindings step
                stepIndex origin).1.stepId.text =
            false :=
        short
      rw [StepPolicyEvaluation.parses, stepId]
      rfl
  | true =>
      have stepId :
          isTrimmedWithin 256
              (evaluateStep platform policy declaredOrigins bindings step
                stepIndex origin).1.stepId.text =
            true :=
        short
      have few :=
        Nat.le_trans
          (@length_matchedRuleIds platform policy declaredOrigins bindings step
            stepIndex origin)
          bounded.few
      have fewIssues :
          (evaluateStep platform policy declaredOrigins bindings step stepIndex
            origin).1.issues.length ≤ maxPolicyIssues := by
        rw [length_evaluateStep_issues]
        exact Nat.le_trans (findingsAt_le_four _ _ _) (by decide)
      simp only [StepPolicyEvaluation.parses, stepId, Bool.true_and,
        Bool.and_eq_true, List.all_eq_true, decide_eq_true_eq]
      refine ⟨⟨⟨?_, few⟩, evaluateStep_issues_parse short _ _⟩, fewIssues⟩
      intro ruleId listed
      obtain ⟨rule, isRule, rfl⟩ :=
        List.mem_map.mp (matchedRuleIds_listed listed)
      exact bounded.ids rule isRule

end Steps

/-- The bounds that the schemas put on an evaluation, counted beforehand. -/
structure WithinBounds
    (platform : Platform)
    (canonical : WorkspaceExecutionPolicyDefinition)
    (workflow : WorkflowDefinition) : Prop where
  shortStepIds : ShortStepIds workflow
  steps : workflow.steps.length ≤ maxPolicyIssues
  gates : (approvalBindings workflow).length ≤ maxApprovalIssues
  findings : findingCount platform canonical workflow ≤ maxPolicyIssues

section Workflows

variable
  {canonical : WorkspaceExecutionPolicyDefinition}
  {workflow : WorkflowDefinition}
  {policyDigest workflowDigest : JsString}

/-- The evaluations of steps parse as soon as the identifiers are short. -/
theorem evaluateSteps_parse
    (bounded : BoundedRules canonical.rules)
    (declaredOrigins : List JsString)
    (bindings : List ApprovalBinding) :
    (evaluateSteps platform canonical declaredOrigins bindings
        workflow.steps.zipIdx none).all StepPolicyEvaluation.parses = true ↔
      ShortStepIds workflow := by
  rw [List.all_eq_true]
  constructor
  · intro parse step listed
    obtain ⟨index, inRange, rfl⟩ := List.mem_iff_getElem.mp listed
    have located :
        (workflow.steps[index], index) ∈ workflow.steps.zipIdx :=
      List.mem_zipIdx_iff_getElem?.mpr (List.getElem?_eq_getElem inRange)
    obtain ⟨evaluation, isEvaluation, sameId⟩ :=
      @stepId_mem_evaluateSteps platform canonical declaredOrigins bindings _ _
        none located
    have parses := parse evaluation isEvaluation
    simp only [StepPolicyEvaluation.parses, Bool.and_eq_true,
      sameId] at parses
    exact (workflow.steps[index].id.isTrimmedWithin_iff _).mp parses.1.1.1.1
  · intro short evaluation listed
    obtain ⟨⟨step, index⟩, located, origin, rfl⟩ := mem_evaluateSteps listed
    rw [evaluateStep_parses bounded]
    exact short.isTrimmedWithin
      (List.mem_of_getElem? (List.mem_zipIdx_iff_getElem?.mp located))

theorem length_uniqueSorted
    {values others : List JsString}
    (among : values ⊆ others) :
    (uniqueSorted platform (fun value => value) values).length ≤
      others.length := by
  have canonical :=
    @uniqueSorted_canonical platform _ _ (fun value : JsString => value) values
  have among' :
      uniqueSorted platform (fun value => value) values ⊆ others :=
    fun value listed => among ((canonical.same value).mp listed)
  exact (List.subperm_of_subset canonical.distinct among').length_le

/-- The rules that match some step are among the rules of the policy. -/
theorem workflowRuleIds_listed
    {declaredOrigins : List JsString}
    {bindings : List ApprovalBinding} :
    (evaluateSteps platform canonical declaredOrigins bindings
        workflow.steps.zipIdx none).flatMap
        StepPolicyEvaluation.matchedRuleIds ⊆
      canonical.rules.map ActionPolicyRule.id := by
  intro ruleId listed
  obtain ⟨evaluation, isEvaluation, isRuleId⟩ := List.mem_flatMap.mp listed
  obtain ⟨indexed, -, origin, rfl⟩ := mem_evaluateSteps isEvaluation
  exact matchedRuleIds_listed isRuleId

theorem issues_parse
    (short : ShortStepIds workflow) :
    (unparsedEvaluation platform canonical workflow policyDigest
        workflowDigest (approvalAnalysis workflow)).issues.all
        PolicyEvaluationIssue.parses =
      true := by
  rw [List.all_eq_true]
  intro issue listed
  have among := (List.mergeSort_perm _ _).mem_iff.mp listed
  rw [List.mem_append, List.mem_append] at among
  rcases among with (ofStep | ofOrigins) | ofApprovals
  · obtain ⟨evaluation, isEvaluation, isIssue⟩ := List.mem_flatMap.mp ofStep
    obtain ⟨⟨step, index⟩, located, origin, rfl⟩ :=
      mem_evaluateSteps isEvaluation
    exact evaluateStep_issues_parse
      (short.isTrimmedWithin
        (List.mem_of_getElem? (List.mem_zipIdx_iff_getElem?.mp located)))
      _ _ issue isIssue
  · split at ofOrigins
    · rw [List.mem_singleton.mp ofOrigins]
      rfl
    · cases ofOrigins
  · obtain ⟨approvalIssue, -, rfl⟩ := List.mem_map.mp ofApprovals
    exact stepIssue_parses fun step isStep =>
      short.isTrimmedWithin (List.mem_of_getElem? isStep)

/-- The output schema accepts what is within bounds, and nothing else. -/
theorem unparsedEvaluation_parses
    (bounded : BoundedRules canonical.rules)
    (digests : isSha256Hex policyDigest ∧ isSha256Hex workflowDigest) :
    (unparsedEvaluation platform canonical workflow policyDigest
        workflowDigest (approvalAnalysis workflow)).parses = true ↔
      ShortStepIds workflow ∧ workflow.steps.length ≤ maxPolicyIssues ∧
        findingCount platform canonical workflow ≤ maxPolicyIssues := by
  have stepsParse :=
    @evaluateSteps_parse platform canonical workflow bounded
      (workflowDeclaredOrigins platform workflow) (approvalBindings workflow)
  have isLength :
      (unparsedEvaluation platform canonical workflow policyDigest
          workflowDigest (approvalAnalysis workflow)).steps.length =
        workflow.steps.length :=
    (length_evaluateSteps _ _).trans List.length_zipIdx
  have ruleIds :
      (unparsedEvaluation platform canonical workflow policyDigest
          workflowDigest (approvalAnalysis workflow)).matchedRuleIds.all
          isRuleIdText =
        true := by
    rw [List.all_eq_true]
    intro ruleId listed
    have among :=
      workflowRuleIds_listed
        (((uniqueSorted_canonical _ _).same ruleId).mp listed)
    obtain ⟨rule, isRule, rfl⟩ := List.mem_map.mp among
    exact bounded.ids rule isRule
  have fewRuleIds :
      (unparsedEvaluation platform canonical workflow policyDigest
          workflowDigest (approvalAnalysis workflow)).matchedRuleIds.length ≤
        maxPolicyRules := by
    have few := @length_uniqueSorted platform _ _ (@workflowRuleIds_listed
      platform canonical workflow (workflowDeclaredOrigins platform workflow)
      (approvalBindings workflow))
    rw [List.length_map] at few
    exact Nat.le_trans few bounded.few
  simp only [WorkflowPolicyEvaluation.parses, Bool.and_eq_true, isLength,
    ruleIds, decide_eq_true_eq, length_unparsedEvaluation_issues]
  constructor
  · rintro ⟨⟨⟨⟨⟨⟨-, parse⟩, few⟩, -⟩, -⟩, -⟩, findings⟩
    exact ⟨stepsParse.mp parse, few, findings⟩
  · rintro ⟨short, few, findings⟩
    exact ⟨⟨⟨⟨⟨⟨digests, stepsParse.mpr short⟩, few⟩, trivial⟩, fewRuleIds⟩,
      issues_parse short⟩, findings⟩

end Workflows

/-- What is returned has passed every bound. -/
theorem withinBounds_of_evaluated
    {input : WorkflowPolicyEvaluationInput}
    {evaluation : WorkflowPolicyEvaluation}
    (evaluated : evaluateWorkflowPolicy platform input = some evaluation) :
    ∃ canonical,
      canonicalizePolicyDefinition platform input.policy = some canonical ∧
        WithinBounds platform canonical input.workflow := by
  simp only [evaluateWorkflowPolicy, Option.bind_eq_bind,
    Option.bind_eq_some_iff, Option.ite_none_right_eq_some] at evaluated
  obtain ⟨parsed, isParsed, digests, canonical, isCanonical, evaluated⟩ :=
    evaluated
  rw [canonicalize_parsed isParsed] at isCanonical
  rw [evaluateCanonical_eq, Option.bind_eq_some_iff] at evaluated
  obtain ⟨analysis, isAnalysis, evaluated⟩ := evaluated
  rw [analyzeWorkflowApprovals_eq, Option.ite_none_right_eq_some,
    Option.some.injEq] at isAnalysis
  obtain ⟨analysisParses, rfl⟩ := isAnalysis
  have parses := (Option.ite_none_right_eq_some.mp evaluated).1
  obtain ⟨short, few, findings⟩ :=
    (unparsedEvaluation_parses (boundedRules_of_canonical isCanonical)
      digests).mp parses
  exact ⟨canonical, isCanonical, short, few,
    (approvalAnalysis_parses short).mp analysisParses, findings⟩

/-- What is within the bounds is evaluated, and nothing else. -/
theorem isSome_evaluateWorkflowPolicy_iff
    {input : WorkflowPolicyEvaluationInput}
    (valid : (input.policy.parse platform).isSome = true)
    (digests :
      isSha256Hex input.policyDigest ∧ isSha256Hex input.workflowDigest) :
    (evaluateWorkflowPolicy platform input).isSome = true ↔
      ∃ canonical,
        canonicalizePolicyDefinition platform input.policy = some canonical ∧
          WithinBounds platform canonical input.workflow := by
  constructor
  · intro returned
    obtain ⟨evaluation, evaluated⟩ := Option.isSome_iff_exists.mp returned
    exact withinBounds_of_evaluated evaluated
  · intro ⟨canonical, isCanonical, within⟩
    obtain ⟨parsed, isParsed⟩ := Option.isSome_iff_exists.mp valid
    have canonicalParsed := (canonicalize_parsed isParsed).trans isCanonical
    have analysisParses :=
      (approvalAnalysis_parses within.shortStepIds).mpr within.gates
    have parses :=
      (@unparsedEvaluation_parses platform _ _ _ _
        (boundedRules_of_canonical isCanonical) digests).mpr
          ⟨within.shortStepIds, within.steps, within.findings⟩
    simp only [evaluateWorkflowPolicy, isParsed, digests, canonicalParsed,
      evaluateCanonical_eq, analyzeWorkflowApprovals_eq, analysisParses,
      parses, Option.bind_eq_bind, Option.bind_some, and_self, if_true,
      Option.isSome_some]

/--
A valid policy and a workflow are evaluated without a throw exactly when the
policy has a canonical form, the identifiers of the steps are short, and the
steps, the gates and the findings are not more than the schemas allow.
-/
theorem evaluateWorkflowPolicy_returns
    (platform : Platform)
    (input : WorkflowPolicyEvaluationInput)
    (valid : (input.policy.parse platform).isSome = true)
    (digests :
      isSha256Hex input.policyDigest ∧ isSha256Hex input.workflowDigest) :
    (evaluateWorkflowPolicy platform input).isSome = true ↔
      ∃ canonical,
        canonicalizePolicyDefinition platform input.policy = some canonical ∧
          WithinBounds platform canonical input.workflow :=
  isSome_evaluateWorkflowPolicy_iff valid digests

/-- A step that has one letter more in its identifier than fits. -/
def exampleLongText : String := String.ofList (List.replicate 257 'a')

theorem utf16Length_letters (count : Nat) :
    utf16Length (String.ofList (List.replicate count 'a')) = count := by
  rw [utf16Length, String.toList_ofList, List.map_replicate,
    List.sum_replicate_nat]
  simp

theorem exampleLongText_length : utf16Length exampleLongText = 257 :=
  utf16Length_letters 257

theorem exampleLongText_trimmed : trim exampleLongText = exampleLongText := by
  refine trim_ofList fun letter listed => ?_
  rw [List.eq_of_mem_replicate listed]
  decide

theorem exampleLongText_nonEmpty : isNonEmptyTrimmed exampleLongText = true := by
  rw [isNonEmptyTrimmed, exampleLongText_trimmed, exampleLongText_length]
  rfl

def exampleLongStep : WorkflowStep :=
  exampleWaitStep
    { text := exampleLongText
      trimmed := exampleLongText_trimmed
      nonEmpty := exampleLongText_nonEmpty }

theorem exampleLongStep_tooLong :
    ¬utf16Length exampleLongStep.id.text ≤ maxStepIdLength := by
  have isLength : utf16Length exampleLongStep.id.text = 257 :=
    exampleLongText_length
  rw [isLength]
  decide

def exampleLongWorkflow : WorkflowDefinition :=
  { exampleWorkflow with
    steps := [exampleLongStep]
    stepsNonEmpty := List.cons_ne_nil _ _
    stepIdsUnique := List.nodup_singleton _ }

def exampleInput (workflow : WorkflowDefinition) :
    WorkflowPolicyEvaluationInput :=
  { policy := defaultWorkspaceExecutionPolicy
    workflow
    policyDigest := List.replicate 64 (unit 'a')
    workflowDigest := List.replicate 64 (unit 'a') }

theorem exampleDigest_isSha256 :
    isSha256Hex (List.replicate 64 (unit 'a')) = true := by
  decide

theorem exampleInput_digests (workflow : WorkflowDefinition) :
    isSha256Hex (exampleInput workflow).policyDigest ∧
      isSha256Hex (exampleInput workflow).workflowDigest :=
  ⟨exampleDigest_isSha256, exampleDigest_isSha256⟩

theorem exampleInput_valid (workflow : WorkflowDefinition) :
    ((exampleInput workflow).policy.parse platform).isSome = true :=
  parses_of_canonicalize examplePolicies_canonical.1

/-- A valid policy and a valid workflow whose evaluation is not returned. -/
theorem evaluateWorkflowPolicy_throws :
    ((exampleInput exampleLongWorkflow).policy.parse examplePlatform).isSome =
        true ∧
      evaluateWorkflowPolicy examplePlatform
          (exampleInput exampleLongWorkflow) =
        none := by
  refine ⟨exampleInput_valid _, Option.eq_none_iff_forall_not_mem.mpr ?_⟩
  intro evaluation evaluated
  obtain ⟨canonical, -, within⟩ := withinBounds_of_evaluated evaluated
  exact exampleLongStep_tooLong
    (within.shortStepIds exampleLongStep (List.mem_singleton_self _))

theorem exampleWorkflow_short :
    ∀ step ∈ exampleWorkflow.steps,
      utf16Length step.id.text ≤ maxStepIdLength := by
  decide +kernel

theorem exampleWorkflow_withinBounds :
    WithinBounds platform defaultWorkspaceExecutionPolicy exampleWorkflow := by
  have counted :=
    findingCount_le platform defaultWorkspaceExecutionPolicy exampleWorkflow
  constructor
  case shortStepIds => exact exampleWorkflow_short
  case steps => decide
  case gates => decide
  case findings => exact Nat.le_trans counted (by decide)

theorem evaluateWorkflowPolicy_returns_example :
    (evaluateWorkflowPolicy examplePlatform
      (exampleInput exampleWorkflow)).isSome = true :=
  (evaluateWorkflowPolicy_returns examplePlatform
      (exampleInput exampleWorkflow) (exampleInput_valid _)
      (exampleInput_digests _)).mpr
    ⟨_, examplePolicies_canonical.1, exampleWorkflow_withinBounds⟩

end TaskTwin.Policy
