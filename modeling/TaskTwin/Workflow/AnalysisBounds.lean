import TaskTwin.Workflow.Approval

/-!
# When the analyses are returned

The schemas of the extraction and of the approval analysis bound the step
identifiers that they name and the number of the gates.  The analyses are
returned exactly when the workflow stays within these bounds.
-/

namespace TaskTwin.Workflow

open Schema

variable {workflow : WorkflowDefinition}

def NonEmptyString.IsShort (id : NonEmptyString) : Prop :=
  utf16Length id.text ≤ maxStepIdLength

theorem isShort_iff (id : NonEmptyString) :
    isTrimmedWithin maxStepIdLength id.text = true ↔
      NonEmptyString.IsShort id :=
  id.isTrimmedWithin_iff maxStepIdLength

/-- A step whose value source is an output. -/
def WorkflowStep.readsOutput (step : WorkflowStep) : Bool :=
  match step.valueSource with
  | some (.output _, _) => true
  | _ => false

/-- A step that the extraction analysis names. -/
def WorkflowStep.InDataFlow (step : WorkflowStep) : Prop :=
  step.type = .extract ∨ step.readsOutput = true

variable {step : WorkflowStep} {index : Nat} {output : WorkflowOutputDefinition}

theorem outputOfStep_eq_some
    (defined : outputOfStep step index = some output) :
    step.type = .extract ∧ output.producerStepId = step.id := by
  unfold outputOfStep at defined
  split at defined
  case h_1 isExtract =>
    obtain ⟨valueType, -, rfl⟩ := Option.map_eq_some_iff.mp defined
    exact ⟨by rw [WorkflowStep.type, isExtract]; rfl, rfl⟩
  case h_2 => cases defined

theorem stepId_of_producerIssues
    {outputs : List WorkflowOutputDefinition}
    {step : WorkflowStep}
    {index : Nat}
    {issue : ExtractionAnalysisIssue}
    (listed : issue ∈ producerIssues outputs step index) :
    step.type = .extract ∧ issue.stepId = step.id := by
  unfold producerIssues at listed
  split at listed
  case h_2 => cases listed
  case h_1 isExtract =>
    have sameType : step.type = .extract := by
      rw [WorkflowStep.type, isExtract]
      rfl
    split at listed
    · rw [List.mem_singleton.mp listed]
      exact ⟨sameType, rfl⟩
    · split at listed
      · rw [List.mem_singleton.mp listed]
        exact ⟨sameType, rfl⟩
      · cases listed

theorem stepId_of_usageIssues
    {outputs : List WorkflowOutputDefinition}
    {usage : WorkflowOutputUsage}
    {issue : ExtractionAnalysisIssue}
    (listed : issue ∈ usageIssues outputs usage) :
    issue.stepId = usage.consumerStepId := by
  unfold usageIssues at listed
  rcases List.mem_append.mp listed with navigates | others
  · split at navigates
    · rw [List.mem_singleton.mp navigates]
    · cases navigates
  · split at others
    · rw [List.mem_singleton.mp others]
    · rcases List.mem_append.mp others with misordered | incompatible
      · split at misordered
        · rw [List.mem_singleton.mp misordered]
        · split at misordered
          · rw [List.mem_singleton.mp misordered]
          · cases misordered
      · split at incompatible
        · cases incompatible
        · rw [List.mem_singleton.mp incompatible]

theorem stepId_of_unusedIssues
    {usages : List WorkflowOutputUsage}
    {output : WorkflowOutputDefinition}
    {issue : ExtractionAnalysisIssue}
    (listed : issue ∈ unusedIssues usages output) :
    issue.stepId = output.producerStepId := by
  unfold unusedIssues at listed
  split at listed
  · cases listed
  · rw [List.mem_singleton.mp listed]

/-- A located value source belongs to a step of the workflow. -/
theorem mem_findWorkflowValueSources
    {located : LocatedValueSource} :
    located ∈ findWorkflowValueSources workflow ↔
      ∃ step index,
        workflow.steps[index]? = some step ∧ located ∈ locate step index := by
  simp [findWorkflowValueSources, List.mem_zipIdx_iff_getElem?]

theorem mem_locate
    {located : LocatedValueSource} :
    located ∈ locate step index ↔
      step.valueSource = some (located.source, located.target) ∧
        located.stepId = step.id ∧ located.stepIndex = index ∧
        located.stepType = step.type := by
  unfold locate
  split
  case h_1 noSource => simp [noSource]
  case h_2 source target isSource =>
    rw [List.mem_singleton, isSource]
    constructor
    · intro isLocated
      rw [isLocated]
      exact ⟨rfl, rfl, rfl, rfl⟩
    · rintro ⟨sameSource, sameId, sameIndex, sameType⟩
      obtain ⟨isValue, isTarget⟩ := Prod.mk.inj (Option.some.inj sameSource)
      cases located
      simp_all

theorem mem_usages
    {usage : WorkflowOutputUsage}
    (listed :
      usage ∈ (findWorkflowValueSources workflow).filterMap outputUsage) :
    ∃ step ∈ workflow.steps,
      step.readsOutput = true ∧ usage.consumerStepId = step.id := by
  obtain ⟨located, isLocated, isUsage⟩ := List.mem_filterMap.mp listed
  obtain ⟨step, index, atIndex, isHere⟩ :=
    mem_findWorkflowValueSources.mp isLocated
  obtain ⟨isSource, sameId, -, -⟩ := mem_locate.mp isHere
  refine ⟨step, List.mem_of_getElem? atIndex, ?_⟩
  unfold outputUsage at isUsage
  split at isUsage
  case h_2 => cases isUsage
  case h_1 outputName isOutput =>
    rw [← Option.some.inj isUsage]
    refine ⟨?_, sameId⟩
    rw [WorkflowStep.readsOutput, isSource, isOutput]

theorem mem_outputs
    (listed : output ∈ defineWorkflowOutputs workflow) :
    ∃ step ∈ workflow.steps,
      step.type = .extract ∧ output.producerStepId = step.id := by
  obtain ⟨step, atIndex, defined⟩ :=
    defineWorkflowOutputs_index workflow listed
  exact ⟨step, List.mem_of_getElem? atIndex, outputOfStep_eq_some defined⟩

/-- What the analysis names when it names a step of the data flow. -/
theorem analyzeWorkflowExtraction_isSome_of_short
    (short :
      ∀ step ∈ workflow.steps,
        step.InDataFlow → NonEmptyString.IsShort step.id) :
    (analyzeWorkflowExtraction workflow).isSome = true := by
  have shortOutputs :
      ∀ output ∈ defineWorkflowOutputs workflow,
        NonEmptyString.IsShort output.producerStepId := by
    intro output listed
    obtain ⟨step, isStep, isExtract, sameId⟩ := mem_outputs listed
    rw [sameId]
    exact short step isStep (Or.inl isExtract)
  have shortUsages :
      ∀ usage ∈ (findWorkflowValueSources workflow).filterMap outputUsage,
        NonEmptyString.IsShort usage.consumerStepId := by
    intro usage listed
    obtain ⟨step, isStep, reads, sameId⟩ := mem_usages listed
    rw [sameId]
    exact short step isStep (Or.inr reads)
  simp only [analyzeWorkflowExtraction]
  rw [if_pos]
  · rfl
  · simp only [WorkflowExtractionAnalysis.parses, Bool.and_eq_true,
      List.all_eq_true, isShort_iff]
    refine ⟨⟨shortOutputs, shortUsages⟩, ?_⟩
    intro issue listed
    rcases List.mem_append.mp listed with earlier | unused
    · rcases List.mem_append.mp earlier with produced | used
      · obtain ⟨placed, isPlaced, isIssue⟩ := List.mem_flatMap.mp produced
        obtain ⟨isExtract, sameId⟩ := stepId_of_producerIssues isIssue
        rw [sameId]
        apply short placed.1 _ (Or.inl isExtract)
        exact
          List.mem_of_getElem? (List.mem_zipIdx_iff_getElem?.mp isPlaced)
      · obtain ⟨usage, isUsage, isIssue⟩ := List.mem_flatMap.mp used
        rw [stepId_of_usageIssues isIssue]
        exact shortUsages usage isUsage
    · obtain ⟨output, isOutput, isIssue⟩ := List.mem_flatMap.mp unused
      rw [stepId_of_unusedIssues isIssue]
      exact shortOutputs output isOutput

/-- An analysis that is returned names every step of the data flow. -/
theorem short_of_analyzeWorkflowExtraction
    (returned : (analyzeWorkflowExtraction workflow).isSome = true)
    {step : WorkflowStep}
    (isStep : step ∈ workflow.steps)
    (inDataFlow : step.InDataFlow) :
    NonEmptyString.IsShort step.id := by
  obtain ⟨index, atIndex⟩ := List.mem_iff_getElem?.mp isStep
  have placed : (step, index) ∈ workflow.steps.zipIdx :=
    List.mem_zipIdx_iff_getElem?.mpr atIndex
  simp only [analyzeWorkflowExtraction] at returned
  split at returned
  case isFalse => cases returned
  case isTrue parses =>
    simp only [WorkflowExtractionAnalysis.parses, Bool.and_eq_true,
      List.all_eq_true, isShort_iff] at parses
    obtain ⟨⟨shortOutputs, shortUsages⟩, shortIssues⟩ := parses
    rcases inDataFlow with isExtract | reads
    · rw [WorkflowStep.type] at isExtract
      cases actionIs : step.action with
      | extract locator source outputName outputLabel timeoutMs =>
          cases typed : outputTypeForExtractStep source with
          | some valueType =>
              obtain ⟨output, isOutput, -⟩ :=
                outputOfStep_extract actionIs typed index
              have listed : output ∈ defineWorkflowOutputs workflow :=
                List.mem_filterMap.mpr ⟨(step, index), placed, isOutput⟩
              rw [← (outputOfStep_eq_some isOutput).2]
              exact shortOutputs output listed
          | none =>
              have reported :
                  { code := .unsupportedExtractionSource
                    severity := .blocking
                    stepId := step.id
                    stepIndex := index
                    outputName : ExtractionAnalysisIssue } ∈
                    producerIssues (defineWorkflowOutputs workflow) step
                      index := by
                unfold producerIssues
                rw [actionIs]
                simp [typed]
              have shortIssue :=
                shortIssues _
                  (List.mem_append_left _
                    (List.mem_append_left _
                      (List.mem_flatMap.mpr
                        ⟨(step, index), placed, reported⟩)))
              exact shortIssue
      | _ => simp [actionIs, WorkflowStepAction.type] at isExtract
    · unfold WorkflowStep.readsOutput at reads
      split at reads
      case h_2 => cases reads
      case h_1 outputName target isSource =>
        have isLocated :
            { source := .output outputName
              stepId := step.id
              stepIndex := index
              stepType := step.type
              target : LocatedValueSource } ∈
              findWorkflowValueSources workflow :=
          mem_findWorkflowValueSources.mpr
            ⟨step, index, atIndex,
              mem_locate.mpr ⟨isSource, rfl, rfl, rfl⟩⟩
        exact
          shortUsages _ (List.mem_filterMap.mpr ⟨_, isLocated, rfl⟩)

/-- A step that the approval analysis names: a gate, or the step behind it. -/
def AtGate
    (workflow : WorkflowDefinition)
    (index : Nat)
    (step : WorkflowStep) :
    Prop :=
  step.type = .approval ∨
    ∃ previous gate,
      index = previous + 1 ∧ workflow.steps[previous]? = some gate ∧
        gate.type = .approval

theorem type_of_bindingAt
    {step : WorkflowStep}
    {index : Nat}
    {binding : ApprovalBinding}
    (bound : bindingAt workflow step index = some binding) :
    step.type = .approval := by
  unfold bindingAt at bound
  split at bound
  case h_1 isApproval _ =>
    rw [WorkflowStep.type, isApproval]
    rfl
  case h_2 => cases bound

theorem orphanAt_eq_some
    {step : WorkflowStep}
    {index : Nat}
    {issue : ApprovalAnalysisIssue}
    (orphaned : orphanAt workflow step index = some issue) :
    step.type = .approval ∧ issue.stepId = step.id ∧
      workflow.steps[index + 1]? = none := by
  unfold orphanAt at orphaned
  split at orphaned
  case h_1 isApproval isLast =>
    rw [← Option.some.inj orphaned]
    exact ⟨by rw [WorkflowStep.type, isApproval]; rfl, rfl, isLast⟩
  case h_2 => cases orphaned

/-- Only the last step can gate nothing. -/
theorem length_orphans (workflow : WorkflowDefinition) :
    (workflow.steps.zipIdx.filterMap
        fun (placed : WorkflowStep × Nat) =>
          orphanAt workflow placed.1 placed.2).length ≤ 1 := by
  obtain ⟨steps, last, isSteps⟩ :
      ∃ steps last, workflow.steps = steps ++ [last] :=
    ⟨_, _, (List.dropLast_append_getLast workflow.stepsNonEmpty).symm⟩
  have noOrphan :
      steps.zipIdx.filterMap
          (fun (placed : WorkflowStep × Nat) =>
            orphanAt workflow placed.1 placed.2) =
        [] := by
    apply List.filterMap_eq_nil_iff.mpr
    intro placed isPlaced
    cases orphaned : orphanAt workflow placed.1 placed.2 with
    | none => rfl
    | some issue =>
        have isLast := (orphanAt_eq_some orphaned).2.2
        have inside := (List.mem_zipIdx' isPlaced).1
        rw [isSteps, List.getElem?_eq_none_iff, List.length_append,
          List.length_singleton] at isLast
        omega
  rw [isSteps, List.zipIdx_append, List.filterMap_append, noOrphan,
    List.nil_append]
  exact List.length_filterMap_le _ _

theorem analyzeWorkflowApprovals_isSome_of_short
    (short :
      ∀ index step,
        workflow.steps[index]? = some step →
          AtGate workflow index step → NonEmptyString.IsShort step.id)
    (few : (approvalBindings workflow).length ≤ maxApprovalIssues) :
    (analyzeWorkflowApprovals workflow).isSome = true := by
  simp only [analyzeWorkflowApprovals]
  rw [if_pos]
  · rfl
  · simp only [WorkflowApprovalAnalysis.parses, Bool.and_eq_true,
      List.all_eq_true, decide_eq_true_eq, isShort_iff]
    refine ⟨⟨⟨few, ?_⟩, ?_⟩, ?_⟩
    · have atMostOne := length_orphans workflow
      exact Nat.le_trans atMostOne (by decide)
    · intro binding listed
      obtain ⟨step, index, atIndex, bound⟩ := mem_approvalBindings.mp listed
      have isApproval := type_of_bindingAt bound
      obtain ⟨sameId, -, gatedStep, next, gatedId⟩ :=
        bindingAt_eq_some bound
      rw [sameId, gatedId]
      exact
        ⟨short index step atIndex (Or.inl isApproval),
          short (index + 1) gatedStep next
            (Or.inr ⟨index, step, rfl, atIndex, isApproval⟩)⟩
    · intro issue listed
      obtain ⟨placed, isPlaced, orphaned⟩ := List.mem_filterMap.mp listed
      obtain ⟨isApproval, sameId, -⟩ := orphanAt_eq_some orphaned
      rw [sameId]
      exact
        short placed.2 placed.1 (List.mem_zipIdx_iff_getElem?.mp isPlaced)
          (Or.inl isApproval)

/-- An analysis that is returned names every gate and the step behind it. -/
theorem short_of_analyzeWorkflowApprovals
    (returned : (analyzeWorkflowApprovals workflow).isSome = true) :
    (∀ index step,
        workflow.steps[index]? = some step →
          AtGate workflow index step → NonEmptyString.IsShort step.id) ∧
      (approvalBindings workflow).length ≤ maxApprovalIssues := by
  simp only [analyzeWorkflowApprovals] at returned
  split at returned
  case isFalse => cases returned
  case isTrue parses =>
    simp only [WorkflowApprovalAnalysis.parses, Bool.and_eq_true,
      List.all_eq_true, decide_eq_true_eq, isShort_iff] at parses
    obtain ⟨⟨⟨few, -⟩, shortBindings⟩, shortIssues⟩ := parses
    have shortGate :
        ∀ index step,
          workflow.steps[index]? = some step →
            step.type = .approval →
            NonEmptyString.IsShort step.id ∧
              ∀ next,
                workflow.steps[index + 1]? = some next →
                  NonEmptyString.IsShort next.id := by
      intro index step atIndex isApproval
      obtain ⟨message, riskLevel, timeoutMs, actionIs⟩ :=
        step.action_of_approval isApproval
      have placed : (step, index) ∈ workflow.steps.zipIdx :=
        List.mem_zipIdx_iff_getElem?.mpr atIndex
      cases isNext : workflow.steps[index + 1]? with
      | none =>
          have orphaned :
              orphanAt workflow step index =
                some { stepId := step.id, stepIndex := index } := by
            simp [orphanAt, actionIs, isNext]
          refine
            ⟨shortIssues _
                (List.mem_filterMap.mpr ⟨(step, index), placed, orphaned⟩),
              ?_⟩
          intro next isSome
          cases isSome
      | some gatedStep =>
          have bound :
              bindingAt workflow step index =
                some
                  { approvalStepId := step.id
                    approvalStepIndex := index
                    gatedStepId := gatedStep.id
                    gatedStepIndex := index + 1
                    riskLevel
                    timeoutMs } := by
            simp [bindingAt, actionIs, isNext]
          have shortBinding :=
            shortBindings _
              (mem_approvalBindings.mpr ⟨step, index, atIndex, bound⟩)
          refine ⟨shortBinding.1, ?_⟩
          intro next isSome
          rw [← Option.some.inj isSome]
          exact shortBinding.2
    refine ⟨?_, few⟩
    intro index step atIndex atGate
    rcases atGate with isApproval | ⟨previous, gate, rfl, atGate, isApproval⟩
    · exact (shortGate index step atIndex isApproval).1
    · exact (shortGate previous gate atGate isApproval).2 step atIndex

end TaskTwin.Workflow
