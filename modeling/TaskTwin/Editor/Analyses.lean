import TaskTwin.Schedule.UnattendedRun
import TaskTwin.Workflow.AnalysisBounds

/-!
# What the analyses ask of the steps

A workflow has no blocking issues when its value sources fit, its outputs flow
from earlier steps to later ones, and its approval steps have a step to gate.
Here that is said of the list of the steps, without any positions in it.
-/

namespace TaskTwin.Editor

open Schema Workflow
open TaskTwin.Schedule (OutputsInOrder dataFlow_iff outputOfStep_index
  analyzeWorkflowInputs_blocking_iff defineWorkflowOutputs_ascend)
open TaskTwin.Engine (valueSource_located)

/-- A value source that a property of a step may have. -/
def SourceFits
    (declared : List WorkflowVariable)
    (target : ValueSourceTarget) :
    ValueSource → Prop
  | .literal value => isLiteralCompatible target value = true
  | .variable variableName =>
      ∃ declaration ∈ declared,
        declaration.name = variableName ∧
          isVariableTypeCompatible target declaration.valueType = true
  | .secret secretName =>
      isSafeSecretAlias secretName = true ∧
        (getValueSourceCompatibility target).allowsSecret = true
  | .output _ => True

def InputsFit
    (declared : List WorkflowVariable)
    (steps : List WorkflowStep) :
    Prop :=
  ∀ step ∈ steps, ∀ source target,
    step.valueSource = some (source, target) → SourceFits declared target source

theorem sourceIssue_none_iff
    {declared : List WorkflowVariable}
    (distinct : (declared.map WorkflowVariable.name).Nodup)
    {located : LocatedValueSource} :
    sourceIssue declared located = none ↔
      SourceFits declared located.target located.source := by
  unfold sourceIssue
  cases located.source with
  | literal value =>
      by_cases compatible : isLiteralCompatible located.target value = true
      · simp [SourceFits, compatible]
      · simp [SourceFits, compatible]
  | output outputName => simp [SourceFits]
  | secret secretName =>
      by_cases safe : isSafeSecretAlias secretName = true
      · by_cases allowed :
            (getValueSourceCompatibility located.target).allowsSecret = true
        · simp [SourceFits, safe, allowed]
        · simp [SourceFits, safe, allowed]
      · simp [SourceFits, safe]
  | «variable» variableName =>
      cases found :
          declared.find? fun declaration => declaration.name = variableName with
      | none =>
          have absent := List.find?_eq_none.mp found
          simp only [SourceFits, found, reduceCtorEq, false_iff]
          rintro ⟨declaration, listed, isName, -⟩
          exact absent declaration listed (by simpa using isName)
      | some declaration =>
          have listed := List.mem_of_find?_eq_some found
          have isName : declaration.name = variableName := by
            simpa using List.find?_some found
          simp only [SourceFits, found, ite_eq_left_iff, reduceCtorEq,
            imp_false, not_not]
          constructor
          · intro compatible
            exact ⟨declaration, listed, isName, compatible⟩
          · rintro ⟨other, isOther, otherName, compatible⟩
            have same :=
              List.inj_on_of_nodup_map distinct isOther listed
                (otherName.trans isName.symm)
            exact same ▸ compatible

variable {workflow : WorkflowDefinition}

theorem inputs_iff :
    (analyzeWorkflowInputs workflow).hasBlockingIssues = false ↔
      InputsFit workflow.workflowVariables workflow.steps := by
  rw [analyzeWorkflowInputs_blocking_iff]
  constructor
  · intro noIssue step isStep source target reads
    obtain ⟨index, atIndex⟩ := List.mem_iff_getElem?.mp isStep
    have isLocated := valueSource_located atIndex reads
    exact
      (sourceIssue_none_iff workflow.variableNamesUnique).mp
        (noIssue _ isLocated)
  · intro fits located isLocated
    obtain ⟨step, index, atIndex, isHere⟩ :=
      mem_findWorkflowValueSources.mp isLocated
    obtain ⟨reads, -, -, -⟩ := mem_locate.mp isHere
    apply (sourceIssue_none_iff workflow.variableNamesUnique).mpr
    exact fits step (List.mem_of_getElem? atIndex) _ _ reads

/-- The output that a step produces, with what it is extracted from. -/
def producedOutput (step : WorkflowStep) : Option (Identifier × ExtractSource) :=
  match step.action with
  | .extract _ source outputName _ _ => some (outputName, source)
  | _ => none

/-- A step produces an output of a type. -/
def Produces
    (step : WorkflowStep)
    (outputName : Identifier)
    (valueType : WorkflowOutputType) :
    Prop :=
  ∃ source,
    producedOutput step = some (outputName, source) ∧
      outputTypeForExtractStep source = some valueType

/-- A step reads outputs of earlier steps, and adds an output of its own. -/
structure FlowsAfter
    (before : List WorkflowStep)
    (step : WorkflowStep) :
    Prop where
  reads :
    ∀ outputName target,
      step.valueSource = some (.output outputName, target) →
      ∃ producer ∈ before, ∃ valueType,
        Produces producer outputName valueType ∧
          isOutputTypeCompatible target valueType = true
  typed :
    ∀ outputName source,
      producedOutput step = some (outputName, source) →
      outputTypeForExtractStep source ≠ none
  fresh :
    ∀ outputName source,
      producedOutput step = some (outputName, source) →
      ∀ earlier ∈ before, ∀ source',
        producedOutput earlier ≠ some (outputName, source')

structure OutputsFlow (steps : List WorkflowStep) : Prop where
  flows :
    ∀ before step after,
      steps = before ++ step :: after → FlowsAfter before step
  short :
    ∀ step ∈ steps, step.InDataFlow → NonEmptyString.IsShort step.id

variable {step : WorkflowStep}

theorem producedOutput_extract
    {outputName : Identifier}
    {source : ExtractSource}
    (produces : producedOutput step = some (outputName, source)) :
    ∃ locator outputLabel timeoutMs,
      step.action =
        .extract locator source outputName outputLabel timeoutMs := by
  unfold producedOutput at produces
  split at produces
  case h_2 => cases produces
  case h_1 locator _ _ outputLabel timeoutMs isExtract =>
    cases produces
    exact ⟨locator, outputLabel, timeoutMs, isExtract⟩

theorem producedOutput_of_extract
    (isExtract : step.type = .extract) :
    ∃ outputName source, producedOutput step = some (outputName, source) := by
  rw [WorkflowStep.type] at isExtract
  unfold producedOutput
  cases actionIs : step.action with
  | extract locator source outputName outputLabel timeoutMs =>
      exact ⟨outputName, source, rfl⟩
  | _ => simp [actionIs, WorkflowStepAction.type] at isExtract

/-- An output that is defined is produced by the step at its position. -/
theorem produces_of_output
    {output : WorkflowOutputDefinition}
    (defined : output ∈ defineWorkflowOutputs workflow) :
    ∃ step,
      workflow.steps[output.producerStepIndex]? = some step ∧
        output.producerStepId = step.id ∧
        Produces step output.name output.valueType := by
  obtain ⟨step, atIndex, isOutput⟩ := defineWorkflowOutputs_index workflow defined
  refine ⟨step, atIndex, (outputOfStep_eq_some isOutput).2, ?_⟩
  unfold outputOfStep at isOutput
  split at isOutput
  case h_2 => cases isOutput
  case h_1 locator source outputName outputLabel timeoutMs isExtract =>
    obtain ⟨valueType, typed, isOutput⟩ := Option.map_eq_some_iff.mp isOutput
    refine ⟨source, ?_, ?_⟩
    · rw [producedOutput, isExtract, ← isOutput]
    · rw [typed, ← isOutput]

/-- What a step produces is defined. -/
theorem output_of_produces
    {index : Nat}
    (atIndex : workflow.steps[index]? = some step)
    {outputName : Identifier}
    {valueType : WorkflowOutputType}
    (produces : Produces step outputName valueType) :
    ∃ output ∈ defineWorkflowOutputs workflow,
      output.name = outputName ∧ output.valueType = valueType ∧
        output.producerStepIndex = index := by
  obtain ⟨source, isProduced, typed⟩ := produces
  obtain ⟨locator, outputLabel, timeoutMs, isExtract⟩ :=
    producedOutput_extract isProduced
  obtain ⟨output, defined, isName, isType⟩ :=
    outputOfStep_extract isExtract typed index
  refine ⟨output, ?_, isName, isType, outputOfStep_index defined⟩
  rw [defineWorkflowOutputs, List.mem_filterMap]
  exact ⟨(step, index), List.mem_zipIdx_iff_getElem?.mpr atIndex, defined⟩

/-- What is at a position has the values of earlier positions before it. -/
theorem split_at
    {α : Type}
    {values : List α}
    {value : α}
    {index : Nat}
    (atIndex : values[index]? = some value) :
    values = values.take index ++ value :: values.drop (index + 1) := by
  obtain ⟨inside, rfl⟩ := List.getElem?_eq_some_iff.mp atIndex
  rw [List.getElem_cons_drop, List.take_append_drop]

theorem getElem?_of_split
    {steps before after : List WorkflowStep}
    {step : WorkflowStep}
    (isSplit : steps = before ++ step :: after) :
    steps[before.length]? = some step := by
  simp [isSplit]

theorem mem_take_iff
    {steps : List WorkflowStep}
    {step : WorkflowStep}
    {bound : Nat} :
    step ∈ steps.take bound ↔
      ∃ index < bound, steps[index]? = some step := by
  rw [List.mem_iff_getElem?]
  constructor
  · rintro ⟨index, atIndex⟩
    rw [List.getElem?_take] at atIndex
    split at atIndex
    case isTrue below => exact ⟨index, below, atIndex⟩
    case isFalse => cases atIndex
  · rintro ⟨index, below, atIndex⟩
    exact ⟨index, by rw [List.getElem?_take, if_pos below, atIndex]⟩

theorem outputsFlow_of_inOrder
    (inOrder : OutputsInOrder workflow) :
    OutputsFlow workflow.steps := by
  have typed
      {step : WorkflowStep}
      (isStep : step ∈ workflow.steps)
      {outputName : Identifier}
      {source : ExtractSource}
      (produces : producedOutput step = some (outputName, source)) :
      ∃ valueType, Produces step outputName valueType := by
    obtain ⟨locator, outputLabel, timeoutMs, isExtract⟩ :=
      producedOutput_extract produces
    have supported := inOrder.supported step isStep _ _ _ _ _ isExtract
    obtain ⟨valueType, isType⟩ := Option.ne_none_iff_exists'.mp supported
    exact ⟨valueType, source, produces, isType⟩
  constructor
  case short =>
    intro step isStep inDataFlow
    obtain ⟨index, atIndex⟩ := List.mem_iff_getElem?.mp isStep
    rcases inDataFlow with isExtract | readsOutput
    · obtain ⟨outputName, source, produces⟩ :=
        producedOutput_of_extract isExtract
      obtain ⟨valueType, isProduced⟩ := typed isStep produces
      obtain ⟨output, defined, -, -, sameIndex⟩ :=
        output_of_produces atIndex isProduced
      obtain ⟨producer, atProducer, sameId, -⟩ := produces_of_output defined
      rw [sameIndex, atIndex] at atProducer
      cases atProducer
      have bounded := inOrder.identified.1 output defined
      rw [sameId] at bounded
      exact (isShort_iff step.id).mp bounded
    · unfold WorkflowStep.readsOutput at readsOutput
      split at readsOutput
      case h_2 => cases readsOutput
      case h_1 outputName target reads =>
        have isLocated := valueSource_located atIndex reads
        have bounded := inOrder.identified.2 _ isLocated outputName rfl
        exact (isShort_iff step.id).mp bounded
  case flows =>
    intro before step after isSplit
    have atIndex := getElem?_of_split isSplit
    have isStep := List.mem_of_getElem? atIndex
    have isBefore : workflow.steps.take before.length = before := by
      rw [isSplit, List.take_left]
    constructor
    case reads =>
      intro outputName target reads
      obtain ⟨output, defined, isName, isEarlier, compatible⟩ :=
        inOrder.ordered _ (valueSource_located atIndex reads) outputName rfl
      obtain ⟨producer, atProducer, -, produces⟩ := produces_of_output defined
      refine ⟨producer, ?_, output.valueType, isName ▸ produces, compatible⟩
      rw [← isBefore]
      exact mem_take_iff.mpr ⟨_, isEarlier, atProducer⟩
    case typed =>
      intro outputName source produces
      obtain ⟨locator, outputLabel, timeoutMs, isExtract⟩ :=
        producedOutput_extract produces
      exact inOrder.supported step isStep _ _ _ _ _ isExtract
    case fresh =>
      intro outputName source produces earlier isEarlier source' producesToo
      rw [← isBefore] at isEarlier
      obtain ⟨index, below, atEarlier⟩ := mem_take_iff.mp isEarlier
      obtain ⟨valueType, isProduced⟩ := typed isStep produces
      obtain ⟨valueType', isProduced'⟩ :=
        typed (List.mem_of_getElem? atEarlier) producesToo
      obtain ⟨output, defined, isName, -, sameIndex⟩ :=
        output_of_produces atIndex isProduced
      obtain ⟨output', defined', isName', -, sameIndex'⟩ :=
        output_of_produces atEarlier isProduced'
      have same :=
        List.inj_on_of_nodup_map inOrder.distinct defined defined'
          (isName.trans isName'.symm)
      rw [← same, sameIndex] at sameIndex'
      omega

theorem inOrder_of_outputsFlow
    (flow : OutputsFlow workflow.steps) :
    OutputsInOrder workflow := by
  have flowsAt
      {step : WorkflowStep}
      {index : Nat}
      (atIndex : workflow.steps[index]? = some step) :
      FlowsAfter (workflow.steps.take index) step :=
    flow.flows _ step _ (split_at atIndex)
  constructor
  case supported =>
    intro step isStep locator source outputName outputLabel timeoutMs isExtract
    obtain ⟨index, atIndex⟩ := List.mem_iff_getElem?.mp isStep
    apply (flowsAt atIndex).typed outputName source
    rw [producedOutput, isExtract]
  case distinct =>
    rw [List.Nodup, List.pairwise_map]
    apply (defineWorkflowOutputs_ascend workflow).imp_of_mem
    intro earlier later isEarlier isLater ascend sameName
    obtain ⟨step, atStep, -, source, produces, -⟩ :=
      produces_of_output isEarlier
    obtain ⟨step', atStep', -, source', produces', -⟩ :=
      produces_of_output isLater
    apply (flowsAt atStep').fresh later.name source' produces' step _ source
    · rw [produces, sameName]
    · exact mem_take_iff.mpr ⟨_, ascend, atStep⟩
  case ordered =>
    intro located isLocated outputName isOutput
    obtain ⟨step, index, atIndex, isHere⟩ :=
      mem_findWorkflowValueSources.mp isLocated
    obtain ⟨reads, -, sameIndex, -⟩ := mem_locate.mp isHere
    rw [isOutput] at reads
    obtain ⟨producer, isProducer, valueType, produces, compatible⟩ :=
      (flowsAt atIndex).reads outputName located.target reads
    obtain ⟨earlier, below, atEarlier⟩ := mem_take_iff.mp isProducer
    obtain ⟨output, defined, isName, isType, atOutput⟩ :=
      output_of_produces atEarlier produces
    refine ⟨output, defined, isName, ?_, ?_⟩
    · rw [atOutput, sameIndex]
      exact below
    · rw [isType]
      exact compatible
  case identified =>
    constructor
    · intro output defined
      obtain ⟨step, atStep, sameId, source, produces, -⟩ :=
        produces_of_output defined
      obtain ⟨locator, outputLabel, timeoutMs, isExtract⟩ :=
        producedOutput_extract produces
      rw [sameId, isShort_iff]
      apply flow.short step (List.mem_of_getElem? atStep)
      left
      rw [WorkflowStep.type, isExtract]
      rfl
    · intro located isLocated outputName isOutput
      obtain ⟨step, index, atIndex, isHere⟩ :=
        mem_findWorkflowValueSources.mp isLocated
      obtain ⟨reads, sameId, -, -⟩ := mem_locate.mp isHere
      rw [sameId, isShort_iff]
      apply flow.short step (List.mem_of_getElem? atIndex)
      right
      rw [WorkflowStep.readsOutput, reads, isOutput]

theorem outputs_iff :
    (∃ analysis,
      analyzeWorkflowExtraction workflow = some analysis ∧
        analysis.hasBlockingIssues = false) ↔
      OutputsFlow workflow.steps := by
  rw [dataFlow_iff]
  exact ⟨outputsFlow_of_inOrder, inOrder_of_outputsFlow⟩

/-- Every approval step has a step behind it, and there are not too many. -/
structure GatesFit (steps : List WorkflowStep) : Prop where
  gates :
    ∀ before gate after,
      steps = before ++ gate :: after →
      gate.type = .approval →
      ∃ gated rest,
        after = gated :: rest ∧ NonEmptyString.IsShort gate.id ∧
          NonEmptyString.IsShort gated.id
  few :
    (steps.countP fun step => step.type = .approval) ≤ maxApprovalIssues

theorem orphanAt_isSome_iff
    {step : WorkflowStep}
    {index : Nat} :
    (orphanAt workflow step index).isSome = true ↔
      step.type = .approval ∧ workflow.steps[index + 1]? = none := by
  constructor
  · intro orphaned
    obtain ⟨issue, isIssue⟩ := Option.isSome_iff_exists.mp orphaned
    obtain ⟨isApproval, -, isLast⟩ := orphanAt_eq_some isIssue
    exact ⟨isApproval, isLast⟩
  · rintro ⟨isApproval, isLast⟩
    obtain ⟨message, riskLevel, timeoutMs, actionIs⟩ :=
      step.action_of_approval isApproval
    simp [orphanAt, actionIs, isLast]

theorem bindingAt_isSome_iff
    {step : WorkflowStep}
    {index : Nat} :
    (bindingAt workflow step index).isSome = true ↔
      step.type = .approval ∧ workflow.steps[index + 1]? ≠ none := by
  constructor
  · intro bound
    obtain ⟨binding, isBinding⟩ := Option.isSome_iff_exists.mp bound
    obtain ⟨-, -, gatedStep, isNext, -⟩ := bindingAt_eq_some isBinding
    exact ⟨type_of_bindingAt isBinding, by simp [isNext]⟩
  · rintro ⟨isApproval, hasNext⟩
    obtain ⟨message, riskLevel, timeoutMs, actionIs⟩ :=
      step.action_of_approval isApproval
    obtain ⟨gatedStep, isNext⟩ := Option.ne_none_iff_exists'.mp hasNext
    simp [bindingAt, actionIs, isNext]

/-- Without orphans, every approval step has a binding. -/
theorem length_bindings
    (noOrphan :
      ∀ step index,
        workflow.steps[index]? = some step → step.type = .approval →
          workflow.steps[index + 1]? ≠ none) :
    (approvalBindings workflow).length =
      workflow.steps.countP fun step => step.type = .approval := by
  have sameCount :
      (workflow.steps.zipIdx.countP fun placed =>
          (bindingAt workflow placed.1 placed.2).isSome) =
        workflow.steps.zipIdx.countP fun placed =>
          decide (placed.1.type = .approval) := by
    apply List.countP_congr
    rintro ⟨step, index⟩ placed
    have atIndex := List.mem_zipIdx_iff_getElem?.mp placed
    rw [bindingAt_isSome_iff, decide_eq_true_eq]
    constructor
    · exact And.left
    · intro isApproval
      exact ⟨isApproval, noOrphan step index atIndex isApproval⟩
  calc
    (approvalBindings workflow).length
        = workflow.steps.zipIdx.countP fun placed =>
            (bindingAt workflow placed.1 placed.2).isSome :=
      List.length_filterMap_eq_countP
    _ = workflow.steps.zipIdx.countP fun placed =>
          decide (placed.1.type = .approval) := sameCount
    _ = (workflow.steps.zipIdx.map Prod.fst).countP fun step =>
          decide (step.type = .approval) := by
      rw [List.countP_map]
      rfl
    _ = workflow.steps.countP fun step => step.type = .approval := by
      rw [List.zipIdx_map_fst]

theorem gatesFit_of_analysis
    {analysis : WorkflowApprovalAnalysis}
    (analyzed : analyzeWorkflowApprovals workflow = some analysis)
    (notBlocking : analysis.hasBlockingIssues = false) :
    GatesFit workflow.steps := by
  obtain ⟨short, few⟩ :=
    short_of_analyzeWorkflowApprovals
      (show (analyzeWorkflowApprovals workflow).isSome = true by
        rw [analyzed]; rfl)
  have noOrphan :
      ∀ step index,
        workflow.steps[index]? = some step → step.type = .approval →
          workflow.steps[index + 1]? ≠ none := by
    intro step index atIndex isApproval isLast
    simp only [analyzeWorkflowApprovals] at analyzed
    split at analyzed
    case isFalse => cases analyzed
    case isTrue parses =>
      obtain rfl := Option.some.inj analyzed
      simp only [decide_eq_false_iff_not, Nat.not_lt, Nat.le_zero,
        List.length_eq_zero_iff, List.filterMap_eq_nil_iff, Prod.forall]
        at notBlocking
      have notOrphan :=
        notBlocking step index (List.mem_zipIdx_iff_getElem?.mpr atIndex)
      have orphaned := orphanAt_isSome_iff.mpr ⟨isApproval, isLast⟩
      rw [notOrphan] at orphaned
      cases orphaned
  constructor
  case gates =>
    intro before gate after isSplit isApproval
    have atIndex := getElem?_of_split isSplit
    obtain ⟨gated, isNext⟩ :=
      Option.ne_none_iff_exists'.mp (noOrphan _ _ atIndex isApproval)
    cases after with
    | nil => simp [isSplit] at isNext
    | cons next rest =>
        have isGated : next = gated := by simpa [isSplit] using isNext
        subst isGated
        refine ⟨next, rest, rfl, ?_, ?_⟩
        · exact short _ gate atIndex (Or.inl isApproval)
        · exact
            short _ next isNext
              (Or.inr ⟨_, gate, rfl, atIndex, isApproval⟩)
  case few => rwa [← length_bindings noOrphan]

theorem analysis_of_gatesFit
    (fits : GatesFit workflow.steps) :
    ∃ analysis,
      analyzeWorkflowApprovals workflow = some analysis ∧
        analysis.hasBlockingIssues = false := by
  have gatesAt
      {step : WorkflowStep}
      {index : Nat}
      (atIndex : workflow.steps[index]? = some step)
      (isApproval : step.type = .approval) :
      ∃ gated,
        workflow.steps[index + 1]? = some gated ∧
          NonEmptyString.IsShort step.id ∧
          NonEmptyString.IsShort gated.id := by
    obtain ⟨gated, rest, isRest, shortGate, shortGated⟩ :=
      fits.gates _ step _ (split_at atIndex) isApproval
    refine ⟨gated, ?_, shortGate, shortGated⟩
    have isFirst := congrArg List.head? isRest
    rwa [List.head?_drop, List.head?_cons] at isFirst
  have noOrphan :
      ∀ step index,
        workflow.steps[index]? = some step → step.type = .approval →
          workflow.steps[index + 1]? ≠ none := by
    intro step index atIndex isApproval isLast
    obtain ⟨gated, isNext, -, -⟩ := gatesAt atIndex isApproval
    rw [isLast] at isNext
    cases isNext
  have short :
      ∀ index step,
        workflow.steps[index]? = some step →
          AtGate workflow index step → NonEmptyString.IsShort step.id := by
    intro index step atIndex atGate
    rcases atGate with isApproval | ⟨previous, gate, rfl, atPrevious, isApproval⟩
    · obtain ⟨gated, -, shortGate, -⟩ := gatesAt atIndex isApproval
      exact shortGate
    · obtain ⟨gated, isNext, -, shortGated⟩ := gatesAt atPrevious isApproval
      rw [atIndex] at isNext
      cases isNext
      exact shortGated
  have few : (approvalBindings workflow).length ≤ maxApprovalIssues := by
    rw [length_bindings noOrphan]
    exact fits.few
  obtain ⟨analysis, analyzed⟩ :=
    Option.isSome_iff_exists.mp
      (analyzeWorkflowApprovals_isSome_of_short short few)
  refine ⟨analysis, analyzed, ?_⟩
  simp only [analyzeWorkflowApprovals] at analyzed
  split at analyzed
  case isFalse => cases analyzed
  case isTrue parses =>
    obtain rfl := Option.some.inj analyzed
    simp only [decide_eq_false_iff_not, Nat.not_lt, Nat.le_zero,
      List.length_eq_zero_iff, List.filterMap_eq_nil_iff, Prod.forall]
    intro step index placed
    have atIndex := List.mem_zipIdx_iff_getElem?.mp placed
    by_contra orphaned
    obtain ⟨isApproval, isLast⟩ :=
      orphanAt_isSome_iff.mp (Option.isSome_iff_ne_none.mpr orphaned)
    exact noOrphan step index atIndex isApproval isLast

theorem approvals_iff :
    (∃ analysis,
      analyzeWorkflowApprovals workflow = some analysis ∧
        analysis.hasBlockingIssues = false) ↔
      GatesFit workflow.steps := by
  constructor
  · rintro ⟨analysis, analyzed, notBlocking⟩
    exact gatesFit_of_analysis analyzed notBlocking
  · exact analysis_of_gatesFit

/-- A workflow without blocking issues. -/
structure HasNoBlockingIssues (workflow : WorkflowDefinition) : Prop where
  inputs : (analyzeWorkflowInputs workflow).hasBlockingIssues = false
  outputs :
    ∃ analysis,
      analyzeWorkflowExtraction workflow = some analysis ∧
        analysis.hasBlockingIssues = false
  approvals :
    ∃ analysis,
      analyzeWorkflowApprovals workflow = some analysis ∧
        analysis.hasBlockingIssues = false

structure StepsFit
    (declared : List WorkflowVariable)
    (steps : List WorkflowStep) :
    Prop where
  inputs : InputsFit declared steps
  outputs : OutputsFlow steps
  gates : GatesFit steps

theorem hasNoBlockingIssues_iff :
    HasNoBlockingIssues workflow ↔
      StepsFit workflow.workflowVariables workflow.steps := by
  constructor
  · rintro ⟨inputs, outputs, approvals⟩
    exact
      ⟨inputs_iff.mp inputs, outputs_iff.mp outputs,
        approvals_iff.mp approvals⟩
  · rintro ⟨inputs, outputs, gates⟩
    exact
      ⟨inputs_iff.mpr inputs, outputs_iff.mpr outputs,
        approvals_iff.mpr gates⟩

end TaskTwin.Editor
