import TaskTwin.Editor.SoundVariables

/-!
# Output operations on sound definitions

Renaming an output keeps a definition sound, unless the schema would trim the
new name.  Removing an extract step does so exactly if another step stays and
an approval step in front of the removed one has another step to gate.
-/

namespace TaskTwin.Editor

open Schema Workflow
open TaskTwin.Engine (valueSource_located)

theorem outputName?_input (step : WorkflowStep) :
    step.input.outputName? =
      (producedOutput step).map fun output => output.1.text := by
  obtain ⟨id, name, action, refined⟩ := step
  cases action <;> rfl

theorem producedOutput_of_outputName?
    {step : WorkflowStep}
    {outputName : String}
    (isNamed : step.input.outputName? = some outputName) :
    ∃ name source,
      producedOutput step = some (name, source) ∧ name.text = outputName := by
  rw [outputName?_input, Option.map_eq_some_iff] at isNamed
  obtain ⟨⟨name, source⟩, produces, rfl⟩ := isNamed
  exact ⟨name, source, produces, rfl⟩

/-- An output source that reads the new name of an output. -/
def renamedOutput
    (currentName nextName : Identifier)
    (source : ValueSource) :
    ValueSource :=
  if source = .output currentName then .output nextName else source

def renamedName (currentName nextName name : Identifier) : Identifier :=
  if name = currentName then nextName else name

theorem replaceOutputSource_input
    (currentName nextName : Identifier)
    (source : ValueSource) :
    replaceOutputSource currentName.text nextName.text source.input =
      (renamedOutput currentName nextName source).input := by
  cases source with
  | output outputName =>
      by_cases isCurrent : outputName = currentName
      · simp [replaceOutputSource, renamedOutput, ValueSource.input, isCurrent]
      · have otherText : outputName.text ≠ currentName.text :=
          fun same => isCurrent (Identifier.eq_of_text same)
        simp [replaceOutputSource, renamedOutput, ValueSource.input, isCurrent,
          otherText]
  | _ => rfl

theorem withOutputName_input
    (nextName : Identifier)
    (step : WorkflowStep) :
    step.input.withOutputName nextName.text =
      (changeStep id (fun _ => nextName) step).input := by
  obtain ⟨stepId, name, action, refined⟩ := step
  cases action with
  | verify assertion timeoutMs => cases assertion <;> rfl
  | _ => rfl

variable
  {change : ValueSource → ValueSource}
  {rename rename' : Identifier → Identifier}

/-- A change of value sources after a change of output names. -/
theorem changeStep_changeStep (step : WorkflowStep) :
    changeStep change id (changeStep id rename step) =
      changeStep change rename step := by
  obtain ⟨stepId, name, action, refined⟩ := step
  cases action with
  | verify assertion timeoutMs => cases assertion <;> rfl
  | _ => rfl

/-- A change depends on the new name of the output that a step produces. -/
theorem changeStep_congr
    {step : WorkflowStep}
    (same :
      ∀ outputName source,
        producedOutput step = some (outputName, source) →
          rename outputName = rename' outputName) :
    changeStep change rename step = changeStep change rename' step := by
  obtain ⟨stepId, name, action, refined⟩ := step
  cases action with
  | extract locator source outputName outputLabel timeoutMs =>
      have sameName := same outputName source rfl
      simp only [changeStep, changeAction, sameName]
  | _ => rfl

/-- An output has one producer. -/
theorem OutputsFlow.eq_of_produced
    {steps : List WorkflowStep}
    (flow : OutputsFlow steps)
    {first second : WorkflowStep}
    (isFirst : first ∈ steps)
    (isSecond : second ∈ steps)
    {outputName : Identifier}
    {source source' : ExtractSource}
    (produces : producedOutput first = some (outputName, source))
    (produces' : producedOutput second = some (outputName, source')) :
    first = second := by
  obtain ⟨before, after, rfl⟩ := List.append_of_mem isFirst
  rcases List.mem_append.mp isSecond with isBefore | isHere
  · exact absurd produces'
      ((flow.flows before first after rfl).fresh _ _ produces second isBefore _)
  · rcases List.mem_cons.mp isHere with same | isAfter
    · exact same.symm
    · obtain ⟨between, rest, rfl⟩ := List.append_of_mem isAfter
      have flows :=
        flow.flows (before ++ first :: between) second rest
          (by rw [List.append_assoc, List.cons_append])
      exact absurd produces
        (flows.fresh _ _ produces' first (by simp) _)

theorem readsRenamed_renamedOutput (currentName nextName : Identifier) :
    ReadsRenamed (renamedOutput currentName nextName)
      (renamedName currentName nextName) := by
  intro source outputName isOutput
  unfold renamedOutput at isOutput
  by_cases isCurrent : source = .output currentName
  · rw [if_pos isCurrent] at isOutput
    refine ⟨currentName, isCurrent, ?_⟩
    rw [renamedName, if_pos rfl]
    exact ValueSource.output.inj isOutput
  · rw [if_neg isCurrent] at isOutput
    refine ⟨outputName, isOutput, ?_⟩
    apply if_neg
    rintro rfl
    exact isCurrent isOutput

/-- A name that no step produces is a free name for an output. -/
theorem renamesApart_renamedName
    {steps : List WorkflowStep}
    {currentName nextName : Identifier}
    (isFree :
      ∀ step ∈ steps, ∀ outputName source,
        producedOutput step = some (outputName, source) →
          outputName = nextName → nextName = currentName) :
    RenamesApart (renamedName currentName nextName) steps := by
  intro step isStep step' isStep' first second source source' produces
    produces' same
  have firstFree := isFree step isStep first source produces
  have secondFree := isFree step' isStep' second source' produces'
  unfold renamedName at same
  split at same
  case isTrue isCurrent =>
    split at same
    case isTrue isCurrent' => exact isCurrent.trans isCurrent'.symm
    case isFalse =>
      exact isCurrent.trans ((secondFree same.symm).symm.trans same)
  case isFalse =>
    split at same
    case isTrue isCurrent' =>
      exact (same.trans (firstFree same)).trans isCurrent'.symm
    case isFalse => exact same

theorem SourceFits.renamedOutput
    {declared : List WorkflowVariable}
    {target : ValueSourceTarget}
    {source : ValueSource}
    (fits : SourceFits declared target source)
    (currentName nextName : Identifier) :
    SourceFits declared target
      (Editor.renamedOutput currentName nextName source) := by
  unfold Editor.renamedOutput
  split
  case isTrue => trivial
  case isFalse => exact fits

/-- What becomes of a step when an output of a producer is renamed. -/
theorem renameReferences_input
    {parsed : WorkflowDefinition}
    (flow : OutputsFlow parsed.steps)
    {producer : WorkflowStep}
    (isProducer : producer ∈ parsed.steps)
    {currentName : Identifier}
    {source : ExtractSource}
    (produces : producedOutput producer = some (currentName, source))
    (nextName : Identifier)
    {step : WorkflowStep}
    (isStep : step ∈ parsed.steps) :
    renameReferences currentName.text nextName.text
        (if step.input.id = producer.input.id then
          step.input.withOutputName nextName.text
        else step.input) =
      (changeStep (renamedOutput currentName nextName)
        (renamedName currentName nextName) step).input := by
  have references :=
    mapStepReferences_input (replaceOutputSource_input currentName nextName)
  by_cases sameId : step.input.id = producer.input.id
  · have same : step = producer :=
      List.inj_on_of_nodup_map parsed.stepIdsUnique isStep isProducer sameId
    rw [if_pos sameId, withOutputName_input]
    apply (references _).trans
    rw [changeStep_changeStep]
    congr 1
    apply changeStep_congr
    intro outputName source' produces'
    rw [same, produces] at produces'
    obtain ⟨rfl, -⟩ := Prod.mk.inj (Option.some.inj produces')
    exact (if_pos rfl).symm
  · rw [if_neg sameId]
    apply (references step).trans
    congr 1
    apply changeStep_congr
    intro outputName source' produces'
    apply Eq.symm
    apply if_neg
    rintro rfl
    have same := flow.eq_of_produced isStep isProducer produces' produces
    exact sameId (congrArg WorkflowStep.id same)

theorem sound_renameWorkflowOutput
    {workflow changed : WorkflowDefinitionInput}
    {currentName nextName : String}
    (sound : Sound workflow)
    (isTrimmed : trim nextName = nextName)
    (isOk :
      renameWorkflowOutput workflow currentName nextName = .ok changed) :
    Sound changed := by
  obtain ⟨parsed, rfl, parse, fits⟩ := sound
  simp only [renameWorkflowOutput] at isOk
  split at isOk
  case h_1 => cases isOk
  case h_2 producer isFound =>
    split at isOk
    case isTrue => cases isOk
    case isFalse parses =>
      split at isOk
      case isTrue => cases isOk
      case isFalse noCollision =>
        split at isOk
        case isTrue =>
          obtain rfl := WorkflowOperationResult.ok.inj isOk
          exact ⟨parsed, rfl, parse, fits⟩
        case isFalse isOther =>
          obtain rfl := WorkflowOperationResult.ok.inj isOk
          obtain ⟨next, rfl⟩ := exists_identifier isTrimmed parses
          obtain ⟨step, isStep, rfl⟩ :=
            List.mem_map.mp (List.mem_of_find?_eq_some isFound)
          have isNamed : step.input.outputName? = some currentName := by
            simpa using List.find?_some isFound
          obtain ⟨current, source, produces, rfl⟩ :=
            producedOutput_of_outputName? isNamed
          have isFree :
              ∀ other ∈ parsed.steps, ∀ outputName source,
                producedOutput other = some (outputName, source) →
                  outputName ≠ next := by
            intro other isOtherStep outputName source' produces' isNext
            apply noCollision
            refine ⟨isOther, other.input, List.mem_map_of_mem isOtherStep, ?_⟩
            rw [outputName?_input, produces', isNext]
            rfl
          have isRenamed :
              (parsed.input.steps.map fun other =>
                  renameReferences current.text next.text
                    (if other.id = step.input.id then
                      other.withOutputName next.text
                    else other)) =
                (parsed.steps.map
                    (changeStep (renamedOutput current next)
                      (renamedName current next))).map
                  WorkflowStep.input := by
            rw [List.map_map]
            apply (List.map_map).trans
            apply List.map_congr_left
            intro other isOtherStep
            exact
              renameReferences_input fits.outputs isStep produces next
                isOtherStep
          rw [isRenamed]
          apply sound_withParts parsed
          case nonEmpty => simpa using parsed.stepsNonEmpty
          case distinctSteps =>
            rw [map_id_changeStep]
            exact parsed.stepIdsUnique
          case distinct => exact parsed.variableNamesUnique
          case parse => exact parse
          case fits =>
            apply fits.map
            case sources =>
              intro target source' fitsBefore
              exact fitsBefore.renamedOutput current next
            case reads => exact readsRenamed_renamedOutput current next
            case apart =>
              apply renamesApart_renamedName
              intro other isOtherStep outputName source' produces' isNext
              exact absurd isNext (isFree other isOtherStep _ _ produces')

/--
An extract step that can go: another step stays, and an approval step right in
front of it has another step, with a short identifier, to gate.
-/
def ExtractStepCanGo
    (workflow : WorkflowDefinitionInput)
    (stepId : String) :
    Prop :=
  ∀ before removed after,
    workflow.steps = before ++ removed :: after →
    removed.id.text = stepId →
    removed.action.type = .extract →
    before ++ after ≠ [] ∧
      ∀ gate ∈ before.getLast?, gate.action.type = .approval →
        ∃ next ∈ after.head?, NonEmptyString.IsShort next.id

@[simp] theorem type_input (step : WorkflowStep) :
    step.input.action.type = step.type := by
  obtain ⟨id, name, action, refined⟩ := step
  cases action <;> rfl

theorem type_of_producedOutput
    {step : WorkflowStep}
    {outputName : Identifier}
    {source : ExtractSource}
    (produces : producedOutput step = some (outputName, source)) :
    step.type = .extract := by
  obtain ⟨locator, outputLabel, timeoutMs, isExtract⟩ :=
    producedOutput_extract produces
  rw [WorkflowStep.type, isExtract]
  rfl

variable
  {parsed : WorkflowDefinition}
  {removed : WorkflowStep}
  {changed : WorkflowDefinitionInput}

/-- A step that reads an output is among the usages of the output. -/
theorem unread_of_noOutputUsages
    (parse : VariablesParse parsed.workflowVariables)
    {outputName : Identifier}
    {usages : List WorkflowOutputUsage}
    (areUsages : outputUsages parsed.input = some usages)
    (noUsages :
      (usages.filter fun usage =>
          usage.outputName.text = outputName.text).isEmpty =
        true)
    {step : WorkflowStep}
    (isStep : step ∈ parsed.steps)
    {read : Identifier}
    {target : ValueSourceTarget}
    (isRead : step.valueSource = some (.output read, target)) :
    read ≠ outputName := by
  rintro rfl
  simp only [outputUsages, WorkflowDefinition.parse_input parse,
    analyzeWorkflowExtraction, Option.map_eq_some_iff] at areUsages
  obtain ⟨analysis, isAnalysis, rfl⟩ := areUsages
  split at isAnalysis
  case isFalse => cases isAnalysis
  case isTrue =>
    obtain rfl := Option.some.inj isAnalysis
    obtain ⟨index, atIndex⟩ := List.mem_iff_getElem?.mp isStep
    have isLocated := valueSource_located atIndex isRead
    rw [List.isEmpty_iff, List.filter_eq_nil_iff] at noUsages
    apply noUsages _ (List.mem_filterMap.mpr ⟨_, isLocated, rfl⟩)
    exact decide_eq_true rfl

/-- What removing an extract step does to a sound definition. -/
structure RemovesStep
    (parsed : WorkflowDefinition)
    (removed : WorkflowStep)
    (changed : WorkflowDefinitionInput) :
    Prop where
  isStep : removed ∈ parsed.steps
  isExtract : removed.type = .extract
  unread :
    ∀ step ∈ parsed.steps, ∀ outputName target source,
      step.valueSource = some (.output outputName, target) →
        producedOutput removed ≠ some (outputName, source)
  isChanged :
    changed =
      { parsed.input with
        steps :=
          parsed.input.steps.filter fun step =>
            step.id.text ≠ removed.id.text }

theorem filter_id_ne
    {before after : List WorkflowStep}
    {removed : WorkflowStep}
    (distinct : ((before ++ removed :: after).map WorkflowStep.id).Nodup) :
    ((before ++ removed :: after).map WorkflowStep.input).filter
        (fun step => step.id.text ≠ removed.id.text) =
      (before ++ after).map WorkflowStep.input := by
  have others :
      ∀ step ∈ before ++ after, step.id.text ≠ removed.id.text := by
    intro step isOther sameText
    have sameId := NonEmptyString.eq_of_text sameText
    rw [List.map_append, List.map_cons, List.nodup_middle, List.nodup_cons,
      ← List.map_append] at distinct
    apply distinct.1
    rw [← sameId]
    exact List.mem_map_of_mem isOther
  have keeps
      {steps : List WorkflowStep}
      (among : ∀ step ∈ steps, step ∈ before ++ after) :
      (steps.map WorkflowStep.input).filter
          (fun step => step.id.text ≠ removed.id.text) =
        steps.map WorkflowStep.input := by
    rw [List.filter_eq_self]
    intro input isInput
    obtain ⟨step, isStep, rfl⟩ := List.mem_map.mp isInput
    exact decide_eq_true (others step (among step isStep))
  rw [List.map_append, List.map_cons, List.filter_append,
    keeps fun step => List.mem_append_left _, List.filter_cons_of_neg,
    keeps fun step => List.mem_append_right _, List.map_append]
  simp [WorkflowStep.input]

theorem removesStep_of_ok
    {stepId : String}
    (parse : VariablesParse parsed.workflowVariables)
    (isOk : removeExtractStep parsed.input stepId = .ok changed) :
    ∃ removed, removed.id.text = stepId ∧ RemovesStep parsed removed changed := by
  simp only [removeExtractStep] at isOk
  split at isOk
  case h_1 => cases isOk
  case h_2 outputName isNamed =>
    split at isOk
    case h_1 => cases isOk
    case h_2 usages areUsages =>
      split at isOk
      case isFalse => cases isOk
      case isTrue noUsages =>
        obtain ⟨candidate, isFound, isProducer⟩ :=
          Option.bind_eq_some_iff.mp isNamed
        obtain ⟨removed, isStep, rfl⟩ :=
          List.mem_map.mp (List.mem_of_find?_eq_some isFound)
        have isWanted : removed.input.id.text = stepId := by
          simpa using List.find?_some isFound
        obtain rfl : removed.id.text = stepId := isWanted
        obtain ⟨name, source, produces, rfl⟩ :=
          producedOutput_of_outputName? isProducer
        refine ⟨removed, rfl, ?_⟩
        constructor
        case isStep => exact isStep
        case isExtract => exact type_of_producedOutput produces
        case isChanged => exact (WorkflowOperationResult.ok.inj isOk).symm
        case unread =>
          intro step isStep read target source' isRead produces'
          rw [produces] at produces'
          obtain ⟨rfl, -⟩ := Prod.mk.inj (Option.some.inj produces')
          exact
            unread_of_noOutputUsages parse areUsages noUsages isStep isRead rfl

/-- The definition without the step, by the steps around it. -/
theorem RemovesStep.changed_eq
    (removes : RemovesStep parsed removed changed)
    {before after : List WorkflowStep}
    (isSplit : parsed.steps = before ++ removed :: after) :
    changed =
      { parsed.input with
        steps := (before ++ after).map WorkflowStep.input } := by
  have distinct := parsed.stepIdsUnique
  rw [isSplit] at distinct
  have isFiltered := filter_id_ne distinct
  rw [← isSplit] at isFiltered
  rw [removes.isChanged, ← isFiltered]
  rfl

theorem RemovesStep.sound
    (removes : RemovesStep parsed removed changed)
    (parse : VariablesParse parsed.workflowVariables)
    (fits : StepsFit parsed.workflowVariables parsed.steps)
    (canGo : ExtractStepCanGo parsed.input removed.id.text) :
    Sound changed := by
  obtain ⟨before, after, isSplit⟩ := List.append_of_mem removes.isStep
  have isSplitInput :
      parsed.input.steps =
        before.map WorkflowStep.input ++
          removed.input :: after.map WorkflowStep.input := by
    rw [← List.map_cons, ← List.map_append, ← isSplit]
    rfl
  obtain ⟨another, gated⟩ :=
    canGo _ _ _ isSplitInput rfl ((type_input removed).trans removes.isExtract)
  have among : ∀ step ∈ before ++ after, step ∈ parsed.steps := by
    rw [isSplit]
    intro step isStep
    rcases List.mem_append.mp isStep with isBefore | isAfter
    · exact List.mem_append_left _ isBefore
    · exact List.mem_append_right _ (List.mem_cons_of_mem _ isAfter)
  have shorter :
      ((before ++ after).map WorkflowStep.id).Sublist
        (parsed.steps.map WorkflowStep.id) := by
    rw [isSplit]
    exact ((List.sublist_cons_self removed after).append_left before).map _
  rw [removes.changed_eq isSplit]
  apply sound_withParts parsed
  case nonEmpty => simpa using another
  case distinctSteps => exact parsed.stepIdsUnique.sublist shorter
  case distinct => exact parsed.variableNamesUnique
  case parse => exact parse
  case fits =>
    rw [isSplit] at fits
    apply fits.without
    · intro step isOther
      exact removes.unread step (among step isOther)
    · intro gate isGate isApproval
      have isGateInput :
          gate.input ∈ (before.map WorkflowStep.input).getLast? := by
        rw [List.getLast?_map, Option.mem_def.mp isGate]
        rfl
      obtain ⟨next, isNext, short⟩ :=
        gated gate.input isGateInput ((type_input gate).trans isApproval)
      rw [Option.mem_def, List.head?_map, Option.map_eq_some_iff] at isNext
      obtain ⟨nextStep, isNextStep, rfl⟩ := isNext
      exact ⟨nextStep, isNextStep, short⟩

theorem sound_removeExtractStep
    {workflow changed : WorkflowDefinitionInput}
    {stepId : String}
    (sound : Sound workflow)
    (canGo : ExtractStepCanGo workflow stepId)
    (isOk : removeExtractStep workflow stepId = .ok changed) :
    Sound changed := by
  obtain ⟨parsed, rfl, parse, fits⟩ := sound
  obtain ⟨removed, rfl, removes⟩ := removesStep_of_ok parse isOk
  exact removes.sound parse fits canGo

end TaskTwin.Editor
