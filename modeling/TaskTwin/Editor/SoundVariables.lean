import TaskTwin.Editor.StepChanges
import TaskTwin.Store.Table

/-!
# Variable operations on sound definitions

What the schema reads of a definition is sound when its steps fit.  The
operations on variables and value sources take a sound definition to a sound
one, unless a new name is one that the schema would trim.
-/

namespace TaskTwin.Editor

open Schema Workflow Collection
open TaskTwin.Engine (valueSource_located)

/-- A definition as the schema reads it, without blocking issues. -/
def Sound (workflow : WorkflowDefinitionInput) : Prop :=
  ∃ parsed : WorkflowDefinition,
    workflow = parsed.input ∧ VariablesParse parsed.workflowVariables ∧
      StepsFit parsed.workflowVariables parsed.steps

/-- A definition that is valid and without blocking issues. -/
def IsClean (workflow : WorkflowDefinitionInput) : Prop :=
  ∃ parsed, workflow.parse = some parsed ∧ HasNoBlockingIssues parsed

variable {workflow : WorkflowDefinitionInput} {parsed : WorkflowDefinition}

theorem Sound.isClean
    (sound : Sound workflow) :
    IsClean workflow := by
  obtain ⟨parsed, rfl, parse, fits⟩ := sound
  exact
    ⟨parsed, WorkflowDefinition.parse_input parse,
      hasNoBlockingIssues_iff.mpr fits⟩

theorem variablesParse_of_parse
    (isParsed : workflow.parse = some parsed) :
    VariablesParse parsed.workflowVariables := by
  simp only [WorkflowDefinitionInput.parse, Option.bind_eq_bind,
    Option.bind_eq_some_iff] at isParsed
  obtain ⟨declared, areVariables, steps, -, isParsed⟩ := isParsed
  split at isParsed
  case isFalse => cases isParsed
  case isTrue valid =>
    obtain rfl := Option.some.inj isParsed
    intro declaration isDeclared
    obtain ⟨input, -, isVariable⟩ :=
      (mem_of_mapM areVariables declaration).mp isDeclared
    exact WorkflowVariableInput.parse_parse isVariable

/-- What the schema reads of a valid definition without blocking issues. -/
theorem sound_of_parse
    (isParsed : workflow.parse = some parsed)
    (clean : HasNoBlockingIssues parsed) :
    Sound parsed.input :=
  ⟨parsed, rfl, variablesParse_of_parse isParsed,
    hasNoBlockingIssues_iff.mp clean⟩

/-- A parsed definition with other variables and steps. -/
theorem exists_withParts
    (parsed : WorkflowDefinition)
    {declared : List WorkflowVariable}
    {steps : List WorkflowStep}
    (nonEmpty : steps ≠ [])
    (distinctSteps : (steps.map WorkflowStep.id).Nodup)
    (distinct : (declared.map WorkflowVariable.name).Nodup) :
    ∃ changed : WorkflowDefinition,
      changed.workflowVariables = declared ∧ changed.steps = steps ∧
        changed.input =
          { parsed.input with
            workflowVariables := declared.map WorkflowVariable.input
            steps := steps.map WorkflowStep.input } :=
  ⟨{ parsed with
      workflowVariables := declared
      steps
      stepsNonEmpty := nonEmpty
      stepIdsUnique := distinctSteps
      variableNamesUnique := distinct },
    rfl, rfl, rfl⟩

theorem sound_withParts
    (parsed : WorkflowDefinition)
    {declared : List WorkflowVariable}
    {steps : List WorkflowStep}
    (nonEmpty : steps ≠ [])
    (distinctSteps : (steps.map WorkflowStep.id).Nodup)
    (distinct : (declared.map WorkflowVariable.name).Nodup)
    (parse : VariablesParse declared)
    (fits : StepsFit declared steps) :
    Sound
      { parsed.input with
        workflowVariables := declared.map WorkflowVariable.input
        steps := steps.map WorkflowStep.input } := by
  obtain ⟨changed, rfl, rfl, isInput⟩ :=
    exists_withParts parsed nonEmpty distinctSteps distinct
  exact ⟨changed, isInput.symm, parse, fits⟩

/-- Other variables under the same steps. -/
theorem sound_withVariables
    {declared : List WorkflowVariable}
    (fits : StepsFit parsed.workflowVariables parsed.steps)
    (distinct : (declared.map WorkflowVariable.name).Nodup)
    (parse : VariablesParse declared)
    (inputs : InputsFit declared parsed.steps) :
    Sound
      { parsed.input with
        workflowVariables := declared.map WorkflowVariable.input } :=
  sound_withParts parsed parsed.stepsNonEmpty parsed.stepIdsUnique distinct
    parse ⟨inputs, fits.outputs, fits.gates⟩

theorem SourceFits.mono
    {declared declared' : List WorkflowVariable}
    {target : ValueSourceTarget}
    {source : ValueSource}
    (fits : SourceFits declared target source)
    (kept :
      ∀ declaration ∈ declared,
        source = .variable declaration.name → declaration ∈ declared') :
    SourceFits declared' target source := by
  cases source with
  | «variable» variableName =>
      obtain ⟨declaration, isDeclared, rfl, compatible⟩ := fits
      exact ⟨declaration, kept declaration isDeclared rfl, rfl, compatible⟩
  | _ => exact fits

variable
  {workflow changed : WorkflowDefinitionInput}
  {declared : List WorkflowVariable}
  {parsed : WorkflowDefinition}
  {variableName : String}

theorem sound_addVariable
    {variableInput : WorkflowVariableInput}
    (sound : Sound workflow)
    (isOk : addVariable workflow variableInput = .ok changed) :
    Sound changed := by
  obtain ⟨parsed, rfl, parse, fits⟩ := sound
  unfold addVariable at isOk
  split at isOk
  case h_1 => cases isOk
  case h_2 added isAdded =>
    split at isOk
    case isTrue => cases isOk
    case isFalse noCollision =>
      obtain rfl := WorkflowOperationResult.ok.inj isOk
      have fresh :
          ∀ declaration ∈ parsed.workflowVariables,
            declaration.name ≠ added.name := by
        intro declaration isDeclared sameName
        apply noCollision
        rw [List.any_eq_true]
        refine ⟨declaration.input, List.mem_map_of_mem isDeclared, ?_⟩
        rw [← sameName]
        exact decide_eq_true rfl
      have isAppend :
          parsed.input.workflowVariables ++ [added.input] =
            (parsed.workflowVariables ++ [added]).map
              WorkflowVariable.input := by
        rw [List.map_append]
        rfl
      rw [isAppend]
      apply sound_withVariables fits
      · exact Store.nodup_map_concat parsed.variableNamesUnique fresh
      · intro declaration isDeclared
        rcases List.mem_append.mp isDeclared with isOld | isNew
        · exact parse declaration isOld
        · obtain rfl := List.mem_singleton.mp isNew
          exact WorkflowVariableInput.parse_parse isAdded
      · intro step isStep source target isRead
        apply (fits.inputs step isStep source target isRead).mono
        intro declaration isDeclared _
        exact List.mem_append_left _ isDeclared

/-- A position that is found has a variable there. -/
theorem getElem?_of_findIdx?
    {isWanted : WorkflowVariableInput → Bool}
    {index : Nat}
    (isFound :
      (declared.map WorkflowVariable.input).findIdx? isWanted = some index) :
    ∃ declaration,
      declared[index]? = some declaration ∧
        isWanted declaration.input = true := by
  rw [List.findIdx?_map] at isFound
  obtain ⟨inside, wanted, -⟩ := List.findIdx?_eq_some_iff_getElem.mp isFound
  exact ⟨declared[index], List.getElem?_eq_getElem inside, wanted⟩

theorem modify_input
    {index : Nat}
    {declaration replacement : WorkflowVariable}
    (atIndex : declared[index]? = some declaration)
    {change : WorkflowVariableInput → WorkflowVariableInput}
    (isChange : change declaration.input = replacement.input) :
    (declared.map WorkflowVariable.input).modify index change =
      (declared.set index replacement).map WorkflowVariable.input := by
  rw [List.modify_eq_set_getElem?, List.getElem?_map, atIndex, List.map_set,
    ← isChange]
  rfl

theorem sourceIssue_incompatible
    (distinct : (declared.map WorkflowVariable.name).Nodup)
    {declaration : WorkflowVariable}
    (isDeclared : declaration ∈ declared)
    {located : LocatedValueSource}
    (isRead : located.source = .variable declaration.name)
    (incompatible :
      ¬isVariableTypeCompatible located.target declaration.valueType = true) :
    sourceIssue declared located =
      some
        (issueForUsage .incompatibleVariableType located
          (some declaration.name)) := by
  have isFound :
      (declared.find? fun other => other.name = declaration.name) =
        some declaration :=
    Store.findUnique_of_mem distinct isDeclared
  unfold sourceIssue
  simp only [isRead, isFound, if_neg incompatible]

/-- A variable without a reported use fits where it is used. -/
theorem compatible_of_noIssues
    {candidate : WorkflowDefinitionInput}
    {parsed : WorkflowDefinition}
    (isParsed : candidate.parse = some parsed)
    {declaration : WorkflowVariable}
    (isDeclared : declaration ∈ parsed.workflowVariables)
    (noIssues :
      (incompatibleVariableIssues candidate declaration.name.text).isEmpty =
        true)
    {step : WorkflowStep}
    (isStep : step ∈ parsed.steps)
    {target : ValueSourceTarget}
    (isRead : step.valueSource = some (.variable declaration.name, target)) :
    isVariableTypeCompatible target declaration.valueType = true := by
  obtain ⟨index, atIndex⟩ := List.mem_iff_getElem?.mp isStep
  have isLocated := valueSource_located atIndex isRead
  simp only [incompatibleVariableIssues, isParsed, List.isEmpty_iff,
    List.filter_eq_nil_iff] at noIssues
  by_contra incompatible
  apply noIssues _ (List.mem_append_left _ (List.mem_filterMap.mpr ⟨_, isLocated,
    sourceIssue_incompatible parsed.variableNamesUnique isDeclared rfl
      incompatible⟩))
  simp [issueForUsage]

/-- Variables with another one in the place of one of them. -/
structure Replaced
    (declared : List WorkflowVariable)
    (earlier replacement : WorkflowVariable)
    (declared' : List WorkflowVariable) :
    Prop where
  distinct : (declared'.map WorkflowVariable.name).Nodup
  there : replacement ∈ declared'
  kept :
    ∀ declaration ∈ declared,
      declaration.name ≠ earlier.name → declaration ∈ declared'
  only :
    ∀ declaration ∈ declared',
      declaration = replacement ∨ declaration ∈ declared

theorem replaced_split
    {before after : List WorkflowVariable}
    {earlier replacement : WorkflowVariable}
    (distinct :
      ((before ++ earlier :: after).map WorkflowVariable.name).Nodup)
    (isFree :
      ∀ declaration ∈ before ++ earlier :: after,
        declaration.name ≠ earlier.name →
          declaration.name ≠ replacement.name) :
    Replaced (before ++ earlier :: after) earlier replacement
      (before ++ replacement :: after) := by
  rw [List.map_append, List.map_cons, List.nodup_middle, List.nodup_cons,
    ← List.map_append] at distinct
  constructor
  case distinct =>
    rw [List.map_append, List.map_cons, List.nodup_middle, List.nodup_cons,
      ← List.map_append]
    refine ⟨?_, distinct.2⟩
    intro isTaken
    obtain ⟨declaration, isOther, sameName⟩ := List.mem_map.mp isTaken
    apply isFree declaration _ _ sameName
    · rcases List.mem_append.mp isOther with isBefore | isAfter
      · exact List.mem_append_left _ isBefore
      · exact List.mem_append_right _ (List.mem_cons_of_mem _ isAfter)
    · intro isEarlier
      apply distinct.1
      rw [← isEarlier]
      exact List.mem_map_of_mem isOther
  case there => exact List.mem_append_right _ List.mem_cons_self
  case kept =>
    intro declaration isDeclared otherName
    have isOther : declaration ≠ earlier := fun same =>
      otherName (congrArg WorkflowVariable.name same)
    simpa [isOther, or_left_comm] using Or.inr isDeclared
  case only =>
    intro declaration isThere
    rcases List.mem_append.mp isThere with isBefore | isHere
    · exact Or.inr (List.mem_append_left _ isBefore)
    · rcases List.mem_cons.mp isHere with same | isAfter
      · exact Or.inl same
      · right
        exact List.mem_append_right _ (List.mem_cons_of_mem _ isAfter)

theorem replaced_set
    (distinct : (declared.map WorkflowVariable.name).Nodup)
    {index : Nat}
    {earlier replacement : WorkflowVariable}
    (atIndex : declared[index]? = some earlier)
    (isFree :
      ∀ declaration ∈ declared,
        declaration.name ≠ earlier.name →
          declaration.name ≠ replacement.name) :
    Replaced declared earlier replacement (declared.set index replacement) := by
  have isSplit := split_at atIndex
  obtain ⟨inside, -⟩ := List.getElem?_eq_some_iff.mp atIndex
  rw [List.set_eq_take_append_cons_drop, if_pos inside]
  rw [isSplit] at distinct isFree
  have replaced := replaced_split distinct isFree
  rwa [← isSplit] at replaced

theorem sound_updateVariable
    {replacementInput : WorkflowVariableInput}
    (sound : Sound workflow)
    (isOk :
      updateVariable workflow variableName replacementInput = .ok changed) :
    Sound changed := by
  obtain ⟨parsed, rfl, parse, fits⟩ := sound
  simp only [updateVariable] at isOk
  split at isOk
  case h_1 => cases isOk
  case h_2 index isFound =>
    split at isOk
    case h_1 => cases isOk
    case h_2 replacement isReplacement =>
      obtain ⟨isParsed, isName⟩ := Option.filter_eq_some_iff.mp isReplacement
      obtain rfl := of_decide_eq_true isName
      split at isOk
      case isFalse => cases isOk
      case isTrue noIssues =>
        obtain rfl := WorkflowOperationResult.ok.inj isOk
        obtain ⟨earlier, atIndex, isWanted⟩ := getElem?_of_findIdx? isFound
        have sameName : earlier.name = replacement.name :=
          Identifier.eq_of_text (of_decide_eq_true isWanted)
        have replaced : Replaced _ earlier replacement _ :=
          replaced_set parsed.variableNamesUnique atIndex
            fun _ _ otherName => sameName ▸ otherName
        obtain ⟨updated, areVariables, areSteps, isInput⟩ :=
          exists_withParts parsed parsed.stepsNonEmpty parsed.stepIdsUnique
            replaced.distinct
        have parse' : VariablesParse updated.workflowVariables := by
          rw [areVariables]
          intro declaration isThere
          rcases replaced.only declaration isThere with rfl | isOld
          · exact WorkflowVariableInput.parse_parse isParsed
          · exact parse declaration isOld
        have isUpdated :
            { parsed.input with
              workflowVariables :=
                parsed.input.workflowVariables.set index replacement.input } =
              updated.input := by
          rw [isInput, List.map_set]
          rfl
        rw [isUpdated] at noIssues ⊢
        refine ⟨updated, rfl, parse', ?_, ?_, ?_⟩
        · intro step isStep source target isRead
          have isOldStep : step ∈ parsed.steps := areSteps ▸ isStep
          have fitsBefore := fits.inputs step isOldStep source target isRead
          have isThere : replacement ∈ updated.workflowVariables :=
            areVariables ▸ replaced.there
          by_cases isVariable : source = .variable replacement.name
          · subst isVariable
            refine ⟨replacement, isThere, rfl, ?_⟩
            exact
              compatible_of_noIssues (WorkflowDefinition.parse_input parse')
                isThere noIssues isStep isRead
          · apply fitsBefore.mono
            intro declaration isDeclared readsIt
            rw [areVariables]
            apply replaced.kept declaration isDeclared
            intro isEarlier
            apply isVariable
            rw [← sameName, ← isEarlier]
            exact readsIt
        · exact areSteps ▸ fits.outputs
        · exact areSteps ▸ fits.gates

/-- A variable source that reads the new name of a variable. -/
def renamedVariable
    (currentName nextName : Identifier)
    (source : ValueSource) :
    ValueSource :=
  if source = .variable currentName then .variable nextName else source

theorem renameSource_input
    (currentName nextName : Identifier)
    (source : ValueSource) :
    renameSource currentName.text nextName.text source.input =
      (renamedVariable currentName nextName source).input := by
  cases source with
  | «variable» variableName =>
      by_cases isCurrent : variableName = currentName
      · simp [renameSource, renamedVariable, ValueSource.input, isCurrent]
      · have otherText : variableName.text ≠ currentName.text :=
          fun same => isCurrent (Identifier.eq_of_text same)
        simp [renameSource, renamedVariable, ValueSource.input, isCurrent,
          otherText]
  | _ => rfl

/-- Changing the references of a step is changing its value sources. -/
theorem mapStepReferences_input
    {change : ValueSourceInput → ValueSourceInput}
    {change' : ValueSource → ValueSource}
    (same : ∀ source : ValueSource, change source.input = (change' source).input)
    (step : WorkflowStep) :
    mapStepReferences change step.input =
      (changeStep change' id step).input := by
  obtain ⟨id, name, action, refined⟩ := step
  cases action with
  | verify assertion timeoutMs =>
      cases assertion <;>
        simp [mapStepReferences, WorkflowStep.input, changeStep, changeAction,
          changeAssertion, WorkflowStepAction.input, WorkflowAssertion.input,
          same]
  | _ =>
      simp [mapStepReferences, WorkflowStep.input, changeStep, changeAction,
        WorkflowStepAction.input, same]

/-- A variable parses under another name. -/
theorem parse_renamed
    {declaration : WorkflowVariable}
    (parse : declaration.input.parse = some declaration)
    (name : Identifier) :
    WorkflowVariableInput.parse
        (WorkflowVariable.input { declaration with name }) =
      some { declaration with name } := by
  simp only [WorkflowVariableInput.parse, Option.bind_eq_bind,
    Option.bind_eq_some_iff] at parse
  obtain ⟨_, _, label, isLabel, description, isDescription, isParsed⟩ := parse
  have sameLabel := congrArg WorkflowVariable.label (Option.some.inj isParsed)
  have sameDescription :=
    congrArg WorkflowVariable.description (Option.some.inj isParsed)
  simp only at sameLabel sameDescription
  subst sameLabel sameDescription
  simp only [WorkflowVariable.input] at isLabel isDescription
  simp only [WorkflowVariableInput.parse, WorkflowVariable.input,
    parseIdentifier_text, isLabel, isDescription, Option.bind_eq_bind,
    Option.bind_some]

/-- What a name stands for is there under the new name. -/
theorem SourceFits.renamed
    {declared declared' : List WorkflowVariable}
    {earlier : WorkflowVariable}
    {nextName : Identifier}
    (distinct : (declared.map WorkflowVariable.name).Nodup)
    (isDeclared : earlier ∈ declared)
    (replaced :
      Replaced declared earlier { earlier with name := nextName } declared')
    {target : ValueSourceTarget}
    {source : ValueSource}
    (fits : SourceFits declared target source) :
    SourceFits declared' target
      (renamedVariable earlier.name nextName source) := by
  by_cases isCurrent : source = .variable earlier.name
  · rw [renamedVariable, if_pos isCurrent]
    subst isCurrent
    obtain ⟨declaration, isThere, sameName, compatible⟩ := fits
    have same : declaration = earlier :=
      Store.eq_of_key distinct isThere isDeclared sameName
    exact ⟨_, replaced.there, rfl, same ▸ compatible⟩
  · rw [renamedVariable, if_neg isCurrent]
    apply fits.mono
    intro declaration isThere readsIt
    apply replaced.kept declaration isThere
    intro sameName
    exact isCurrent (sameName ▸ readsIt)

theorem readsRenamed_renamedVariable (currentName nextName : Identifier) :
    ReadsRenamed (renamedVariable currentName nextName) id := by
  intro source outputName isOutput
  unfold renamedVariable at isOutput
  split at isOutput
  case isTrue => cases isOutput
  case isFalse => exact ⟨outputName, isOutput, rfl⟩

/-- A name that the schema does not trim is the name it reads. -/
theorem exists_identifier
    {text : String}
    (isTrimmed : trim text = text)
    (parses : ¬(parseIdentifier text).isNone = true) :
    ∃ name : Identifier, name.text = text := by
  cases isParsed : parseIdentifier text with
  | none => simp [isParsed] at parses
  | some name =>
      have sameText := parseIdentifier_eq_some_iff.mp isParsed
      exact ⟨name, sameText.symm.trans isTrimmed⟩

theorem map_id_changeStep
    {change : ValueSource → ValueSource}
    {rename : Identifier → Identifier}
    (steps : List WorkflowStep) :
    (steps.map (changeStep change rename)).map WorkflowStep.id =
      steps.map WorkflowStep.id := by
  rw [List.map_map]
  rfl

theorem sound_renameVariable
    {currentName nextName : String}
    (sound : Sound workflow)
    (isTrimmed : trim nextName = nextName)
    (isOk : renameVariable workflow currentName nextName = .ok changed) :
    Sound changed := by
  obtain ⟨parsed, rfl, parse, fits⟩ := sound
  simp only [renameVariable] at isOk
  split at isOk
  case h_1 => cases isOk
  case h_2 index isFound =>
    split at isOk
    case isTrue => cases isOk
    case isFalse parses =>
      split at isOk
      case isTrue => cases isOk
      case isFalse noCollision =>
        split at isOk
        case isTrue =>
          obtain rfl := WorkflowOperationResult.ok.inj isOk
          exact ⟨parsed, rfl, parse, fits⟩
        case isFalse isOther =>
          obtain rfl := WorkflowOperationResult.ok.inj isOk
          obtain ⟨next, rfl⟩ := exists_identifier isTrimmed parses
          obtain ⟨earlier, atIndex, isWanted⟩ := getElem?_of_findIdx? isFound
          obtain rfl : earlier.name.text = currentName :=
            of_decide_eq_true isWanted
          have isFree :
              ∀ declaration ∈ parsed.workflowVariables,
                declaration.name ≠ next := by
            intro declaration isDeclared isNext
            apply noCollision
            exact
              ⟨isOther, declaration.input, List.mem_map_of_mem isDeclared,
                congrArg Identifier.text isNext⟩
          have distinct := parsed.variableNamesUnique
          have replaced :
              Replaced _ earlier { earlier with name := next } _ :=
            replaced_set distinct atIndex
              fun declaration isDeclared _ => isFree declaration isDeclared
          have isDeclared := List.mem_of_getElem? atIndex
          have isRenamed :
              parsed.input.steps.map
                  (renameStepReferences earlier.name.text next.text) =
                (parsed.steps.map
                    (changeStep (renamedVariable earlier.name next) id)).map
                  WorkflowStep.input := by
            rw [List.map_map]
            apply (List.map_map).trans
            apply List.map_congr_left
            intro step _
            exact mapStepReferences_input (renameSource_input _ _) step
          have isModified :
              parsed.input.workflowVariables.modify index
                  (fun item => { item with name := next.text }) =
                (parsed.workflowVariables.set index
                    { earlier with name := next }).map
                  WorkflowVariable.input :=
            modify_input atIndex rfl
          rw [isRenamed, isModified]
          apply sound_withParts parsed
          case nonEmpty => simpa using parsed.stepsNonEmpty
          case distinctSteps =>
            rw [map_id_changeStep]
            exact parsed.stepIdsUnique
          case distinct => exact replaced.distinct
          case parse =>
            intro declaration isThere
            rcases replaced.only declaration isThere with rfl | isOld
            · exact parse_renamed (parse earlier isDeclared) next
            · exact parse declaration isOld
          case fits =>
            apply fits.map
            case sources =>
              intro target source fitsBefore
              exact fitsBefore.renamed distinct isDeclared replaced
            case reads => exact readsRenamed_renamedVariable _ _
            case apart => exact fun _ _ _ _ _ _ _ _ _ _ same => same

theorem valueSource_input (step : WorkflowStep) :
    step.input.action.valueSource =
      step.valueSource.map fun read => (read.1.input, read.2) := by
  obtain ⟨id, name, action, refined⟩ := step
  cases action with
  | verify assertion timeoutMs => cases assertion <;> rfl
  | _ => rfl

theorem mem_findValueSources
    {step : WorkflowStep}
    {index : Nat}
    (atIndex : parsed.steps[index]? = some step)
    {source : ValueSource}
    {target : ValueSourceTarget}
    (isRead : step.valueSource = some (source, target)) :
    (source.input,
        { stepId := step.id
          stepIndex := index
          stepType := step.input.action.type
          target }) ∈
      findValueSources parsed.input := by
  have isPlaced : (step.input, index) ∈ parsed.input.steps.zipIdx := by
    rw [List.mem_zipIdx_iff_getElem?]
    exact (List.getElem?_map).trans (by rw [atIndex]; rfl)
  have isSource := valueSource_input step
  rw [isRead, Option.map_some] at isSource
  apply List.mem_filterMap.mpr
  refine ⟨(step.input, index), isPlaced, ?_⟩
  simp only [isSource, Option.map_some]
  rfl

/-- A variable without usages is in no step. -/
theorem unread_of_noUsages
    (noUsages : (findVariableUsages parsed.input variableName).isEmpty = true)
    {step : WorkflowStep}
    (isStep : step ∈ parsed.steps)
    {name : Identifier}
    {target : ValueSourceTarget}
    (isRead : step.valueSource = some (.variable name, target)) :
    name.text ≠ variableName := by
  rintro rfl
  obtain ⟨index, atIndex⟩ := List.mem_iff_getElem?.mp isStep
  rw [List.isEmpty_iff, findVariableUsages, List.filterMap_eq_nil_iff]
    at noUsages
  have isUsage := noUsages _ (mem_findValueSources atIndex isRead)
  simp [ValueSource.input] at isUsage

theorem sound_removeVariable
    (sound : Sound workflow)
    (isOk : removeVariable workflow variableName = .ok changed) :
    Sound changed := by
  obtain ⟨parsed, rfl, parse, fits⟩ := sound
  simp only [removeVariable] at isOk
  split at isOk
  case isTrue => cases isOk
  case isFalse =>
    split at isOk
    case isFalse => cases isOk
    case isTrue noUsages =>
      obtain rfl := WorkflowOperationResult.ok.inj isOk
      have isFiltered :
          (parsed.input.workflowVariables.filter fun item =>
              item.name ≠ variableName) =
            (parsed.workflowVariables.filter fun declaration =>
                declaration.name.text ≠ variableName).map
              WorkflowVariable.input :=
        List.filter_map
      rw [isFiltered]
      apply sound_withVariables fits
      · exact
          List.Nodup.sublist (List.filter_sublist.map _)
            parsed.variableNamesUnique
      · intro declaration isKept
        exact parse declaration (List.mem_of_mem_filter isKept)
      · intro step isStep source target isRead
        apply (fits.inputs step isStep source target isRead).mono
        intro declaration isDeclared readsIt
        subst readsIt
        rw [List.mem_filter]
        exact
          ⟨isDeclared,
            decide_eq_true (unread_of_noUsages noUsages isStep isRead)⟩

/-- Replacing the value source of a step, where the step has the property. -/
theorem replaceStepValueSource_input
    {step : WorkflowStep}
    {target : ValueSourceTarget}
    {source : ValueSource}
    {replacement : WorkflowStepInput}
    (isReplaced :
      replaceStepValueSource step.input target source.input =
        some replacement) :
    replacement = (changeStep (fun _ => source) id step).input := by
  obtain ⟨id, name, action, refined⟩ := step
  unfold replaceStepValueSource at isReplaced
  cases action with
  | verify assertion timeoutMs =>
      cases assertion <;> cases target <;> cases isReplaced <;> rfl
  | _ => cases target <;> cases isReplaced <;> rfl

theorem set_getElem_of_key
    {α κ : Type}
    {key : α → κ}
    {values : List α}
    {index : Nat}
    {value replacement : α}
    (atIndex : values[index]? = some value)
    (sameKey : key replacement = key value) :
    (values.set index replacement).map key = values.map key := by
  obtain ⟨inside, rfl⟩ := List.getElem?_eq_some_iff.mp atIndex
  rw [List.map_set, sameKey, ← List.map_set, List.set_getElem_self]

theorem sound_updateStepValueSource
    {workflow changed : WorkflowDefinitionInput}
    {stepId : String}
    {target : ValueSourceTarget}
    {sourceInput : ValueSourceInput}
    (sound : Sound workflow)
    (isOk :
      updateStepValueSource workflow stepId target sourceInput =
        .ok changed) :
    Sound changed := by
  obtain ⟨parsed, rfl, parse, fits⟩ := sound
  simp only [updateStepValueSource] at isOk
  split at isOk
  case h_1 => cases isOk
  case h_2 source isSource =>
    split at isOk
    case h_1 => cases isOk
    case h_2 index isFound =>
      split at isOk
      case h_1 => cases isOk
      case h_2 currentStep isCurrent =>
        split at isOk
        case h_1 => cases isOk
        case h_2 replacement isReplaced =>
          split at isOk
          case h_1 => cases isOk
          case h_2 extractionBlocking isAnalyzed =>
            split at isOk
            case isTrue =>
              unfold incompatibleSourceFailure at isOk
              split at isOk <;> cases isOk
            case isFalse notBlocking =>
              obtain rfl := WorkflowOperationResult.ok.inj isOk
              obtain ⟨step, atIndex, rfl⟩ :=
                Option.map_eq_some_iff.mp
                  ((List.getElem?_map).symm.trans isCurrent)
              obtain rfl := replaceStepValueSource_input isReplaced
              obtain ⟨updated, areVariables, areSteps, isInput⟩ :=
                exists_withParts parsed
                  (show
                    parsed.steps.set index
                        (changeStep (fun _ => source) id step) ≠ [] by
                    simpa using parsed.stepsNonEmpty)
                  (by
                    rw [set_getElem_of_key atIndex (changeStep_id step)]
                    exact parsed.stepIdsUnique)
                  parsed.variableNamesUnique
              have isUpdated :
                  { parsed.input with
                    steps :=
                      parsed.input.steps.set index
                        (changeStep (fun _ => source) id step).input } =
                    updated.input := by
                rw [isInput, List.map_set]
                rfl
              rw [isUpdated] at isAnalyzed notBlocking ⊢
              have parse' : VariablesParse updated.workflowVariables :=
                areVariables ▸ parse
              have isParsed := WorkflowDefinition.parse_input parse'
              simp only [hasBlockingExtractionIssues, isParsed,
                Option.map_eq_some_iff] at isAnalyzed
              obtain ⟨analysis, analyzed, rfl⟩ := isAnalyzed
              simp only [hasBlockingInputIssues, isParsed, Bool.or_eq_true,
                not_or, Bool.not_eq_true] at notBlocking
              refine ⟨updated, rfl, parse', ?_, ?_, ?_⟩
              · exact inputs_iff.mp notBlocking.1
              · exact outputs_iff.mp ⟨analysis, analyzed, notBlocking.2⟩
              · apply fits.gates.of_sameKeys
                rw [areSteps, set_getElem_of_key atIndex]
                rw [gateKey, gateKey, changeStep_id, changeStep_type]

end TaskTwin.Editor
