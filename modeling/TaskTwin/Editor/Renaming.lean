import TaskTwin.Editor.SoundOutputs

/-!
# Renaming in what the editor holds

A renaming changes the value sources and the output names of the steps.  What
the schema reads of the changed steps are the changed steps that it reads, and
a renaming there and back restores the steps.
-/

namespace TaskTwin.Editor

open Schema Workflow Collection

section Substitution

variable {α : Type} [DecidableEq α]

def substitute (old new value : α) : α :=
  if value = old then new else value

theorem substitute_self (old : α) : substitute old old = id := by
  funext value
  rw [substitute]
  split
  case isTrue isOld => exact isOld.symm
  case isFalse => rfl

/-- There and back, unless the new value was there before. -/
theorem substitute_substitute
    {old new value : α}
    (isFree : old ≠ new → value ≠ new) :
    substitute new old (substitute old new value) = value := by
  by_cases same : old = new
  · subst same
    simp [substitute_self]
  by_cases isOld : value = old
  · simp [substitute, isOld]
  · simp [substitute, isOld, isFree same]

theorem substitute_substitute_new
    {old new : α}
    (differ : old ≠ new) :
    substitute new old (substitute old new new) = old := by
  rw [substitute, substitute, if_neg differ.symm, if_pos rfl]

end Substitution

/-- A step with another name for its output, if it has one. -/
def WorkflowStepInput.mapOutputName
    (rename : String → String)
    (step : WorkflowStepInput) :
    WorkflowStepInput :=
  match step.outputName? with
  | none => step
  | some outputName => step.withOutputName (rename outputName)

/-- A step with other value sources and another name for its output. -/
def changeStepInput
    (change : ValueSourceInput → ValueSourceInput)
    (rename : String → String)
    (step : WorkflowStepInput) :
    WorkflowStepInput :=
  mapStepReferences change (step.mapOutputName rename)

/-- A step without what a renaming may change. -/
def WorkflowStepInput.withoutNames
    (step : WorkflowStepInput) :
    WorkflowStepInput :=
  changeStepInput (fun _ => .output "") (fun _ => "") step

/-- Steps that differ by their value sources and output names only. -/
structure StepsRenamed
    (change : ValueSourceInput → ValueSourceInput)
    (rename : String → String)
    (steps changed : List WorkflowStepInput) :
    Prop where
  sources :
    (changed.map fun step => step.action.valueSource) =
      steps.map fun step =>
        step.action.valueSource.map fun read => (change read.1, read.2)
  names :
    changed.map WorkflowStepInput.outputName? =
      steps.map fun step => step.outputName?.map rename
  rest :
    changed.map WorkflowStepInput.withoutNames =
      steps.map WorkflowStepInput.withoutNames

/-- A value source that a step of the definition has. -/
def Reads
    (workflow : WorkflowDefinitionInput)
    (source : ValueSourceInput) :
    Prop :=
  ∃ step ∈ workflow.steps, ∃ target,
    step.action.valueSource = some (source, target)

/--
A new name that fits: no reference is written like it, and unless the schema
reads it like the old name, it reads no other name like it and every reference
to the old name is written like the old name.
-/
structure NameFits
    (names : List String)
    (IsRead : String → Prop)
    (currentName nextName : String) : Prop where
  unread : currentName ≠ nextName → ¬IsRead nextName
  free : trim nextName ≠ trim currentName →
    ∀ name ∈ names, trim name ≠ trim nextName
  alike : trim nextName ≠ trim currentName →
    ∀ name, IsRead name → trim name = trim currentName → name = currentName

variable
  {change change' : ValueSourceInput → ValueSourceInput}
  {rename rename' : String → String}

theorem mapOutputName_id (step : WorkflowStepInput) :
    step.mapOutputName id = step := by
  obtain ⟨stepId, name, action⟩ := step
  cases action <;> rfl

theorem valueSource_changeStepInput (step : WorkflowStepInput) :
    (changeStepInput change rename step).action.valueSource =
      step.action.valueSource.map fun read => (change read.1, read.2) := by
  obtain ⟨id, name, action⟩ := step
  cases action with
  | verify assertion timeoutMs => cases assertion <;> rfl
  | _ => rfl

theorem outputName?_changeStepInput (step : WorkflowStepInput) :
    (changeStepInput change rename step).outputName? =
      step.outputName?.map rename := by
  obtain ⟨id, name, action⟩ := step
  cases action with
  | verify assertion timeoutMs => cases assertion <;> rfl
  | _ => rfl

/-- One change after another. -/
theorem changeStepInput_changeStepInput (step : WorkflowStepInput) :
    changeStepInput change' rename' (changeStepInput change rename step) =
      changeStepInput (change' ∘ change) (rename' ∘ rename) step := by
  obtain ⟨id, name, action⟩ := step
  cases action with
  | verify assertion timeoutMs => cases assertion <;> rfl
  | _ => rfl

/-- A change depends on what becomes of the names in a step. -/
theorem changeStepInput_congr
    {step : WorkflowStepInput}
    (sources :
      ∀ source target,
        step.action.valueSource = some (source, target) →
          change source = change' source)
    (names :
      ∀ outputName, step.outputName? = some outputName →
        rename outputName = rename' outputName) :
    changeStepInput change rename step =
      changeStepInput change' rename' step := by
  obtain ⟨id, name, action⟩ := step
  cases action with
  | navigate | fill | select =>
      have same := sources _ _ rfl
      simp [changeStepInput, mapStepReferences,
        WorkflowStepInput.mapOutputName, WorkflowStepInput.outputName?, same]
  | extract =>
      have same := names _ rfl
      simp [changeStepInput, mapStepReferences,
        WorkflowStepInput.mapOutputName, WorkflowStepInput.outputName?,
        WorkflowStepInput.withOutputName, same]
  | verify assertion timeoutMs =>
      cases assertion with
      | text | value | url =>
          have same := sources _ _ rfl
          simp [changeStepInput, mapStepReferences,
            WorkflowStepInput.mapOutputName, WorkflowStepInput.outputName?,
            same]
      | visible | hidden | checked => rfl
  | click | setChecked | wait | approval => rfl

theorem changeStepInput_id_id (step : WorkflowStepInput) :
    changeStepInput id id step = step := by
  obtain ⟨id, name, action⟩ := step
  cases action with
  | verify assertion timeoutMs => cases assertion <;> rfl
  | _ => rfl

theorem stepsRenamed_changeStepInput (steps : List WorkflowStepInput) :
    StepsRenamed change rename steps
      (steps.map (changeStepInput change rename)) where
  sources := by
    rw [List.map_map]
    exact List.map_congr_left fun step _ => valueSource_changeStepInput step
  names := by
    rw [List.map_map]
    exact List.map_congr_left fun step _ => outputName?_changeStepInput step
  rest := by
    rw [List.map_map]
    exact
      List.map_congr_left fun step _ => changeStepInput_changeStepInput step

/-- A renaming back restores steps whose names it restores. -/
theorem map_changeStepInput_back
    {steps : List WorkflowStepInput}
    (sources :
      ∀ step ∈ steps, ∀ source target,
        step.action.valueSource = some (source, target) →
          change' (change source) = source)
    (names :
      ∀ step ∈ steps, ∀ outputName, step.outputName? = some outputName →
        rename' (rename outputName) = outputName) :
    (steps.map (changeStepInput change rename)).map
        (changeStepInput change' rename') =
      steps := by
  rw [List.map_map]
  apply (List.map_congr_left _).trans (List.map_id _)
  intro step listed
  rw [Function.comp_apply, changeStepInput_changeStepInput]
  refine Eq.trans ?_ (changeStepInput_id_id step)
  exact changeStepInput_congr (sources step listed) (names step listed)

theorem source_of_back
    {steps : List WorkflowStepInput}
    (isBack :
      (steps.map (changeStepInput change rename)).map
          (changeStepInput change' rename') =
        steps)
    {step : WorkflowStepInput}
    (listed : step ∈ steps)
    {source : ValueSourceInput}
    {target : ValueSourceTarget}
    (isSource : step.action.valueSource = some (source, target)) :
    change' (change source) = source := by
  rw [List.map_map] at isBack
  have sameStep :=
    List.map_inj_left.mp (isBack.trans (List.map_id _).symm) step listed
  rw [Function.comp_apply, changeStepInput_changeStepInput, id] at sameStep
  have sameSource :=
    @valueSource_changeStepInput (change' ∘ change) (rename' ∘ rename) step
  rw [sameStep, isSource, Option.map_some] at sameSource
  exact (Prod.mk.inj (Option.some.inj sameSource)).1.symm

theorem parseIdentifier_congr
    {text other : String}
    (same : trim text = trim other) :
    parseIdentifier text = parseIdentifier other := by
  simp only [parseIdentifier, same]

theorem trim_eq_of_parse
    {text other : String}
    {name : Identifier}
    (isName : parseIdentifier text = some name)
    (isNameToo : parseIdentifier other = some name) :
    trim text = trim other :=
  (parseIdentifier_eq_some_iff.mp isName).trans
    (parseIdentifier_eq_some_iff.mp isNameToo).symm

section Parsing

variable
  {step : WorkflowStepInput}
  {parsed : WorkflowStep}
  {changeParsed : ValueSource → ValueSource}
  {renameParsed : Identifier → Identifier}

theorem action_of_parse
    (isParsed : step.parse = some parsed) :
    step.action.parse = some parsed.action ∧ parsed.id = step.id ∧
      parsed.name = step.name := by
  obtain ⟨action, isAction, isParsed⟩ := Option.bind_eq_some_iff.mp isParsed
  split at isParsed
  case isFalse => cases isParsed
  case isTrue refined =>
    cases isParsed
    exact ⟨isAction, rfl, rfl⟩

theorem parse_of_action
    (isAction : step.action.parse = some parsed.action)
    (sameId : parsed.id = step.id)
    (sameName : parsed.name = step.name) :
    step.parse = some parsed := by
  rw [WorkflowStepInput.parse, isAction, Option.bind_some,
    dif_pos parsed.refined, ← sameId, ← sameName]

/-- The value source that the schema reads in a step. -/
theorem valueSource_of_parse
    (isParsed : step.parse = some parsed) :
    (step.action.valueSource.map fun read => (read.1.parse, read.2)) =
      parsed.valueSource.map fun read => (some read.1, read.2) := by
  obtain ⟨isAction, -, -⟩ := action_of_parse isParsed
  obtain ⟨id, name, action⟩ := step
  obtain ⟨parsedId, parsedName, parsedAction, refined⟩ := parsed
  cases action with
  | navigate | fill | select =>
      obtain ⟨source, isSource, rfl⟩ := Option.map_eq_some_iff.mp isAction
      exact congrArg (fun read => some (read, _)) isSource
  | extract =>
      rw [WorkflowStepActionInput.parse, Option.map_eq_some_iff] at isAction
      obtain ⟨outputName, -, rfl⟩ := isAction
      rfl
  | verify assertion timeoutMs =>
      obtain ⟨parsedAssertion, isAssertion, rfl⟩ :=
        Option.map_eq_some_iff.mp isAction
      cases assertion with
      | text | value | url =>
          obtain ⟨source, isSource, rfl⟩ :=
            Option.map_eq_some_iff.mp isAssertion
          exact congrArg (fun read => some (read, _)) isSource
      | visible | hidden | checked =>
          cases isAssertion
          rfl
  | click | setChecked | wait | approval =>
      cases isAction
      rfl

theorem exists_valueSource_read
    (isParsed : step.parse = some parsed)
    {source : ValueSourceInput}
    {target : ValueSourceTarget}
    (isSource : step.action.valueSource = some (source, target)) :
    ∃ read, source.parse = some read ∧
      parsed.valueSource = some (read, target) := by
  have reads := valueSource_of_parse isParsed
  rw [isSource, Option.map_some] at reads
  obtain ⟨⟨read, readTarget⟩, isRead, same⟩ :=
    Option.map_eq_some_iff.mp reads.symm
  obtain ⟨isSourceRead, rfl⟩ := Prod.mk.inj same
  exact ⟨read, isSourceRead.symm, isRead⟩

/-- The output name that the schema reads in a step. -/
theorem outputName?_of_parse
    (isParsed : step.parse = some parsed) :
    step.outputName?.map parseIdentifier =
      (producedOutput parsed).map fun output => some output.1 := by
  obtain ⟨isAction, -, -⟩ := action_of_parse isParsed
  obtain ⟨id, name, action⟩ := step
  obtain ⟨parsedId, parsedName, parsedAction, refined⟩ := parsed
  cases action with
  | navigate | fill | select | verify =>
      obtain ⟨part, -, rfl⟩ := Option.map_eq_some_iff.mp isAction
      rfl
  | extract =>
      rw [WorkflowStepActionInput.parse, Option.map_eq_some_iff] at isAction
      obtain ⟨outputName, isName, rfl⟩ := isAction
      exact congrArg some isName
  | click | setChecked | wait | approval =>
      cases isAction
      rfl

/-- What the schema reads of a changed step. -/
theorem parse_changeStepInput
    (isParsed : step.parse = some parsed)
    (sources :
      ∀ source target read,
        step.action.valueSource = some (source, target) →
          source.parse = some read →
            (change source).parse = some (changeParsed read))
    (names :
      ∀ outputName read,
        step.outputName? = some outputName →
          parseIdentifier outputName = some read →
            parseIdentifier (rename outputName) = some (renameParsed read)) :
    (changeStepInput change rename step).parse =
      some (changeStep changeParsed renameParsed parsed) := by
  obtain ⟨isAction, sameId, sameName⟩ := action_of_parse isParsed
  obtain ⟨id, name, action⟩ := step
  obtain ⟨parsedId, parsedName, parsedAction, refined⟩ := parsed
  obtain ⟨rfl, rfl⟩ : parsedId = id ∧ parsedName = name := ⟨sameId, sameName⟩
  cases action with
  | navigate | fill | select =>
      obtain ⟨source, isSource, rfl⟩ := Option.map_eq_some_iff.mp isAction
      have isChanged := sources _ _ source rfl isSource
      apply parse_of_action _ rfl rfl
      exact Option.map_eq_some_iff.mpr ⟨_, isChanged, rfl⟩
  | extract locator source outputName outputLabel timeoutMs =>
      rw [WorkflowStepActionInput.parse, Option.map_eq_some_iff] at isAction
      obtain ⟨read, isRead, rfl⟩ := isAction
      have isRenamed := names outputName read rfl isRead
      apply parse_of_action _ rfl rfl
      simp only [changeStepInput, mapStepReferences,
        WorkflowStepInput.mapOutputName, WorkflowStepInput.outputName?,
        WorkflowStepInput.withOutputName, WorkflowStepActionInput.parse,
        isRenamed, changeStep, changeAction, Option.map_some]
  | verify assertion timeoutMs =>
      obtain ⟨parsedAssertion, isAssertion, rfl⟩ :=
        Option.map_eq_some_iff.mp isAction
      cases assertion with
      | text | value | url =>
          obtain ⟨source, isSource, rfl⟩ :=
            Option.map_eq_some_iff.mp isAssertion
          have isChanged := sources _ _ source rfl isSource
          apply parse_of_action _ rfl rfl
          apply Option.map_eq_some_iff.mpr
          refine ⟨_, ?_, rfl⟩
          exact Option.map_eq_some_iff.mpr ⟨_, isChanged, rfl⟩
      | visible | hidden | checked =>
          cases isAssertion
          apply parse_of_action _ rfl rfl
          rfl
  | click | setChecked | wait | approval =>
      cases isAction
      apply parse_of_action _ rfl rfl
      rfl

end Parsing

section Definitions

variable {workflow : WorkflowDefinitionInput} {parsed : WorkflowDefinition}

theorem parts_of_parse
    (isParsed : workflow.parse = some parsed) :
    workflow.workflowVariables.mapM WorkflowVariableInput.parse =
        some parsed.workflowVariables ∧
      workflow.steps.mapM WorkflowStepInput.parse = some parsed.steps ∧
      0 < workflow.version := by
  simp only [WorkflowDefinitionInput.parse, Option.bind_eq_bind,
    Option.bind_eq_some_iff] at isParsed
  obtain ⟨declared, areVariables, steps, areSteps, isParsed⟩ := isParsed
  split at isParsed
  case isFalse => cases isParsed
  case isTrue valid =>
    obtain rfl := Option.some.inj isParsed
    exact ⟨areVariables, areSteps, valid.1⟩

theorem exists_parse
    {declared : List WorkflowVariable}
    {steps : List WorkflowStep}
    (areVariables :
      workflow.workflowVariables.mapM WorkflowVariableInput.parse =
        some declared)
    (areSteps : workflow.steps.mapM WorkflowStepInput.parse = some steps)
    (positive : 0 < workflow.version)
    (nonEmpty : steps ≠ [])
    (distinctSteps : (steps.map WorkflowStep.id).Nodup)
    (distinct : (declared.map WorkflowVariable.name).Nodup) :
    ∃ parsed : WorkflowDefinition,
      workflow.parse = some parsed ∧ parsed.workflowVariables = declared ∧
        parsed.steps = steps := by
  have valid :
      0 < workflow.version ∧ steps ≠ [] ∧ (steps.map WorkflowStep.id).Nodup ∧
        (declared.map WorkflowVariable.name).Nodup :=
    ⟨positive, nonEmpty, distinctSteps, distinct⟩
  simp only [WorkflowDefinitionInput.parse, areVariables, areSteps,
    Option.bind_eq_bind, Option.bind_some, dif_pos valid]
  exact ⟨_, rfl, rfl, rfl⟩

/-- What the schema reads of the elements of a list, one by one. -/
theorem mapM_map
    {α β : Type}
    {parse : α → Option β}
    {values : List α}
    {read : List β}
    {change : α → α}
    {change' : β → β}
    (isRead : values.mapM parse = some read)
    (changes :
      ∀ value ∈ values, ∀ result,
        parse value = some result →
          parse (change value) = some (change' result)) :
    (values.map change).mapM parse = some (read.map change') := by
  rw [mapM_eq_some_iff] at isRead ⊢
  rw [List.forall₂_map_left_iff, List.forall₂_map_right_iff]
  have both := (List.forall₂_and_left _ _).mpr ⟨fun _ listed => listed, isRead⟩
  exact both.imp fun value result ⟨listed, reads⟩ =>
    changes value listed result reads

theorem exists_read
    {α β : Type}
    {parse : α → Option β}
    {values : List α}
    {read : List β}
    (isRead : values.mapM parse = some read)
    {value : α}
    (listed : value ∈ values) :
    ∃ result ∈ read, parse value = some result := by
  have parses :=
    mapM_isSome_iff.mp (Option.isSome_of_eq_some isRead) value listed
  obtain ⟨result, isResult⟩ := Option.isSome_iff_exists.mp parses
  exact
    ⟨result, (mem_of_mapM isRead result).mpr ⟨value, listed, isResult⟩,
      isResult⟩

/-- What the elements of a list and what is read of them have in common. -/
theorem map_of_mapM
    {α β κ : Type}
    {parse : α → Option β}
    {values : List α}
    {read : List β}
    {key : α → κ}
    {key' : β → κ}
    (isRead : values.mapM parse = some read)
    (same :
      ∀ value result, parse value = some result → key value = key' result) :
    values.map key = read.map key' := by
  rw [mapM_eq_some_iff] at isRead
  rw [← List.forall₂_eq_eq_eq, List.forall₂_map_left_iff,
    List.forall₂_map_right_iff]
  exact isRead.imp same

theorem name_of_parse
    {item : WorkflowVariableInput}
    {declaration : WorkflowVariable}
    (isDeclared : item.parse = some declaration) :
    parseIdentifier item.name = some declaration.name := by
  simp only [WorkflowVariableInput.parse, Option.bind_eq_bind,
    Option.bind_eq_some_iff] at isDeclared
  obtain ⟨name, isName, label, -, description, -, isDeclared⟩ := isDeclared
  cases isDeclared
  exact isName

/-- The names of the variables as the schema reads them. -/
theorem names_of_parse
    (isParsed : workflow.parse = some parsed) :
    (workflow.workflowVariables.map fun item => parseIdentifier item.name) =
      parsed.workflowVariables.map fun declaration =>
        some declaration.name :=
  map_of_mapM (parts_of_parse isParsed).1 fun _ _ => name_of_parse

theorem ids_of_parse
    (isParsed : workflow.parse = some parsed) :
    workflow.steps.map WorkflowStepInput.id =
      parsed.steps.map WorkflowStep.id :=
  map_of_mapM (parts_of_parse isParsed).2.1
    fun _ _ isStep => (action_of_parse isStep).2.1.symm

theorem nodup_ids_of_parse
    (isParsed : workflow.parse = some parsed) :
    (workflow.steps.map WorkflowStepInput.id).Nodup := by
  rw [ids_of_parse isParsed]
  exact parsed.stepIdsUnique

/-- No two variables have names that the schema reads alike. -/
theorem nodup_names_of_parse
    (isParsed : workflow.parse = some parsed) :
    (workflow.workflowVariables.map fun item =>
      parseIdentifier item.name).Nodup := by
  have distinct :=
    parsed.variableNamesUnique.map (Option.some_injective Identifier)
  rw [names_of_parse isParsed]
  rwa [List.map_map] at distinct

theorem nodup_texts_of_parse
    (isParsed : workflow.parse = some parsed) :
    (workflow.workflowVariables.map WorkflowVariableInput.name).Nodup := by
  have differ := List.pairwise_map.mp (nodup_names_of_parse isParsed)
  refine List.pairwise_map.mpr (differ.imp ?_)
  intro item other readsDiffer sameText
  exact readsDiffer (congrArg parseIdentifier sameText)

theorem eq_of_names
    (isParsed : workflow.parse = some parsed)
    {item other : WorkflowVariableInput}
    (listed : item ∈ workflow.workflowVariables)
    (otherListed : other ∈ workflow.workflowVariables)
    (same : parseIdentifier item.name = parseIdentifier other.name) :
    item = other :=
  List.inj_on_of_nodup_map (nodup_names_of_parse isParsed) listed otherListed
    same

end Definitions

/-- A new name is refused, or the definition is renamed. -/
theorem renaming_ok_iff
    {workflow renamed changed : WorkflowDefinitionInput}
    {currentName nextName : String}
    {invalid collision : Prop}
    [Decidable invalid]
    [Decidable collision]
    {invalidError collisionError : WorkflowOperationError}
    (keeps : currentName = nextName → renamed = workflow) :
    (if invalid then .failure invalidError
      else if currentName ≠ nextName ∧ collision then .failure collisionError
      else if currentName = nextName then .ok workflow
      else WorkflowOperationResult.ok renamed) = .ok changed ↔
      ¬invalid ∧ (currentName ≠ nextName → ¬collision) ∧
        changed = renamed := by
  by_cases isInvalid : invalid
  · simp [isInvalid]
  by_cases same : currentName = nextName
  · simp [isInvalid, same, keeps same, eq_comm]
  by_cases collides : collision
  · simp [isInvalid, same, collides]
  · simp [isInvalid, same, collides, eq_comm]

/-- A change at a position with a key of its own changes what has the key. -/
theorem modify_eq_map
    {α κ : Type}
    [DecidableEq κ]
    {key : α → κ}
    {values : List α}
    (distinct : (values.map key).Nodup)
    {index : Nat}
    {value : α}
    (atIndex : values[index]? = some value)
    (change : α → α) :
    values.modify index change =
      values.map fun other =>
        if key other = key value then change other else other := by
  apply List.ext_getElem?
  intro position
  rw [List.getElem?_modify, List.getElem?_map]
  cases atPosition : values[position]? with
  | none => simp
  | some other =>
      by_cases isIndex : index = position
      · subst isIndex
        rw [atIndex] at atPosition
        cases atPosition
        simp
      · have differs : key other ≠ key value := by
          intro sameKey
          obtain ⟨inside, -⟩ := List.getElem?_eq_some_iff.mp atIndex
          have insideToo : index < (values.map key).length := by
            rwa [List.length_map]
          apply isIndex
          apply (List.getElem?_inj insideToo distinct).mp
          rw [List.getElem?_map, List.getElem?_map, atIndex, atPosition,
            Option.map_some, Option.map_some, sameKey]
        simp [isIndex, differs]

end TaskTwin.Editor
