import TaskTwin.Editor.Renaming

/-!
# Renaming a variable

A variable that is renamed gets its new name in the declaration and in all
references, and what the schema reads of the definition follows, as long as the
schema reads no other name like the new one.
-/

namespace TaskTwin.Editor

open Schema Workflow Collection

def renameDeclared
    (currentName nextName : String)
    (item : WorkflowVariableInput) :
    WorkflowVariableInput :=
  if item.name = currentName then { item with name := nextName } else item

/-- The definition with another name for a variable. -/
def withVariableRenamed
    (workflow : WorkflowDefinitionInput)
    (currentName nextName : String) :
    WorkflowDefinitionInput :=
  { workflow with
    workflowVariables :=
      workflow.workflowVariables.map (renameDeclared currentName nextName)
    steps :=
      workflow.steps.map
        (changeStepInput (renameSource currentName nextName) id) }

/-- What renaming a variable does to a valid definition. -/
structure VariableRenamed
    (workflow changed : WorkflowDefinitionInput)
    (currentName nextName : String) : Prop where
  clean : IsClean changed
  declared :
    changed.workflowVariables =
      workflow.workflowVariables.map fun item =>
        if item.name = currentName then { item with name := nextName }
        else item
  steps :
    StepsRenamed (renameSource currentName nextName) id workflow.steps
      changed.steps
  rest :
    { changed with
      workflowVariables := workflow.workflowVariables
      steps := workflow.steps } =
    workflow
  restored : renameVariable changed nextName currentName = .ok workflow

variable
  {workflow changed : WorkflowDefinitionInput}
  {parsed : WorkflowDefinition}
  {currentName nextName : String}

theorem renameStepReferences_eq (step : WorkflowStepInput) :
    renameStepReferences currentName nextName step =
      changeStepInput (renameSource currentName nextName) id step := by
  rw [changeStepInput, mapOutputName_id, renameStepReferences]

theorem renameSource_self (name : String) : renameSource name name = id :=
  substitute_self (ValueSourceInput.variable name)

theorem withVariableRenamed_self
    (workflow : WorkflowDefinitionInput)
    (name : String) :
    withVariableRenamed workflow name name = workflow := by
  have sameVariables :
      workflow.workflowVariables.map (renameDeclared name name) =
        workflow.workflowVariables := by
    apply List.map_id''
    intro item
    rw [renameDeclared]
    split
    case isTrue isName => rw [← isName]
    case isFalse => rfl
  have sameSteps :
      workflow.steps.map (changeStepInput (renameSource name name) id) =
        workflow.steps := by
    rw [renameSource_self]
    exact List.map_id'' changeStepInput_id_id _
  rw [withVariableRenamed, sameVariables, sameSteps]

theorem renameVariable_ok_iff
    (isParsed : workflow.parse = some parsed) :
    renameVariable workflow currentName nextName = .ok changed ↔
      (∃ item ∈ workflow.workflowVariables, item.name = currentName) ∧
        (parseIdentifier nextName).isSome ∧
        (currentName ≠ nextName →
          ∀ item ∈ workflow.workflowVariables, item.name ≠ nextName) ∧
        changed = withVariableRenamed workflow currentName nextName := by
  have distinct := nodup_texts_of_parse isParsed
  simp only [renameVariable]
  split
  case h_1 notFound =>
    rw [List.findIdx?_eq_none_iff] at notFound
    constructor
    · intro isOk
      cases isOk
    · rintro ⟨⟨item, listed, isName⟩, -⟩
      simpa [isName] using notFound item listed
  case h_2 index isFound =>
    obtain ⟨inside, isName, -⟩ :=
      List.findIdx?_eq_some_iff_getElem.mp isFound
    have isThere :
        ∃ item ∈ workflow.workflowVariables, item.name = currentName :=
      ⟨_, List.getElem_mem inside, of_decide_eq_true isName⟩
    have isRenamed :
        { workflow with
          workflowVariables :=
            workflow.workflowVariables.modify index fun item =>
              { item with name := nextName }
          steps :=
            workflow.steps.map (renameStepReferences currentName nextName) } =
          withVariableRenamed workflow currentName nextName := by
      rw [modify_eq_map distinct (List.getElem?_eq_getElem inside),
        of_decide_eq_true isName, withVariableRenamed]
      congr 1
      exact List.map_congr_left fun step _ => renameStepReferences_eq step
    rw [isRenamed]
    refine (renaming_ok_iff ?_).trans ?_
    · rintro rfl
      exact withVariableRenamed_self workflow currentName
    · rw [Bool.not_eq_true, Option.isNone_eq_false_iff]
      simp only [isThere, true_and, not_exists, not_and, ne_eq]

section Parsing

variable {currentRead nextRead : Identifier}

theorem variable_of_parse
    {source : ValueSourceInput}
    {name : Identifier}
    (isRead : source.parse = some (.variable name)) :
    ∃ text, source = .variable text ∧ parseIdentifier text = some name := by
  cases source with
  | literal value => cases isRead
  | «variable» text =>
      rw [ValueSourceInput.parse, Option.map_eq_some_iff] at isRead
      obtain ⟨read, isRead, same⟩ := isRead
      cases same
      exact ⟨text, rfl, isRead⟩
  | secret text =>
      rw [ValueSourceInput.parse, Option.map_eq_some_iff] at isRead
      obtain ⟨read, -, same⟩ := isRead
      cases same
  | output text =>
      rw [ValueSourceInput.parse, Option.map_eq_some_iff] at isRead
      obtain ⟨read, -, same⟩ := isRead
      cases same

theorem parse_renameSource
    (isCurrent : parseIdentifier currentName = some currentRead)
    (isNext : parseIdentifier nextName = some nextRead)
    {source : ValueSourceInput}
    {read : ValueSource}
    (isRead : source.parse = some read)
    (alike : trim nextName ≠ trim currentName →
      ∀ name, source = .variable name →
        trim name = trim currentName → name = currentName) :
    (renameSource currentName nextName source).parse =
      some (renamedVariable currentRead nextRead read) := by
  by_cases isSource : source = .variable currentName
  · subst isSource
    rw [ValueSourceInput.parse, isCurrent] at isRead
    cases isRead
    rw [renameSource, if_pos rfl, ValueSourceInput.parse, isNext,
      renamedVariable, if_pos rfl]
    rfl
  · rw [renameSource, if_neg isSource, isRead, renamedVariable]
    split
    case isFalse => rfl
    case isTrue isVariable =>
      subst isVariable
      obtain ⟨text, rfl, isText⟩ := variable_of_parse isRead
      have sameTrim := trim_eq_of_parse isText isCurrent
      have sameName : trim nextName = trim currentName := by
        by_contra differs
        apply isSource
        rw [alike differs text rfl sameTrim]
      rw [parseIdentifier_congr sameName, isCurrent] at isNext
      rw [Option.some.inj isNext]

def renamedDeclaration
    (currentRead nextRead : Identifier)
    (declaration : WorkflowVariable) :
    WorkflowVariable :=
  if declaration.name = currentRead then { declaration with name := nextRead }
  else declaration

theorem parse_withName
    {item : WorkflowVariableInput}
    {declaration : WorkflowVariable}
    (isDeclared : item.parse = some declaration)
    (isNext : parseIdentifier nextName = some nextRead) :
    WorkflowVariableInput.parse { item with name := nextName } =
      some { declaration with name := nextRead } := by
  simp only [WorkflowVariableInput.parse, Option.bind_eq_bind,
    Option.bind_eq_some_iff] at isDeclared
  obtain ⟨name, -, label, isLabel, description, isDescription, isDeclared⟩ :=
    isDeclared
  cases isDeclared
  simp only [WorkflowVariableInput.parse, isNext, isLabel, isDescription,
    Option.bind_eq_bind, Option.bind_some]

theorem parse_renameDeclared
    (isParsed : workflow.parse = some parsed)
    (isThere :
      ∃ item ∈ workflow.workflowVariables, item.name = currentName)
    (isCurrent : parseIdentifier currentName = some currentRead)
    (isNext : parseIdentifier nextName = some nextRead)
    {item : WorkflowVariableInput}
    {declaration : WorkflowVariable}
    (listed : item ∈ workflow.workflowVariables)
    (isDeclared : item.parse = some declaration) :
    (renameDeclared currentName nextName item).parse =
      some (renamedDeclaration currentRead nextRead declaration) := by
  have isName := name_of_parse isDeclared
  by_cases isItem : item.name = currentName
  · rw [isItem, isCurrent] at isName
    rw [renameDeclared, if_pos isItem, renamedDeclaration,
      if_pos (Option.some.inj isName).symm]
    exact parse_withName isDeclared isNext
  · have notCurrent : declaration.name ≠ currentRead := by
      intro sameName
      obtain ⟨current, currentListed, rfl⟩ := isThere
      rw [sameName, ← isCurrent] at isName
      exact
        isItem
          (congrArg WorkflowVariableInput.name
            (eq_of_names isParsed listed currentListed isName))
    rw [renameDeclared, if_neg isItem, renamedDeclaration, if_neg notCurrent]
    exact isDeclared

end Parsing

theorem replaced_map
    {declared : List WorkflowVariable}
    (distinct : (declared.map WorkflowVariable.name).Nodup)
    {earlier : WorkflowVariable}
    (isDeclared : earlier ∈ declared)
    {nextRead : Identifier}
    (isFree :
      ∀ declaration ∈ declared,
        declaration.name = nextRead → nextRead = earlier.name) :
    Replaced declared earlier { earlier with name := nextRead }
      (declared.map (renamedDeclaration earlier.name nextRead)) where
  distinct := by
    have names :
        (declared.map (renamedDeclaration earlier.name nextRead)).map
            WorkflowVariable.name =
          (declared.map WorkflowVariable.name).map
            (renamedName earlier.name nextRead) := by
      rw [List.map_map, List.map_map]
      apply List.map_congr_left
      intro declaration _
      rw [Function.comp_apply, Function.comp_apply, renamedDeclaration,
        renamedName]
      split <;> rfl
    rw [names]
    apply List.Nodup.map_on _ distinct
    intro first isFirst second isSecond same
    obtain ⟨one, oneDeclared, rfl⟩ := List.mem_map.mp isFirst
    obtain ⟨two, twoDeclared, rfl⟩ := List.mem_map.mp isSecond
    have oneFree := isFree one oneDeclared
    have twoFree := isFree two twoDeclared
    grind [renamedName]
  there := by
    apply List.mem_map.mpr
    exact ⟨earlier, isDeclared, if_pos rfl⟩
  kept := by
    intro declaration listed otherName
    exact List.mem_map.mpr ⟨declaration, listed, if_neg otherName⟩
  only := by
    intro declaration listed
    obtain ⟨before, wasListed, rfl⟩ := List.mem_map.mp listed
    rw [renamedDeclaration]
    split
    case isFalse => exact .inr wasListed
    case isTrue sameName =>
      have same := Store.eq_of_key distinct wasListed isDeclared sameName
      exact .inl (same ▸ rfl)

def variableNames (workflow : WorkflowDefinitionInput) : List String :=
  workflow.workflowVariables.map WorkflowVariableInput.name

/-- Whether a new name for a variable fits. -/
def VariableNameFits
    (workflow : WorkflowDefinitionInput)
    (currentName nextName : String) :
    Prop :=
  NameFits (variableNames workflow)
    (fun name => Reads workflow (.variable name)) currentName nextName

theorem isClean_withVariableRenamed
    (isParsed : workflow.parse = some parsed)
    (noIssues : HasNoBlockingIssues parsed)
    (isThere :
      ∃ item ∈ workflow.workflowVariables, item.name = currentName)
    (valid : (parseIdentifier nextName).isSome)
    (fits : VariableNameFits workflow currentName nextName) :
    IsClean (withVariableRenamed workflow currentName nextName) := by
  obtain ⟨areVariables, areSteps, positive⟩ := parts_of_parse isParsed
  obtain ⟨nextRead, isNext⟩ := Option.isSome_iff_exists.mp valid
  obtain ⟨current, currentListed, isName⟩ := isThere
  obtain ⟨earlier, isDeclared, isEarlier⟩ :=
    exists_read areVariables currentListed
  have isCurrent : parseIdentifier currentName = some earlier.name :=
    isName ▸ name_of_parse isEarlier
  have isFree :
      ∀ declaration ∈ parsed.workflowVariables,
        declaration.name = nextRead → nextRead = earlier.name := by
    intro declaration declared sameRead
    by_contra differs
    obtain ⟨item, listed, isRead⟩ :=
      (mem_of_mapM areVariables declaration).mp declared
    have otherTrim : trim nextName ≠ trim currentName := by
      intro same
      rw [parseIdentifier_congr same, isCurrent] at isNext
      exact differs (Option.some.inj isNext).symm
    apply fits.free otherTrim item.name (List.mem_map_of_mem listed)
    exact trim_eq_of_parse (sameRead ▸ name_of_parse isRead) isNext
  have replaced :=
    replaced_map parsed.variableNamesUnique isDeclared isFree
  have declaredAfter :=
    mapM_map areVariables fun item listed declaration isRead =>
      parse_renameDeclared isParsed ⟨current, currentListed, isName⟩ isCurrent
        isNext listed isRead
  have stepsAfter :
      (workflow.steps.map
          (changeStepInput (renameSource currentName nextName) id)).mapM
          WorkflowStepInput.parse =
        some
          (parsed.steps.map
            (changeStep (renamedVariable earlier.name nextRead) id)) := by
    apply mapM_map areSteps
    intro step listed read isRead
    apply parse_changeStepInput isRead
    · intro source target sourceRead isSource isSourceRead
      apply parse_renameSource isCurrent isNext isSourceRead
      rintro otherTrim name rfl
      exact fits.alike otherTrim name ⟨step, listed, target, isSource⟩
    · exact fun _ _ _ isOutput => isOutput
  obtain ⟨after, isAfter, areDeclared, areStepsAfter⟩ :=
    @exists_parse (withVariableRenamed workflow currentName nextName) _ _
      declaredAfter stepsAfter positive (by simpa using parsed.stepsNonEmpty)
      (by rw [map_id_changeStep]; exact parsed.stepIdsUnique) replaced.distinct
  refine ⟨after, isAfter, hasNoBlockingIssues_iff.mpr ?_⟩
  rw [areDeclared, areStepsAfter]
  apply (hasNoBlockingIssues_iff.mp noIssues).map
  case sources =>
    intro target source fitsBefore
    exact fitsBefore.renamed parsed.variableNamesUnique isDeclared replaced
  case reads => exact readsRenamed_renamedVariable _ _
  case apart => exact fun _ _ _ _ _ _ _ _ _ _ same => same

theorem renameSource_renameSource
    {source : ValueSourceInput}
    (unread : currentName ≠ nextName → source ≠ .variable nextName) :
    renameSource nextName currentName
        (renameSource currentName nextName source) =
      source :=
  substitute_substitute fun differ =>
    unread fun same => differ (congrArg ValueSourceInput.variable same)

theorem renameDeclared_renameDeclared
    {item : WorkflowVariableInput}
    (isFree : currentName ≠ nextName → item.name ≠ nextName) :
    renameDeclared nextName currentName
        (renameDeclared currentName nextName item) =
      item := by
  by_cases isCurrent : item.name = currentName
  · cases item
    cases isCurrent
    simp [renameDeclared]
  · have notNext : item.name ≠ nextName := by
      intro isNext
      exact isFree (fun same => isCurrent (same ▸ isNext)) isNext
    simp [renameDeclared, isCurrent, notNext]

theorem withVariableRenamed_back
    (isFree : currentName ≠ nextName →
      ∀ item ∈ workflow.workflowVariables, item.name ≠ nextName)
    (unread : currentName ≠ nextName → ¬Reads workflow (.variable nextName)) :
    withVariableRenamed (withVariableRenamed workflow currentName nextName)
        nextName currentName =
      workflow := by
  have sameVariables :
      (workflow.workflowVariables.map
          (renameDeclared currentName nextName)).map
          (renameDeclared nextName currentName) =
        workflow.workflowVariables := by
    rw [List.map_map]
    apply (List.map_congr_left _).trans (List.map_id _)
    intro item listed
    exact
      renameDeclared_renameDeclared fun differs => isFree differs item listed
  have sameSteps :
      (workflow.steps.map
          (changeStepInput (renameSource currentName nextName) id)).map
          (changeStepInput (renameSource nextName currentName) id) =
        workflow.steps := by
    apply map_changeStepInput_back
    · intro step listed source target isSource
      apply renameSource_renameSource
      rintro differs rfl
      exact unread differs ⟨step, listed, target, isSource⟩
    · exact fun _ _ _ _ => rfl
  simp only [withVariableRenamed, sameVariables, sameSteps]

/-- A reference written like the new name is not restored. -/
theorem unread_of_restored
    (isRestored :
      withVariableRenamed (withVariableRenamed workflow currentName nextName)
          nextName currentName =
        workflow)
    (differs : currentName ≠ nextName) :
    ¬Reads workflow (.variable nextName) := by
  rintro ⟨step, listed, target, isSource⟩
  have sameSteps := congrArg WorkflowDefinitionInput.steps isRestored
  have sameSource := source_of_back sameSteps listed isSource
  have read :
      renameSource nextName currentName
          (renameSource currentName nextName (.variable nextName)) =
        .variable currentName :=
    substitute_substitute_new fun same =>
      differs (ValueSourceInput.variable.inj same)
  rw [read] at sameSource
  exact differs (ValueSourceInput.variable.inj sameSource)

section Unfit

variable
  (isClean : IsClean (withVariableRenamed workflow currentName nextName))
  (isThere : ∃ item ∈ workflow.workflowVariables, item.name = currentName)
  (differ : trim nextName ≠ trim currentName)
include isClean isThere differ

theorem free_of_isClean
    (isFree : ∀ item ∈ workflow.workflowVariables, item.name ≠ nextName) :
    ∀ name ∈ variableNames workflow, trim name ≠ trim nextName := by
  obtain ⟨after, isAfter, -⟩ := isClean
  obtain ⟨current, currentListed, isCurrent⟩ := isThere
  intro name isName sameTrim
  obtain ⟨item, listed, rfl⟩ := List.mem_map.mp isName
  have notCurrent : item.name ≠ currentName := by
    intro isItem
    exact differ (isItem ▸ sameTrim.symm)
  have kept : renameDeclared currentName nextName item = item :=
    if_neg notCurrent
  have renamed :
      renameDeclared currentName nextName current =
        { current with name := nextName } :=
    if_pos isCurrent
  have same :=
    eq_of_names isAfter (List.mem_map_of_mem listed)
      (List.mem_map_of_mem currentListed)
      (by
        rw [kept, renamed]
        exact parseIdentifier_congr sameTrim)
  rw [kept, renamed] at same
  exact isFree item listed (congrArg WorkflowVariableInput.name same)

theorem alike_of_isClean
    (isParsed : workflow.parse = some parsed) :
    ∀ name, Reads workflow (.variable name) →
      trim name = trim currentName → name = currentName := by
  obtain ⟨after, isAfter, noIssues⟩ := isClean
  obtain ⟨current, currentListed, isCurrent⟩ := isThere
  rintro name ⟨step, listed, target, isSource⟩ sameTrim
  by_contra otherText
  obtain ⟨areVariables, areSteps, -⟩ := parts_of_parse isAfter
  obtain ⟨read, isRead, isStep⟩ :=
    exists_read areSteps (List.mem_map_of_mem listed)
  have unchanged :
      renameSource currentName nextName (.variable name) = .variable name :=
    if_neg fun same => otherText (ValueSourceInput.variable.inj same)
  have isSourceAfter :=
    @valueSource_changeStepInput (renameSource currentName nextName) id step
  rw [isSource, Option.map_some, unchanged] at isSourceAfter
  obtain ⟨source, isSourceRead, reads⟩ :=
    exists_valueSource_read isStep isSourceAfter
  rw [ValueSourceInput.parse, Option.map_eq_some_iff] at isSourceRead
  obtain ⟨nameRead, isNameRead, rfl⟩ := isSourceRead
  obtain ⟨declaration, isDeclared, sameRead, -⟩ :=
    inputs_iff.mp noIssues.inputs read isRead _ target reads
  obtain ⟨renamed, isRenamed, isDeclaration⟩ :=
    (mem_of_mapM areVariables declaration).mp isDeclared
  obtain ⟨item, itemListed, rfl⟩ := List.mem_map.mp isRenamed
  have isItemName := name_of_parse isDeclaration
  rw [sameRead] at isItemName
  have sameTrimToo := trim_eq_of_parse isItemName isNameRead
  by_cases isItem : item.name = currentName
  · rw [renameDeclared, if_pos isItem] at sameTrimToo
    exact differ (sameTrimToo.trans sameTrim)
  · rw [renameDeclared, if_neg isItem] at sameTrimToo
    have same :=
      eq_of_names isParsed itemListed currentListed
        (parseIdentifier_congr
          ((sameTrimToo.trans sameTrim).trans (congrArg trim isCurrent).symm))
    exact isItem (same ▸ isCurrent)

end Unfit

/-- Renaming a variable keeps the definition exactly if its new name fits. -/
theorem variableRenamed_iff
    (isParsed : workflow.parse = some parsed)
    (noIssues : HasNoBlockingIssues parsed)
    (isOk : renameVariable workflow currentName nextName = .ok changed) :
    VariableRenamed workflow changed currentName nextName ↔
      VariableNameFits workflow currentName nextName := by
  obtain ⟨isThere, valid, isFree, rfl⟩ :=
    (renameVariable_ok_iff isParsed).mp isOk
  constructor
  · intro renamed
    obtain ⟨after, isAfter, -⟩ := renamed.clean
    obtain ⟨-, -, -, isRestored⟩ :=
      (renameVariable_ok_iff isAfter).mp renamed.restored
    exact
      { unread := unread_of_restored isRestored.symm
        free := fun differ =>
          free_of_isClean renamed.clean isThere differ
            (isFree fun same => differ (same ▸ rfl))
        alike := fun differ =>
          alike_of_isClean renamed.clean isThere differ isParsed }
  · intro fits
    have clean :=
      isClean_withVariableRenamed isParsed noIssues isThere valid fits
    refine
      { clean
        declared := rfl
        steps := stepsRenamed_changeStepInput workflow.steps
        rest := rfl
        restored := ?_ }
    obtain ⟨after, isAfter, -⟩ := clean
    obtain ⟨current, listed, isCurrent⟩ := isThere
    apply (renameVariable_ok_iff isAfter).mpr
    refine ⟨?_, ?_, ?_, (withVariableRenamed_back isFree fits.unread).symm⟩
    · refine ⟨_, List.mem_map_of_mem listed, ?_⟩
      rw [renameDeclared, if_pos isCurrent]
    · obtain ⟨declaration, -, isDeclared⟩ :=
        exists_read (parts_of_parse isParsed).1 listed
      rw [← isCurrent, name_of_parse isDeclared]
      rfl
    · intro differs item isItem
      obtain ⟨before, wasListed, rfl⟩ := List.mem_map.mp isItem
      rw [renameDeclared]
      split
      case isTrue isName => exact differs
      case isFalse notName => exact notName

end TaskTwin.Editor
