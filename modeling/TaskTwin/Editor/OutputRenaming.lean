import TaskTwin.Editor.OperationsLaw
import TaskTwin.Editor.VariableRenaming

/-!
# Renaming an output

An output that is renamed gets its new name in the step that produces it and in
all references, under the condition under which a variable does.
-/

namespace TaskTwin.Editor

open Schema Workflow Collection

/-- The definition with another name for an output. -/
def withOutputRenamed
    (workflow : WorkflowDefinitionInput)
    (currentName nextName : String) :
    WorkflowDefinitionInput :=
  { workflow with
    steps :=
      workflow.steps.map
        (changeStepInput (replaceOutputSource currentName nextName)
          (substitute currentName nextName)) }

/-- What renaming an output does to a valid definition. -/
structure OutputRenamed
    (workflow changed : WorkflowDefinitionInput)
    (currentName nextName : String) : Prop where
  clean : IsClean changed
  steps :
    StepsRenamed (replaceOutputSource currentName nextName)
      (fun name => if name = currentName then nextName else name)
      workflow.steps changed.steps
  rest : { changed with steps := workflow.steps } = workflow
  restored : renameWorkflowOutput changed nextName currentName = .ok workflow

def outputNames (workflow : WorkflowDefinitionInput) : List String :=
  workflow.steps.filterMap WorkflowStepInput.outputName?

/-- Whether a new name for an output fits. -/
def OutputNameFits
    (workflow : WorkflowDefinitionInput)
    (currentName nextName : String) :
    Prop :=
  NameFits (outputNames workflow)
    (fun name => Reads workflow (.output name)) currentName nextName

variable
  {workflow changed : WorkflowDefinitionInput}
  {parsed : WorkflowDefinition}
  {currentName nextName : String}

variable {step : WorkflowStepInput}

theorem exists_output_read
    {read : WorkflowStep}
    (isStep : step.parse = some read)
    {outputName : String}
    (isOutput : step.outputName? = some outputName) :
    ∃ name source, parseIdentifier outputName = some name ∧
      producedOutput read = some (name, source) := by
  have reads := outputName?_of_parse isStep
  rw [isOutput, Option.map_some] at reads
  obtain ⟨⟨name, source⟩, produces, same⟩ :=
    Option.map_eq_some_iff.mp reads.symm
  exact ⟨name, source, same.symm, produces⟩

theorem exists_output_text
    {read : WorkflowStep}
    (isStep : step.parse = some read)
    {name : Identifier}
    {source : ExtractSource}
    (produces : producedOutput read = some (name, source)) :
    ∃ outputName, step.outputName? = some outputName ∧
      parseIdentifier outputName = some name := by
  have reads := outputName?_of_parse isStep
  rw [produces, Option.map_some] at reads
  exact Option.map_eq_some_iff.mp reads

theorem step_eq_of_id
    (isParsed : workflow.parse = some parsed)
    {step other : WorkflowStepInput}
    (listed : step ∈ workflow.steps)
    (otherListed : other ∈ workflow.steps)
    (sameId : step.id = other.id) :
    step = other :=
  List.inj_on_of_nodup_map (nodup_ids_of_parse isParsed) listed otherListed
    sameId

/-- No two steps produce outputs with names that the schema reads alike. -/
theorem eq_of_outputNames
    (isParsed : workflow.parse = some parsed)
    (noIssues : HasNoBlockingIssues parsed)
    {step other : WorkflowStepInput}
    (listed : step ∈ workflow.steps)
    (otherListed : other ∈ workflow.steps)
    {outputName otherName : String}
    (isOutput : step.outputName? = some outputName)
    (isOtherOutput : other.outputName? = some otherName)
    (same : parseIdentifier outputName = parseIdentifier otherName) :
    step = other := by
  obtain ⟨-, areSteps, -⟩ := parts_of_parse isParsed
  obtain ⟨read, isRead, isStep⟩ := exists_read areSteps listed
  obtain ⟨otherRead, isOtherRead, isOther⟩ := exists_read areSteps otherListed
  obtain ⟨name, source, isName, produces⟩ :=
    exists_output_read isStep isOutput
  obtain ⟨otherNameRead, otherSource, isOtherName, producesOther⟩ :=
    exists_output_read isOther isOtherOutput
  rw [same, isOtherName] at isName
  cases isName
  have sameRead :=
    (hasNoBlockingIssues_iff.mp noIssues).outputs.eq_of_produced isRead
      isOtherRead produces producesOther
  apply step_eq_of_id isParsed listed otherListed
  rw [← (action_of_parse isStep).2.1, ← (action_of_parse isOther).2.1, sameRead]

theorem replaceOutputSource_self (name : String) :
    replaceOutputSource name name = id :=
  substitute_self (ValueSourceInput.output name)

theorem withOutputRenamed_self
    (workflow : WorkflowDefinitionInput)
    (name : String) :
    withOutputRenamed workflow name name = workflow := by
  have sameSteps :
      workflow.steps.map
          (changeStepInput (replaceOutputSource name name)
            (substitute name name)) =
        workflow.steps := by
    rw [replaceOutputSource_self, substitute_self]
    exact List.map_id'' changeStepInput_id_id _
  rw [withOutputRenamed, sameSteps]

theorem mapOutputName_of_producer
    (isOutput : step.outputName? = some currentName) :
    step.mapOutputName (substitute currentName nextName) =
      step.withOutputName nextName := by
  rw [WorkflowStepInput.mapOutputName, isOutput]
  exact congrArg (step.withOutputName ·) (if_pos rfl)

theorem mapOutputName_of_other
    (isOther : step.outputName? ≠ some currentName) :
    step.mapOutputName (substitute currentName nextName) = step := by
  obtain ⟨stepId, name, action⟩ := step
  cases action with
  | extract locator source outputName outputLabel timeoutMs =>
      have otherText : outputName ≠ currentName := by
        rintro rfl
        exact isOther rfl
      simp [WorkflowStepInput.mapOutputName, WorkflowStepInput.outputName?,
        WorkflowStepInput.withOutputName, substitute, otherText]
  | _ => rfl

theorem renameWorkflowOutput_ok_iff
    (isParsed : workflow.parse = some parsed)
    (noIssues : HasNoBlockingIssues parsed) :
    renameWorkflowOutput workflow currentName nextName = .ok changed ↔
      (∃ step ∈ workflow.steps, step.outputName? = some currentName) ∧
        (parseIdentifier nextName).isSome ∧
        (currentName ≠ nextName →
          ∀ step ∈ workflow.steps, step.outputName? ≠ some nextName) ∧
        changed = withOutputRenamed workflow currentName nextName := by
  simp only [renameWorkflowOutput]
  split
  case h_1 notFound =>
    rw [List.find?_eq_none] at notFound
    constructor
    · intro isOk
      cases isOk
    · rintro ⟨⟨step, listed, isOutput⟩, -⟩
      simpa [isOutput] using notFound step listed
  case h_2 producer isFound =>
    have listed := List.mem_of_find?_eq_some isFound
    have isOutput : producer.outputName? = some currentName := by
      simpa using List.find?_some isFound
    have isThere :
        ∃ step ∈ workflow.steps, step.outputName? = some currentName :=
      ⟨producer, listed, isOutput⟩
    have isRenamed :
        { workflow with
          steps :=
            workflow.steps.map fun step =>
              renameReferences currentName nextName
                (if step.id = producer.id then step.withOutputName nextName
                else step) } =
          withOutputRenamed workflow currentName nextName := by
      rw [withOutputRenamed]
      congr 1
      apply List.map_congr_left
      intro step isStep
      rw [changeStepInput, renameReferences]
      congr 1
      split
      case isTrue sameId =>
        have same := step_eq_of_id isParsed isStep listed sameId
        exact (mapOutputName_of_producer (same ▸ isOutput)).symm
      case isFalse otherId =>
        symm
        apply mapOutputName_of_other
        intro isOutputToo
        have same :=
          eq_of_outputNames isParsed noIssues isStep listed isOutputToo
            isOutput rfl
        exact otherId (congrArg WorkflowStepInput.id same)
    rw [isRenamed]
    refine (renaming_ok_iff ?_).trans ?_
    · rintro rfl
      exact withOutputRenamed_self workflow currentName
    · rw [Bool.not_eq_true, Option.isNone_eq_false_iff]
      simp only [isThere, true_and, not_exists, not_and, ne_eq]

section Parsing

variable {currentRead nextRead : Identifier}

theorem output_of_parse
    {source : ValueSourceInput}
    {name : Identifier}
    (isRead : source.parse = some (.output name)) :
    ∃ text, source = .output text ∧ parseIdentifier text = some name := by
  cases source with
  | literal value => cases isRead
  | «variable» text =>
      rw [ValueSourceInput.parse, Option.map_eq_some_iff] at isRead
      obtain ⟨read, -, same⟩ := isRead
      cases same
  | secret text =>
      rw [ValueSourceInput.parse, Option.map_eq_some_iff] at isRead
      obtain ⟨read, -, same⟩ := isRead
      cases same
  | output text =>
      rw [ValueSourceInput.parse, Option.map_eq_some_iff] at isRead
      obtain ⟨read, isRead, same⟩ := isRead
      cases same
      exact ⟨text, rfl, isRead⟩

theorem parse_replaceOutputSource
    (isCurrent : parseIdentifier currentName = some currentRead)
    (isNext : parseIdentifier nextName = some nextRead)
    {source : ValueSourceInput}
    {read : ValueSource}
    (isRead : source.parse = some read)
    (alike : trim nextName ≠ trim currentName →
      ∀ name, source = .output name →
        trim name = trim currentName → name = currentName) :
    (replaceOutputSource currentName nextName source).parse =
      some (renamedOutput currentRead nextRead read) := by
  by_cases isSource : source = .output currentName
  · subst isSource
    rw [ValueSourceInput.parse, isCurrent] at isRead
    cases isRead
    rw [replaceOutputSource, if_pos rfl, ValueSourceInput.parse, isNext,
      renamedOutput, if_pos rfl]
    rfl
  · rw [replaceOutputSource, if_neg isSource, isRead, renamedOutput]
    split
    case isFalse => rfl
    case isTrue isOutput =>
      subst isOutput
      obtain ⟨text, rfl, isText⟩ := output_of_parse isRead
      have sameTrim := trim_eq_of_parse isText isCurrent
      have sameName : trim nextName = trim currentName := by
        by_contra differs
        apply isSource
        rw [alike differs text rfl sameTrim]
      rw [parseIdentifier_congr sameName, isCurrent] at isNext
      rw [Option.some.inj isNext]

theorem parse_substitute
    (isParsed : workflow.parse = some parsed)
    (noIssues : HasNoBlockingIssues parsed)
    (isThere : ∃ step ∈ workflow.steps, step.outputName? = some currentName)
    (isCurrent : parseIdentifier currentName = some currentRead)
    (isNext : parseIdentifier nextName = some nextRead)
    {step : WorkflowStepInput}
    (listed : step ∈ workflow.steps)
    {outputName : String}
    {read : Identifier}
    (isOutput : step.outputName? = some outputName)
    (isRead : parseIdentifier outputName = some read) :
    parseIdentifier (substitute currentName nextName outputName) =
      some (renamedName currentRead nextRead read) := by
  by_cases isName : outputName = currentName
  · rw [isName, isCurrent] at isRead
    rw [substitute, if_pos isName, renamedName,
      if_pos (Option.some.inj isRead).symm]
    exact isNext
  · have notCurrent : read ≠ currentRead := by
      rintro rfl
      obtain ⟨producer, producerListed, isProducer⟩ := isThere
      have same :=
        eq_of_outputNames isParsed noIssues listed producerListed isOutput
          isProducer (isRead.trans isCurrent.symm)
      rw [same, isProducer] at isOutput
      exact isName (Option.some.inj isOutput).symm
    rw [substitute, if_neg isName, renamedName, if_neg notCurrent]
    exact isRead

end Parsing

theorem isClean_withOutputRenamed
    (isParsed : workflow.parse = some parsed)
    (noIssues : HasNoBlockingIssues parsed)
    (isThere : ∃ step ∈ workflow.steps, step.outputName? = some currentName)
    (valid : (parseIdentifier nextName).isSome)
    (fits : OutputNameFits workflow currentName nextName) :
    IsClean (withOutputRenamed workflow currentName nextName) := by
  obtain ⟨areVariables, areSteps, positive⟩ := parts_of_parse isParsed
  obtain ⟨nextRead, isNext⟩ := Option.isSome_iff_exists.mp valid
  have stepsFit := hasNoBlockingIssues_iff.mp noIssues
  obtain ⟨currentRead, isCurrent⟩ :
      ∃ name, parseIdentifier currentName = some name := by
    obtain ⟨producer, listed, isProducer⟩ := isThere
    obtain ⟨read, -, isStep⟩ := exists_read areSteps listed
    obtain ⟨name, source, isName, -⟩ := exists_output_read isStep isProducer
    exact ⟨name, isName⟩
  have isFree :
      ∀ step ∈ parsed.steps, ∀ outputName source,
        producedOutput step = some (outputName, source) →
          outputName = nextRead → nextRead = currentRead := by
    intro read isRead outputName source produces sameRead
    by_contra differs
    obtain ⟨step, listed, isStep⟩ := (mem_of_mapM areSteps read).mp isRead
    obtain ⟨text, isText, isName⟩ := exists_output_text isStep produces
    have otherTrim : trim nextName ≠ trim currentName := by
      intro same
      rw [parseIdentifier_congr same, isCurrent] at isNext
      exact differs (Option.some.inj isNext).symm
    apply fits.free otherTrim text
    · exact List.mem_filterMap.mpr ⟨step, listed, isText⟩
    · exact trim_eq_of_parse (sameRead ▸ isName) isNext
  have stepsAfter :
      (workflow.steps.map
          (changeStepInput (replaceOutputSource currentName nextName)
            (substitute currentName nextName))).mapM
          WorkflowStepInput.parse =
        some
          (parsed.steps.map
            (changeStep (renamedOutput currentRead nextRead)
              (renamedName currentRead nextRead))) := by
    apply mapM_map areSteps
    intro step listed read isRead
    apply parse_changeStepInput isRead
    · intro source target sourceRead isSource isSourceRead
      apply parse_replaceOutputSource isCurrent isNext isSourceRead
      rintro otherTrim name rfl
      exact fits.alike otherTrim name ⟨step, listed, target, isSource⟩
    · intro outputName nameRead isOutput isNameRead
      exact
        parse_substitute isParsed noIssues isThere isCurrent isNext listed
          isOutput isNameRead
  obtain ⟨after, isAfter, areDeclared, areStepsAfter⟩ :=
    @exists_parse (withOutputRenamed workflow currentName nextName) _ _
      areVariables stepsAfter positive (by simpa using parsed.stepsNonEmpty)
      (by rw [map_id_changeStep]; exact parsed.stepIdsUnique)
      parsed.variableNamesUnique
  refine ⟨after, isAfter, hasNoBlockingIssues_iff.mpr ?_⟩
  rw [areDeclared, areStepsAfter]
  apply stepsFit.map
  case sources =>
    intro target source fitsBefore
    exact fitsBefore.renamedOutput currentRead nextRead
  case reads => exact readsRenamed_renamedOutput currentRead nextRead
  case apart => exact renamesApart_renamedName isFree

theorem replaceOutputSource_replaceOutputSource
    {source : ValueSourceInput}
    (unread : currentName ≠ nextName → source ≠ .output nextName) :
    replaceOutputSource nextName currentName
        (replaceOutputSource currentName nextName source) =
      source :=
  substitute_substitute fun differ =>
    unread fun same => differ (congrArg ValueSourceInput.output same)

theorem withOutputRenamed_back
    (isFree : currentName ≠ nextName →
      ∀ step ∈ workflow.steps, step.outputName? ≠ some nextName)
    (unread : currentName ≠ nextName → ¬Reads workflow (.output nextName)) :
    withOutputRenamed (withOutputRenamed workflow currentName nextName)
        nextName currentName =
      workflow := by
  have sameSteps :
      (withOutputRenamed workflow currentName nextName).steps.map
          (changeStepInput (replaceOutputSource nextName currentName)
            (substitute nextName currentName)) =
        workflow.steps := by
    apply map_changeStepInput_back
    · intro step listed source target isSource
      apply replaceOutputSource_replaceOutputSource
      rintro differs rfl
      exact unread differs ⟨step, listed, target, isSource⟩
    · intro step listed outputName isOutput
      apply substitute_substitute
      rintro differs rfl
      exact isFree differs step listed isOutput
  rw [withOutputRenamed, sameSteps]
  rfl

theorem unread_of_outputRestored
    (isRestored :
      withOutputRenamed (withOutputRenamed workflow currentName nextName)
          nextName currentName =
        workflow)
    (differs : currentName ≠ nextName) :
    ¬Reads workflow (.output nextName) := by
  rintro ⟨step, listed, target, isSource⟩
  have sameSteps := congrArg WorkflowDefinitionInput.steps isRestored
  have sameSource := source_of_back sameSteps listed isSource
  have read :
      replaceOutputSource nextName currentName
          (replaceOutputSource currentName nextName (.output nextName)) =
        .output currentName :=
    substitute_substitute_new fun same =>
      differs (ValueSourceInput.output.inj same)
  rw [read] at sameSource
  exact differs (ValueSourceInput.output.inj sameSource)

section Unfit

variable
  (isClean : IsClean (withOutputRenamed workflow currentName nextName))
  (isThere : ∃ step ∈ workflow.steps, step.outputName? = some currentName)
  (differ : trim nextName ≠ trim currentName)
include isClean isThere differ

theorem outputFree_of_isClean
    (isFree : ∀ step ∈ workflow.steps, step.outputName? ≠ some nextName) :
    ∀ name ∈ outputNames workflow, trim name ≠ trim nextName := by
  obtain ⟨after, isAfter, noIssues⟩ := isClean
  obtain ⟨producer, producerListed, isProducer⟩ := isThere
  intro name isName sameTrim
  obtain ⟨step, listed, isOutput⟩ := List.mem_filterMap.mp isName
  have notCurrent : name ≠ currentName := by
    rintro rfl
    exact differ sameTrim.symm
  have outputAfter :=
    @outputName?_changeStepInput
      (replaceOutputSource currentName nextName)
      (substitute currentName nextName) step
  have producedAfter :=
    @outputName?_changeStepInput
      (replaceOutputSource currentName nextName)
      (substitute currentName nextName) producer
  rw [isOutput, Option.map_some, substitute, if_neg notCurrent] at outputAfter
  rw [isProducer, Option.map_some, substitute, if_pos rfl] at producedAfter
  have same :=
    eq_of_outputNames isAfter noIssues (List.mem_map_of_mem listed)
      (List.mem_map_of_mem producerListed) outputAfter producedAfter
      (parseIdentifier_congr sameTrim)
  rw [same, producedAfter] at outputAfter
  cases outputAfter
  exact isFree step listed isOutput

theorem outputAlike_of_isClean
    (isParsed : workflow.parse = some parsed)
    (noIssues : HasNoBlockingIssues parsed) :
    ∀ name, Reads workflow (.output name) →
      trim name = trim currentName → name = currentName := by
  obtain ⟨after, isAfter, noIssuesAfter⟩ := isClean
  obtain ⟨producer, producerListed, isProducer⟩ := isThere
  rintro name ⟨step, listed, target, isSource⟩ sameTrim
  by_contra otherText
  obtain ⟨-, areSteps, -⟩ := parts_of_parse isAfter
  obtain ⟨read, isRead, isStep⟩ :=
    exists_read areSteps (List.mem_map_of_mem listed)
  have unchanged :
      replaceOutputSource currentName nextName (.output name) =
        .output name :=
    if_neg fun same => otherText (ValueSourceInput.output.inj same)
  have isSourceAfter :=
    @valueSource_changeStepInput
      (replaceOutputSource currentName nextName)
      (substitute currentName nextName) step
  rw [isSource, Option.map_some, unchanged] at isSourceAfter
  obtain ⟨source, isSourceRead, reads⟩ :=
    exists_valueSource_read isStep isSourceAfter
  rw [ValueSourceInput.parse, Option.map_eq_some_iff] at isSourceRead
  obtain ⟨nameRead, isNameRead, rfl⟩ := isSourceRead
  obtain ⟨before, behind, isSplit⟩ := List.append_of_mem isRead
  obtain ⟨producerRead, isBefore, valueType, ⟨extracted, produces, -⟩, -⟩ :=
    ((hasNoBlockingIssues_iff.mp noIssuesAfter).outputs.flows before read
      behind isSplit).reads nameRead target reads
  have producerIsRead : producerRead ∈ after.steps := by
    rw [isSplit]
    exact List.mem_append_left _ isBefore
  obtain ⟨changedStep, isChanged, isProducerRead⟩ :=
    (mem_of_mapM areSteps producerRead).mp producerIsRead
  obtain ⟨other, otherListed, rfl⟩ := List.mem_map.mp isChanged
  obtain ⟨text, isText, isTextRead⟩ :=
    exists_output_text isProducerRead produces
  rw [outputName?_changeStepInput, Option.map_eq_some_iff] at isText
  obtain ⟨otherName, isOther, rfl⟩ := isText
  have sameTrimToo := trim_eq_of_parse isTextRead isNameRead
  by_cases isCurrent : otherName = currentName
  · rw [substitute, if_pos isCurrent] at sameTrimToo
    exact differ (sameTrimToo.trans sameTrim)
  · rw [substitute, if_neg isCurrent] at sameTrimToo
    have same :=
      eq_of_outputNames isParsed noIssues otherListed producerListed isOther
        isProducer (parseIdentifier_congr (sameTrimToo.trans sameTrim))
    rw [same, isProducer] at isOther
    exact isCurrent (Option.some.inj isOther).symm

end Unfit

/-- Renaming an output keeps the definition exactly if its new name fits. -/
theorem outputRenamed_iff
    (isParsed : workflow.parse = some parsed)
    (noIssues : HasNoBlockingIssues parsed)
    (isOk :
      renameWorkflowOutput workflow currentName nextName = .ok changed) :
    OutputRenamed workflow changed currentName nextName ↔
      OutputNameFits workflow currentName nextName := by
  obtain ⟨isThere, valid, isFree, rfl⟩ :=
    (renameWorkflowOutput_ok_iff isParsed noIssues).mp isOk
  constructor
  · intro renamed
    obtain ⟨after, isAfter, noIssuesAfter⟩ := renamed.clean
    obtain ⟨-, -, -, isRestored⟩ :=
      (renameWorkflowOutput_ok_iff isAfter noIssuesAfter).mp renamed.restored
    exact
      { unread := unread_of_outputRestored isRestored.symm
        free := fun differ =>
          outputFree_of_isClean renamed.clean isThere differ
            (isFree fun same => differ (same ▸ rfl))
        alike := fun differ =>
          outputAlike_of_isClean renamed.clean isThere differ isParsed
            noIssues }
  · intro fits
    have clean :=
      isClean_withOutputRenamed isParsed noIssues isThere valid fits
    refine
      { clean
        steps := stepsRenamed_changeStepInput workflow.steps
        rest := rfl
        restored := ?_ }
    obtain ⟨after, isAfter, noIssuesAfter⟩ := clean
    obtain ⟨producer, listed, isProducer⟩ := isThere
    apply (renameWorkflowOutput_ok_iff isAfter noIssuesAfter).mpr
    refine ⟨?_, ?_, ?_, (withOutputRenamed_back isFree fits.unread).symm⟩
    · refine ⟨_, List.mem_map_of_mem listed, ?_⟩
      rw [outputName?_changeStepInput, isProducer, Option.map_some,
        substitute, if_pos rfl]
    · obtain ⟨read, -, isStep⟩ :=
        exists_read (parts_of_parse isParsed).2.1 listed
      obtain ⟨name, source, isName, -⟩ := exists_output_read isStep isProducer
      rw [isName]
      rfl
    · intro differs step isStep
      obtain ⟨before, wasListed, rfl⟩ := List.mem_map.mp isStep
      rw [outputName?_changeStepInput, Ne, Option.map_eq_some_iff]
      rintro ⟨outputName, -, isCurrent⟩
      rw [substitute] at isCurrent
      split at isCurrent
      case isTrue => exact differs isCurrent
      case isFalse notCurrent => exact notCurrent isCurrent

end TaskTwin.Editor

namespace TaskTwin.Editor

open Schema Workflow

/-- Every renaming that is answered renames. -/
def RenamingLaw : Prop :=
  ∀ (workflow : WorkflowDefinitionInput) (parsed : WorkflowDefinition),
    workflow.parse = some parsed →
    HasNoBlockingIssues parsed →
    ∀ currentName nextName changed,
      (renameVariable workflow currentName nextName = .ok changed →
          VariableRenamed workflow changed currentName nextName) ∧
        (renameWorkflowOutput workflow currentName nextName = .ok changed →
          OutputRenamed workflow changed currentName nextName)

theorem renamings_iff
    (workflow : WorkflowDefinitionInput)
    (parsed : WorkflowDefinition)
    (isParsed : workflow.parse = some parsed)
    (noIssues : HasNoBlockingIssues parsed)
    (currentName nextName : String) :
    (∀ changed,
        renameVariable workflow currentName nextName = .ok changed →
          (VariableRenamed workflow changed currentName nextName ↔
            VariableNameFits workflow currentName nextName)) ∧
      ∀ changed,
        renameWorkflowOutput workflow currentName nextName = .ok changed →
          (OutputRenamed workflow changed currentName nextName ↔
            OutputNameFits workflow currentName nextName) := by
  constructor
  · intro changed isOk
    exact variableRenamed_iff isParsed noIssues isOk
  · intro changed isOk
    exact outputRenamed_iff isParsed noIssues isOk

theorem renamings_iff_gatedFlow :
    (∀ changed,
        renameVariable exampleGatedFlow.input "note" "gate" = .ok changed →
          (VariableRenamed exampleGatedFlow.input changed "note" "gate" ↔
            VariableNameFits exampleGatedFlow.input "note" "gate")) ∧
      ∀ changed,
        renameWorkflowOutput exampleGatedFlow.input "note" "gate" =
            .ok changed →
          (OutputRenamed exampleGatedFlow.input changed "note" "gate" ↔
            OutputNameFits exampleGatedFlow.input "note" "gate") :=
  renamings_iff exampleGatedFlow.input exampleGatedFlow exampleGatedFlow_parse
    exampleGatedFlow_noIssues "note" "gate"

/-- A blank in front hides a name that another variable has. -/
theorem not_renamingLaw : ¬RenamingLaw := by
  intro law
  have isOk :
      renameVariable exampleGatedFlow.input "note" " pause" =
        .ok (withVariableRenamed exampleGatedFlow.input "note" " pause") := by
    decide +kernel
  have renamed :=
    (law _ _ exampleGatedFlow_parse exampleGatedFlow_noIssues "note" " pause"
      _).1 isOk
  obtain ⟨parsed, isParsed, -⟩ := renamed.clean
  have notParsed :
      (withVariableRenamed exampleGatedFlow.input "note" " pause").parse =
        none := by
    rw [← Option.isNone_iff_eq_none]
    decide +kernel
  rw [notParsed] at isParsed
  cases isParsed

end TaskTwin.Editor
