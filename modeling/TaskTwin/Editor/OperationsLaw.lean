import TaskTwin.Editor.SoundOutputs

/-!
# Sequences of editor operations

Operations take a valid definition without blocking issues to another one, as
long as no new name is one that the schema would trim and every extract step
that is removed can go.
-/

namespace TaskTwin.Editor

open Schema Workflow
open TaskTwin.Engine (exampleExtractStep)
open TaskTwin.Schedule (exampleVariable exampleVariableFlow
  exampleVariableStep)

/--
An operation answers with a valid definition without blocking issues, or with
an error that leaves what the editor holds.
-/
structure EditorOperation.Answers
    (workflow : WorkflowDefinitionInput)
    (operation : EditorOperation) :
    Prop where
  ok : ∀ changed, operation.apply workflow = .ok changed → IsClean changed
  failure :
    ∀ error,
      operation.apply workflow = .failure error →
        operation.after workflow = workflow

/-- Every operation of a sequence answers so. -/
def AnswersThroughout : WorkflowDefinitionInput → List EditorOperation → Prop
  | _, [] => True
  | workflow, operation :: operations =>
      operation.Answers workflow ∧
        AnswersThroughout (operation.after workflow) operations

/-- The arguments with which an operation keeps a definition sound. -/
def EditorOperation.Keeps (workflow : WorkflowDefinitionInput) :
    EditorOperation → Prop
  | .renameVariable _ nextName => trim nextName = nextName
  | .renameWorkflowOutput _ nextName => trim nextName = nextName
  | .removeExtractStep stepId => ExtractStepCanGo workflow stepId
  | _ => True

/-- Every operation of a sequence has such arguments where it is applied. -/
def KeepsThroughout : WorkflowDefinitionInput → List EditorOperation → Prop
  | _, [] => True
  | workflow, operation :: operations =>
      operation.Keeps workflow ∧
        KeepsThroughout (operation.after workflow) operations

/-- Every sequence of operations on every valid definition answers so. -/
def EditorOperationsLaw : Prop :=
  ∀ (workflow : WorkflowDefinitionInput) (parsed : WorkflowDefinition),
    workflow.parse = some parsed →
    HasNoBlockingIssues parsed →
    ∀ operations, AnswersThroughout parsed.input operations

theorem sound_apply
    {workflow changed : WorkflowDefinitionInput}
    {operation : EditorOperation}
    (sound : Sound workflow)
    (keeps : operation.Keeps workflow)
    (isOk : operation.apply workflow = .ok changed) :
    Sound changed := by
  unfold EditorOperation.apply at isOk
  cases operation with
  | addVariable variableInput => exact sound_addVariable sound isOk
  | updateVariable variableName replacementInput =>
      exact sound_updateVariable sound isOk
  | renameVariable currentName nextName =>
      exact sound_renameVariable sound keeps isOk
  | removeVariable variableName => exact sound_removeVariable sound isOk
  | updateStepValueSource stepId target sourceInput =>
      exact sound_updateStepValueSource sound isOk
  | renameWorkflowOutput currentName nextName =>
      exact sound_renameWorkflowOutput sound keeps isOk
  | removeExtractStep stepId => exact sound_removeExtractStep sound keeps isOk

variable {workflow : WorkflowDefinitionInput} {operation : EditorOperation}

theorem sound_after
    (sound : Sound workflow)
    (keeps : operation.Keeps workflow) :
    Sound (operation.after workflow) := by
  unfold EditorOperation.after
  split
  case h_1 changed isOk => exact sound_apply sound keeps isOk
  case h_2 => exact sound
  case h_3 => exact sound

theorem answers_of_sound
    (sound : Sound workflow)
    (keeps : operation.Keeps workflow) :
    operation.Answers workflow := by
  constructor
  case ok =>
    intro changed isOk
    exact (sound_apply sound keeps isOk).isClean
  case failure =>
    intro error isFailure
    rw [EditorOperation.after, isFailure]

theorem answersThroughout_of_sound
    {operations : List EditorOperation}
    (sound : Sound workflow)
    (keeps : KeepsThroughout workflow operations) :
    AnswersThroughout workflow operations := by
  induction operations generalizing workflow with
  | nil => trivial
  | cons operation operations inductionHypothesis =>
      obtain ⟨keepsFirst, keepsRest⟩ := keeps
      constructor
      · exact answers_of_sound sound keepsFirst
      · exact inductionHypothesis (sound_after sound keepsFirst) keepsRest

/--
In a sequence of operations whose new names the schema does not trim, and whose
removed extract steps can go, every operation answers with a valid definition
without blocking issues or leaves what the editor holds.
-/
theorem operations_answer
    {workflow : WorkflowDefinitionInput}
    {parsed : WorkflowDefinition}
    (isParsed : workflow.parse = some parsed)
    (noIssues : HasNoBlockingIssues parsed)
    {operations : List EditorOperation}
    (keeps : KeepsThroughout parsed.input operations) :
    AnswersThroughout parsed.input operations :=
  answersThroughout_of_sound (sound_of_parse isParsed noIssues) keeps

theorem pause_isIdentifier :
    utf16Length "pause" ≤ 128 ∧ isIdentifierText "pause" = true := by
  decide +kernel

/-- A variable, and another one whose name it can be given by mistake. -/
def exampleVariables : List WorkflowVariable :=
  [exampleVariable,
    { exampleVariable with
      name :=
        { text := "pause"
          short := pause_isIdentifier.1
          pattern := pause_isIdentifier.2 } }]

theorem exampleVariables_names :
    (exampleVariables.map WorkflowVariable.name).Nodup := by
  decide +kernel

/-- A gate in front of an extract step at the end. -/
def exampleGatedSteps : List WorkflowStep :=
  [exampleVariableStep, exampleApprovalStep exampleSecondGate,
    exampleExtractStep]

theorem exampleGatedSteps_ids :
    (exampleGatedSteps.map WorkflowStep.id).Nodup := by
  decide +kernel

def exampleGatedFlow : WorkflowDefinition :=
  { exampleVariableFlow with
    workflowVariables := exampleVariables
    variableNamesUnique := exampleVariables_names
    steps := exampleGatedSteps
    stepsNonEmpty := List.cons_ne_nil _ _
    stepIdsUnique := exampleGatedSteps_ids }

theorem exampleGatedFlow_parse :
    exampleGatedFlow.input.parse = some exampleGatedFlow := by
  apply WorkflowDefinition.parse_input
  unfold VariablesParse
  decide +kernel

theorem exampleGatedFlow_noIssues : HasNoBlockingIssues exampleGatedFlow := by
  constructor
  case inputs => decide +kernel
  case outputs =>
    apply Option.map_eq_some_iff.mp
    decide +kernel
  case approvals =>
    apply Option.map_eq_some_iff.mp
    decide +kernel

theorem operations_answer_gatedFlow :
    AnswersThroughout exampleGatedFlow.input
      [.renameVariable "note" "gate", .renameWorkflowOutput "note" "pause",
        .removeVariable "pause"] :=
  operations_answer exampleGatedFlow_parse exampleGatedFlow_noIssues
    ⟨gate_isName.1, pause_isName.1, trivial, trivial⟩

/-- Whether an operation answers with a definition that does not parse. -/
def answersInvalid
    (workflow : WorkflowDefinitionInput)
    (operation : EditorOperation) :
    Bool :=
  match operation.apply workflow with
  | .ok changed => changed.parse.isNone
  | _ => false

theorem not_answers_of_answersInvalid
    (isInvalid : answersInvalid workflow operation = true) :
    ¬operation.Answers workflow := by
  intro answers
  unfold answersInvalid at isInvalid
  split at isInvalid
  case h_2 => cases isInvalid
  case h_1 changed isOk =>
    obtain ⟨parsed, isParsed, -⟩ := answers.ok changed isOk
    rw [isParsed] at isInvalid
    cases isInvalid

/-- A name with a blank in front passes for a free one, and is stored so. -/
theorem not_editorOperationsLaw : ¬EditorOperationsLaw := by
  intro law
  obtain ⟨answers, -⟩ :=
    law _ _ exampleGatedFlow_parse exampleGatedFlow_noIssues
      [.renameVariable "note" " pause"]
  apply not_answers_of_answersInvalid _ answers
  decide +kernel

end TaskTwin.Editor
