import TaskTwin.Editor.Analyses
import TaskTwin.Editor.Operations

/-!
# Changing steps that fit

Renaming variables and outputs in all steps, and taking an unread extract step
away, keep what the analyses ask of the steps.
-/

namespace TaskTwin.Editor

open Schema Workflow

def changeAssertion
    (change : ValueSource → ValueSource) :
    WorkflowAssertion → WorkflowAssertion
  | .text locator matchMode operator expected =>
      .text locator matchMode operator (change expected)
  | .value locator operator expected =>
      .value locator operator (change expected)
  | .url matchMode operator expected =>
      .url matchMode operator (change expected)
  | assertion => assertion

/-- An action with other value sources and another name for its output. -/
def changeAction
    (change : ValueSource → ValueSource)
    (rename : Identifier → Identifier) :
    WorkflowStepAction → WorkflowStepAction
  | .navigate url => .navigate (change url)
  | .fill locator value => .fill locator (change value)
  | .select locator value => .select locator (change value)
  | .extract locator source outputName outputLabel timeoutMs =>
      .extract locator source (rename outputName) outputLabel timeoutMs
  | .verify assertion timeoutMs =>
      .verify (changeAssertion change assertion) timeoutMs
  | action => action

variable
  {change : ValueSource → ValueSource}
  {rename : Identifier → Identifier}

theorem refined_changeAction (action : WorkflowStepAction) :
    (changeAction change rename action).refined = action.refined := by
  cases action with
  | extract locator source outputName outputLabel timeoutMs =>
      cases source <;> rfl
  | verify assertion timeoutMs => cases assertion <;> rfl
  | _ => rfl

def changeStep
    (change : ValueSource → ValueSource)
    (rename : Identifier → Identifier)
    (step : WorkflowStep) :
    WorkflowStep where
  id := step.id
  name := step.name
  action := changeAction change rename step.action
  refined := by
    rw [refined_changeAction]
    exact step.refined

@[simp] theorem changeStep_id (step : WorkflowStep) :
    (changeStep change rename step).id = step.id :=
  rfl

@[simp] theorem changeStep_type (step : WorkflowStep) :
    (changeStep change rename step).type = step.type := by
  obtain ⟨id, name, action, refined⟩ := step
  cases action <;> rfl

theorem valueSource_changeStep (step : WorkflowStep) :
    (changeStep change rename step).valueSource =
      step.valueSource.map fun read => (change read.1, read.2) := by
  obtain ⟨id, name, action, refined⟩ := step
  cases action with
  | verify assertion timeoutMs => cases assertion <;> rfl
  | _ => rfl

theorem producedOutput_changeStep (step : WorkflowStep) :
    producedOutput (changeStep change rename step) =
      (producedOutput step).map fun output => (rename output.1, output.2) := by
  obtain ⟨id, name, action, refined⟩ := step
  cases action <;> rfl

/-- What a change of the value sources does with the outputs they read. -/
def ReadsRenamed
    (change : ValueSource → ValueSource)
    (rename : Identifier → Identifier) :
    Prop :=
  ∀ source outputName,
    change source = .output outputName →
      ∃ earlierName,
        source = .output earlierName ∧ rename earlierName = outputName

/-- The outputs of the steps get different names. -/
def RenamesApart
    (rename : Identifier → Identifier)
    (steps : List WorkflowStep) :
    Prop :=
  ∀ step ∈ steps, ∀ step' ∈ steps, ∀ outputName outputName' source source',
    producedOutput step = some (outputName, source) →
      producedOutput step' = some (outputName', source') →
        rename outputName = rename outputName' → outputName = outputName'

theorem inDataFlow_of_changeStep
    (reads : ReadsRenamed change rename)
    {step : WorkflowStep}
    (inDataFlow : (changeStep change rename step).InDataFlow) :
    step.InDataFlow := by
  rcases inDataFlow with isExtract | readsOutput
  · left
    rwa [changeStep_type] at isExtract
  · right
    rw [WorkflowStep.readsOutput, valueSource_changeStep] at readsOutput
    rw [WorkflowStep.readsOutput]
    cases isSource : step.valueSource with
    | none => simp [isSource] at readsOutput
    | some read =>
        obtain ⟨source, target⟩ := read
        simp only [isSource, Option.map_some] at readsOutput
        split at readsOutput
        case h_2 => cases readsOutput
        case h_1 outputName target' isOutput =>
          obtain ⟨isOutput, -⟩ := Prod.mk.inj (Option.some.inj isOutput)
          obtain ⟨earlierName, rfl, -⟩ := reads source outputName isOutput
          rfl

theorem produces_changeStep
    {step : WorkflowStep}
    {outputName : Identifier}
    {valueType : WorkflowOutputType}
    (produces : Produces step outputName valueType) :
    Produces (changeStep change rename step) (rename outputName)
      valueType := by
  obtain ⟨source, isProduced, typed⟩ := produces
  refine ⟨source, ?_, typed⟩
  rw [producedOutput_changeStep, isProduced, Option.map_some]

/-- The outputs that a changed step produces are those of the step. -/
theorem producedOutput_of_changeStep
    {step : WorkflowStep}
    {outputName : Identifier}
    {source : ExtractSource}
    (produces :
      producedOutput (changeStep change rename step) =
        some (outputName, source)) :
    ∃ earlierName,
      producedOutput step = some (earlierName, source) ∧
        rename earlierName = outputName := by
  rw [producedOutput_changeStep, Option.map_eq_some_iff] at produces
  obtain ⟨⟨earlierName, source'⟩, isProduced, same⟩ := produces
  obtain ⟨rfl, rfl⟩ := Prod.mk.inj same
  exact ⟨earlierName, isProduced, rfl⟩

theorem FlowsAfter.map
    {before : List WorkflowStep}
    {step : WorkflowStep}
    (flows : FlowsAfter before step)
    (reads : ReadsRenamed change rename)
    (apart : RenamesApart rename (step :: before)) :
    FlowsAfter (before.map (changeStep change rename))
      (changeStep change rename step) := by
  constructor
  case reads =>
    intro outputName target isRead
    rw [valueSource_changeStep, Option.map_eq_some_iff] at isRead
    obtain ⟨⟨source, target'⟩, isSource, same⟩ := isRead
    obtain ⟨isOutput, rfl⟩ := Prod.mk.inj same
    obtain ⟨earlierName, rfl, rfl⟩ := reads source outputName isOutput
    obtain ⟨producer, isBefore, valueType, produces, compatible⟩ :=
      flows.reads earlierName target' isSource
    exact
      ⟨_, List.mem_map_of_mem isBefore, valueType,
        produces_changeStep produces, compatible⟩
  case typed =>
    intro outputName source produces
    obtain ⟨earlierName, isProduced, -⟩ := producedOutput_of_changeStep produces
    exact flows.typed earlierName source isProduced
  case fresh =>
    intro outputName source produces earlier isEarlier source' producesToo
    obtain ⟨before', isBefore, rfl⟩ := List.mem_map.mp isEarlier
    obtain ⟨name, isProduced, renamed⟩ := producedOutput_of_changeStep produces
    obtain ⟨name', isProduced', renamed'⟩ :=
      producedOutput_of_changeStep producesToo
    have same :=
      apart step List.mem_cons_self before' (List.mem_cons_of_mem _ isBefore)
        _ _ _ _ isProduced isProduced' (renamed.trans renamed'.symm)
    apply flows.fresh name source isProduced before' isBefore source'
    rw [same]
    exact isProduced'

theorem OutputsFlow.map
    {steps : List WorkflowStep}
    (flow : OutputsFlow steps)
    (reads : ReadsRenamed change rename)
    (apart : RenamesApart rename steps) :
    OutputsFlow (steps.map (changeStep change rename)) := by
  constructor
  case flows =>
    intro before step after isSplit
    obtain ⟨before, rest, rfl, rfl, isRest⟩ := List.map_eq_append_iff.mp isSplit
    obtain ⟨step, after, rfl, rfl, rfl⟩ := List.map_eq_cons_iff.mp isRest
    apply (flow.flows before step after rfl).map reads
    have among : ∀ other ∈ step :: before, other ∈ before ++ step :: after := by
      intro other isOther
      rcases List.mem_cons.mp isOther with rfl | isBefore
      · exact List.mem_append_right _ List.mem_cons_self
      · exact List.mem_append_left _ isBefore
    intro first isFirst second isSecond
    exact apart first (among first isFirst) second (among second isSecond)
  case short =>
    intro changed isChanged inDataFlow
    obtain ⟨step, isStep, rfl⟩ := List.mem_map.mp isChanged
    exact flow.short step isStep (inDataFlow_of_changeStep reads inDataFlow)

/-- What the gates of a workflow depend on. -/
def gateKey (step : WorkflowStep) : NonEmptyString × WorkflowStepType :=
  (step.id, step.type)

/-- Steps with the same identifiers and types gate the same steps. -/
theorem GatesFit.of_sameKeys
    {steps steps' : List WorkflowStep}
    (fits : GatesFit steps)
    (same : steps.map gateKey = steps'.map gateKey) :
    GatesFit steps' := by
  constructor
  case gates =>
    intro before' gate' after' isSplit isApproval'
    rw [isSplit, List.map_append, List.map_cons] at same
    obtain ⟨before, rest, rfl, -, isRest⟩ := List.map_eq_append_iff.mp same
    obtain ⟨gate, after, rfl, isGate, isAfter⟩ := List.map_eq_cons_iff.mp isRest
    have isApproval : gate.type = .approval :=
      (congrArg Prod.snd isGate).trans isApproval'
    obtain ⟨gated, rest, rfl, shortGate, shortGated⟩ :=
      fits.gates before gate after rfl isApproval
    obtain ⟨gated', rest', rfl, isGated, -⟩ :=
      List.map_eq_cons_iff.mp isAfter.symm
    have sameGate : gate.id = gate'.id := congrArg Prod.fst isGate
    have sameGated : gated'.id = gated.id := congrArg Prod.fst isGated
    exact ⟨gated', rest', rfl, sameGate ▸ shortGate, sameGated ▸ shortGated⟩
  case few =>
    have count (counted : List WorkflowStep) :
        (counted.countP fun step => step.type = .approval) =
          (counted.map gateKey).countP fun key => key.2 = .approval := by
      rw [List.countP_map]
      rfl
    rw [count, ← same, ← count]
    exact fits.few

theorem InputsFit.map
    {declared declared' : List WorkflowVariable}
    {steps : List WorkflowStep}
    (fits : InputsFit declared steps)
    (sources :
      ∀ target source,
        SourceFits declared target source →
          SourceFits declared' target (change source)) :
    InputsFit declared' (steps.map (changeStep change rename)) := by
  intro changed isChanged source target isRead
  obtain ⟨step, isStep, rfl⟩ := List.mem_map.mp isChanged
  rw [valueSource_changeStep, Option.map_eq_some_iff] at isRead
  obtain ⟨⟨earlier, target'⟩, isSource, same⟩ := isRead
  obtain ⟨rfl, rfl⟩ := Prod.mk.inj same
  exact sources target' earlier (fits step isStep earlier target' isSource)

theorem StepsFit.map
    {declared declared' : List WorkflowVariable}
    {steps : List WorkflowStep}
    (fits : StepsFit declared steps)
    (sources :
      ∀ target source,
        SourceFits declared target source →
          SourceFits declared' target (change source))
    (reads : ReadsRenamed change rename)
    (apart : RenamesApart rename steps) :
    StepsFit declared' (steps.map (changeStep change rename)) where
  inputs := fits.inputs.map sources
  outputs := fits.outputs.map reads apart
  gates := by
    apply fits.gates.of_sameKeys
    rw [List.map_map]
    apply List.map_congr_left
    intro step _
    rw [Function.comp_apply, gateKey, gateKey, changeStep_id, changeStep_type]

theorem InputsFit.subset
    {declared : List WorkflowVariable}
    {steps kept : List WorkflowStep}
    (fits : InputsFit declared steps)
    (isKept : ∀ step ∈ kept, step ∈ steps) :
    InputsFit declared kept :=
  fun step isStep => fits step (isKept step isStep)

/-- A step still flows when a step whose output it does not read is gone. -/
theorem FlowsAfter.without
    {before between : List WorkflowStep}
    {removed step : WorkflowStep}
    (flows : FlowsAfter (before ++ removed :: between) step)
    (unread :
      ∀ outputName target source,
        step.valueSource = some (.output outputName, target) →
          producedOutput removed ≠ some (outputName, source)) :
    FlowsAfter (before ++ between) step := by
  constructor
  case reads =>
    intro outputName target isRead
    obtain ⟨producer, isBefore, valueType, produces, compatible⟩ :=
      flows.reads outputName target isRead
    refine ⟨producer, ?_, valueType, produces, compatible⟩
    have isKept : producer ≠ removed := by
      rintro rfl
      obtain ⟨source, isProduced, -⟩ := produces
      exact unread outputName target source isRead isProduced
    simpa [isKept] using isBefore
  case typed => exact flows.typed
  case fresh =>
    intro outputName source produces earlier isEarlier
    apply flows.fresh outputName source produces earlier
    rcases List.mem_append.mp isEarlier with isBefore | isBetween
    · exact List.mem_append_left _ isBefore
    · exact List.mem_append_right _ (List.mem_cons_of_mem _ isBetween)

variable {before after : List WorkflowStep} {removed : WorkflowStep}

theorem OutputsFlow.without
    (flow : OutputsFlow (before ++ removed :: after))
    (unread :
      ∀ step ∈ before ++ after, ∀ outputName target source,
        step.valueSource = some (.output outputName, target) →
          producedOutput removed ≠ some (outputName, source)) :
    OutputsFlow (before ++ after) := by
  constructor
  case short =>
    intro step isStep
    apply flow.short step
    rcases List.mem_append.mp isStep with isBefore | isAfter
    · exact List.mem_append_left _ isBefore
    · exact List.mem_append_right _ (List.mem_cons_of_mem _ isAfter)
  case flows =>
    intro earlier step later isSplit
    have unreadHere := unread step (by simp [isSplit])
    rcases List.append_eq_append_iff.mp isSplit with
      ⟨between, rfl, isAfter⟩ | ⟨between, rfl, isLater⟩
    · apply FlowsAfter.without _ unreadHere
      apply flow.flows _ step later
      rw [isAfter, List.append_assoc, List.cons_append]
    · cases between with
      | nil =>
          rw [List.nil_append] at isLater
          rw [← List.append_nil earlier]
          apply FlowsAfter.without _ unreadHere
          apply flow.flows _ step later
          simp [← isLater]
      | cons first between =>
          obtain ⟨rfl, rfl⟩ := List.cons.inj isLater
          apply flow.flows earlier step (between ++ removed :: after)
          rw [List.append_assoc, List.cons_append]

/-- A gate in front of the step that is gone gates the step behind it. -/
theorem GatesFit.without
    (fits : GatesFit (before ++ removed :: after))
    (gatesNext :
      ∀ gate ∈ before.getLast?, gate.type = .approval →
        ∃ next ∈ after.head?, NonEmptyString.IsShort next.id) :
    GatesFit (before ++ after) := by
  constructor
  case few =>
    refine Nat.le_trans ?_ fits.few
    rw [List.countP_append, List.countP_append, List.countP_cons]
    omega
  case gates =>
    intro earlier gate later isSplit isApproval
    rcases List.append_eq_append_iff.mp isSplit with
      ⟨between, rfl, isAfter⟩ | ⟨between, rfl, isLater⟩
    · apply fits.gates (before ++ removed :: between) gate later _ isApproval
      rw [isAfter, List.append_assoc, List.cons_append]
    · cases between with
      | nil =>
          rw [List.nil_append] at isLater
          apply fits.gates (earlier ++ [removed]) gate later _ isApproval
          simp [← isLater]
      | cons first between =>
          obtain ⟨rfl, rfl⟩ := List.cons.inj isLater
          obtain ⟨gated, rest, isRest, shortGate, shortGated⟩ :=
            fits.gates earlier gate (between ++ removed :: after)
              (by rw [List.append_assoc, List.cons_append]) isApproval
          cases between with
          | cons next between =>
              obtain ⟨rfl, rfl⟩ := List.cons.inj isRest
              exact ⟨next, between ++ after, rfl, shortGate, shortGated⟩
          | nil =>
              obtain ⟨next, isNext, shortNext⟩ :=
                gatesNext gate (by simp) isApproval
              obtain ⟨rest', rfl⟩ := List.head?_eq_some_iff.mp isNext
              exact ⟨next, rest', rfl, shortGate, shortNext⟩

theorem StepsFit.without
    {declared : List WorkflowVariable}
    {before after : List WorkflowStep}
    {removed : WorkflowStep}
    (fits : StepsFit declared (before ++ removed :: after))
    (unread :
      ∀ step ∈ before ++ after, ∀ outputName target source,
        step.valueSource = some (.output outputName, target) →
          producedOutput removed ≠ some (outputName, source))
    (gatesNext :
      ∀ gate ∈ before.getLast?, gate.type = .approval →
        ∃ next ∈ after.head?, NonEmptyString.IsShort next.id) :
    StepsFit declared (before ++ after) where
  inputs := by
    apply fits.inputs.subset
    intro step isStep
    rcases List.mem_append.mp isStep with isBefore | isAfter
    · exact List.mem_append_left _ isBefore
    · exact List.mem_append_right _ (List.mem_cons_of_mem _ isAfter)
  outputs := fits.outputs.without unread
  gates := fits.gates.without gatesNext

end TaskTwin.Editor
