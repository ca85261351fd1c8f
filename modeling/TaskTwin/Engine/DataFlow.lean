import TaskTwin.Engine.RunInvariant

/-!
# Data flow of a run

The preflight predicts the output store.  While a step is executed, every
extract step before it has produced its output with the type that the workflow
declares, so what the step reads is there and has a type that it accepts.
-/

namespace TaskTwin.Engine

open Effect Schema Workflow Recovery

/-- Stored values have the declared types. -/
def RuntimeOutputStore.WellTyped (store : RuntimeOutputStore) : Prop :=
  ∀ stored ∈ store.values,
    ∃ definition,
      store.definitions.find? (fun item => item.name == stored.name) =
          some definition ∧
        stored.type = definition.valueType ∧
        stored.value.type = definition.valueType

theorem RuntimeOutputStore.wellTyped_create
    (definitions : List WorkflowOutputDefinition) :
    (RuntimeOutputStore.create definitions).WellTyped := by
  simp [RuntimeOutputStore.WellTyped, RuntimeOutputStore.create]

variable
  {store store' : RuntimeOutputStore}
  {outputName : Identifier}
  {outputType : WorkflowOutputType}
  {value : RuntimeOutputValue}

/-- What `set` does when it does not throw. -/
theorem RuntimeOutputStore.set_eq_ok
    (stored : store.set outputName outputType value = .ok store') :
    ∃ definition,
      store.definitions.find? (fun item => item.name == outputName) =
          some definition ∧
        definition.valueType = outputType ∧
        value.type = definition.valueType ∧
        store' =
          { store with
            values :=
              store.values ++ [{ name := outputName, type := outputType, value }] } := by
  unfold RuntimeOutputStore.set at stored
  split at stored
  case h_1 => cases stored
  case h_2 definition found =>
    split at stored
    case isTrue => cases stored
    case isFalse =>
      split at stored
      case isTrue => cases stored
      case isFalse typed =>
        rw [not_or, not_not, not_not] at typed
        exact ⟨definition, found, typed.1, typed.2, (Except.ok.inj stored).symm⟩

theorem RuntimeOutputStore.WellTyped.set
    (wellTyped : store.WellTyped)
    (stored : store.set outputName outputType value = .ok store') :
    store'.WellTyped := by
  obtain ⟨definition, found, isType, valueTyped, rfl⟩ :=
    RuntimeOutputStore.set_eq_ok stored
  intro entry listed
  rcases List.mem_append.mp listed with before | isNew
  · exact wellTyped entry before
  · obtain rfl := List.mem_singleton.mp isNew
    exact ⟨definition, found, isType.symm, valueTyped⟩

/-- After `set` the store has what it had, and the new value. -/
theorem RuntimeOutputStore.has_set
    (stored : store.set outputName outputType value = .ok store')
    (name : Identifier) :
    store'.has name = (store.has name || outputName == name) := by
  obtain ⟨definition, _, _, _, rfl⟩ := RuntimeOutputStore.set_eq_ok stored
  simp [RuntimeOutputStore.has, List.any_append]

/-- A value of a typed store is read at its declared type. -/
theorem RuntimeOutputStore.WellTyped.get
    {store : RuntimeOutputStore}
    (wellTyped : store.WellTyped)
    {outputName : Identifier}
    (produced : store.has outputName = true)
    {definition : WorkflowOutputDefinition}
    (declared :
      store.definitions.find? (fun item => item.name == outputName) =
        some definition)
    {acceptedTypes : List WorkflowVariableValueType}
    (accepted :
      acceptedTypes.contains definition.valueType.variableType = true) :
    ∃ value,
      store.get outputName acceptedTypes = .ok value ∧
        value.type = definition.valueType := by
  rw [RuntimeOutputStore.has, List.any_eq_true] at produced
  obtain ⟨entry, listed, isName⟩ := produced
  cases found : store.values.find? fun stored => stored.name == outputName with
  | none =>
      have notFound := List.find?_eq_none.mp found entry listed
      exact absurd isName notFound
  | some stored =>
      obtain ⟨definition', declared', isType, valueTyped⟩ :=
        wellTyped stored (List.mem_of_find?_eq_some found)
      have sameName : stored.name = outputName := by
        simpa using List.find?_some found
      rw [sameName, declared] at declared'
      obtain rfl := Option.some.inj declared'
      refine ⟨stored.value, ?_, valueTyped⟩
      rw [RuntimeOutputStore.get, found]
      dsimp only
      rw [isType, if_pos accepted]

variable
    {dependencies : EngineDependencies}
    {executionId : Uuid}
    {prepared : PreparedWorkflowExecution dependencies}

/-- Every extract step before an index has produced its output. -/
structure Produces
    (workflow : WorkflowDefinition)
    (outputs : RuntimeOutputStore)
    (index : Nat) :
    Prop where
  declared : outputs.definitions = defineWorkflowOutputs workflow
  wellTyped : outputs.WellTyped
  produced :
    ∀ earlier < index,
      ∀ step definition,
        workflow.steps[earlier]? = some step →
        outputOfStep step earlier = some definition →
        outputs.has definition.name = true

theorem produces_create (workflow : WorkflowDefinition) :
    Produces workflow
      (RuntimeOutputStore.create (defineWorkflowOutputs workflow)) 0 :=
  { declared := rfl
    wellTyped := RuntimeOutputStore.wellTyped_create _
    produced := by simp }

variable {workflow : WorkflowDefinition} {outputs : RuntimeOutputStore}

/-- A step that defines no output adds nothing. -/
theorem Produces.next
    {index : Nat}
    {step : WorkflowStep}
    (produces : Produces workflow outputs index)
    (atIndex : workflow.steps[index]? = some step)
    (noOutput : outputOfStep step index = none) :
    Produces workflow outputs (index + 1) := by
  refine ⟨produces.declared, produces.wellTyped, ?_⟩
  intro earlier before other definition atEarlier defined
  rcases Nat.lt_succ_iff_lt_or_eq.mp before with isEarlier | rfl
  · exact produces.produced earlier isEarlier other definition atEarlier defined
  · obtain rfl := Option.some.inj (atIndex.symm.trans atEarlier)
    rw [noOutput] at defined
    cases defined

/-- A step that stores its output has produced it. -/
theorem Produces.set
    {outputs outputs' : RuntimeOutputStore}
    {index : Nat}
    {step : WorkflowStep}
    {definition : WorkflowOutputDefinition}
    {value : RuntimeOutputValue}
    (produces : Produces workflow outputs index)
    (atIndex : workflow.steps[index]? = some step)
    (defined : outputOfStep step index = some definition)
    (stored :
      outputs.set definition.name definition.valueType value =
        .ok outputs') :
    Produces workflow outputs' (index + 1) := by
  refine ⟨?_, produces.wellTyped.set stored, ?_⟩
  · exact (RuntimeOutputStore.set_definitions stored).trans produces.declared
  · intro earlier before other definition' atEarlier defined'
    rw [RuntimeOutputStore.has_set stored, Bool.or_eq_true]
    rcases Nat.lt_succ_iff_lt_or_eq.mp before with isEarlier | rfl
    · exact Or.inl
        (produces.produced earlier isEarlier other definition' atEarlier
          defined')
    · obtain rfl := Option.some.inj (atIndex.symm.trans atEarlier)
      obtain rfl := Option.some.inj (defined.symm.trans defined')
      exact Or.inr (by simp)

/-- What has been produced at a point of a run. -/
def ProducesAt
    (prepared : PreparedWorkflowExecution dependencies)
    (state : RunState) :
    Prop :=
  let producesBefore := Produces prepared.workflow state.core.outputs
  match state.point with
  | .starting => producesBefore 0
  | .ready index => producesBefore index
  | .awaitingApproval index _ _ =>
      producesBefore index ∧
        ∀ step,
          prepared.workflow.steps[index]? = some step →
          step.type = .approval
  | .attempting index _ _ => producesBefore index
  | .executing index _ => producesBefore index
  | .judging index _ none => producesBefore (index + 1)
  | .judging index _ (some _) => producesBefore index
  | .awaitingRepair index _ _ _ => producesBefore index
  | .closing index .succeeded => producesBefore (index + 1)
  | _ => True

theorem outputOfStep_eq_none
    {step : WorkflowStep}
    (notExtract : step.type ≠ .extract)
    (index : Nat) :
    outputOfStep step index = none := by
  rw [WorkflowStep.type] at notExtract
  unfold outputOfStep
  split
  case h_1 isExtract => simp [isExtract, WorkflowStepAction.type] at notExtract
  case h_2 => rfl

theorem producesAt_step
    {state state' : RunState}
    (produces : ProducesAt prepared state)
    (stepped : RunStep executionId (.executed prepared) state state') :
    ProducesAt prepared state' := by
  cases stepped with
  | started timestamp executed isValidating =>
      cases executed
      exact produces_create prepared.workflow
  | @approvalRequested core core' index step prepared' binding attempt
      startedAtMs openedAt begunAt waitsAt runWaitsAt askedAt request executed
      atIndex isApproval bound openedCore isAttempt =>
      subst openedCore
      refine ⟨produces, ?_⟩
      intro other atOther
      obtain rfl := Option.some.inj (atIndex.symm.trans atOther)
      exact isApproval
  | @approvalGranted core index step binding attempt approval ranAt
      finishedAtMs succeededAt attemptFinishedAt atIndex approved =>
      obtain ⟨produced, isApproval⟩ := produces
      have notExtract : step.type ≠ .extract := by
        rw [isApproval step atIndex]
        simp
      exact produced.next atIndex (outputOfStep_eq_none notExtract index)
  | @adapterThrew core index attempt error =>
      rw [ProducesAt] at produces ⊢
      dsimp only at produces ⊢
      rw [EngineCore.verifyRecord_outputs]
      exact produces
  | @outputRefused core index attempt failure output refuses =>
      rw [ProducesAt] at produces ⊢
      dsimp only at produces ⊢
      rw [EngineCore.verifyRecord_outputs]
      exact produces
  | @adapterAnswered core index step attempt output atIndex noOutput =>
      have next := produces.next atIndex (outputOfStep_eq_none noOutput index)
      rw [ProducesAt]
      dsimp only
      rw [EngineCore.verifyRecord_outputs]
      exact next
  | @outputProduced core index step definition attempt outputs output value
      timestamp atIndex defined stored =>
      exact produces.set atIndex defined stored
  | _ => first | exact produces | trivial

theorem RunReaches.produces
    {state : RunState}
    (reaches : RunReaches executionId (.executed prepared) state) :
    ProducesAt prepared state := by
  apply Reachable.invariant _ _ reaches
  · intro start isStart
    rw [isStart]
    trivial
  · intro before after produces stepped
    exact producesAt_step produces stepped

/-- The verdicts on a request that is prepared. -/
structure Passed
    (input : ExecutionInput)
    (prepared : PreparedWorkflowExecution dependencies) :
    Prop where
  workflow : input.workflow = some prepared.workflow
  inputsValid : input.verdicts.inputsValid = true
  inputsAnalyzed : input.verdicts.inputsHaveBlockingIssues = false
  dataFlow : prepared.extraction.hasBlockingIssues = false
  runtimeValues : input.verdicts.runtimeValues = none
  stepSupport : input.verdicts.stepSupport = none

theorem preflightFailure_ne
    (code : ExecutionErrorCode)
    (workflow : Option WorkflowDefinition) :
    preflightFailure dependencies code workflow ≠ some (.prepared prepared) := by
  simp [preflightFailure]

theorem verdicts_of_prepared
    {verdicts : PreflightVerdicts}
    {given : PreparedWorkflowExecution dependencies}
    (answered :
      preflightVerdicts dependencies verdicts given = some (.prepared prepared)) :
    given = prepared ∧ verdicts.runtimeValues = none ∧
      verdicts.stepSupport = none := by
  unfold preflightVerdicts at answered
  split at answered
  case h_1 => exact absurd answered (preflightFailure_ne _ _)
  case h_2 => exact absurd answered (preflightFailure_ne _ _)
  case h_3 => cases answered
  case h_4 noValue noOrigin noError =>
    cases answered
    exact ⟨rfl, noValue, noError⟩

theorem analyses_of_prepared
    {verdicts : PreflightVerdicts}
    {workflow : WorkflowDefinition}
    {options : WorkflowEngineExecutionOptions}
    {recoveryCoordinated :
      options.recoveryMode ≠ .automaticSafeOnly →
        dependencies.recoveryCoordinator = true}
    (answered :
      preflightAnalyses dependencies verdicts workflow options
          recoveryCoordinated =
        some (.prepared prepared)) :
    prepared.extraction.hasBlockingIssues = false ∧
      verdicts.runtimeValues = none ∧ verdicts.stepSupport = none := by
  unfold preflightAnalyses at answered
  split at answered
  case h_1 => cases answered
  case h_2 extraction extractionAnalyzed =>
    split at answered
    case isTrue => exact absurd answered (preflightFailure_ne _ _)
    case isFalse notBlocking =>
      split at answered
      case h_1 => cases answered
      case h_2 approvals approvalsAnalyzed =>
        split at answered
        case isFalse => exact absurd answered (preflightFailure_ne _ _)
        case isTrue approvalsBound =>
          split at answered
          case isFalse => exact absurd answered (preflightFailure_ne _ _)
          case isTrue approvalsCoordinated =>
            obtain ⟨rfl, noValue, noError⟩ := verdicts_of_prepared answered
            exact ⟨Bool.eq_false_iff.mpr notBlocking, noValue, noError⟩

theorem passed_of_prepared
    {input : ExecutionInput}
    (answered :
      preflightWorkflowExecution dependencies input =
        some (.prepared prepared)) :
    Passed input prepared := by
  have sameWorkflow :=
    (preflightWorkflowExecution_answers input _ answered).1
  unfold preflightWorkflowExecution at answered
  split at answered
  case isTrue => exact absurd answered (preflightFailure_ne _ _)
  case isFalse =>
    split at answered
    case h_1 => exact absurd answered (preflightFailure_ne _ _)
    case h_2 => exact absurd answered (preflightFailure_ne _ _)
    case h_3 workflow options isWorkflow isOptions =>
      split at answered
      case isFalse => exact absurd answered (preflightFailure_ne _ _)
      case isTrue recoveryCoordinated =>
        split at answered
        case isTrue => exact absurd answered (preflightFailure_ne _ _)
        case isFalse inputsValid =>
          split at answered
          case isTrue => exact absurd answered (preflightFailure_ne _ _)
          case isFalse inputsAnalyzed =>
            split at answered
            case isTrue => exact absurd answered (preflightFailure_ne _ _)
            case isFalse =>
              obtain ⟨notBlocking, noValue, noError⟩ :=
                analyses_of_prepared answered
              exact
                { workflow := sameWorkflow.symm
                  inputsValid := not_not.mp inputsValid
                  inputsAnalyzed := Bool.eq_false_iff.mpr inputsAnalyzed
                  dataFlow := notBlocking
                  runtimeValues := noValue
                  stepSupport := noError }

theorem valueSource_located
    {index : Nat}
    {step : WorkflowStep}
    {source : ValueSource}
    {target : ValueSourceTarget}
    (atIndex : workflow.steps[index]? = some step)
    (reads : step.valueSource = some (source, target)) :
    ({ source, stepId := step.id, stepIndex := index, stepType := step.type,
       target } : LocatedValueSource) ∈ findWorkflowValueSources workflow := by
  rw [findWorkflowValueSources, List.mem_flatMap]
  refine ⟨(step, index), List.mem_zipIdx_iff_getElem?.mpr atIndex, ?_⟩
  simp [locate, reads]

/-- An output that is read is produced before, by a type that fits. -/
structure ReadsOutput
    (outputs : List WorkflowOutputDefinition)
    (usage : WorkflowOutputUsage)
    (producer : WorkflowOutputDefinition) :
    Prop where
  isProducer :
    outputs.find? (fun output => output.name == usage.outputName) =
      some producer
  before : producer.producerStepIndex < usage.consumerStepIndex
  notNavigate : usage.target ≠ .navigateUrl
  accepted :
    (acceptedVariableTypes usage.target).contains
        producer.valueType.variableType =
      true

theorem usageIssues_blocking
    {outputs : List WorkflowOutputDefinition}
    {usage : WorkflowOutputUsage}
    {issue : ExtractionAnalysisIssue}
    (listed : issue ∈ usageIssues outputs usage) :
    issue.severity = .blocking := by
  rw [usageIssues] at listed
  rcases List.mem_append.mp listed with navigates | ofProducer
  · split at navigates <;> simp_all
  · split at ofProducer
    · simp_all
    · rcases List.mem_append.mp ofProducer with ofOrder | ofType
      · split at ofOrder
        · simp_all
        · split at ofOrder <;> simp_all
      · split at ofType <;> simp_all

theorem readsOutput_of_no_issue
    {outputs : List WorkflowOutputDefinition}
    {usage : WorkflowOutputUsage}
    (noIssue : usageIssues outputs usage = []) :
    ∃ producer, ReadsOutput outputs usage producer := by
  rw [usageIssues] at noIssue
  dsimp only at noIssue
  obtain ⟨noNavigate, noProducerIssue⟩ := List.append_eq_nil_iff.mp noIssue
  have notNavigate : usage.target ≠ .navigateUrl := by
    intro isNavigate
    rw [if_pos isNavigate] at noNavigate
    cases noNavigate
  split at noProducerIssue
  case h_1 => cases noProducerIssue
  case h_2 producer isProducer =>
    obtain ⟨ordered, typed⟩ := List.append_eq_nil_iff.mp noProducerIssue
    have notSelf : producer.producerStepIndex ≠ usage.consumerStepIndex := by
      intro isSelf
      rw [if_pos isSelf] at ordered
      cases ordered
    rw [if_neg notSelf] at ordered
    have notLater : ¬usage.consumerStepIndex < producer.producerStepIndex := by
      intro isLater
      rw [if_pos isLater] at ordered
      cases ordered
    have compatible :
        isOutputTypeCompatible usage.target producer.valueType = true := by
      by_contra incompatible
      rw [if_neg incompatible] at typed
      cases typed
    rw [isOutputTypeCompatible, Bool.and_eq_true] at compatible
    exact ⟨producer,
      { isProducer
        before := by omega
        notNavigate
        accepted := compatible.2 }⟩

/-- A step of a workflow without blocking issues reads outputs that fit. -/
theorem readsOutput_of_analysis
    {analysis : WorkflowExtractionAnalysis}
    (analyzed : analyzeWorkflowExtraction workflow = some analysis)
    (notBlocking : analysis.hasBlockingIssues = false)
    {index : Nat}
    {step : WorkflowStep}
    {outputName : Identifier}
    {target : ValueSourceTarget}
    (atIndex : workflow.steps[index]? = some step)
    (reads : step.valueSource = some (.output outputName, target)) :
    ∃ producer,
      ReadsOutput (defineWorkflowOutputs workflow)
        { outputName, consumerStepId := step.id, consumerStepIndex := index,
          target }
        producer := by
  simp only [analyzeWorkflowExtraction] at analyzed
  split at analyzed
  case isFalse => cases analyzed
  case isTrue =>
    obtain rfl := Option.some.inj analyzed
    apply readsOutput_of_no_issue
    rw [List.eq_nil_iff_forall_not_mem]
    intro issue isIssue
    rw [List.any_eq_false] at notBlocking
    apply notBlocking issue
    · rw [List.mem_append, List.mem_append]
      refine Or.inl (Or.inr (List.mem_flatMap.mpr ⟨_, ?_, isIssue⟩))
      rw [List.mem_filterMap]
      exact ⟨_, valueSource_located atIndex reads, rfl⟩
    · rw [usageIssues_blocking isIssue]
      rfl

theorem exists_of_errorOf
    {α : Type}
    {result : Except EngineError α}
    (noError : errorOf result = none) :
    ∃ value, result = .ok value := by
  cases result with
  | error error => cases noError
  | ok value => exact ⟨value, rfl⟩

theorem exists_of_checkExpectation
    {isValid : String → Bool}
    {expected : Except EngineError LiteralValue}
    (checked : checkExpectation isValid expected = none) :
    ∃ value, expected = .ok value := by
  cases expected with
  | error error => cases checked
  | ok value => exact ⟨value, rfl⟩

theorem map_string_of_ok
    {result : Except EngineError String}
    (resolved : ∃ value, result = .ok value) :
    ∃ value, result.map LiteralValue.string = .ok value := by
  obtain ⟨value, rfl⟩ := resolved
  exact ⟨.string value, rfl⟩

theorem exists_of_navigation
    {checks : StepChecks}
    {result : Except EngineError String}
    (checked :
      (match result with
      | .error error => some error
      | .ok value => checks.validateNavigationUrl value) =
        none) :
    ∃ value, result = .ok value := by
  cases result with
  | error error => cases checked
  | ok value => exact ⟨value, rfl⟩

/-- The sources that the preflight resolves are resolved as well later. -/
theorem resolveForStep_of_checked
    {checks : StepChecks}
    {resolver : WorkflowRuntimeValueResolver}
    {step : WorkflowStep}
    {source : ValueSource}
    {target : ValueSourceTarget}
    (checked : checkStepValue checks resolver step = none)
    (reads : step.valueSource = some (source, target))
    (notOutput : ∀ outputName, source ≠ .output outputName) :
    ∃ value, resolveForStep source target resolver = .ok value := by
  unfold WorkflowStep.valueSource at reads
  unfold checkStepValue at checked
  -- Every kind of source but an output is resolved by the same check.
  split at reads
  case h_1 url isAction =>
    cases reads
    rw [isAction] at checked
    cases source with
    | output outputName => exact absurd rfl (notOutput outputName)
    | _ => exact map_string_of_ok (exists_of_navigation checked)
  case h_2 locator value isAction =>
    cases reads
    rw [isAction] at checked
    cases source with
    | output outputName => exact absurd rfl (notOutput outputName)
    | _ => exact map_string_of_ok (exists_of_errorOf checked)
  case h_3 locator value isAction =>
    cases reads
    rw [isAction] at checked
    cases source with
    | output outputName => exact absurd rfl (notOutput outputName)
    | _ => exact exists_of_errorOf checked
  case h_4 locator matchMode operator expected timeoutMs isAction =>
    cases reads
    rw [isAction] at checked
    cases source with
    | output outputName => exact absurd rfl (notOutput outputName)
    | _ => exact exists_of_checkExpectation checked
  case h_5 locator operator expected timeoutMs isAction =>
    cases reads
    rw [isAction] at checked
    cases source with
    | output outputName => exact absurd rfl (notOutput outputName)
    | _ => exact exists_of_errorOf checked
  case h_6 matchMode operator expected timeoutMs isAction =>
    cases reads
    rw [isAction] at checked
    cases source with
    | output outputName => exact absurd rfl (notOutput outputName)
    | _ => exact exists_of_checkExpectation checked
  case h_7 => cases reads

theorem withRuntimeOutputs_of_not_output
    {resolver : WorkflowRuntimeValueResolver}
    {outputs : RuntimeOutputStore}
    {source : ValueSource}
    (notOutput : ∀ outputName, source ≠ .output outputName)
    (target : ValueSourceTarget) :
    resolveForStep source target (withRuntimeOutputs resolver outputs) =
      resolveForStep source target resolver := by
  cases source with
  | output outputName => exact absurd rfl (notOutput outputName)
  | _ => cases target <;> rfl

/-- An output that was produced is read as a value that the step accepts. -/
theorem resolveForStep_of_output
    {usage : WorkflowOutputUsage}
    {producer : WorkflowOutputDefinition}
    (produces : Produces workflow outputs usage.consumerStepIndex)
    (readsOutput :
      ReadsOutput (defineWorkflowOutputs workflow) usage producer)
    (resolver : WorkflowRuntimeValueResolver) :
    ∃ value,
      resolveForStep (.output usage.outputName) usage.target
          (withRuntimeOutputs resolver outputs) =
        .ok value := by
  have isDefined := List.mem_of_find?_eq_some readsOutput.isProducer
  obtain ⟨step, atProducer, defined⟩ :=
    defineWorkflowOutputs_index workflow isDefined
  have sameName : producer.name = usage.outputName := by
    simpa using List.find?_some readsOutput.isProducer
  have produced :=
    produces.produced producer.producerStepIndex readsOutput.before step
      producer atProducer defined
  rw [sameName] at produced
  obtain ⟨value, isValue, typed⟩ :=
    produces.wellTyped.get produced
      (produces.declared ▸ readsOutput.isProducer) readsOutput.accepted
  have resolved :
      (withRuntimeOutputs resolver outputs).resolve (.output usage.outputName)
          usage.target =
        .ok value.literal := by
    simp only [withRuntimeOutputs, getValueSourceCompatibility, isValue]
  have accepted := readsOutput.accepted
  rw [← typed] at accepted
  have notNavigate := readsOutput.notNavigate
  cases isTarget : usage.target with
  | navigateUrl => exact absurd isTarget notNavigate
  | fillValue =>
      rw [isTarget] at accepted resolved
      apply map_string_of_ok
      rw [resolveTextWithResolver, resolved]
      cases value with
      | string text => exact ⟨text, rfl⟩
      | boolean flag => cases accepted
  | selectValue =>
      rw [isTarget] at accepted resolved
      rw [resolveForStep, resolveSelectWithResolver, resolved]
      cases value with
      | string text => exact ⟨.string text, rfl⟩
      | boolean flag => cases accepted
  | verifyTextExpected | verifyValueExpected | verifyUrlExpected =>
      rw [isTarget] at resolved
      exact ⟨value.literal, resolved⟩

/-- The preflight of a request has resolved the values of its steps. -/
theorem checkStepValue_of_passed
    {request : RuntimeRequest}
    (passed : Passed request.input prepared)
    {index : Nat}
    {step : WorkflowStep}
    (atIndex : prepared.workflow.steps[index]? = some step)
    (isAction : step.type ≠ .approval) :
    checkStepValue request.checks request.valueResolver step = none := by
  have sameWorkflow : request.workflow = prepared.workflow :=
    Option.some.inj passed.workflow
  have supported := passed.stepSupport
  rw [RuntimeRequest.input] at supported
  dsimp only at supported
  rw [List.findSome?_eq_none_iff, sameWorkflow] at supported
  have checked := supported step (List.mem_of_getElem? atIndex)
  rw [checkStep, if_neg isAction] at checked
  split at checked
  case isTrue => cases checked
  case isFalse => exact (Option.or_eq_none_iff.mp checked).2

/--
After a passed preflight every value source of a step that is executed, in
every run, resolves: no output is missing or has the wrong type, and no runtime
input is invalid.
-/
theorem preflight_predicts_resolution
    (request : RuntimeRequest)
    (answered :
      preflightWorkflowExecution dependencies request.input =
        some (.prepared prepared))
    (index : Nat)
    (attempt : SafeStepAttempt)
    (core : EngineCore)
    (reached :
      RunReaches executionId (.executed prepared)
        ⟨.executing index attempt, core⟩)
    (step : WorkflowStep)
    (atIndex : prepared.workflow.steps[index]? = some step)
    (source : ValueSource)
    (target : ValueSourceTarget)
    (reads : step.valueSource = some (source, target)) :
    ∃ value,
      resolveForStep source target
          (withRuntimeOutputs request.valueResolver core.outputs) =
        .ok value := by
  have passed := passed_of_prepared answered
  have produces : Produces prepared.workflow core.outputs index :=
    reached.produces
  by_cases isOutput : ∃ outputName, source = .output outputName
  · obtain ⟨outputName, rfl⟩ := isOutput
    obtain ⟨producer, readsOutput⟩ :=
      readsOutput_of_analysis prepared.extractionAnalyzed passed.dataFlow
        atIndex reads
    exact resolveForStep_of_output produces readsOutput request.valueResolver
  · have notOutput : ∀ outputName, source ≠ .output outputName := by
      intro outputName same
      exact isOutput ⟨outputName, same⟩
    have isAction : step.type ≠ .approval := by
      intro isApproval
      obtain ⟨message, riskLevel, timeoutMs, action⟩ :=
        step.action_of_approval isApproval
      rw [WorkflowStep.valueSource, action] at reads
      cases reads
    rw [withRuntimeOutputs_of_not_output notOutput]
    exact
      resolveForStep_of_checked
        (checkStepValue_of_passed passed atIndex isAction) reads notOutput

theorem note_isIdentifier :
    utf16Length "note" ≤ 128 ∧ isIdentifierText "note" = true := by
  decide +kernel

def exampleNote : Identifier :=
  { text := "note"
    short := note_isIdentifier.1
    pattern := note_isIdentifier.2 }

/-- A step that reads a text of the page. -/
def exampleExtractStep : WorkflowStep :=
  { id := exampleGate
    name := exampleGate
    action := .extract (some (.css exampleGate)) .text exampleNote none none
    refined := rfl }

/-- A step that fills in what was read. -/
def exampleFillStep : WorkflowStep :=
  { id := examplePause
    name := examplePause
    action := .fill (.css examplePause) (.output exampleNote)
    refined := rfl }

theorem exampleFlow_ids :
    ([exampleExtractStep, exampleFillStep].map WorkflowStep.id).Nodup := by
  decide +kernel

def exampleFlow : WorkflowDefinition :=
  { exampleWorkflow with
    steps := [exampleExtractStep, exampleFillStep]
    stepsNonEmpty := List.cons_ne_nil _ _
    stepIdsUnique := exampleFlow_ids }

def exampleDependencies : EngineDependencies :=
  { progressSink := false
    approvalCoordinator := false
    recoveryCoordinator := false }

def exampleRequest : RuntimeRequest :=
  { workflow := exampleFlow
    options :=
      some
        { totalTimeoutMs :=
            { value := maxExecutionTimeoutMs
              atLeast := Nat.le_of_ble_eq_true rfl
              atMost := Nat.le_refl _ }
          stepTimeoutMs :=
            { value := maxStepTimeoutMs
              atLeast := Nat.le_of_ble_eq_true rfl
              atMost := Nat.le_refl _ }
          recoveryMode := .automaticSafeOnly }
    submission := some { values := [], namesUnique := List.nodup_nil }
    externalResolver := none
    envelopeValid := true
    verificationsHaveIssues := false
    allowedOrigins := none
    checks :=
      { supportedStepTypes := [.extract, .fill]
        validateStep := fun _ => none
        validateNavigationUrl := fun _ => none
        isVerificationUrl := fun _ => true
        isVerificationText := fun _ => true } }

def PreflightResult.isPrepared : PreflightResult dependencies → Bool
  | .prepared _ => true
  | .failed .. => false

theorem exampleRequest_prepared :
    ∃ prepared,
      preflightWorkflowExecution exampleDependencies exampleRequest.input =
        some (.prepared prepared) := by
  have passes :
      ((preflightWorkflowExecution exampleDependencies
        exampleRequest.input).any PreflightResult.isPrepared) = true := by
    decide +kernel
  cases answer :
      preflightWorkflowExecution exampleDependencies exampleRequest.input with
  | none =>
      rw [answer] at passes
      cases passes
  | some result =>
      rw [answer] at passes
      cases result with
      | prepared prepared => exact ⟨prepared, rfl⟩
      | failed error workflow => cases passes

/-- What the adapter is asked in the first attempt at a step. -/
def exampleContext (index : Nat) (step : WorkflowStep) : AdapterStepContext :=
  { stepIndex := index
    step
    trigger := .initial
    attemptNumber := 1
    totalTimeoutMs := maxExecutionTimeoutMs
    remainingTimeMs := maxExecutionTimeoutMs
    effectiveTimeoutMs := maxStepTimeoutMs }

/-- The run reads a text and comes to the step that fills it in. -/
theorem exampleRun_reaches
    {prepared : PreparedWorkflowExecution exampleDependencies}
    (isWorkflow : prepared.workflow = exampleFlow) :
    ∃ attempt core,
      RunReaches { value := 0 } (.executed prepared)
        ⟨.executing 1 attempt, core⟩ := by
  have atExtract :
      (RunPlan.executed prepared).steps[0]? = some exampleExtractStep := by
    rw [RunPlan.steps, RunPlan.workflow, isWorkflow]
    rfl
  have atFill :
      (RunPlan.executed prepared).steps[0 + 1]? = some exampleFillStep := by
    rw [RunPlan.steps, RunPlan.workflow, isWorkflow]
    rfl
  have both : 0 + 1 + 1 = (RunPlan.executed prepared).steps.length := by
    rw [RunPlan.steps, RunPlan.workflow, isWorkflow]
    rfl
  have created :
      RunReaches { value := 0 } (.executed prepared)
        ⟨.created, (EngineWorld.initial false).core⟩ :=
    Reachable.start rfl
  have initialized :=
    ((((created.next (.announced 0)).next (.validated 0)).next
      .stepsCreated).next (.initialized 0 atExtract)).next
        (.initialized 0 atFill)
  rw [both] at initialized
  have ready :=
    (initialized.next (.started 0 rfl rfl)).next (.ran 0)
  simp only [RunPlan.workflow, isWorkflow] at ready
  have executing :=
    (ready.next (.opened 0 0 atExtract (by decide))).next
      (.attemptBegun (exampleContext 0 exampleExtractStep) 0 atExtract rfl
        ⟨rfl, rfl⟩ ⟨rfl, rfl⟩)
  have produced :=
    ((executing.next
      (.outputProduced
        { verification := none, producedOutput := none } (.string "text") 0
        atExtract rfl rfl)).next (.attemptSucceeded 0 atExtract)).next
          (.closedSucceeded 0 0 atExtract)
  exact ⟨_, _,
    (produced.next (.opened 0 0 atFill (by decide))).next
      (.attemptBegun (exampleContext 1 exampleFillStep) 0 atFill rfl
        ⟨rfl, rfl⟩ ⟨rfl, rfl⟩)⟩

/-- What was read is there when it is filled in. -/
theorem exampleRun_resolves :
    ∃ outputs value,
      resolveForStep (.output exampleNote) .fillValue
          (withRuntimeOutputs exampleRequest.valueResolver outputs) =
        .ok value := by
  obtain ⟨prepared, answered⟩ := exampleRequest_prepared
  have isWorkflow : prepared.workflow = exampleFlow :=
    (Option.some.inj (passed_of_prepared answered).workflow).symm
  obtain ⟨attempt, core, reached⟩ := exampleRun_reaches isWorkflow
  exact ⟨core.outputs,
    preflight_predicts_resolution exampleRequest answered 1 attempt core reached
      exampleFillStep (by rw [isWorkflow]; rfl) _ _ rfl⟩

end TaskTwin.Engine
