import TaskTwin.Engine.StepConformance

/-!
# Executions follow the run model

Whatever the dependencies answer and whenever the race strikes, `execute`
takes a path of the run model and ends by building its result.
-/

namespace TaskTwin.Engine

open Effect Effect.Program Schema Workflow Recovery

variable
    {β : Type}
    {post : Outcome EngineError β → EngineWorld → Prop}
    {dependencies : EngineDependencies}
    {executionId : Uuid}
    {plan : RunPlan dependencies}
    {prepared : PreparedWorkflowExecution dependencies}
    {core : EngineCore}
    {race : TerminationRace}
    {progress : SafeProgressEmitter}
    {status : RaceStatus}

/-- Only steps of a list are still pending. -/
def PendingAmong
    (core : EngineCore)
    (entries : List (WorkflowStep × Nat)) :
    Prop :=
  ∀ index record,
    core.records[index]? = some record →
    record.status = .pending →
    ∃ entry ∈ entries, entry.2 = index

theorem Shape.skipping
    {skipping : Skipping}
    (shape : Shape plan ⟨.skipping skipping, core⟩) :
    core.records.map ExecutionStepRecord.step = plan.steps ∧ Synced core := by
  cases skipping with
  | early status cause error =>
      obtain ⟨_, _, _, leaving, synced⟩ := shape
      exact ⟨leaving.declared, synced⟩
  | terminated primary =>
      obtain ⟨_, isOver⟩ := shape
      obtain ⟨index, leaving⟩ := isOver.leaving
      exact ⟨leaving.declared, isOver.synced⟩

theorem skipRecord_records
    (core : EngineCore)
    (executionId : Uuid)
    (index finishedAtMs timestamp : Nat)
    (step : WorkflowStep)
    (reason : SkippedStepReason)
    (other : Nat) :
    ((core.skipRecord index finishedAtMs reason).tellStep executionId timestamp
        index step .skipped none (some reason)).records[other]? =
      (core.records[other]?).map fun record =>
        if index = other then
          { record with
            skippedReason := some reason
            finishedAtMs := some finishedAtMs
            status := .skipped }
        else record := by
  simp only [EngineCore.skipRecord, EngineCore.tellStep, EngineCore.setStep,
    EngineCore.updateRecord, EngineCore.tell, EngineCore.note,
    List.getElem?_modify, Option.map_eq_map]
  cases core.records[other]? with
  | none => rfl
  | some record =>
      simp only [Option.map_some]
      split <;> rfl

/-- What is left to skip after one more step was looked at. -/
theorem PendingAmong.skip
    {entry : WorkflowStep × Nat}
    {rest : List (WorkflowStep × Nat)}
    (among : PendingAmong core (entry :: rest))
    (executionId : Uuid)
    (finishedAtMs timestamp : Nat)
    (reason : SkippedStepReason) :
    PendingAmong
      ((core.skipRecord entry.2 finishedAtMs reason).tellStep executionId
        timestamp entry.2 entry.1 .skipped none (some reason))
      rest := by
  intro index record found isPending
  rw [skipRecord_records, Option.map_eq_some_iff] at found
  obtain ⟨earlier, present, rfl⟩ := found
  by_cases same : entry.2 = index
  · simp [same] at isPending
  · simp only [same, if_false] at isPending
    obtain ⟨other, listed, isIndex⟩ := among index earlier present isPending
    rcases List.mem_cons.mp listed with isEntry | isRest
    · exact absurd (isEntry ▸ isIndex) same
    · exact ⟨other, isRest, isIndex⟩

theorem PendingAmong.pass
    {entry : WorkflowStep × Nat}
    {rest : List (WorkflowStep × Nat)}
    (among : PendingAmong core (entry :: rest))
    (notPending :
      core.records[entry.2]?.map ExecutionStepRecord.status ≠
        some .pending) :
    PendingAmong core rest := by
  intro index record found isPending
  obtain ⟨other, listed, isIndex⟩ := among index record found isPending
  rcases List.mem_cons.mp listed with isEntry | isRest
  · subst isEntry
    rw [isIndex, found, Option.map_some, isPending] at notPending
    exact absurd rfl notPending
  · exact ⟨other, isRest, isIndex⟩

theorem skipEntries_then
    {skipping : Skipping}
    {entries : List (WorkflowStep × Nat)}
    {next : Unit → EngineProgram β}
    (declared : ∀ entry ∈ entries, plan.steps[entry.2]? = some entry.1)
    (reaches : RunReaches executionId plan ⟨.skipping skipping, core⟩)
    (racing : Racing status race)
    (among : PendingAmong core entries)
    (continues :
      ∀ core' race' progress',
        RunReaches executionId plan ⟨.skipping skipping, core'⟩ →
        NonePending core' →
        Racing status race' →
        (next ()).Ensures post ⟨core', race', progress'⟩) :
    (forEach (skipIfPending executionId dependencies skipping.reason)
        entries >>= next).Ensures post
      ⟨core, race, progress⟩ := by
  induction entries generalizing core race progress with
  | nil =>
      have nonePending : NonePending core := by
        intro record listed isPending
        obtain ⟨index, found⟩ := List.mem_iff_getElem?.mp listed
        obtain ⟨entry, isEmpty, _⟩ := among index record found isPending
        cases isEmpty
      exact Ensures.pureThen (continues core race progress reaches nonePending
        racing)
  | cons entry rest inductionHypothesis =>
      have restDeclared :
          ∀ other ∈ rest, plan.steps[other.2]? = some other.1 := by
        intro other listed
        exact declared other (List.mem_cons_of_mem _ listed)
      have atIndex := declared entry List.mem_cons_self
      obtain ⟨recordsDeclared, synced⟩ := reaches.shape.skipping
      unfold forEach
      refine Ensures.assoc ?_
      unfold skipIfPending
      refine Ensures.assoc (Ensures.getThen ?_)
      split
      case isTrue isPending =>
        obtain ⟨record, found, pending⟩ :=
          Option.map_eq_some_iff.mp isPending
        have isStep : record.step = entry.1 := by
          have mapped := congrArg (fun list => list[entry.2]?) recordsDeclared
          simp only [List.getElem?_map, found, Option.map_some] at mapped
          exact Option.some.inj (mapped.trans atIndex)
        have state := synced.states record (List.mem_of_getElem? found)
        rw [isStep, pending] at state
        have allowed : core.steps.allows entry.1.id .skipped = true :=
          StepStateMachine.allows_of_state state (by decide) (by simp)
        refine Ensures.assoc (nowMs_then racing ?_)
        intro finishedAtMs race racing
        refine Ensures.assoc (updateCore_then ?_)
        refine transitionStep_then racing ?_ ?_
        · exact allowed
        intro timestamp race progress racing
        have skips :=
          reaches.next (.skipped finishedAtMs timestamp atIndex isPending)
        exact inductionHypothesis restDeclared skips racing
          (among.skip executionId finishedAtMs timestamp skipping.reason)
      case isFalse notPending =>
        refine Ensures.pureThen ?_
        exact inductionHypothesis restDeclared reaches racing
          (among.pass notPending)

theorem skipPending_then
    {skipping : Skipping}
    {next : Unit → EngineProgram β}
    (reaches : RunReaches executionId plan ⟨.skipping skipping, core⟩)
    (racing : Racing status race)
    (continues :
      ∀ core' race' progress',
        RunReaches executionId plan ⟨.skipping skipping, core'⟩ →
        NonePending core' →
        Racing status race' →
        (next ()).Ensures post ⟨core', race', progress'⟩) :
    (skipPending executionId dependencies plan.steps skipping.reason >>=
        next).Ensures post
      ⟨core, race, progress⟩ := by
  have declared :
      ∀ entry ∈ plan.steps.zipIdx, plan.steps[entry.2]? = some entry.1 := by
    intro entry listed
    exact List.mem_zipIdx_iff_getElem?.mp listed
  have among : PendingAmong core plan.steps.zipIdx := by
    intro index record found _
    have mapped :=
      congrArg (fun list => list[index]?) reaches.shape.skipping.1
    simp only [List.getElem?_map, found, Option.map_some] at mapped
    exact ⟨(record.step, index),
      List.mem_zipIdx_iff_getElem?.mpr mapped.symm, rfl⟩
  exact skipEntries_then declared reaches racing among continues

theorem emitPendingSteps_then
    {steps : List WorkflowStep}
    {next : Nat}
    {continuation : Unit → EngineProgram β}
    (remaining : plan.steps.drop next = steps)
    (reaches : RunReaches executionId plan ⟨.initializing next, core⟩)
    (racing : Racing status race)
    (continues :
      ∀ core' race' progress',
        RunReaches executionId plan
          ⟨.initializing plan.steps.length, core'⟩ →
        core'.run = core.run →
        Racing status race' →
        (continuation ()).Ensures post ⟨core', race', progress'⟩) :
    (forEach (emitPendingStep executionId dependencies) steps >>=
        continuation).Ensures post
      ⟨core, race, progress⟩ := by
  induction steps generalizing core race progress next with
  | nil =>
      have inside := reaches.shape.2.2.2
      have atEnd : next = plan.steps.length :=
        Nat.le_antisymm inside (List.drop_eq_nil_iff.mp remaining)
      subst atEnd
      exact Ensures.pureThen (continues core race progress reaches rfl racing)
  | cons step rest inductionHypothesis =>
      have atNext : plan.steps[next]? = some step := by
        have first := congrArg List.head? remaining
        simpa using first
      have further : plan.steps.drop (next + 1) = rest := by
        have dropped := congrArg List.tail remaining
        simpa using dropped
      unfold forEach
      refine Ensures.assoc ?_
      unfold emitPendingStep
      refine Ensures.assoc (nowMs_then racing ?_)
      intro timestamp race racing
      refine emit_then racing ?_
      intro race progress racing
      exact inductionHypothesis further
        (reaches.next (.initialized timestamp atNext)) racing continues

theorem initializeSteps_then
    {continuation : Unit → EngineProgram β}
    (created :
      RunReaches executionId plan
        ⟨.initializing 0, core.createSteps plan.workflow⟩)
    (racing : Racing status race)
    (continues :
      ∀ core' race' progress',
        RunReaches executionId plan
          ⟨.initializing plan.steps.length, core'⟩ →
        core'.run = core.run →
        Racing status race' →
        (continuation ()).Ensures post ⟨core', race', progress'⟩) :
    (initializeSteps executionId dependencies plan.workflow >>=
        continuation).Ensures post
      ⟨core, race, progress⟩ := by
  unfold initializeSteps
  refine Ensures.assoc (updateCore_then ?_)
  exact emitPendingSteps_then List.drop_zero created racing continues

/-- The adapter was asked to start, and may have failed to. -/
def ReachesStarting
    (executionId : Uuid)
    (prepared : PreparedWorkflowExecution dependencies)
    (world : EngineWorld) :
    Prop :=
  RunReaches executionId (.executed prepared) ⟨.starting, world.core⟩ ∧
    ∃ own,
      Racing (.undecided own) world.race ∧
        ∀ primary, own = some primary → EndsStart primary

theorem failAdapterStart_returns
    {error : EngineError}
    (reaches :
      RunReaches executionId (.executed prepared) ⟨.starting, core⟩)
    (racing : Racing (.undecided none) race) :
    (failAdapterStart error).Returns
      (fun _ world => ReachesStarting executionId prepared world)
      ⟨core, race, progress⟩ := by
  unfold failAdapterStart
  refine nowMs_then racing ?_
  intro atMs race racing
  refine Ensures.modify ⟨(), rfl, reaches, _, racing.recordOwn _, ?_⟩
  intro primary isOwn
  cases isOwn
  exact .startFailed error

theorem startAdapter_returns
    {before : EngineCore}
    {timestamp : Nat}
    (reaches :
      RunReaches executionId (.executed prepared)
        ⟨.initializing prepared.workflow.steps.length, before⟩)
    (isValidating : before.run = .validating)
    (racing : Racing (.undecided none) race) :
    startAdapter.Returns
      (fun _ world => ReachesStarting executionId prepared world)
      ⟨(before.createOutputs prepared.workflow).tellRun executionId timestamp
          .starting none,
        race, progress⟩ := by
  have starts :=
    reaches.next (.started timestamp rfl isValidating)
  unfold startAdapter
  refine Ensures.tryCatch (updateCore_then (Ensures.tail ?_))
  refine environment_then racing ?_
  intro reply race racing
  cases answer : reply.started with
  | ok started =>
      simp only [andThen_returned]
      exact Ensures.pure ⟨(), rfl, starts, none, racing, by simp⟩
  | error error => exact failAdapterStart_returns starts racing

/-- The run is over, except that its resources are to be released. -/
def ReachesStopping
    (executionId : Uuid)
    (prepared : PreparedWorkflowExecution dependencies)
    (world : EngineWorld) :
    Prop :=
  RunReaches executionId (.executed prepared)
      ⟨.stopping world.core.primary, world.core⟩ ∧
    ∃ status, Racing status world.race

theorem announceTermination_ended
    {primary : PrimaryTermination}
    (reaches :
      RunReaches executionId (.executed prepared)
        ⟨.skipping (.terminated primary), core⟩)
    (racing : Racing (.decided primary) race) :
    (announceTermination executionId prepared).Returns
      (fun _ world => ReachesStopping executionId prepared world)
      ⟨core, race, progress⟩ := by
  have isPrimary := reaches.shape.2.isPrimary
  unfold announceTermination
  refine Ensures.getThen ?_
  rw [isPrimary]
  refine @skipPending_then _ _ _ _ (.executed prepared) _ _ _ _
    (.terminated primary) _ reaches racing ?_
  intro core race progress reaches nonePending racing
  obtain ⟨announces, isOver⟩ := reaches.shape
  refine Ensures.tail (transitionRun_then racing announces ?_)
  intro timestamp race progress racing
  have announced :=
    reaches.next (.terminationAnnounced timestamp nonePending)
  rw [← isOver.isPrimary] at announced
  exact Returns.pure ⟨announced, _, racing⟩

theorem announceTermination_returns
    {world : EngineWorld}
    (reached : ReachesLoopEnd executionId prepared world) :
    (announceTermination executionId prepared).Returns
      (fun _ world => ReachesStopping executionId prepared world) world := by
  obtain ⟨core, race, progress⟩ := world
  rcases reached with ⟨ready, racing⟩ | ⟨primary, reaches, racing⟩
  · have unended := ready.shape.1.unended
    have completes := ready.next .completed
    unfold announceTermination
    refine Ensures.getThen ?_
    rw [unended]
    refine Returns.pure ⟨?_, _, racing⟩
    rw [unended]
    exact completes
  · exact announceTermination_ended reaches racing

theorem runPrepared_returns
    {before : EngineCore}
    {timestamp : Nat}
    (reaches :
      RunReaches executionId (.executed prepared)
        ⟨.initializing prepared.workflow.steps.length, before⟩)
    (isValidating : before.run = .validating)
    (racing : Racing (.undecided none) race) :
    (runPrepared executionId prepared).Returns
      (fun _ world => ReachesStopping executionId prepared world)
      ⟨(before.createOutputs prepared.workflow).tellRun executionId timestamp
          .starting none,
        race, progress⟩ := by
  unfold runPrepared
  refine (startAdapter_returns reaches isValidating racing).seq ?_
  rintro _ ⟨core, race, progress⟩ ⟨starting, own, racing, endsStart⟩
  obtain ⟨executing, _⟩ := starting.shape
  refine recordDeadlineIfElapsed_then racing ?_
  intro race racing
  refine choosePrimary_then racing executing.unended ?_ ?_
  · rintro rfl
    refine transitionRun_then racing ?_ ?_
    · rw [executing.isRun]
      decide
    intro ranAt race progress racing
    have runs := starting.next (.ran ranAt)
    refine (runSteps_returns List.drop_zero runs racing).seq ?_
    intro _ world reached
    exact announceTermination_returns reached
  · intro primary race asked racing
    have ends : EndsStart primary := by
      rcases asked with external | isOwn
      · exact .external external
      · exact endsStart primary isOwn
    have ended := starting.next (.endedAtStart ends)
    exact announceTermination_ended ended racing

/-- What releasing the resources leads to. -/
def ReachesConcluding
    (executionId : Uuid)
    (prepared : PreparedWorkflowExecution dependencies)
    (released : ReleasedResources)
    (world : EngineWorld) :
    Prop :=
  RunReaches executionId (.executed prepared)
      ⟨.concluding world.core.primary released.cleanupError, world.core⟩ ∧
    (∃ store : RuntimeOutputStore,
      store.definitions = defineWorkflowOutputs prepared.workflow ∧
        released.outputs = store.summaries) ∧
    ∃ status, Racing status world.race

theorem Shape.stopping_outputs
    {primary : Option PrimaryTermination}
    (shape : Shape plan ⟨.stopping primary, core⟩) :
    DeclaresOutputs plan core := by
  cases primary with
  | none => exact shape.1.outputs
  | some primary => exact shape.2.2.outputs

theorem releaseResources_returns
    {world : EngineWorld}
    (reached : ReachesStopping executionId prepared world) :
    releaseResources.Returns (ReachesConcluding executionId prepared)
      world := by
  obtain ⟨core, race, progress⟩ := world
  obtain ⟨stopping, status, racing⟩ := reached
  obtain ⟨same, executed, declared⟩ := stopping.shape.stopping_outputs
  cases executed
  have stops (cleanupError : Option SafeExecutionError) :=
    stopping.next (.stopped cleanupError rfl)
  unfold releaseResources
  refine updateRace_then ?_
  refine Ensures.getThen ?_
  unfold stopAdapter
  refine environment_then (racing.sameArbiter rfl) ?_
  intro reply race racing
  simp only [andThen_returned]
  refine updateCore_then (Returns.pure ?_)
  exact ⟨stops _, ⟨core.outputs, declared, rfl⟩, status, racing⟩

/-- What the result of a finished run is built from. -/
structure ResultOf
    (executionId : Uuid)
    (plan : RunPlan dependencies)
    (ending : RunEnd)
    (core : EngineCore)
    (final : FinalResultInput) :
    Prop where
  isExecution : final.executionId = executionId
  workflow : final.workflow = plan.workflow
  status : final.status = ending.status
  cause : final.terminationCause = ending.cause
  records : final.records = core.records
  error : final.error = ending.error
  failedStepId : final.failedStepId = ending.failedStepId
  warnings : final.warnings.all WorkflowEngineWarning.parses = true
  outputs :
    final.outputs = none ∨
      ∃ prepared,
        ∃ store : RuntimeOutputStore,
          plan = .executed prepared ∧
            store.definitions = defineWorkflowOutputs prepared.workflow ∧
            final.outputs = some store.summaries

/-- How building a result ends an execution. -/
def resultOutcome :
    Option WorkflowExecutionResult →
      Outcome EngineError WorkflowExecutionResult
  | none => .threw .other
  | some result => .returned result

/-- The run is finished and its result was built. -/
def Builds
    (executionId : Uuid)
    (plan : RunPlan dependencies)
    (outcome : Outcome EngineError WorkflowExecutionResult)
    (world : EngineWorld) :
    Prop :=
  ∃ ending final,
    RunReaches executionId plan ⟨.finished ending, world.core⟩ ∧
      ResultOf executionId plan ending world.core final ∧
      outcome = resultOutcome (buildWorkflowExecutionResult final)

theorem buildResult_ensures
    {final : FinalResultInput}
    {ending : RunEnd}
    (reaches : RunReaches executionId plan ⟨.finished ending, core⟩)
    (resultOf : ResultOf executionId plan ending core final) :
    (buildResult final).Ensures (Builds executionId plan)
      ⟨core, race, progress⟩ := by
  unfold buildResult
  cases built : buildWorkflowExecutionResult final with
  | none =>
      exact Ensures.throwing
        ⟨ending, final, reaches, resultOf, by rw [built]; rfl⟩
  | some result =>
      exact Ensures.pure
        ⟨ending, final, reaches, resultOf, by rw [built]; rfl⟩

theorem SafeProgressEmitter.warnings_parse
    (progress : SafeProgressEmitter) :
    progress.warnings.all WorkflowEngineWarning.parses = true := by
  unfold SafeProgressEmitter.warnings
  split
  · decide
  · rfl

theorem isTerminalRunStatus_runStatus (status : TerminalRunStatus) :
    isTerminalRunStatus status.runStatus = true := by
  cases status <;> rfl

theorem finishPrepared_ensures
    {startedAtMs : Nat}
    {released : ReleasedResources}
    {store : RuntimeOutputStore}
    {ending : RunEnd}
    (reaches :
      RunReaches executionId (.executed prepared) ⟨.finished ending, core⟩)
    (racing : Racing status race)
    (declared :
      store.definitions = defineWorkflowOutputs prepared.workflow)
    (isOutputs : released.outputs = store.summaries) :
    (finishPrepared executionId prepared startedAtMs released
        ending).Ensures
      (Builds executionId (.executed prepared)) ⟨core, race, progress⟩ := by
  have isTerminal : isTerminalRunStatus core.run = true := by
    rw [reaches.shape.1]
    exact isTerminalRunStatus_runStatus ending.status
  unfold finishPrepared
  refine Ensures.getThen ?_
  rw [if_pos isTerminal]
  refine nowMs_then racing ?_
  intro finishedAtMs race racing
  refine buildResult_ensures reaches ?_
  exact
    { isExecution := rfl
      workflow := rfl
      status := rfl
      cause := rfl
      records := rfl
      error := rfl
      failedStepId := rfl
      warnings := by
        rw [List.all_append, progress.warnings_parse]
        split <;> decide
      outputs := Or.inr ⟨prepared, store, rfl, declared, by rw [isOutputs]⟩ }

theorem warnAboutCleanup_then
    {cleanupError : Option SafeExecutionError}
    {next : Unit → EngineProgram β}
    (racing : Racing status race)
    (continues :
      ∀ warnedAt race' progress',
        Racing status race' →
        (next ()).Ensures post
          ⟨core.tellWarning executionId warnedAt cleanupError, race',
            progress'⟩) :
    (warnAboutCleanup executionId dependencies cleanupError >>= next).Ensures
      post ⟨core, race, progress⟩ := by
  unfold warnAboutCleanup
  cases cleanupError with
  | none => exact Ensures.pureThen (continues 0 race progress racing)
  | some cleanupError =>
      refine Ensures.assoc (nowMs_then racing ?_)
      intro warnedAt race racing
      exact emit_then racing (continues warnedAt)

@[simp] theorem EngineCore.tellWarning_primary
    (timestamp : Nat)
    (cleanupError : Option SafeExecutionError) :
    (core.tellWarning executionId timestamp cleanupError).primary =
      core.primary := by
  cases cleanupError <;> rfl

theorem concludePrepared_ensures
    {startedAtMs : Nat}
    {released : ReleasedResources}
    {world : EngineWorld}
    (reached : ReachesConcluding executionId prepared released world) :
    (concludePrepared executionId prepared startedAtMs released).Ensures
      (Builds executionId (.executed prepared)) world := by
  obtain ⟨core, race, progress⟩ := world
  obtain ⟨cleanupError, outputs⟩ := released
  obtain ⟨concluding, ⟨store, declared, isOutputs⟩, status, racing⟩ := reached
  unfold concludePrepared
  refine warnAboutCleanup_then racing ?_
  intro warnedAt race progress racing
  refine Ensures.getThen ?_
  simp only [EngineCore.tellWarning_primary]
  dsimp only at concluding
  cases isPrimary : core.primary with
  | some primary =>
      rw [isPrimary] at concluding
      obtain ⟨_, isRun, _⟩ := concluding.shape
      simp only
      unfold settleTermination
      cases cancels : cancelsRun primary.cause with
      | true =>
          have announced : core.run = .cancelling := by
            rw [isRun, announcedStatus, cancels]
            rfl
          rw [if_pos rfl]
          refine transitionRun_then racing ?_ ?_
          · rw [EngineCore.tellWarning_run, announced]
            decide
          intro timestamp race progress racing
          exact finishPrepared_ensures
            (concluding.next (.concludedCancelled warnedAt timestamp cancels))
            racing declared isOutputs
      | false =>
          simp only [Bool.false_eq_true, if_false]
          refine Ensures.pureThen ?_
          exact finishPrepared_ensures
            (concluding.next (.concludedTerminated warnedAt cancels)) racing
            declared isOutputs
  | none =>
      rw [isPrimary] at concluding
      obtain ⟨_, executing, _⟩ := concluding.shape
      cases cleanupError with
      | some cleanupError =>
          refine transitionRun_then racing ?_ ?_
          · rw [EngineCore.tellWarning_run, executing.isRun]
            decide
          intro timestamp race progress racing
          exact finishPrepared_ensures
            (concluding.next (.concludedFailed warnedAt timestamp)) racing
            declared isOutputs
      | none =>
          refine transitionRun_then racing ?_ ?_
          · rw [EngineCore.tellWarning_run, executing.isRun]
            decide
          intro timestamp race progress racing
          exact finishPrepared_ensures
            (concluding.next (.concludedSucceeded timestamp)) racing declared
            isOutputs

theorem executePrepared_ensures
    {startedAtMs : Nat}
    (reaches :
      RunReaches executionId (.executed prepared)
        ⟨.initializing prepared.workflow.steps.length, core⟩)
    (isValidating : core.run = .validating)
    (racing : Racing (.undecided none) race) :
    (executePrepared executionId prepared startedAtMs).Ensures
      (Builds executionId (.executed prepared)) ⟨core, race, progress⟩ := by
  unfold executePrepared startRace
  refine updateCore_then (Ensures.assoc (nowMs_then racing ?_))
  intro executionStartedAtMs race racing
  refine Ensures.assoc (updateRace_then (Ensures.assoc ?_))
  unfold recordEarlierAbort
  have armed {race : TerminationRace} (racing : Racing (.undecided none) race) :
      (do
        updateRace fun race => { race with timerArmed := true }
        transitionRun executionId dependencies .starting none
        let released ←
          Program.withCleanup (runPrepared executionId prepared)
            releaseResources
        concludePrepared executionId prepared startedAtMs released.2).Ensures
        (Builds executionId (.executed prepared))
        ⟨core.createOutputs prepared.workflow, race, progress⟩ := by
    refine updateRace_then ?_
    refine transitionRun_then (racing.sameArbiter rfl) ?_ ?_
    · change .starting ∈ runTransitions core.run
      rw [isValidating]
      decide
    intro timestamp race progress racing
    refine Ensures.bind (Ensures.withCleanup ?_)
    refine Ensures.mono (runPrepared_returns reaches isValidating racing) ?_
    rintro outcome world ⟨_, rfl, stopping⟩
    refine ⟨(), rfl, ?_⟩
    refine Ensures.mono (releaseResources_returns stopping) ?_
    rintro outcome world ⟨released, rfl, concluding⟩
    exact concludePrepared_ensures concluding
  refine Ensures.assoc (Ensures.getThen ?_)
  split
  · refine Ensures.assoc (nowMs_then (racing.sameArbiter rfl) ?_)
    intro atMs race racing
    refine updateRace_then ?_
    exact armed (@Racing.record _ _ racing (cancelCandidate atMs) .cancelled)
  · exact Ensures.pureThen (armed (racing.sameArbiter rfl))

theorem finishEarly_ensures
    {startedAtMs : Nat}
    {runStatus : TerminalRunStatus}
    {cause : TerminationCause}
    {error : SafeExecutionError}
    (reaches :
      RunReaches executionId plan
        ⟨.skipping (.early runStatus cause error), core⟩)
    (nonePending : NonePending core)
    (racing : Racing status race) :
    (finishEarly executionId dependencies plan.workflow startedAtMs runStatus
        cause error).Ensures
      (Builds executionId plan) ⟨core, race, progress⟩ := by
  obtain ⟨_, announces, _⟩ := reaches.shape
  unfold finishEarly
  refine transitionRun_then racing announces ?_
  intro timestamp race progress racing
  refine nowMs_then racing ?_
  intro finishedAtMs race racing
  refine Ensures.getThen ?_
  refine buildResult_ensures
    (reaches.next (.endedEarly timestamp nonePending)) ?_
  exact
    { isExecution := rfl
      workflow := rfl
      status := rfl
      cause := rfl
      records := rfl
      error := rfl
      failedStepId := rfl
      warnings := progress.warnings_parse
      outputs := Or.inl rfl }

theorem cancelBeforeStart_ensures
    {startedAtMs : Nat}
    (reaches :
      RunReaches executionId plan ⟨.initializing plan.steps.length, core⟩)
    (racing : Racing status race) :
    (cancelBeforeStart executionId dependencies plan.workflow
        startedAtMs).Ensures
      (Builds executionId plan) ⟨core, race, progress⟩ := by
  have cancels : WorkflowEngineRunStatus.cancelling ∈ runTransitions core.run := by
    rcases reaches.shape.1 with isPending | isValidating
    · rw [isPending]
      decide
    · rw [isValidating]
      decide
  unfold cancelBeforeStart
  refine transitionRun_then racing cancels ?_
  intro timestamp race progress racing
  refine @skipPending_then _ _ _ _ _ _ _ _ _
    (.early .cancelled .runCancelled (safeError .executionCancelled)) _
    (reaches.next (.cancelledEarly timestamp)) racing ?_
  intro core race progress skipping nonePending racing
  exact finishEarly_ensures skipping nonePending racing

theorem rejectPreflight_ensures
    {startedAtMs : Nat}
    {workflow : Option WorkflowDefinition}
    {error : SafeExecutionError}
    (reaches :
      RunReaches executionId (@RunPlan.discarded dependencies workflow)
        ⟨.initializing (declaredSteps workflow).length, core⟩)
    (isValidating : core.run = .validating)
    (errorParses : error.parses = true)
    (racing : Racing status race) :
    (rejectPreflight executionId dependencies workflow startedAtMs
        error).Ensures
      (Builds executionId (@RunPlan.discarded dependencies workflow))
      ⟨core, race, progress⟩ := by
  have rejects :=
    reaches.next (.rejected error rfl isValidating errorParses)
  unfold rejectPreflight
  refine @skipPending_then _ _ _ _ (.discarded workflow) _ _ _ _
    (.early .failed .preflightFailed error) _ rejects racing ?_
  intro core race progress skipping nonePending racing
  exact @finishEarly_ensures _ _ (.discarded workflow) _ _ _ _ _ _ _ _ skipping
    nonePending racing

/-- The plan that the preflight of an execution leads to. -/
inductive Planned (input : ExecutionInput) : RunPlan dependencies → Prop where
  | abortedBefore : Planned input (.discarded input.workflow)
  | failed
      {error : SafeExecutionError}
      (answer :
        preflightWorkflowExecution dependencies input =
          some (.failed error input.workflow)) :
      Planned input (.discarded input.workflow)
  | prepared
      {prepared : PreparedWorkflowExecution dependencies}
      (answer :
        preflightWorkflowExecution dependencies input =
          some (.prepared prepared)) :
      Planned input (.executed prepared)

/-- How an execution ends. -/
inductive Concluded
    (executionId : Uuid)
    (dependencies : EngineDependencies)
    (input : ExecutionInput)
    (outcome : Outcome EngineError WorkflowExecutionResult)
    (world : EngineWorld) :
    Prop where
  /-- An analysis of the preflight rejects its own answer. -/
  | preflightThrew
      (answer : preflightWorkflowExecution dependencies input = none)
      (reaches :
        RunReaches executionId
          (@RunPlan.discarded dependencies input.workflow)
          ⟨.validating, world.core⟩)
      (threw : outcome = .threw .other)
  | built
      {plan : RunPlan dependencies}
      (planned : Planned input plan)
      (builds : Builds executionId plan outcome world)

theorem followPreflight_ensures
    {startedAtMs : Nat}
    {input : ExecutionInput}
    {preflight : PreflightResult dependencies}
    (answer :
      preflightWorkflowExecution dependencies input = some preflight)
    (reaches :
      ∀ plan : RunPlan dependencies,
        RunReaches executionId plan ⟨.validating, core⟩)
    (racing : Racing (.undecided none) race) :
    (followPreflight executionId dependencies startedAtMs preflight).Ensures
      (Concluded executionId dependencies input) ⟨core, race, progress⟩ := by
  obtain ⟨sameWorkflow, errorParses⟩ :=
    preflightWorkflowExecution_answers input preflight answer
  unfold followPreflight
  cases preflight with
  | failed error workflow =>
      cases sameWorkflow
      have isValidating := (reaches (.discarded input.workflow)).shape.1
      refine @initializeSteps_then _ _ _ _ (.discarded input.workflow) _ _ _ _ _
        ((reaches _).next .stepsCreated) racing ?_
      intro core race progress initialized sameRun racing
      refine Ensures.getThen ?_
      have planned := Planned.failed answer
      split
      · refine Ensures.mono (cancelBeforeStart_ensures initialized racing) ?_
        intro outcome world builds
        exact .built planned builds
      · refine Ensures.mono (rejectPreflight_ensures initialized
          (sameRun.trans isValidating) (errorParses error _ rfl) racing) ?_
        intro outcome world builds
        exact .built planned builds
  | prepared prepared =>
      have isValidating := (reaches (.executed prepared)).shape.1
      refine @initializeSteps_then _ _ _ _ (.executed prepared) _ _ _ _ _
        ((reaches _).next .stepsCreated) racing ?_
      intro core race progress initialized sameRun racing
      refine Ensures.getThen ?_
      have planned := Planned.prepared answer
      split
      · refine Ensures.mono (cancelBeforeStart_ensures initialized racing) ?_
        intro outcome world builds
        exact .built planned builds
      · refine Ensures.mono (executePrepared_ensures initialized
          (sameRun.trans isValidating) racing) ?_
        intro outcome world builds
        exact .built planned builds

/-- Every execution is a run of the model and ends by building its result. -/
theorem execute_concludes
    (executionId : Uuid)
    (dependencies : EngineDependencies)
    (input : ExecutionInput)
    (aborted : Bool) :
    (execute executionId dependencies input).Ensures
      (Concluded executionId dependencies input)
      (EngineWorld.initial aborted) := by
  have starts (plan : RunPlan dependencies) :
      RunReaches executionId plan
        ⟨.created, (EngineWorld.initial aborted).core⟩ :=
    Reachable.start rfl
  have racing := Racing.start aborted
  unfold execute
  refine nowMs_then racing ?_
  intro startedAtMs race racing
  unfold emitRun
  refine Ensures.assoc (nowMs_then racing ?_)
  intro timestamp race racing
  refine emit_then racing ?_
  intro race progress racing
  have announced (plan : RunPlan dependencies) :=
    (starts plan).next (.announced timestamp)
  refine Ensures.getThen ?_
  split
  · refine @initializeSteps_then _ _ _ _ (.discarded input.workflow) _ _ _ _ _
      ((announced _).next .leftUnvalidated) racing ?_
    intro core race progress initialized _ racing
    refine Ensures.mono (cancelBeforeStart_ensures initialized racing) ?_
    intro outcome world builds
    exact .built .abortedBefore builds
  · unfold validateAndExecute
    refine transitionRun_then racing ?_ ?_
    · exact (by decide :
        WorkflowEngineRunStatus.validating ∈ runTransitions .pending)
    intro validatedAt race progress racing
    have validating (plan : RunPlan dependencies) :=
      (announced plan).next (.validated validatedAt)
    cases answer : preflightWorkflowExecution dependencies input with
    | none =>
        exact Ensures.throwing
          (.preflightThrew answer (validating _) rfl)
    | some preflight =>
        exact followPreflight_ensures answer validating racing

end TaskTwin.Engine
