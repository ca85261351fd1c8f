import TaskTwin.Engine.RunRecords

/-!
# The shape of a run

What the run status, the step state machine and the records look like at
every point of the run model.  The shape holds when a run is created and is
kept by every step, so it holds in every reachable state.
-/

namespace TaskTwin.Engine

open Effect Schema Workflow Recovery

structure Synced (core : EngineCore) : Prop where
  states :
    ∀ record ∈ core.records,
      core.steps.states record.step.id = some record.status
  running :
    ∀ stepId,
      core.steps.runningStepId = some stepId →
        ∃ record ∈ core.records,
          record.step.id = stepId ∧ record.status = .running

theorem RunPlan.unique
    {dependencies : EngineDependencies}
    (plan : RunPlan dependencies) :
    (plan.steps.map WorkflowStep.id).Nodup := by
  unfold RunPlan.steps declaredSteps
  split
  · simp
  · rename_i workflow _
    exact workflow.stepIdsUnique

/-- Records of different positions belong to different steps. -/
theorem position_of_id
    {steps : List WorkflowStep}
    {records : List ExecutionStepRecord}
    (unique : (steps.map WorkflowStep.id).Nodup)
    (declared : records.map ExecutionStepRecord.step = steps)
    {left right : Nat}
    {leftRecord rightRecord : ExecutionStepRecord}
    (atLeft : records[left]? = some leftRecord)
    (atRight : records[right]? = some rightRecord)
    (sameId : leftRecord.step.id = rightRecord.step.id) :
    left = right := by
  rw [← declared, List.map_map] at unique
  obtain ⟨leftInside, leftIs⟩ := List.getElem?_eq_some_iff.mp atLeft
  obtain ⟨rightInside, rightIs⟩ := List.getElem?_eq_some_iff.mp atRight
  have leftMapped : left <
      (records.map (WorkflowStep.id ∘ ExecutionStepRecord.step)).length := by
    simpa using leftInside
  have rightMapped : right <
      (records.map (WorkflowStep.id ∘ ExecutionStepRecord.step)).length := by
    simpa using rightInside
  have sameEntry :
      (records.map (WorkflowStep.id ∘ ExecutionStepRecord.step)).get
          ⟨left, leftMapped⟩ =
        (records.map (WorkflowStep.id ∘ ExecutionStepRecord.step)).get
          ⟨right, rightMapped⟩ := by
    simp [leftIs, rightIs, sameId]
  exact unique.getElem_inj_iff.mp sameEntry

section Syncing

variable
    {steps : List WorkflowStep}
    {core core' : EngineCore}
    {index : Nat}
    {current : ExecutionStepRecord}

/-- Updates that change neither a status nor the machine. -/
theorem Synced.update
    (synced : Synced core)
    (update : ExecutionStepRecord → ExecutionStepRecord)
    (keepsStep : ∀ record, (update record).step = record.step)
    (keepsStatus : ∀ record, (update record).status = record.status)
    (sameSteps : core'.steps = core.steps)
    (updated : core'.records = core.records.modify index update) :
    Synced core' := by
  constructor
  case states =>
    intro record listed
    obtain ⟨position, found⟩ := List.mem_iff_getElem?.mp listed
    rw [updated, List.getElem?_modify, Option.map_eq_map,
      Option.map_eq_some_iff] at found
    obtain ⟨earlier, present, rfl⟩ := found
    have state := synced.states earlier (List.mem_of_getElem? present)
    split <;> simp [sameSteps, keepsStep, keepsStatus, state]
  case running =>
    intro stepId isRunning
    rw [sameSteps] at isRunning
    obtain ⟨record, listed, isStep, runs⟩ := synced.running stepId isRunning
    obtain ⟨position, found⟩ := List.mem_iff_getElem?.mp listed
    refine ⟨if index = position then update record else record, ?_, ?_, ?_⟩
    · rw [updated]
      exact List.mem_of_getElem? (by
        rw [List.getElem?_modify, found]
        rfl)
    · split <;> simp [keepsStep, isStep]
    · split <;> simp [keepsStatus, runs]

theorem Synced.sameRecords
    (synced : Synced core)
    (sameSteps : core'.steps = core.steps)
    (same : core'.records = core.records) :
    Synced core' := by
  obtain ⟨states, running⟩ := synced
  rw [← sameSteps, ← same] at states running
  exact ⟨states, running⟩

/-- Moving one step in the machine and in its record. -/
theorem Synced.move
    (synced : Synced core)
    (unique : (steps.map WorkflowStep.id).Nodup)
    (declared : core.records.map ExecutionStepRecord.step = steps)
    (isCurrent : core.records[index]? = some current)
    (status : WorkflowEngineStepStatus)
    (update : ExecutionStepRecord → ExecutionStepRecord)
    (keepsStep : ∀ record, (update record).step = record.step)
    (setsStatus : ∀ record, (update record).status = status)
    (moved : core'.steps = core.steps.moved current.step.id status)
    (updated : core'.records = core.records.modify index update) :
    Synced core' := by
  have currentState := synced.states current (List.mem_of_getElem? isCurrent)
  have atCurrent : core'.records[index]? = some (update current) := by
    simp [updated, isCurrent]
  have atOther :
      ∀ position, index ≠ position →
        core'.records[position]? = core.records[position]? := by
    intro position different
    rw [updated, List.getElem?_modify_ne _ _ different]
  have otherId :
      ∀ position record, index ≠ position →
        core.records[position]? = some record →
        record.step.id ≠ current.step.id := by
    intro position record different found sameId
    exact different (position_of_id unique declared isCurrent found sameId.symm)
  constructor
  case states =>
    intro record listed
    obtain ⟨position, found⟩ := List.mem_iff_getElem?.mp listed
    by_cases same : index = position
    · subst same
      cases atCurrent.symm.trans found
      simp [moved, keepsStep, setsStatus]
    · rw [atOther position same] at found
      rw [moved, StepStateMachine.moved_states_of_ne _ _
        (otherId position record same found)]
      exact synced.states record (List.mem_of_getElem? found)
  case running =>
    intro stepId isRunning
    rw [moved, StepStateMachine.moved] at isRunning
    split at isRunning
    case isTrue starts =>
      cases isRunning
      exact ⟨update current, List.mem_of_getElem? atCurrent,
        by rw [keepsStep], by rw [setsStatus, starts]⟩
    case isFalse =>
    split at isRunning
    case isTrue => cases isRunning
    case isFalse stays =>
      obtain ⟨record, listed, isStep, runs⟩ := synced.running stepId isRunning
      obtain ⟨position, found⟩ := List.mem_iff_getElem?.mp listed
      by_cases same : index = position
      · subst same
        cases isCurrent.symm.trans found
        rw [currentState, runs] at stays
        exact absurd rfl stays
      · rw [← atOther position same] at found
        exact ⟨record, List.mem_of_getElem? found, isStep, runs⟩

theorem Synced.tellStep
    {step : WorkflowStep}
    (synced : Synced core)
    (stands : AtStep steps core index current)
    (unique : (steps.map WorkflowStep.id).Nodup)
    (atIndex : steps[index]? = some step)
    (executionId : Uuid)
    (timestamp : Nat)
    (status : WorkflowEngineStepStatus)
    (error : Option SafeExecutionError)
    (reason : Option SkippedStepReason) :
    Synced
      (core.tellStep executionId timestamp index step status error reason) := by
  cases stands.step_of atIndex
  exact synced.move unique stands.declared stands.isCurrent status
    (fun record => { record with status }) (fun _ => rfl) (fun _ => rfl) rfl
    rfl

theorem Synced.tell
    (synced : Synced core)
    (executionId : Uuid)
    (timestamp : Nat)
    (kind : ProgressEventKind) :
    Synced (core.tell executionId timestamp kind) :=
  synced.sameRecords rfl rfl

theorem Synced.setAttempts
    (synced : Synced core)
    (attempts : List SafeStepAttempt) :
    Synced (core.setAttempts index attempts) :=
  synced.update (fun record => { record with attempts := some attempts })
    (fun _ => rfl) (fun _ => rfl) rfl rfl

theorem Synced.tellBegun
    (synced : Synced core)
    (executionId : Uuid)
    (step : WorkflowStep)
    (attempt : SafeStepAttempt) :
    Synced (core.tellBegun executionId index step attempt) :=
  (synced.setAttempts _).tell _ _ _

theorem Synced.tellFinished
    (synced : Synced core)
    (executionId : Uuid)
    (timestamp : Nat)
    (step : WorkflowStep)
    (attempt : SafeStepAttempt)
    (status : StepAttemptStatus)
    (effectCertainty : ExecutionEffectCertainty)
    (retryAllowed : Bool)
    (error : Option SafeExecutionError) :
    Synced
      (core.tellFinished executionId timestamp index step attempt status
        effectCertainty retryAllowed error) :=
  (synced.setAttempts _).tell _ _ _

theorem Synced.startRecord
    (synced : Synced core)
    (startedAtMs : Nat) :
    Synced (core.startRecord index startedAtMs) :=
  synced.update (fun record => { record with startedAtMs := some startedAtMs })
    (fun _ => rfl) (fun _ => rfl) rfl rfl

theorem Synced.finishRecord
    (synced : Synced core)
    (finishedAtMs : Nat) :
    Synced (core.finishRecord index finishedAtMs) :=
  synced.update
    (fun record => { record with finishedAtMs := some finishedAtMs })
    (fun _ => rfl) (fun _ => rfl) rfl rfl

theorem Synced.failRecord
    (synced : Synced core)
    (error : SafeExecutionError) :
    Synced (core.failRecord index error) :=
  synced.update (fun record => { record with error := some error })
    (fun _ => rfl) (fun _ => rfl) rfl rfl

theorem Synced.verifyRecord
    (synced : Synced core)
    (verification : Option SafeVerificationResult) :
    Synced (core.verifyRecord index verification) := by
  cases verification with
  | none => exact synced
  | some result =>
      exact synced.update
        (fun record => { record with verification := some result })
        (fun _ => rfl) (fun _ => rfl) rfl rfl

/-- The machine of freshly created records. -/
theorem Synced.createSteps
    (core : EngineCore)
    (workflow : Option WorkflowDefinition) :
    Synced (core.createSteps workflow) := by
  constructor
  case states =>
    intro record listed
    obtain ⟨step, isStep, rfl⟩ :
        ∃ step ∈ declaredSteps workflow,
          ExecutionStepRecord.create step = record := by
      cases workflow with
      | none => cases listed
      | some workflow => simpa [createRecords, EngineCore.createSteps,
          declaredSteps] using listed
    have listedId :
        step.id ∈ (declaredSteps workflow).map WorkflowStep.id :=
      List.mem_map_of_mem isStep
    simp only [EngineCore.createSteps, StepStateMachine.create,
      ExecutionStepRecord.create, listedId, if_true]
  case running =>
    intro stepId isRunning
    cases isRunning

/-- A step whose transition is listed may move. -/
theorem Synced.allows
    {step : WorkflowStep}
    {next : WorkflowEngineStepStatus}
    (synced : Synced core)
    (stands : AtStep steps core index current)
    (atIndex : steps[index]? = some step)
    (listed : next ∈ stepTransitions current.status) :
    core.steps.allows step.id next = true := by
  cases stands.step_of atIndex
  have state :=
    synced.states current (List.mem_of_getElem? stands.isCurrent)
  refine StepStateMachine.allows_of_state state listed ?_
  intro _
  cases isRunning : core.steps.runningStepId with
  | none => exact Or.inl rfl
  | some stepId =>
      -- Only the current step can be running: the others are done or untouched.
      obtain ⟨record, present, isStep, runs⟩ := synced.running stepId isRunning
      obtain ⟨position, found⟩ := List.mem_iff_getElem?.mp present
      rcases Nat.lt_trichotomy position index with before | same | after
      · have done := stands.before position record before found
        simp [done.succeeded] at runs
      · subst same
        cases stands.isCurrent.symm.trans found
        exact Or.inr (by rw [isStep])
      · have untouched := stands.after position record after found
        rw [untouched] at runs
        cases runs

end Syncing

/-- Run and step status while a step is closed without having succeeded. -/
inductive InStep :
    WorkflowEngineRunStatus → WorkflowEngineStepStatus → Prop where
  | running : InStep .running .running
  | waitingForApproval : InStep .waitingForApproval .waitingForApproval
  | waitingForRepair : InStep .waitingForRepair .waitingForRepair

/-- The run status that a termination is announced with. -/
def announcedStatus (primary : PrimaryTermination) : WorkflowEngineRunStatus :=
  if cancelsRun primary.cause then .cancelling
  else (terminalStatusFor primary.cause).runStatus

theorem announcedStatus_of_inStep
    {run : WorkflowEngineRunStatus}
    {status : WorkflowEngineStepStatus}
    (inStep : InStep run status)
    (primary : PrimaryTermination) :
    announcedStatus primary ∈ runTransitions run := by
  unfold announcedStatus
  cases inStep <;> cases primary.cause <;> decide

theorem terminatedStepStatus_of_inStep
    {run : WorkflowEngineRunStatus}
    {status : WorkflowEngineStepStatus}
    (inStep : InStep run status)
    (cause : RacingTerminationCause) :
    terminatedStepStatus cause ∈ stepTransitions status := by
  cases inStep <;> cases cause <;> decide

variable
    {dependencies : EngineDependencies}
    (executionId : Uuid)
    (plan : RunPlan dependencies)

/-- The outputs that the store of an executed plan declares. -/
def DeclaresOutputs (core : EngineCore) : Prop :=
  ∃ prepared,
    plan = .executed prepared ∧
      core.outputs.definitions = defineWorkflowOutputs prepared.workflow

/-- A run that is executing and has not been ended. -/
structure Executing
    (core : EngineCore)
    (run : WorkflowEngineRunStatus) :
    Prop where
  isRun : core.run = run
  unended : core.primary = none
  outputs : DeclaresOutputs plan core

/-- The step at an index is open, with a status and the attempts so far. -/
inductive Working
    (core : EngineCore)
    (index : Nat)
    (status : WorkflowEngineStepStatus)
    (attempts : Option (List SafeStepAttempt)) :
    Prop where
  | intro
      (current : ExecutionStepRecord)
      (stands : AtStep plan.steps core index current)
      (synced : Synced core)
      (opened : Opened current)
      (isStatus : current.status = status)
      (attempted : current.attempts = attempts)

/-- A step that waits to be closed without having succeeded. -/
structure Closable
    (core : EngineCore)
    (index : Nat)
    (primary : Option PrimaryTermination) :
    Prop where
  isPrimary : core.primary = primary
  outputs : DeclaresOutputs plan core
  working :
    ∃ status attempts,
      InStep core.run status ∧
        Working plan core index status attempts ∧
        attempts ≠ some [] ∧
        AttemptHistory (attempts.getD [])

/-- The steps before an index succeeded, and none is open. -/
structure Ready (core : EngineCore) (index : Nat) : Prop where
  between : Between plan.steps core index
  synced : Synced core

/-- A run that is over, with its steps skipped or being skipped. -/
structure Over (core : EngineCore) (primary : PrimaryTermination) : Prop where
  isPrimary : core.primary = some primary
  outputs : DeclaresOutputs plan core
  errorParses : primary.error.parses = true
  leaving : ∃ index, Leaving plan.steps core (some primary) index
  synced : Synced core

/-- No record is pending any more. -/
def NonePending (core : EngineCore) : Prop :=
  ∀ record ∈ core.records, record.status ≠ .pending

def Shape : RunState → Prop
  | ⟨.created, core⟩ => core.run = .pending ∧ core.primary = none
  | ⟨.announced, core⟩ => core.run = .pending ∧ core.primary = none
  | ⟨.validating, core⟩ => core.run = .validating ∧ core.primary = none
  | ⟨.initializing next, core⟩ =>
      (core.run = .pending ∨ core.run = .validating) ∧
        core.primary = none ∧
        Ready plan core 0 ∧
        next ≤ plan.steps.length
  | ⟨.starting, core⟩ => Executing plan core .starting ∧ Ready plan core 0
  | ⟨.ready index, core⟩ => Executing plan core .running ∧ Ready plan core index
  | ⟨.awaitingApproval index _ attempt, core⟩ =>
      Executing plan core .waitingForApproval ∧
        AttemptHistory [attempt] ∧
        Working plan core index .waitingForApproval (some [attempt])
  | ⟨.attempting index trigger repairRequestId, core⟩ =>
      Executing plan core .running ∧
        ∃ attempts,
          Working plan core index .running attempts ∧
            attempts ≠ some [] ∧
            MayBegin (attempts.getD []) trigger repairRequestId
  | ⟨.executing index attempt, core⟩ =>
      Executing plan core .running ∧
        ∃ attempts,
          AttemptHistory (attempts ++ [attempt]) ∧
            Working plan core index .running (some (attempts ++ [attempt]))
  | ⟨.judging index attempt failure, core⟩ =>
      Executing plan core .running ∧
        (∀ failed, failure = some failed → failed.error.parses = true) ∧
        ∃ attempts,
          AttemptHistory (attempts ++ [attempt]) ∧
            Working plan core index .running (some (attempts ++ [attempt]))
  | ⟨.awaitingRepair index attempt _ proposalOnly, core⟩ =>
      Executing plan core .waitingForRepair ∧
        ∃ attempts,
          AttemptHistory attempts ∧
            attempts ≠ [] ∧
            attempts.length = attempt.attemptNumber ∧
            attempts.length < maxTotalAttempts ∧
            (proposalOnly = false →
              triggerCount .manualRetry attempts < maxManualRetries) ∧
            Working plan core index .waitingForRepair (some attempts)
  | ⟨.closing index .succeeded, core⟩ =>
      Executing plan core .running ∧
        ∃ attempts last,
          AttemptHistory (attempts ++ [last]) ∧
            last.status = .succeeded ∧
            Working plan core index .running (some (attempts ++ [last]))
  | ⟨.closing index (.own primary), core⟩ =>
      Closable plan core index none ∧ primary.error.parses = true
  | ⟨.closing index (.chosen primary), core⟩ =>
      Closable plan core index (some primary) ∧ primary.error.parses = true
  | ⟨.skipping (.early status _ error), core⟩ =>
      core.primary = none ∧
        status.runStatus ∈ runTransitions core.run ∧
        error.parses = true ∧
        Leaving plan.steps core none 0 ∧
        Synced core
  | ⟨.skipping (.terminated primary), core⟩ =>
      announcedStatus primary ∈ runTransitions core.run ∧
        Over plan core primary
  | ⟨.stopping none, core⟩ =>
      Executing plan core .running ∧ Ready plan core plan.steps.length
  | ⟨.stopping (some primary), core⟩ =>
      core.run = announcedStatus primary ∧
        NonePending core ∧
        Over plan core primary
  | ⟨.concluding none _, core⟩ =>
      core.outputs.values = [] ∧
        Executing plan core .running ∧
        Ready plan core plan.steps.length
  | ⟨.concluding (some primary) _, core⟩ =>
      core.outputs.values = [] ∧
        core.run = announcedStatus primary ∧
        NonePending core ∧
        Over plan core primary
  | ⟨.finished ending, core⟩ =>
      core.run = ending.status.runStatus ∧
        NonePending core ∧
        ∃ primary index, Leaving plan.steps core primary index

section WorkingOnStep

variable
    {plan}
    {core : EngineCore}
    {index : Nat}
    {status : WorkflowEngineStepStatus}
    {attempts : Option (List SafeStepAttempt)}

variable {step : WorkflowStep}

theorem Working.tellStep
    (working : Working plan core index status attempts)
    (atIndex : plan.steps[index]? = some step)
    (executionId : Uuid)
    (timestamp : Nat)
    (next : WorkflowEngineStepStatus)
    (error : Option SafeExecutionError)
    (reason : Option SkippedStepReason) :
    Working plan
      (core.tellStep executionId timestamp index step next error reason) index
      next attempts := by
  obtain ⟨current, stands, synced, opened, isStatus, attempted⟩ := working
  exact ⟨current.withStatus next,
    stands.tellStep executionId timestamp step next error reason,
    synced.tellStep stands plan.unique atIndex executionId timestamp next error
      reason,
    ⟨opened.started, opened.unskipped, opened.unfailed⟩, rfl, attempted⟩

/-- Updates that change neither the records nor the machine. -/
theorem Working.same
    {core' : EngineCore}
    (working : Working plan core index status attempts)
    (sameSteps : core'.steps = core.steps)
    (sameRecords : core'.records = core.records) :
    Working plan core' index status attempts := by
  obtain ⟨current, stands, synced, opened, isStatus, attempted⟩ := working
  exact ⟨current, stands.sameRecords sameRecords,
    synced.sameRecords sameSteps sameRecords, opened, isStatus, attempted⟩

theorem Working.tell
    (working : Working plan core index status attempts)
    (executionId : Uuid)
    (timestamp : Nat)
    (kind : ProgressEventKind) :
    Working plan (core.tell executionId timestamp kind) index status attempts :=
  working.same rfl rfl

theorem Working.tellRun
    (working : Working plan core index status attempts)
    (executionId : Uuid)
    (timestamp : Nat)
    (run : WorkflowEngineRunStatus)
    (error : Option SafeExecutionError) :
    Working plan (core.tellRun executionId timestamp run error) index status
      attempts :=
  working.same rfl rfl

theorem Working.note
    (working : Working plan core index status attempts)
    (entry : HistoryEntry) :
    Working plan (core.note entry) index status attempts :=
  working.same rfl rfl

theorem Working.chosen
    (working : Working plan core index status attempts)
    (primary : PrimaryTermination) :
    Working plan (core.chosen primary) index status attempts :=
  working.same rfl rfl

theorem Working.tellBegun
    (working : Working plan core index status attempts)
    (executionId : Uuid)
    (step : WorkflowStep)
    (attempt : SafeStepAttempt) :
    Working plan (core.tellBegun executionId index step attempt) index status
      (some (attempts.getD [] ++ [attempt])) := by
  obtain ⟨current, stands, synced, opened, isStatus, attempted⟩ := working
  exact ⟨_, stands.tellBegun (by rw [attempted]) executionId step attempt,
    synced.tellBegun executionId step attempt,
    ⟨opened.started, opened.unskipped, opened.unfailed⟩, isStatus, rfl⟩

theorem Working.tellFinished
    {earlier : List SafeStepAttempt}
    {attempt : SafeStepAttempt}
    (working : Working plan core index status (some (earlier ++ [attempt])))
    (executionId : Uuid)
    (timestamp : Nat)
    (step : WorkflowStep)
    (next : StepAttemptStatus)
    (effectCertainty : ExecutionEffectCertainty)
    (retryAllowed : Bool)
    (error : Option SafeExecutionError) :
    Working plan
      (core.tellFinished executionId timestamp index step attempt next
        effectCertainty retryAllowed error)
      index status
      (some (earlier ++
        [finishedAttempt attempt next effectCertainty error timestamp])) := by
  obtain ⟨current, stands, synced, opened, isStatus, attempted⟩ := working
  exact ⟨_,
    stands.tellFinished attempted executionId timestamp step next
      effectCertainty retryAllowed error,
    synced.tellFinished executionId timestamp step attempt next
      effectCertainty retryAllowed error,
    ⟨opened.started, opened.unskipped, opened.unfailed⟩, isStatus, rfl⟩

theorem Working.finishRecord
    (working : Working plan core index status attempts)
    (finishedAtMs : Nat) :
    Working plan (core.finishRecord index finishedAtMs) index status
      attempts := by
  obtain ⟨current, stands, synced, opened, isStatus, attempted⟩ := working
  exact ⟨_, stands.finishRecord finishedAtMs,
    synced.finishRecord finishedAtMs,
    ⟨opened.started, opened.unskipped, opened.unfailed⟩, isStatus, attempted⟩

theorem Working.verifyRecord
    (working : Working plan core index status attempts)
    (verification : Option SafeVerificationResult) :
    Working plan (core.verifyRecord index verification) index status
      attempts := by
  obtain ⟨current, stands, synced, opened, isStatus, attempted⟩ := working
  exact ⟨_, stands.verifyRecord verification,
    synced.verifyRecord verification,
    ⟨opened.started, opened.unskipped, opened.unfailed⟩, isStatus, attempted⟩

theorem Working.attemptsAt
    (working : Working plan core index status attempts) :
    core.attemptsAt index = attempts.getD [] := by
  obtain ⟨current, stands, _, _, _, attempted⟩ := working
  rw [stands.attemptsAt, attempted]

/-- A step whose transition is listed may move. -/
theorem Working.allows
    {next : WorkflowEngineStepStatus}
    (working : Working plan core index status attempts)
    (atIndex : plan.steps[index]? = some step)
    (listed : next ∈ stepTransitions status) :
    core.steps.allows step.id next = true := by
  obtain ⟨current, stands, synced, _, isStatus, _⟩ := working
  exact synced.allows stands atIndex (isStatus ▸ listed)

/-- The step at the index of a ready run may be opened. -/
theorem Ready.allowsRunning
    (ready : Ready plan core index)
    (atIndex : plan.steps[index]? = some step) :
    core.steps.allows step.id .running = true := by
  have listed : WorkflowEngineStepStatus.running ∈ stepTransitions .pending := by
    decide
  exact ready.synced.allows (ready.between.atStep atIndex) atIndex listed

/-- Opening the step at the index of a ready run. -/
theorem Ready.open
    (ready : Ready plan core index)
    (atIndex : plan.steps[index]? = some step)
    (executionId : Uuid)
    (startedAtMs timestamp : Nat) :
    Working plan
      ((core.startRecord index startedAtMs).tellStep executionId timestamp
        index step .running none none)
      index .running none := by
  have created := ready.between.atStep atIndex
  have started := created.startRecord startedAtMs
  exact ⟨_, started.tellStep executionId timestamp step .running none none,
    (ready.synced.startRecord startedAtMs).tellStep started plan.unique
      atIndex executionId timestamp .running none none,
    ⟨rfl, rfl, rfl⟩, rfl, rfl⟩

/-- A step that succeeds together with its last attempt. -/
theorem Working.succeed
    {earlier : List SafeStepAttempt}
    {last : SafeStepAttempt}
    (working : Working plan core index status (some (earlier ++ [last])))
    (atIndex : plan.steps[index]? = some step)
    (history : AttemptHistory (earlier ++ [last]))
    (succeeded : last.status = .succeeded)
    (executionId : Uuid)
    (finishedAtMs timestamp : Nat) :
    Ready plan
      ((core.finishRecord index finishedAtMs).tellStep executionId timestamp
        index step .succeeded none none)
      (index + 1) := by
  obtain ⟨current, stands, synced, opened, isStatus, attempted⟩ := working
  have finished := stands.finishRecord finishedAtMs
  have closed :=
    finished.tellStep executionId timestamp step .succeeded none none
  refine ⟨closed.between ?_, ?_⟩
  · exact
      { opened := ⟨opened.started, opened.unskipped, opened.unfailed⟩
        succeeded := rfl
        finished := rfl
        attempted := ⟨earlier, last, attempted, history, succeeded⟩ }
  · exact (synced.finishRecord finishedAtMs).tellStep finished plan.unique
      atIndex executionId timestamp .succeeded none none

/-- A step that is closed as succeeded before its only attempt is finished. -/
theorem Working.succeedThenFinish
    {attempt : SafeStepAttempt}
    {effectCertainty : ExecutionEffectCertainty}
    (working : Working plan core index status (some [attempt]))
    (atIndex : plan.steps[index]? = some step)
    (executionId : Uuid)
    (finishedAtMs timestamp attemptFinishedAt : Nat)
    (history :
      AttemptHistory
        [finishedAttempt attempt .succeeded effectCertainty none
          attemptFinishedAt]) :
    Ready plan
      (((core.finishRecord index finishedAtMs).tellStep executionId timestamp
        index step .succeeded none none).tellFinished executionId
        attemptFinishedAt index step attempt .succeeded effectCertainty false
        none)
      (index + 1) := by
  obtain ⟨current, stands, synced, opened, isStatus, attempted⟩ := working
  have finished := stands.finishRecord finishedAtMs
  have closed :=
    finished.tellStep executionId timestamp step .succeeded none none
  have closedSynced :=
    (synced.finishRecord finishedAtMs).tellStep finished plan.unique atIndex
      executionId timestamp .succeeded none none
  have settled :=
    @AtStep.tellFinished _ _ _ _ [] _ closed attempted executionId
      attemptFinishedAt step .succeeded effectCertainty false none
  refine ⟨settled.between ?_, ?_⟩
  · exact
      { opened := ⟨opened.started, opened.unskipped, opened.unfailed⟩
        succeeded := rfl
        finished := rfl
        attempted := ⟨[], _, rfl, history, rfl⟩ }
  · exact closedSynced.tellFinished executionId attemptFinishedAt step attempt
      .succeeded effectCertainty false none

/-- A step at which the run ends. -/
theorem Working.end
    (working : Working plan core index status attempts)
    (atIndex : plan.steps[index]? = some step)
    (nonEmpty : attempts ≠ some [])
    (history : AttemptHistory (attempts.getD []))
    (executionId : Uuid)
    (finishedAtMs timestamp : Nat)
    (primary : PrimaryTermination) :
    Leaving plan.steps
        (((core.finishRecord index finishedAtMs).failRecord index
          primary.error).tellStep executionId timestamp index step
          (terminatedStepStatus primary.cause) (some primary.error) none)
        (some primary) index ∧
      Synced
        (((core.finishRecord index finishedAtMs).failRecord index
          primary.error).tellStep executionId timestamp index step
          (terminatedStepStatus primary.cause) (some primary.error) none) := by
  obtain ⟨current, stands, synced, opened, isStatus, attempted⟩ := working
  have finished := stands.finishRecord finishedAtMs
  have failed := finished.failRecord primary.error
  have closed :=
    failed.tellStep executionId timestamp step
      (terminatedStepStatus primary.cause) (some primary.error) none
  refine ⟨closed.leaving ?_, ?_⟩
  · exact
      { started := opened.started
        unskipped := opened.unskipped
        ended := rfl
        finished := rfl
        failed := rfl
        attempted := attempted ▸ history
        nonEmpty := attempted ▸ nonEmpty }
  · exact ((synced.finishRecord finishedAtMs).failRecord
      primary.error).tellStep failed plan.unique atIndex executionId timestamp
      (terminatedStepStatus primary.cause) (some primary.error) none

end WorkingOnStep

end TaskTwin.Engine
