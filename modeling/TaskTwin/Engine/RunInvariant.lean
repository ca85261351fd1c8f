import TaskTwin.Engine.RunShape

/-!
# Every step keeps the shape

One lemma for each step of the run model that works on a step of the
workflow, and the invariant of all reachable states.
-/

namespace TaskTwin.Engine

open Effect Schema Workflow Recovery

variable
    {dependencies : EngineDependencies}
    {executionId : Uuid}
    {plan : RunPlan dependencies}
    {core core' : EngineCore}
    {run run' : WorkflowEngineRunStatus}
    {index : Nat}
    {step : WorkflowStep}

theorem DeclaresOutputs.same
    (declares : DeclaresOutputs plan core)
    (same : core'.outputs.definitions = core.outputs.definitions) :
    DeclaresOutputs plan core' := by
  obtain ⟨prepared, executed, declared⟩ := declares
  exact ⟨prepared, executed, same.trans declared⟩

theorem Executing.moved
    (executing : Executing plan core run)
    (isRun : core'.run = run')
    (samePrimary : core'.primary = core.primary)
    (same : core'.outputs.definitions = core.outputs.definitions) :
    Executing plan core' run' :=
  ⟨isRun, samePrimary.trans executing.unended, executing.outputs.same same⟩

/-- Updates that leave the status of the run alone. -/
theorem Executing.same
    (executing : Executing plan core run)
    (sameRun : core'.run = core.run)
    (samePrimary : core'.primary = core.primary)
    (same : core'.outputs.definitions = core.outputs.definitions) :
    Executing plan core' run :=
  executing.moved (sameRun.trans executing.isRun) samePrimary same

@[simp] theorem EngineCore.verifyRecord_run
    (verification : Option SafeVerificationResult) :
    (core.verifyRecord index verification).run = core.run := by
  cases verification <;> rfl

@[simp] theorem EngineCore.verifyRecord_primary
    (verification : Option SafeVerificationResult) :
    (core.verifyRecord index verification).primary = core.primary := by
  cases verification <;> rfl

@[simp] theorem EngineCore.verifyRecord_outputs
    (verification : Option SafeVerificationResult) :
    (core.verifyRecord index verification).outputs = core.outputs := by
  cases verification <;> rfl

@[simp] theorem EngineCore.tellWarning_run
    (timestamp : Nat)
    (cleanupError : Option SafeExecutionError) :
    (core.tellWarning executionId timestamp cleanupError).run = core.run := by
  cases cleanupError <;> rfl

@[simp] theorem EngineCore.tellWarning_records
    (timestamp : Nat)
    (cleanupError : Option SafeExecutionError) :
    (core.tellWarning executionId timestamp cleanupError).records =
      core.records := by
  cases cleanupError <;> rfl

/-- An attempt that a running step begins. -/
theorem AttemptHistory.begins
    {attempts : Option (List SafeStepAttempt)}
    {trigger : RetryTrigger}
    {repairRequestId : Option Uuid}
    (may : MayBegin (attempts.getD []) trigger repairRequestId)
    (isAttempts : core.attemptsAt index = attempts.getD [])
    (startedAt : Nat) :
    AttemptHistory
      (attempts.getD [] ++
        [newAttempt core index trigger repairRequestId startedAt]) :=
  may.begun (by simp [newAttempt, isAttempts]) rfl rfl ⟨rfl, rfl, rfl⟩

theorem External.parses
    {primary : PrimaryTermination}
    (external : External primary) :
    primary.error.parses = true := by
  cases external <;> exact safeError_parses _

theorem EndsStart.parses
    {primary : PrimaryTermination}
    (ends : EndsStart primary) :
    primary.error.parses = true := by
  cases ends with
  | external external => exact external.parses
  | startFailed error => exact toSafeError_parses error .adapterStartFailed

variable
  {binding : ApprovalBinding}
  {attempt : SafeStepAttempt}
  {approval : ApprovalCoordinatorResult}
  {refusal : ApprovalRefusal}

theorem shape_approvalRequested
    {startedAtMs openedAt begunAt waitsAt runWaitsAt askedAt : Nat}
    {request : ApprovalCoordinatorRequest}
    {attempt : SafeStepAttempt}
    (shape : Shape plan ⟨.ready index, core⟩)
    (atIndex : plan.steps[index]? = some step)
    (openedCore :
      core' =
        (core.startRecord index startedAtMs).tellStep executionId openedAt
          index step .running none none)
    (isAttempt : attempt = newAttempt core' index .initial none begunAt) :
    Shape plan
      ⟨.awaitingApproval index binding attempt,
        ((((core'.tellBegun executionId index step attempt).tellStep
              executionId waitsAt index step .waitingForApproval none
              none).tellRun
            executionId runWaitsAt .waitingForApproval none).tellApproval
          executionId askedAt binding .pending none).note
          (.approvalRequested index request)⟩ := by
  obtain ⟨executing, ready⟩ := shape
  have opened := ready.open atIndex executionId startedAtMs openedAt
  have openedRun : Executing plan core' .running := by
    rw [openedCore]
    exact executing.same rfl rfl rfl
  rw [← openedCore] at opened
  have isList : core'.attemptsAt index = [] := opened.attemptsAt
  have history := @AttemptHistory.begins _ _ none _ _
    MayBegin.initial isList begunAt
  have begun := opened.tellBegun executionId step attempt
  have waiting :=
    begun.tellStep atIndex executionId waitsAt .waitingForApproval none none
  have asked :=
    ((waiting.tellRun executionId runWaitsAt .waitingForApproval none).tell
      executionId askedAt
      (.approvalStatusChanged binding.approvalStepId binding.gatedStepId
        binding.riskLevel .pending none)).note
      (.approvalRequested index request)
  rw [isAttempt]
  rw [isAttempt] at asked
  exact ⟨openedRun.moved rfl rfl rfl, history, asked⟩

theorem shape_approvalFailed
    {stepError : SafeExecutionError}
    {error : EngineError}
    {finishedAt : Nat}
    (shape : Shape plan ⟨.awaitingApproval index binding attempt, core⟩)
    (isStepError : stepError = toSafeError error .approvalRequestFailed) :
    Shape plan
      ⟨.closing index (.own (stepTermination step stepError)),
        (core.note (.approvalAnswered index (.error error))).tellFinished
          executionId finishedAt index step attempt
          (failedAttemptStatus stepError.code) .unknown false
          (some stepError)⟩ := by
  obtain ⟨executing, history, working⟩ := shape
  have answered := working.note (.approvalAnswered index (.error error))
  have finished :=
    @Working.tellFinished _ _ _ _ _ [] _ answered executionId finishedAt step
      (failedAttemptStatus stepError.code) .unknown false (some stepError)
  have finishedHistory :=
    @AttemptHistory.finished [] _ history _
      (failedAttemptStatus_ne_running stepError.code) .unknown
      (some stepError) finishedAt
  have inStep : InStep core.run .waitingForApproval := by
    rw [executing.isRun]
    exact .waitingForApproval
  have errorParses : stepError.parses = true := by
    rw [isStepError]
    exact toSafeError_parses error .approvalRequestFailed
  exact ⟨⟨executing.unended, executing.outputs.same rfl, _, _, inStep, finished,
    by simp, finishedHistory⟩, errorParses⟩

theorem shape_approvalGranted
    {ranAt finishedAtMs succeededAt attemptFinishedAt : Nat}
    (shape : Shape plan ⟨.awaitingApproval index binding attempt, core⟩)
    (atIndex : plan.steps[index]? = some step) :
    Shape plan
      ⟨.ready (index + 1),
        ((((core.approvalTold executionId index binding approval).tellRun
                executionId ranAt .running none).finishRecord
              index finishedAtMs).tellStep executionId succeededAt index
            step .succeeded none none).tellFinished
          executionId attemptFinishedAt index step attempt .succeeded
          .completed false none⟩ := by
  obtain ⟨executing, history, working⟩ := shape
  have answered := working.note (.approvalAnswered index (.ok approval))
  have told :=
    (answered.tell executionId approval.decidedAt
      (.approvalStatusChanged binding.approvalStepId binding.gatedStepId
        binding.riskLevel approval.decision.status
        (some approval.decision))).tellRun executionId ranAt .running none
  have finishedHistory :=
    @AttemptHistory.finished [] _ history
      .succeeded (by decide) .completed none attemptFinishedAt
  have ready :=
    told.succeedThenFinish atIndex executionId finishedAtMs succeededAt
      attemptFinishedAt finishedHistory
  exact ⟨executing.moved rfl rfl rfl, ready⟩

variable {primary : PrimaryTermination} {finishedAt : Nat}

/-- A granted approval that comes after the end of the run was chosen. -/
theorem shape_approvalOverruled
    (shape : Shape plan ⟨.awaitingApproval index binding attempt, core⟩)
    (external : External primary) :
    Shape plan
      ⟨.closing index (.chosen primary),
        (core.approvalTold executionId index binding
          approval).chosen primary⟩ := by
  obtain ⟨executing, history, working⟩ := shape
  have answered :=
    ((working.note (.approvalAnswered index (.ok approval))).tell executionId
      approval.decidedAt
      (.approvalStatusChanged binding.approvalStepId binding.gatedStepId
        binding.riskLevel approval.decision.status
        (some approval.decision))).chosen primary
  have inStep : InStep core.run .waitingForApproval := by
    rw [executing.isRun]
    exact .waitingForApproval
  exact ⟨⟨rfl, executing.outputs.same rfl, _, _, inStep, answered, by simp,
    history⟩, external.parses⟩

@[simp] theorem ApprovalRefusal.attemptStatus_ne_running
    {decision : ApprovalDecision}
    {refusal : ApprovalRefusal}
    (refused : approvalRefusal decision = some refusal) :
    refusal.attemptStatus ≠ .running := by
  cases decision <;> cases refused <;> simp

theorem shape_approvalRefused
    (shape : Shape plan ⟨.awaitingApproval index binding attempt, core⟩)
    (refused : approvalRefusal approval.decision = some refusal) :
    Shape plan
      ⟨.closing index (.own (refusal.termination step)),
        (core.approvalTold executionId index binding approval).tellFinished
          executionId finishedAt index step attempt refusal.attemptStatus
          .readOnly false (some (safeError refusal.code))⟩ := by
  obtain ⟨executing, history, working⟩ := shape
  have answered :=
    (working.note (.approvalAnswered index (.ok approval))).tell executionId
      approval.decidedAt
      (.approvalStatusChanged binding.approvalStepId binding.gatedStepId
        binding.riskLevel approval.decision.status (some approval.decision))
  have finished :=
    @Working.tellFinished _ _ _ _ _ [] _ answered executionId finishedAt step
      refusal.attemptStatus .readOnly false (some (safeError refusal.code))
  have finishedHistory :=
    @AttemptHistory.finished [] _ history _
      (ApprovalRefusal.attemptStatus_ne_running refused) .readOnly
      (some (safeError refusal.code)) finishedAt
  have inStep : InStep core.run .waitingForApproval := by
    rw [executing.isRun]
    exact .waitingForApproval
  exact ⟨⟨executing.unended, executing.outputs.same rfl, _, _, inStep, finished,
    by simp, finishedHistory⟩, safeError_parses refusal.code⟩

theorem shape_approvalRefusedLate
    (shape : Shape plan ⟨.awaitingApproval index binding attempt, core⟩)
    (refused : approvalRefusal approval.decision = some refusal)
    (external : External primary) :
    Shape plan
      ⟨.closing index (.chosen primary),
        ((core.approvalTold executionId index binding approval).chosen
          primary).tellFinished
          executionId finishedAt index step attempt refusal.attemptStatus
          .readOnly false (some (safeError refusal.code))⟩ := by
  obtain ⟨executing, history, working⟩ := shape
  have answered :=
    ((working.note (.approvalAnswered index (.ok approval))).tell executionId
      approval.decidedAt
      (.approvalStatusChanged binding.approvalStepId binding.gatedStepId
        binding.riskLevel approval.decision.status
        (some approval.decision))).chosen primary
  have finished :=
    @Working.tellFinished _ _ _ _ _ [] _ answered executionId finishedAt step
      refusal.attemptStatus .readOnly false (some (safeError refusal.code))
  have finishedHistory :=
    @AttemptHistory.finished [] _ history _
      (ApprovalRefusal.attemptStatus_ne_running refused) .readOnly
      (some (safeError refusal.code)) finishedAt
  have inStep : InStep core.run .waitingForApproval := by
    rw [executing.isRun]
    exact .waitingForApproval
  exact ⟨⟨rfl, executing.outputs.same rfl, _, _, inStep, finished, by simp,
    finishedHistory⟩, external.parses⟩

theorem shape_endedBeforeAttempt
    {trigger : RetryTrigger}
    {repairRequestId : Option Uuid}
    {primary : PrimaryTermination}
    (shape : Shape plan ⟨.attempting index trigger repairRequestId, core⟩)
    (external : External primary) :
    Shape plan ⟨.closing index (.chosen primary), core.chosen primary⟩ := by
  obtain ⟨executing, attempts, working, nonEmpty, may⟩ := shape
  have inStep : InStep core.run .running := by
    rw [executing.isRun]
    exact .running
  exact ⟨⟨rfl, executing.outputs.same rfl, _, _, inStep, working.chosen primary,
    nonEmpty, may.history⟩, external.parses⟩

theorem shape_attemptBegun
    {trigger : RetryTrigger}
    {repairRequestId : Option Uuid}
    {attempt : SafeStepAttempt}
    {context : AdapterStepContext}
    {startedAt : Nat}
    (shape : Shape plan ⟨.attempting index trigger repairRequestId, core⟩)
    (isAttempt :
      attempt = newAttempt core index trigger repairRequestId startedAt) :
    Shape plan
      ⟨.executing index attempt,
        (core.tellBegun executionId index step attempt).note
          (.stepExecuted context)⟩ := by
  obtain ⟨executing, attempts, working, nonEmpty, may⟩ := shape
  have history := AttemptHistory.begins may working.attemptsAt startedAt
  have begun :=
    (working.tellBegun executionId step attempt).note (.stepExecuted context)
  rw [← isAttempt] at history
  exact ⟨executing.same rfl rfl rfl, _, history, begun⟩

variable {attempt : SafeStepAttempt} {failure : AttemptFailure}

/-- The answer of the adapter changes the verification of the record only. -/
theorem shape_answered
    {failure : Option AttemptFailure}
    {answer : Except EngineError AdapterStepOutput}
    (shape : Shape plan ⟨.executing index attempt, core⟩)
    (verification : Option SafeVerificationResult)
    (failureParses :
      ∀ failed, failure = some failed → failed.error.parses = true) :
    Shape plan
      ⟨.judging index attempt failure,
        (core.note (.stepAnswered index answer)).verifyRecord index
          verification⟩ := by
  obtain ⟨executing, attempts, history, working⟩ := shape
  have answered :=
    (working.note (.stepAnswered index answer)).verifyRecord verification
  have still :
      Executing plan
        ((core.note (.stepAnswered index answer)).verifyRecord index
          verification)
        .running := by
    apply executing.same
    · simp [EngineCore.note]
    · simp [EngineCore.note]
    · simp [EngineCore.note]
  exact ⟨still, failureParses, attempts, history, answered⟩

theorem shape_outputProduced
    {definition : WorkflowOutputDefinition}
    {attempt : SafeStepAttempt}
    {outputs : RuntimeOutputStore}
    {output : AdapterStepOutput}
    {value : RuntimeOutputValue}
    {timestamp : Nat}
    {kind : ProgressEventKind}
    (shape : Shape plan ⟨.executing index attempt, core⟩)
    (stored :
      core.outputs.set definition.name definition.valueType value =
        .ok outputs) :
    Shape plan
      ⟨.judging index attempt none,
        (((core.note (.stepAnswered index (.ok output))).verifyRecord index
              output.verification).setOutputs outputs).tell
          executionId timestamp kind⟩ := by
  obtain ⟨executing, failureParses, attempts, history, working⟩ :=
    @shape_answered _ _ _ _ _ none (.ok output) shape
      output.verification (by simp)
  have sameDefinitions := RuntimeOutputStore.set_definitions stored
  have produced :
      Working plan
        ((((core.note (.stepAnswered index (.ok output))).verifyRecord index
              output.verification).setOutputs outputs).tell executionId
          timestamp kind)
        index .running (some (attempts ++ [attempt])) :=
    working.same rfl rfl
  refine ⟨executing.same rfl rfl ?_, failureParses, attempts, history,
    produced⟩
  rw [EngineCore.verifyRecord_outputs]
  exact sameDefinitions

theorem shape_attemptSucceeded
    {finishedAt : Nat}
    (shape : Shape plan ⟨.judging index attempt none, core⟩) :
    Shape plan
      ⟨.closing index .succeeded,
        core.tellFinished executionId finishedAt index step attempt .succeeded
          .completed false none⟩ := by
  obtain ⟨executing, failureParses, attempts, history, working⟩ := shape
  have finished :=
    working.tellFinished executionId finishedAt step .succeeded .completed
      false none
  have finishedHistory :=
    @AttemptHistory.finished _ _ history .succeeded (by decide) .completed none
      finishedAt
  exact ⟨executing.same rfl rfl rfl, attempts, _, finishedHistory, rfl,
    finished⟩

@[simp] theorem triggerCount_finished
    (trigger : RetryTrigger)
    (attempts : List SafeStepAttempt)
    (attempt : SafeStepAttempt)
    (status : StepAttemptStatus)
    (effectCertainty : ExecutionEffectCertainty)
    (error : Option SafeExecutionError)
    (finishedAt : Nat) :
    triggerCount trigger
        (attempts ++
          [finishedAttempt attempt status effectCertainty error finishedAt]) =
      triggerCount trigger (attempts ++ [attempt]) := by
  simp only [triggerCount_append, finishedAttempt]

/-- The history after a failed attempt was finished. -/
theorem AttemptHistory.failed
    {attempts : List SafeStepAttempt}
    {attempt : SafeStepAttempt}
    (history : AttemptHistory (attempts ++ [attempt]))
    (failure : AttemptFailure)
    (finishedAt : Nat) :
    AttemptHistory
      (attempts ++
        [finishedAttempt attempt (failedAttemptStatus failure.error.code)
          failure.effectCertainty (some failure.error) finishedAt]) :=
  history.finished (failedAttemptStatus_ne_running failure.error.code)
    failure.effectCertainty (some failure.error) finishedAt

theorem Working.tellFailed
    {earlier : List SafeStepAttempt}
    {attempt : SafeStepAttempt}
    {status : WorkflowEngineStepStatus}
    (working : Working plan core index status (some (earlier ++ [attempt])))
    (executionId : Uuid)
    (timestamp : Nat)
    (step : WorkflowStep)
    (failure : AttemptFailure)
    (retryAllowed : Bool) :
    Working plan
      (core.tellFailed executionId timestamp index step attempt failure
        retryAllowed)
      index status
      (some (earlier ++
        [finishedAttempt attempt (failedAttemptStatus failure.error.code)
          failure.effectCertainty (some failure.error) timestamp])) :=
  working.tellFinished executionId timestamp step _ _ retryAllowed _

theorem shape_attemptRetried
    {prepared : PreparedWorkflowExecution dependencies}
    {attempt : SafeStepAttempt}
    {failure : AttemptFailure}
    {decision : RetryPolicyDecision}
    {finishedAt : Nat}
    (shape : Shape plan ⟨.judging index attempt (some failure), core⟩)
    (decided :
      decision =
        decideRetry
          (retryPolicyInput prepared step failure (core.attemptsAt index)))
    (retries : decision.disposition = .automaticRetry) :
    Shape plan
      ⟨.attempting index .automaticRetry none,
        core.tellFailed executionId finishedAt index step attempt failure
          decision.retryAllowed⟩ := by
  obtain ⟨executing, failureParses, attempts, history, working⟩ := shape
  have finished :=
    working.tellFailed executionId finishedAt step failure decision.retryAllowed
  have finishedHistory := history.failed failure finishedAt
  have reason :=
    decideRetry_reason
      (retryPolicyInput prepared step failure (core.attemptsAt index))
  rw [← decided, retries, working.attemptsAt] at reason
  cases reason with
  | automaticRetry ungated readOnly below admitted first =>
      have may :
          MayBegin
            (attempts ++
              [finishedAttempt attempt
                (failedAttemptStatus failure.error.code)
                failure.effectCertainty (some failure.error) finishedAt])
            .automaticRetry none := by
        constructor
        case history => exact finishedHistory
        case below =>
          have short : (attempts ++ [attempt]).length < maxTotalAttempts :=
            below
          simpa using short
        case first => simp
        case automatic =>
          intro _
          rw [triggerCount_finished]
          exact first
        case manual => simp
        case repaired => simp
      exact ⟨executing.same rfl rfl rfl, _, finished, by simp, may⟩

theorem finalStepError_parses
    {disposition : RetryDisposition}
    {stepError : SafeExecutionError}
    (failureParses : failure.error.parses = true)
    (final : finalStepError failure disposition = some stepError) :
    stepError.parses = true := by
  cases disposition <;> cases final
  · exact failureParses
  · exact safeError_parses _

theorem shape_attemptFailed
    {decision : RetryPolicyDecision}
    {stepError : SafeExecutionError}
    {finishedAt : Nat}
    (shape : Shape plan ⟨.judging index attempt (some failure), core⟩)
    (final : finalStepError failure decision.disposition = some stepError) :
    Shape plan
      ⟨.closing index (.own (stepTermination step stepError)),
        core.tellFailed executionId finishedAt index step attempt failure
          decision.retryAllowed⟩ := by
  obtain ⟨executing, failureParses, attempts, history, working⟩ := shape
  have finished :=
    working.tellFailed executionId finishedAt step failure decision.retryAllowed
  have finishedHistory := history.failed failure finishedAt
  have errorParses := finalStepError_parses (failureParses failure rfl) final
  have inStep : InStep core.run .running := by
    rw [executing.isRun]
    exact .running
  exact ⟨⟨executing.unended, executing.outputs.same rfl, _, _, inStep, finished,
    by simp, finishedHistory⟩, errorParses⟩

theorem shape_repairRequested
    {prepared : PreparedWorkflowExecution dependencies}
    {attempt : SafeStepAttempt}
    {failure : AttemptFailure}
    {decision : RetryPolicyDecision}
    {proposalOnly : Bool}
    {request : RecoveryCoordinatorRequest}
    {finishedAt waitsAt runWaitsAt : Nat}
    (shape : Shape plan ⟨.judging index attempt (some failure), core⟩)
    (atIndex : plan.steps[index]? = some step)
    (decided :
      decision =
        decideRetry
          (retryPolicyInput prepared step failure (core.attemptsAt index)))
    (repairs : repairDisposition decision.disposition = some proposalOnly) :
    Shape plan
      ⟨.awaitingRepair index attempt failure proposalOnly,
        (((core.tellFailed executionId finishedAt index step attempt failure
          decision.retryAllowed).tellStep
              executionId waitsAt index step .waitingForRepair none
              none).tellRun
            executionId runWaitsAt .waitingForRepair none).note
          (.repairRequested request)⟩ := by
  obtain ⟨executing, failureParses, attempts, history, working⟩ := shape
  have finished :=
    working.tellFailed executionId finishedAt step failure decision.retryAllowed
  have finishedHistory := history.failed failure finishedAt
  have waiting :=
    ((finished.tellStep atIndex executionId waitsAt .waitingForRepair none
      none).tellRun executionId runWaitsAt .waitingForRepair none).note
      (.repairRequested request)
  have reason :=
    decideRetry_reason
      (retryPolicyInput prepared step failure (core.attemptsAt index))
  rw [← decided, working.attemptsAt] at reason
  have limits :
      (attempts ++ [attempt]).length < maxTotalAttempts ∧
        (proposalOnly = false →
          triggerCount .manualRetry (attempts ++ [attempt]) <
            maxManualRetries) := by
    generalize decision.disposition = disposition at reason repairs
    cases reason <;> cases repairs
    case manualRepair ungated safe below manual first =>
      exact ⟨below, fun _ => first⟩
    case locatorProposal ungated safe below proposals locator =>
      exact ⟨below, by simp⟩
  refine ⟨executing.moved rfl rfl rfl, _, finishedHistory, by simp, ?_, ?_, ?_,
    waiting⟩
  · simpa using history.lastNumber.symm
  · simpa using limits.1
  · rw [triggerCount_finished]
    exact limits.2

variable
  {attempt : SafeStepAttempt}
  {failure : AttemptFailure}
  {proposalOnly : Bool}

theorem shape_repairFailed
    {error : EngineError}
    (shape :
      Shape plan ⟨.awaitingRepair index attempt failure proposalOnly, core⟩) :
    Shape plan
      ⟨.closing index
          (.own (stepTermination step (safeError .recoveryRequestFailed))),
        core.note
          (.repairAnswered index attempt.attemptNumber (.error error))⟩ := by
  obtain ⟨executing, attempts, history, nonEmpty, _, _, _, working⟩ := shape
  have answered :=
    working.note (.repairAnswered index attempt.attemptNumber (.error error))
  have inStep : InStep core.run .waitingForRepair := by
    rw [executing.isRun]
    exact .waitingForRepair
  have present : some attempts ≠ some [] := by simpa using nonEmpty
  exact ⟨⟨executing.unended, executing.outputs.same rfl, _, _, inStep, answered,
    present, history⟩, safeError_parses .recoveryRequestFailed⟩

variable {primary : PrimaryTermination} {repair : RecoveryCoordinatorResult}

theorem shape_repairRetried
    {ranAt steppedAt : Nat}
    (shape : Shape plan ⟨.awaitingRepair index attempt failure false, core⟩)
    (atIndex : plan.steps[index]? = some step) :
    Shape plan
      ⟨.attempting index .manualRetry (some repair.repairRequestId),
        ((core.repairTold executionId index step attempt failure false
          repair).tellRun
            executionId ranAt .running none).tellStep
          executionId steppedAt index step .running none none⟩ := by
  obtain ⟨executing, attempts, history, nonEmpty, _, below, first, working⟩ :=
    shape
  have answered :=
    (working.note
      (.repairAnswered index attempt.attemptNumber (.ok repair))).tell
      executionId repair.decidedAt
      (.repairStatusChanged step.id attempt.attemptNumber
        repair.decision.status failure.error.code failure.effectCertainty
        (!false && repair.decision == .retry))
  have resumed :=
    (answered.tellRun executionId ranAt .running none).tellStep atIndex
      executionId steppedAt .running none none
  have present : some attempts ≠ some [] := by simpa using nonEmpty
  have may :
      MayBegin attempts .manualRetry (some repair.repairRequestId) := by
    constructor
    case history => exact history
    case below => exact below
    case first => simp [nonEmpty]
    case automatic => simp
    case manual =>
      intro _
      exact first rfl
    case repaired => simp
  exact ⟨executing.moved rfl rfl rfl, _, resumed, present, may⟩

theorem shape_repairEnded
    {cause : RacingTerminationCause}
    {code : ExecutionErrorCode}
    {repair : RecoveryCoordinatorResult}
    (shape :
      Shape plan ⟨.awaitingRepair index attempt failure proposalOnly, core⟩) :
    Shape plan
      ⟨.closing index
          (.own { cause, error := safeError code, stepId := some step.id }),
        core.repairTold executionId index step attempt failure proposalOnly
          repair⟩ := by
  obtain ⟨executing, attempts, history, nonEmpty, _, _, _, working⟩ := shape
  have answered :=
    (working.note
      (.repairAnswered index attempt.attemptNumber (.ok repair))).tell
      executionId repair.decidedAt
      (.repairStatusChanged step.id attempt.attemptNumber
        repair.decision.status failure.error.code failure.effectCertainty
        (!proposalOnly && repair.decision == .retry))
  have inStep : InStep core.run .waitingForRepair := by
    rw [executing.isRun]
    exact .waitingForRepair
  have present : some attempts ≠ some [] := by simpa using nonEmpty
  exact ⟨⟨executing.unended, executing.outputs.same rfl, _, _, inStep, answered,
    present, history⟩, safeError_parses code⟩

theorem shape_repairOverruled
    (shape :
      Shape plan ⟨.awaitingRepair index attempt failure proposalOnly, core⟩)
    (external : External primary) :
    Shape plan
      ⟨.closing index (.chosen primary),
        (core.repairTold executionId index step attempt failure proposalOnly
          repair).chosen primary⟩ := by
  obtain ⟨executing, attempts, history, nonEmpty, _, _, _, working⟩ := shape
  have answered :=
    ((working.note
      (.repairAnswered index attempt.attemptNumber (.ok repair))).tell
      executionId repair.decidedAt
      (.repairStatusChanged step.id attempt.attemptNumber
        repair.decision.status failure.error.code failure.effectCertainty
        (!proposalOnly && repair.decision == .retry))).chosen primary
  have inStep : InStep core.run .waitingForRepair := by
    rw [executing.isRun]
    exact .waitingForRepair
  have present : some attempts ≠ some [] := by simpa using nonEmpty
  exact ⟨⟨rfl, executing.outputs.same rfl, _, _, inStep, answered, present,
    history⟩, external.parses⟩

/-- A step whose last attempt succeeded can still be where the run ends. -/
theorem Closable.of_succeeded
    (shape : Shape plan ⟨.closing index .succeeded, core⟩) :
    Closable plan core index none := by
  obtain ⟨executing, attempts, last, history, _, working⟩ := shape
  have inStep : InStep core.run .running := by
    rw [executing.isRun]
    exact .running
  exact ⟨executing.unended, executing.outputs, _, _, inStep, working, by simp,
    history⟩

theorem Closable.chosen
    (closable : Closable plan core index none)
    (primary : PrimaryTermination) :
    Closable plan (core.chosen primary) index (some primary) := by
  obtain ⟨_, outputs, status, attempts, inStep, working, nonEmpty, history⟩ :=
    closable
  exact ⟨rfl, outputs.same rfl, status, attempts, inStep,
    working.chosen primary, nonEmpty, history⟩

theorem Closable.close
    (closable : Closable plan core index (some primary))
    (atIndex : plan.steps[index]? = some step)
    (errorParses : primary.error.parses = true)
    (executionId : Uuid)
    (finishedAtMs timestamp : Nat) :
    Shape plan
      ⟨.skipping (.terminated primary),
        ((core.finishRecord index finishedAtMs).failRecord index
            primary.error).tellStep
          executionId timestamp index step
          (terminatedStepStatus primary.cause) (some primary.error) none⟩ := by
  obtain ⟨isPrimary, outputs, status, attempts, inStep, working, nonEmpty,
    history⟩ := closable
  obtain ⟨leaving, synced⟩ :=
    working.end atIndex nonEmpty history executionId finishedAtMs timestamp
      primary
  exact ⟨announcedStatus_of_inStep inStep primary,
    { isPrimary
      outputs := outputs.same rfl
      errorParses
      leaving := ⟨index, leaving⟩
      synced }⟩

theorem shape_closedByChoice
    {closing : Closing}
    {primary : PrimaryTermination}
    {finishedAtMs timestamp : Nat}
    (shape : Shape plan ⟨.closing index closing, core⟩)
    (atIndex : plan.steps[index]? = some step)
    (closes : Closes closing primary) :
    Shape plan
      ⟨.skipping (.terminated primary),
        (((core.chosen primary).finishRecord index finishedAtMs).failRecord
            index primary.error).tellStep
          executionId timestamp index step
          (terminatedStepStatus primary.cause) (some primary.error) none⟩ := by
  have closable :
      Closable plan core index none ∧ primary.error.parses = true := by
    cases closes with
    | afterSuccess external =>
        exact ⟨Closable.of_succeeded shape, external.parses⟩
    | overruled external => exact ⟨shape.1, external.parses⟩
    | own => exact shape
  exact (closable.1.chosen primary).close atIndex closable.2 executionId
    finishedAtMs timestamp

theorem Synced.skip
    {position : Nat}
    (synced : Synced core)
    (declared : core.records.map ExecutionStepRecord.step = plan.steps)
    (atIndex : plan.steps[position]? = some step)
    (executionId : Uuid)
    (finishedAtMs timestamp : Nat)
    (reason : SkippedStepReason) :
    Synced
      ((core.skipRecord position finishedAtMs reason).tellStep executionId
        timestamp position step .skipped none (some reason)) := by
  have skipped : Synced (core.skipRecord position finishedAtMs reason) :=
    synced.update
      (fun record =>
        { record with
          skippedReason := some reason
          finishedAtMs := some finishedAtMs })
      (fun _ => rfl) (fun _ => rfl) rfl rfl
  have skippedDeclared :
      (core.skipRecord position finishedAtMs reason).records.map
          ExecutionStepRecord.step =
        plan.steps := by
    rw [← declared]
    exact modify_steps fun _ => rfl
  have mapped := congrArg (fun list => list[position]?) skippedDeclared
  simp only [List.getElem?_map, atIndex, Option.map_eq_some_iff] at mapped
  obtain ⟨record, found, isStep⟩ := mapped
  exact skipped.move plan.unique skippedDeclared found .skipped
    (·.withStatus .skipped) (fun _ => rfl) (fun _ => rfl) (isStep ▸ rfl) rfl

theorem shape_skipped
    {skipping : Skipping}
    {finishedAtMs timestamp : Nat}
    (shape : Shape plan ⟨.skipping skipping, core⟩)
    (atIndex : plan.steps[index]? = some step)
    (isPending :
      core.records[index]?.map ExecutionStepRecord.status = some .pending) :
    Shape plan
      ⟨.skipping skipping,
        (core.skipRecord index finishedAtMs skipping.reason).tellStep
          executionId timestamp index step .skipped none
          (some skipping.reason)⟩ := by
  cases skipping with
  | early status cause error =>
      obtain ⟨unended, announces, errorParses, leaving, synced⟩ := shape
      exact ⟨unended, announces, errorParses,
        leaving.skip executionId finishedAtMs timestamp _ isPending,
        synced.skip leaving.declared atIndex executionId finishedAtMs timestamp
          _⟩
  | terminated primary =>
      obtain ⟨announces, isPrimary, outputs, errorParses, ⟨position, leaving⟩,
        synced⟩ := shape
      exact ⟨announces,
        { isPrimary
          outputs := outputs.same rfl
          errorParses
          leaving :=
            ⟨position,
              leaving.skip executionId finishedAtMs timestamp _ isPending⟩
          synced :=
            synced.skip leaving.declared atIndex executionId finishedAtMs
              timestamp _ }⟩

/-- The records of a run that has gone through all of its steps. -/
theorem Ready.nonePending
    (ready : Ready plan core plan.steps.length) :
    NonePending core := by
  intro record listed
  obtain ⟨position, found⟩ := List.mem_iff_getElem?.mp listed
  have inside := (List.getElem?_eq_some_iff.mp found).1
  rw [← List.length_map (f := ExecutionStepRecord.step),
    ready.between.declared] at inside
  have done := ready.between.before position record inside found
  simp [done.succeeded]

theorem Ready.sameRecords
    (ready : Ready plan core index)
    (sameSteps : core'.steps = core.steps)
    (sameRecords : core'.records = core.records) :
    Ready plan core' index :=
  ⟨ready.between.sameRecords sameRecords,
    ready.synced.sameRecords sameSteps sameRecords⟩

variable {primary : PrimaryTermination}

theorem Over.same
    (isOver : Over plan core primary)
    (samePrimary : core'.primary = core.primary)
    (sameSteps : core'.steps = core.steps)
    (sameRecords : core'.records = core.records)
    (sameDefinitions :
      core'.outputs.definitions = core.outputs.definitions) :
    Over plan core' primary := by
  obtain ⟨isPrimary, outputs, errorParses, ⟨position, leaving⟩, synced⟩ := isOver
  exact
    { isPrimary := samePrimary.trans isPrimary
      outputs := outputs.same sameDefinitions
      errorParses
      leaving := ⟨position, leaving.sameRecords sameRecords⟩
      synced := synced.sameRecords sameSteps sameRecords }

/-- Ending a run before any of its steps. -/
theorem Ready.isOver
    (ready : Ready plan core index)
    (outputs : DeclaresOutputs plan core)
    (errorParses : primary.error.parses = true) :
    Over plan (core.chosen primary) primary :=
  { isPrimary := rfl
    outputs := outputs.same rfl
    errorParses
    leaving :=
      ⟨index, (ready.between.leaving (some primary)).sameRecords rfl⟩
    synced := ready.synced.sameRecords rfl rfl }

theorem announcedStatus_of_starting
    (ends : EndsStart primary) :
    announcedStatus primary ∈ runTransitions .starting := by
  cases ends with
  | external external => cases external <;> decide
  | startFailed error =>
      simp [announcedStatus, cancelsRun, terminalStatusFor,
        TerminalRunStatus.runStatus, runTransitions]

theorem announcedStatus_of_running
    (external : External primary) :
    announcedStatus primary ∈ runTransitions .running := by
  cases external <;> decide

/-- The records that steps are created with. -/
theorem Ready.created (core : EngineCore) :
    Ready plan (core.createSteps plan.workflow) 0 := by
  refine ⟨⟨Nat.zero_le _, ?_, by simp, ?_⟩, Synced.createSteps core _⟩
  · cases workflow : plan.workflow with
    | none =>
        simp [EngineCore.createSteps, createRecords, RunPlan.steps,
          declaredSteps, workflow]
    | some declared =>
        simp [EngineCore.createSteps, createRecords, RunPlan.steps,
          declaredSteps, workflow, Function.comp_def,
          ExecutionStepRecord.create]
  · intro later record _ found
    have listed := List.mem_of_getElem? found
    cases workflow : plan.workflow with
    | none =>
        simp [EngineCore.createSteps, createRecords, workflow] at listed
    | some declared =>
        simp only [EngineCore.createSteps, createRecords, workflow,
          List.mem_map] at listed
        obtain ⟨step, _, rfl⟩ := listed
        rfl

theorem shape_step
    {state state' : RunState}
    (shape : Shape plan state)
    (stepped : RunStep executionId plan state state') :
    Shape plan state' := by
  cases stepped with
  | announced timestamp => exact shape
  | leftUnvalidated =>
      exact ⟨Or.inl shape.1, shape.2, Ready.created _, Nat.zero_le _⟩
  | validated timestamp => exact ⟨rfl, shape.2⟩
  | stepsCreated =>
      exact ⟨Or.inr shape.1, shape.2, Ready.created _, Nat.zero_le _⟩
  | initialized timestamp atNext =>
      obtain ⟨isRun, unended, ready, _⟩ := shape
      exact ⟨isRun, unended, ready.sameRecords rfl rfl,
        (List.getElem?_eq_some_iff.mp atNext).1⟩
  | cancelledEarly timestamp =>
      obtain ⟨_, unended, ready, _⟩ := shape
      have announces :
          TerminalRunStatus.cancelled.runStatus ∈
            runTransitions .cancelling := by
        decide
      exact ⟨unended, announces, safeError_parses _,
        (ready.between.leaving none).sameRecords rfl,
        ready.synced.sameRecords rfl rfl⟩
  | rejected error discarded isValidating errorParses =>
      obtain ⟨_, unended, ready, _⟩ := shape
      exact ⟨unended, by rw [isValidating]; decide, errorParses,
        ready.between.leaving none, ready.synced⟩
  | started timestamp executed isValidating =>
      obtain ⟨_, unended, ready, _⟩ := shape
      exact ⟨⟨rfl, unended, _, executed, rfl⟩, ready.sameRecords rfl rfl⟩
  | ran timestamp =>
      obtain ⟨executing, ready⟩ := shape
      exact ⟨executing.moved rfl rfl rfl, ready.sameRecords rfl rfl⟩
  | endedAtStart ends =>
      obtain ⟨executing, ready⟩ := shape
      have announces := announcedStatus_of_starting ends
      rw [← executing.isRun] at announces
      exact ⟨announces, ready.isOver executing.outputs ends.parses⟩
  | endedBetweenSteps remains external =>
      obtain ⟨executing, ready⟩ := shape
      have announces := announcedStatus_of_running external
      rw [← executing.isRun] at announces
      exact ⟨announces, ready.isOver executing.outputs external.parses⟩
  | opened startedAtMs timestamp atIndex isAction =>
      obtain ⟨executing, ready⟩ := shape
      exact ⟨executing.same rfl rfl rfl, none,
        ready.open atIndex executionId startedAtMs timestamp, by simp,
        MayBegin.initial⟩
  | approvalRequested startedAtMs openedAt begunAt waitsAt runWaitsAt askedAt
      request executed atIndex isApproval bound openedCore isAttempt =>
      exact shape_approvalRequested shape atIndex openedCore isAttempt
  | approvalFailed error finishedAt atIndex isStepError =>
      exact shape_approvalFailed shape isStepError
  | approvalGranted approval ranAt finishedAtMs succeededAt attemptFinishedAt
      atIndex approved =>
      exact shape_approvalGranted shape atIndex
  | approvalOverruled approval approved external =>
      exact shape_approvalOverruled shape external
  | approvalRefused approval finishedAt atIndex refused =>
      exact shape_approvalRefused shape refused
  | approvalRefusedLate approval finishedAt atIndex refused external =>
      exact shape_approvalRefusedLate shape refused external
  | endedBeforeAttempt external => exact shape_endedBeforeAttempt shape external
  | attemptBegun context startedAt atIndex isAttempt ofStep ofAttempt =>
      exact shape_attemptBegun shape isAttempt
  | adapterThrew error =>
      refine shape_answered shape error.verification ?_
      rintro failed ⟨rfl⟩
      exact toSafeError_parses error .actionFailed
  | outputRefused output refuses =>
      refine shape_answered shape output.verification ?_
      rintro failed ⟨rfl⟩
      cases refuses with
      | refused code effectCertainty ordinary => exact safeError_parses code
  | adapterAnswered output atIndex noOutput =>
      exact shape_answered shape output.verification (by simp)
  | outputProduced output value timestamp atIndex defined stored =>
      exact shape_outputProduced shape stored
  | attemptSucceeded finishedAt atIndex => exact shape_attemptSucceeded shape
  | attemptRetried finishedAt executed atIndex decided retries =>
      exact shape_attemptRetried shape decided retries
  | attemptFailed finishedAt executed atIndex decided final =>
      exact shape_attemptFailed shape final
  | repairRequested request finishedAt waitsAt runWaitsAt executed atIndex
      decided repairs =>
      exact shape_repairRequested shape atIndex decided repairs
  | repairFailed error atIndex => exact shape_repairFailed shape
  | repairRetried repair ranAt steppedAt atIndex retry =>
      exact shape_repairRetried shape atIndex
  | repairEnded repair atIndex ends => exact shape_repairEnded shape
  | repairOverruled repair atIndex external =>
      exact shape_repairOverruled shape external
  | closedSucceeded finishedAtMs timestamp atIndex =>
      obtain ⟨executing, attempts, last, history, succeeded, working⟩ := shape
      exact ⟨executing.same rfl rfl rfl,
        working.succeed atIndex history succeeded executionId finishedAtMs
          timestamp⟩
  | closedByChoice finishedAtMs timestamp atIndex closes =>
      exact shape_closedByChoice shape atIndex closes
  | closedAfterChoice finishedAtMs timestamp atIndex =>
      exact shape.1.close atIndex shape.2 executionId finishedAtMs timestamp
  | skipped finishedAtMs timestamp atIndex isPending =>
      exact shape_skipped shape atIndex isPending
  | endedEarly timestamp nonePending =>
      obtain ⟨_, _, _, leaving, _⟩ := shape
      exact ⟨rfl, nonePending, none, 0, leaving.sameRecords rfl⟩
  | terminationAnnounced timestamp nonePending =>
      obtain ⟨_, isOver⟩ := shape
      exact ⟨rfl, nonePending, isOver.same rfl rfl rfl rfl⟩
  | completed => exact shape
  | @stopped core primary cause cleanupError isCause =>
      cases primary with
      | none =>
          obtain ⟨executing, ready⟩ := shape
          exact ⟨rfl, executing.same rfl rfl rfl, ready.sameRecords rfl rfl⟩
      | some primary =>
          obtain ⟨isRun, nonePending, isOver⟩ := shape
          exact ⟨rfl, isRun, nonePending, isOver.same rfl rfl rfl rfl⟩
  | @concludedCancelled core primary cleanupError warnedAt timestamp cancels =>
      obtain ⟨_, _, nonePending, isOver⟩ := shape
      obtain ⟨position, leaving⟩ := isOver.leaving
      have sameRecords :=
        @EngineCore.tellWarning_records executionId core warnedAt
          cleanupError
      have isCancelled :
          (terminalStatusFor primary.cause).runStatus = .cancelled := by
        cases cause : primary.cause <;> simp [cause, cancelsRun] at cancels <;>
          rfl
      refine ⟨isCancelled.symm, ?_, some primary, position,
        leaving.sameRecords sameRecords⟩
      intro record listed
      exact nonePending record (sameRecords ▸ listed)
  | @concludedTerminated core primary cleanupError warnedAt terminal =>
      obtain ⟨_, isRun, nonePending, isOver⟩ := shape
      obtain ⟨position, leaving⟩ := isOver.leaving
      have sameRecords :=
        @EngineCore.tellWarning_records executionId core warnedAt
          cleanupError
      refine ⟨?_, ?_, some primary, position, leaving.sameRecords sameRecords⟩
      · rw [EngineCore.tellWarning_run, isRun, announcedStatus, terminal]
        rfl
      · intro record listed
        rw [sameRecords] at listed
        exact nonePending record listed
  | concludedFailed warnedAt timestamp =>
      obtain ⟨_, _, ready⟩ := shape
      exact ⟨rfl, ready.nonePending, none, _,
        (ready.between.leaving none).sameRecords rfl⟩
  | concludedSucceeded timestamp =>
      obtain ⟨_, _, ready⟩ := shape
      exact ⟨rfl, ready.nonePending, none, _,
        (ready.between.leaving none).sameRecords rfl⟩

/-- Every reachable state of a run has its shape. -/
theorem RunReaches.shape
    {state : RunState}
    (reaches : RunReaches executionId plan state) :
    Shape plan state := by
  refine Reachable.invariant ?_ ?_ reaches
  · intro start isStart
    rw [isStart]
    exact ⟨rfl, rfl⟩
  · intro before after shape stepped
    exact shape_step shape stepped

end TaskTwin.Engine
