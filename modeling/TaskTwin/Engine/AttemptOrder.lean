import TaskTwin.Engine.ExecutionOrder

/-!
# Repeated adapter calls

A step is executed again only after an attempt whose effect is known to be
harmless, at most three times in all, and only for the reasons that the retry
policy admits.
-/

namespace TaskTwin.Engine

open Effect Effect.Program Schema Workflow Recovery

/-- The calls of `executeStep` for the step at an index. -/
def callsAt (history : List HistoryEntry) (index : Nat) :
    List AdapterStepContext :=
  history.filterMap fun
    | .stepExecuted context =>
        if context.stepIndex = index then some context else none
    | _ => none

/-- What is announced when an attempt ends. -/
structure AttemptNotice where
  attemptNumber : Nat
  status : StepAttemptStatus
  errorCode : Option ExecutionErrorCode
  effectCertainty : ExecutionEffectCertainty
  deriving DecidableEq, Repr

/-- The end of an attempt at a step that an entry announces. -/
def HistoryEntry.attemptEnd (stepId : NonEmptyString) :
    HistoryEntry → Option AttemptNotice
  | .emitted event =>
      match event.kind with
      | .stepAttemptStatusChanged id attemptNumber _ status errorCode
          effectCertainty _ =>
          if id = stepId ∧ status ≠ .running then
            some { attemptNumber, status, errorCode, effectCertainty }
          else
            none
      | _ => none
  | _ => none

/-- The latest end of an attempt at a step. -/
def latestEnd
    (stepId : NonEmptyString)
    (history : List HistoryEntry) :
    Option AttemptNotice :=
  history.findSome? (HistoryEntry.attemptEnd stepId)

/-- The latest entry that is not an announcement. -/
def latestExchange : List HistoryEntry → Option HistoryEntry
  | [] => none
  | .emitted _ :: past => latestExchange past
  | entry :: _ => some entry

/-- The latest attempt at a step may be followed by another one. -/
structure Harmless
    (workflow : WorkflowDefinition)
    (past : List HistoryEntry)
    (step : WorkflowStep)
    (notice : AttemptNotice) :
    Prop where
  latest : latestEnd step.id past = some notice
  safe :
    notice.effectCertainty = .readOnly ∨ notice.effectCertainty = .notStarted
  ungated : isApprovalGatedStep workflow step.id = false

/-- The retry policy admits an automatic retry after an attempt. -/
structure AdmitsRetry (step : WorkflowStep) (notice : AttemptNotice) :
    Prop where
  isRead : step.type = .verify ∨ step.type = .extract
  readOnly : notice.effectCertainty = .readOnly
  admitted :
    ∃ code,
      notice.errorCode = some code ∧ code ∈ automaticRetryErrors step.type

structure MayAttempt
    (workflow : WorkflowDefinition)
    (past : List HistoryEntry)
    (context : AdapterStepContext) :
    Prop where
  numbered :
    context.attemptNumber = (callsAt past context.stepIndex).length + 1
  limited : context.attemptNumber ≤ 3
  first : context.trigger = .initial ↔ callsAt past context.stepIndex = []
  onceAutomatic :
    context.trigger = .automaticRetry →
      ∀ earlier ∈ callsAt past context.stepIndex,
        earlier.trigger ≠ .automaticRetry
  onceManual :
    context.trigger = .manualRetry →
      ∀ earlier ∈ callsAt past context.stepIndex,
        earlier.trigger ≠ .manualRetry
  followed :
    callsAt past context.stepIndex ≠ [] →
      ∃ notice,
        Harmless workflow past context.step notice ∧
          notice.attemptNumber + 1 = context.attemptNumber ∧
          (context.trigger = .automaticRetry →
            AdmitsRetry context.step notice)
  granted :
    context.trigger = .manualRetry →
      ∃ repair,
        latestExchange past =
            some
              (.repairAnswered context.stepIndex
                (callsAt past context.stepIndex).length (.ok repair)) ∧
          repair.decision = .retry

variable
    {dependencies : EngineDependencies}
    {executionId : Uuid}
    {plan : RunPlan dependencies}
    {core core' : EngineCore}
    {index : Nat}
    {step : WorkflowStep}

/-- The calls for a step are its attempts, from the latest to the first. -/
def Tried (core : EngineCore) (index : Nat) : Prop :=
  (callsAt core.history index).map AdapterStepContext.trigger =
    ((core.attemptsAt index).map SafeStepAttempt.trigger).reverse

theorem Tried.same
    (tried : Tried core index)
    (sameCalls : callsAt core'.history index = callsAt core.history index)
    (sameTriggers :
      (core'.attemptsAt index).map SafeStepAttempt.trigger =
        (core.attemptsAt index).map SafeStepAttempt.trigger) :
    Tried core' index := by
  rw [Tried, sameCalls, sameTriggers]
  exact tried

theorem Tried.length
    (tried : Tried core index) :
    (callsAt core.history index).length = (core.attemptsAt index).length := by
  have lengths := congrArg List.length tried
  simpa using lengths

/-- What a retry of the step at an index is based on. -/
structure Retried
    (plan : RunPlan dependencies)
    (core : EngineCore)
    (index : Nat)
    (trigger : RetryTrigger)
    (step : WorkflowStep)
    (notice : AttemptNotice) :
    Prop where
  atIndex : plan.steps[index]? = some step
  harmless :
    ∃ workflow,
      plan.workflow = some workflow ∧
        Harmless workflow core.history step notice
  numbered : notice.attemptNumber = (core.attemptsAt index).length
  admitted : trigger = .automaticRetry → AdmitsRetry step notice
  granted :
    trigger = .manualRetry →
      ∃ repair,
        latestExchange core.history =
            some
              (.repairAnswered index (core.attemptsAt index).length
                (.ok repair)) ∧
          repair.decision = .retry

/-- No call was made for the step at an index or a later one. -/
def Untried (core : EngineCore) (index : Nat) : Prop :=
  ∀ context,
    .stepExecuted context ∈ core.history → context.stepIndex < index

theorem Untried.callsAt
    (untried : Untried core index) :
    callsAt core.history index = [] := by
  rw [Engine.callsAt, List.filterMap_eq_nil_iff]
  intro entry listed
  cases entry with
  | stepExecuted context =>
      have isEarlier := untried context listed
      simp only [ite_eq_right_iff, reduceCtorEq]
      omega
  | _ => rfl

theorem Untried.grow
    (untried : Untried core index)
    (grows : Grows core core') :
    Untried core' index := by
  intro context listed
  exact untried context (grows.call listed)

def TriedAt (plan : RunPlan dependencies) : RunState → Prop
  | ⟨.created, core⟩ => Untried core 0
  | ⟨.announced, core⟩ => Untried core 0
  | ⟨.validating, core⟩ => Untried core 0
  | ⟨.initializing _, core⟩ => Untried core 0
  | ⟨.starting, core⟩ => Untried core 0
  | ⟨.ready index, core⟩ => Untried core index
  | ⟨.awaitingApproval index _ _, core⟩ => Untried core index
  | ⟨.attempting index trigger _, core⟩ =>
      Tried core index ∧
        (trigger ≠ .initial →
          ∃ step notice, Retried plan core index trigger step notice)
  | ⟨.executing index _, core⟩ => Tried core index
  | ⟨.judging index _ _, core⟩ => Tried core index
  | ⟨.awaitingRepair index attempt _ _, core⟩ =>
      Tried core index ∧
        ∃ step notice workflow,
          plan.steps[index]? = some step ∧
            plan.workflow = some workflow ∧
            Harmless workflow core.history step notice ∧
            notice.attemptNumber = attempt.attemptNumber
  | _ => True

variable
  {prepared : PreparedWorkflowExecution dependencies}
  {attempt : SafeStepAttempt}
  {failure : AttemptFailure}
  {trigger : RetryTrigger}

theorem latestEnd_finished
    {status : StepAttemptStatus}
    (ends : status ≠ .running)
    (core : EngineCore)
    (timestamp : Nat)
    (effectCertainty : ExecutionEffectCertainty)
    (retryAllowed : Bool)
    (error : Option SafeExecutionError) :
    latestEnd step.id
        (core.tellFinished executionId timestamp index step attempt status
          effectCertainty retryAllowed error).history =
      some
        { attemptNumber := attempt.attemptNumber
          status
          errorCode := error.map SafeExecutionError.code
          effectCertainty } := by
  simp [latestEnd, HistoryEntry.attemptEnd, ends]

theorem latestEnd_begun
    (core : EngineCore)
    (attempt : SafeStepAttempt)
    (stepId : NonEmptyString) :
    latestEnd stepId
        (core.tellBegun executionId index step attempt).history =
      latestEnd stepId core.history := by
  simp [latestEnd, HistoryEntry.attemptEnd]

theorem ExecutionEffectCertainty.isSafe_iff
    (effectCertainty : ExecutionEffectCertainty) :
    effectCertainty.isSafe = true ↔
      effectCertainty = .readOnly ∨ effectCertainty = .notStarted := by
  simp [ExecutionEffectCertainty.isSafe]

/-- The types that the retry policy retries by itself. -/
theorem isRead_of_automaticRetryErrors
    {type : WorkflowStepType}
    {code : ExecutionErrorCode}
    (admitted : code ∈ automaticRetryErrors type) :
    type = .verify ∨ type = .extract := by
  cases type <;> simp [automaticRetryErrors] at admitted ⊢

/-- Finishing the last attempt changes no trigger. -/
theorem Tried.finished
    {earlier : List SafeStepAttempt}
    {stepStatus : WorkflowEngineStepStatus}
    (tried : Tried core index)
    (working :
      Working plan core index stepStatus (some (earlier ++ [attempt])))
    (executionId : Uuid)
    (timestamp : Nat)
    (step : WorkflowStep)
    (status : StepAttemptStatus)
    (effectCertainty : ExecutionEffectCertainty)
    (retryAllowed : Bool)
    (error : Option SafeExecutionError) :
    Tried
      (core.tellFinished executionId timestamp index step attempt status
        effectCertainty retryAllowed error)
      index := by
  have finished :=
    working.tellFinished executionId timestamp step status effectCertainty
      retryAllowed error
  refine tried.same rfl ?_
  rw [finished.attemptsAt, working.attemptsAt]
  simp [finishedAttempt]

/-- The answer of the adapter changes neither calls nor attempts. -/
theorem Tried.answered
    {attempts : Option (List SafeStepAttempt)}
    {stepStatus : WorkflowEngineStepStatus}
    (tried : Tried core index)
    (working : Working plan core index stepStatus attempts)
    (answer : Except EngineError AdapterStepOutput)
    (verification : Option SafeVerificationResult) :
    Tried
      ((core.note (.stepAnswered index answer)).verifyRecord index verification)
      index := by
  have answered :=
    (working.note (.stepAnswered index answer)).verifyRecord verification
  refine tried.same ?_ ?_
  · simp [callsAt]
  · rw [answered.attemptsAt, working.attemptsAt]

/-- What is announced of an attempt that failed. -/
def failureNotice
    (attempt : SafeStepAttempt)
    (failure : AttemptFailure) :
    AttemptNotice :=
  { attemptNumber := attempt.attemptNumber
    status := failedAttemptStatus failure.error.code
    errorCode := some failure.error.code
    effectCertainty := failure.effectCertainty }

/-- What a failed attempt says when it may be repeated. -/
theorem harmless_of_failure
    (safe : failure.effectCertainty.isSafe = true)
    (ungated : isApprovalGatedStep prepared.workflow step.id = false)
    (core : EngineCore)
    (timestamp : Nat)
    (retryAllowed : Bool) :
    Harmless prepared.workflow
      (core.tellFinished executionId timestamp index step attempt
        (failedAttemptStatus failure.error.code) failure.effectCertainty
        retryAllowed (some failure.error)).history
      step (failureNotice attempt failure) :=
  { latest :=
      latestEnd_finished (failedAttemptStatus_ne_running failure.error.code)
        core timestamp failure.effectCertainty retryAllowed
        (some failure.error)
    safe := (ExecutionEffectCertainty.isSafe_iff _).mp safe
    ungated }

theorem triedAt_attemptRetried
    {decision : RetryPolicyDecision}
    {finishedAt : Nat}
    (shape : Shape plan ⟨.judging index attempt (some failure), core⟩)
    (tried : Tried core index)
    (executed : plan = .executed prepared)
    (atIndex : plan.steps[index]? = some step)
    (decided :
      decision =
        decideRetry
          (retryPolicyInput prepared step failure (core.attemptsAt index)))
    (retries : decision.disposition = .automaticRetry) :
    TriedAt plan
      ⟨.attempting index .automaticRetry none,
        core.tellFailed executionId finishedAt index step attempt failure
          decision.retryAllowed⟩ := by
  obtain ⟨_, _, earlier, history, working⟩ := shape
  have finished :=
    working.tellFailed executionId finishedAt step failure decision.retryAllowed
  have reason :=
    decideRetry_reason
      (retryPolicyInput prepared step failure (core.attemptsAt index))
  rw [← decided, retries] at reason
  cases reason with
  | automaticRetry ungated readOnly below admitted first =>
      have isReadOnly : failure.effectCertainty = .readOnly := readOnly
      refine ⟨tried.finished working executionId finishedAt step _ _ _ _,
        fun _ => ⟨step, failureNotice attempt failure, ?_⟩⟩
      exact
        { atIndex
          harmless :=
            ⟨prepared.workflow, by rw [executed]; rfl,
              harmless_of_failure (by rw [isReadOnly]; rfl) ungated core
                finishedAt decision.retryAllowed⟩
          numbered := by
            rw [finished.attemptsAt, failureNotice, history.lastNumber]
            simp
          admitted := fun _ =>
            { isRead := isRead_of_automaticRetryErrors admitted
              readOnly
              admitted := ⟨_, rfl, admitted⟩ }
          granted := by simp }

theorem triedAt_repairRequested
    {decision : RetryPolicyDecision}
    {proposalOnly : Bool}
    {request : RecoveryCoordinatorRequest}
    {finishedAt waitsAt runWaitsAt : Nat}
    (shape : Shape plan ⟨.judging index attempt (some failure), core⟩)
    (tried : Tried core index)
    (executed : plan = .executed prepared)
    (atIndex : plan.steps[index]? = some step)
    (decided :
      decision =
        decideRetry
          (retryPolicyInput prepared step failure (core.attemptsAt index)))
    (repairs : repairDisposition decision.disposition = some proposalOnly) :
    TriedAt plan
      ⟨.awaitingRepair index attempt failure proposalOnly,
        (((core.tellFailed executionId finishedAt index step attempt failure
          decision.retryAllowed).tellStep
              executionId waitsAt index step .waitingForRepair none
              none).tellRun
            executionId runWaitsAt .waitingForRepair none).note
          (.repairRequested request)⟩ := by
  obtain ⟨_, _, earlier, history, working⟩ := shape
  have reason :=
    decideRetry_reason
      (retryPolicyInput prepared step failure (core.attemptsAt index))
  rw [← decided] at reason
  have harmless :
      failure.effectCertainty.isSafe = true ∧
        isApprovalGatedStep prepared.workflow step.id = false := by
    generalize decision.disposition = disposition at reason repairs
    cases reason <;> cases repairs
    case manualRepair ungated safe below manual first => exact ⟨safe, ungated⟩
    case locatorProposal ungated safe below proposals locator =>
      exact ⟨safe, ungated⟩
  have ended :=
    @harmless_of_failure _ executionId index _ _ attempt _ harmless.1 harmless.2 core finishedAt
      decision.retryAllowed
  have finished :=
    tried.finished working executionId finishedAt step
      (failedAttemptStatus failure.error.code) failure.effectCertainty
      decision.retryAllowed (some failure.error)
  have sameAttempts :=
    @EngineCore.attemptsAt_tellStep executionId index step
      (core.tellFailed executionId finishedAt index step attempt failure
        decision.retryAllowed)
      waitsAt index .waitingForRepair none none
  refine ⟨finished.same rfl ?_, step, failureNotice attempt failure,
    prepared.workflow, atIndex, by rw [executed]; rfl,
    ⟨ended.latest, ended.safe, ended.ungated⟩, rfl⟩
  exact congrArg (List.map SafeStepAttempt.trigger) sameAttempts

theorem triedAt_repairRetried
    {repair : RecoveryCoordinatorResult}
    {ranAt steppedAt : Nat}
    (shape : Shape plan ⟨.awaitingRepair index attempt failure false, core⟩)
    (tried :
      TriedAt plan ⟨.awaitingRepair index attempt failure false, core⟩)
    (retry : repair.decision = .retry) :
    TriedAt plan
      ⟨.attempting index .manualRetry (some repair.repairRequestId),
        ((core.repairTold executionId index step attempt failure false
          repair).tellRun
            executionId ranAt .running none).tellStep
          executionId steppedAt index step .running none none⟩ := by
  obtain ⟨_, attempts, _, _, isNumber, _, _, working⟩ := shape
  obtain ⟨tried, other, notice, workflow, atIndex, isWorkflow, harmless,
    numbered⟩ := tried
  have sameAttempts :
      (((core.repairTold executionId index step attempt failure false
        repair).tellRun
            executionId ranAt .running none).tellStep
          executionId steppedAt index step .running none none).attemptsAt
          index =
        core.attemptsAt index :=
    EngineCore.attemptsAt_tellStep _ _ _ _ _ _
  have length : (core.attemptsAt index).length = attempt.attemptNumber := by
    rw [working.attemptsAt]
    exact isNumber
  refine ⟨tried.same rfl (by rw [sameAttempts]),
    fun _ => ⟨other, notice, ?_⟩⟩
  exact
    { atIndex
      harmless :=
        ⟨workflow, isWorkflow, harmless.latest, harmless.safe,
          harmless.ungated⟩
      numbered := by rw [numbered, sameAttempts, length]
      admitted := by simp
      granted := fun _ => ⟨repair, by rw [sameAttempts, length]; rfl, retry⟩ }

theorem triedAt_attemptBegun
    {repairRequestId : Option Uuid}
    {attempt : SafeStepAttempt}
    {context : AdapterStepContext}
    {startedAt : Nat}
    (shape : Shape plan ⟨.attempting index trigger repairRequestId, core⟩)
    (tried : Tried core index)
    (isAttempt :
      attempt = newAttempt core index trigger repairRequestId startedAt)
    (ofStep : context.stepIndex = index)
    (ofAttempt : context.trigger = trigger) :
    Tried
      ((core.tellBegun executionId index step attempt).note
        (.stepExecuted context))
      index := by
  obtain ⟨_, attempts, working, _, _⟩ := shape
  have begun := working.tellBegun executionId step attempt
  have isTrigger : attempt.trigger = context.trigger := by
    rw [isAttempt, ofAttempt]
    rfl
  have sameAttempts :
      ((core.tellBegun executionId index step attempt).note
          (.stepExecuted context)).attemptsAt index =
        core.attemptsAt index ++ [attempt] := by
    rw [working.attemptsAt]
    exact begun.attemptsAt
  rw [Tried, sameAttempts, List.map_append, List.reverse_append, ← tried]
  simp [callsAt, ofStep, isTrigger]

theorem tried_step
    {state state' : RunState}
    (shape : Shape plan state)
    (progressed : ProgressedAt executionId plan state)
    (tried : TriedAt plan state)
    (stepped : RunStep executionId plan state state') :
    TriedAt plan state' := by
  cases stepped with
  | announced timestamp =>
      exact tried.grow ⟨[_], rfl, by simp [HistoryEntry.isCall]⟩
  | leftUnvalidated => exact tried.grow ⟨[], rfl, by simp⟩
  | validated timestamp =>
      exact tried.grow ⟨[_], rfl, by simp [HistoryEntry.isCall]⟩
  | stepsCreated => exact tried.grow ⟨[], rfl, by simp⟩
  | initialized timestamp atNext =>
      exact tried.grow ⟨[_], rfl, by simp [HistoryEntry.isCall]⟩
  | started timestamp executed isValidating =>
      exact tried.grow ⟨[_, _], rfl, by simp [HistoryEntry.isCall]⟩
  | ran timestamp =>
      exact tried.grow ⟨[_], rfl, by simp [HistoryEntry.isCall]⟩
  | @opened core index step startedAtMs timestamp atIndex isAction =>
      have untried : Untried core index := tried
      have opened :=
        shape.2.open atIndex executionId startedAtMs timestamp
      refine ⟨?_, fun isRetry => absurd rfl isRetry⟩
      rw [Tried, opened.attemptsAt]
      have noCalls := untried.callsAt
      simpa [callsAt] using noCalls
  | approvalRequested startedAtMs openedAt begunAt waitsAt runWaitsAt askedAt
      request executed atIndex isApproval bound openedCore isAttempt =>
      subst openedCore
      exact tried.grow
        ⟨[_, _, _, _, _, _], rfl, by simp [HistoryEntry.isCall]⟩
  | @approvalGranted core index _ _ _ approval ranAt finishedAtMs succeededAt
      attemptFinishedAt atIndex approved =>
      have untried : Untried core index := tried
      have earlier : Untried core (index + 1) := by
        intro context listed
        exact Nat.lt_succ_of_lt (untried context listed)
      exact earlier.grow ⟨[_, _, _, _, _], rfl, by simp [HistoryEntry.isCall]⟩
  | attemptBegun context startedAt atIndex isAttempt ofStep ofAttempt =>
      exact triedAt_attemptBegun shape tried.1 isAttempt ofStep.1 ofAttempt.1
  | adapterThrew error =>
      obtain ⟨_, _, _, working⟩ := shape
      exact Tried.answered tried working (.error error) error.verification
  | outputRefused output refuses =>
      obtain ⟨_, _, _, working⟩ := shape
      exact Tried.answered tried working (.ok output) output.verification
  | adapterAnswered output atIndex noOutput =>
      obtain ⟨_, _, _, working⟩ := shape
      exact Tried.answered tried working (.ok output) output.verification
  | outputProduced output value timestamp atIndex defined stored =>
      obtain ⟨_, _, _, working⟩ := shape
      have answered :=
        Tried.answered tried working (.ok output) output.verification
      exact answered.same rfl rfl
  | attemptRetried finishedAt executed atIndex decided retries =>
      exact triedAt_attemptRetried shape tried executed atIndex decided retries
  | repairRequested request finishedAt waitsAt runWaitsAt executed atIndex
      decided repairs =>
      exact triedAt_repairRequested shape tried executed atIndex decided
        repairs
  | repairRetried repair ranAt steppedAt atIndex retry =>
      exact triedAt_repairRetried shape tried retry
  | @closedSucceeded core index step finishedAtMs timestamp atIndex =>
      obtain ⟨_, _, progressed⟩ := progressed
      have untried : Untried core (index + 1) := by
        intro context listed
        exact Nat.lt_succ_of_le (progressed.inOrder context listed)
      exact untried.grow ⟨[_], rfl, by simp [HistoryEntry.isCall]⟩
  | _ => trivial

/-- A trigger that no attempt had, no call had. -/
theorem Tried.unused
    (tried : Tried core index)
    (unused : triggerCount trigger (core.attemptsAt index) = 0) :
    ∀ earlier ∈ callsAt core.history index, earlier.trigger ≠ trigger := by
  intro earlier listed isTrigger
  have mapped :
      earlier.trigger ∈
        (callsAt core.history index).map AdapterStepContext.trigger :=
    List.mem_map_of_mem listed
  rw [tried, List.mem_reverse] at mapped
  obtain ⟨attempt, isAttempt, sameTrigger⟩ := List.mem_map.mp mapped
  have none := List.countP_eq_zero.mp unused attempt isAttempt
  simp [sameTrigger, isTrigger] at none

/-- A plan with a step has a workflow. -/
theorem RunPlan.workflow_of_step
    (atIndex : plan.steps[index]? = some step) :
    ∃ workflow, plan.workflow = some workflow := by
  cases isWorkflow : plan.workflow with
  | none => simp [RunPlan.steps, declaredSteps, isWorkflow] at atIndex
  | some workflow => exact ⟨workflow, rfl⟩

/-- The call of an attempt that may begin. -/
theorem mayAttempt_attemptBegun
    {workflow : WorkflowDefinition}
    {trigger : RetryTrigger}
    {repairRequestId : Option Uuid}
    {attempt : SafeStepAttempt}
    {context : AdapterStepContext}
    {startedAt : Nat}
    (shape : Shape plan ⟨.attempting index trigger repairRequestId, core⟩)
    (tried : TriedAt plan ⟨.attempting index trigger repairRequestId, core⟩)
    (isWorkflow : plan.workflow = some workflow)
    (atIndex : plan.steps[index]? = some step)
    (isAttempt :
      attempt = newAttempt core index trigger repairRequestId startedAt)
    (ofStep : context.stepIndex = index ∧ context.step = step)
    (ofAttempt :
      context.trigger = trigger ∧
        context.attemptNumber = attempt.attemptNumber) :
    MayAttempt workflow
      (core.tellBegun executionId index step attempt).history context := by
  obtain ⟨_, attempts, working, _, may⟩ := shape
  obtain ⟨tried, retried⟩ := tried
  obtain ⟨rfl, rfl⟩ := ofStep
  obtain ⟨rfl, isNumber⟩ := ofAttempt
  have sameCalls :
      callsAt
          (core.tellBegun executionId context.stepIndex context.step
            attempt).history context.stepIndex =
        callsAt core.history context.stepIndex :=
    rfl
  have isAttempts : core.attemptsAt context.stepIndex = attempts.getD [] :=
    working.attemptsAt
  have number :
      context.attemptNumber =
        (core.attemptsAt context.stepIndex).length + 1 := by
    rw [isNumber, isAttempt]
    rfl
  have length := tried.length
  have isFirst :
      context.trigger = .initial ↔
        callsAt core.history context.stepIndex = [] := by
    rw [← may.first, ← isAttempts, ← List.length_eq_zero_iff, ← length,
      List.length_eq_zero_iff]
  constructor
  case numbered => rw [sameCalls, length, number]
  case limited =>
    have below := may.below
    rw [← isAttempts, maxTotalAttempts] at below
    omega
  case first => rw [sameCalls, isFirst]
  case onceAutomatic =>
    intro isAutomatic
    have below := may.automatic isAutomatic
    rw [← isAttempts, maxAutomaticRetries, Nat.lt_one_iff] at below
    rw [sameCalls]
    exact tried.unused below
  case onceManual =>
    intro isManual
    have below := may.manual isManual
    rw [← isAttempts, maxManualRetries, Nat.lt_one_iff] at below
    rw [sameCalls]
    exact tried.unused below
  case followed =>
    intro isRepeated
    rw [sameCalls] at isRepeated
    obtain ⟨other, notice, retried⟩ :=
      retried fun isInitial => isRepeated (isFirst.mp isInitial)
    obtain ⟨atOther, ⟨same, isSame, harmless⟩, numbered, admitted, _⟩ :=
      retried
    cases atIndex.symm.trans atOther
    cases isWorkflow.symm.trans isSame
    refine ⟨notice, ⟨?_, harmless.safe, harmless.ungated⟩, ?_, admitted⟩
    · rw [latestEnd_begun]
      exact harmless.latest
    · rw [numbered, number]
  case granted =>
    intro isManual
    obtain ⟨_, _, retried⟩ := retried (by rw [isManual]; decide)
    obtain ⟨repair, answered, retry⟩ := retried.granted isManual
    refine ⟨repair, ?_, retry⟩
    rw [sameCalls, length]
    exact answered

/-- A call was allowed by the workflow of a plan. -/
def MayAttemptOf
    (workflow : Option WorkflowDefinition)
    (past : List HistoryEntry)
    (context : AdapterStepContext) :
    Prop :=
  ∃ defined, workflow = some defined ∧ MayAttempt defined past context

theorem everyAttempt_step
    {state state' : RunState}
    (shape : Shape plan state)
    (tried : TriedAt plan state)
    (every : EveryCall (MayAttemptOf plan.workflow) state.core.history)
    (stepped : RunStep executionId plan state state') :
    EveryCall (MayAttemptOf plan.workflow) state'.core.history := by
  cases stepped with
  | approvalRequested startedAtMs openedAt begunAt waitsAt runWaitsAt askedAt
      request executed atIndex isApproval bound openedCore isAttempt =>
      subst openedCore
      exact every
  | attemptBegun context startedAt atIndex isAttempt ofStep ofAttempt =>
      obtain ⟨workflow, isWorkflow⟩ := RunPlan.workflow_of_step atIndex
      exact ⟨⟨workflow, isWorkflow,
        mayAttempt_attemptBegun shape tried isWorkflow atIndex isAttempt ofStep
          ofAttempt⟩, every⟩
  | adapterThrew error => simpa [EveryCall] using every
  | outputRefused output refuses => simpa [EveryCall] using every
  | adapterAnswered output atIndex noOutput => simpa [EveryCall] using every
  | outputProduced output value timestamp atIndex defined stored =>
      simpa [EveryCall] using every
  | @concludedCancelled core primary cleanupError warnedAt timestamp cancels =>
      cases cleanupError <;> exact every
  | @concludedTerminated core primary cleanupError warnedAt terminal =>
      cases cleanupError <;> exact every
  | _ => exact every

/-- What holds of the attempts in every reachable state. -/
structure AttemptedAt
    (executionId : Uuid)
    (plan : RunPlan dependencies)
    (state : RunState) :
    Prop where
  shape : Shape plan state
  progressed : ProgressedAt executionId plan state
  tried : TriedAt plan state
  every : EveryCall (MayAttemptOf plan.workflow) state.core.history

theorem RunReaches.attempted
    {state : RunState}
    (reaches : RunReaches executionId plan state) :
    AttemptedAt executionId plan state := by
  refine Reachable.invariant ?_ ?_ reaches
  · intro start isStart
    rw [isStart]
    have untried : Untried (EngineWorld.initial false).core 0 := by
      intro context listed
      simp [EngineWorld.initial] at listed
    exact ⟨⟨rfl, rfl⟩, rfl, untried, trivial⟩
  · intro before after kept stepped
    obtain ⟨shape, progressed, tried, every⟩ := kept
    exact ⟨shape_step shape stepped, progressed_step shape progressed stepped,
      tried_step shape progressed tried stepped,
      everyAttempt_step shape tried every stepped⟩

/-- The calls for one step keep within the limits of the retry policy. -/
structure WithinLimits (calls : List AdapterStepContext) : Prop where
  total : calls.length ≤ 3
  automatic :
    calls.countP (fun context => context.trigger == .automaticRetry) ≤ 1
  manual : calls.countP (fun context => context.trigger == .manualRetry) ≤ 1

/-- A trigger that may not be repeated is used at most once. -/
theorem countP_le_one
    {trigger : RetryTrigger}
    {context : AdapterStepContext}
    {calls : List AdapterStepContext}
    (once :
      context.trigger = trigger →
        ∀ earlier ∈ calls, earlier.trigger ≠ trigger)
    (before : calls.countP (fun context => context.trigger == trigger) ≤ 1) :
    (context :: calls).countP (fun context => context.trigger == trigger) ≤
      1 := by
  rw [List.countP_cons]
  by_cases isTrigger : context.trigger = trigger
  · have unused :
        calls.countP (fun context => context.trigger == trigger) = 0 := by
      rw [List.countP_eq_zero]
      intro earlier listed
      simpa using once isTrigger earlier listed
    simp [unused, isTrigger]
  · simpa [isTrigger] using before

theorem callsAt_withinLimits
    {workflow : Option WorkflowDefinition}
    {history : List HistoryEntry}
    (every : EveryCall (MayAttemptOf workflow) history)
    (index : Nat) :
    WithinLimits (callsAt history index) := by
  induction history with
  | nil => exact ⟨by simp [callsAt], by simp [callsAt], by simp [callsAt]⟩
  | cons entry past inductionHypothesis =>
      have limits := inductionHypothesis every.past
      cases entry with
      | stepExecuted context =>
          obtain ⟨⟨_, _, may⟩, _⟩ := every
          by_cases atIndex : context.stepIndex = index
          · subst atIndex
            have isCalls :
                callsAt (.stepExecuted context :: past) context.stepIndex =
                  context :: callsAt past context.stepIndex := by
              simp [callsAt]
            rw [isCalls]
            constructor
            case total =>
              have limited := may.limited
              rw [may.numbered] at limited
              exact limited
            case automatic => exact countP_le_one may.onceAutomatic limits.automatic
            case manual => exact countP_le_one may.onceManual limits.manual
          · simpa [callsAt, atIndex] using limits
      | _ => exact limits

/-- What holds of the repeated calls of an execution. -/
structure RetriesSafely
    (workflow : Option WorkflowDefinition)
    (world : EngineWorld) :
    Prop where
  calls :
    ∀ later context past,
      world.core.history = later ++ .stepExecuted context :: past →
      MayAttemptOf workflow past context
  limits : ∀ index, WithinLimits (callsAt world.core.history index)

/-- Every execution repeats a step only where that is safe. -/
theorem execute_retriesSafely
    (executionId : Uuid)
    (dependencies : EngineDependencies)
    (input : ExecutionInput)
    (aborted : Bool) :
    (execute executionId dependencies input).Ensures
      (fun _ world => RetriesSafely input.workflow world)
      (EngineWorld.initial aborted) := by
  refine (execute_concludes executionId dependencies input aborted).mono ?_
  intro outcome world concluded
  have every :
      EveryCall (MayAttemptOf input.workflow) world.core.history := by
    cases concluded with
    | preflightThrew answer reaches threw => exact reaches.attempted.every
    | built planned builds =>
        obtain ⟨ending, final, reaches, _⟩ := builds
        have attempted := reaches.attempted.every
        rwa [planned.workflow] at attempted
  exact
    { calls := fun _ _ _ split => every.at split
      limits := callsAt_withinLimits every }

end TaskTwin.Engine
