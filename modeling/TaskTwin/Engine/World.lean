import TaskTwin.Effect.Program
import TaskTwin.Engine.RuntimeInputs
import TaskTwin.Engine.StateMachines
import TaskTwin.Engine.TerminationArbiter

/-!
# Building the execution result

The record the engine keeps of every step, and the result that is built from
the records and parsed by its own schema.
-/

namespace TaskTwin.Engine

open Schema Workflow Recovery

structure ExecutionStepRecord where
  step : WorkflowStep
  status : WorkflowEngineStepStatus
  startedAtMs : Option Nat
  finishedAtMs : Option Nat
  skippedReason : Option SkippedStepReason
  error : Option SafeExecutionError
  verification : Option SafeVerificationResult
  attempts : Option (List SafeStepAttempt)
  deriving DecidableEq, Repr

/-- The record of a step that nothing has happened to. -/
def ExecutionStepRecord.create (step : WorkflowStep) : ExecutionStepRecord :=
  { step
    status := .pending
    startedAtMs := none
    finishedAtMs := none
    skippedReason := none
    error := none
    verification := none
    attempts := none }

def createRecords (workflow : Option WorkflowDefinition) :
    List ExecutionStepRecord :=
  match workflow with
  | none => []
  | some workflow => workflow.steps.map ExecutionStepRecord.create

structure FinalResultInput where
  executionId : Uuid
  workflow : Option WorkflowDefinition
  status : TerminalRunStatus
  startedAtMs : Nat
  finishedAtMs : Nat
  terminationCause : TerminationCause
  records : List ExecutionStepRecord
  warnings : List WorkflowEngineWarning
  error : Option SafeExecutionError
  failedStepId : Option NonEmptyString
  outputs : Option (List SafeWorkflowOutputSummary)

/-- `stepResult`; `none` when it throws. -/
def stepResult (record : ExecutionStepRecord) : Option StepExecutionResult := do
  let status ← TerminalStepStatus.parse record.status
  let finishedAtMs ← record.finishedAtMs
  return {
    stepId := record.step.id
    stepType := record.step.type
    status
    startedAt := record.startedAtMs
    finishedAt := finishedAtMs
    durationMs :=
      match record.startedAtMs with
      | none => 0
      | some startedAtMs => finishedAtMs - startedAtMs
    locatorKind := record.step.locatorKind
    skippedReason := record.skippedReason
    error := record.error
    verification := record.verification
    attempts := record.attempts
  }

def stepCounts (steps : List StepExecutionResult) : StepCountSummary :=
  { total := steps.length
    attempted := steps.countP fun step => step.status != .skipped
    succeeded := stepCount .succeeded steps
    failed := stepCount .failed steps
    cancelled := stepCount .cancelled steps
    timedOut := stepCount .timedOut steps
    interrupted := stepCount .interrupted steps
    skipped := stepCount .skipped steps }

/-- The summaries of a run in which nothing was produced. -/
def unproducedOutputs (workflow : Option WorkflowDefinition) :
    List SafeWorkflowOutputSummary :=
  match workflow with
  | none => []
  | some workflow =>
      (defineWorkflowOutputs workflow).map fun output =>
        { outputName := output.name
          outputType := output.valueType
          producerStepId := output.producerStepId
          status := .notProduced }

/-- The result before its schema parses it. -/
def assembleResult
    (input : FinalResultInput)
    (steps : List StepExecutionResult) :
    WorkflowExecutionResult :=
  { executionId := input.executionId
    workflowId := input.workflow.map WorkflowDefinition.workflowId
    workflowVersion := input.workflow.map WorkflowDefinition.version
    status := input.status
    startedAt := input.startedAtMs
    finishedAt := input.finishedAtMs
    durationMs := input.finishedAtMs - input.startedAtMs
    terminationCause := input.terminationCause
    counts := stepCounts steps
    failedStepId := input.failedStepId
    error := input.error
    warnings := input.warnings
    steps
    outputs := input.outputs.getD (unproducedOutputs input.workflow) }

/-- `buildWorkflowExecutionResult`; `none` when it throws. -/
def buildWorkflowExecutionResult
    (input : FinalResultInput) :
    Option WorkflowExecutionResult := do
  let steps ← input.records.mapM stepResult
  let result := assembleResult input steps
  if result.parses then some result else none

/-- The step results of a run are those of its records, in order. -/
theorem stepResults_at
    {records : List ExecutionStepRecord}
    {steps : List StepExecutionResult}
    (mapped : records.mapM stepResult = some steps)
    (index : Nat) :
    steps[index]? = records[index]?.bind stepResult ∧
      (records[index]? = none ↔ steps[index]? = none) := by
  induction records generalizing steps index with
  | nil =>
      cases mapped
      simp
  | cons record rest inductionHypothesis =>
      simp only [List.mapM_cons, Option.bind_eq_bind,
        Option.bind_eq_some_iff] at mapped
      obtain ⟨step, isStep, others, isRest, isSteps⟩ := mapped
      cases isSteps
      cases index with
      | zero => simp [isStep]
      | succ index => simpa using inductionHypothesis isRest index

theorem stepResult_status
    {record : ExecutionStepRecord}
    {step : StepExecutionResult}
    (isResult : stepResult record = some step) :
    TerminalStepStatus.parse record.status = some step.status := by
  simp only [stepResult, Option.bind_eq_bind, Option.bind_eq_some_iff,
    Option.pure_def, Option.some.injEq] at isResult
  obtain ⟨status, isStatus, finishedAtMs, _, rfl⟩ := isResult
  exact isStatus

end TaskTwin.Engine

/-!
## The world of an engine run

What an execution keeps while it runs.  Aborts and the total timer race with
the run, so they may strike at every call.
-/

namespace TaskTwin.Engine

open Effect Schema Workflow Recovery

/-- What may fire before a dependency answers. -/
inductive EngineSignal where
  | aborted (atMs : Nat)
  | timerFired
  deriving DecidableEq, Repr

structure ProducedOutput where
  outputName : String
  outputType : WorkflowOutputType
  value : RuntimeOutputValue
  deriving DecidableEq, Repr

structure AdapterStepOutput where
  verification : Option SafeVerificationResult
  producedOutput : Option ProducedOutput
  deriving DecidableEq, Repr

/-- The answers of the dependencies, of which each call reads its own. -/
structure EngineReply where
  signals : List EngineSignal
  nowMs : Nat
  sinkAccepts : Bool
  started : Except EngineError Unit
  executed : Except EngineError AdapterStepOutput
  /-- An answer that its schema rejects is an error. -/
  approval : Except EngineError ApprovalCoordinatorResult
  repair : Except EngineError RecoveryCoordinatorResult
  stopped : Except EngineError (Option SafeExecutionError)

/-- Why a run ends before all of its steps succeeded. -/
structure PrimaryTermination where
  cause : RacingTerminationCause
  error : SafeExecutionError
  stepId : Option NonEmptyString
  deriving DecidableEq, Repr

structure AdapterStepContext where
  stepIndex : Nat
  step : WorkflowStep
  trigger : RetryTrigger
  attemptNumber : Nat
  totalTimeoutMs : Nat
  remainingTimeMs : Nat
  effectiveTimeoutMs : Nat
  deriving DecidableEq, Repr

structure RecoveryCoordinatorRequest where
  executionId : Uuid
  workflowId : NonEmptyString
  workflowVersion : Nat
  stepId : NonEmptyString
  stepIndex : Nat
  stepType : WorkflowStepType
  attemptNumber : Nat
  safeErrorCode : ExecutionErrorCode
  effectCertainty : ExecutionEffectCertainty
  expiresAt : Nat
  deriving DecidableEq, Repr

/-- What the engine told, asked and was answered. -/
inductive HistoryEntry where
  | emitted (event : WorkflowProgressEvent)
  | adapterStarted
  | stepExecuted (context : AdapterStepContext)
  | stepAnswered
      (stepIndex : Nat)
      (answer : Except EngineError AdapterStepOutput)
  | approvalRequested (stepIndex : Nat) (request : ApprovalCoordinatorRequest)
  | approvalAnswered
      (stepIndex : Nat)
      (answer : Except EngineError ApprovalCoordinatorResult)
  | repairRequested (request : RecoveryCoordinatorRequest)
  | repairAnswered
      (stepIndex attemptNumber : Nat)
      (answer : Except EngineError RecoveryCoordinatorResult)
  | terminationChosen (primary : PrimaryTermination)
  | adapterStopped
      (cause : TerminationCause)
      (cleanupError : Option SafeExecutionError)
  /-- A state machine refused a transition and threw. -/
  | transitionRefused (code : ExecutionErrorCode)

/-- What only the engine itself changes.  The latest entry comes first. -/
structure EngineCore where
  run : WorkflowEngineRunStatus
  steps : StepStateMachine
  records : List ExecutionStepRecord
  outputs : RuntimeOutputStore
  primary : Option PrimaryTermination
  history : List HistoryEntry

/-- The race of the run against its abort signal and its total timer. -/
structure TerminationRace where
  aborted : Bool
  listening : Bool
  timerArmed : Bool
  deadlineMs : Nat
  arbiter : TerminationArbiter
  deriving DecidableEq, Repr

structure SafeProgressEmitter where
  enabled : Bool
  failed : Bool
  deriving DecidableEq, Repr

structure EngineWorld where
  core : EngineCore
  race : TerminationRace
  progress : SafeProgressEmitter

abbrev EngineProgram (α : Type) :=
  Program EngineReply EngineWorld EngineError α

def cancelCandidate (atMs : Nat) : TerminationCandidate :=
  { cause := .runCancelled
    atMs
    error := safeError .executionCancelled
    stepId := none }

def timeoutCandidate (deadlineMs : Nat) : TerminationCandidate :=
  { cause := .totalTimeout
    atMs := deadlineMs
    error := safeError .totalExecutionTimeout
    stepId := none }

def TerminationRace.record
    (race : TerminationRace)
    (candidate : TerminationCandidate) :
    TerminationRace :=
  { race with arbiter := race.arbiter.record candidate }

/-- An abort fires once; a fired or cancelled timer does not fire again. -/
def TerminationRace.signal
    (race : TerminationRace) :
    EngineSignal → TerminationRace
  | .aborted atMs =>
      if race.aborted then
        race
      else if race.listening then
        { race.record (cancelCandidate atMs) with aborted := true }
      else
        { race with aborted := true }
  | .timerFired =>
      if race.timerArmed then
        { race.record (timeoutCandidate race.deadlineMs) with
          timerArmed := false }
      else
        race

def TerminationRace.signalled
    (race : TerminationRace)
    (signals : List EngineSignal) :
    TerminationRace :=
  signals.foldl TerminationRace.signal race

/-- `SafeProgressEmitter.emit`: a failing sink is never called again. -/
def SafeProgressEmitter.emit
    (progress : SafeProgressEmitter)
    (event : WorkflowProgressEvent)
    (hasSink sinkAccepts : Bool) :
    SafeProgressEmitter :=
  if progress.enabled && hasSink && !(event.parses && sinkAccepts) then
    { enabled := false, failed := true }
  else
    progress

def progressWarning : WorkflowEngineWarning :=
  { code := .progressSinkFailed
    message := "Workflow progress reporting stopped safely." }

def SafeProgressEmitter.warnings
    (progress : SafeProgressEmitter) :
    List WorkflowEngineWarning :=
  if progress.failed then [progressWarning] else []

namespace EngineCore

/-- Append an entry to the history. -/
def note
    (core : EngineCore)
    (entry : HistoryEntry) :
    EngineCore :=
  { core with history := entry :: core.history }

def setRun
    (core : EngineCore)
    (status : WorkflowEngineRunStatus) :
    EngineCore :=
  { core with run := status }

def updateRecord
    (core : EngineCore)
    (index : Nat)
    (update : ExecutionStepRecord → ExecutionStepRecord) :
    EngineCore :=
  { core with records := core.records.modify index update }

/-- Move a step in its state machine and in its record. -/
def setStep
    (core : EngineCore)
    (index : Nat)
    (step : WorkflowStep)
    (status : WorkflowEngineStepStatus) :
    EngineCore :=
  { core.updateRecord index fun record => { record with status } with
    steps := core.steps.moved step.id status }

/-- The attempts recorded for a step. -/
def attemptsAt
    (core : EngineCore)
    (index : Nat) :
    List SafeStepAttempt :=
  (core.records[index]?.bind ExecutionStepRecord.attempts).getD []

def setAttempts
    (core : EngineCore)
    (index : Nat)
    (attempts : List SafeStepAttempt) :
    EngineCore :=
  core.updateRecord index fun record => { record with attempts := some attempts }

end EngineCore

end TaskTwin.Engine
