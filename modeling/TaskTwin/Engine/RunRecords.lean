import TaskTwin.Engine.RunModel

/-!
# Step records along a run

Where the records of a run stand: the steps before the current one succeeded,
the ones after it are untouched.  Every update of the current record moves
only that record, and keeps it in step with the step state machine.
-/

namespace TaskTwin.Engine

open Schema Workflow Recovery

/-- A history of attempts that its schema accepts, except that it may be empty. -/
structure AttemptHistory (attempts : List SafeStepAttempt) : Prop where
  parse : ∀ attempt ∈ attempts, attempt.parses = true
  inOrder : attemptsInOrder attempts = true
  short : attempts.length ≤ maxTotalAttempts
  automatic : triggerCount .automaticRetry attempts ≤ maxAutomaticRetries
  manual : triggerCount .manualRetry attempts ≤ maxManualRetries

theorem AttemptHistory.nil : AttemptHistory [] := by
  constructor <;> simp [attemptsInOrder, triggerCount]

variable {attempts : List SafeStepAttempt} {attempt : SafeStepAttempt}

theorem AttemptHistory.lastNumber
    (history : AttemptHistory (attempts ++ [attempt])) :
    attempt.attemptNumber = attempts.length + 1 := by
  have inOrder := history.inOrder
  rw [attemptsInOrder_append] at inOrder
  exact inOrder.2.1

/-- Another attempt may be begun with a trigger. -/
structure MayBegin
    (attempts : List SafeStepAttempt)
    (trigger : RetryTrigger)
    (repairRequestId : Option Uuid) :
    Prop where
  history : AttemptHistory attempts
  below : attempts.length < maxTotalAttempts
  first : attempts = [] ↔ trigger = .initial
  automatic :
    trigger = .automaticRetry →
      triggerCount .automaticRetry attempts < maxAutomaticRetries
  manual :
    trigger = .manualRetry →
      triggerCount .manualRetry attempts < maxManualRetries
  repaired : repairRequestId.isSome = true ↔ trigger = .manualRetry

theorem MayBegin.initial : MayBegin [] .initial none := by
  constructor <;> simp [AttemptHistory.nil, maxTotalAttempts]

theorem MayBegin.begun
    {trigger : RetryTrigger}
    {repairRequestId : Option Uuid}
    {attempt : SafeStepAttempt}
    (may : MayBegin attempts trigger repairRequestId)
    (isNumber : attempt.attemptNumber = attempts.length + 1)
    (isTrigger : attempt.trigger = trigger)
    (isRepair : attempt.repairRequestId = repairRequestId)
    (isRunning :
      attempt.status = .running ∧ attempt.finishedAt = none ∧
        attempt.durationMs = none) :
    AttemptHistory (attempts ++ [attempt]) := by
  obtain ⟨history, below, first, automatic, manual, repaired⟩ := may
  obtain ⟨running, unfinished, untimed⟩ := isRunning
  constructor
  case parse =>
    intro candidate listed
    rcases List.mem_append.mp listed with earlier | latest
    · exact history.parse candidate earlier
    · rw [List.mem_singleton.mp latest, SafeStepAttempt.parses]
      have sameRepair :
          (attempt.trigger == .manualRetry) =
            attempt.repairRequestId.isSome := by
        rw [Bool.eq_iff_iff, isRepair, repaired, isTrigger, beq_iff_eq]
      simp [running, unfinished, untimed, isNumber, sameRepair]
  case inOrder =>
    rw [attemptsInOrder_append]
    exact ⟨history.inOrder, isNumber, by rw [first, isTrigger]⟩
  case short =>
    rw [List.length_append, List.length_singleton]
    exact below
  case automatic =>
    rw [triggerCount_append, isTrigger]
    split
    case isTrue isAutomatic => exact automatic isAutomatic
    case isFalse => exact history.automatic
  case manual =>
    rw [triggerCount_append, isTrigger]
    split
    case isTrue isManual => exact manual isManual
    case isFalse => exact history.manual

/-- Finishing the last attempt keeps the history acceptable. -/
theorem AttemptHistory.finished
    (history : AttemptHistory (attempts ++ [attempt]))
    {status : StepAttemptStatus}
    (ends : status ≠ .running)
    (effectCertainty : ExecutionEffectCertainty)
    (error : Option SafeExecutionError)
    (finishedAt : Nat) :
    AttemptHistory
      (attempts ++
        [finishedAttempt attempt status effectCertainty error finishedAt]) := by
  obtain ⟨parse, inOrder, short, automatic, manual⟩ := history
  constructor
  case parse =>
    intro candidate listed
    rcases List.mem_append.mp listed with earlier | latest
    · exact parse candidate (List.mem_append_left _ earlier)
    · have attemptParses := parse attempt (by simp)
      simp only [SafeStepAttempt.parses, Bool.and_eq_true] at attemptParses
      rw [List.mem_singleton.mp latest]
      simp only [SafeStepAttempt.parses, finishedAttempt, ends, if_false,
        Option.isSome_some, Bool.and_true, Bool.and_eq_true]
      exact ⟨attemptParses.1.1, attemptParses.2⟩
  case inOrder =>
    rw [attemptsInOrder_append] at inOrder ⊢
    exact inOrder
  case short => simpa using short
  case automatic =>
    rw [triggerCount_append] at automatic ⊢
    exact automatic
  case manual =>
    rw [triggerCount_append] at manual ⊢
    exact manual

@[simp] theorem failedAttemptStatus_ne_running (code : ExecutionErrorCode) :
    failedAttemptStatus code ≠ .running := by
  unfold failedAttemptStatus
  split
  · simp
  · split <;> simp

/-- Nothing has happened to the step of a record. -/
def Untouched (record : ExecutionStepRecord) : Prop :=
  record = ExecutionStepRecord.create record.step

/-- A record whose attempts, if any, are acceptable. -/
structure Opened (record : ExecutionStepRecord) : Prop where
  started : record.startedAtMs.isSome = true
  unskipped : record.skippedReason = none
  unfailed : record.error = none

/-- The step of a record succeeded, and so did its last attempt. -/
structure Done (record : ExecutionStepRecord) : Prop where
  opened : Opened record
  succeeded : record.status = .succeeded
  finished : record.finishedAtMs.isSome = true
  attempted :
    ∃ attempts last,
      record.attempts = some (attempts ++ [last]) ∧
        AttemptHistory (attempts ++ [last]) ∧
        last.status = .succeeded

/-- The step of a record is where the run ended. -/
structure EndedAt
    (primary : PrimaryTermination)
    (record : ExecutionStepRecord) :
    Prop where
  started : record.startedAtMs.isSome = true
  unskipped : record.skippedReason = none
  ended : record.status = terminatedStepStatus primary.cause
  finished : record.finishedAtMs.isSome = true
  failed : record.error = some primary.error
  attempted : AttemptHistory (record.attempts.getD [])
  nonEmpty : record.attempts ≠ some []

/-- The step of a record was skipped. -/
structure Skipped (record : ExecutionStepRecord) : Prop where
  unstarted : record.startedAtMs = none
  skipped : record.status = .skipped
  reasoned : record.skippedReason.isSome = true
  finished : record.finishedAtMs.isSome = true
  unfailed : record.error = none
  unverified : record.verification = none
  unattempted : record.attempts = none

/-- The records before an index succeeded, the others are untouched. -/
structure Between
    (steps : List WorkflowStep)
    (core : EngineCore)
    (index : Nat) :
    Prop where
  inside : index ≤ steps.length
  declared : core.records.map ExecutionStepRecord.step = steps
  before :
    ∀ earlier record,
      earlier < index → core.records[earlier]? = some record → Done record
  after :
    ∀ later record,
      index ≤ later → core.records[later]? = some record → Untouched record

/-- The record at an index is worked on. -/
structure AtStep
    (steps : List WorkflowStep)
    (core : EngineCore)
    (index : Nat)
    (current : ExecutionStepRecord) :
    Prop where
  declared : core.records.map ExecutionStepRecord.step = steps
  isCurrent : core.records[index]? = some current
  before :
    ∀ earlier record,
      earlier < index → core.records[earlier]? = some record → Done record
  after :
    ∀ later record,
      index < later → core.records[later]? = some record → Untouched record

/-- The run is over; what is left untouched is being skipped. -/
structure Leaving
    (steps : List WorkflowStep)
    (core : EngineCore)
    (primary : Option PrimaryTermination)
    (index : Nat) :
    Prop where
  declared : core.records.map ExecutionStepRecord.step = steps
  before :
    ∀ earlier record,
      earlier < index → core.records[earlier]? = some record → Done record
  current :
    ∀ record,
      core.records[index]? = some record →
        (∃ chosen, primary = some chosen ∧ EndedAt chosen record) ∨
          Untouched record ∨ Skipped record
  after :
    ∀ later record,
      index < later → core.records[later]? = some record →
        Untouched record ∨ Skipped record

namespace ExecutionStepRecord

variable (record : ExecutionStepRecord)

def withStatus (status : WorkflowEngineStepStatus) : ExecutionStepRecord :=
  { record with status }

def withStarted (startedAtMs : Nat) : ExecutionStepRecord :=
  { record with startedAtMs := some startedAtMs }

def withFinished (finishedAtMs : Nat) : ExecutionStepRecord :=
  { record with finishedAtMs := some finishedAtMs }

def withError (error : SafeExecutionError) : ExecutionStepRecord :=
  { record with error := some error }

def withVerification
    (verification : Option SafeVerificationResult) :
    ExecutionStepRecord :=
  { record with verification := verification.or record.verification }

def withAttempts (attempts : List SafeStepAttempt) : ExecutionStepRecord :=
  { record with attempts := some attempts }

end ExecutionStepRecord

section Updates

variable
    {steps : List WorkflowStep}
    {core : EngineCore}
    {index : Nat}
    {current : ExecutionStepRecord}

theorem modify_steps
    {records : List ExecutionStepRecord}
    {update : ExecutionStepRecord → ExecutionStepRecord}
    (keepsStep : ∀ record, (update record).step = record.step) :
    (records.modify index update).map ExecutionStepRecord.step =
      records.map ExecutionStepRecord.step := by
  apply List.ext_getElem?
  intro position
  simp only [List.getElem?_map, List.getElem?_modify]
  cases records[position]? with
  | none => rfl
  | some record =>
      by_cases same : index = position
      · simp [same, keepsStep]
      · simp [same]

variable {step : WorkflowStep} {core' : EngineCore}

theorem AtStep.step_of
    (stands : AtStep steps core index current)
    (atIndex : steps[index]? = some step) :
    current.step = step := by
  have mapped := congrArg (fun list => list[index]?) stands.declared
  simp only [List.getElem?_map, stands.isCurrent, Option.map_some] at mapped
  exact Option.some.inj (mapped.trans atIndex)

theorem AtStep.attemptsAt
    (stands : AtStep steps core index current) :
    core.attemptsAt index = current.attempts.getD [] := by
  simp [EngineCore.attemptsAt, stands.isCurrent]

/-- Only the current record changes. -/
theorem AtStep.update
    (stands : AtStep steps core index current)
    (update : ExecutionStepRecord → ExecutionStepRecord)
    (keepsStep : ∀ record, (update record).step = record.step)
    (updated : core'.records = core.records.modify index update) :
    AtStep steps core' index (update current) := by
  constructor
  case declared => rw [updated, modify_steps keepsStep, stands.declared]
  case isCurrent => simp [updated, stands.isCurrent]
  case before =>
    intro earlier record isEarlier found
    rw [updated, List.getElem?_modify_ne _ _ (by omega)] at found
    exact stands.before earlier record isEarlier found
  case after =>
    intro later record isLater found
    rw [updated, List.getElem?_modify_ne _ _ (by omega)] at found
    exact stands.after later record isLater found

/-- Updates that leave the records alone. -/
theorem AtStep.sameRecords
    (stands : AtStep steps core index current)
    (same : core'.records = core.records) :
    AtStep steps core' index current := by
  obtain ⟨declared, isCurrent, before, after⟩ := stands
  rw [← same] at declared isCurrent before after
  exact ⟨declared, isCurrent, before, after⟩

theorem AtStep.tellStep
    (stands : AtStep steps core index current)
    (executionId : Uuid)
    (timestamp : Nat)
    (step : WorkflowStep)
    (status : WorkflowEngineStepStatus)
    (error : Option SafeExecutionError)
    (reason : Option SkippedStepReason) :
    AtStep steps
      (core.tellStep executionId timestamp index step status error reason)
      index (current.withStatus status) :=
  stands.update (·.withStatus status) (fun _ => rfl) rfl

theorem AtStep.tellBegun
    {attempts : List SafeStepAttempt}
    (stands : AtStep steps core index current)
    (isAttempts : current.attempts.getD [] = attempts)
    (executionId : Uuid)
    (step : WorkflowStep)
    (attempt : SafeStepAttempt) :
    AtStep steps (core.tellBegun executionId index step attempt) index
      (current.withAttempts (attempts ++ [attempt])) := by
  have isList := stands.attemptsAt.trans isAttempts
  refine stands.update (·.withAttempts (attempts ++ [attempt]))
    (fun _ => rfl) ?_
  rw [EngineCore.tellBegun, isList]
  rfl

theorem AtStep.tellFinished
    {attempts : List SafeStepAttempt}
    {attempt : SafeStepAttempt}
    (stands : AtStep steps core index current)
    (isAttempts : current.attempts = some (attempts ++ [attempt]))
    (executionId : Uuid)
    (timestamp : Nat)
    (step : WorkflowStep)
    (status : StepAttemptStatus)
    (effectCertainty : ExecutionEffectCertainty)
    (retryAllowed : Bool)
    (error : Option SafeExecutionError) :
    AtStep steps
      (core.tellFinished executionId timestamp index step attempt status
        effectCertainty retryAllowed error)
      index
      (current.withAttempts (attempts ++
        [finishedAttempt attempt status effectCertainty error
          timestamp])) := by
  have isList : core.attemptsAt index = attempts ++ [attempt] := by
    simp [stands.attemptsAt, isAttempts]
  refine stands.update
    (·.withAttempts (attempts ++
      [finishedAttempt attempt status effectCertainty error timestamp]))
    (fun _ => rfl) ?_
  rw [EngineCore.tellFinished, isList, List.dropLast_concat]
  rfl

theorem AtStep.startRecord
    (stands : AtStep steps core index current)
    (startedAtMs : Nat) :
    AtStep steps (core.startRecord index startedAtMs) index
      (current.withStarted startedAtMs) :=
  stands.update (·.withStarted startedAtMs) (fun _ => rfl) rfl

theorem AtStep.finishRecord
    (stands : AtStep steps core index current)
    (finishedAtMs : Nat) :
    AtStep steps (core.finishRecord index finishedAtMs) index
      (current.withFinished finishedAtMs) :=
  stands.update (·.withFinished finishedAtMs) (fun _ => rfl) rfl

theorem AtStep.failRecord
    (stands : AtStep steps core index current)
    (error : SafeExecutionError) :
    AtStep steps (core.failRecord index error) index
      (current.withError error) :=
  stands.update (·.withError error) (fun _ => rfl) rfl

theorem AtStep.verifyRecord
    (stands : AtStep steps core index current)
    (verification : Option SafeVerificationResult) :
    AtStep steps (core.verifyRecord index verification) index
      (current.withVerification verification) := by
  cases verification with
  | none => exact stands
  | some result =>
      exact stands.update (·.withVerification (some result)) (fun _ => rfl) rfl

/-- Opening the step at an index. -/
theorem Between.atStep
    (stands : Between steps core index)
    (atIndex : steps[index]? = some step) :
    AtStep steps core index (ExecutionStepRecord.create step) := by
  have mapped := congrArg (fun list => list[index]?) stands.declared
  simp only [List.getElem?_map, atIndex, Option.map_eq_some_iff] at mapped
  obtain ⟨record, found, isStep⟩ := mapped
  have untouched := stands.after index record (Nat.le_refl _) found
  rw [Untouched, isStep] at untouched
  exact ⟨stands.declared, untouched ▸ found, stands.before,
    fun later record isLater =>
      stands.after later record (Nat.le_of_lt isLater)⟩

/-- Going on to the next step after the current one succeeded. -/
theorem AtStep.between
    (stands : AtStep steps core index current)
    (done : Done current) :
    Between steps core (index + 1) := by
  constructor
  case inside =>
    rw [← stands.declared, List.length_map]
    exact (List.getElem?_eq_some_iff.mp stands.isCurrent).1
  case declared => exact stands.declared
  case before =>
    intro earlier record isEarlier found
    rcases Nat.lt_succ_iff_lt_or_eq.mp isEarlier with before | rfl
    · exact stands.before earlier record before found
    · cases stands.isCurrent.symm.trans found
      exact done
  case after =>
    intro later record isLater
    exact stands.after later record isLater

theorem AtStep.leaving
    {primary : PrimaryTermination}
    (stands : AtStep steps core index current)
    (ended : EndedAt primary current) :
    Leaving steps core (some primary) index := by
  refine ⟨stands.declared, stands.before, ?_, ?_⟩
  · intro record found
    cases stands.isCurrent.symm.trans found
    exact Or.inl ⟨primary, rfl, ended⟩
  · intro later record isLater found
    exact Or.inl (stands.after later record isLater found)

theorem Between.leaving
    (stands : Between steps core index)
    (primary : Option PrimaryTermination) :
    Leaving steps core primary index := by
  refine ⟨stands.declared, stands.before, ?_, ?_⟩
  · intro record found
    exact Or.inr (Or.inl (stands.after index record (Nat.le_refl _) found))
  · intro later record isLater found
    exact Or.inl (stands.after later record (Nat.le_of_lt isLater) found)

theorem Between.sameRecords
    (stands : Between steps core index)
    (same : core'.records = core.records) :
    Between steps core' index := by
  obtain ⟨inside, declared, before, after⟩ := stands
  rw [← same] at declared before after
  exact ⟨inside, declared, before, after⟩

theorem Leaving.sameRecords
    {primary : Option PrimaryTermination}
    (stands : Leaving steps core primary index)
    (same : core'.records = core.records) :
    Leaving steps core' primary index := by
  obtain ⟨declared, before, current, after⟩ := stands
  rw [← same] at declared before current after
  exact ⟨declared, before, current, after⟩

/-- Skipping one pending step. -/
theorem Leaving.skip
    {primary : Option PrimaryTermination}
    {position : Nat}
    {step : WorkflowStep}
    (stands : Leaving steps core primary index)
    (executionId : Uuid)
    (finishedAtMs timestamp : Nat)
    (reason : SkippedStepReason)
    (isPending :
      core.records[position]?.map ExecutionStepRecord.status =
        some .pending) :
    Leaving steps
      ((core.skipRecord position finishedAtMs reason).tellStep executionId
        timestamp position step .skipped none (some reason))
      primary index := by
  obtain ⟨declared, before, current, after⟩ := stands
  obtain ⟨skippedRecord, found, pending⟩ := Option.map_eq_some_iff.mp isPending
  let update (record : ExecutionStepRecord) : ExecutionStepRecord :=
    { record with
      skippedReason := some reason
      finishedAtMs := some finishedAtMs
      status := .skipped }
  have records :
      ((core.skipRecord position finishedAtMs reason).tellStep executionId
          timestamp position step .skipped none (some reason)).records =
        core.records.modify position update := by
    simp [EngineCore.skipRecord, EngineCore.tellStep, EngineCore.setStep,
      EngineCore.updateRecord, EngineCore.tell, EngineCore.note,
      List.modify_modify_eq, Function.comp_def, update]
  have skips :
      ∀ record, Untouched record → Skipped (update record) := by
    intro record untouched
    rw [Untouched] at untouched
    rw [untouched]
    constructor <;> rfl
  -- A step that succeeded, ended the run or was skipped is not pending.
  have notBefore : index ≤ position := by
    by_contra isBefore
    have done := before position skippedRecord (by omega) found
    simp [done.succeeded] at pending
  constructor
  case declared =>
    rw [records, @modify_steps _ _ update fun _ => rfl, declared]
  case before =>
    intro earlier record isEarlier present
    rw [records, List.getElem?_modify_ne _ _ (by omega)] at present
    exact before earlier record isEarlier present
  case current =>
    intro record present
    rw [records] at present
    by_cases same : position = index
    · subst same
      rw [List.getElem?_modify_eq, found] at present
      cases present
      rcases current skippedRecord found with
        ⟨chosen, _, ended⟩ | untouched | skipped
      · have terminal := ended.ended
        rw [pending] at terminal
        cases cause : chosen.cause <;>
          simp [cause, terminatedStepStatus] at terminal
      · exact Or.inr (Or.inr (skips skippedRecord untouched))
      · simp [skipped.skipped] at pending
    · rw [List.getElem?_modify_ne _ _ same] at present
      exact current record present
  case after =>
    intro later record isLater present
    rw [records] at present
    by_cases same : position = later
    · subst same
      rw [List.getElem?_modify_eq, found] at present
      cases present
      rcases after position skippedRecord isLater found with
        untouched | skipped
      · exact Or.inr (skips skippedRecord untouched)
      · simp [skipped.skipped] at pending
    · rw [List.getElem?_modify_ne _ _ same] at present
      exact after later record isLater present

end Updates

end TaskTwin.Engine
