import TaskTwin.Schedule.StartWindow

/-!
# Ambiguous outcomes

A schedule is paused when the occurrence of an interrupted run is reconciled.
Other runs may end with a step whose last attempt may have taken effect; their
schedules go on.
-/

namespace TaskTwin.Schedule

open Text Workflow Recovery Engine Audit Store RunStore

variable {Trail : Type}

/-- A step that has not succeeded, whose last attempt may have taken effect. -/
def mayHaveTakenEffect (step : WorkflowRunStep) : Bool :=
  step.status != .succeeded &&
    step.attempts.getLast?.any fun attempt =>
      attempt.effectCertainty == .sideEffectPossible ||
        attempt.effectCertainty == .unknown

/-- A run that has ended without success and with an ambiguous outcome. -/
def hasAmbiguousOutcome (run : WorkflowRun) : Bool :=
  run.status.isTerminal && run.status != .succeeded &&
    (run.status == .interrupted || run.steps.any mayHaveTakenEffect)

/-- An occurrence is reconciled whose run has an ambiguous outcome. -/
structure ReconcilesAmbiguity
    (db db' : Database Trail)
    (occurrence : WorkflowScheduleOccurrence) :
    Prop where
  found : db.occurrence? occurrence.id = some occurrence
  dispatched : occurrence.status = .dispatched
  reconciled :
    ∀ row,
      db'.occurrence? occurrence.id = some row → row.status ≠ .dispatched
  ambiguous :
    ∃ runId run run',
      occurrence.workflowRunId = some runId ∧
        db.store.run? runId = some run ∧ db'.store.run? runId = some run' ∧
        (hasAmbiguousOutcome run = true ∨ hasAmbiguousOutcome run' = true)

/-- Reconciled ambiguity pauses schedules until they are resumed. -/
structure PausesAmbiguity
    (hasher : AuditHasher)
    (append : Trail → JsValue → Option Trail)
    (calendar : Calendar)
    (db : Database Trail)
    (actions : List Action) :
    Prop where
  pauses :
    ∀ before action after,
      actions = before ++ action :: after →
      ∀ occurrence,
        ReconcilesAmbiguity (performAll hasher append calendar db before)
          (performAll hasher append calendar db (before ++ [action]))
          occurrence →
        ∃ schedule,
          (performAll hasher append calendar db (before ++ [action])).schedule?
              occurrence.scheduleId =
            some schedule ∧
            schedule.status = .autoPaused ∧
            schedule.autoPauseReason = some .ambiguousOutcome
  stays :
    ∀ before action later after,
      actions = before ++ action :: (later ++ after) →
      ∀ occurrence,
        ReconcilesAmbiguity (performAll hasher append calendar db before)
          (performAll hasher append calendar db (before ++ [action]))
          occurrence →
        (∀ first actorUserId now rest,
          later = first ++ .resume actorUserId occurrence.scheduleId now :: rest →
          ∀ schedule,
            (performAll hasher append calendar db
                (before ++ action :: first)).managedSchedule actorUserId
                occurrence.scheduleId ≠
              .ok schedule) →
        (∃ schedule,
          (performAll hasher append calendar db
              (before ++ action :: later)).schedule? occurrence.scheduleId =
            some schedule ∧
            schedule.status ≠ .active) ∧
          ∀ scheduled ∈
              (performAll hasher append calendar db
                (before ++ action :: later)).scheduledRuns,
            scheduled.scheduleId = occurrence.scheduleId →
            scheduled ∈
              (performAll hasher append calendar db
                (before ++ [action])).scheduledRuns

/-- An action that reconciles ambiguity only where it pauses. -/
structure EndsPaused (db : Database Trail) (action : Action) : Prop where
  completion :
    ∀ input,
      action = .handleRunCompletion input →
      ∀ occurrence,
        db.occurrence? input.occurrenceId = some occurrence →
        occurrence.status = .dispatched →
        ∀ runId run,
          occurrence.workflowRunId = some runId →
          db.store.run? runId = some run →
          hasAmbiguousOutcome run = true →
          run.status = .interrupted ∨
            (run.status = .failed ∧
              isSideEffectUnknown input.terminationCause = true)
  expiry :
    ∀ occurrenceId now,
      action = .expireStartWindow occurrenceId now →
      ∀ occurrence,
        db.occurrence? occurrenceId = some occurrence →
        hasMissedWindow now occurrence = true →
        ∀ runId run,
          occurrence.workflowRunId = some runId →
          db.store.run? runId = some run →
          run.status ≠ .interrupted ∧ run.steps.any mayHaveTakenEffect = false

/-- A scheduled run is the run of its occurrence. -/
def LinkedOccurrences (db : Database Trail) : Prop :=
  ∀ scheduled ∈ db.scheduledRuns,
    ∃ occurrence,
      db.occurrence? scheduled.occurrenceId = some occurrence ∧
        occurrence.workflowRunId = some scheduled.runId

variable
  {hasher : AuditHasher}
  {append : Trail → JsValue → Option Trail}
  {calendar : Calendar}
  {action : Action}
  {db db' : Database Trail}

/-- No action changes which run an occurrence has. -/
theorem Commit.runOf
    (commit : Commit hasher append calendar action db db')
    {occurrenceId : JsString}
    {occurrence : WorkflowScheduleOccurrence}
    (found : db.occurrence? occurrenceId = some occurrence) :
    ∃ row,
      db'.occurrence? occurrenceId = some row ∧
        row.workflowRunId = occurrence.workflowRunId := by
  have updated :
      ∀ (base : Database Trail) (updatedId : JsString)
        (change : WorkflowScheduleOccurrence → WorkflowScheduleOccurrence),
        base.occurrences = db.occurrences →
        (∀ row,
          (change row).id = row.id ∧
            (change row).workflowRunId = row.workflowRunId) →
        ∃ row,
          (base.updateOccurrence updatedId change).occurrence? occurrenceId =
              some row ∧
            row.workflowRunId = occurrence.workflowRunId := by
    intro base updatedId change sameOccurrences keeps
    have found' :
        findUnique WorkflowScheduleOccurrence.id occurrenceId
            base.occurrences =
          some occurrence := by
      rw [sameOccurrences]
      exact found
    rw [Database.occurrence?, Database.updateOccurrence,
      findUnique_updateMany fun row => (keeps row).1, found', Option.map_some]
    refine ⟨_, rfl, ?_⟩
    split
    · exact (keeps occurrence).2
    · rfl
  cases commit with
  | skipped input isTick schedule scheduledFor isDue reason change isChange
      created isCreated =>
      obtain ⟨-, -, rfl⟩ := createOccurrence_eq_ok.mp isCreated
      exact ⟨occurrence, occurrence?_created found rfl, rfl⟩
  | dispatched input isTick schedule scheduledFor isDue canDispatch version
      policy pinned committed result isDispatched =>
      have occurrences := (dispatched_of_eq_ok isDispatched).occurrences
      exact ⟨occurrence, occurrence?_created found occurrences, rfl⟩
  | completed input isCompletion ended isOccurrence was schedule ofSchedule =>
      exact updated db ended.id _ rfl fun row => ⟨rfl, rfl⟩
  | expired occurrenceId' now isExpiry ended isOccurrence missed store
      isExpired =>
      exact updated { db with store } ended.id _ rfl fun row => ⟨rfl, rfl⟩
  | failed input isClaim store isCommitted run isFailed scheduled isScheduled =>
      exact
        updated
          (({ db with store }).updateSchedule scheduled.scheduleId
            (secretPausedSchedule input.now scheduled.occurrenceId))
          scheduled.occurrenceId (secretSkippedOccurrence input.now) rfl
          fun row => ⟨rfl, rfl⟩
  | _ => exact ⟨occurrence, found, rfl⟩

/-- Every action keeps scheduled runs the runs of their occurrences. -/
theorem LinkedOccurrences.next
    (linked : LinkedOccurrences db)
    (commit : Commit hasher append calendar action db db') :
    LinkedOccurrences db' := by
  have old :
      ∀ scheduled ∈ db.scheduledRuns,
        ∃ occurrence,
          db'.occurrence? scheduled.occurrenceId = some occurrence ∧
            occurrence.workflowRunId = some scheduled.runId := by
    intro scheduled listed
    obtain ⟨occurrence, found, ofRun⟩ := linked scheduled listed
    obtain ⟨row, found', sameRun⟩ := commit.runOf found
    exact ⟨row, found', sameRun.trans ofRun⟩
  cases commit with
  | skipped input isTick schedule scheduledFor isDue reason change isChange
      created isCreated =>
      obtain ⟨-, -, rfl⟩ := createOccurrence_eq_ok.mp isCreated
      exact old
  | dispatched input isTick schedule scheduledFor isDue canDispatch version
      policy pinned committed result isDispatched =>
      have dispatched := dispatched_of_eq_ok isDispatched
      intro scheduled listed
      rw [dispatched.scheduledRuns, List.mem_append] at listed
      rcases listed with was | isNew
      · exact old scheduled was
      · obtain rfl := List.mem_singleton.mp isNew
        have isListed :
            { input.occurrence schedule scheduledFor .dispatched with
                workflowRunId := some input.newRunId
                dispatchedAt := some input.now } ∈ db'.occurrences := by
          rw [dispatched.occurrences]
          exact List.mem_append_right _ (List.mem_singleton_self _)
        exact ⟨_, findUnique_of_mem dispatched.occurrenceIds isListed, rfl⟩
  | _ => exact old

/-- No action begins an attempt at a queued run. -/
theorem Commit.hasNotBegun
    (notBegun : QueuedHaveNotBegun db.store)
    (commit : Commit hasher append calendar action db db') :
    QueuedHaveNotBegun db'.store := by
  cases commit with
  | skipped input isTick schedule scheduledFor isDue reason change isChange
      created isCreated =>
      obtain ⟨-, -, rfl⟩ := createOccurrence_eq_ok.mp isCreated
      exact notBegun
  | dispatched input isTick schedule scheduledFor isDue canDispatch version
      policy pinned committed result isDispatched =>
      intro run listed
      rw [(dispatched_of_eq_ok isDispatched).runs, List.mem_append] at listed
      rcases listed with old | isNew
      · exact notBegun run old
      · obtain rfl := List.mem_singleton.mp isNew
        exact fun _ => createdSteps_attempts version.workflow
  | expired occurrenceId now isExpiry occurrence found missed store isExpired =>
      rcases expireRunOf_eq_ok isExpired with ⟨-, rfl⟩ | ⟨run, -, -, rfl⟩
      · exact notBegun
      · apply putRun_hasNotBegun notBegun
        intro queued
        cases queued
  | ran transaction isRun store isCommitted =>
      exact
        queuedHaveNotBegun_kept.commits notBegun
          (transaction.commits isCommitted)
  | failed input isClaim store isCommitted run isFailed scheduled isScheduled =>
      exact
        queuedHaveNotBegun_kept.commits notBegun
          ((Transaction.claim input).commits isCommitted)
  | _ => exact notBegun

theorem hasAmbiguousOutcome_queued
    {run : WorkflowRun}
    (queued : run.status = .queued) :
    hasAmbiguousOutcome run = false := by
  rw [hasAmbiguousOutcome, queued]
  rfl

/-- A run that a claim has failed was not begun. -/
theorem claim_fails_unambiguously
    {input : ClaimRun}
    {store store' : RunStore.Database Trail}
    (distinct : DistinctRuns store)
    (notBegun : QueuedHaveNotBegun store)
    (isCommitted :
      (Transaction.claim input).commit hasher append store = .ok store')
    {runId : JsString}
    {run run' : WorkflowRun}
    (found : store.run? runId = some run)
    (found' : store'.run? runId = some run')
    (queued : run.status = .queued)
    (failed : run'.status = .failed) :
    hasAmbiguousOutcome run' = false := by
  obtain ⟨answer, committed⟩ := map_fst_eq_ok.mp isCommitted
  obtain ⟨listed, -⟩ := RunStore.Database.mem_of_run? found
  rcases claim_queued distinct committed found queued with
    same | ⟨runner, canClaim, isNext, after⟩
  · obtain rfl := Option.some.inj (found'.symm.trans same)
    exact hasAmbiguousOutcome_queued queued
  · obtain rfl := Option.some.inj (found'.symm.trans after)
    rcases
      @claimQueued_cases hasher input runner
        ((store.activePolicy run.workspaceId).map PolicyVersion.id) run with
      ⟨actorReason, cause, reason, isFailed⟩ | ⟨isClaimed, -⟩
    · have noAttempts :
          ∀ step ∈ (failBeforeExecution hasher actorReason cause reason
              input.now run).run.steps,
            step.attempts = [] := by
        apply attempts_map _ (notBegun run listed queued)
        intro step none
        rw [skipPendingStep_attempts]
        exact none
      rw [isFailed, hasAmbiguousOutcome]
      have noEffect :
          (failBeforeExecution hasher actorReason cause reason input.now
              run).run.steps.any mayHaveTakenEffect =
            false := by
        rw [List.any_eq_false]
        intro step isStep
        rw [mayHaveTakenEffect, noAttempts step isStep]
        simp
      rw [noEffect]
      rfl
    · rw [isClaimed] at failed
      cases failed

/-- An action that reconciles an ambiguous outcome pauses the schedule. -/
theorem Commit.pausesAmbiguity
    (distinct : DistinctRuns db.store)
    (notBegun : QueuedHaveNotBegun db.store)
    (linked : LinkedOccurrences db)
    (ends : EndsPaused db action)
    (commit : Commit hasher append calendar action db db')
    {occurrence : WorkflowScheduleOccurrence}
    (reconciles : ReconcilesAmbiguity db db' occurrence) :
    ∃ schedule,
      db'.schedule? occurrence.scheduleId = some schedule ∧
        schedule.status = .autoPaused ∧
        schedule.autoPauseReason = some .ambiguousOutcome := by
  have notKept : db'.occurrence? occurrence.id ≠ some occurrence :=
    fun kept => reconciles.reconciled occurrence kept reconciles.dispatched
  obtain ⟨runId, run, run', ofRun, isRun, isRun', ambiguous⟩ :=
    reconciles.ambiguous
  cases commit with
  | skipped input isTick schedule scheduledFor isDue reason change isChange
      created isCreated =>
      obtain ⟨-, -, rfl⟩ := createOccurrence_eq_ok.mp isCreated
      exact absurd (occurrence?_created reconciles.found rfl) notKept
  | dispatched input isTick schedule scheduledFor isDue canDispatch version
      policy pinned committed result isDispatched =>
      have occurrences := (dispatched_of_eq_ok isDispatched).occurrences
      exact absurd (occurrence?_created reconciles.found occurrences) notKept
  | completed input isCompletion ended isOccurrence was schedule ofSchedule =>
      by_cases isEnded : occurrence.id = ended.id
      · have isInput : ended.id = input.occurrenceId :=
          (mem_of_findUnique isOccurrence).2
        rw [← isInput, ← isEnded] at isOccurrence
        obtain rfl :=
          Option.some.inj (reconciles.found.symm.trans isOccurrence)
        obtain rfl := Option.some.inj (isRun.symm.trans isRun')
        have status : db.runStatusOf occurrence = some run.status := by
          rw [Database.runStatusOf, ofRun, Option.bind_some, isRun,
            Option.map_some]
        have pauses :
            (completionOutcome (db.runStatusOf occurrence)
                input.terminationCause).2 =
              true := by
          rw [completionOutcome_pauses, status, endsAmbiguously]
          rcases
            ends.completion input isCompletion occurrence
              (isInput ▸ reconciles.found) was runId run ofRun isRun
              (or_self_iff.mp ambiguous) with
            interrupted | ⟨failed, unknown⟩
          · rw [interrupted]
            rfl
          · rw [failed, unknown]
            rfl
        refine
          ⟨_,
            schedule?_updated
              (fun row => completedSchedule_id input occurrence _ row)
              ofSchedule,
            ?_, ?_⟩
        · rw [pauses]
          rfl
        · rw [pauses]
          rfl
      · have same :=
          @occurrence?_not_updated Trail db
            ended.id occurrence.id
            (completedOccurrence input
              (completionOutcome (db.runStatusOf ended)
                input.terminationCause).1)
            (fun row => rfl) isEnded
        exact absurd (same.trans reconciles.found) notKept
  | expired occurrenceId now isExpiry ended isOccurrence missed store
      isExpired =>
      by_cases isEnded : occurrence.id = ended.id
      · have isInput : ended.id = occurrenceId :=
          (mem_of_findUnique isOccurrence).2
        rw [← isInput, ← isEnded] at isOccurrence
        obtain rfl :=
          Option.some.inj (reconciles.found.symm.trans isOccurrence)
        obtain ⟨notInterrupted, noEffect⟩ :=
          ends.expiry occurrenceId now isExpiry occurrence
            (isInput ▸ reconciles.found) missed runId run ofRun isRun
        exfalso
        rcases expireRunOf_eq_ok isExpired with
          ⟨noRun, -⟩ | ⟨row, isRowId, isRow, rfl⟩
        · rw [noRun] at ofRun
          cases ofRun
        · obtain rfl := Option.some.inj (ofRun.symm.trans isRowId)
          obtain rfl := Option.some.inj (isRun.symm.trans isRow)
          obtain ⟨listed, -⟩ := RunStore.Database.mem_of_run? isRun
          have isPut :
              (db.store.putRun (expiredRun now run)).run? run.id =
                if run.id = run.id then some (expiredRun now run)
                else db.store.run? run.id :=
            run?_putRun run.id ⟨run, listed, rfl⟩
          rw [if_pos rfl] at isPut
          obtain rfl := Option.some.inj (isRun'.symm.trans isPut)
          rcases ambiguous with before | after
          · simp [hasAmbiguousOutcome, noEffect, notInterrupted] at before
          · simp [hasAmbiguousOutcome, expiredRun, noEffect] at after
      · have same :=
          @occurrence?_not_updated Trail { db with store }
            ended.id occurrence.id
            expiredOccurrence
            (fun row => rfl) isEnded
        exact absurd (same.trans reconciles.found) notKept
  | failed input isClaim store isCommitted failed isFailed scheduled
      isScheduled =>
      by_cases isEnded : occurrence.id = scheduled.occurrenceId
      · exfalso
        obtain ⟨listed, sameRun⟩ := mem_of_findUnique isScheduled
        obtain ⟨other, isOther, ofScheduled⟩ := linked scheduled listed
        rw [← isEnded] at isOther
        obtain rfl := Option.some.inj (reconciles.found.symm.trans isOther)
        have isFailedId : runId = failed.id := by
          rw [ofScheduled, Option.some.injEq] at ofRun
          exact ofRun.symm.trans sameRun
        have fails := failsForSecrets_of_find isFailed
        obtain ⟨queuedRun, isQueued, queued⟩ := fails.queued
        obtain ⟨failedRun, isFailedRun, hasFailed, -⟩ := fails.failed
        rw [isFailedId] at isRun isRun'
        obtain rfl := Option.some.inj (isRun.symm.trans isQueued)
        obtain rfl := Option.some.inj (isRun'.symm.trans isFailedRun)
        rcases ambiguous with before | after
        · rw [hasAmbiguousOutcome_queued queued] at before
          cases before
        · rw [claim_fails_unambiguously distinct notBegun isCommitted isRun
            isRun' queued hasFailed] at after
          cases after
      · have same :=
          @occurrence?_not_updated Trail (({ db with store }).updateSchedule scheduled.scheduleId
              (secretPausedSchedule input.now scheduled.occurrenceId))
            scheduled.occurrenceId occurrence.id
            (secretSkippedOccurrence input.now)
            (fun row => rfl) isEnded
        exact absurd (same.trans reconciles.found) notKept
  | _ => exact absurd reconciles.found notKept

theorem performAll_hasNotBegun
    (notBegun : QueuedHaveNotBegun db.store)
    (actions : List Action) :
    QueuedHaveNotBegun (performAll hasher append calendar db actions).store := by
  induction actions using List.reverseRecOn with
  | nil => exact notBegun
  | append_singleton actions action inductionHypothesis =>
      rw [performAll_concat]
      exact
        (perform_commits hasher append calendar _ action).hasNotBegun
          inductionHypothesis

theorem performAll_linked
    (linked : LinkedOccurrences db)
    (actions : List Action) :
    LinkedOccurrences (performAll hasher append calendar db actions) := by
  induction actions using List.reverseRecOn with
  | nil => exact linked
  | append_singleton actions action inductionHypothesis =>
      rw [performAll_concat]
      exact
        inductionHypothesis.next
          (perform_commits hasher append calendar _ action)

/-- A schedule that is not active stays so, and gets no run, until a manager
resumes it. -/
theorem stays_inactive
    {scheduleId : JsString}
    {schedule : WorkflowSchedule}
    (found : db.schedule? scheduleId = some schedule)
    (inactive : schedule.status ≠ .active)
    (later : List Action)
    (notResumed :
      ∀ first actorUserId now rest,
        later = first ++ .resume actorUserId scheduleId now :: rest →
        ∀ row,
          (performAll hasher append calendar db first).managedSchedule
              actorUserId scheduleId ≠
            .ok row) :
    (∃ row,
      (performAll hasher append calendar db later).schedule? scheduleId =
          some row ∧
        row.status ≠ .active) ∧
      ∀ scheduled ∈ (performAll hasher append calendar db later).scheduledRuns,
        scheduled.scheduleId = scheduleId → scheduled ∈ db.scheduledRuns := by
  induction later using List.reverseRecOn with
  | nil => exact ⟨⟨schedule, found, inactive⟩, fun _ listed _ => listed⟩
  | append_singleton later action inductionHypothesis =>
      obtain ⟨⟨row, isRow, wasInactive⟩, noRun⟩ :=
        inductionHypothesis fun first actorUserId now rest isSplit =>
          notResumed first actorUserId now (rest ++ [action])
            (by simp [isSplit])
      have commit :=
        perform_commits hasher append calendar
          (performAll hasher append calendar db later) action
      have move := commit.scheduleMove scheduleId
      rw [isRow] at move
      obtain ⟨row', isRow'⟩ := move.exists
      rw [isRow'] at move
      rw [performAll_concat]
      constructor
      · refine ⟨row', isRow', ?_⟩
        intro active
        obtain ⟨actorUserId, now, rfl, managed⟩ :=
          move.resumes wasInactive active
        exact notResumed later actorUserId now [] rfl row managed
      · intro scheduled listed ofSchedule
        by_cases old :
            scheduled ∈ (performAll hasher append calendar db later).scheduledRuns
        · exact noRun scheduled old ofSchedule
        · exfalso
          obtain ⟨active, isActive, status⟩ := commit.dispatches listed old
          rw [ofSchedule, isRow] at isActive
          obtain rfl := Option.some.inj isActive
          exact wasInactive status

/--
While every completion of an ambiguous run is one that pauses, and no expiry
finds its run ambiguous, the schedule of every ambiguous run is paused when its
occurrence is reconciled, and stays so until a manager resumes it.
-/
theorem ambiguity_pauses
    (hasher : AuditHasher)
    (append : Trail → JsValue → Option Trail)
    (calendar : Calendar)
    (db : Database Trail)
    (distinct : DistinctRuns db.store)
    (notBegun : QueuedHaveNotBegun db.store)
    (linked : LinkedOccurrences db)
    (actions : List Action)
    (ends :
      ∀ before action after,
        actions = before ++ action :: after →
        EndsPaused (performAll hasher append calendar db before) action) :
    PausesAmbiguity hasher append calendar db actions := by
  have pauses :
      ∀ before action after,
        actions = before ++ action :: after →
        ∀ occurrence,
          ReconcilesAmbiguity (performAll hasher append calendar db before)
            (performAll hasher append calendar db (before ++ [action]))
            occurrence →
          ∃ schedule,
            (performAll hasher append calendar db
                (before ++ [action])).schedule? occurrence.scheduleId =
              some schedule ∧
              schedule.status = .autoPaused ∧
              schedule.autoPauseReason = some .ambiguousOutcome := by
    intro before action after isSplit occurrence reconciles
    rw [performAll_concat] at reconciles ⊢
    exact
      (perform_commits hasher append calendar _ action).pausesAmbiguity
        (distinctRuns_performAll distinct before)
        (performAll_hasNotBegun notBegun before)
        (performAll_linked linked before) (ends before action after isSplit)
        reconciles
  constructor
  · exact pauses
  · intro before action later after isSplit occurrence reconciles notResumed
    obtain ⟨schedule, found, isPaused, -⟩ :=
      pauses before action (later ++ after) isSplit occurrence reconciles
    have inactive : schedule.status ≠ .active := by
      rw [isPaused]
      intro active
      cases active
    have regroup :
        ∀ rest : List Action,
          performAll hasher append calendar db (before ++ action :: rest) =
            performAll hasher append calendar
              (performAll hasher append calendar db (before ++ [action]))
              rest := by
      intro rest
      rw [← performAll_append, List.append_assoc, List.singleton_append]
    rw [regroup later]
    apply stays_inactive found inactive later
    intro first actorUserId now rest isLater row
    rw [← regroup first]
    exact notResumed first actorUserId now rest isLater row

def exampleRunId : String := "00000000-0000-0000-0000-000000000005"

/-- The run of the first occurrence is claimed. -/
def startedActions : List Action :=
  [.changed (exampleSurroundings firstMidnight), .create exampleCreateSchedule,
    .processOccurrence (exampleTick firstMidnight "occurrence" exampleRunId),
    .run (.claim (exampleClaim firstMidnight))]

/-- A click is tried, and fails after it may have taken effect. -/
def exampleEventKinds : List ProgressEventKind :=
  [.runStatusChanged .pending none, .runStatusChanged .validating none,
    .runStatusChanged .starting none, .runStatusChanged .running none,
    .stepStatusChanged exampleGate .click .pending none none,
    .stepStatusChanged exampleGate .click .running none none,
    .stepAttemptStatusChanged exampleGate 1 .initial .running none .unknown
      false,
    .stepAttemptStatusChanged exampleGate 1 .initial .failed
      (some .actionFailed) .sideEffectPossible false,
    .stepStatusChanged exampleGate .click .failed (some .actionFailed) none,
    .runStatusChanged .failed (some .actionFailed)]

def exampleEvents : List SequencedWorkflowProgressEvent :=
  exampleEventKinds.zipIdx.map fun indexed =>
    { sequence := indexed.2 + 1
      event :=
        { executionId := ⟨5⟩
          timestamp := firstMidnight + indexed.2
          kind := indexed.1 } }

theorem exampleEvents_parse : exampleEvents.all (·.event.parses) = true := by
  decide +kernel

def exampleProgress : IngestProgress :=
  { workflowRunId := js exampleRunId
    lease := exampleLease
    batch :=
      { clientBatchId := js "batch"
        firstSequence := 1
        lastSequence := 10
        events := exampleEvents
        positive := Nat.one_pos
        nonEmpty := List.cons_ne_nil _ _
        notTooMany := Nat.le_add_left 10 40
        eventsParse := exampleEvents_parse
        range := rfl
        contiguous := rfl }
    payloadDigest := js "batch"
    now := firstMidnight + 20
    newAttemptId := fun _ => [] }

/-- The attempt that failed. -/
def exampleAttempt : SafeStepAttempt :=
  { attemptNumber := 1
    trigger := .initial
    status := .failed
    startedAt := firstMidnight + 6
    finishedAt := some (firstMidnight + 7)
    durationMs := some 1
    errorCode := some .actionFailed
    effectCertainty := .sideEffectPossible
    repairRequestId := none }

def exampleResult : WorkflowExecutionResult :=
  { executionId := ⟨5⟩
    workflowId := none
    workflowVersion := none
    status := .failed
    startedAt := firstMidnight
    finishedAt := firstMidnight + 10
    durationMs := 10
    terminationCause := .stepFailed
    counts :=
      { total := 1
        attempted := 1
        succeeded := 0
        failed := 1
        cancelled := 0
        timedOut := 0
        interrupted := 0
        skipped := 0 }
    failedStepId := some exampleGate
    error := some (safeError .actionFailed)
    warnings := []
    steps :=
      [{ stepId := exampleGate
         stepType := .click
         status := .failed
         startedAt := some (firstMidnight + 5)
         finishedAt := firstMidnight + 8
         durationMs := 3
         locatorKind := none
         skippedReason := none
         error := some (safeError .actionFailed)
         verification := none
         attempts := some [exampleAttempt] }]
    outputs := [] }

def exampleComplete : Complete :=
  { workflowRunId := js exampleRunId
    lease := exampleLease
    completion :=
      { clientCompletionId := js "completion"
        digest := js "digest"
        result := exampleResult
        resultDigest := js "result" }
    now := firstMidnight + 30 }

/-- The runner reports its progress and completes the run. -/
def failedActions : List Action :=
  startedActions ++
    [.run (.ingestProgress exampleProgress), .run (.complete exampleComplete)]

/-- The occurrence of the failed run is reconciled. -/
def exampleReconciliation : RunCompletion :=
  { occurrenceId := js "occurrence"
    terminationCause := some (storedCauseText (.engine .stepFailed))
    now := firstMidnight + 40 }

def exampleOutcome (actions : List Action) : Option (WorkflowRunStatus × Bool) :=
  ((performAll exampleHasher exampleAppend exampleCalendar emptyDatabase
    actions).store.run? (js exampleRunId)).map fun run =>
      (run.status, hasAmbiguousOutcome run)

theorem failedActions_outcome :
    exampleOutcome failedActions = some (.failed, true) := by
  decide +kernel

def reconciledActions : List Action :=
  failedActions ++ [.handleRunCompletion exampleReconciliation]

theorem reconciledActions_outcome :
    exampleOutcome reconciledActions = some (.failed, true) := by
  decide +kernel

def exampleOccurrence (actions : List Action) :
    Option (WorkflowScheduleOccurrenceStatus × Option JsString × JsString) :=
  ((performAll exampleHasher exampleAppend exampleCalendar emptyDatabase
    actions).occurrence? (js "occurrence")).map fun occurrence =>
      (occurrence.status, occurrence.workflowRunId, occurrence.scheduleId)

theorem failedActions_occurrence :
    exampleOccurrence failedActions =
      some (.dispatched, some (js exampleRunId), js "schedule") := by
  decide +kernel

theorem reconciledActions_occurrence :
    exampleOccurrence reconciledActions =
      some (.skipped, some (js exampleRunId), js "schedule") := by
  decide +kernel

theorem reconciledActions_active :
    exampleStatus reconciledActions = some .active := by
  decide +kernel

/-- The schedule of a failed run whose step may have taken effect goes on. -/
theorem failed_run_goes_on :
    ¬∀ actions : List Action,
      PausesAmbiguity exampleHasher exampleAppend exampleCalendar emptyDatabase
        actions := by
  intro pauses
  obtain ⟨occurrence, found, isOccurrence⟩ :=
    Option.map_eq_some_iff.mp failedActions_occurrence
  obtain ⟨row, isRow, isAfter⟩ :=
    Option.map_eq_some_iff.mp reconciledActions_occurrence
  obtain ⟨run, isRun, outcome⟩ :=
    Option.map_eq_some_iff.mp failedActions_outcome
  obtain ⟨run', isRun', -⟩ :=
    Option.map_eq_some_iff.mp reconciledActions_outcome
  simp only [Prod.mk.injEq] at isOccurrence isAfter outcome
  obtain ⟨dispatched, ofRun, ofSchedule⟩ := isOccurrence
  have isId : occurrence.id = js "occurrence" := (mem_of_findUnique found).2
  have reconciles :
      ReconcilesAmbiguity
        (performAll exampleHasher exampleAppend exampleCalendar emptyDatabase
          failedActions)
        (performAll exampleHasher exampleAppend exampleCalendar emptyDatabase
          reconciledActions)
        occurrence :=
    { found := by rw [isId]; exact found
      dispatched
      reconciled := by
        intro other isOther
        rw [isId, isRow] at isOther
        obtain rfl := Option.some.inj isOther
        rw [isAfter.1]
        intro isDispatched
        cases isDispatched
      ambiguous :=
        ⟨js exampleRunId, run, run', ofRun, isRun, isRun', Or.inl outcome.2⟩ }
  obtain ⟨schedule, isSchedule, isPaused, -⟩ :=
    (pauses reconciledActions).pauses failedActions
      (.handleRunCompletion exampleReconciliation) [] rfl occurrence reconciles
  rw [ofSchedule] at isSchedule
  have active := reconciledActions_active
  rw [exampleStatus, reconciledActions, isSchedule, Option.map_some, isPaused]
    at active
  cases active

/-- The lease of the run of the first occurrence expires. -/
def interruptedActions : List Action :=
  claimedActions ++
    [.run (.expireRunIfRequired (js "run") (firstMidnight + 60000))]

theorem interruptedActions_occurrence :
    exampleOccurrence interruptedActions =
      some (.dispatched, some (js "run"), js "schedule") := by
  decide +kernel

theorem interruptedActions_status :
    exampleRunStatus interruptedActions = some .interrupted := by
  decide +kernel

/-- The schedule of an interrupted run is paused. -/
theorem interruptedActions_pauseAmbiguity :
    PausesAmbiguity exampleHasher exampleAppend exampleCalendar emptyDatabase
      (interruptedActions ++ [.handleRunCompletion exampleCompletion]) := by
  apply
    ambiguity_pauses exampleHasher exampleAppend exampleCalendar emptyDatabase
      List.nodup_nil
  · intro run listed
    cases listed
  · intro scheduled listed
    cases listed
  · intro before action after isSplit
    have listed :
        action ∈
          interruptedActions ++ [.handleRunCompletion exampleCompletion] := by
      rw [isSplit]
      simp
    rw [List.mem_append, List.mem_singleton] at listed
    constructor
    · rintro input rfl occurrence found dispatched runId run ofRun isRun -
      left
      rcases listed with earlier | isLast
      · simp [interruptedActions, claimedActions, dispatchedActions] at earlier
      · have isBefore : before = interruptedActions := by
          rcases List.append_eq_append_iff.mp isSplit with
            ⟨_ | ⟨first, rest⟩, rfl, isRest⟩ | ⟨middle, isMiddle, isRest⟩
          · simp
          · simp at isRest
          · cases middle with
            | nil => simpa using isMiddle.symm
            | cons first middle =>
                exfalso
                rw [List.cons_append, List.cons.injEq] at isRest
                have isFirst : first ∈ interruptedActions := by
                  rw [isMiddle]
                  simp
                rw [← isRest.1] at isFirst
                simp [interruptedActions, claimedActions,
                  dispatchedActions] at isFirst
        have isInput : input.occurrenceId = js "occurrence" := by
          rw [Action.handleRunCompletion.injEq] at isLast
          rw [isLast]
          rfl
        rw [isBefore] at found isRun
        rw [isInput] at found
        have isOccurrence := interruptedActions_occurrence
        rw [exampleOccurrence, found, Option.map_some, ofRun] at isOccurrence
        simp only [Option.some.injEq, Prod.mk.injEq] at isOccurrence
        have status := interruptedActions_status
        rw [exampleRunStatus, ← isOccurrence.2.1, isRun] at status
        exact Option.some.inj status
    · rintro occurrenceId now rfl
      simp [interruptedActions, claimedActions, dispatchedActions] at listed

end TaskTwin.Schedule
