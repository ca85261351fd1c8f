import TaskTwin.RunStore.ProgressLedger
import TaskTwin.RunStore.QueuedRuns
import TaskTwin.Schedule.Moves

/-!
# The lifecycle of a schedule

An archived schedule stays archived, a completed one can only be archived, and
only active schedules dispatch.  Runs outlive these statuses: a completion and
a claim pause the schedule of their run whatever its status is.
-/

namespace TaskTwin.Schedule

open Text Workflow Audit Store RunStore

variable {Trail : Type}

/-- A schedule that is completed or archived. -/
def WorkflowScheduleStatus.isFinal : WorkflowScheduleStatus → Bool
  | .completed => true
  | .archived => true
  | _ => false

/-- How the status of a schedule may differ after a sequence of actions. -/
structure StatusKept
    (hasher : AuditHasher)
    (append : Trail → JsValue → Option Trail)
    (calendar : Calendar)
    (db : Database Trail)
    (actions : List Action)
    (scheduleId : JsString)
    (status status' : WorkflowScheduleStatus) :
    Prop where
  archived : status = .archived → status' = .archived
  completed : status = .completed → status'.isFinal = true
  resumed :
    status ≠ .active →
    status' = .active →
    ∃ before actorUserId now after schedule,
      actions = before ++ .resume actorUserId scheduleId now :: after ∧
        (performAll hasher append calendar db before).managedSchedule
            actorUserId scheduleId =
          .ok schedule

/-- What holds of the statuses of schedules over a sequence of actions. -/
structure LifecycleKept
    (hasher : AuditHasher)
    (append : Trail → JsValue → Option Trail)
    (calendar : Calendar)
    (db : Database Trail)
    (actions : List Action) :
    Prop where
  statuses :
    ∀ scheduleId schedule,
      db.schedule? scheduleId = some schedule →
      ∃ schedule',
        (performAll hasher append calendar db actions).schedule? scheduleId =
            some schedule' ∧
          StatusKept hasher append calendar db actions scheduleId
            schedule.status schedule'.status
  dispatches :
    ∀ before action after,
      actions = before ++ action :: after →
      ∀ scheduled ∈
          (performAll hasher append calendar db
            (before ++ [action])).scheduledRuns,
        scheduled ∉
          (performAll hasher append calendar db before).scheduledRuns →
        ∃ schedule,
          (performAll hasher append calendar db before).schedule?
              scheduled.scheduleId =
            some schedule ∧
          schedule.status = .active

/-- A run whose completion pauses its schedule. -/
def endsAmbiguously
    (runStatus : Option WorkflowRunStatus)
    (terminationCause : Option String) :
    Bool :=
  runStatus == some .interrupted ||
    (runStatus == some .failed && isSideEffectUnknown terminationCause)

/-- An action that pauses no schedule that is completed or archived. -/
structure SparesFinal (db : Database Trail) (action : Action) : Prop where
  completion :
    ∀ input,
      action = .handleRunCompletion input →
      ∀ occurrence,
        db.occurrence? input.occurrenceId = some occurrence →
        occurrence.status = .dispatched →
        endsAmbiguously (db.runStatusOf occurrence) input.terminationCause =
          true →
        ∀ schedule,
          db.schedule? occurrence.scheduleId = some schedule →
          schedule.status.isFinal = false
  claim :
    ∀ input,
      action = .run (.claim input) →
      ∀ runner run,
        findUnique RunnerDevice.id input.runnerDeviceId db.store.runners =
            some runner →
        db.store.nextQueued input = some run →
        secretInventoryMatches input runner run = false →
        ∀ scheduled,
          db.scheduledRun? run.id = some scheduled →
          ∀ schedule,
            db.schedule? scheduled.scheduleId = some schedule →
            schedule.status.isFinal = false

theorem completionOutcome_pauses
    (runStatus : Option WorkflowRunStatus)
    (terminationCause : Option String) :
    (completionOutcome runStatus terminationCause).2 =
      endsAmbiguously runStatus terminationCause := by
  cases runStatus with
  | none => rfl
  | some status => cases status <;> rfl

variable
  {hasher : AuditHasher}
  {append : Trail → JsValue → Option Trail}
  {calendar : Calendar}
  {action : Action}
  {db db' : Database Trail}

theorem expireRunOf_eq_ok
    {occurrence : WorkflowScheduleOccurrence}
    {now : Nat}
    {store store' : RunStore.Database Trail}
    (isExpired : expireRunOf occurrence now store = .ok store') :
    (occurrence.workflowRunId = none ∧ store' = store) ∨
      ∃ run,
        occurrence.workflowRunId = some run.id ∧
          store.run? run.id = some run ∧
          store' = store.putRun (expiredRun now run) := by
  unfold expireRunOf at isExpired
  split at isExpired
  case h_1 noRun =>
    obtain rfl := Except.ok.inj isExpired
    exact Or.inl ⟨noRun, rfl⟩
  case h_2 runId isRun =>
    simp only [bind_eq_ok, orThrow_eq_ok, pure_eq_ok] at isExpired
    obtain ⟨run, found, rfl⟩ := isExpired
    obtain ⟨-, rfl⟩ := RunStore.Database.mem_of_run? found
    exact Or.inr ⟨run, isRun, found, rfl⟩

theorem distinctRuns_of_commit
    {transaction : Transaction}
    {store store' : RunStore.Database Trail}
    (distinct : DistinctRuns store)
    (isCommitted : transaction.commit hasher append store = .ok store') :
    DistinctRuns store' :=
  distinctRuns_kept.commits distinct (transaction.commits isCommitted)

/-- Every change keeps the identifiers of the runs apart. -/
theorem Commit.distinctRuns
    (distinct : DistinctRuns db.store)
    (commit : Commit hasher append calendar action db db') :
    DistinctRuns db'.store := by
  cases commit with
  | skipped input isTick schedule scheduledFor isDue reason change isChange
      created isCreated =>
      obtain ⟨-, -, rfl⟩ := createOccurrence_eq_ok.mp isCreated
      exact distinct
  | dispatched input isTick schedule scheduledFor isDue canDispatch version
      policy pinned committed result isDispatched =>
      exact (dispatched_of_eq_ok isDispatched).runIds
  | expired occurrenceId now isExpiry occurrence found missed store isExpired =>
      rcases expireRunOf_eq_ok isExpired with ⟨-, rfl⟩ | ⟨run, -, -, rfl⟩
      · exact distinct
      · exact (congrArg List.Nodup (putRun_ids _)).mpr distinct
  | ran transaction isRun store isCommitted =>
      exact distinctRuns_of_commit distinct isCommitted
  | failed input isClaim store isCommitted run isFailed scheduled isScheduled =>
      exact distinctRuns_of_commit distinct isCommitted
  | _ => exact distinct

theorem performAll_append
    (db : Database Trail)
    (first second : List Action) :
    performAll hasher append calendar db (first ++ second) =
      performAll hasher append calendar
        (performAll hasher append calendar db first) second :=
  List.foldl_append

theorem performAll_concat
    (db : Database Trail)
    (actions : List Action)
    (action : Action) :
    performAll hasher append calendar db (actions ++ [action]) =
      perform hasher append calendar
        (performAll hasher append calendar db actions) action := by
  rw [performAll_append]
  rfl

theorem distinctRuns_performAll
    (distinct : DistinctRuns db.store)
    (actions : List Action) :
    DistinctRuns (performAll hasher append calendar db actions).store := by
  induction actions using List.reverseRecOn with
  | nil => exact distinct
  | append_singleton actions action inductionHypothesis =>
      rw [performAll_concat]
      exact
        (perform_commits hasher append calendar _ action).distinctRuns
          inductionHypothesis

section Claim

variable
  {store store' : RunStore.Database Trail}
  {input : ClaimRun}
  {runner : RunnerDevice}
  {runId : JsString}

/-- A run that was queued before and has failed for its secrets after. -/
structure FailsForSecrets
    (store store' : RunStore.Database Trail)
    (runId : JsString) :
    Prop where
  queued : ∃ run, store.run? runId = some run ∧ run.status = .queued
  failed :
    ∃ run,
      store'.run? runId = some run ∧ run.status = .failed ∧
        run.terminationCause = some .secretInventoryChangedBeforeExecution

theorem failsForSecrets_of_find
    {run : WorkflowRun}
    (isFailed : failedForSecrets store store' = some run) :
    FailsForSecrets store store' run.id := by
  have holds := List.find?_some isFailed
  simp only [Bool.and_eq_true, Option.any_eq_true, beq_iff_eq] at holds
  obtain ⟨⟨queued, isQueued, wasQueued⟩, failed, isRun, hasFailed⟩ := holds
  exact ⟨⟨queued, isQueued, wasQueued⟩, ⟨failed, isRun, hasFailed⟩⟩

/-- A claim fails the run that is queued next, when its secrets do not match. -/
theorem claim_fails
    (distinct : DistinctRuns store)
    {answer : ClaimWorkflowRunResult}
    (committed : claim hasher append input store = .ok (store', answer))
    (fails : FailsForSecrets store store' runId) :
    ∃ runner next,
      findUnique RunnerDevice.id input.runnerDeviceId store.runners =
          some runner ∧
        store.nextQueued input = some next ∧ next.id = runId ∧
        secretInventoryMatches input runner next = false := by
  obtain ⟨run, found, queued⟩ := fails.queued
  obtain ⟨failed, isFailed, hasFailed, cause⟩ := fails.failed
  rcases claim_queued distinct committed found queued with
    same | ⟨runner, canClaim, isNext, after⟩
  · obtain rfl := Option.some.inj (isFailed.symm.trans same)
    rw [queued] at hasFailed
    cases hasFailed
  · obtain rfl := Option.some.inj (isFailed.symm.trans after)
    refine
      ⟨runner, run, canClaim.found, isNext, (mem_of_findUnique found).2, ?_⟩
    by_contra matching
    rw [Bool.not_eq_false] at matching
    unfold claimQueued at hasFailed cause
    rw [matching] at hasFailed cause
    simp only [Bool.not_true, Bool.false_eq_true, if_false] at hasFailed cause
    split at cause
    · cases cause
    · rename_i unchangedPolicy
      rw [if_neg unchangedPolicy] at hasFailed
      cases hasFailed

end Claim

theorem not_isFinal_of_due
    {input : ProcessOccurrence}
    {row : WorkflowSchedule}
    {scheduledFor : Nat}
    (isDue : IsDue db input row scheduledFor) :
    row.status.isFinal = false := by
  rw [isDue.active]
  rfl

/-- An action that spares final schedules leaves them as they are or archives
them. -/
theorem ScheduleMove.keepsFinal
    (distinct : DistinctRuns db.store)
    (spares : SparesFinal db action)
    {scheduleId : JsString}
    {row row' : WorkflowSchedule}
    (found : db.schedule? scheduleId = some row)
    (final : row.status.isFinal = true)
    (move :
      ScheduleMove hasher append calendar action db db' scheduleId (some row)
        (some row')) :
    row'.status = row.status ∨ row'.status = .archived := by
  cases move with
  | same _ => exact Or.inl rfl
  | paused _ was =>
      exfalso
      rcases was with was | was <;> rw [was] at final <;> cases final
  | resumed _ actorUserId now isResumption managed was =>
      exfalso
      rcases was with was | was <;> rw [was] at final <;> cases final
  | archived _ actorUserId now was => exact Or.inr rfl
  | skipped _ input scheduledFor isDue reason change isChange accounted =>
      rw [not_isFinal_of_due isDue] at final
      cases final
  | dispatched _ input scheduledFor isDue accounted =>
      rw [not_isFinal_of_due isDue] at final
      cases final
  | completed _ input isCompletion occurrence isOccurrence was ofSchedule =>
      rw [completionOutcome_pauses]
      cases pauses :
          endsAmbiguously (db.runStatusOf occurrence)
            input.terminationCause with
      | false => exact Or.inl rfl
      | true =>
          have notFinal :=
            spares.completion input isCompletion occurrence isOccurrence was
              pauses row (by rw [ofSchedule]; exact found)
          rw [notFinal] at final
          cases final
  | expired _ occurrenceId now isExpiry occurrence isOccurrence missed
      ofSchedule =>
      exact Or.inl rfl
  | failed _ input isClaim store isCommitted run isFailed scheduled isScheduled
      ofSchedule =>
      obtain ⟨answer, committed⟩ := map_fst_eq_ok.mp isCommitted
      obtain ⟨runner, next, isRunner, isNext, isRun, differs⟩ :=
        claim_fails distinct committed (failsForSecrets_of_find isFailed)
      have notFinal :=
        spares.claim input isClaim runner next isRunner isNext differs scheduled
          (by rw [isRun]; exact isScheduled) row (by rw [ofSchedule]; exact found)
      rw [notFinal] at final
      cases final

/-- Only a resumption makes a schedule active. -/
theorem ScheduleMove.resumes
    {scheduleId : JsString}
    {row row' : WorkflowSchedule}
    (inactive : row.status ≠ .active)
    (active : row'.status = .active)
    (move :
      ScheduleMove hasher append calendar action db db' scheduleId (some row)
        (some row')) :
    ∃ actorUserId now,
      action = .resume actorUserId scheduleId now ∧
        db.managedSchedule actorUserId scheduleId = .ok row := by
  cases move with
  | same _ => exact absurd active inactive
  | paused _ was => cases active
  | resumed _ actorUserId now isResumption managed was =>
      exact ⟨actorUserId, now, isResumption, managed⟩
  | archived _ actorUserId now was => cases active
  | skipped _ input scheduledFor isDue reason change isChange accounted =>
      exact absurd isDue.active inactive
  | dispatched _ input scheduledFor isDue accounted =>
      exact absurd isDue.active inactive
  | completed _ input isCompletion occurrence isOccurrence was ofSchedule =>
      unfold completedSchedule at active
      split at active
      · cases active
      · exact absurd active inactive
  | expired _ occurrenceId now isExpiry occurrence isOccurrence missed
      ofSchedule =>
      exact absurd active inactive
  | failed _ input isClaim store isCommitted run isFailed scheduled isScheduled
      ofSchedule =>
      cases active

/-- A schedule that exists still exists after every action. -/
theorem ScheduleMove.exists
    {scheduleId : JsString}
    {row : WorkflowSchedule}
    {after : Option WorkflowSchedule}
    (move :
      ScheduleMove hasher append calendar action db db' scheduleId (some row)
        after) :
    ∃ row', after = some row' := by
  cases move <;> exact ⟨_, rfl⟩

/-- Only an active schedule gets a new run. -/
theorem Commit.dispatches
    (commit : Commit hasher append calendar action db db')
    {scheduled : ScheduledRun}
    (listed : scheduled ∈ db'.scheduledRuns)
    (isNew : scheduled ∉ db.scheduledRuns) :
    ∃ schedule,
      db.schedule? scheduled.scheduleId = some schedule ∧
        schedule.status = .active := by
  cases commit with
  | skipped input isTick schedule scheduledFor isDue reason change isChange
      created isCreated =>
      obtain ⟨-, -, rfl⟩ := createOccurrence_eq_ok.mp isCreated
      exact absurd listed isNew
  | dispatched input isTick schedule scheduledFor isDue canDispatch version
      policy pinned committed result isDispatched =>
      rw [(dispatched_of_eq_ok isDispatched).scheduledRuns,
        List.mem_append] at listed
      rcases listed with old | isRun
      · exact absurd old isNew
      · obtain rfl := List.mem_singleton.mp isRun
        exact ⟨schedule, isDue.found, isDue.active⟩
  | _ => exact absurd listed isNew

theorem StatusKept.refl
    (scheduleId : JsString)
    (status : WorkflowScheduleStatus) :
    StatusKept hasher append calendar db [] scheduleId status status := by
  constructor
  · exact id
  · rintro rfl
    rfl
  · intro inactive active
    exact absurd active inactive

/-- One more action that spares final schedules. -/
theorem StatusKept.concat
    {actions : List Action}
    {scheduleId : JsString}
    {row row' : WorkflowSchedule}
    {status : WorkflowScheduleStatus}
    (kept :
      StatusKept hasher append calendar db actions scheduleId status
        row.status)
    (found :
      (performAll hasher append calendar db actions).schedule? scheduleId =
        some row)
    (distinct :
      DistinctRuns (performAll hasher append calendar db actions).store)
    (spares :
      SparesFinal (performAll hasher append calendar db actions) action)
    (move :
      ScheduleMove hasher append calendar action
        (performAll hasher append calendar db actions) db' scheduleId (some row)
        (some row')) :
    StatusKept hasher append calendar db (actions ++ [action]) scheduleId
      status row'.status := by
  constructor
  · intro isArchived
    have wasArchived := kept.archived isArchived
    have final : row.status.isFinal = true := by rw [wasArchived]; rfl
    rcases move.keepsFinal distinct spares found final with same | nowArchived
    · exact same.trans wasArchived
    · exact nowArchived
  · intro isCompleted
    have final := kept.completed isCompleted
    rcases move.keepsFinal distinct spares found final with same | nowArchived
    · rw [same]
      exact final
    · rw [nowArchived]
      rfl
  · intro inactive active
    by_cases wasActive : row.status = .active
    · obtain ⟨before, actorUserId, now, after, schedule, rfl, managed⟩ :=
        kept.resumed inactive wasActive
      exact ⟨before, actorUserId, now, after ++ [action], schedule, by simp,
        managed⟩
    · obtain ⟨actorUserId, now, rfl, managed⟩ := move.resumes wasActive active
      exact ⟨actions, actorUserId, now, [], row, rfl, managed⟩

/-- A daily schedule at midnight. -/
def exampleCalendar : Calendar := fun definition now _ =>
  if definition.isOneTime then none
  else some ((now / 86400000 + 1) * 86400000)

def exampleDefinition : ScheduleDefinition :=
  .daily (js "UTC") (js "1970-01-01") none (js "00:00") 1

def exampleClickStep : WorkflowStep :=
  { id := exampleGate
    name := exampleGate
    action := .click (.css exampleGate) none
    refined := rfl }

def exampleClickFlow : WorkflowDefinition :=
  { exampleWorkflow with
    steps := [exampleClickStep]
    stepsNonEmpty := List.cons_ne_nil _ _
    stepIdsUnique := List.nodup_singleton _ }

def exampleRunner : RunnerDevice :=
  { id := js "runner"
    workspaceId := js "workspace"
    revoked := false
    credentialRevoked := false
    runnerVersion := js "1.0.0"
    runProtocolVersion
    workflowSchemaVersion := 1
    canClaimJobs := true
    releaseBlocked := false
    draining := false
    secretInventory := none }

/-- The runner, when it was seen at an instant. -/
def exampleReport (now : Nat) : RunnerReport :=
  { runnerDeviceId := js "runner"
    lastSeenAt := some now
    runtimeMetadataUpdatedAt := none
    scheduledExecution := true
    localSecretStore := false
    aliases := [] }

def exampleSurroundings (now : Nat) : Surroundings :=
  { runners := [exampleRunner]
    reports := [exampleReport now]
    policies :=
      [{ id := js "policy"
         workspaceId := js "workspace"
         digest := js "digest"
         active := true }]
    memberships :=
      [{ userId := js "owner"
         workspaceId := js "workspace"
         role := .owner }]
    versions :=
      [{ id := js "version"
         workspaceId := js "workspace"
         workflow := exampleClickFlow
         definitionDigest := js "digest" }] }

/-- A database without schedules and runs. -/
def emptyDatabase : Database Unit :=
  { store :=
      { runs := []
        runners := []
        versions := []
        policies := []
        memberships := []
        trail := () }
    reports := []
    schedules := []
    occurrences := []
    scheduledRuns := [] }

def exampleCreateSchedule : CreateSchedule :=
  { actorUserId := js "owner"
    workflowVersionId := js "version"
    runnerDeviceId := js "runner"
    clientScheduleId := js "client"
    definition := some exampleDefinition
    definitionDigest := js "digest"
    maxStartDelaySeconds := 300
    now := 0
    newScheduleId := js "schedule"
    refusal := none }

def exampleTick (now : Nat) (occurrenceId runId : String) : ProcessOccurrence :=
  { scheduleId := js "schedule"
    now
    policyVerdict := .allowed
    newOccurrenceId := js occurrenceId
    newRunId := js runId }

def exampleClaim (now : Nat) : ClaimRun :=
  { runnerDeviceId := js "runner"
    runnerVersion := js "1.0.0"
    runProtocolVersion
    workflowSchemaVersion := 1
    claimAttemptId := js "attempt"
    leaseTokenHash := js "lease"
    now
    leaseExpiresAt := now + 60000
    secretInventory := none }

def exampleAppend : Unit → JsValue → Option Unit := fun _ _ => some ()

/-- The first midnight after the schedule is created. -/
def firstMidnight : Nat := 86400000

/-- A schedule is created, and its first occurrence is dispatched. -/
def dispatchedActions : List Action :=
  [.changed (exampleSurroundings firstMidnight), .create exampleCreateSchedule,
    .processOccurrence (exampleTick firstMidnight "occurrence" "run")]

/-- The run of the first occurrence is claimed. -/
def claimedActions : List Action :=
  dispatchedActions ++ [.run (.claim (exampleClaim firstMidnight))]

/-- The lease of the run expires, and the schedule is archived. -/
def archivedActions : List Action :=
  claimedActions ++
    [.run (.expireRunIfRequired (js "run") (firstMidnight + 60000)),
      .archive (js "owner") (js "schedule") (firstMidnight + 60001)]

def exampleCompletion : RunCompletion :=
  { occurrenceId := js "occurrence"
    terminationCause := some "lease_expired"
    now := firstMidnight + 60002 }

def exampleStatus (actions : List Action) : Option WorkflowScheduleStatus :=
  ((performAll exampleHasher exampleAppend exampleCalendar emptyDatabase
    actions).schedule? (js "schedule")).map WorkflowSchedule.status

theorem archivedActions_status :
    exampleStatus archivedActions = some .archived := by
  decide +kernel

theorem archivedActions_completed :
    exampleStatus
        (archivedActions ++ [.handleRunCompletion exampleCompletion]) =
      some .autoPaused := by
  decide +kernel

end TaskTwin.Schedule
