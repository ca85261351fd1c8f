import TaskTwin.RunStore.Requests
import TaskTwin.Workflow.Inputs

/-!
# The rows of schedules

A schedule, its occurrences and the columns that a scheduled run has beside
those of every run.  The rows stand beside the runs and what they refer to.
-/

namespace TaskTwin.Schedule

open Text Engine Store RunStore

inductive WorkflowScheduleStatus where
  | active
  | paused
  | autoPaused
  | completed
  | archived
  deriving DecidableEq, Repr

inductive WorkflowScheduleOccurrenceStatus where
  | pending
  | dispatched
  | succeeded
  | skipped
  | timedOut
  | cancelled
  deriving DecidableEq, Repr

/-- `TERMINAL_STATUSES.includes(status)`. -/
def WorkflowScheduleOccurrenceStatus.isTerminal :
    WorkflowScheduleOccurrenceStatus → Bool
  | .succeeded => true
  | .skipped => true
  | .timedOut => true
  | .cancelled => true
  | _ => false

inductive ScheduleSkipReason where
  | policyDenied
  | runnerMaintenance
  | runnerUpdateRequired
  | secretReadinessFailed
  | secretInventoryChangedBeforeExecution
  deriving DecidableEq, Repr

inductive ScheduleAutoPauseReason where
  | policyReviewRequired
  | ambiguousOutcome
  | secretReadinessFailed
  | runnerUpdateRequired
  deriving DecidableEq, Repr

/-- A cause of termination of the engine, as it is stored. -/
def causeText : TerminationCause → String
  | .completed => "completed"
  | .preflightFailed => "preflight_failed"
  | .adapterStartFailed => "adapter_start_failed"
  | .stepFailed => "step_failed"
  | .stepTimeout => "step_timeout"
  | .runCancelled => "run_cancelled"
  | .totalTimeout => "total_timeout"
  | .cleanupFailed => "cleanup_failed"
  | .approvalRejected => "approval_rejected"
  | .approvalExpired => "approval_expired"
  | .approvalInvalidated => "approval_invalidated"
  | .repairAborted => "repair_aborted"
  | .repairExpired => "repair_expired"
  | .repairInvalidated => "repair_invalidated"

/-- A cause of termination, as it is stored. -/
def storedCauseText : StoredTerminationCause → String
  | .engine cause => causeText cause
  | .secretInventoryChangedBeforeExecution =>
      "secret_inventory_changed_before_execution"
  | .policyChangedBeforeExecution => "policy_changed_before_execution"
  | .leaseExpired => "lease_expired"
  | .runnerRevoked => "runner_revoked"
  | .scheduleStartWindowExpired => "schedule_start_window_expired"

/-- A parsed `ScheduleDefinitionSchema` value. -/
inductive ScheduleDefinition where
  | oneTime (timezone date time : JsString)
  | daily
      (timezone startDate : JsString)
      (endDate : Option JsString)
      (time : JsString)
      (intervalDays : Nat)
  | weekly
      (timezone startDate : JsString)
      (endDate : Option JsString)
      (time : JsString)
      (weekdays : List Nat)
      (intervalWeeks : Nat)
  deriving DecidableEq, Repr

/-- `definition.type === 'one_time'`. -/
def ScheduleDefinition.isOneTime : ScheduleDefinition → Bool
  | .oneTime .. => true
  | _ => false

/-- `nextOccurrence`, of a definition, an instant and a delay in seconds;
`none` when the occurrence is skipped. -/
abbrev Calendar := ScheduleDefinition → Nat → Nat → Option Nat

structure WorkflowSchedule where
  id : JsString
  workspaceId : JsString
  workflowVersionId : JsString
  runnerDeviceId : JsString
  createdByUserId : JsString
  clientScheduleId : JsString
  /-- What the stored definition parses as. -/
  definition : Option ScheduleDefinition
  definitionDigest : JsString
  maxStartDelaySeconds : Nat
  status : WorkflowScheduleStatus
  nextOccurrenceAt : Option Nat
  lastOccurrenceAt : Option Nat
  autoPauseReason : Option ScheduleAutoPauseReason
  autoPausedAt : Option Nat
  autoPausedByOccurrenceId : Option JsString
  completedAt : Option Nat
  archivedAt : Option Nat
  archivedByUserId : Option JsString
  deriving DecidableEq

structure WorkflowScheduleOccurrence where
  id : JsString
  scheduleId : JsString
  workflowRunId : Option JsString
  scheduledFor : Nat
  startDeadlineAt : Nat
  status : WorkflowScheduleOccurrenceStatus
  skipReason : Option ScheduleSkipReason
  skippedAt : Option Nat
  dispatchedAt : Option Nat
  completedAt : Option Nat
  terminationCause : Option String
  deriving DecidableEq

/-- The columns of a run that only scheduled runs have. -/
structure ScheduledRun where
  runId : JsString
  scheduleId : JsString
  occurrenceId : JsString
  scheduledFor : Nat
  scheduledStartDeadlineAt : Nat
  deriving DecidableEq

/-- What a runner has reported about itself. -/
structure RunnerReport where
  runnerDeviceId : JsString
  lastSeenAt : Option Nat
  runtimeMetadataUpdatedAt : Option Nat
  /-- `scheduled_execution_v1`. -/
  scheduledExecution : Bool
  /-- `local_secret_store_v1`. -/
  localSecretStore : Bool
  /-- The aliases of its secret inventory. -/
  aliases : List String
  deriving DecidableEq

/-- The instant by which the run of an occurrence must have started. -/
def startDeadline (scheduledFor maxStartDelaySeconds : Nat) : Nat :=
  scheduledFor + maxStartDelaySeconds * 1000

structure Database (Trail : Type) where
  store : RunStore.Database Trail
  reports : List RunnerReport
  schedules : List WorkflowSchedule
  occurrences : List WorkflowScheduleOccurrence
  scheduledRuns : List ScheduledRun

inductive ScheduleFailure where
  | scheduleNotFound
  | scheduleForbidden
  | scheduleIdempotencyConflict
  | scheduleRunnerMismatch
  | scheduleRunnerRevoked
  | scheduleVersionUnavailable
  | schedulePolicyDenied
  | scheduleNotReady
  | scheduleNotPaused
  | scheduleCannotResume
  | scheduleArchived
  | runnerNotCapable
  | runnerBusy
  | occurrenceNotFound
  | occurrenceInvalid
  /-- A key that is taken. -/
  | uniqueConstraint
  /-- A failure of the repository of runs. -/
  | run (failure : StoreFailure)
  deriving DecidableEq, Repr

variable {Trail : Type}

def Database.schedule?
    (db : Database Trail)
    (scheduleId : JsString) :
    Option WorkflowSchedule :=
  findUnique WorkflowSchedule.id scheduleId db.schedules

def Database.occurrence?
    (db : Database Trail)
    (occurrenceId : JsString) :
    Option WorkflowScheduleOccurrence :=
  findUnique WorkflowScheduleOccurrence.id occurrenceId db.occurrences

def Database.scheduledRun?
    (db : Database Trail)
    (runId : JsString) :
    Option ScheduledRun :=
  findUnique ScheduledRun.runId runId db.scheduledRuns

def Database.updateSchedule
    (db : Database Trail)
    (scheduleId : JsString)
    (change : WorkflowSchedule → WorkflowSchedule) :
    Database Trail :=
  { db with
    schedules :=
      updateMany (fun schedule => schedule.id = scheduleId) change
        db.schedules }

def Database.updateOccurrence
    (db : Database Trail)
    (occurrenceId : JsString)
    (change : WorkflowScheduleOccurrence → WorkflowScheduleOccurrence) :
    Database Trail :=
  { db with
    occurrences :=
      updateMany (fun occurrence => occurrence.id = occurrenceId) change
        db.occurrences }

/-- An instant of a schedule that has an occurrence. -/
def Database.isAccounted
    (db : Database Trail)
    (scheduleId : JsString)
    (scheduledFor : Nat) :
    Bool :=
  db.occurrences.any fun occurrence =>
    occurrence.scheduleId = scheduleId ∧ occurrence.scheduledFor = scheduledFor

/-- `workflowScheduleOccurrence.create`: its identifier is free, and so is the
instant of its schedule. -/
def Database.createOccurrence
    (db : Database Trail)
    (occurrence : WorkflowScheduleOccurrence) :
    Except ScheduleFailure (Database Trail) := do
  refuseIf (db.isAccounted occurrence.scheduleId occurrence.scheduledFor)
    .uniqueConstraint
  let occurrences ←
    orThrow .uniqueConstraint
      (createMany WorkflowScheduleOccurrence.id [occurrence] db.occurrences)
  return { db with occurrences }

end TaskTwin.Schedule

/-!
## Operations on schedules

Every operation is a serializable transaction; the events and alerts that it
appends are taken to be accepted, and a transaction that throws changes nothing.
-/

namespace TaskTwin.Schedule

open Text Workflow Recovery Engine Store RunStore

variable {Trail : Type}

structure CreateSchedule where
  actorUserId : JsString
  workflowVersionId : JsString
  runnerDeviceId : JsString
  clientScheduleId : JsString
  /-- What the definition parses as. -/
  definition : Option ScheduleDefinition
  definitionDigest : JsString
  maxStartDelaySeconds : Nat
  now : Nat
  newScheduleId : JsString
  /-- What the checks of the version, of the policy and of the readiness refuse
  the schedule with. -/
  refusal : Option ScheduleFailure

structure ScheduleCreationResult where
  schedule : WorkflowSchedule
  idempotent : Bool

/-- Only owners and administrators change schedules. -/
def isScheduleManager (role : OrganizationRole) : Bool :=
  role == .owner || role == .admin

section Operations

variable (calendar : Calendar)

/-- The next instant of a stored definition. -/
def nextInstant
    (definition : Option ScheduleDefinition)
    (now maxStartDelaySeconds : Nat) :
    Option Nat :=
  definition.bind fun definition =>
    calendar definition now maxStartDelaySeconds

def CreateSchedule.row
    (input : CreateSchedule)
    (version : WorkflowVersion) :
    WorkflowSchedule :=
  { id := input.newScheduleId
    workspaceId := version.workspaceId
    workflowVersionId := version.id
    runnerDeviceId := input.runnerDeviceId
    createdByUserId := input.actorUserId
    clientScheduleId := input.clientScheduleId
    definition := input.definition
    definitionDigest := input.definitionDigest
    maxStartDelaySeconds := input.maxStartDelaySeconds
    status := .active
    nextOccurrenceAt :=
      nextInstant calendar input.definition input.now
        input.maxStartDelaySeconds
    lastOccurrenceAt := none
    autoPauseReason := none
    autoPausedAt := none
    autoPausedByOccurrenceId := none
    completedAt := none
    archivedAt := none
    archivedByUserId := none }

def Database.runnerOf
    (db : Database Trail)
    (runnerDeviceId workspaceId : JsString) :
    Option RunnerDevice :=
  db.store.runners.find? fun runner =>
    runner.id = runnerDeviceId ∧ runner.workspaceId = workspaceId

def Database.reportOf
    (db : Database Trail)
    (runnerDeviceId : JsString) :
    RunnerReport :=
  (findUnique RunnerReport.runnerDeviceId runnerDeviceId db.reports).getD
    { runnerDeviceId
      lastSeenAt := none
      runtimeMetadataUpdatedAt := none
      scheduledExecution := false
      localSecretStore := false
      aliases := [] }

def create
    (input : CreateSchedule)
    (db : Database Trail) :
    Except ScheduleFailure (Database Trail × ScheduleCreationResult) := do
  refuseIf (input.definition = none) .scheduleNotReady
  let version ←
    orThrow .scheduleNotFound
      (findUnique WorkflowVersion.id input.workflowVersionId db.store.versions)
  let role ←
    orThrow .scheduleNotFound
      (db.store.roleOf input.actorUserId version.workspaceId)
  refuseIf (!isScheduleManager role) .scheduleForbidden
  let existing :=
    db.schedules.find? fun schedule =>
      schedule.workspaceId = version.workspaceId ∧
        schedule.clientScheduleId = input.clientScheduleId
  match existing with
  | some existing =>
      refuseIf (existing.definitionDigest ≠ input.definitionDigest)
        .scheduleIdempotencyConflict
      return (db, { schedule := existing, idempotent := true })
  | none =>
      let runner ←
        orThrow .scheduleRunnerMismatch
          (db.runnerOf input.runnerDeviceId version.workspaceId)
      refuseIf runner.revoked .scheduleRunnerRevoked
      refuseIf (!(db.reportOf input.runnerDeviceId).scheduledExecution)
        .runnerNotCapable
      match input.refusal with
      | some failure => .error failure
      | none =>
          let created := input.row calendar version
          let schedules ←
            orThrow .uniqueConstraint
              (createMany WorkflowSchedule.id [created] db.schedules)
          .ok
            ({ db with schedules }, { schedule := created, idempotent := false })

/-- The schedule that its owner or an administrator may change. -/
def Database.managedSchedule
    (db : Database Trail)
    (actorUserId scheduleId : JsString) :
    Except ScheduleFailure WorkflowSchedule := do
  let schedule ← orThrow .scheduleNotFound (db.schedule? scheduleId)
  let role ←
    orThrow .scheduleForbidden
      (db.store.roleOf actorUserId schedule.workspaceId)
  refuseIf (!isScheduleManager role) .scheduleForbidden
  return schedule

def pausedSchedule (row : WorkflowSchedule) : WorkflowSchedule :=
  { row with status := .paused }

def pause
    (actorUserId scheduleId : JsString)
    (db : Database Trail) :
    Except ScheduleFailure (Database Trail) := do
  let schedule ← db.managedSchedule actorUserId scheduleId
  refuseIf (schedule.status ≠ .active ∧ schedule.status ≠ .paused)
    .scheduleNotPaused
  return db.updateSchedule scheduleId pausedSchedule

def resumedSchedule (now : Nat) (row : WorkflowSchedule) : WorkflowSchedule :=
  { row with
    status := .active
    nextOccurrenceAt :=
      nextInstant calendar row.definition now row.maxStartDelaySeconds
    autoPauseReason := none
    autoPausedAt := none
    autoPausedByOccurrenceId := none }

def resume
    (actorUserId scheduleId : JsString)
    (now : Nat)
    (db : Database Trail) :
    Except ScheduleFailure (Database Trail) := do
  let schedule ← db.managedSchedule actorUserId scheduleId
  refuseIf (schedule.status ≠ .paused ∧ schedule.status ≠ .autoPaused)
    .scheduleCannotResume
  refuseIf (schedule.definition = none) .scheduleNotReady
  return db.updateSchedule scheduleId (resumedSchedule calendar now)

def archivedSchedule
    (actorUserId : JsString)
    (now : Nat)
    (row : WorkflowSchedule) :
    WorkflowSchedule :=
  { row with
    status := .archived
    archivedAt := some now
    archivedByUserId := some actorUserId }

def archive
    (actorUserId scheduleId : JsString)
    (now : Nat)
    (db : Database Trail) :
    Except ScheduleFailure (Database Trail) := do
  let schedule ← db.managedSchedule actorUserId scheduleId
  refuseIf (schedule.status = .archived) .scheduleArchived
  return db.updateSchedule scheduleId (archivedSchedule actorUserId now)

/-- What the active policy says of the workflow of a schedule. -/
inductive PolicyVerdict where
  /-- The policy or the definition does not parse. -/
  | invalid
  | denied
  | allowed
  deriving DecidableEq, Repr

structure ProcessOccurrence where
  scheduleId : JsString
  now : Nat
  policyVerdict : PolicyVerdict
  newOccurrenceId : JsString
  newRunId : JsString

structure OccurrenceDispatchResult where
  occurrence : WorkflowScheduleOccurrence
  workflowRunId : Option JsString
  idempotent : Bool
  skipReason : Option ScheduleSkipReason
  autoPauseReason : Option ScheduleAutoPauseReason

/-- An occurrence of a schedule as it is created, without a run. -/
def ProcessOccurrence.occurrence
    (input : ProcessOccurrence)
    (schedule : WorkflowSchedule)
    (scheduledFor : Nat)
    (status : WorkflowScheduleOccurrenceStatus) :
    WorkflowScheduleOccurrence :=
  { id := input.newOccurrenceId
    scheduleId := schedule.id
    workflowRunId := none
    scheduledFor
    startDeadlineAt := startDeadline scheduledFor schedule.maxStartDelaySeconds
    status
    skipReason := none
    skippedAt := none
    dispatchedAt := none
    completedAt := none
    terminationCause := none }

/-- An occurrence that is created as skipped. -/
def ProcessOccurrence.skipped
    (input : ProcessOccurrence)
    (schedule : WorkflowSchedule)
    (scheduledFor : Nat)
    (reason : ScheduleSkipReason) :
    WorkflowScheduleOccurrence :=
  { input.occurrence schedule scheduledFor .skipped with
    skipReason := some reason
    skippedAt := some input.now }

/-- A skipped occurrence, and what becomes of its schedule. -/
def skipOccurrence
    (input : ProcessOccurrence)
    (schedule : WorkflowSchedule)
    (scheduledFor : Nat)
    (reason : ScheduleSkipReason)
    (autoPauseReason : Option ScheduleAutoPauseReason)
    (change : WorkflowSchedule → WorkflowSchedule)
    (db : Database Trail) :
    Except ScheduleFailure (Database Trail × OccurrenceDispatchResult) := do
  let occurrence := input.skipped schedule scheduledFor reason
  let db ← db.createOccurrence occurrence
  .ok
    (db.updateSchedule schedule.id change,
      { occurrence
        workflowRunId := none
        idempotent := false
        skipReason := some reason
        autoPauseReason })

/-- A schedule whose occurrence was skipped while its runner is maintained. -/
def maintainedSchedule
    (input : ProcessOccurrence)
    (definition : ScheduleDefinition)
    (scheduledFor : Nat)
    (row : WorkflowSchedule) :
    WorkflowSchedule :=
  if definition.isOneTime then
    { row with
      nextOccurrenceAt := none
      lastOccurrenceAt := some scheduledFor
      status := .completed
      completedAt := some input.now }
  else
    { row with
      nextOccurrenceAt :=
        calendar definition input.now row.maxStartDelaySeconds
      lastOccurrenceAt := some scheduledFor }

def skipMaintenanceOccurrence
    (input : ProcessOccurrence)
    (schedule : WorkflowSchedule)
    (scheduledFor : Nat)
    (db : Database Trail) :
    Except ScheduleFailure (Database Trail × OccurrenceDispatchResult) := do
  let definition ← orThrow .scheduleNotReady schedule.definition
  skipOccurrence input schedule scheduledFor .runnerMaintenance none
    (maintainedSchedule calendar input definition scheduledFor) db

/-- A schedule whose occurrence is blocked. -/
def blockedSchedule
    (input : ProcessOccurrence)
    (scheduledFor : Nat)
    (autoPauseReason : ScheduleAutoPauseReason)
    (row : WorkflowSchedule) :
    WorkflowSchedule :=
  { row with
    status := .autoPaused
    autoPauseReason := some autoPauseReason
    autoPausedAt := some input.now
    autoPausedByOccurrenceId := some input.newOccurrenceId
    nextOccurrenceAt := none
    lastOccurrenceAt := some scheduledFor }

def autoPauseBlockedOccurrence
    (input : ProcessOccurrence)
    (schedule : WorkflowSchedule)
    (scheduledFor : Nat)
    (skipReason : ScheduleSkipReason)
    (autoPauseReason : ScheduleAutoPauseReason)
    (db : Database Trail) :
    Except ScheduleFailure (Database Trail × OccurrenceDispatchResult) :=
  skipOccurrence input schedule scheduledFor skipReason (some autoPauseReason)
    (blockedSchedule input scheduledFor autoPauseReason) db

/-- A schedule whose occurrence the policy denies; its next instant stays. -/
def deniedSchedule
    (input : ProcessOccurrence)
    (row : WorkflowSchedule) :
    WorkflowSchedule :=
  { row with
    status := .autoPaused
    autoPauseReason := some .policyReviewRequired
    autoPausedAt := some input.now
    autoPausedByOccurrenceId := some input.newOccurrenceId }

/-- The occurrence that the policy denies. -/
def skipDeniedOccurrence
    (input : ProcessOccurrence)
    (schedule : WorkflowSchedule)
    (scheduledFor : Nat)
    (db : Database Trail) :
    Except ScheduleFailure (Database Trail × OccurrenceDispatchResult) :=
  skipOccurrence input schedule scheduledFor .policyDenied
    (some .policyReviewRequired) (deniedSchedule input) db

def runProtocolVersion : Nat := 2

/-- A run that is queued or active. -/
def isUnfinished (run : WorkflowRun) : Bool :=
  run.status == .queued || run.status.isActive

def ProcessOccurrence.run
    (input : ProcessOccurrence)
    (schedule : WorkflowSchedule)
    (version : WorkflowVersion)
    (policy : PolicyVersion)
    (pinnedSecretInventory : Option SecretInventoryPin) :
    WorkflowRun :=
  { id := input.newRunId
    workspaceId := schedule.workspaceId
    workflowVersionId := schedule.workflowVersionId
    runnerDeviceId := schedule.runnerDeviceId
    clientRunId := input.newOccurrenceId
    createdAt := input.now
    runProtocolVersion := runProtocolVersion
    workflow := version.workflow
    recoveryMode := .automaticSafeOnly
    policyVersionId := some policy.id
    pinnedSecretInventory
    status := .queued
    claimAttemptId := none
    leaseTokenHash := none
    leaseExpiresAt := none
    claimedAt := none
    startedAt := none
    lastProgressSequence := 0
    lastEngineStatus := none
    cancelRequestedAt := none
    cancelRequestedByUserId := none
    clientCompletionId := none
    completionDigest := none
    finalResult := none
    terminationCause := none
    finishedAt := none
    steps := createdSteps version.workflow
    outputs := createdOutputs version.workflow
    approvalRequests := []
    repairRequests := []
    progressBatches := [] }

def ProcessOccurrence.scheduledRun
    (input : ProcessOccurrence)
    (schedule : WorkflowSchedule)
    (scheduledFor : Nat) :
    ScheduledRun :=
  { runId := input.newRunId
    scheduleId := schedule.id
    occurrenceId := input.newOccurrenceId
    scheduledFor
    scheduledStartDeadlineAt :=
      startDeadline scheduledFor schedule.maxStartDelaySeconds }

/-- A schedule after one of its occurrences was dispatched. -/
def dispatchedSchedule
    (input : ProcessOccurrence)
    (scheduledFor : Nat)
    (row : WorkflowSchedule) :
    WorkflowSchedule :=
  let advanced :=
    { row with
      nextOccurrenceAt :=
        nextInstant calendar row.definition input.now row.maxStartDelaySeconds
      lastOccurrenceAt := some scheduledFor }
  if row.definition.any ScheduleDefinition.isOneTime then
    { advanced with status := .completed, completedAt := some input.now }
  else
    advanced

/-- The occurrence that is dispatched, with its run. -/
def dispatchOccurrence
    (input : ProcessOccurrence)
    (schedule : WorkflowSchedule)
    (scheduledFor : Nat)
    (run : WorkflowRun)
    (db : Database Trail) :
    Except ScheduleFailure (Database Trail × OccurrenceDispatchResult) := do
  let occurrence :=
    { input.occurrence schedule scheduledFor .dispatched with
      workflowRunId := some input.newRunId
      dispatchedAt := some input.now }
  let db ← db.createOccurrence occurrence
  let runs ←
    orThrow .uniqueConstraint (createMany WorkflowRun.id [run] db.store.runs)
  let scheduledRuns ←
    orThrow .uniqueConstraint
      (createMany ScheduledRun.runId
        [input.scheduledRun schedule scheduledFor] db.scheduledRuns)
  .ok
    (({ db with
        store := { db.store with runs }
        scheduledRuns }).updateSchedule schedule.id
          (dispatchedSchedule calendar input scheduledFor),
      { occurrence
        workflowRunId := some input.newRunId
        idempotent := false
        skipReason := none
        autoPauseReason := none })

def runnerUpdateMaintenanceFreshnessMs : Nat := 20 * 60000

/-- The later of two instants, of which either may be missing. -/
def latestInstant : Option Nat → Option Nat → Option Nat
  | none, candidate => candidate
  | latest, none => latest
  | some latest, some candidate => some (max latest candidate)

/-- The runner drains for an update that it has reported lately. -/
def inFreshUpdateMaintenance
    (runner : RunnerDevice)
    (report : RunnerReport)
    (now : Nat) :
    Bool :=
  runner.draining &&
    (latestInstant report.runtimeMetadataUpdatedAt report.lastSeenAt).any
      fun (reportedAt : Nat) =>
        now < reportedAt + runnerUpdateMaintenanceFreshnessMs

def isOnline (report : RunnerReport) (now : Nat) : Bool :=
  report.lastSeenAt.any fun (seenAt : Nat) => now < seenAt + 60000

/-- The secrets that a workflow requires of its runner. -/
def requiredAliases (workflow : WorkflowDefinition) : List String :=
  (analyzeWorkflowInputs workflow).secretRequirements.map fun requirement =>
    requirement.secretName.text

def secretsReady
    (runner : RunnerDevice)
    (report : RunnerReport)
    (required : List String) :
    Bool :=
  required.isEmpty ||
    (report.localSecretStore && runner.secretInventory.isSome &&
      required.all report.aliases.contains)

/-- What becomes of an occurrence that is due. -/
def processDueOccurrence
    (input : ProcessOccurrence)
    (schedule : WorkflowSchedule)
    (scheduledFor : Nat)
    (db : Database Trail) :
    Except ScheduleFailure (Database Trail × OccurrenceDispatchResult) := do
  let runner ←
    orThrow .scheduleRunnerMismatch
      (db.runnerOf schedule.runnerDeviceId schedule.workspaceId)
  let report := db.reportOf schedule.runnerDeviceId
  refuseIf runner.revoked .scheduleRunnerRevoked
  if inFreshUpdateMaintenance runner report input.now then
    skipMaintenanceOccurrence calendar input schedule scheduledFor db
  else if !runner.canClaimJobs then
    autoPauseBlockedOccurrence input schedule scheduledFor .runnerUpdateRequired
      .runnerUpdateRequired db
  else
    refuseIf (!report.scheduledExecution) .runnerNotCapable
    refuseIf (!isOnline report input.now) .runnerBusy
    let policy ←
      orThrow .scheduleNotReady (db.store.activePolicy schedule.workspaceId)
    refuseIf (input.policyVerdict = .invalid) .scheduleNotReady
    let version ←
      orThrow .scheduleNotReady
        (findUnique WorkflowVersion.id schedule.workflowVersionId
          db.store.versions)
    let required := requiredAliases version.workflow
    if !secretsReady runner report required then
      autoPauseBlockedOccurrence input schedule scheduledFor
        .secretReadinessFailed .secretReadinessFailed db
    else if input.policyVerdict = .denied then
      skipDeniedOccurrence input schedule scheduledFor db
    else
      refuseIf
        (db.store.runs.any fun run =>
          isUnfinished run &&
            (db.scheduledRun? run.id).any fun scheduled =>
              scheduled.scheduleId = schedule.id)
        .runnerBusy
      refuseIf
        (db.store.runs.any fun run =>
          isUnfinished run && run.runnerDeviceId = schedule.runnerDeviceId)
        .runnerBusy
      let pinned := if required.isEmpty then none else runner.secretInventory
      dispatchOccurrence calendar input schedule scheduledFor
        (input.run schedule version policy pinned) db

/-- `processOccurrence`; there may be nothing to process. -/
def processOccurrence
    (input : ProcessOccurrence)
    (db : Database Trail) :
    Except ScheduleFailure
      (Database Trail × Option OccurrenceDispatchResult) :=
  match db.schedule? input.scheduleId with
  | none => .ok (db, none)
  | some schedule =>
      match schedule.status, schedule.nextOccurrenceAt with
      | .active, some scheduledFor =>
          if input.now < scheduledFor then
            .ok (db, none)
          else
            let existing :=
              db.occurrences.find? fun occurrence =>
                occurrence.scheduleId = schedule.id ∧
                  occurrence.scheduledFor = scheduledFor ∧
                  !occurrence.status.isTerminal
            match existing with
            | some occurrence =>
                .ok
                  (db,
                    some
                      { occurrence
                        workflowRunId := occurrence.workflowRunId
                        idempotent := true
                        skipReason := none
                        autoPauseReason := none })
            | none =>
                (processDueOccurrence calendar input schedule scheduledFor
                  db).map fun (db, result) => (db, some result)
      | _, _ => .ok (db, none)

end Operations

end TaskTwin.Schedule
