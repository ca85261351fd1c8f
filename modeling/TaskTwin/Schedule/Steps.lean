import TaskTwin.Schedule.Operations

/-!
# How occurrences end, and sequences of transactions

The transactions on schedules and those on runs follow one another in any
order, while runners, policies, members and versions change.
-/

namespace TaskTwin.Schedule

open Text Audit Store RunStore

variable {Trail : Type}

structure RunCompletion where
  occurrenceId : JsString
  terminationCause : Option String
  now : Nat

/-- `sideEffectUnknown`, of a failed run. -/
def isSideEffectUnknown (terminationCause : Option String) : Bool :=
  terminationCause == some "ambiguous_outcome" ||
    terminationCause == some "runner_crash" ||
    terminationCause == some "lease_expired"

/-- What a completion makes of an occurrence, and whether it pauses the
schedule. -/
def completionOutcome
    (runStatus : Option WorkflowRunStatus)
    (terminationCause : Option String) :
    WorkflowScheduleOccurrenceStatus × Bool :=
  match runStatus with
  | some .succeeded => (.succeeded, false)
  | some .interrupted => (.cancelled, true)
  | some .failed => (.skipped, isSideEffectUnknown terminationCause)
  | some .cancelled | some .timedOut => (.skipped, false)
  | _ => (.cancelled, false)

/-- The status of the run of an occurrence. -/
def Database.runStatusOf
    (db : Database Trail)
    (occurrence : WorkflowScheduleOccurrence) :
    Option WorkflowRunStatus :=
  (occurrence.workflowRunId.bind db.store.run?).map WorkflowRun.status

section Calendar

variable (calendar : Calendar)

/-- A schedule after one of its occurrences was completed. -/
def completedSchedule
    (input : RunCompletion)
    (occurrence : WorkflowScheduleOccurrence)
    (autoPause : Bool)
    (row : WorkflowSchedule) :
    WorkflowSchedule :=
  if autoPause then
    { row with
      lastOccurrenceAt := some occurrence.scheduledFor
      status := .autoPaused
      autoPauseReason := some .ambiguousOutcome
      autoPausedAt := some input.now
      autoPausedByOccurrenceId := some occurrence.id }
  else
    { row with
      lastOccurrenceAt := some occurrence.scheduledFor
      nextOccurrenceAt :=
        nextInstant calendar row.definition input.now
          row.maxStartDelaySeconds }

def completedOccurrence
    (input : RunCompletion)
    (status : WorkflowScheduleOccurrenceStatus)
    (row : WorkflowScheduleOccurrence) :
    WorkflowScheduleOccurrence :=
  { row with
    status
    terminationCause := input.terminationCause
    completedAt := some input.now }

def handleRunCompletion
    (input : RunCompletion)
    (db : Database Trail) :
    Except ScheduleFailure (Database Trail × OccurrenceDispatchResult) := do
  let occurrence ←
    orThrow .occurrenceNotFound (db.occurrence? input.occurrenceId)
  let answer (occurrence : WorkflowScheduleOccurrence) (idempotent : Bool) :
      OccurrenceDispatchResult :=
    { occurrence
      workflowRunId := occurrence.workflowRunId
      idempotent
      skipReason := none
      autoPauseReason := none }
  if occurrence.status.isTerminal then
    return (db, answer occurrence true)
  else
    refuseIf (occurrence.status ≠ .dispatched) .occurrenceInvalid
    let (status, autoPause) :=
      completionOutcome (db.runStatusOf occurrence) input.terminationCause
    let _ ← orThrow .scheduleNotFound (db.schedule? occurrence.scheduleId)
    let change := completedOccurrence input status
    .ok
      ((db.updateOccurrence occurrence.id change).updateSchedule
          occurrence.scheduleId
          (completedSchedule calendar input occurrence autoPause),
        answer (change occurrence) false)

def expiredOccurrence
    (row : WorkflowScheduleOccurrence) :
    WorkflowScheduleOccurrence :=
  { row with
    status := .timedOut
    terminationCause := some "schedule_start_window_expired" }

/-- A run whose start window has expired, whatever its status. -/
def expiredRun (now : Nat) (run : WorkflowRun) : WorkflowRun :=
  { run with
    status := .timedOut
    terminationCause := some .scheduleStartWindowExpired
    finishedAt := some now }

/-- An occurrence that `reconcileTimedOutOccurrences` reads. -/
def hasMissedWindow
    (now : Nat)
    (occurrence : WorkflowScheduleOccurrence) :
    Bool :=
  occurrence.status == .dispatched && decide (occurrence.startDeadlineAt < now)

/-- The runs after the start window of an occurrence has expired. -/
def expireRunOf
    (occurrence : WorkflowScheduleOccurrence)
    (now : Nat)
    (store : RunStore.Database Trail) :
    Except ScheduleFailure (RunStore.Database Trail) :=
  match occurrence.workflowRunId with
  | none => .ok store
  | some runId => do
      let run ← orThrow (.run .runNotFound) (store.run? runId)
      return store.putRun (expiredRun now run)

/-- A schedule whose next instant is found again. -/
def advancedSchedule (now : Nat) (row : WorkflowSchedule) : WorkflowSchedule :=
  { row with
    nextOccurrenceAt :=
      nextInstant calendar row.definition now row.maxStartDelaySeconds }

/-- The transaction of `reconcileTimedOutOccurrences` about one occurrence. -/
def expireStartWindow
    (occurrenceId : JsString)
    (now : Nat)
    (db : Database Trail) :
    Except ScheduleFailure (Database Trail) :=
  match db.occurrence? occurrenceId with
  | none => .ok db
  | some occurrence =>
      if !hasMissedWindow now occurrence then
        .ok db
      else do
        let store ← expireRunOf occurrence now db.store
        let db := { db with store }
        return (db.updateOccurrence occurrence.id
          expiredOccurrence).updateSchedule occurrence.scheduleId
            (advancedSchedule calendar now)

end Calendar

section Append

variable
  (hasher : AuditHasher)
  (append : Trail → JsValue → Option Trail)

/-- The queued run that a claim has failed because its secrets have changed. -/
def failedForSecrets
    (before after : RunStore.Database Trail) :
    Option WorkflowRun :=
  before.runs.find? fun run =>
    (before.run? run.id).any (fun queued => queued.status == .queued) &&
      (after.run? run.id).any fun failed =>
        failed.status == .failed &&
          failed.terminationCause == some .secretInventoryChangedBeforeExecution

/-- What a claim that fails a scheduled run makes of its schedule. -/
def secretPausedSchedule
    (now : Nat)
    (occurrenceId : JsString)
    (row : WorkflowSchedule) :
    WorkflowSchedule :=
  { row with
    status := .autoPaused
    autoPauseReason := some .secretReadinessFailed
    autoPausedAt := some now
    autoPausedByOccurrenceId := some occurrenceId
    nextOccurrenceAt := none }

def secretSkippedOccurrence
    (now : Nat)
    (row : WorkflowScheduleOccurrence) :
    WorkflowScheduleOccurrence :=
  { row with
    status := .skipped
    skipReason := some .secretInventoryChangedBeforeExecution
    skippedAt := some now
    completedAt := some now
    terminationCause :=
      some (storedCauseText .secretInventoryChangedBeforeExecution) }

/-- What becomes of the schedule of a run that a claim has failed. -/
def afterClaim
    (now : Nat)
    (db : Database Trail)
    (store : RunStore.Database Trail) :
    Database Trail :=
  match (failedForSecrets db.store store).bind fun run =>
      db.scheduledRun? run.id with
  | none => { db with store }
  | some scheduled =>
      (({ db with store }).updateSchedule scheduled.scheduleId
          (secretPausedSchedule now scheduled.occurrenceId)).updateOccurrence
        scheduled.occurrenceId (secretSkippedOccurrence now)

/-- A transaction on runs. -/
def performRun
    (transaction : Transaction)
    (db : Database Trail) :
    Except ScheduleFailure (Database Trail) :=
  match transaction.commit hasher append db.store with
  | .error failure => .error (.run failure)
  | .ok store =>
      match transaction with
      | .claim input => .ok (afterClaim input.now db store)
      | _ => .ok { db with store }

/-- What changes beside runs and schedules. -/
structure Surroundings where
  runners : List RunnerDevice
  reports : List RunnerReport
  policies : List PolicyVersion
  memberships : List Membership
  versions : List WorkflowVersion

inductive Action where
  | create (input : CreateSchedule)
  | pause (actorUserId scheduleId : JsString) (now : Nat)
  | resume (actorUserId scheduleId : JsString) (now : Nat)
  | archive (actorUserId scheduleId : JsString) (now : Nat)
  | processOccurrence (input : ProcessOccurrence)
  | handleRunCompletion (input : RunCompletion)
  | expireStartWindow (occurrenceId : JsString) (now : Nat)
  | run (transaction : Transaction)
  | changed (surroundings : Surroundings)

/-- The clock that an action on schedules reads. -/
def Action.now : Action → Option Nat
  | .create input => some input.now
  | .pause _ _ now => some now
  | .resume _ _ now => some now
  | .archive _ _ now => some now
  | .processOccurrence input => some input.now
  | .handleRunCompletion input => some input.now
  | .expireStartWindow _ now => some now
  | .run (.claim input) => some input.now
  | _ => none

/-- The database that an action commits. -/
def Action.commit
    (calendar : Calendar)
    (action : Action)
    (db : Database Trail) :
    Except ScheduleFailure (Database Trail) :=
  match action with
  | .create input => (Schedule.create calendar input db).map (·.1)
  | .pause actorUserId scheduleId _ => Schedule.pause actorUserId scheduleId db
  | .resume actorUserId scheduleId now =>
      Schedule.resume calendar actorUserId scheduleId now db
  | .archive actorUserId scheduleId now =>
      Schedule.archive actorUserId scheduleId now db
  | .processOccurrence input =>
      (Schedule.processOccurrence calendar input db).map (·.1)
  | .handleRunCompletion input =>
      (Schedule.handleRunCompletion calendar input db).map (·.1)
  | .expireStartWindow occurrenceId now =>
      Schedule.expireStartWindow calendar occurrenceId now db
  | .run transaction => performRun hasher append transaction db
  | .changed surroundings =>
      .ok
        { db with
          store :=
            { db.store with
              runners := surroundings.runners
              policies := surroundings.policies
              memberships := surroundings.memberships
              versions := surroundings.versions }
          reports := surroundings.reports }

/-- The database after an action was tried. -/
def perform
    (calendar : Calendar)
    (db : Database Trail)
    (action : Action) :
    Database Trail :=
  match action.commit hasher append calendar db with
  | .ok db' => db'
  | .error _ => db

/-- The database after a sequence of actions. -/
def performAll
    (calendar : Calendar)
    (db : Database Trail)
    (actions : List Action) :
    Database Trail :=
  actions.foldl (perform hasher append calendar) db

end Append

end TaskTwin.Schedule

/-!
## What transactions change
-/

namespace TaskTwin.Schedule

open Text Audit Store RunStore

variable {Trail : Type}

/-- An occurrence of an active schedule that is due. -/
structure IsDue
    (db : Database Trail)
    (input : ProcessOccurrence)
    (schedule : WorkflowSchedule)
    (scheduledFor : Nat) :
    Prop where
  found : db.schedule? schedule.id = some schedule
  isSchedule : schedule.id = input.scheduleId
  active : schedule.status = .active
  next : schedule.nextOccurrenceAt = some scheduledFor
  due : scheduledFor ≤ input.now

/-- An occurrence that is due can be dispatched. -/
structure CanDispatch
    (db : Database Trail)
    (input : ProcessOccurrence)
    (schedule : WorkflowSchedule) :
    Prop where
  runner :
    ∃ runner version,
      db.runnerOf schedule.runnerDeviceId schedule.workspaceId = some runner ∧
        runner.revoked = false ∧
        inFreshUpdateMaintenance runner (db.reportOf schedule.runnerDeviceId)
            input.now =
          false ∧
        runner.canClaimJobs = true ∧
        findUnique WorkflowVersion.id schedule.workflowVersionId
            db.store.versions =
          some version ∧
        secretsReady runner (db.reportOf schedule.runnerDeviceId)
            (requiredAliases version.workflow) =
          true
  capable : (db.reportOf schedule.runnerDeviceId).scheduledExecution = true
  online : isOnline (db.reportOf schedule.runnerDeviceId) input.now = true
  allowed : input.policyVerdict = .allowed
  scheduleFree :
    ∀ run ∈ db.store.runs,
      isUnfinished run = true →
      ∀ scheduled,
        db.scheduledRun? run.id = some scheduled →
        scheduled.scheduleId ≠ schedule.id
  runnerFree :
    ∀ run ∈ db.store.runs,
      isUnfinished run = true →
      run.runnerDeviceId ≠ schedule.runnerDeviceId

/-- The change that a skipped occurrence makes of its schedule. -/
inductive SkipChange
    (calendar : Calendar)
    (input : ProcessOccurrence)
    (scheduledFor : Nat) :
    ScheduleSkipReason → (WorkflowSchedule → WorkflowSchedule) → Prop where
  | maintained (definition : ScheduleDefinition) :
      SkipChange calendar input scheduledFor .runnerMaintenance
        (maintainedSchedule calendar input definition scheduledFor)
  | blocked
      (skipReason : ScheduleSkipReason)
      (autoPauseReason : ScheduleAutoPauseReason) :
      SkipChange calendar input scheduledFor skipReason
        (blockedSchedule input scheduledFor autoPauseReason)
  | denied :
      SkipChange calendar input scheduledFor .policyDenied
        (deniedSchedule input)

/-- What a transaction commits. -/
inductive Commit
    (hasher : AuditHasher)
    (append : Trail → JsValue → Option Trail)
    (calendar : Calendar)
    (action : Action)
    (db : Database Trail) :
    Database Trail → Prop where
  | unchanged : Commit hasher append calendar action db db
  | created
      (input : CreateSchedule)
      (isCreation : action = .create input)
      (version : WorkflowVersion)
      (free :
        ((db.schedules ++ [input.row calendar version]).map
          WorkflowSchedule.id).Nodup) :
      Commit hasher append calendar action db
        { db with schedules := db.schedules ++ [input.row calendar version] }
  | paused
      (actorUserId scheduleId : JsString)
      (now : Nat)
      (isPause : action = .pause actorUserId scheduleId now)
      (schedule : WorkflowSchedule)
      (found : db.schedule? scheduleId = some schedule)
      (was : schedule.status = .active ∨ schedule.status = .paused) :
      Commit hasher append calendar action db
        (db.updateSchedule scheduleId pausedSchedule)
  | resumed
      (actorUserId scheduleId : JsString)
      (now : Nat)
      (isResumption : action = .resume actorUserId scheduleId now)
      (schedule : WorkflowSchedule)
      (managed : db.managedSchedule actorUserId scheduleId = .ok schedule)
      (found : db.schedule? scheduleId = some schedule)
      (was : schedule.status = .paused ∨ schedule.status = .autoPaused) :
      Commit hasher append calendar action db
        (db.updateSchedule scheduleId (resumedSchedule calendar now))
  | archived
      (actorUserId scheduleId : JsString)
      (now : Nat)
      (isArchiving : action = .archive actorUserId scheduleId now)
      (schedule : WorkflowSchedule)
      (found : db.schedule? scheduleId = some schedule)
      (was : schedule.status ≠ .archived) :
      Commit hasher append calendar action db
        (db.updateSchedule scheduleId (archivedSchedule actorUserId now))
  | skipped
      (input : ProcessOccurrence)
      (isTick : action = .processOccurrence input)
      (schedule : WorkflowSchedule)
      (scheduledFor : Nat)
      (isDue : IsDue db input schedule scheduledFor)
      (reason : ScheduleSkipReason)
      (change : WorkflowSchedule → WorkflowSchedule)
      (isChange : SkipChange calendar input scheduledFor reason change)
      (db' : Database Trail)
      (isCreated :
        db.createOccurrence (input.skipped schedule scheduledFor reason) =
          .ok db') :
      Commit hasher append calendar action db
        (db'.updateSchedule schedule.id change)
  | dispatched
      (input : ProcessOccurrence)
      (isTick : action = .processOccurrence input)
      (schedule : WorkflowSchedule)
      (scheduledFor : Nat)
      (isDue : IsDue db input schedule scheduledFor)
      (canDispatch : CanDispatch db input schedule)
      (version : WorkflowVersion)
      (policy : PolicyVersion)
      (pinned : Option SecretInventoryPin)
      (db' : Database Trail)
      (result : OccurrenceDispatchResult)
      (isDispatched :
        dispatchOccurrence calendar input schedule scheduledFor
            (input.run schedule version policy pinned) db =
          .ok (db', result)) :
      Commit hasher append calendar action db db'
  | completed
      (input : RunCompletion)
      (isCompletion : action = .handleRunCompletion input)
      (occurrence : WorkflowScheduleOccurrence)
      (found : db.occurrence? input.occurrenceId = some occurrence)
      (was : occurrence.status = .dispatched)
      (schedule : WorkflowSchedule)
      (ofSchedule : db.schedule? occurrence.scheduleId = some schedule) :
      Commit hasher append calendar action db
        ((db.updateOccurrence occurrence.id
            (completedOccurrence input
              (completionOutcome (db.runStatusOf occurrence)
                input.terminationCause).1)).updateSchedule
          occurrence.scheduleId
          (completedSchedule calendar input occurrence
            (completionOutcome (db.runStatusOf occurrence)
              input.terminationCause).2))
  | expired
      (occurrenceId : JsString)
      (now : Nat)
      (isExpiry : action = .expireStartWindow occurrenceId now)
      (occurrence : WorkflowScheduleOccurrence)
      (found : db.occurrence? occurrenceId = some occurrence)
      (missed : hasMissedWindow now occurrence = true)
      (store : RunStore.Database Trail)
      (isExpired : expireRunOf occurrence now db.store = .ok store) :
      Commit hasher append calendar action db
        ((({ db with store }).updateOccurrence occurrence.id
            expiredOccurrence).updateSchedule occurrence.scheduleId
          (advancedSchedule calendar now))
  | ran
      (transaction : Transaction)
      (isRun : action = .run transaction)
      (store : RunStore.Database Trail)
      (isCommitted : transaction.commit hasher append db.store = .ok store) :
      Commit hasher append calendar action db { db with store }
  | failed
      (input : ClaimRun)
      (isClaim : action = .run (.claim input))
      (store : RunStore.Database Trail)
      (isCommitted :
        (Transaction.claim input).commit hasher append db.store = .ok store)
      (run : WorkflowRun)
      (isFailed : failedForSecrets db.store store = some run)
      (scheduled : ScheduledRun)
      (isScheduled : db.scheduledRun? run.id = some scheduled) :
      Commit hasher append calendar action db
        ((({ db with store }).updateSchedule scheduled.scheduleId
            (secretPausedSchedule input.now
              scheduled.occurrenceId)).updateOccurrence
          scheduled.occurrenceId (secretSkippedOccurrence input.now))
  | changed
      (surroundings : Surroundings)
      (isChange : action = .changed surroundings) :
      Commit hasher append calendar action db
        { db with
          store :=
            { db.store with
              runners := surroundings.runners
              policies := surroundings.policies
              memberships := surroundings.memberships
              versions := surroundings.versions }
          reports := surroundings.reports }

variable
  {hasher : AuditHasher}
  {append : Trail → JsValue → Option Trail}
  {calendar : Calendar}
  {action : Action}
  {db db' : Database Trail}

theorem create_commits
    {input : CreateSchedule}
    {result : ScheduleCreationResult}
    (committed : create calendar input db = .ok (db', result)) :
    Commit hasher append calendar (.create input) db db' := by
  simp only [create, bind_eq_ok, orThrow_eq_ok] at committed
  obtain ⟨_, -, version, -, role, -, _, -, committed⟩ := committed
  split at committed
  case h_1 existing found =>
    simp only [bind_eq_ok, pure_eq_ok, Prod.mk.injEq] at committed
    obtain ⟨_, -, rfl, -⟩ := committed
    exact .unchanged
  case h_2 notFound =>
    simp only [bind_eq_ok, orThrow_eq_ok] at committed
    obtain ⟨runner, -, _, -, _, -, committed⟩ := committed
    split at committed
    case h_1 failure isRefused => cases committed
    case h_2 notRefused =>
      simp only [bind_eq_ok, orThrow_eq_ok] at committed
      obtain ⟨schedules, isCreated, committed⟩ := committed
      obtain ⟨free, rfl⟩ := createMany_eq_some_iff.mp isCreated
      obtain ⟨rfl, -⟩ := Prod.mk.inj (Except.ok.inj committed)
      exact .created input rfl version free

variable
  {input : ProcessOccurrence}
  {actorUserId scheduleId : JsString}
  {schedule : WorkflowSchedule}
  {now : Nat}

theorem managedSchedule_found
    (managed : db.managedSchedule actorUserId scheduleId = .ok schedule) :
    db.schedule? scheduleId = some schedule := by
  simp only [Database.managedSchedule, bind_eq_ok, orThrow_eq_ok,
    pure_eq_ok] at managed
  obtain ⟨found, isFound, role, -, _, -, rfl⟩ := managed
  exact isFound

theorem pause_commits
    (now : Nat)
    (committed : pause actorUserId scheduleId db = .ok db') :
    Commit hasher append calendar (.pause actorUserId scheduleId now) db
      db' := by
  simp only [pause, bind_eq_ok, refuseIf_eq_ok, pure_eq_ok] at committed
  obtain ⟨schedule, managed, _, was, rfl⟩ := committed
  exact .paused actorUserId scheduleId now rfl schedule
    (managedSchedule_found managed) (by tauto)

theorem resume_commits
    (committed : resume calendar actorUserId scheduleId now db = .ok db') :
    Commit hasher append calendar (.resume actorUserId scheduleId now) db
      db' := by
  simp only [resume, bind_eq_ok, refuseIf_eq_ok, pure_eq_ok] at committed
  obtain ⟨schedule, managed, _, was, _, -, rfl⟩ := committed
  exact .resumed actorUserId scheduleId now rfl schedule managed
    (managedSchedule_found managed) (by tauto)

theorem archive_commits
    (committed : archive actorUserId scheduleId now db = .ok db') :
    Commit hasher append calendar (.archive actorUserId scheduleId now) db
      db' := by
  simp only [archive, bind_eq_ok, refuseIf_eq_ok, pure_eq_ok] at committed
  obtain ⟨schedule, managed, _, was, rfl⟩ := committed
  exact .archived actorUserId scheduleId now rfl schedule
    (managedSchedule_found managed) was

theorem skipOccurrence_commits
    {scheduledFor : Nat}
    (isDue : IsDue db input schedule scheduledFor)
    {reason : ScheduleSkipReason}
    {autoPauseReason : Option ScheduleAutoPauseReason}
    {change : WorkflowSchedule → WorkflowSchedule}
    (isChange : SkipChange calendar input scheduledFor reason change)
    {result : OccurrenceDispatchResult}
    (committed :
      skipOccurrence input schedule scheduledFor reason autoPauseReason change
          db =
        .ok (db', result)) :
    Commit hasher append calendar (.processOccurrence input) db db' := by
  simp only [skipOccurrence, bind_eq_ok] at committed
  obtain ⟨created, isCreated, committed⟩ := committed
  obtain ⟨rfl, -⟩ := Prod.mk.inj (Except.ok.inj committed)
  exact .skipped input rfl schedule scheduledFor isDue reason change isChange
    created isCreated

theorem processDueOccurrence_commits
    {scheduledFor : Nat}
    (isDue : IsDue db input schedule scheduledFor)
    {result : OccurrenceDispatchResult}
    (committed :
      processDueOccurrence calendar input schedule scheduledFor db =
        .ok (db', result)) :
    Commit hasher append calendar (.processOccurrence input) db db' := by
  simp only [processDueOccurrence, bind_eq_ok, orThrow_eq_ok, refuseIf_eq_ok]
    at committed
  obtain ⟨runner, isRunner, _, notRevoked, committed⟩ := committed
  split at committed
  case isTrue maintained =>
    simp only [skipMaintenanceOccurrence, bind_eq_ok] at committed
    obtain ⟨definition, -, committed⟩ := committed
    exact skipOccurrence_commits isDue (.maintained definition) committed
  case isFalse notMaintained =>
    split at committed
    case isTrue blocked =>
      exact skipOccurrence_commits isDue (.blocked _ _) committed
    case isFalse compatible =>
      simp only [bind_eq_ok, orThrow_eq_ok, refuseIf_eq_ok] at committed
      obtain ⟨_, capable, _, online, policy, -, _, valid, version, isVersion,
        committed⟩ := committed
      split at committed
      case isTrue blocked =>
        exact skipOccurrence_commits isDue (.blocked _ _) committed
      case isFalse ready =>
        split at committed
        case isTrue denied =>
          exact skipOccurrence_commits isDue .denied committed
        case isFalse notDenied =>
          simp only [bind_eq_ok, refuseIf_eq_ok] at committed
          obtain ⟨_, scheduleFree, _, runnerFree, isDispatched⟩ := committed
          have canDispatch : CanDispatch db input schedule :=
            { runner :=
                ⟨runner, version, isRunner, by simpa using notRevoked,
                  by simpa using notMaintained, by simpa using compatible,
                  isVersion, by simpa using ready⟩
              capable := by simpa using capable
              online := by simpa using online
              allowed := by
                cases verdict : input.policyVerdict with
                | invalid => exact absurd verdict (by simpa using valid)
                | denied => exact absurd verdict notDenied
                | allowed => rfl
              scheduleFree := by
                intro run isRun unfinished scheduled isScheduled same
                apply scheduleFree
                rw [List.any_eq_true]
                exact ⟨run, isRun, by simp [unfinished, isScheduled, same]⟩
              runnerFree := by
                intro run isRun unfinished same
                apply runnerFree
                rw [List.any_eq_true]
                exact ⟨run, isRun, by simp [unfinished, same]⟩ }
          exact
            .dispatched input rfl schedule scheduledFor isDue canDispatch
              version policy _ db' result isDispatched

theorem processOccurrence_commits
    {result : Option OccurrenceDispatchResult}
    (committed :
      processOccurrence calendar input db = .ok (db', result)) :
    Commit hasher append calendar (.processOccurrence input) db db' := by
  unfold processOccurrence at committed
  split at committed
  case h_1 notFound =>
    cases committed
    exact .unchanged
  case h_2 schedule found =>
    have isSchedule : schedule.id = input.scheduleId :=
      (mem_of_findUnique found).2
    split at committed
    case h_1 scheduledFor active next =>
      split at committed
      case isTrue =>
        cases committed
        exact .unchanged
      case isFalse due =>
        dsimp only at committed
        split at committed
        case h_1 existing _ =>
          cases committed
          exact .unchanged
        case h_2 =>
          cases processed :
              processDueOccurrence calendar input schedule scheduledFor db with
          | error failure =>
              rw [processed] at committed
              cases committed
          | ok answer =>
              rw [processed] at committed
              cases committed
              exact processDueOccurrence_commits
                { found := by rw [isSchedule]; exact found
                  isSchedule
                  active
                  next
                  due := Nat.le_of_not_lt due }
                processed
    case h_2 =>
      cases committed
      exact .unchanged

theorem handleRunCompletion_commits
    {input : RunCompletion}
    {result : OccurrenceDispatchResult}
    (committed :
      handleRunCompletion calendar input db = .ok (db', result)) :
    Commit hasher append calendar (.handleRunCompletion input) db db' := by
  simp only [handleRunCompletion, bind_eq_ok, orThrow_eq_ok] at committed
  obtain ⟨occurrence, found, committed⟩ := committed
  split at committed
  case isTrue terminal =>
    cases committed
    exact .unchanged
  case isFalse unfinished =>
    simp only [bind_eq_ok, refuseIf_eq_ok, orThrow_eq_ok] at committed
    obtain ⟨_, was, schedule, ofSchedule, committed⟩ := committed
    obtain ⟨rfl, -⟩ := Prod.mk.inj (Except.ok.inj committed)
    exact .completed input rfl occurrence found (not_not.mp was) schedule
      ofSchedule

theorem expireStartWindow_commits
    {occurrenceId : JsString}
    {now : Nat}
    (committed : expireStartWindow calendar occurrenceId now db = .ok db') :
    Commit hasher append calendar (.expireStartWindow occurrenceId now) db
      db' := by
  unfold expireStartWindow at committed
  split at committed
  case h_1 notFound =>
    cases committed
    exact .unchanged
  case h_2 occurrence found =>
    split at committed
    case isTrue =>
      cases committed
      exact .unchanged
    case isFalse missed =>
      simp only [bind_eq_ok, pure_eq_ok] at committed
      obtain ⟨store, isExpired, rfl⟩ := committed
      exact .expired occurrenceId now rfl occurrence found (by simpa using missed)
        store isExpired

theorem performRun_commits
    {transaction : Transaction}
    (committed : performRun hasher append transaction db = .ok db') :
    Commit hasher append calendar (.run transaction) db db' := by
  unfold performRun at committed
  split at committed
  case h_1 => cases committed
  case h_2 store isCommitted =>
    split at committed
    case h_1 input =>
      obtain rfl := Except.ok.inj committed
      unfold afterClaim
      split
      case h_1 => exact .ran _ rfl store isCommitted
      case h_2 scheduled isScheduled =>
        obtain ⟨run, isFailed, isScheduled⟩ :=
          Option.bind_eq_some_iff.mp isScheduled
        exact .failed input rfl store isCommitted run isFailed scheduled
          isScheduled
    case h_2 =>
      obtain rfl := Except.ok.inj committed
      exact .ran _ rfl store isCommitted

theorem Action.commits
    (committed : action.commit hasher append calendar db = .ok db') :
    Commit hasher append calendar action db db' := by
  cases action with
  | create input =>
      obtain ⟨result, committed⟩ := map_fst_eq_ok.mp committed
      exact create_commits committed
  | pause actorUserId scheduleId now => exact pause_commits now committed
  | resume actorUserId scheduleId now => exact resume_commits committed
  | archive actorUserId scheduleId now => exact archive_commits committed
  | processOccurrence input =>
      obtain ⟨result, committed⟩ := map_fst_eq_ok.mp committed
      exact processOccurrence_commits committed
  | handleRunCompletion input =>
      obtain ⟨result, committed⟩ := map_fst_eq_ok.mp committed
      exact handleRunCompletion_commits committed
  | expireStartWindow occurrenceId now =>
      exact expireStartWindow_commits committed
  | run transaction => exact performRun_commits committed
  | changed surroundings =>
      cases committed
      exact .changed surroundings rfl

/-- What an action leaves behind: the same database, or what it commits. -/
theorem perform_commits
    (hasher : AuditHasher)
    (append : Trail → JsValue → Option Trail)
    (calendar : Calendar)
    (db : Database Trail)
    (action : Action) :
    Commit hasher append calendar action db
      (perform hasher append calendar db action) := by
  unfold perform
  split
  case h_1 db' committed => exact action.commits committed
  case h_2 => exact .unchanged

end TaskTwin.Schedule
