import TaskTwin.Rollout.StateMachines
import TaskTwin.Store.Table

/-!
# The tables of rollouts

Every operation is one serializable transaction: it either throws and leaves
the tables as they were, or answers with the tables that it commits.  The audit
trail is a parameter: appending an event to it may throw.
-/

namespace TaskTwin.Rollout

open Text Schema Store

structure RunnerRelease where
  id : JsString
  product : JsString
  version : JsString
  status : RunnerReleaseCatalogStatus
  statusReasonCode : Option RunnerReleaseStatusReason
  /-- The targets of the artifacts of the manifest. -/
  targets : List ReleaseArtifactTarget
  deriving DecidableEq, Repr

structure RunnerCredential where
  id : JsString
  revoked : Bool
  deriving DecidableEq, Repr

structure RunnerDevice where
  id : JsString
  workspaceId : JsString
  platform : JsString
  architecture : JsString
  revoked : Bool
  credential : Option RunnerCredential
  runnerVersion : JsString
  runProtocolVersion : Option Nat
  workflowSchemaVersion : Option Nat
  localStateSchemaVersion : Option Nat
  softwareMetadataRevision : Nat
  desiredReleaseId : Option JsString
  desiredRolloutAssignmentId : Option JsString
  deriving DecidableEq, Repr

structure RunnerReleaseRollout where
  id : JsString
  workspaceId : JsString
  targetReleaseId : JsString
  clientRolloutId : JsString
  requestDigest : JsString
  status : RunnerRolloutStatus
  reviewReason : Option RunnerRolloutReviewReason
  deriving DecidableEq, Repr

structure RunnerReleaseRolloutStage where
  id : JsString
  rolloutId : JsString
  stageNumber : Nat
  status : RunnerRolloutStageStatus
  reviewReason : Option RunnerRolloutReviewReason
  deriving DecidableEq, Repr

structure RunnerReleaseRolloutAssignment where
  id : JsString
  rolloutId : JsString
  stageId : JsString
  runnerDeviceId : JsString
  status : RunnerRolloutAssignmentStatus
  baselineVersion : Option JsString
  lastObservedVersion : Option JsString
  deriving DecidableEq, Repr

/-- The tables, the people who may change them and the audit trail. -/
structure Database (Trail : Type) where
  releases : List RunnerRelease
  runners : List RunnerDevice
  rollouts : List RunnerReleaseRollout
  stages : List RunnerReleaseRolloutStage
  assignments : List RunnerReleaseRolloutAssignment
  /-- Owners and administrators of the organizations of workspaces. -/
  managers : List (JsString × JsString)
  systemAdministrators : List JsString
  trail : Trail

inductive RolloutFailure where
  | rolloutNotFound
  | rolloutForbidden
  | rolloutIdempotencyConflict
  | releaseNotAvailable
  | runnerWorkspaceMismatch
  | stageNotFound
  | runnerRevoked
  | runnerPlatformIncompatible
  | runnerActiveRolloutConflict
  | invalidStateTransition
  | runnerSoftwareIdentityConflict
  | systemAdminRequired
  | releaseNotFound
  | releaseStatusConflict
  /-- An error of the package of rollouts. -/
  | rollout (code : RunnerRolloutErrorCode)
  /-- A key that is taken. -/
  | uniqueConstraint
  /-- The audit trail refused an event. -/
  | audit
  deriving DecidableEq, Repr

variable {Trail : Type}

def orThrow
    {α : Type}
    (failure : RolloutFailure) :
    Option α → Except RolloutFailure α
  | some value => .ok value
  | none => .error failure

/-- What the package of rollouts throws, thrown on. -/
def rethrow
    {α : Type} :
    Except RunnerRolloutErrorCode α → Except RolloutFailure α
  | .ok value => .ok value
  | .error code => .error (.rollout code)

/-- What the package of rollouts throws, caught and replaced. -/
def orInstead
    {α : Type}
    (failure : RolloutFailure) :
    Except RunnerRolloutErrorCode α → Except RolloutFailure α
  | .ok value => .ok value
  | .error _ => .error failure

/-- `if (condition) throw failure`. -/
def refuseIf
    (condition : Prop)
    [Decidable condition]
    (failure : RolloutFailure) :
    Except RolloutFailure Unit :=
  if condition then .error failure else .ok ()

def requireManager
    (db : Database Trail)
    (userId workspaceId : JsString) :
    Except RolloutFailure Unit :=
  refuseIf ((userId, workspaceId) ∉ db.managers) .rolloutForbidden

def text (value : String) : JsValue := .string (js value)

def count (value : Nat) : JsValue :=
  .number (.finite false (Decimal.ofNat value))

def entity (kind : String) (id : JsString) : JsValue :=
  .object [(js "kind", text kind), (js "id", .string id)]

def userActor (userId : JsString) : JsValue :=
  .object [(js "type", text "user"), (js "userId", .string userId)]

def runnerActor (runnerDeviceId : JsString) : JsValue :=
  .object
    [(js "type", text "runner"),
      (js "runnerDeviceId", .string runnerDeviceId)]

def automaticActor : JsValue :=
  .object [(js "type", text "system"), (js "reason", text "automatic")]

/-- The argument of `appendAuditEventTransactional`. -/
def auditEvent
    (workspaceId : JsString)
    (eventType : String)
    (actor primaryEntity : JsValue)
    (relatedEntities : List JsValue)
    (occurredAt : TimeValue)
    (sourceId : JsString)
    (payload : List (JsString × JsValue)) :
    JsValue :=
  .object
    [(js "workspaceId", .string workspaceId),
      (js "eventType", text eventType),
      (js "actor", actor),
      (js "primaryEntity", primaryEntity),
      (js "relatedEntities", .array relatedEntities),
      (js "occurredAt", .date (some occurredAt)),
      (js "sourceId", .string sourceId),
      (js "payload", .object payload)]

section Operations

variable (append : Trail → JsValue → Option Trail)

/-- `appendAuditEventTransactional`. -/
def audited
    (event : JsValue)
    (db : Database Trail) :
    Except RolloutFailure (Database Trail) :=
  (orThrow .audit (append db.trail event)).map fun trail => { db with trail }

structure CreateRollout where
  actorUserId : JsString
  clientRolloutId : JsString
  requestDigest : JsString
  plan : RolloutPlan
  now : TimeValue
  /-- The identifiers that the database generates. -/
  newRolloutId : JsString
  newStageId : Nat → JsString
  newAssignmentId : JsString → JsString

def CreateRollout.rollout (input : CreateRollout) : RunnerReleaseRollout :=
  { id := input.newRolloutId
    workspaceId := input.plan.workspaceId
    targetReleaseId := input.plan.targetReleaseId
    clientRolloutId := input.clientRolloutId
    requestDigest := input.requestDigest
    status := .draft
    reviewReason := none }

def CreateRollout.stages
    (input : CreateRollout) :
    List RunnerReleaseRolloutStage :=
  input.plan.stages.map fun definition =>
    { id := input.newStageId definition.stageNumber
      rolloutId := input.newRolloutId
      stageNumber := definition.stageNumber
      status := .pending
      reviewReason := none }

def CreateRollout.assignments
    (input : CreateRollout) :
    List RunnerReleaseRolloutAssignment :=
  input.plan.stages.flatMap fun definition =>
    definition.runnerDeviceIds.map fun runnerDeviceId =>
      { id := input.newAssignmentId runnerDeviceId
        rolloutId := input.newRolloutId
        stageId := input.newStageId definition.stageNumber
        runnerDeviceId
        status := .pending
        baselineVersion := none
        lastObservedVersion := none }

def CreateRollout.event (input : CreateRollout) : JsValue :=
  let runnerIds := input.plan.stages.flatMap (·.runnerDeviceIds)
  auditEvent input.plan.workspaceId "runner.rollout.created"
    (userActor input.actorUserId)
    (entity "runner_release_rollout" input.newRolloutId)
    [entity "runner_release" input.plan.targetReleaseId]
    input.now
    (js "runner-rollout-created:" ++ input.newRolloutId)
    [(js "rolloutId", .string input.newRolloutId),
      (js "targetReleaseId", .string input.plan.targetReleaseId),
      (js "stageCount", count input.plan.stages.length),
      (js "assignmentCount", count runnerIds.length)]

def create
    (input : CreateRollout)
    (db : Database Trail) :
    Except RolloutFailure (Database Trail) := do
  let plan ← rethrow (validateRolloutPlan input.plan)
  requireManager db input.actorUserId plan.workspaceId
  let existing :=
    db.rollouts.find? fun rollout =>
      rollout.workspaceId = plan.workspaceId &&
        rollout.clientRolloutId = input.clientRolloutId
  match existing with
  | some existing =>
      refuseIf (existing.requestDigest ≠ input.requestDigest)
        .rolloutIdempotencyConflict
      return db
  | none =>
      let release := findUnique RunnerRelease.id plan.targetReleaseId db.releases
      refuseIf (release.map RunnerRelease.status ≠ some .available)
        .releaseNotAvailable
      let runnerIds := plan.stages.flatMap (·.runnerDeviceIds)
      let runners := db.runners.filter fun runner => runner.id ∈ runnerIds
      refuseIf
        (runners.length ≠ runnerIds.length ∨
          runners.any fun runner => runner.workspaceId ≠ plan.workspaceId)
        .runnerWorkspaceMismatch
      let rollouts ←
        orThrow .uniqueConstraint
          (createMany RunnerReleaseRollout.id [input.rollout] db.rollouts)
      let stages ←
        orThrow .uniqueConstraint
          (createMany RunnerReleaseRolloutStage.id input.stages db.stages)
      let assignments ←
        orThrow .uniqueConstraint
          (createMany RunnerReleaseRolloutAssignment.id input.assignments
            db.assignments)
      audited append input.event { db with rollouts, stages, assignments }

def toRunnerReleasePlatform
    (platform : JsString) :
    Option RunnerReleasePlatform :=
  if platform = js "win32" then some .windows
  else if platform = js "darwin" then some .macos
  else if platform = js "linux" then some .linux
  else none

/-- An assignment with its runner. -/
structure AssignedRunner where
  assignment : RunnerReleaseRolloutAssignment
  runner : RunnerDevice
  deriving DecidableEq, Repr

/-- The assignments of a stage, each with its runner. -/
def assignedRunners
    (db : Database Trail)
    (stageId : JsString) :
    List AssignedRunner :=
  (db.assignments.filter fun assignment => assignment.stageId = stageId)
    |>.filterMap fun assignment =>
      (findUnique RunnerDevice.id assignment.runnerDeviceId db.runners).map
        fun runner => { assignment, runner }

/-- What every runner of a stage must meet before the stage is activated. -/
def requireAssignable
    (rollout : RunnerReleaseRollout)
    (release : RunnerRelease)
    (assigned : AssignedRunner) :
    Except RolloutFailure Unit := do
  let runner := assigned.runner
  refuseIf (runner.workspaceId ≠ rollout.workspaceId) .runnerWorkspaceMismatch
  refuseIf runner.revoked .runnerRevoked
  let platform ←
    orThrow .runnerPlatformIncompatible
      (toRunnerReleasePlatform runner.platform)
  orInstead .runnerPlatformIncompatible
    (assertReleaseSupportsRunner
      { product := release.product
        version := release.version
        status := release.status
        targets := release.targets }
      platform runner.architecture)
  refuseIf
    (runner.desiredRolloutAssignmentId ≠ none ∧
      runner.desiredRolloutAssignmentId ≠ some assigned.assignment.id)
    .runnerActiveRolloutConflict

structure ActivateStage where
  actorUserId : JsString
  rolloutId : JsString
  stageNumber : Nat
  now : TimeValue

/-- The runners that the assignments of a stage are made the desire of. -/
def assignRunners
    (rollout : RunnerReleaseRollout)
    (assigned : List AssignedRunner)
    (runners : List RunnerDevice) :
    List RunnerDevice :=
  assigned.foldl
    (fun runners assigned =>
      updateMany (fun runner => runner.id = assigned.assignment.runnerDeviceId)
        (fun runner =>
          { runner with
            desiredReleaseId := some rollout.targetReleaseId
            desiredRolloutAssignmentId := some assigned.assignment.id })
        runners)
    runners

def assignTargets
    (assigned : List AssignedRunner)
    (assignments : List RunnerReleaseRolloutAssignment) :
    List RunnerReleaseRolloutAssignment :=
  assigned.foldl
    (fun assignments assigned =>
      updateMany (fun assignment => assignment.id = assigned.assignment.id)
        (fun assignment =>
          { assignment with
            status := .targetAssigned
            baselineVersion := some assigned.runner.runnerVersion
            lastObservedVersion := some assigned.runner.runnerVersion })
        assignments)
    assignments

def activateStage
    (input : ActivateStage)
    (db : Database Trail) :
    Except RolloutFailure (Database Trail) := do
  let rollout ←
    orThrow .rolloutNotFound
      (findUnique RunnerReleaseRollout.id input.rolloutId db.rollouts)
  let release ←
    orThrow .rolloutNotFound
      (findUnique RunnerRelease.id rollout.targetReleaseId db.releases)
  requireManager db input.actorUserId rollout.workspaceId
  let stages := db.stages.filter fun stage => stage.rolloutId = rollout.id
  let stage ←
    orThrow .stageNotFound
      (stages.find? fun stage => stage.stageNumber = input.stageNumber)
  if stage.status = .active ∨ stage.status = .completed then
    return db
  else
    let previous :=
      stages.find? fun stage => stage.stageNumber + 1 = input.stageNumber
    rethrow
      (assertStageMayActivate rollout.status release.status stage.stageNumber
        (previous.map RunnerReleaseRolloutStage.status))
    let assigned := assignedRunners db stage.id
    assigned.forM (requireAssignable rollout release)
    audited append
      (auditEvent rollout.workspaceId "runner.rollout.stage.activated"
        (userActor input.actorUserId)
        (entity "runner_release_rollout_stage" stage.id)
        [entity "runner_release_rollout" rollout.id,
          entity "runner_release" rollout.targetReleaseId]
        input.now
        (js "runner-rollout-stage-activated:" ++ stage.id)
        [(js "rolloutId", .string rollout.id),
          (js "stageId", .string stage.id),
          (js "stageNumber", count stage.stageNumber),
          (js "targetReleaseId", .string rollout.targetReleaseId),
          (js "assignmentCount", count assigned.length)])
      { db with
        runners := assignRunners rollout assigned db.runners
        assignments := assignTargets assigned db.assignments
        stages :=
          updateMany (fun row => row.id = stage.id)
            (fun row => { row with status := .active }) db.stages }

inductive RolloutAction where
  | activate
  | pause
  | cancel
  deriving DecidableEq, Repr

def RolloutAction.next : RolloutAction → RunnerRolloutStatus
  | .activate => .active
  | .pause => .paused
  | .cancel => .cancelled

def RolloutAction.statusText : RolloutAction → String
  | .activate => "active"
  | .pause => "paused"
  | .cancel => "cancelled"

def RolloutAction.eventType : RolloutAction → String
  | .activate => "runner.rollout.activated"
  | .pause => "runner.rollout.paused"
  | .cancel => "runner.rollout.cancelled"

structure ChangeRolloutState where
  actorUserId : JsString
  rolloutId : JsString
  action : RolloutAction
  now : TimeValue

/-- Assignments that cancellation cancels. -/
def isCancellable (assignment : RunnerReleaseRolloutAssignment) : Bool :=
  assignment.status = .pending || assignment.status = .targetAssigned

/-- Taking the assignments of a cancelled rollout from their runners.  The
runner keeps the release only when it has converged to it. -/
def releaseRunners
    (assignments : List RunnerReleaseRolloutAssignment)
    (runners : List RunnerDevice) :
    List RunnerDevice :=
  assignments.foldl
    (fun runners assignment =>
      updateMany
        (fun runner =>
          runner.id = assignment.runnerDeviceId &&
            runner.desiredRolloutAssignmentId = some assignment.id)
        (fun runner =>
          { runner with
            desiredRolloutAssignmentId := none
            desiredReleaseId :=
              if assignment.status = .converged then runner.desiredReleaseId
              else none })
        runners)
    runners

/-- What cancellation does to the rows of a rollout. -/
def cancelRows
    (rollout : RunnerReleaseRollout)
    (db : Database Trail) :
    Database Trail :=
  let assignments :=
    db.assignments.filter fun assignment => assignment.rolloutId = rollout.id
  { db with
    runners :=
      releaseRunners (assignments.filter fun row => !isCancellable row)
        (releaseRunners (assignments.filter isCancellable) db.runners)
    assignments :=
      updateMany
        (fun assignment =>
          assignment.rolloutId = rollout.id && isCancellable assignment)
        (fun assignment => { assignment with status := .cancelled })
        db.assignments
    stages :=
      updateMany
        (fun stage =>
          stage.rolloutId = rollout.id &&
            (stage.status = .pending || stage.status = .active ||
              stage.status = .failedReview))
        (fun stage => { stage with status := .cancelled })
        db.stages }

def ChangeRolloutState.event
    (input : ChangeRolloutState)
    (rollout : RunnerReleaseRollout) :
    JsValue :=
  auditEvent rollout.workspaceId input.action.eventType
    (userActor input.actorUserId)
    (entity "runner_release_rollout" rollout.id)
    []
    input.now
    (js input.action.eventType ++ [unit ':'] ++ rollout.id ++ [unit ':'] ++
      input.now.toISOString)
    ([(js "rolloutId", .string rollout.id),
      (js "status", text input.action.statusText)] ++
      (if input.action = .activate then []
        else [(js "reason", text "manual")]) ++
      -- The value of `new Date()`, not its text.
      [(js "changedAt", .date (some input.now))])

def changeRolloutState
    (input : ChangeRolloutState)
    (db : Database Trail) :
    Except RolloutFailure (Database Trail) := do
  let rollout ←
    orThrow .rolloutNotFound
      (findUnique RunnerReleaseRollout.id input.rolloutId db.rollouts)
  let release ←
    orThrow .rolloutNotFound
      (findUnique RunnerRelease.id rollout.targetReleaseId db.releases)
  requireManager db input.actorUserId rollout.workspaceId
  let next := input.action.next
  if rollout.status = next then
    return db
  else
    refuseIf
      (input.action = .activate ∧
        (release.status ≠ .available ∨ rollout.reviewReason ≠ none))
      .releaseNotAvailable
    refuseIf (!permitsTransition rolloutTransitions rollout.status next)
      .invalidStateTransition
    let changed := if input.action = .cancel then cancelRows rollout db else db
    audited append (input.event rollout)
      { changed with
        rollouts :=
          updateMany (fun row => row.id = rollout.id)
            (fun row => { row with status := next }) changed.rollouts }

structure RunnerSoftwareIdentity where
  version : JsString
  platform : RunnerReleasePlatform
  architecture : RunnerReleaseArchitecture
  runnerProtocolVersion : Nat
  workflowSchemaVersion : Nat
  localStateSchemaVersion : Nat
  deriving DecidableEq, Repr

structure Heartbeat where
  runnerDeviceId : JsString
  credentialId : JsString
  runnerVersion : JsString
  softwareIdentity : Option RunnerSoftwareIdentity
  /-- The events about a changed runtime report, which changes no column that
  is modelled. -/
  runtimeEvents : List JsValue
  databaseNow : TimeValue

/-- An assignment with the stage, the rollout and the release it is of. -/
structure ObservedAssignment where
  assignment : RunnerReleaseRolloutAssignment
  stage : RunnerReleaseRolloutStage
  rollout : RunnerReleaseRollout
  release : RunnerRelease
  deriving DecidableEq, Repr

/-- The desired assignment of a runner. -/
def desiredAssignment
    (db : Database Trail)
    (runner : RunnerDevice) :
    Option ObservedAssignment := do
  let assignmentId ← runner.desiredRolloutAssignmentId
  let assignment ←
    findUnique RunnerReleaseRolloutAssignment.id assignmentId db.assignments
  let stage ←
    findUnique RunnerReleaseRolloutStage.id assignment.stageId db.stages
  let rollout ←
    findUnique RunnerReleaseRollout.id stage.rolloutId db.rollouts
  let release ←
    findUnique RunnerRelease.id rollout.targetReleaseId db.releases
  return { assignment, stage, rollout, release }

def ObservedAssignment.event
    (observed : ObservedAssignment)
    (eventType sourceName : String)
    (runnerDeviceId : JsString)
    (observedAt : TimeValue) :
    JsValue :=
  auditEvent observed.rollout.workspaceId eventType (runnerActor runnerDeviceId)
    (entity "runner_release_rollout_assignment" observed.assignment.id)
    [entity "runner_release_rollout" observed.rollout.id,
      entity "runner_device" runnerDeviceId]
    observedAt
    (js sourceName ++ observed.assignment.id)
    [(js "rolloutId", .string observed.rollout.id),
      (js "stageId", .string observed.stage.id),
      (js "assignmentId", .string observed.assignment.id),
      (js "runnerDeviceId", .string runnerDeviceId),
      (js "stageNumber", count observed.stage.stageNumber),
      -- The time that the database answered, a date and not its text.
      (js "observedAt", .date (some observedAt))]

/-- Writing what was observed of an assignment. -/
def observeRow
    (observed : ObservedAssignment)
    (status : RunnerRolloutAssignmentStatus)
    (actualVersion : JsString)
    (db : Database Trail) :
    Database Trail :=
  { db with
    assignments :=
      updateMany (fun row => row.id = observed.assignment.id)
        (fun row =>
          { row with status, lastObservedVersion := some actualVersion })
        db.assignments }

/-- A stage all of whose assignments have converged is completed, and with the
last stage its rollout. -/
def completeRows
    (observed : ObservedAssignment)
    (db : Database Trail) :
    Database Trail :=
  let notConverged :=
    db.assignments.countP fun assignment =>
      assignment.stageId = observed.stage.id && assignment.status ≠ .converged
  if notConverged = 0 then
    let stages :=
      updateMany (fun row => row.id = observed.stage.id)
        (fun row => { row with status := .completed }) db.stages
    let remainingStages :=
      stages.countP fun stage =>
        stage.rolloutId = observed.rollout.id && stage.status ≠ .completed
    if remainingStages = 0 then
      let rolloutAssignments :=
        db.assignments.filter fun assignment =>
          assignment.rolloutId = observed.rollout.id
      { db with
        stages
        rollouts :=
          updateMany (fun row => row.id = observed.rollout.id)
            (fun row => { row with status := .completed }) db.rollouts
        runners :=
          updateMany
            (fun runner =>
              rolloutAssignments.any fun assignment =>
                runner.desiredRolloutAssignmentId = some assignment.id)
            (fun runner => { runner with desiredRolloutAssignmentId := none })
            db.runners }
    else
      { db with stages }
  else
    db

/-- A stage and its rollout are sent to review. -/
def reviewRows
    (observed : ObservedAssignment)
    (reason : RunnerRolloutReviewReason)
    (db : Database Trail) :
    Database Trail :=
  { db with
    stages :=
      updateMany (fun row => row.id = observed.stage.id)
        (fun row =>
          { row with status := .failedReview, reviewReason := some reason })
        db.stages
    rollouts :=
      updateMany (fun row => row.id = observed.rollout.id)
        (fun row => { row with status := .paused, reviewReason := some reason })
        db.rollouts }

def observeRolloutAssignment
    (observed : ObservedAssignment)
    (runnerDeviceId actualVersion : JsString)
    (observedAt : TimeValue)
    (db : Database Trail) :
    Except RolloutFailure (Database Trail) :=
  let assignment := observed.assignment
  let next :=
    observeAssignmentVersion assignment.status observed.release.version
      assignment.baselineVersion actualVersion
  let db := observeRow observed next actualVersion db
  -- An observation has an outcome only when it changes the status.
  if next = assignment.status then
    .ok db
  else
    match next with
    | .converged => do
        let db ←
          audited append
            (observed.event "runner.rollout.assignment.converged"
              "runner-rollout-converged:" runnerDeviceId observedAt)
            db
        return completeRows observed db
    | .rolledBack =>
        audited append
          (observed.event "runner.rollout.assignment.rolled_back"
            "runner-rollout-rolled-back:" runnerDeviceId observedAt)
          (reviewRows observed .assignmentRolledBack db)
    | .failed =>
        .ok (reviewRows observed .unexpectedVersionAfterConvergence db)
    | _ => .ok db

def optionalCount : Option Nat → JsValue
  | some value => count value
  | none => .null

def Heartbeat.versionEvent
    (input : Heartbeat)
    (device : RunnerDevice)
    (revision : Nat) :
    JsValue :=
  auditEvent device.workspaceId "runner.software_version.changed"
    (runnerActor input.runnerDeviceId)
    (entity "runner_device" input.runnerDeviceId)
    []
    input.databaseNow
    (js "runner-software:" ++ input.runnerDeviceId ++ [unit ':'] ++
      (if revision = 0 then js "0" else decimalText revision))
    [(js "runnerDeviceId", .string input.runnerDeviceId),
      (js "previousVersion", .string device.runnerVersion),
      (js "newVersion", .string input.runnerVersion),
      (js "runnerProtocolVersion",
        optionalCount
          (input.softwareIdentity.map
            RunnerSoftwareIdentity.runnerProtocolVersion)),
      (js "localStateSchemaVersion",
        optionalCount
          (input.softwareIdentity.map
            RunnerSoftwareIdentity.localStateSchemaVersion))]

/-- A device that the heartbeat authenticates as. -/
def Heartbeat.authenticates
    (input : Heartbeat)
    (device : RunnerDevice) :
    Bool :=
  !device.revoked &&
    device.credential.any fun credential =>
      credential.id = input.credentialId && !credential.revoked

/-- A software identity that contradicts the version or the device. -/
def Heartbeat.contradicts
    (input : Heartbeat)
    (device : RunnerDevice) :
    Bool :=
  input.softwareIdentity.any fun identity =>
    identity.version ≠ input.runnerVersion ||
      some identity.platform ≠ toRunnerReleasePlatform device.platform ||
      identity.architecture.text ≠ device.architecture

/-- The device with what the heartbeat reports of its software. -/
def Heartbeat.report
    (input : Heartbeat)
    (device : RunnerDevice) :
    RunnerDevice :=
  let runProtocolVersion :=
    input.softwareIdentity.map RunnerSoftwareIdentity.runnerProtocolVersion
  let workflowSchemaVersion :=
    input.softwareIdentity.map RunnerSoftwareIdentity.workflowSchemaVersion
  let localStateSchemaVersion :=
    input.softwareIdentity.map RunnerSoftwareIdentity.localStateSchemaVersion
  let softwareChanged :=
    device.runnerVersion ≠ input.runnerVersion ∨
      device.runProtocolVersion ≠ runProtocolVersion ∨
      device.workflowSchemaVersion ≠ workflowSchemaVersion ∨
      device.localStateSchemaVersion ≠ localStateSchemaVersion
  { device with
    runnerVersion := input.runnerVersion
    runProtocolVersion
    workflowSchemaVersion
    localStateSchemaVersion
    softwareMetadataRevision :=
      if softwareChanged then device.softwareMetadataRevision + 1
      else device.softwareMetadataRevision }

def Heartbeat.reportRows
    (input : Heartbeat)
    (db : Database Trail) :
    Database Trail :=
  { db with
    runners :=
      updateMany (fun runner => runner.id = input.runnerDeviceId) input.report
        db.runners }

/-- Appending events one after another. -/
def auditedAll
    (events : List JsValue)
    (db : Database Trail) :
    Except RolloutFailure (Database Trail) :=
  events.foldlM (fun db event => audited append event db) db

def heartbeat
    (input : Heartbeat)
    (db : Database Trail) :
    Except RolloutFailure (Database Trail) := do
  let device ←
    orThrow .runnerRevoked
      (findUnique RunnerDevice.id input.runnerDeviceId db.runners)
  refuseIf (!input.authenticates device) .runnerRevoked
  refuseIf (input.contradicts device) .runnerSoftwareIdentityConflict
  let reported := input.report device
  let versionEvents :=
    if device.runnerVersion = input.runnerVersion then []
    else [input.versionEvent device reported.softwareMetadataRevision]
  let observed := desiredAssignment db device
  let db ←
    auditedAll append (versionEvents ++ input.runtimeEvents)
      (input.reportRows db)
  match observed with
  | none => return db
  | some observed =>
      observeRolloutAssignment append observed input.runnerDeviceId
        input.runnerVersion input.databaseNow db

structure ChangeReleaseStatus where
  actorUserId : JsString
  releaseId : JsString
  nextStatus : RunnerReleaseCatalogStatus
  /-- Nothing becomes available again. -/
  isChange : nextStatus ≠ .available
  reason : RunnerReleaseStatusReason
  now : TimeValue

def blockEvent
    (now : TimeValue)
    (rollout : RunnerReleaseRollout) :
    JsValue :=
  auditEvent rollout.workspaceId "runner.rollout.paused" automaticActor
    (entity "runner_release_rollout" rollout.id)
    []
    now
    (js "runner-rollout-blocked:" ++ rollout.id)
    [(js "rolloutId", .string rollout.id),
      (js "status", text "paused"),
      (js "reason", text "target_release_blocked"),
      (js "changedAt", .date (some now))]

/-- Pausing a rollout whose target was blocked. -/
def blockRow
    (rollout : RunnerReleaseRollout)
    (rollouts : List RunnerReleaseRollout) :
    List RunnerReleaseRollout :=
  updateMany (fun row => row.id = rollout.id)
    (fun row =>
      { row with status := .paused, reviewReason := some .targetReleaseBlocked })
    rollouts

def blockStages
    (rollout : RunnerReleaseRollout)
    (stages : List RunnerReleaseRolloutStage) :
    List RunnerReleaseRolloutStage :=
  updateMany
    (fun stage => stage.rolloutId = rollout.id && stage.status = .active)
    (fun stage =>
      { stage with
        status := .failedReview
        reviewReason := some .targetReleaseBlocked })
    stages

def blockRollout
    (now : TimeValue)
    (rollout : RunnerReleaseRollout)
    (db : Database Trail) :
    Except RolloutFailure (Database Trail) :=
  audited append (blockEvent now rollout)
    { db with
      rollouts := blockRow rollout db.rollouts
      stages := blockStages rollout db.stages }

def changeStatus
    (input : ChangeReleaseStatus)
    (db : Database Trail) :
    Except RolloutFailure (Database Trail) := do
  refuseIf (input.actorUserId ∉ db.systemAdministrators) .systemAdminRequired
  let release ←
    orThrow .releaseNotFound
      (findUnique RunnerRelease.id input.releaseId db.releases)
  if release.status = input.nextStatus ∧
      release.statusReasonCode = some input.reason then
    return db
  else
    refuseIf
      (!permitsReleaseStatus release.status input.nextStatus input.reason)
      .releaseStatusConflict
    let changed :=
      { db with
        releases :=
          updateMany (fun row => row.id = release.id)
            (fun row =>
              { row with
                status := input.nextStatus
                statusReasonCode := some input.reason })
            db.releases }
    if input.nextStatus = .blocked then
      let affected :=
        db.rollouts.filter fun rollout =>
          rollout.targetReleaseId = release.id && rollout.status = .active
      affected.foldlM
        (fun db rollout => blockRollout append input.now rollout db) changed
    else
      return changed

inductive Operation where
  | create (input : CreateRollout)
  | changeRolloutState (input : ChangeRolloutState)
  | activateStage (input : ActivateStage)
  | heartbeat (input : Heartbeat)
  | changeStatus (input : ChangeReleaseStatus)

def perform
    (operation : Operation)
    (db : Database Trail) :
    Except RolloutFailure (Database Trail) :=
  match operation with
  | .create input => create append input db
  | .changeRolloutState input => changeRolloutState append input db
  | .activateStage input => activateStage append input db
  | .heartbeat input => heartbeat append input db
  | .changeStatus input => changeStatus append input db

/-- The tables after an operation; one that throws is rolled back. -/
def step
    (db : Database Trail)
    (operation : Operation) :
    Database Trail :=
  match perform append operation db with
  | .ok db' => db'
  | .error _ => db

/-- The tables after a sequence of operations. -/
def run
    (db : Database Trail)
    (operations : List Operation) :
    Database Trail :=
  operations.foldl (step append) db

end Operations

end TaskTwin.Rollout
