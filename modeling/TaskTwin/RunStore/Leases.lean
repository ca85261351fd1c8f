import TaskTwin.RunStore.AuditEvents

/-!
# Leases

How a run is created, claimed, kept, cancelled, and interrupted when its lease
has run out.  Every method is a serializable transaction, some after one that
interrupts the run if it has to.
-/

namespace TaskTwin.RunStore

open Text Schema Workflow Recovery Engine Audit Store

variable {Trail : Type}

/-- What a transaction makes of a run. -/
structure RunChange (α : Type) where
  run : WorkflowRun
  events : List AuditEventInput
  answer : α

/-- A run that is left as it is. -/
def unchanged {α : Type} (run : WorkflowRun) (answer : α) : RunChange α :=
  { run, events := [], answer }

def Database.run? (db : Database Trail) (runId : JsString) : Option WorkflowRun :=
  findUnique WorkflowRun.id runId db.runs

/-- The row of a run, written back. -/
def Database.putRun (db : Database Trail) (run : WorkflowRun) : Database Trail :=
  { db with
    runs := updateMany (fun row => row.id = run.id) (fun _ => run) db.runs }

section Append

variable (append : Trail → JsValue → Option Trail)

/-- `appendAuditEventTransactional`, for one event after the other. -/
def appendEvents
    (events : List AuditEventInput)
    (trail : Trail) :
    Option Trail :=
  events.foldlM (fun trail event => append trail event.toJs) trail

def commitChange
    {α : Type}
    (change : RunChange α)
    (db : Database Trail) :
    Except StoreFailure (Database Trail × α) := do
  let trail ← orThrow .audit (appendEvents append change.events db.trail)
  return ({ db.putRun change.run with trail }, change.answer)

/-- A transaction that reads and writes one run. -/
def changeRun
    {α : Type}
    (runId : JsString)
    (missing : StoreFailure)
    (body : WorkflowRun → Except StoreFailure (RunChange α))
    (db : Database Trail) :
    Except StoreFailure (Database Trail × α) := do
  let run ← orThrow missing (db.run? runId)
  let change ← body run
  commitChange append change db

end Append

def interruptAttempt
    (errorCode : StoredErrorCode)
    (now : Nat)
    (attempt : WorkflowRunStepAttempt) :
    WorkflowRunStepAttempt :=
  if attempt.status = .running then
    { attempt with
      status := .interrupted
      safeErrorCode := some errorCode
      effectCertainty := .unknown
      finishedAt := some now }
  else
    attempt

def interruptAttempts
    (errorCode : StoredErrorCode)
    (now : Nat)
    (step : WorkflowRunStep) :
    WorkflowRunStep :=
  { step with attempts := step.attempts.map (interruptAttempt errorCode now) }

/-- A step that has begun is interrupted; a pending one is skipped. -/
def interruptStep
    (errorCode : StoredErrorCode)
    (now : Nat)
    (step : WorkflowRunStep) :
    WorkflowRunStep :=
  match step.status with
  | .running | .waitingForApproval | .waitingForRepair =>
      { step with
        status := .interrupted
        errorCode := some errorCode
        finishedAt := some now }
  | .pending =>
      { step with
        status := .skipped
        skippedReason := some (.engine .runInterrupted)
        finishedAt := some now }
  | _ => step

def skipPendingStep
    (reason : StoredSkippedReason)
    (now : Nat)
    (step : WorkflowRunStep) :
    WorkflowRunStep :=
  if step.status = .pending then
    { step with
      status := .skipped
      skippedReason := some reason
      finishedAt := some now }
  else
    step

def WorkflowApprovalRequest.isPending (request : WorkflowApprovalRequest) : Bool :=
  request.status = .pending

def WorkflowRepairRequest.isPending (request : WorkflowRepairRequest) : Bool :=
  request.status = .pending

/-- `updateMany` of pending approval requests. -/
def resolveApprovals
    (status : ApprovalRequestStatus)
    (now : Nat)
    (requests : List WorkflowApprovalRequest) :
    List WorkflowApprovalRequest :=
  updateMany WorkflowApprovalRequest.isPending
    (fun request => { request with status, resolvedAt := some now }) requests

/-- `updateMany` of pending repair requests. -/
def resolveRepairs
    (status : RepairRequestStatus)
    (now : Nat)
    (requests : List WorkflowRepairRequest) :
    List WorkflowRepairRequest :=
  updateMany WorkflowRepairRequest.isPending
    (fun request => { request with status, resolvedAt := some now }) requests

section Events

variable (hasher : AuditHasher)

/-- The events of the requests that end with their run. -/
def lifecycleEvents
    (run : WorkflowRun)
    (reason : LifecycleReason)
    (now : Nat) :
    List AuditEventInput :=
  ((run.approvalRequests.filter WorkflowApprovalRequest.isPending).map
      fun request =>
        buildApprovalLifecycleInput hasher run request.id reason now) ++
    (run.repairRequests.filter WorkflowRepairRequest.isPending).map
      fun request =>
        buildRepairLifecycleInput hasher run request.id reason now

/-- `interruptLockedRun`. -/
def interruptLockedRun (now : Nat) (run : WorkflowRun) : RunChange Unit :=
  let interrupted :=
    { run with
      steps :=
        run.steps.map fun step =>
          interruptStep .leaseExpired now
            (interruptAttempts .leaseExpired now step)
      approvalRequests := resolveApprovals .invalidated now run.approvalRequests
      repairRequests := resolveRepairs .invalidated now run.repairRequests
      status := .interrupted
      terminationCause := some .leaseExpired
      finishedAt := some now
      leaseTokenHash := none
      leaseExpiresAt := none }
  { run := interrupted
    events :=
      lifecycleEvents hasher run .invalidated now ++
        [buildRunInterruptedInput hasher interrupted now]
    answer := () }

/-- A run whose lease has run out. -/
def WorkflowRun.leaseHasExpired (run : WorkflowRun) (now : Nat) : Bool :=
  run.status.isActive &&
    run.leaseExpiresAt.any fun expiresAt => expiresAt ≤ now

variable (append : Trail → JsValue → Option Trail)

def expireRunIfRequired
    (runId : JsString)
    (now : Nat)
    (db : Database Trail) :
    Except StoreFailure (Database Trail × Unit) :=
  match db.run? runId with
  | none => .ok (db, ())
  | some run =>
      if run.leaseHasExpired now then
        commitChange append (interruptLockedRun hasher now run) db
      else
        .ok (db, ())

/-- What a runner shows to act on a run. -/
structure LeaseClaim where
  runnerDeviceId : JsString
  leaseTokenHash : JsString

/-- `requireLease`; not every caller reads the runner of the run. -/
def requireLease
    (runner : Option RunnerDevice)
    (lease : LeaseClaim)
    (now : Nat)
    (run : WorkflowRun) :
    Except StoreFailure Unit := do
  refuseIf (run.runnerDeviceId ≠ lease.runnerDeviceId) .runnerMismatch
  refuseIf (runner.any (·.revoked)) .runnerRevoked
  refuseIf (runner.any (·.credentialRevoked)) .runnerRevoked
  refuseIf
    (!run.status.isActive ∨ run.leaseTokenHash ≠ some lease.leaseTokenHash ∨
      run.leaseExpiresAt = none)
    .leaseInvalid
  refuseIf (run.leaseExpiresAt.any fun expiresAt => expiresAt ≤ now)
    .leaseExpired

structure RenewLease where
  workflowRunId : JsString
  lease : LeaseClaim
  now : Nat
  leaseExpiresAt : Nat

/-- The second transaction of `renewLease`. -/
def renewLockedLease
    (input : RenewLease)
    (db : Database Trail) :
    Except StoreFailure (Database Trail × Bool) :=
  changeRun append input.workflowRunId .runNotFound
    (fun run => do
      let runner := findUnique RunnerDevice.id run.runnerDeviceId db.runners
      requireLease runner input.lease input.now run
      .ok
        { run := { run with leaseExpiresAt := some input.leaseExpiresAt }
          events := []
          answer := run.status = .cancelRequested })
    db

def renewLease
    (input : RenewLease)
    (db : Database Trail) :
    Database Trail × Except StoreFailure Bool :=
  andThen (expireRunIfRequired hasher append input.workflowRunId input.now)
    (renewLockedLease append input) db

structure CreateRun where
  actorUserId : JsString
  workflowVersionId : JsString
  runnerDeviceId : JsString
  clientRunId : JsString
  runProtocolVersion : Nat
  recoveryMode : RecoveryMode
  /-- What the inputs of the run were prepared with. -/
  pinnedSecretInventory : Option SecretInventoryPin
  /-- The definition, the policy and the capabilities of the runner allow it. -/
  isReady : Bool
  now : Nat
  newRunId : JsString

structure CreateWorkflowRunResult where
  run : WorkflowRun
  idempotent : Bool

def Database.roleOf
    (db : Database Trail)
    (userId workspaceId : JsString) :
    Option OrganizationRole :=
  (db.memberships.find? fun membership =>
    membership.userId = userId ∧ membership.workspaceId = workspaceId).map
    Membership.role

/-- `WRITER_ROLES.includes(role)`. -/
def OrganizationRole.isWriter : OrganizationRole → Bool
  | .viewer => false
  | _ => true

def createdSteps (workflow : WorkflowDefinition) : List WorkflowRunStep :=
  workflow.steps.zipIdx.map fun (step, index) =>
    { sourceStepId := step.id
      sourceStepIndex := index
      stepType := step.type
      status := .pending
      lastEngineStatus := none
      startedAt := none
      finishedAt := none
      durationMs := none
      errorCode := none
      skippedReason := none
      attempts := [] }

def createdOutputs (workflow : WorkflowDefinition) : List WorkflowRunOutput :=
  (defineWorkflowOutputs workflow).map fun output =>
    { outputName := output.name
      outputType := output.valueType
      producerStepId := output.producerStepId
      producerStepIndex := output.producerStepIndex
      status := .notProduced
      producedAt := none }

def CreateRun.row
    (input : CreateRun)
    (version : WorkflowVersion)
    (policy : PolicyVersion) :
    WorkflowRun :=
  { id := input.newRunId
    workspaceId := version.workspaceId
    workflowVersionId := version.id
    runnerDeviceId := input.runnerDeviceId
    clientRunId := input.clientRunId
    createdAt := input.now
    runProtocolVersion := input.runProtocolVersion
    workflow := version.workflow
    recoveryMode := input.recoveryMode
    policyVersionId := some policy.id
    pinnedSecretInventory := input.pinnedSecretInventory
    status := .queued
    claimAttemptId := none
    leaseTokenHash := none
    leaseExpiresAt := none
    claimedAt := none
    startedAt := none
    lastProgressSequence := 0
    lastEngineStatus := none
    cancelRequestedAt := none
    cancelRequestedByUserId := none
    clientCompletionId := none
    completionDigest := none
    finalResult := none
    terminationCause := none
    finishedAt := none
    steps := createdSteps version.workflow
    outputs := createdOutputs version.workflow
    approvalRequests := []
    repairRequests := []
    progressBatches := [] }

def Database.activePolicy
    (db : Database Trail)
    (workspaceId : JsString) :
    Option PolicyVersion :=
  db.policies.find? fun policy =>
    policy.workspaceId = workspaceId ∧ policy.active

def createRun
    (input : CreateRun)
    (db : Database Trail) :
    Except StoreFailure (Database Trail × CreateWorkflowRunResult) := do
  let version ←
    orThrow .runNotFound
      (findUnique WorkflowVersion.id input.workflowVersionId db.versions)
  let role ←
    orThrow .runNotFound (db.roleOf input.actorUserId version.workspaceId)
  refuseIf (!role.isWriter) .runForbidden
  let existing :=
    db.runs.find? fun run =>
      run.workspaceId = version.workspaceId ∧
        run.clientRunId = input.clientRunId
  match existing with
  | some existing =>
      refuseIf
        (existing.workflowVersionId ≠ input.workflowVersionId ∨
          existing.runnerDeviceId ≠ input.runnerDeviceId)
        .runConflict
      let run ← toRecord existing
      return (db, { run, idempotent := true })
  | none =>
      let runner ←
        orThrow .runnerMismatch
          (db.runners.find? fun runner =>
            runner.id = input.runnerDeviceId ∧
              runner.workspaceId = version.workspaceId)
      refuseIf runner.revoked .runnerRevoked
      let policy ← orThrow .runNotReady (db.activePolicy version.workspaceId)
      refuseIf (!input.isReady) .runNotReady
      let created := input.row version policy
      let runs ←
        orThrow .uniqueConstraint (createMany WorkflowRun.id [created] db.runs)
      let event :=
        buildRunCreatedInput hasher created version policy input.actorUserId
          input.now
      let trail ← orThrow .audit (appendEvents append [event] db.trail)
      let run ← toRecord created
      return ({ db with runs, trail }, { run, idempotent := false })

structure ClaimRun where
  runnerDeviceId : JsString
  runnerVersion : JsString
  runProtocolVersion : Nat
  workflowSchemaVersion : Nat
  claimAttemptId : JsString
  leaseTokenHash : JsString
  now : Nat
  leaseExpiresAt : Nat
  secretInventory : Option SecretInventoryPin

inductive ClaimWorkflowRunResult where
  | noJob
  | claimed (run : WorkflowRun) (idempotent : Bool)

/-- The order in which queued runs are claimed. -/
def queuedBefore (first second : WorkflowRun) : Bool :=
  first.createdAt < second.createdAt ||
    (first.createdAt = second.createdAt && decide (first.id ≤ second.id))

def Database.nextQueued
    (db : Database Trail)
    (input : ClaimRun) :
    Option WorkflowRun :=
  ((db.runs.filter fun run =>
      run.runnerDeviceId = input.runnerDeviceId ∧ run.status = .queued ∧
        run.runProtocolVersion = input.runProtocolVersion).insertionSort
    fun first second => queuedBefore first second).head?

def secretInventoryMatches
    (input : ClaimRun)
    (runner : RunnerDevice)
    (run : WorkflowRun) :
    Bool :=
  match run.pinnedSecretInventory with
  | none => true
  | some pinned =>
      input.secretInventory = some pinned && runner.secretInventory = some pinned

/-- A queued run that is not claimed, because what it needs has changed. -/
def failBeforeExecution
    (actorReason : String)
    (cause : StoredTerminationCause)
    (reason : StoredSkippedReason)
    (now : Nat)
    (run : WorkflowRun) :
    RunChange ClaimWorkflowRunResult :=
  { run :=
      { run with
        status := .failed
        finishedAt := some now
        terminationCause := some cause
        steps := run.steps.map (skipPendingStep reason now) }
    events :=
      [buildRunTerminalInput hasher run
        { actor := .system (js actorReason)
          terminalStatus := .failed
          terminationCause := cause
          finishedAt := now
          engineResultDigest := none
          durationMs := none
          producedOutputCount := run.producedOutputCount }]
    answer := .noJob }

/-- The next queued run, claimed or failed. -/
def claimQueued
    (input : ClaimRun)
    (runner : RunnerDevice)
    (activePolicyId : Option JsString)
    (run : WorkflowRun) :
    RunChange ClaimWorkflowRunResult :=
  if !secretInventoryMatches input runner run then
    failBeforeExecution hasher "secret_inventory_sync"
      .secretInventoryChangedBeforeExecution
      .secretInventoryChangedBeforeExecution input.now run
  else if run.policyVersionId = none ∨ activePolicyId ≠ run.policyVersionId then
    failBeforeExecution hasher "policy_supersede" .policyChangedBeforeExecution
      .policyChangedBeforeExecution input.now run
  else
    let claimed :=
      { run with
        status := .claimed
        claimAttemptId := some input.claimAttemptId
        leaseTokenHash := some input.leaseTokenHash
        leaseExpiresAt := some input.leaseExpiresAt
        claimedAt := some input.now }
    { run := claimed
      events :=
        [buildRunClaimedInput hasher claimed input.runnerDeviceId
          input.claimAttemptId input.leaseExpiresAt input.now]
      answer := .claimed claimed false }

/-- The answer to an attempt that has claimed a run before. -/
def claimAgain
    (input : ClaimRun)
    (run : WorkflowRun) :
    Except StoreFailure (RunChange ClaimWorkflowRunResult) := do
  refuseIf
    (!run.status.isActive ∨ run.leaseTokenHash ≠ some input.leaseTokenHash ∨
      run.leaseExpiresAt = none ∨
      run.runProtocolVersion ≠ input.runProtocolVersion)
    .runConflict
  if run.leaseExpiresAt.any fun expiresAt => expiresAt ≤ input.now then
    let change := interruptLockedRun hasher input.now run
    return { run := change.run, events := change.events, answer := .noJob }
  else
    return unchanged run (.claimed run true)

def claimNext
    (input : ClaimRun)
    (runner : RunnerDevice)
    (db : Database Trail) :
    Except StoreFailure (Database Trail × ClaimWorkflowRunResult) :=
  match db.nextQueued input with
  | none => .ok (db, .noJob)
  | some run =>
      let activePolicyId := (db.activePolicy run.workspaceId).map PolicyVersion.id
      commitChange append (claimQueued hasher input runner activePolicyId run) db

def claim
    (input : ClaimRun)
    (db : Database Trail) :
    Except StoreFailure (Database Trail × ClaimWorkflowRunResult) := do
  let runner ←
    orThrow .runnerRevoked
      (findUnique RunnerDevice.id input.runnerDeviceId db.runners)
  refuseIf runner.revoked .runnerRevoked
  if !runner.canClaimJobs ∨ input.runnerVersion ≠ runner.runnerVersion ∨
      input.runProtocolVersion ≠ runner.runProtocolVersion ∨
      input.workflowSchemaVersion ≠ runner.workflowSchemaVersion ∨
      runner.releaseBlocked then
    return (db, .noJob)
  else
    let retried :=
      db.runs.find? fun run =>
        run.runnerDeviceId = input.runnerDeviceId ∧
          run.claimAttemptId = some input.claimAttemptId
    match retried with
    | some run =>
        let change ← claimAgain hasher input run
        commitChange append change db
    | none =>
        if runner.draining then
          return (db, .noJob)
        else
          let active :=
            db.runs.find? fun run =>
              run.runnerDeviceId = input.runnerDeviceId ∧ run.status.isActive
          match active with
          | none => claimNext hasher append input runner db
          | some active =>
              if active.leaseHasExpired input.now then
                let (db, ()) ←
                  commitChange append
                    (interruptLockedRun hasher input.now active) db
                claimNext hasher append input runner db
              else
                return (db, .noJob)

structure CancelRun where
  actorUserId : JsString
  workflowRunId : JsString
  now : Nat

structure CompletionResult where
  run : WorkflowRun
  idempotent : Bool

/-- A run whose pending requests are cancelled. -/
def cancelRequests (now : Nat) (run : WorkflowRun) : WorkflowRun :=
  { run with
    approvalRequests := resolveApprovals .cancelled now run.approvalRequests
    repairRequests := resolveRepairs .cancelled now run.repairRequests }

/-- The cancellation of a run that is not finished. -/
def cancelUnfinished
    (input : CancelRun)
    (run : WorkflowRun) :
    Except StoreFailure (RunChange CompletionResult) :=
  let requests := lifecycleEvents hasher run .cancelled input.now
  if run.status = .queued then do
    let cancelled :=
      { cancelRequests input.now run with
        steps :=
          run.steps.map (skipPendingStep (.engine .runCancelled) input.now)
        status := .cancelled
        cancelRequestedAt := some input.now
        cancelRequestedByUserId := some input.actorUserId
        finishedAt := some input.now
        terminationCause := some (.engine .runCancelled) }
    let record ← toRecord cancelled
    .ok
      { run := cancelled
        events :=
          requests ++
            [buildRunTerminalInput hasher cancelled
              { actor := .user input.actorUserId
                terminalStatus := .cancelled
                terminationCause := .engine .runCancelled
                finishedAt := input.now
                engineResultDigest := none
                durationMs := none
                producedOutputCount := cancelled.producedOutputCount }]
        answer := { run := record, idempotent := false } }
  else do
    let updated :=
      { cancelRequests input.now run with
        status := .cancelRequested
        cancelRequestedAt := some (run.cancelRequestedAt.getD input.now)
        cancelRequestedByUserId :=
          some (run.cancelRequestedByUserId.getD input.actorUserId) }
    let record ← toRecord updated
    .ok
      { run := updated
        events :=
          requests ++
            [buildRunCancelRequestedInput hasher updated input.actorUserId
              (run.cancelRequestedAt.getD input.now)]
        answer :=
          { run := record, idempotent := run.status = .cancelRequested } }

def cancel
    (input : CancelRun)
    (db : Database Trail) :
    Except StoreFailure (Database Trail × CompletionResult) :=
  changeRun append input.workflowRunId .runNotFound
    (fun run => do
      let role ←
        orThrow .runNotFound (db.roleOf input.actorUserId run.workspaceId)
      refuseIf (!role.isWriter) .runForbidden
      if run.status.isTerminal then
        let record ← toRecord run
        return unchanged run { run := record, idempotent := true }
      else
        cancelUnfinished hasher input run)
    db

end Events

end TaskTwin.RunStore
