import TaskTwin.RunStore.Progress

/-!
# Requests for approval and repair

How a runner asks for a human decision, how the decision is made, and how a
request expires.  Whoever reads a request expires it first; a runner that reads
its own request does so without ending the run.
-/

namespace TaskTwin.RunStore

open Text Schema Workflow Recovery Engine Audit Store

variable {Trail : Type}

/-- The lease of a runner that asks for a decision. -/
def requireRequestLease
    (lease : LeaseClaim)
    (now : Nat)
    (run : WorkflowRun) :
    Except StoreFailure Unit := do
  refuseIf (run.runnerDeviceId ≠ lease.runnerDeviceId) .runnerMismatch
  refuseIf
    (run.leaseTokenHash ≠ some lease.leaseTokenHash ∨
      run.leaseExpiresAt.all fun expiresAt => expiresAt ≤ now)
    .leaseInvalid

def setStepStatus
    (stepId : NonEmptyString)
    (status : WorkflowRunStepStatus)
    (steps : List WorkflowRunStep) :
    List WorkflowRunStep :=
  updateMany (fun step => step.sourceStepId = stepId)
    (fun step => { step with status }) steps

structure CreateApproval where
  workflowRunId : JsString
  lease : LeaseClaim
  clientRequestId : JsString
  approvalStepId : NonEmptyString
  gatedStepId : NonEmptyString
  expiresAt : Nat
  /-- `createCanonicalJsonDigest` of the request. -/
  requestDigest : JsString
  now : Nat
  newRequestId : JsString

structure ApprovalRecord where
  request : WorkflowApprovalRequest
  idempotent : Bool

/-- A request is shown with the binding of its step. -/
def toApprovalRecord
    (run : WorkflowRun)
    (request : WorkflowApprovalRequest) :
    Except StoreFailure WorkflowApprovalRequest :=
  (orThrow .approvalInvalid
    (requireApprovalBinding run.workflow request.approvalStepId)).map
    fun _ => request

def CreateApproval.row
    (input : CreateApproval)
    (binding : ApprovalBinding) :
    WorkflowApprovalRequest :=
  { id := input.newRequestId
    runnerDeviceId := input.lease.runnerDeviceId
    approvalStepId := binding.approvalStepId
    gatedStepId := binding.gatedStepId
    clientRequestId := input.clientRequestId
    requestDigest := input.requestDigest
    status := .pending
    riskLevel := binding.riskLevel
    requestedAt := input.now
    expiresAt := input.expiresAt
    resolvedAt := none
    decidedByUserId := none
    clientDecisionId := none }

section Approvals

variable (hasher : AuditHasher)

def createApprovalOn
    (input : CreateApproval)
    (run : WorkflowRun) :
    Except StoreFailure (RunChange ApprovalRecord) := do
  requireRequestLease input.lease input.now run
  refuseIf (run.status ≠ .running ∧ run.status ≠ .waitingForApproval)
    .approvalConflict
  let binding ←
    orThrow .approvalInvalid
      (requireApprovalBinding run.workflow input.approvalStepId)
  refuseIf
    (binding.gatedStepId ≠ input.gatedStepId ∨ input.expiresAt ≤ input.now ∨
      input.now + binding.timeoutMs.value < input.expiresAt)
    .approvalInvalid
  let existing :=
    run.approvalRequests.find? fun request =>
      request.clientRequestId = input.clientRequestId ∨
        request.approvalStepId = binding.approvalStepId
  match existing with
  | some existing =>
      refuseIf
        (existing.clientRequestId ≠ input.clientRequestId ∨
          existing.requestDigest ≠ input.requestDigest)
        .approvalConflict
      let request ← toApprovalRecord run existing
      return unchanged run { request, idempotent := true }
  | none =>
      let created := input.row binding
      let request ← toApprovalRecord run created
      .ok
        { run :=
            { run with
              approvalRequests := run.approvalRequests ++ [created]
              status := .waitingForApproval
              steps :=
                setStepStatus binding.approvalStepId .waitingForApproval
                  run.steps }
          events :=
            [buildApprovalRequestedInput hasher run input.lease.runnerDeviceId
              created]
          answer := { request, idempotent := false } }

variable (append : Trail → JsValue → Option Trail)

/-- `WorkflowApprovalRepository.createForRunner`. -/
def createApproval
    (input : CreateApproval)
    (db : Database Trail) :
    Except StoreFailure (Database Trail × ApprovalRecord) := do
  refuseIf
    (db.runs.any fun run =>
      run.approvalRequests.any fun request => request.id = input.newRequestId)
    .uniqueConstraint
  changeRun append input.workflowRunId .runNotFound
    (createApprovalOn hasher input) db

/-- The run of an approval request, with the request. -/
def Database.approval?
    (db : Database Trail)
    (requestId : JsString) :
    Option (WorkflowRun × WorkflowApprovalRequest) :=
  db.runs.findSome? fun run =>
    (findUnique WorkflowApprovalRequest.id requestId run.approvalRequests).map
      fun request => (run, request)

/-- A run with one approval request changed. -/
def WorkflowRun.changeApproval
    (run : WorkflowRun)
    (requestId : JsString)
    (change : WorkflowApprovalRequest → WorkflowApprovalRequest) :
    WorkflowRun :=
  { run with
    approvalRequests :=
      updateMany (fun request => request.id = requestId) change
        run.approvalRequests }

/-- The steps of a run whose wait for an approval has expired. -/
def approvalExpiredStep
    (approvalStepId : NonEmptyString)
    (now : Nat)
    (step : WorkflowRunStep) :
    WorkflowRunStep :=
  skipPendingStep (.engine .approvalExpired) now
    (if step.sourceStepId = approvalStepId ∧
        step.status = .waitingForApproval then
      { step with status := .timedOut, finishedAt := some now }
    else
      step)

/-- A run is timed out when it waits for an approval. -/
def WorkflowRun.approvalTimedOut (run : WorkflowRun) (now : Nat) : WorkflowRun :=
  if run.status = .waitingForApproval then
    { run with
      status := .timedOut
      finishedAt := some now
      terminationCause := some (.engine .approvalExpired)
      leaseTokenHash := none
      leaseExpiresAt := none }
  else
    run

/-- A pending approval request that has expired. -/
def expireApprovalOn
    (request : WorkflowApprovalRequest)
    (now : Nat)
    (terminateRun : Bool)
    (run : WorkflowRun) :
    RunChange Unit :=
  let expired :=
    run.changeApproval request.id fun request =>
      { request with status := .expired, resolvedAt := some now }
  let ended :=
    { expired.approvalTimedOut now with
      steps := run.steps.map (approvalExpiredStep request.approvalStepId now) }
  { run := if terminateRun then ended else expired
    events := [buildApprovalLifecycleInput hasher run request.id .expired now]
    answer := () }

/-- `WorkflowApprovalRepository.expire`. -/
def expireApproval
    (requestId : JsString)
    (now : Nat)
    (terminateRun : Bool)
    (db : Database Trail) :
    Except StoreFailure (Database Trail × Unit) :=
  match db.approval? requestId with
  | none => .ok (db, ())
  | some (run, request) =>
      if request.isPending ∧ request.expiresAt ≤ now then
        commitChange append
          (expireApprovalOn hasher request now terminateRun run) db
      else
        .ok (db, ())

structure DecideApproval where
  userId : JsString
  approvalRequestId : JsString
  decision : ApprovalAnswer
  clientDecisionId : JsString
  now : Nat

def DecideApproval.decided
    (input : DecideApproval)
    (request : WorkflowApprovalRequest) :
    WorkflowApprovalRequest :=
  { request with
    status := input.decision.status
    resolvedAt := some input.now
    decidedByUserId := some input.userId
    clientDecisionId := some input.clientDecisionId }

def decideApprovalOn
    (input : DecideApproval)
    (role : OrganizationRole)
    (request : WorkflowApprovalRequest)
    (run : WorkflowRun) :
    Except StoreFailure (RunChange ApprovalRecord) := do
  refuseIf (role ≠ .owner ∧ role ≠ .admin) .approvalForbidden
  if request.clientDecisionId = some input.clientDecisionId ∧
      request.status = input.decision.status then
    let record ← toApprovalRecord run request
    return unchanged run { request := record, idempotent := true }
  else
    refuseIf (request.status = .expired) .approvalExpired
    refuseIf (request.status ≠ .pending) .approvalConflict
    refuseIf (request.expiresAt ≤ input.now) .approvalExpired
    let record ← toApprovalRecord run (input.decided request)
    .ok
      { run := run.changeApproval request.id input.decided
        events :=
          [buildApprovalDecidedInput hasher run input.userId request.id
            input.decision input.now]
        answer := { request := record, idempotent := false } }

/-- The second transaction of `WorkflowApprovalRepository.decide`. -/
def decideLockedApproval
    (input : DecideApproval)
    (db : Database Trail) :
    Except StoreFailure (Database Trail × ApprovalRecord) := do
  let (run, request) ←
    orThrow .approvalNotFound (db.approval? input.approvalRequestId)
  refuseIf
    (db.runs.any fun other =>
      other.approvalRequests.any fun other =>
        other.clientDecisionId = some input.clientDecisionId ∧
          other.id ≠ input.approvalRequestId)
    .approvalConflict
  let role ← orThrow .approvalNotFound (db.roleOf input.userId run.workspaceId)
  let change ← decideApprovalOn hasher input role request run
  commitChange append change db

end Approvals

structure CreateRepair where
  workflowRunId : JsString
  lease : LeaseClaim
  clientRequestId : JsString
  stepId : NonEmptyString
  attemptNumber : Nat
  safeErrorCode : ExecutionErrorCode
  effectCertainty : ExecutionEffectCertainty
  expiresAt : Nat
  /-- `createCanonicalJsonDigest` of the request. -/
  requestDigest : JsString
  now : Nat
  newRequestId : JsString

structure RepairRecord where
  request : WorkflowRepairRequest
  idempotent : Bool

/-- A request is shown with the step it is about. -/
def toRepairRecord
    (run : WorkflowRun)
    (request : WorkflowRepairRequest) :
    Except StoreFailure WorkflowRepairRequest :=
  if run.workflow.steps[request.stepIndex]?.map WorkflowStep.id =
      some request.stepId then
    .ok request
  else
    .error .repairInvalid

/-- What the policy of retries says about the last attempt at a step. -/
def repairDecision
    (input : CreateRepair)
    (run : WorkflowRun)
    (step : WorkflowStep)
    (stored : WorkflowRunStep) :
    RetryPolicyDecision :=
  decideRetry
    { stepType := step.type
      errorCode := input.safeErrorCode
      effectCertainty := input.effectCertainty
      recoveryMode := run.recoveryMode
      automaticRetryCount :=
        stored.attempts.countP fun attempt => attempt.trigger == .automaticRetry
      manualRetryCount :=
        stored.attempts.countP fun attempt => attempt.trigger == .manualRetry
      totalAttemptCount := stored.attempts.length
      approvalGated := isApprovalGatedStep run.workflow step.id }

def CreateRepair.row
    (input : CreateRepair)
    (stepIndex : Nat)
    (retryAllowed : Bool) :
    WorkflowRepairRequest :=
  { id := input.newRequestId
    runnerDeviceId := input.lease.runnerDeviceId
    stepId := input.stepId
    stepIndex
    attemptNumber := input.attemptNumber
    clientRequestId := input.clientRequestId
    requestDigest := input.requestDigest
    safeErrorCode := input.safeErrorCode
    effectCertainty := input.effectCertainty
    retryAllowed
    status := .pending
    requestedAt := input.now
    expiresAt := input.expiresAt
    resolvedAt := none
    decidedByUserId := none
    clientDecisionId := none }

section Repairs

variable (hasher : AuditHasher)

def createRepairOn
    (input : CreateRepair)
    (run : WorkflowRun) :
    Except StoreFailure (RunChange RepairRecord) := do
  requireRequestLease input.lease input.now run
  refuseIf (run.status ≠ .running ∧ run.status ≠ .waitingForRepair)
    .repairConflict
  let stepIndex ←
    orThrow .repairInvalid
      (run.workflow.steps.findIdx? fun step => step.id = input.stepId)
  let step ← orThrow .repairInvalid run.workflow.steps[stepIndex]?
  let stored ← orThrow .repairInvalid (run.step? input.stepId)
  let attempt ← orThrow .repairInvalid stored.attempts.getLast?
  refuseIf
    (attempt.attemptNumber ≠ input.attemptNumber ∨
      attempt.safeErrorCode ≠ some (.engine input.safeErrorCode) ∨
      attempt.effectCertainty ≠ input.effectCertainty ∨
      attempt.finishedAt = none)
    .repairInvalid
  let decision := repairDecision input run step stored
  refuseIf
    (decision.disposition ≠ .manualRepair ∧
      decision.disposition ≠ .locatorProposal)
    .repairInvalid
  refuseIf
    (input.expiresAt ≤ input.now ∨
      input.now + maxRepairTimeoutMs < input.expiresAt)
    .repairInvalid
  let existing :=
    run.repairRequests.find? fun request =>
      request.clientRequestId = input.clientRequestId ∨
        request.stepId = step.id ∧ request.attemptNumber = input.attemptNumber
  match existing with
  | some existing =>
      refuseIf
        (existing.clientRequestId ≠ input.clientRequestId ∨
          existing.requestDigest ≠ input.requestDigest)
        .repairConflict
      let request ← toRepairRecord run existing
      return unchanged run { request, idempotent := true }
  | none =>
      let created := input.row stepIndex decision.retryAllowed
      let request ← toRepairRecord run created
      .ok
        { run :=
            { run with
              repairRequests := run.repairRequests ++ [created]
              status := .waitingForRepair
              steps :=
                setStepStatus input.stepId .waitingForRepair run.steps }
          events :=
            [buildRepairRequestedInput hasher run input.lease.runnerDeviceId
              created]
          answer := { request, idempotent := false } }

variable (append : Trail → JsValue → Option Trail)

/-- `WorkflowRepairRepository.createForRunner`. -/
def createRepair
    (input : CreateRepair)
    (db : Database Trail) :
    Except StoreFailure (Database Trail × RepairRecord) := do
  refuseIf
    (db.runs.any fun run =>
      run.repairRequests.any fun request => request.id = input.newRequestId)
    .uniqueConstraint
  changeRun append input.workflowRunId .runNotFound
    (createRepairOn hasher input) db

/-- The run of a repair request, with the request. -/
def Database.repair?
    (db : Database Trail)
    (requestId : JsString) :
    Option (WorkflowRun × WorkflowRepairRequest) :=
  db.runs.findSome? fun run =>
    (findUnique WorkflowRepairRequest.id requestId run.repairRequests).map
      fun request => (run, request)

/-- A run with one repair request changed. -/
def WorkflowRun.changeRepair
    (run : WorkflowRun)
    (requestId : JsString)
    (change : WorkflowRepairRequest → WorkflowRepairRequest) :
    WorkflowRun :=
  { run with
    repairRequests :=
      updateMany (fun request => request.id = requestId) change
        run.repairRequests }

/-- The steps of a run whose wait for a repair has expired. -/
def repairExpiredStep
    (stepId : NonEmptyString)
    (now : Nat)
    (step : WorkflowRunStep) :
    WorkflowRunStep :=
  skipPendingStep (.engine .repairExpired) now
    (if step.sourceStepId = stepId ∧ step.status = .waitingForRepair then
      { step with
        status := .timedOut
        errorCode := some (.engine .recoveryExpired)
        finishedAt := some now }
    else
      step)

/-- A run is timed out when it waits for a repair. -/
def WorkflowRun.repairTimedOut (run : WorkflowRun) (now : Nat) : WorkflowRun :=
  if run.status = .waitingForRepair then
    { run with
      status := .timedOut
      finishedAt := some now
      terminationCause := some (.engine .repairExpired)
      leaseTokenHash := none
      leaseExpiresAt := none }
  else
    run

/-- A pending repair request that has expired. -/
def expireRepairOn
    (request : WorkflowRepairRequest)
    (now : Nat)
    (terminateRun : Bool)
    (run : WorkflowRun) :
    RunChange Unit :=
  let expired :=
    run.changeRepair request.id fun request =>
      { request with status := .expired, resolvedAt := some now }
  let ended :=
    { expired.repairTimedOut now with
      steps := run.steps.map (repairExpiredStep request.stepId now) }
  { run := if terminateRun then ended else expired
    events := [buildRepairLifecycleInput hasher run request.id .expired now]
    answer := () }

/-- `WorkflowRepairRepository.expire`. -/
def expireRepair
    (requestId : JsString)
    (now : Nat)
    (terminateRun : Bool)
    (db : Database Trail) :
    Except StoreFailure (Database Trail × Unit) :=
  match db.repair? requestId with
  | none => .ok (db, ())
  | some (run, request) =>
      if request.isPending ∧ request.expiresAt ≤ now then
        commitChange append
          (expireRepairOn hasher request now terminateRun run) db
      else
        .ok (db, ())

structure DecideRepair where
  userId : JsString
  repairRequestId : JsString
  decision : RepairAnswer
  clientDecisionId : JsString
  now : Nat

def DecideRepair.decided
    (input : DecideRepair)
    (request : WorkflowRepairRequest) :
    WorkflowRepairRequest :=
  { request with
    status := input.decision.status
    resolvedAt := some input.now
    decidedByUserId := some input.userId
    clientDecisionId := some input.clientDecisionId }

/-- `DECIDERS` and `ABORTERS`. -/
def RepairAnswer.allows (decision : RepairAnswer) : OrganizationRole → Bool
  | .owner => true
  | .admin => true
  | .member => decision == .aborted
  | .viewer => false

def decideRepairOn
    (input : DecideRepair)
    (role : OrganizationRole)
    (request : WorkflowRepairRequest)
    (run : WorkflowRun) :
    Except StoreFailure (RunChange RepairRecord) := do
  refuseIf (!input.decision.allows role) .repairForbidden
  if request.clientDecisionId = some input.clientDecisionId ∧
      request.status = input.decision.status then
    let record ← toRepairRecord run request
    return unchanged run { request := record, idempotent := true }
  else
    refuseIf
      (request.status ≠ .pending ∨ request.expiresAt ≤ input.now ∨
        input.decision = .retryApproved ∧ !request.retryAllowed)
      .repairConflict
    refuseIf (request.clientDecisionId ≠ none) .repairConflict
    let record ← toRepairRecord run (input.decided request)
    .ok
      { run := run.changeRepair request.id input.decided
        events :=
          [buildRepairDecidedInput hasher run input.userId request.id
            input.decision input.now]
        answer := { request := record, idempotent := false } }

/-- The second transaction of `WorkflowRepairRepository.decide`. -/
def decideLockedRepair
    (input : DecideRepair)
    (db : Database Trail) :
    Except StoreFailure (Database Trail × RepairRecord) := do
  refuseIf
    (db.runs.any fun other =>
      other.repairRequests.any fun other =>
        other.clientDecisionId = some input.clientDecisionId ∧
          other.id ≠ input.repairRequestId)
    .repairConflict
  let (run, request) ←
    orThrow .repairNotFound (db.repair? input.repairRequestId)
  let role ← orThrow .repairNotFound (db.roleOf input.userId run.workspaceId)
  let change ← decideRepairOn hasher input role request run
  commitChange append change db

end Repairs

structure RevokeRunner where
  actorUserId : JsString
  runnerDeviceId : JsString
  now : Nat

/-- `MANAGER_ROLES.includes(role)`. -/
def OrganizationRole.isManager : OrganizationRole → Bool
  | .owner => true
  | .admin => true
  | _ => false

/-- What the revocation of a runner does to a run. -/
def WorkflowRun.revoked
    (run : WorkflowRun)
    (runnerDeviceId : JsString)
    (now : Nat) :
    WorkflowRun :=
  let requests :=
    { run with
      approvalRequests :=
        updateMany
          (fun request =>
            request.runnerDeviceId = runnerDeviceId && request.isPending)
          (fun request =>
            { request with status := .invalidated, resolvedAt := some now })
          run.approvalRequests
      repairRequests :=
        updateMany
          (fun request =>
            request.runnerDeviceId = runnerDeviceId && request.isPending)
          (fun request =>
            { request with status := .invalidated, resolvedAt := some now })
          run.repairRequests }
  if run.runnerDeviceId = runnerDeviceId then
    let attempts :=
      { requests with
        steps := run.steps.map (interruptAttempts .runnerRevoked now) }
    if run.status.isActive then
      { attempts with
        steps := attempts.steps.map (interruptStep .runnerRevoked now)
        status := .interrupted
        terminationCause := some .runnerRevoked
        finishedAt := some now
        leaseTokenHash := none
        leaseExpiresAt := none }
    else
      attempts
  else
    requests

/-- `revokeRunnerDevice`; it appends no event. -/
def revokeRunnerDevice
    (input : RevokeRunner)
    (db : Database Trail) :
    Except StoreFailure (Database Trail × Unit) := do
  let device ←
    orThrow .runnerDeviceNotFound
      (findUnique RunnerDevice.id input.runnerDeviceId db.runners)
  let role ←
    orThrow .runnerDeviceNotFound
      (db.roleOf input.actorUserId device.workspaceId)
  refuseIf (!role.isManager) .runForbidden
  .ok
    ({ db with
        runners :=
          updateMany (fun runner => runner.id = input.runnerDeviceId)
            (fun runner =>
              { runner with revoked := true, credentialRevoked := true })
            db.runners
        runs :=
          db.runs.map fun run => run.revoked input.runnerDeviceId input.now },
      ())

end TaskTwin.RunStore

namespace TaskTwin.RunStore

open Text Audit Store

variable {Trail : Type}

inductive Transaction where
  | createRun (input : CreateRun)
  | claim (input : ClaimRun)
  | expireRunIfRequired (runId : JsString) (now : Nat)
  | renewLease (input : RenewLease)
  | ingestProgress (input : IngestProgress)
  | complete (input : Complete)
  | cancel (input : CancelRun)
  | createApproval (input : CreateApproval)
  | expireApproval (requestId : JsString) (now : Nat) (terminateRun : Bool)
  | decideApproval (input : DecideApproval)
  | createRepair (input : CreateRepair)
  | expireRepair (requestId : JsString) (now : Nat) (terminateRun : Bool)
  | decideRepair (input : DecideRepair)
  | revokeRunnerDevice (input : RevokeRunner)

variable
  (hasher : AuditHasher)
  (append : Trail → JsValue → Option Trail)

/-- The database that a transaction commits. -/
def Transaction.commit
    (transaction : Transaction)
    (db : Database Trail) :
    Except StoreFailure (Database Trail) :=
  match transaction with
  | .createRun input => (RunStore.createRun hasher append input db).map (·.1)
  | .claim input => (RunStore.claim hasher append input db).map (·.1)
  | .expireRunIfRequired runId now =>
      (RunStore.expireRunIfRequired hasher append runId now db).map (·.1)
  | .renewLease input => (renewLockedLease append input db).map (·.1)
  | .ingestProgress input =>
      (ingestLockedProgress hasher append input db).map (·.1)
  | .complete input => (completeLocked hasher append input db).map (·.1)
  | .cancel input => (RunStore.cancel hasher append input db).map (·.1)
  | .createApproval input =>
      (RunStore.createApproval hasher append input db).map (·.1)
  | .expireApproval requestId now terminateRun =>
      (RunStore.expireApproval hasher append requestId now terminateRun db).map
        (·.1)
  | .decideApproval input =>
      (decideLockedApproval hasher append input db).map (·.1)
  | .createRepair input =>
      (RunStore.createRepair hasher append input db).map (·.1)
  | .expireRepair requestId now terminateRun =>
      (RunStore.expireRepair hasher append requestId now terminateRun db).map
        (·.1)
  | .decideRepair input => (decideLockedRepair hasher append input db).map (·.1)
  | .revokeRunnerDevice input =>
      (RunStore.revokeRunnerDevice input db).map (·.1)

/-- The database after a transaction was tried. -/
def perform
    (db : Database Trail)
    (transaction : Transaction) :
    Database Trail :=
  match transaction.commit hasher append db with
  | .ok db' => db'
  | .error _ => db

/-- The database after a sequence of transactions. -/
def performAll
    (db : Database Trail)
    (transactions : List Transaction) :
    Database Trail :=
  transactions.foldl (perform hasher append) db

end TaskTwin.RunStore
