import TaskTwin.Audit.Replay
import TaskTwin.SecureInputs.Rows

/-!
# Preparing and committing run inputs

Committing checks the envelope against the preparation, and the preparation
against the rows as they are by then.  A replay of either call answers as
before.
-/

namespace TaskTwin.SecureInputs

open Text Schema Store Workflow Recovery Engine
open TaskTwin.Policy
  (WorkspaceExecutionPolicyDefinition WorkflowPolicyEvaluation
    evaluateWorkflowPolicy)
open TaskTwin.Lifecycle (editorRoles)

structure PrepareInput where
  actorUserId : JsString
  workflowVersionId : JsString
  runnerDeviceId : JsString
  clientPreparationId : JsString
  clientRunId : JsString
  options : Option SecureExecutionOptionsInput
  now : Nat
  /-- What `randomUUID` returns. -/
  newPreparationId : JsString
  newWorkflowRunId : JsString

def recoveryModeText : RecoveryMode → String
  | .automaticSafeOnly => "automatic_safe_only"
  | .automaticSafeAndManual => "automatic_safe_and_manual"
  | .automaticSafeAndLocatorProposals =>
      "automatic_safe_and_locator_proposals"

def SecureExecutionOptionsInput.json (options : SecureExecutionOptionsInput) :
    Json :=
  .object
    ([(js "totalTimeoutMs", .integer options.totalTimeoutMs),
        (js "stepTimeoutMs", .integer options.stepTimeoutMs)] ++
      options.recoveryMode.toList.map fun mode =>
        (js "recoveryMode", .string (js (recoveryModeText mode))))

def PrepareInput.requestJson (input : PrepareInput) : Json :=
  .object
    [(js "workflowVersionId", .string input.workflowVersionId),
      (js "runnerDeviceId", .string input.runnerDeviceId),
      (js "clientRunId", .string input.clientRunId),
      (js "options",
        (input.options.map SecureExecutionOptionsInput.json).getD .null)]

/-- The options of a request without options. -/
def defaultExecutionOptions : SecureExecutionOptionsInput :=
  { totalTimeoutMs := 120000
    stepTimeoutMs := 30000
    recoveryMode := some .automaticSafeOnly }

/-- `RunInputPreparationMetadata`. -/
structure RunInputPreparationMetadata where
  preparationId : JsString
  clientPreparationId : JsString
  clientRunId : JsString
  workflowRunId : JsString
  workspaceId : JsString
  workflowVersionId : JsString
  runnerDeviceId : JsString
  expiresAt : JsString
  manifest : SecureRunInputManifest
  key : RunnerPublicKeyMetadata
  aad : RunInputAdditionalAuthenticatedData
  deriving DecidableEq

structure RunInputPreparationResult where
  preparation : RunInputPreparationMetadata
  idempotent : Bool
  deriving DecidableEq

structure CommitInput where
  actorUserId : JsString
  preparationId : JsString
  envelope : SecureRunInputEnvelope
  now : Nat

structure RunInputCommitResult where
  workflowRunId : JsString
  idempotent : Bool
  deriving DecidableEq

/-- Whether the user is a member of the workspace, and then `requireWriter`. -/
def requireWriter
    (db : Database)
    (userId workspaceId : JsString) :
    Except SecureRunInputFailure Unit := do
  let role ← orThrow .notFound (db.role userId workspaceId)
  refuseIf (role ∉ editorRoles) .forbidden

/-- `date.toISOString()`. -/
def isoText (time : Nat) : Option JsString :=
  (timeClip time).map TimeValue.toISOString

/-- `preparationResult`; what is read again passes its schemas. -/
def preparationResult
    (deps : Dependencies)
    (db : Database)
    (row : WorkflowRunInputPreparation)
    (idempotent : Bool) :
    Except SecureRunInputFailure RunInputPreparationResult := do
  let key ← orThrow .thrown (db.findKey row.runnerEncryptionKeyId)
  let expiresAt ← orThrow .thrown (isoText row.expiresAt)
  refuseIf (!row.manifest.parses) .thrown
  refuseIf (!key.metadata.parses) .thrown
  let aad ← orThrow .thrown (row.aad.parse deps.parser)
  .ok
    { preparation :=
        { preparationId := row.id
          clientPreparationId := row.clientPreparationId
          clientRunId := row.clientRunId
          workflowRunId := row.reservedRunId
          workspaceId := row.workspaceId
          workflowVersionId := row.workflowVersionId
          runnerDeviceId := row.runnerDeviceId
          expiresAt
          manifest := row.manifest
          key := key.metadata
          aad }
      idempotent }

/-- The codes of the issues that the delivery of inputs settles. -/
def isLiftedIssue (issue : RunReadinessIssue) : Bool :=
  issue.code == .runtimeInputRequired ||
    issue.code == .secretResolutionUnavailable

/-- The capabilities that a runner lacks for a preparation, one by one. -/
def lacksPreparedCapability
    (runner : RunnerDevice)
    (workflow : WorkflowDefinition)
    (manifest : SecureRunInputManifest) :
    Bool :=
  !runner.capabilities.contains secureInputCapability ||
    (hasStepOfType workflow .verify &&
      !runner.capabilities.contains workflowVerificationCapability) ||
    (hasStepOfType workflow .extract &&
      !runner.capabilities.contains workflowExtractionCapability) ||
    (hasStepOfType workflow .approval &&
      !runner.capabilities.contains workflowApprovalCapability) ||
    (0 < manifest.secrets.length &&
      !runner.capabilities.contains secretPromptCapability)

def lacksRecoveryCapability
    (runner : RunnerDevice)
    (recoveryMode : RecoveryMode) :
    Bool :=
  (recoveryMode == .automaticSafeAndManual &&
      !runner.capabilities.contains workflowManualRepairCapability) ||
    (recoveryMode == .automaticSafeAndLocatorProposals &&
      !runner.capabilities.contains locatorRepairProposalsCapability)

/-- What the checks of `prepare` let pass, and the row that is inserted. -/
def preparedRow
    (deps : Dependencies)
    (input : PrepareInput)
    (version : WorkflowVersion)
    (requestDigest : JsString)
    (db : Database) :
    Except SecureRunInputFailure WorkflowRunInputPreparation := do
  let workflow ←
    orThrow (.runNotReady none) (runnableDefinition deps version)
  let readiness ←
    orThrow .thrown (analyzeWorkflowRunReadiness deps.parser (some workflow))
  let blockingIssues :=
    readiness.issues.filter fun issue => !isLiftedIssue issue
  refuseIf (blockingIssues ≠ [])
    (.runNotReady
      (some (.readiness { readiness with issues := blockingIssues })))
  let activePolicy ←
    orThrow (.runNotReady none) (db.activePolicy version.workspaceId)
  let policy ←
    orThrow (.runNotReady none) (activePolicy.definition.parse deps.platform)
  let policyEvaluation ←
    orThrow .thrown
      (evaluateWorkflowPolicy deps.platform
        { policy
          workflow
          policyDigest := activePolicy.digest
          workflowDigest := deps.definitionDigest workflow })
  refuseIf (refusesWorkflow policyEvaluation)
    (.runNotReady (some (.policy policyEvaluation)))
  let manifest ←
    (deriveSecureRunInputManifest workflow).mapError
      SecureRunInputFailure.manifest
  let runner ←
    orThrow .runnerUnavailable
      ((db.findRunner input.runnerDeviceId).filter fun runner =>
        runner.workspaceId = version.workspaceId)
  refuseIf (runner.revokedAt ≠ none) .runnerUnavailable
  refuseIf (lacksPreparedCapability runner workflow manifest)
    .capabilityUnavailable
  let key ← orThrow .capabilityUnavailable (db.activeKey runner.id)
  let options ←
    orThrow .thrown (input.options.getD defaultExecutionOptions).parse
  refuseIf (lacksRecoveryCapability runner options.recoveryMode)
    .capabilityUnavailable
  let expiresAt := input.now + defaultPreparationTtlSeconds * 1000
  let expiresText ← orThrow .thrown (isoText expiresAt)
  let aad ←
    orThrow .thrown
      (RunInputAdditionalAuthenticatedData.parse deps.parser
        { profile := key.profile
          preparationId := input.newPreparationId
          workflowRunId := input.newWorkflowRunId
          workspaceId := version.workspaceId
          workflowId := version.workflowId
          workflowVersionId := version.id
          workflowVersion := version.version
          definitionDigest := deps.definitionDigest workflow
          runnerDeviceId := runner.id
          keyId := key.keyId
          keyFingerprint := key.fingerprint
          clientRunId := input.clientRunId
          allowedOrigins := readiness.allowedOrigins
          executionOptions := options
          expiresAt := expiresText })
  .ok
    { id := input.newPreparationId
      workspaceId := version.workspaceId
      workflowVersionId := version.id
      runnerDeviceId := runner.id
      runnerEncryptionKeyId := key.id
      createdByUserId := input.actorUserId
      clientPreparationId := input.clientPreparationId
      clientRunId := input.clientRunId
      reservedRunId := input.newWorkflowRunId
      status := .pending
      manifest
      allowedOrigins := readiness.allowedOrigins
      executionOptions := options
      definitionDigest := aad.definitionDigest
      aad
      requestDigest
      expiresAt
      consumedAt := none }

def prepare
    (deps : Dependencies)
    (input : PrepareInput)
    (db : Database) :
    Except SecureRunInputFailure (Database × RunInputPreparationResult) := do
  let version ← orThrow .notFound (db.findVersion input.workflowVersionId)
  requireWriter db input.actorUserId version.workspaceId
  let requestDigest := deps.createCanonicalJsonDigest input.requestJson
  let existing :=
    db.preparations.find? fun preparation =>
      preparation.workspaceId = version.workspaceId ∧
        preparation.clientPreparationId = input.clientPreparationId
  match existing with
  | some existing =>
      refuseIf (existing.requestDigest ≠ requestDigest) .preparationConflict
      let result ← preparationResult deps db existing true
      .ok (db, result)
  | none =>
      refuseIf
        (db.preparations.any fun preparation =>
          preparation.workspaceId = version.workspaceId ∧
            preparation.clientRunId = input.clientRunId)
        .preparationConflict
      let created ← preparedRow deps input version requestDigest db
      let preparations ←
        orThrow .uniqueConstraint
          (insertUnique WorkflowRunInputPreparation.conflicts created
            db.preparations)
      let result ← preparationResult deps db created false
      .ok ({ db with preparations }, result)

/-- The comparison of a replay with the envelope that was accepted. -/
def isSameEnvelope
    (accepted : Option WorkflowRunInputEnvelope)
    (envelope : SecureRunInputEnvelope) :
    Bool :=
  accepted.any fun row =>
    row.envelope.ciphertextDigest == envelope.ciphertextDigest &&
      row.envelope.aad == envelope.aad

/-- The checks of an envelope against a preparation that is pending. -/
def checkEnvelope
    (deps : Dependencies)
    (preparation : WorkflowRunInputPreparation)
    (envelope : SecureRunInputEnvelope)
    (now : Nat) :
    Except SecureRunInputFailure Unit := do
  refuseIf (preparation.expiresAt ≤ now) .preparationExpired
  let aad ← orThrow .thrown (preparation.aad.parse deps.parser)
  refuseIf
    (!assertEnvelopeBinding deps.parser deps.parseOther envelope aad now)
    .envelopeInvalid
  refuseIf
    (envelope.aad ≠ base64UrlText (encodeRunInputAad aad) ∨
      sha256Base64Url deps.sha256Octets envelope.ciphertext ≠
        envelope.ciphertextDigest)
    .envelopeInvalid

/-- The run of a preparation, from the rows that are read again. -/
def committedRun
    (deps : Dependencies)
    (actorUserId : JsString)
    (preparation : WorkflowRunInputPreparation)
    (db : Database) :
    Except SecureRunInputFailure WorkflowRun := do
  let version ←
    orThrow .thrown (db.findVersion preparation.workflowVersionId)
  let runner ← orThrow .thrown (db.findRunner preparation.runnerDeviceId)
  let key ← orThrow .thrown (db.findKey preparation.runnerEncryptionKeyId)
  refuseIf
    (runner.revokedAt ≠ none ∨ key.status ≠ .active ∨
      version.status ≠ .published ∨
      preparation.definitionDigest ≠
        deps.createCanonicalJsonDigest version.definition)
    .preparationConflict
  let workflow ← orThrow .thrown (deps.schema.safeParse version.definition)
  let activePolicy ←
    orThrow .preparationConflict (db.activePolicy preparation.workspaceId)
  let policy ←
    orThrow .preparationConflict
      (activePolicy.definition.parse deps.platform)
  let policyEvaluation ←
    orThrow .thrown
      (evaluateWorkflowPolicy deps.platform
        { policy
          workflow
          policyDigest := activePolicy.digest
          workflowDigest := preparation.definitionDigest })
  refuseIf (refusesWorkflow policyEvaluation) .preparationConflict
  .ok
    { id := preparation.reservedRunId
      workspaceId := preparation.workspaceId
      workflowId := version.workflowId
      workflowVersionId := preparation.workflowVersionId
      runnerDeviceId := preparation.runnerDeviceId
      createdByUserId := actorUserId
      clientRunId := preparation.clientRunId
      runProtocolVersion
      workflowEngineVersion := 1
      definitionDigest := preparation.definitionDigest
      policyVersionId := activePolicy.id
      policyDigest := activePolicy.digest
      policyEvaluation
      allowedOrigins := preparation.allowedOrigins
      executionOptions := preparation.executionOptions
      steps := createdSteps workflow
      outputs := createdOutputs workflow }

/-- `status: CONSUMED`. -/
def WorkflowRunInputPreparation.consume
    (now : Nat)
    (preparation : WorkflowRunInputPreparation) :
    WorkflowRunInputPreparation :=
  { preparation with
    status := .consumed
    consumedAt := some now }

def commit
    (deps : Dependencies)
    (input : CommitInput)
    (db : Database) :
    Except SecureRunInputFailure (Database × RunInputCommitResult) := do
  let preparation ← orThrow .notFound (db.findPreparation input.preparationId)
  requireWriter db input.actorUserId preparation.workspaceId
  refuseIf (!input.envelope.parses) .thrown
  match preparation.status with
  | .consumed =>
      refuseIf
        (!isSameEnvelope (db.findEnvelope preparation.id) input.envelope)
        .preparationConflict
      .ok
        (db,
          { workflowRunId := preparation.reservedRunId, idempotent := true })
  | .pending =>
      checkEnvelope deps preparation input.envelope input.now
      let run ← committedRun deps input.actorUserId preparation db
      let runs ←
        orThrow .uniqueConstraint (insertUnique WorkflowRun.conflicts run db.runs)
      let envelopes ←
        orThrow .uniqueConstraint
          (insertUnique WorkflowRunInputEnvelope.conflicts
            { workflowRunId := preparation.reservedRunId
              preparationId := preparation.id
              runnerEncryptionKeyId := preparation.runnerEncryptionKeyId
              envelope := input.envelope }
            db.envelopes)
      let preparations :=
        updateMany (fun row => row.id == preparation.id)
          (WorkflowRunInputPreparation.consume input.now) db.preparations
      .ok
        ({ db with runs, envelopes, preparations },
          { workflowRunId := preparation.reservedRunId, idempotent := false })

end TaskTwin.SecureInputs

namespace TaskTwin.SecureInputs

open Text Schema Store Audit Workflow Recovery Engine
open TaskTwin.Policy
  (WorkspaceExecutionPolicyDefinition WorkflowPolicyEvaluation
    evaluateWorkflowPolicy)
open TaskTwin.Lifecycle (editorRoles)

structure CreateRunInput where
  actorUserId : JsString
  workflowVersionId : JsString
  runnerDeviceId : JsString
  clientRunId : JsString
  options : SecureExecutionOptions
  /-- What `new Date()` and `randomUUID` return. -/
  occurredAt : Nat
  newRunId : JsString

/-- The columns that `createRun` gives a run. -/
def createdRun
    (deps : Dependencies)
    (input : CreateRunInput)
    (version : WorkflowVersion)
    (workflow : WorkflowDefinition)
    (readiness : WorkflowRunReadinessReport)
    (activePolicy : WorkspaceExecutionPolicyVersion)
    (policyEvaluation : WorkflowPolicyEvaluation) :
    WorkflowRun :=
  { id := input.newRunId
    workspaceId := version.workspaceId
    workflowId := version.workflowId
    workflowVersionId := version.id
    runnerDeviceId := input.runnerDeviceId
    createdByUserId := input.actorUserId
    clientRunId := input.clientRunId
    runProtocolVersion
    workflowEngineVersion := 1
    definitionDigest := deps.definitionDigest workflow
    policyVersionId := activePolicy.id
    policyDigest := activePolicy.digest
    policyEvaluation
    allowedOrigins := readiness.allowedOrigins
    executionOptions := input.options
    steps := createdSteps workflow
    outputs := createdOutputs workflow }

/-- The runner has what the steps and the recovery of a run ask of it. -/
structure HasCapabilities
    (runner : RunnerDevice)
    (workflow : WorkflowDefinition)
    (recoveryMode : RecoveryMode) :
    Prop where
  canVerify :
    hasStepOfType workflow .verify = true →
      workflowVerificationCapability ∈ runner.capabilities
  canExtract :
    hasStepOfType workflow .extract = true →
      workflowExtractionCapability ∈ runner.capabilities
  canApprove :
    hasStepOfType workflow .approval = true →
      workflowApprovalCapability ∈ runner.capabilities
  canRepair :
    recoveryMode = .automaticSafeAndManual →
      workflowManualRepairCapability ∈ runner.capabilities
  canPropose :
    recoveryMode = .automaticSafeAndLocatorProposals →
      locatorRepairProposalsCapability ∈ runner.capabilities

/--
The conditions under which `createRun` creates a run, where the issues of the
readiness report may be of a kind that is lifted; all but the capabilities.
-/
structure AdmitsRunner
    (deps : Dependencies)
    (lifted : RunReadinessIssue → Bool)
    (db : Database)
    (input : CreateRunInput)
    (version : WorkflowVersion)
    (runner : RunnerDevice)
    (workflow : WorkflowDefinition)
    (readiness : WorkflowRunReadinessReport)
    (activePolicy : WorkspaceExecutionPolicyVersion)
    (policyEvaluation : WorkflowPolicyEvaluation) :
    Prop where
  isVersion : db.findVersion input.workflowVersionId = some version
  mayWrite :
    ∃ role ∈ editorRoles,
      db.role input.actorUserId version.workspaceId = some role
  isNew : db.findClientRun version.workspaceId input.clientRunId = none
  isRunner : db.findRunner input.runnerDeviceId = some runner
  sameWorkspace : runner.workspaceId = version.workspaceId
  notRevoked : runner.revokedAt = none
  isRunnable : runnableDefinition deps version = some workflow
  isAnalyzed :
    analyzeWorkflowRunReadiness deps.parser (some workflow) = some readiness
  allLifted : ∀ issue ∈ readiness.issues, lifted issue = true
  isActive : db.activePolicy version.workspaceId = some activePolicy
  isEvaluated :
    ∃ policy,
      activePolicy.definition.parse deps.platform = some policy ∧
        evaluateWorkflowPolicy deps.platform
            { policy
              workflow
              policyDigest := activePolicy.digest
              workflowDigest := deps.definitionDigest workflow } =
          some policyEvaluation
  allows : refusesWorkflow policyEvaluation = false

/-- The conditions together. -/
structure Admits
    (deps : Dependencies)
    (lifted : RunReadinessIssue → Bool)
    (db : Database)
    (input : CreateRunInput)
    (version : WorkflowVersion)
    (runner : RunnerDevice)
    (workflow : WorkflowDefinition)
    (readiness : WorkflowRunReadinessReport)
    (activePolicy : WorkspaceExecutionPolicyVersion)
    (policyEvaluation : WorkflowPolicyEvaluation) :
    Prop extends
      AdmitsRunner deps lifted db input version runner workflow readiness
        activePolicy policyEvaluation where
  isCapable : HasCapabilities runner workflow input.options.recoveryMode

end TaskTwin.SecureInputs
