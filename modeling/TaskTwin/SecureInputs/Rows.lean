import TaskTwin.Engine.Readiness
import TaskTwin.Lifecycle.Rows
import TaskTwin.LocalSecrets.Vault
import TaskTwin.Locator.Contracts
import TaskTwin.Policy.Evaluation
import TaskTwin.Text.Base64

/-!
# Envelopes of run inputs

The inputs of a run reach a runner in an envelope that was sealed for the key
of the runner.  The envelope authenticates the preparation that it was sealed
for, and the manifest of a preparation says which inputs a workflow needs.
-/

namespace TaskTwin.SecureInputs

open Text Schema Workflow Recovery Engine
open TaskTwin.Locator (stringifyObject)
open TaskTwin.LocalSecrets (isTokenSymbol isBase64Url)

def secureInputEnvelopeProfile : JsString := js "secure_input_envelope_v1"

def contentEncryptionAlgorithm : JsString := js "AES-256-GCM"

def keyEncryptionAlgorithm : JsString := js "RSA-OAEP-256"

def aesGcmIvBytes : Nat := 12

def maxRunInputVariables : Nat := 100

def maxRunSecretRequirements : Nat := 100

def maxPlaintextInputBytes : Nat := 64 * 1024

def aesGcmTagBytes : Nat := 16

def maxCiphertextBytes : Nat := maxPlaintextInputBytes + aesGcmTagBytes

def maxPublicKeyBytes : Nat := 2 * 1024

def maxWrappedKeyBytes : Nat := 1024

/-- `DEFAULT_PREPARATION_TTL_SECONDS`. -/
def defaultPreparationTtlSeconds : Nat := 10 * 60

/-- `SECURE_INPUT_CAPABILITIES[0]`. -/
def secureInputCapability : JsString := js "secure_input_envelope_v1"

/-- `SECURE_INPUT_CAPABILITIES[1]`. -/
def secretPromptCapability : JsString := js "interactive_secret_prompt_v1"

/-- `Math.ceil((bytes * 4) / 3)`. -/
def maxBase64UrlCharacters (bytes : Nat) : Nat := (bytes * 4 + 2) / 3

structure SecureExecutionOptions where
  totalTimeoutMs : Nat
  stepTimeoutMs : Nat
  recoveryMode : RecoveryMode
  deriving DecidableEq

/-- Options that are not parsed yet. -/
structure SecureExecutionOptionsInput where
  totalTimeoutMs : Nat
  stepTimeoutMs : Nat
  recoveryMode : Option RecoveryMode
  deriving DecidableEq

def SecureExecutionOptions.inRange (options : SecureExecutionOptions) : Bool :=
  100 ≤ options.totalTimeoutMs && options.totalTimeoutMs ≤ 600000 &&
    100 ≤ options.stepTimeoutMs && options.stepTimeoutMs ≤ 60000

/-- `SecureExecutionOptionsSchema`. -/
def SecureExecutionOptionsInput.parse (input : SecureExecutionOptionsInput) :
    Option SecureExecutionOptions :=
  let options : SecureExecutionOptions :=
    { totalTimeoutMs := input.totalTimeoutMs
      stepTimeoutMs := input.stepTimeoutMs
      recoveryMode := input.recoveryMode.getD .automaticSafeOnly }
  if options.inRange then some options else none

/-- `RunnerEncryptionKeyIdSchema`. -/
def isRunnerEncryptionKeyId (text : JsString) : Bool :=
  (js "rk1_").isPrefixOf text && (text.drop 4).length == 43 &&
    (text.drop 4).all isTokenSymbol

structure RunnerPublicKeyMetadata where
  keyId : JsString
  profile : JsString
  algorithm : JsString
  publicKeySpki : JsString
  fingerprint : JsString
  deriving DecidableEq

/-- `RunnerPublicKeyMetadataSchema`. -/
def RunnerPublicKeyMetadata.parses (key : RunnerPublicKeyMetadata) : Bool :=
  isRunnerEncryptionKeyId key.keyId &&
    key.profile == secureInputEnvelopeProfile &&
    key.algorithm == keyEncryptionAlgorithm &&
    isBase64Url (maxBase64UrlCharacters maxPublicKeyBytes) key.publicKeySpki &&
    isSha256Hex key.fingerprint

structure SecureVariableDefinition where
  name : Identifier
  label : Option NonEmptyString
  valueType : WorkflowVariableValueType
  required : Bool
  requiredForRun : Bool
  usageCount : Nat
  description : Option NonEmptyString
  deriving DecidableEq

structure SecureSecretRequirement where
  secretName : Identifier
  usageCount : Nat
  deriving DecidableEq

structure SecureRunInputManifest where
  variableDefinitions : List SecureVariableDefinition
  secrets : List SecureSecretRequirement
  deriving DecidableEq

/-- `SecureVariableDefinitionSchema`. -/
def SecureVariableDefinition.parses (declared : SecureVariableDefinition) :
    Bool :=
  declared.label.all (fun label => isTrimmedWithin 120 label.text) &&
    declared.valueType != .file &&
    declared.description.all fun text => isTrimmedWithin 500 text.text

/-- `SecureRunInputManifestSchema`. -/
def SecureRunInputManifest.parses (manifest : SecureRunInputManifest) : Bool :=
  manifest.variableDefinitions.length ≤ maxRunInputVariables &&
    manifest.variableDefinitions.all SecureVariableDefinition.parses &&
    manifest.secrets.length ≤ maxRunSecretRequirements &&
    manifest.secrets.all fun secret => 0 < secret.usageCount

inductive ManifestFailure where
  | runtimeInputsInvalid
  | fileInputUnavailable
  /-- The schema of manifests rejects what was derived. -/
  | schema
  deriving DecidableEq, Repr

def isRequiredForRun (item : WorkflowVariableAnalysis) : Bool :=
  item.variableIs.required || 0 < item.usageCount

def deriveSecureRunInputManifest
    (workflow : WorkflowDefinition) :
    Except ManifestFailure SecureRunInputManifest :=
  let analysis := analyzeWorkflowInputs workflow
  if analysis.hasBlockingIssues then .error .runtimeInputsInvalid
  else if analysis.variableAnalyses.any isFileVariableNeeded then
    .error .fileInputUnavailable
  else
    let manifest : SecureRunInputManifest :=
      { variableDefinitions :=
          (analysis.variableAnalyses.filter fun item =>
              item.variableIs.valueType != .file &&
                isRequiredForRun item).map
            fun item =>
              { name := item.variableIs.name
                label := item.variableIs.label
                valueType := item.variableIs.valueType
                required := item.variableIs.required
                requiredForRun := isRequiredForRun item
                usageCount := item.usageCount
                description := item.variableIs.description }
        secrets :=
          analysis.secretRequirements.map fun requirement =>
            { secretName := requirement.secretName
              usageCount := requirement.usages.length } }
    if manifest.parses then .ok manifest else .error .schema

structure RunInputAdditionalAuthenticatedData where
  profile : JsString
  preparationId : JsString
  workflowRunId : JsString
  workspaceId : JsString
  workflowId : JsString
  workflowVersionId : JsString
  workflowVersion : Nat
  definitionDigest : JsString
  runnerDeviceId : JsString
  keyId : JsString
  keyFingerprint : JsString
  clientRunId : JsString
  allowedOrigins : List JsString
  executionOptions : SecureExecutionOptions
  expiresAt : JsString
  deriving DecidableEq

def RunInputAdditionalAuthenticatedData.isValid
    (parser : UrlParser)
    (aad : RunInputAdditionalAuthenticatedData) :
    Bool :=
  aad.profile == secureInputEnvelopeProfile &&
    isUuid aad.preparationId &&
    isUuid aad.workflowRunId &&
    isUuid aad.workspaceId &&
    hasLength 1 256 aad.workflowId &&
    isUuid aad.workflowVersionId &&
    0 < aad.workflowVersion &&
    isSha256Hex aad.definitionDigest &&
    isUuid aad.runnerDeviceId &&
    isRunnerEncryptionKeyId aad.keyId &&
    isSha256Hex aad.keyFingerprint &&
    isUuid aad.clientRunId &&
    1 ≤ aad.allowedOrigins.length &&
    aad.allowedOrigins.length ≤ 32 &&
    aad.allowedOrigins.all (fun origin =>
      (parser.parseUrl origin).isSome && origin.length ≤ 512) &&
    aad.executionOptions.inRange &&
    isDateTime aad.expiresAt

/-- `RunInputAdditionalAuthenticatedDataSchema`, which trims `workflowId`. -/
def RunInputAdditionalAuthenticatedData.parse
    (parser : UrlParser)
    (aad : RunInputAdditionalAuthenticatedData) :
    Option RunInputAdditionalAuthenticatedData :=
  let parsed := { aad with workflowId := trimText aad.workflowId }
  if parsed.isValid parser then some parsed else none

/-- What was parsed is parsed to itself. -/
theorem RunInputAdditionalAuthenticatedData.parse_parsed
    {parser : UrlParser}
    {aad parsed : RunInputAdditionalAuthenticatedData}
    (isParsed : aad.parse parser = some parsed) :
    parsed.parse parser = some parsed := by
  simp only [parse, Option.ite_none_right_eq_some, Option.some.injEq]
    at isParsed ⊢
  obtain ⟨valid, rfl⟩ := isParsed
  simpa only [trimText_trimText, and_true] using valid

/--
`canonicalRunInputAad`, of data that were parsed.  The recovery mode is not
written.
-/
def canonicalRunInputAad (value : RunInputAdditionalAuthenticatedData) :
    JsString :=
  stringifyObject
    [("schemaVersion", js "1"),
      ("profile", quote value.profile),
      ("preparationId", quote value.preparationId),
      ("workflowRunId", quote value.workflowRunId),
      ("workspaceId", quote value.workspaceId),
      ("workflowId", quote value.workflowId),
      ("workflowVersionId", quote value.workflowVersionId),
      ("workflowVersion", decimalText value.workflowVersion),
      ("definitionDigest", quote value.definitionDigest),
      ("runnerDeviceId", quote value.runnerDeviceId),
      ("keyId", quote value.keyId),
      ("keyFingerprint", quote value.keyFingerprint),
      ("clientRunId", quote value.clientRunId),
      ("allowedOrigins",
        js "[" ++
          List.intercalate (js ",") (value.allowedOrigins.map quote) ++
          js "]"),
      ("executionOptions",
        stringifyObject
          [("totalTimeoutMs",
              decimalText value.executionOptions.totalTimeoutMs),
            ("stepTimeoutMs",
              decimalText value.executionOptions.stepTimeoutMs)]),
      ("expiresAt", quote value.expiresAt)]

def encodeRunInputAad (value : RunInputAdditionalAuthenticatedData) :
    List Octet :=
  utf8Encode (canonicalRunInputAad value)

structure SecureRunInputEnvelope where
  profile : JsString
  contentEncryption : JsString
  keyEncryption : JsString
  preparationId : JsString
  workflowRunId : JsString
  keyId : JsString
  expiresAt : JsString
  aad : JsString
  iv : JsString
  wrappedKey : JsString
  ciphertext : JsString
  ciphertextDigest : JsString
  deriving DecidableEq

/-- `SecureRunInputEnvelopeSchema`. -/
def SecureRunInputEnvelope.parses (envelope : SecureRunInputEnvelope) : Bool :=
  envelope.profile == secureInputEnvelopeProfile &&
    envelope.contentEncryption == contentEncryptionAlgorithm &&
    envelope.keyEncryption == keyEncryptionAlgorithm &&
    isUuid envelope.preparationId &&
    isUuid envelope.workflowRunId &&
    isRunnerEncryptionKeyId envelope.keyId &&
    isDateTime envelope.expiresAt &&
    isBase64Url (16 * 1024) envelope.aad &&
    isBase64Url (maxBase64UrlCharacters aesGcmIvBytes) envelope.iv &&
    envelope.iv.length == maxBase64UrlCharacters aesGcmIvBytes &&
    isBase64Url (maxBase64UrlCharacters maxWrappedKeyBytes)
      envelope.wrappedKey &&
    isBase64Url (maxBase64UrlCharacters maxCiphertextBytes)
      envelope.ciphertext &&
    isSha256Hex envelope.ciphertextDigest

/-- `Date.parse(text) <= now`; what is no date is never expired. -/
def isExpiredText
    (parseOther : JsString → Option TimeValue)
    (text : JsString)
    (now : Nat) :
    Bool :=
  (dateParse parseOther text).any fun time => time.milliseconds ≤ (now : Int)

/-- `assertEnvelopeBinding`; whether it returns. -/
def assertEnvelopeBinding
    (parser : UrlParser)
    (parseOther : JsString → Option TimeValue)
    (envelope : SecureRunInputEnvelope)
    (aadInput : RunInputAdditionalAuthenticatedData)
    (now : Nat) :
    Bool :=
  match aadInput.parse parser with
  | none => false
  | some aad =>
      envelope.parses && !isExpiredText parseOther aad.expiresAt now &&
        envelope.preparationId == aad.preparationId &&
        envelope.workflowRunId == aad.workflowRunId &&
        envelope.keyId == aad.keyId &&
        envelope.expiresAt == aad.expiresAt

/-- `sha256Base64Url`. -/
def sha256Base64Url
    (sha256Octets : List Octet → JsString)
    (text : JsString) :
    JsString :=
  sha256Octets (base64UrlOctets text)

end TaskTwin.SecureInputs

/-! ## The rows of prepared runs -/

namespace TaskTwin.SecureInputs

open Text Schema Store Audit Workflow Recovery Engine
open TaskTwin.Policy
  (Platform WorkspaceExecutionPolicyDefinition WorkflowPolicyEvaluation)
open TaskTwin.Lifecycle (editorRoles)

/-- The role of a user in the organization of a workspace. -/
structure Membership where
  userId : JsString
  workspaceId : JsString
  role : Lifecycle.OrganizationRole
  deriving DecidableEq

/-- A version, with the workspace of its workflow. -/
structure WorkflowVersion where
  id : JsString
  workflowId : JsString
  workspaceId : JsString
  version : Nat
  status : WorkflowLifecycleStatus
  schemaVersion : Nat
  definition : Json

structure WorkspaceExecutionPolicyVersion where
  id : JsString
  workspaceId : JsString
  active : Bool
  digest : JsString
  definition : WorkspaceExecutionPolicyDefinition
  deriving DecidableEq

structure RunnerDevice where
  id : JsString
  workspaceId : JsString
  revokedAt : Option Nat
  capabilities : List JsString
  deriving DecidableEq

inductive RunnerEncryptionKeyStatus where
  | active
  | revoked
  deriving DecidableEq, Repr

/-- An index allows one active key for each runner. -/
structure RunnerEncryptionKey where
  id : JsString
  runnerDeviceId : JsString
  keyId : JsString
  profile : JsString
  algorithm : JsString
  publicKeySpki : JsString
  fingerprint : JsString
  status : RunnerEncryptionKeyStatus
  deriving DecidableEq

/-- `keyMetadata`, before it is parsed. -/
def RunnerEncryptionKey.metadata (key : RunnerEncryptionKey) :
    RunnerPublicKeyMetadata :=
  { keyId := key.keyId
    profile := key.profile
    algorithm := key.algorithm
    publicKeySpki := key.publicKeySpki
    fingerprint := key.fingerprint }

structure CreatedRunStep where
  sourceStepId : NonEmptyString
  sourceStepIndex : Nat
  stepType : WorkflowStepType
  deriving DecidableEq

structure CreatedRunOutput where
  outputName : Identifier
  outputType : WorkflowOutputType
  producerStepId : NonEmptyString
  producerStepIndex : Nat
  deriving DecidableEq

/-- What a run is created with; its other columns have their defaults. -/
structure WorkflowRun where
  id : JsString
  workspaceId : JsString
  workflowId : JsString
  workflowVersionId : JsString
  runnerDeviceId : JsString
  createdByUserId : JsString
  clientRunId : JsString
  runProtocolVersion : Nat
  workflowEngineVersion : Nat
  definitionDigest : JsString
  policyVersionId : JsString
  policyDigest : JsString
  policyEvaluation : WorkflowPolicyEvaluation
  allowedOrigins : List JsString
  executionOptions : SecureExecutionOptions
  steps : List CreatedRunStep
  outputs : List CreatedRunOutput
  deriving DecidableEq

/-- `RUN_PROTOCOL_VERSION`. -/
def runProtocolVersion : Nat := 2

/-- `workflow.steps.map`, for the steps of a run. -/
def createdSteps (workflow : WorkflowDefinition) : List CreatedRunStep :=
  workflow.steps.zipIdx.map fun (step, index) =>
    { sourceStepId := step.id
      sourceStepIndex := index
      stepType := step.type }

/-- `outputDefinitions.map`, for the outputs of a run. -/
def createdOutputs (workflow : WorkflowDefinition) : List CreatedRunOutput :=
  (defineWorkflowOutputs workflow).map fun output =>
    { outputName := output.name
      outputType := output.valueType
      producerStepId := output.producerStepId
      producerStepIndex := output.producerStepIndex }

/-- An index on the workspace and the client id, and the primary key. -/
def WorkflowRun.conflicts (first second : WorkflowRun) : Bool :=
  first.id == second.id ||
    (first.workspaceId == second.workspaceId &&
      first.clientRunId == second.clientRunId)

theorem WorkflowRun.conflicts_symmetric (first second : WorkflowRun) :
    first.conflicts second = second.conflicts first := by
  simp only [conflicts, Bool.beq_comm]

inductive PreparationStatus where
  | pending
  | consumed
  deriving DecidableEq, Repr

structure WorkflowRunInputPreparation where
  id : JsString
  workspaceId : JsString
  workflowVersionId : JsString
  runnerDeviceId : JsString
  runnerEncryptionKeyId : JsString
  createdByUserId : JsString
  clientPreparationId : JsString
  clientRunId : JsString
  reservedRunId : JsString
  status : PreparationStatus
  manifest : SecureRunInputManifest
  allowedOrigins : List JsString
  executionOptions : SecureExecutionOptions
  definitionDigest : JsString
  aad : RunInputAdditionalAuthenticatedData
  requestDigest : JsString
  expiresAt : Nat
  consumedAt : Option Nat
  deriving DecidableEq

/-- The unique indexes of preparations. -/
def WorkflowRunInputPreparation.conflicts
    (first second : WorkflowRunInputPreparation) :
    Bool :=
  first.id == second.id ||
    first.reservedRunId == second.reservedRunId ||
    (first.workspaceId == second.workspaceId &&
      (first.clientPreparationId == second.clientPreparationId ||
        first.clientRunId == second.clientRunId))

theorem WorkflowRunInputPreparation.conflicts_symmetric
    (first second : WorkflowRunInputPreparation) :
    first.conflicts second = second.conflicts first := by
  simp only [conflicts, Bool.beq_comm]

structure WorkflowRunInputEnvelope where
  workflowRunId : JsString
  preparationId : JsString
  runnerEncryptionKeyId : JsString
  /-- The envelope as it was submitted. -/
  envelope : SecureRunInputEnvelope
  deriving DecidableEq

/-- The unique indexes of envelopes. -/
def WorkflowRunInputEnvelope.conflicts
    (first second : WorkflowRunInputEnvelope) :
    Bool :=
  first.workflowRunId == second.workflowRunId ||
    first.preparationId == second.preparationId

theorem WorkflowRunInputEnvelope.conflicts_symmetric
    (first second : WorkflowRunInputEnvelope) :
    first.conflicts second = second.conflicts first := by
  simp only [conflicts, Bool.beq_comm]

structure Database where
  memberships : List Membership
  versions : List WorkflowVersion
  policies : List WorkspaceExecutionPolicyVersion
  runners : List RunnerDevice
  keys : List RunnerEncryptionKey
  preparations : List WorkflowRunInputPreparation
  envelopes : List WorkflowRunInputEnvelope
  runs : List WorkflowRun
  audit : AuditStore

def Database.role
    (db : Database)
    (userId workspaceId : JsString) :
    Option Lifecycle.OrganizationRole :=
  (db.memberships.find? fun membership =>
    membership.userId = userId ∧ membership.workspaceId = workspaceId).map
    Membership.role

def Database.findVersion (db : Database) (id : JsString) :
    Option WorkflowVersion :=
  findUnique WorkflowVersion.id id db.versions

def Database.findRunner (db : Database) (id : JsString) :
    Option RunnerDevice :=
  findUnique RunnerDevice.id id db.runners

def Database.findKey (db : Database) (id : JsString) :
    Option RunnerEncryptionKey :=
  findUnique RunnerEncryptionKey.id id db.keys

def Database.findPreparation (db : Database) (id : JsString) :
    Option WorkflowRunInputPreparation :=
  findUnique WorkflowRunInputPreparation.id id db.preparations

def Database.findEnvelope (db : Database) (preparationId : JsString) :
    Option WorkflowRunInputEnvelope :=
  findUnique WorkflowRunInputEnvelope.preparationId preparationId db.envelopes

def Database.activePolicy (db : Database) (workspaceId : JsString) :
    Option WorkspaceExecutionPolicyVersion :=
  db.policies.find? fun policy =>
    policy.workspaceId = workspaceId ∧ policy.active

/-- The active key of a runner. -/
def Database.activeKey (db : Database) (runnerDeviceId : JsString) :
    Option RunnerEncryptionKey :=
  db.keys.find? fun key =>
    key.runnerDeviceId = runnerDeviceId ∧ key.status = .active

/-- The run of a workspace with a client id. -/
def Database.findClientRun
    (db : Database)
    (workspaceId clientRunId : JsString) :
    Option WorkflowRun :=
  db.runs.find? fun run =>
    run.workspaceId = workspaceId ∧ run.clientRunId = clientRunId

/--
`WorkflowDefinitionSchema`, over the values that are stored.  What it answers
is accepted again, as it is written.
-/
structure DefinitionSchema where
  safeParse : Json → Option WorkflowDefinition
  written : WorkflowDefinition → Json
  safeParse_written :
    ∀ value workflow,
      safeParse value = some workflow →
        safeParse (written workflow) = some workflow

structure Dependencies where
  parser : UrlParser
  platform : Platform
  schema : DefinitionSchema
  parseOther : JsString → Option TimeValue
  hasher : AuditHasher
  newRow : AuditStore → NewRow
  /-- The hexadecimal text of the SHA-256 digest of octets. -/
  sha256Octets : List Octet → JsString

def Dependencies.createCanonicalJsonDigest
    (deps : Dependencies)
    (value : Json) :
    JsString :=
  deps.hasher.sha256Hex (serialize value)

/-- The digest of a definition that was parsed. -/
def Dependencies.definitionDigest
    (deps : Dependencies)
    (workflow : WorkflowDefinition) :
    JsString :=
  deps.createCanonicalJsonDigest (deps.schema.written workflow)

/-- The evaluation refuses the workflow. -/
def refusesWorkflow (evaluation : WorkflowPolicyEvaluation) : Bool :=
  evaluation.overallDecision == .deny || evaluation.hasBlockingIssues

/-- A version that can run, with its definition. -/
def runnableDefinition
    (deps : Dependencies)
    (version : WorkflowVersion) :
    Option WorkflowDefinition := do
  let parsed ← deps.schema.safeParse version.definition
  if version.status ≠ .published ∨ version.schemaVersion ≠ 1 ∨
      js parsed.workflowId.text ≠ version.workflowId ∨
      parsed.version ≠ version.version ∨ parsed.status ≠ .published then
    none
  else
    some parsed

/-- A workflow has a step of a type. -/
def hasStepOfType
    (workflow : WorkflowDefinition)
    (stepType : WorkflowStepType) :
    Bool :=
  workflow.steps.any fun step => step.type == stepType

def workflowVerificationCapability : JsString :=
  js "workflow_verification_v1"

def workflowExtractionCapability : JsString := js "workflow_extraction_v1"

def workflowApprovalCapability : JsString := js "workflow_approval_v1"

def workflowManualRepairCapability : JsString :=
  js "workflow_manual_repair_v1"

def locatorRepairProposalsCapability : JsString :=
  js "locator_repair_proposals_v1"

inductive RunNotReadyDetail where
  | readiness (report : WorkflowRunReadinessReport)
  | policy (evaluation : WorkflowPolicyEvaluation)
  deriving DecidableEq

/-- The codes of `SecureRunInputRepositoryError`, and what else is thrown. -/
inductive SecureRunInputFailure where
  | notFound
  | forbidden
  | runNotReady (detail : Option RunNotReadyDetail)
  | runnerUnavailable
  | capabilityUnavailable
  | preparationExpired
  | preparationConflict
  | envelopeInvalid
  | manifest (failure : ManifestFailure)
  /-- An analysis or a schema throws. -/
  | thrown
  | uniqueConstraint
  deriving DecidableEq

end TaskTwin.SecureInputs
