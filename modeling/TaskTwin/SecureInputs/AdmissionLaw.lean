import TaskTwin.Policy.OutputBounds
import TaskTwin.SecureInputs.Invariant

/-!
# Admission at the time of a commit

A run that a commit creates is compared with the run that `createRun` creates
for the same version, runner and user at that moment, where the issues that the
delivery of inputs settles are lifted.
-/

namespace TaskTwin.SecureInputs

open Text Schema Store Audit Workflow Engine
open TaskTwin.Policy (WorkflowPolicyEvaluation)
open TaskTwin.Lifecycle (editorRoles)

variable {deps : Dependencies} {db db' : Database}

/-- What `createRun` is asked for the run of a preparation. -/
def createRunInput
    (input : CommitInput)
    (preparation : WorkflowRunInputPreparation) :
    CreateRunInput :=
  { actorUserId := input.actorUserId
    workflowVersionId := preparation.workflowVersionId
    runnerDeviceId := preparation.runnerDeviceId
    clientRunId := preparation.clientRunId
    options := preparation.executionOptions
    occurredAt := input.now
    newRunId := preparation.reservedRunId }

/-- One event was appended, and it says that the run was created. -/
def AppendsRunCreated (db db' : Database) (run : WorkflowRun) : Prop :=
  ∃ event,
    db'.audit.events = db.audit.events ++ [event] ∧
      event.eventType = js AuditEventType.workflowRunCreated.text ∧
        event.primaryEntity = { kind := js "workflow_run", id := run.id }

/-- The conditions of `createRun` hold, and its records are left behind. -/
def MatchesCreation
    (deps : Dependencies)
    (db db' : Database)
    (input : CreateRunInput) :
    Prop :=
  ∃ version runner workflow readiness activePolicy policyEvaluation,
    Admits deps isLiftedIssue db input version runner workflow readiness
        activePolicy policyEvaluation ∧
      let run :=
        createdRun deps input version workflow readiness activePolicy
          policyEvaluation
      db'.runs = db.runs ++ [run] ∧ AppendsRunCreated db db' run

/-- A commit creates a run. -/
def CreatesRun
    (deps : Dependencies)
    (db : Database)
    (input : CommitInput) :
    Prop :=
  ∃ db' result,
    commit deps input db = .ok (db', result) ∧ result.idempotent = false

/-- Every run that a commit creates is one that `createRun` would create. -/
def AdmissionLaw
    (deps : Dependencies)
    (db : Database)
    (input : CommitInput) :
    Prop :=
  ∀ db' result preparation,
    commit deps input db = .ok (db', result) →
      result.idempotent = false →
        db.findPreparation input.preparationId = some preparation →
          MatchesCreation deps db db' (createRunInput input preparation)

theorem findClientRun_eq_none
    {workspaceId clientRunId : JsString} :
    db.findClientRun workspaceId clientRunId = none ↔
      ∀ run ∈ db.runs,
        run.workspaceId = workspaceId → run.clientRunId ≠ clientRunId := by
  simp [Database.findClientRun]

/-- Neither the identifier nor the client id of a run is taken. -/
theorem conflicts_eq_false
    {first second : WorkflowRun} :
    first.conflicts second = false ↔
      first.id ≠ second.id ∧
        (first.workspaceId = second.workspaceId →
          first.clientRunId ≠ second.clientRunId) := by
  simp [WorkflowRun.conflicts]

/-- What is known of a run that a commit creates, and of its record. -/
structure AdmitsCommit
    (deps : Dependencies)
    (db : Database)
    (input : CommitInput)
    (preparation : WorkflowRunInputPreparation)
    (run : WorkflowRun)
    (version : WorkflowVersion)
    (runner : RunnerDevice)
    (workflow : WorkflowDefinition)
    (readiness : WorkflowRunReadinessReport)
    (activePolicy : WorkspaceExecutionPolicyVersion)
    (policyEvaluation : WorkflowPolicyEvaluation) :
    Prop where
  admits :
    AdmitsRunner deps isLiftedIssue db (createRunInput input preparation)
      version runner workflow readiness activePolicy policyEvaluation
  sameRecord :
    run =
      createdRun deps (createRunInput input preparation) version workflow
        readiness activePolicy policyEvaluation

/-- All conditions but the capabilities hold when a run is committed. -/
theorem Creates.admitsCommit
    {input : CommitInput}
    {preparation : WorkflowRunInputPreparation}
    {run : WorkflowRun}
    (creates : Creates deps input db preparation run)
    (isBacked : IsBacked deps db preparation) :
    ∃ version runner workflow readiness activePolicy policyEvaluation,
      AdmitsCommit deps db input preparation run version runner workflow
        readiness activePolicy policyEvaluation := by
  obtain ⟨version, workflow, readiness, runner, key, backs⟩ := isBacked
  obtain ⟨version', runner', workflow', activePolicy, policyEvaluation, finds,
    isRun⟩ := committedRun_eq_ok.mp creates.isRun
  obtain rfl := Option.some.inj (finds.isVersion.symm.trans backs.isVersion)
  obtain rfl := Option.some.inj (finds.isRunner.symm.trans backs.isRunner)
  obtain rfl := Option.some.inj (finds.isParsed.symm.trans backs.isParsed)
  have isVersionId : version'.id = preparation.workflowVersionId :=
    (mem_of_findUnique backs.isVersion).2
  obtain ⟨role, mayWrite, isRole⟩ := creates.mayWrite
  obtain ⟨policy, isPolicy, isEvaluated⟩ := finds.isEvaluated
  have isNew :
      db.findClientRun version'.workspaceId preparation.clientRunId = none := by
    rw [findClientRun_eq_none, backs.sameWorkspace]
    intro other listed sameWorkspace
    have free := creates.runIsFree other listed
    rw [isRun, conflicts_eq_false] at free
    exact (free.2 sameWorkspace.symm).symm
  have admits :
      AdmitsRunner deps isLiftedIssue db (createRunInput input preparation)
        version' runner' workflow' readiness activePolicy policyEvaluation :=
    { isVersion := backs.isVersion
      mayWrite := ⟨role, mayWrite, by rw [backs.sameWorkspace]; exact isRole⟩
      isNew
      isRunner := backs.isRunner
      sameWorkspace := backs.runnerWorkspace.trans backs.sameWorkspace.symm
      notRevoked := finds.notRevoked
      isRunnable :=
        runnableDefinition_eq_some.mpr
          { isParsed := backs.isParsed
            isPublished := finds.isPublished
            schemaVersion := backs.schemaVersion
            sameWorkflow := backs.sameWorkflow
            sameVersion := backs.sameVersion
            definesPublished := backs.definesPublished }
      isAnalyzed := backs.isAnalyzed
      allLifted := backs.allLifted
      isActive := by rw [backs.sameWorkspace]; exact finds.isActive
      isEvaluated :=
        ⟨policy, isPolicy, by rw [← backs.sameDigest]; exact isEvaluated⟩
      allows := finds.allows }
  refine ⟨version', runner', workflow', readiness, activePolicy,
    policyEvaluation, admits, ?_⟩
  rw [isRun, runOfPreparation, createdRun, createRunInput, backs.sameWorkspace,
    isVersionId, backs.sameDigest, backs.sameOrigins]

/-- A commit appends no event. -/
theorem not_appendsRunCreated
    {run : WorkflowRun}
    (sameAudit : db'.audit = db.audit) :
    ¬AppendsRunCreated db db' run := by
  rintro ⟨event, appended, -⟩
  rw [sameAudit] at appended
  have longer := congrArg List.length appended
  simp at longer

/-- What a commit that creates a run keeps of the conditions and the record. -/
def KeepsAllButTheEvent
    (deps : Dependencies)
    (db : Database)
    (input : CommitInput) :
    Prop :=
  ∀ db' result preparation,
    commit deps input db = .ok (db', result) →
      result.idempotent = false →
        db.findPreparation input.preparationId = some preparation →
          ∃ version runner workflow readiness activePolicy policyEvaluation,
            let request := createRunInput input preparation
            AdmitsRunner deps isLiftedIssue db request version runner workflow
                readiness activePolicy policyEvaluation ∧
              (Admits deps isLiftedIssue db request version runner workflow
                  readiness activePolicy policyEvaluation ↔
                HasCapabilities runner workflow request.options.recoveryMode) ∧
                db'.runs =
                    db.runs ++
                      [createdRun deps request version workflow readiness
                        activePolicy policyEvaluation] ∧
                  db'.audit = db.audit

theorem commit_keepsAllButTheEvent
    (sound : Sound deps db)
    (input : CommitInput) :
    KeepsAllButTheEvent deps db input := by
  intro db' result preparation committed isNew isPreparation
  obtain ⟨other, -, -, rfl⟩ | ⟨other, run, creates, rfl, rfl⟩ :=
    commit_eq_ok.mp committed
  · cases isNew
  obtain rfl :=
    Option.some.inj (isPreparation.symm.trans creates.isPreparation)
  obtain ⟨version, runner, workflow, readiness, activePolicy,
    policyEvaluation, admitted⟩ :=
    creates.admitsCommit (sound.backed preparation creates.listed)
  refine ⟨version, runner, workflow, readiness, activePolicy, policyEvaluation,
    admitted.admits, ?_, ?_, rfl⟩
  · constructor
    · intro admits
      exact admits.isCapable
    · intro isCapable
      exact { toAdmitsRunner := admitted.admits, isCapable }
  · rw [← admitted.sameRecord]
    rfl

/--
A commit that creates a run never does what `createRun` does: the run and the
conditions other than the capabilities are the same, but no event says that
the run was created.
-/
theorem admissionLaw_iff
    (reaches : Reaches deps db)
    (input : CommitInput) :
    KeepsAllButTheEvent deps db input ∧
      (AdmissionLaw deps db input ↔ ¬CreatesRun deps db input) := by
  have keeps := commit_keepsAllButTheEvent reaches.sound input
  refine ⟨keeps, ?_, ?_⟩
  · rintro law ⟨db', result, committed, isNew⟩
    obtain ⟨preparation, -, -, rfl⟩ | ⟨preparation, run, creates, -, -⟩ :=
      commit_eq_ok.mp committed
    · cases isNew
    obtain ⟨version, runner, workflow, readiness, activePolicy,
      policyEvaluation, -, -, appends⟩ :=
      law db' result preparation committed isNew creates.isPreparation
    obtain ⟨-, -, -, -, -, -, -, -, -, sameAudit⟩ :=
      keeps db' result preparation committed isNew creates.isPreparation
    exact not_appendsRunCreated sameAudit appends
  · intro none db' result preparation committed isNew
    exact absurd ⟨db', result, committed, isNew⟩ none

/-- A workflow that opens one page. -/
def exampleVisitStep : WorkflowStep :=
  { id := exampleGate
    name := exampleGate
    action := .navigate (.literal (.string "https://example.com"))
    refined := rfl }

def exampleVisit : WorkflowDefinition :=
  { exampleWorkflow with
    steps := [exampleVisitStep]
    stepsNonEmpty := List.cons_ne_nil _ _
    stepIdsUnique := List.nodup_singleton _ }

/-- The stored value of the definition. -/
def exampleVisitJson : Json :=
  let name : Json := .string (js exampleGate.text)
  .object
    [(js "schemaVersion", .integer 1),
      (js "workflowId", name),
      (js "version", .integer 1),
      (js "name", name),
      (js "status", .string (js "published")),
      (js "variables", .array []),
      (js "steps",
        .array
          [.object
            [(js "id", name),
              (js "name", name),
              (js "type", .string (js "navigate")),
              (js "url",
                .object
                  [(js "kind", .string (js "literal")),
                    (js "value", .string (js "https://example.com"))])]])]

/-- A schema that knows the definition. -/
def exampleSchema : DefinitionSchema where
  safeParse value :=
    if serialize value = serialize exampleVisitJson then some exampleVisit
    else none
  written _ := exampleVisitJson
  safeParse_written value workflow isParsed := by
    obtain ⟨-, isVisit⟩ := Option.ite_none_right_eq_some.mp isParsed
    exact (if_pos rfl).trans isVisit

def exampleParser : UrlParser :=
  { parseUrl := Policy.examplePlatform.parseUrl
    empty_throws := by decide
    origin_stable := Policy.examplePlatform.origin_stable
    origin_visible := Policy.examplePlatform.origin_visible }

def exampleWorkspaceId : JsString := js "11111111-1111-4111-8111-111111111111"

def exampleActorId : JsString := js "22222222-2222-4222-8222-222222222222"

def exampleRunnerId : JsString := js "33333333-3333-4333-8333-333333333333"

def exampleVersionId : JsString := js "44444444-4444-4444-8444-444444444444"

def examplePreparationId : JsString :=
  js "55555555-5555-4555-8555-555555555555"

def exampleRunId : JsString := js "66666666-6666-4666-8666-666666666666"

def exampleClientId : JsString := js "77777777-7777-4777-8777-777777777777"

def examplePrepare : PrepareInput :=
  { actorUserId := exampleActorId
    workflowVersionId := exampleVersionId
    runnerDeviceId := exampleRunnerId
    clientPreparationId := exampleClientId
    clientRunId := exampleClientId
    options :=
      some
        { totalTimeoutMs := 1000
          stepTimeoutMs := 1000
          recoveryMode := some .automaticSafeAndManual }
    now := 0
    newPreparationId := examplePreparationId
    newWorkflowRunId := exampleRunId }

/-- The digests of the texts and of the octets that are hashed here. -/
def exampleDefinitionDigest : JsString :=
  js "1da6b6b8d122adce81ae76da2b2b740c0bd93e1ea5f53bae942960542b5317be"

def exampleRequestDigest : JsString :=
  js "c31eb1140e05da4720baec3023d5a964dc286890fc8da885447f85382fe117ff"

def exampleCiphertextDigest : JsString :=
  js "709e80c88487a2411e1ee4dfb9f22a861492d20c4765150c0c794abd70f8147c"

def exampleDependencies : Dependencies where
  parser := exampleParser
  platform := Policy.examplePlatform
  schema := exampleSchema
  parseOther _ := none
  hasher :=
    { sha256Hex := fun text =>
        if text = serialize exampleVisitJson then exampleDefinitionDigest
        else exampleRequestDigest }
  newRow _ := { id := [], createdAt := [] }
  sha256Octets _ := exampleCiphertextDigest

def exampleKey : RunnerEncryptionKey :=
  { id := js "88888888-8888-4888-8888-888888888888"
    runnerDeviceId := exampleRunnerId
    keyId := js "rk1_" ++ List.replicate 43 (unit 'k')
    profile := secureInputEnvelopeProfile
    algorithm := keyEncryptionAlgorithm
    publicKeySpki := js "MIIB"
    fingerprint := List.replicate 64 (unit 'f')
    status := .active }

def exampleRunner (capabilities : List JsString) : RunnerDevice :=
  { id := exampleRunnerId
    workspaceId := exampleWorkspaceId
    revokedAt := none
    capabilities }

def exampleVersion : WorkflowVersion :=
  { id := exampleVersionId
    workflowId := js exampleGate.text
    workspaceId := exampleWorkspaceId
    version := 1
    status := .published
    schemaVersion := 1
    definition := exampleVisitJson }

def examplePolicyVersion : WorkspaceExecutionPolicyVersion :=
  { id := js "99999999-9999-4999-8999-999999999999"
    workspaceId := exampleWorkspaceId
    active := true
    digest := List.replicate 64 (unit 'a')
    definition := Policy.defaultWorkspaceExecutionPolicy }

/-- A database in which nothing is prepared. -/
def exampleDatabase (capabilities : List JsString) : Database :=
  { memberships :=
      [{ userId := exampleActorId
         workspaceId := exampleWorkspaceId
         role := .member }]
    versions := [exampleVersion]
    policies := [examplePolicyVersion]
    runners := [exampleRunner capabilities]
    keys := [exampleKey]
    preparations := []
    envelopes := []
    runs := []
    audit := AuditStore.empty }

/-- What the runner can do when the inputs are prepared. -/
def exampleCapabilities : List JsString :=
  [secureInputCapability, workflowManualRepairCapability]

def exampleOptions : SecureExecutionOptions :=
  { totalTimeoutMs := 1000
    stepTimeoutMs := 1000
    recoveryMode := .automaticSafeAndManual }

def exampleReadiness : WorkflowRunReadinessReport :=
  { ready := true
    allowedOrigins := [js "https://example.com"]
    issues := [] }

def exampleAad : RunInputAdditionalAuthenticatedData :=
  { profile := secureInputEnvelopeProfile
    preparationId := examplePreparationId
    workflowRunId := exampleRunId
    workspaceId := exampleWorkspaceId
    workflowId := js exampleGate.text
    workflowVersionId := exampleVersionId
    workflowVersion := 1
    definitionDigest := exampleDefinitionDigest
    runnerDeviceId := exampleRunnerId
    keyId := exampleKey.keyId
    keyFingerprint := exampleKey.fingerprint
    clientRunId := exampleClientId
    allowedOrigins := exampleReadiness.allowedOrigins
    executionOptions := exampleOptions
    expiresAt := js "1970-01-01T00:10:00.000Z" }

def examplePreparation : WorkflowRunInputPreparation :=
  { id := examplePreparationId
    workspaceId := exampleWorkspaceId
    workflowVersionId := exampleVersionId
    runnerDeviceId := exampleRunnerId
    runnerEncryptionKeyId := exampleKey.id
    createdByUserId := exampleActorId
    clientPreparationId := exampleClientId
    clientRunId := exampleClientId
    reservedRunId := exampleRunId
    status := .pending
    manifest := { variableDefinitions := [], secrets := [] }
    allowedOrigins := exampleReadiness.allowedOrigins
    executionOptions := exampleOptions
    definitionDigest := exampleDefinitionDigest
    aad := exampleAad
    requestDigest := exampleRequestDigest
    expiresAt := 600000
    consumedAt := none }

/-- The database after the inputs were prepared. -/
def examplePrepared (capabilities : List JsString) : Database :=
  { exampleDatabase capabilities with preparations := [examplePreparation] }

/-- An envelope for the preparation, with an initialization vector. -/
def exampleEnvelope (iv : JsString) : SecureRunInputEnvelope :=
  { profile := secureInputEnvelopeProfile
    contentEncryption := contentEncryptionAlgorithm
    keyEncryption := keyEncryptionAlgorithm
    preparationId := examplePreparationId
    workflowRunId := exampleRunId
    keyId := exampleKey.keyId
    expiresAt := exampleAad.expiresAt
    aad := base64UrlText (encodeRunInputAad exampleAad)
    iv
    wrappedKey := js "AAAA"
    ciphertext := js "AAAA"
    ciphertextDigest := exampleCiphertextDigest }

def exampleIv : JsString := List.replicate 16 (unit 'A')

def exampleCommit (iv : JsString) : CommitInput :=
  { actorUserId := exampleActorId
    preparationId := examplePreparationId
    envelope := exampleEnvelope iv
    now := 1 }

/-- What the digests and the authenticated data of the example come to. -/
theorem example_evaluates :
    exampleDependencies.definitionDigest exampleVisit =
        exampleDefinitionDigest ∧
      exampleDependencies.createCanonicalJsonDigest
          examplePrepare.requestJson =
        exampleRequestDigest ∧
      RunInputAdditionalAuthenticatedData.parse exampleDependencies.parser
          exampleAad =
        some exampleAad ∧
      hasLength 1 (16 * 1024)
          (base64UrlText (encodeRunInputAad exampleAad)) =
        true ∧
      (isRunnerEncryptionKeyId exampleKey.keyId &&
          isDateTime exampleAad.expiresAt &&
          LocalSecrets.isBase64Url (maxBase64UrlCharacters maxWrappedKeyBytes)
            (js "AAAA") &&
          LocalSecrets.isBase64Url (maxBase64UrlCharacters maxCiphertextBytes)
            (js "AAAA") &&
          isUuid examplePreparationId && isUuid exampleRunId &&
          isSha256Hex exampleCiphertextDigest) =
        true := by
  decide +kernel

theorem exampleDefinition_digest :
    exampleDependencies.definitionDigest exampleVisit =
      exampleDefinitionDigest :=
  example_evaluates.1

theorem exampleRequest_digest :
    exampleDependencies.createCanonicalJsonDigest examplePrepare.requestJson =
      exampleRequestDigest :=
  example_evaluates.2.1

theorem exampleVisitJson_parses :
    exampleSchema.safeParse exampleVisitJson = some exampleVisit := by
  simp only [exampleSchema, if_true]

theorem exampleVersion_isRunnable :
    IsRunnable exampleDependencies exampleVersion exampleVisit :=
  { isParsed := exampleVisitJson_parses
    isPublished := rfl
    schemaVersion := rfl
    sameWorkflow := rfl
    sameVersion := rfl
    definesPublished := rfl }

theorem exampleVisit_analyzed :
    analyzeWorkflowRunReadiness exampleDependencies.parser
        (some exampleVisit) =
      some exampleReadiness := by
  decide +kernel

theorem exampleVisit_short :
    ∀ step ∈ exampleVisit.steps,
      utf16Length step.id.text ≤ maxStepIdLength := by
  decide +kernel

theorem exampleVisit_withinBounds :
    Policy.WithinBounds exampleDependencies.platform
      Policy.defaultWorkspaceExecutionPolicy exampleVisit := by
  have counted :=
    Policy.findingCount_le exampleDependencies.platform
      Policy.defaultWorkspaceExecutionPolicy exampleVisit
  constructor
  case shortStepIds => exact exampleVisit_short
  case steps => decide
  case gates => decide
  case findings => exact Nat.le_trans counted (by decide)

theorem exampleVisit_approvals :
    (analyzeWorkflowApprovals exampleVisit).all fun analysis =>
      !refusesWorkflow
        (Policy.unparsedEvaluation exampleDependencies.platform
          Policy.defaultWorkspaceExecutionPolicy exampleVisit
          examplePolicyVersion.digest exampleDefinitionDigest analysis) := by
  decide +kernel

theorem exampleVisit_evaluates :
    ∃ policyEvaluation,
      Evaluates exampleDependencies examplePolicyVersion exampleVisit
        exampleDefinitionDigest policyEvaluation := by
  have isCanonical :
      Policy.canonicalizePolicyDefinition exampleDependencies.platform
          Policy.defaultWorkspaceExecutionPolicy =
        some Policy.defaultWorkspaceExecutionPolicy :=
    Policy.examplePolicies_canonical.1
  have isParsed :
      Policy.defaultWorkspaceExecutionPolicy.parse
          exampleDependencies.platform =
        some Policy.defaultWorkspaceExecutionPolicy := by
    decide +kernel
  have digests :
      isSha256Hex examplePolicyVersion.digest ∧
        isSha256Hex exampleDefinitionDigest := by
    decide +kernel
  have returns :
      (Policy.evaluateWorkflowPolicy exampleDependencies.platform
        { policy := Policy.defaultWorkspaceExecutionPolicy
          workflow := exampleVisit
          policyDigest := examplePolicyVersion.digest
          workflowDigest := exampleDefinitionDigest }).isSome =
        true :=
    (Policy.isSome_evaluateWorkflowPolicy_iff
      (Option.isSome_of_eq_some isParsed) digests).mpr
      ⟨_, isCanonical, exampleVisit_withinBounds⟩
  obtain ⟨evaluation, evaluated⟩ := Option.isSome_iff_exists.mp returns
  refine ⟨evaluation, ⟨_, isParsed, evaluated⟩, ?_⟩
  obtain ⟨canonical, analysis, isCanonical', isAnalysis, rfl⟩ :=
    Policy.evaluateWorkflowPolicy_eq_some evaluated
  obtain rfl := Option.some.inj (isCanonical.symm.trans isCanonical')
  have allows := exampleVisit_approvals
  rw [isAnalysis] at allows
  simpa using allows

theorem exampleAad_parsed :
    RunInputAdditionalAuthenticatedData.parse exampleDependencies.parser
        exampleAad =
      some exampleAad :=
  example_evaluates.2.2.1

def exampleMetadata : RunInputPreparationMetadata :=
  { preparationId := examplePreparationId
    clientPreparationId := exampleClientId
    clientRunId := exampleClientId
    workflowRunId := exampleRunId
    workspaceId := exampleWorkspaceId
    workflowVersionId := exampleVersionId
    runnerDeviceId := exampleRunnerId
    expiresAt := exampleAad.expiresAt
    manifest := examplePreparation.manifest
    key := exampleKey.metadata
    aad := exampleAad }

theorem examplePreparation_checked :
    preparedRow exampleDependencies examplePrepare exampleVersion
        exampleRequestDigest (exampleDatabase exampleCapabilities) =
      .ok examplePreparation := by
  obtain ⟨policyEvaluation, ⟨policy, isPolicy, isEvaluated⟩, allows⟩ :=
    exampleVisit_evaluates
  rw [← exampleDefinition_digest] at isEvaluated
  simp only [preparedRow, bind_eq_ok, orThrow_eq_ok, refuseIf_eq_ok,
    runnableDefinition_eq_some]
  refine ⟨exampleVisit, exampleVersion_isRunnable, exampleReadiness,
    exampleVisit_analyzed, (), by decide +kernel, examplePolicyVersion,
    by decide +kernel, policy, isPolicy, policyEvaluation, isEvaluated, (),
    by simpa using allows, examplePreparation.manifest, by decide +kernel,
    exampleRunner exampleCapabilities, by decide +kernel, (), by decide, (),
    by decide +kernel, exampleKey, by decide +kernel, exampleOptions,
    by decide +kernel, (), by decide +kernel, exampleAad.expiresAt,
    by decide +kernel, exampleAad, ?_, ?_⟩
  · rw [exampleDefinition_digest]
    exact exampleAad_parsed
  · rfl

theorem exampleDatabase_findVersion (capabilities : List JsString) :
    (exampleDatabase capabilities).findVersion exampleVersionId =
      some exampleVersion := by
  simp [Database.findVersion, findUnique, exampleDatabase, exampleVersion]

theorem exampleDatabase_mayWrite (capabilities : List JsString) :
    (exampleDatabase capabilities).MayWrite exampleActorId
      exampleWorkspaceId := by
  refine ⟨.member, by decide, ?_⟩
  simp [Database.role, exampleDatabase]

theorem examplePrepare_prepares :
    prepare exampleDependencies examplePrepare
        (exampleDatabase exampleCapabilities) =
      .ok
        (examplePrepared exampleCapabilities,
          { preparation := exampleMetadata, idempotent := false }) := by
  simp only [prepare, bind_eq_ok, orThrow_eq_ok, exampleRequest_digest]
  refine ⟨exampleVersion, exampleDatabase_findVersion _, (),
    requireWriter_eq_ok.mpr (exampleDatabase_mayWrite _), ?_⟩
  have isFirst :
      ((exampleDatabase exampleCapabilities).preparations.find?
          fun preparation =>
            preparation.workspaceId = exampleVersion.workspaceId ∧
              preparation.clientPreparationId =
                examplePrepare.clientPreparationId) =
        none :=
    rfl
  rw [isFirst]
  simp only [bind_eq_ok, orThrow_eq_ok, insertUnique_eq_some, refuseIf_eq_ok]
  refine ⟨(), by decide, examplePreparation, examplePreparation_checked,
    [examplePreparation], ⟨(by intro other listed; cases listed), rfl⟩,
    { preparation := exampleMetadata, idempotent := false }, ?_, rfl⟩
  simp only [preparationResult, bind_eq_ok, orThrow_eq_ok, refuseIf_eq_ok]
  exact ⟨exampleKey, by decide +kernel, exampleAad.expiresAt,
    by decide +kernel, (), by decide +kernel, (), by decide +kernel,
    exampleAad, exampleAad_parsed, rfl⟩

theorem exampleDatabase_isInitial (capabilities : List JsString) :
    IsInitial exampleDependencies (exampleDatabase capabilities) where
  noPreparations := rfl
  noEnvelopes := rfl
  distinctRuns := List.Pairwise.nil
  distinctKeys := List.nodup_singleton _
  written version listed := by
    rw [List.mem_singleton.mp listed]
    exact ⟨exampleVisitJson, exampleVisit, exampleVisitJson_parses, rfl⟩

/-- The runner loses capabilities after the inputs were prepared. -/
theorem exampleRunner_changes (capabilities : List JsString) :
    Changes exampleDependencies (examplePrepared exampleCapabilities)
      (examplePrepared capabilities) where
  versions id version isFound :=
    ⟨version, isFound, WorkflowVersion.Becomes.refl version⟩
  runners id runner isFound := by
    obtain ⟨listed, isId⟩ := mem_of_findUnique isFound
    rw [List.mem_singleton.mp listed] at isId
    refine ⟨exampleRunner capabilities, ?_, ?_⟩
    · rw [← isId]
      simp [Database.findRunner, findUnique, examplePrepared, exampleDatabase,
        exampleRunner]
    · rw [List.mem_singleton.mp listed]
      rfl
  keys id key isFound := ⟨key, isFound, rfl⟩
  written := (exampleDatabase_isInitial capabilities).written
  distinctKeys := List.nodup_singleton _
  samePreparations := rfl
  sameEnvelopes := rfl
  runs := ⟨[], rfl, by intro run listed; cases listed⟩
  distinctRuns := List.Pairwise.nil

theorem examplePrepared_reaches (capabilities : List JsString) :
    Reaches exampleDependencies (examplePrepared capabilities) :=
  ((Effect.Reachable.start (exampleDatabase_isInitial _)).next
    (Step.prepare examplePrepare _ (by intro run listed; cases listed)
      examplePrepare_prepares)).next
    (Step.change (exampleRunner_changes capabilities))

theorem exampleEnvelope_isBound
    {iv : JsString}
    (parses : (exampleEnvelope iv).parses = true) :
    IsBound exampleDependencies exampleAad (exampleEnvelope iv) where
  parses := parses
  samePreparation := rfl
  sameRun := rfl
  sameKey := rfl
  sameExpiry := rfl
  authenticates := rfl
  isDigest := rfl

theorem exampleCommit_creates
    (capabilities : List JsString)
    {iv : JsString}
    (parses : (exampleEnvelope iv).parses = true) :
    ∃ run,
      Creates exampleDependencies (exampleCommit iv)
        (examplePrepared capabilities) examplePreparation run := by
  obtain ⟨policyEvaluation, evaluates⟩ := exampleVisit_evaluates
  have isChecked :
      checkEnvelope exampleDependencies examplePreparation (exampleEnvelope iv)
          1 =
        .ok () :=
    (checkEnvelope_eq_ok exampleAad_parsed).mpr
      ⟨by decide, by decide +kernel, exampleEnvelope_isBound parses⟩
  have finds :
      Finds exampleDependencies (examplePrepared capabilities)
        examplePreparation exampleVersion (exampleRunner capabilities)
        exampleVisit examplePolicyVersion policyEvaluation :=
    { toEvaluates := evaluates
      isVersion := exampleDatabase_findVersion capabilities
      isRunner := by
        simp [Database.findRunner, findUnique, examplePrepared,
          exampleDatabase, exampleRunner, examplePreparation]
      isKey := by
        refine ⟨exampleKey, ?_, rfl⟩
        simp [Database.findKey, findUnique, examplePrepared, exampleDatabase,
          examplePreparation]
      notRevoked := rfl
      isPublished := rfl
      sameDigest := exampleDefinition_digest.symm
      isParsed := exampleVisitJson_parses
      isActive := by
        simp [Database.activePolicy, examplePrepared, exampleDatabase,
          examplePreparation, examplePolicyVersion] }
  refine ⟨_, ?_, exampleDatabase_mayWrite capabilities, parses, rfl, isChecked,
    committedRun_eq_ok.mpr ⟨_, _, _, _, _, finds, rfl⟩,
    (by intro other listed; cases listed),
    (by intro other listed; cases listed)⟩
  simp [Database.findPreparation, findUnique, examplePrepared,
    examplePreparation, exampleCommit]

theorem isTokenSymbol_base64UrlSymbol :
    ∀ value : Fin 64,
      LocalSecrets.isTokenSymbol (base64UrlSymbol value.val) = true := by
  decide

theorem exampleAad_isBase64Url :
    LocalSecrets.isBase64Url (16 * 1024)
        (base64UrlText (encodeRunInputAad exampleAad)) =
      true := by
  rw [LocalSecrets.isBase64Url, example_evaluates.2.2.2.1, Bool.true_and,
    base64UrlText, List.all_map, List.all_eq_true]
  intro value listed
  exact
    isTokenSymbol_base64UrlSymbol
      ⟨value, sextets_bounded _ value listed⟩

/-- The envelopes parse whose initialization vectors do. -/
theorem exampleEnvelope_parses
    {iv : JsString}
    (isIv :
      LocalSecrets.isBase64Url (maxBase64UrlCharacters aesGcmIvBytes) iv =
          true ∧
        iv.length = maxBase64UrlCharacters aesGcmIvBytes) :
    (exampleEnvelope iv).parses = true := by
  have others := example_evaluates.2.2.2.2
  simp only [Bool.and_eq_true] at others
  obtain ⟨⟨⟨⟨⟨⟨isKey, isExpiry⟩, isWrapped⟩, isText⟩, isPreparation⟩, isRun⟩,
    isDigest⟩ := others
  simp only [SecureRunInputEnvelope.parses, exampleEnvelope, beq_self_eq_true,
    isPreparation, isRun, isKey, isExpiry, exampleAad_isBase64Url, isIv.1,
    isIv.2, isWrapped, isText, isDigest, Bool.and_self]

theorem exampleIv_parses : (exampleEnvelope exampleIv).parses = true :=
  exampleEnvelope_parses (by decide)

theorem exampleCommit_createsRun (capabilities : List JsString) :
    CreatesRun exampleDependencies (examplePrepared capabilities)
      (exampleCommit exampleIv) := by
  obtain ⟨run, creates⟩ := exampleCommit_creates capabilities exampleIv_parses
  exact ⟨_, _, commit_eq_ok.mpr (Or.inr ⟨_, run, creates, rfl, rfl⟩), rfl⟩

/-- A run whose runner can no longer repair it is committed without an event. -/
theorem exampleCommit_notAdmitted :
    Reaches exampleDependencies (examplePrepared []) ∧
      CreatesRun exampleDependencies (examplePrepared [])
          (exampleCommit exampleIv) ∧
        ¬AdmissionLaw exampleDependencies (examplePrepared [])
          (exampleCommit exampleIv) := by
  refine ⟨examplePrepared_reaches [], exampleCommit_createsRun [], ?_⟩
  intro law
  obtain ⟨run, creates⟩ := exampleCommit_creates [] exampleIv_parses
  obtain ⟨version, runner, workflow, readiness, activePolicy, policyEvaluation,
    admits, -⟩ :=
    law _ _ examplePreparation
      (commit_eq_ok.mpr (Or.inr ⟨_, run, creates, rfl, rfl⟩)) rfl
      creates.isPreparation
  have isRunner := admits.isRunner
  have isFound :
      (examplePrepared []).findRunner exampleRunnerId =
        some (exampleRunner []) := by
    simp [Database.findRunner, findUnique, examplePrepared, exampleDatabase,
      exampleRunner]
  obtain rfl := Option.some.inj (isFound.symm.trans isRunner)
  exact absurd (admits.isCapable.canRepair rfl) (List.not_mem_nil)

theorem admissionLaw_iff_exampleCommit :
    ¬AdmissionLaw exampleDependencies (examplePrepared exampleCapabilities)
        (exampleCommit exampleIv) := by
  intro law
  exact (admissionLaw_iff (examplePrepared_reaches exampleCapabilities)
    (exampleCommit exampleIv)).2.mp law
      (exampleCommit_createsRun exampleCapabilities)

end TaskTwin.SecureInputs
