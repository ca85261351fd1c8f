import TaskTwin.Lifecycle.Rows

/-!
# The operations on versions

Every operation is one serializable transaction: it throws and changes
nothing, or it answers with what it commits.
-/

namespace TaskTwin.Lifecycle

open Text Schema Store Audit TaskTwin.Workflow
open TaskTwin.Policy (WorkspaceExecutionPolicyDefinition)

/-- `UUID_PATTERN`; every stored identifier is written in small letters. -/
def isUuidPattern (text : JsString) : Bool :=
  isHexGroups [8, 4, 4, 4, 12] text &&
    text[14]?.any (CodeUnit.within '1' '5') &&
    text[19]?.any fun symbol =>
      symbol == unit '8' || symbol == unit '9' || symbol == unit 'a' ||
        symbol == unit 'b' || symbol == unit 'A' || symbol == unit 'B'

/-- What an operation answers with; `updateDraft` has the version only. -/
structure Answer where
  workflowVersion : WorkflowVersionDetailRecord
  readiness : Option PublishReadinessReport
  idempotent : Bool

def getAccessibleVersion
    (db : Database)
    (actorUserId workflowVersionId : JsString) :
    Except Failure WorkflowVersionDetailRecord := do
  refuseIf
    (isUuidPattern actorUserId = false ∨ isUuidPattern workflowVersionId = false)
    .invalidLifecycleInput
  orThrow .workflowVersionNotFound
    (db.accessibleVersion actorUserId workflowVersionId)

def requireRole
    (role : OrganizationRole)
    (allowed : List OrganizationRole) :
    Except Failure Unit :=
  refuseIf (role ∉ allowed) .workflowLifecycleForbidden

/-- Neither a fraction nor a number below one is a revision. -/
def requireRevision (current : Nat) (expected : Rat) : Except Failure Unit := do
  refuseIf (expected.den ≠ 1 ∨ expected < 1) .invalidLifecycleInput
  refuseIf ((current : Rat) ≠ expected)
    (.workflowVersionRevisionConflict (some current))

def requireTransition
    (current next : WorkflowLifecycleStatus) :
    Except Failure Unit :=
  refuseIf (canTransitionWorkflowLifecycle current next = false)
    .invalidLifecycleTransition

/-- `requireTimestamp`: the time of a date that has one. -/
def requireTimestamp (timestamp : Option TimeValue) : Except Failure TimeValue :=
  orThrow .invalidLifecycleInput timestamp

variable (deps : Dependencies)

def analyzeReadiness
    (db : Database)
    (workspaceId : JsString)
    (definition : WorkflowDefinition) :
    Except Failure PublishReadinessReport := do
  let policy ←
    orThrow .persistedWorkflowInvalid (db.settings.activePolicy workspaceId)
  .ok (analyzePublishReadiness deps definition policy)

def requireReadiness
    (db : Database)
    (workspaceId : JsString)
    (definition : WorkflowDefinition) :
    Except Failure PublishReadinessReport := do
  let readiness ← analyzeReadiness deps db workspaceId definition
  refuseIf (readiness.ready = false) .workflowPublishReadinessBlocked
  .ok readiness

/-- `updateMany` of the version with an identifier, and its new state. -/
def updateVersion
    (db : Database)
    (applies : WorkflowVersion → Bool)
    (change : WorkflowVersion → WorkflowVersion) :
    Database :=
  { db with versions := updateMany applies change db.versions }

/-- `where: { id, status, revision }`. -/
def isExpected
    (id : JsString)
    (status : WorkflowLifecycleStatus)
    (revision : Rat)
    (version : WorkflowVersion) :
    Bool :=
  version.id = id ∧ version.status = status ∧
    (version.revision : Rat) = revision

def assertImmutableFields
    (current : WorkflowVersion)
    (definition : WorkflowDefinition) :
    Except Failure Unit := do
  refuseIf (js definition.workflowId.text ≠ current.workflowId)
    .workflowIdImmutable
  refuseIf (definition.version ≠ current.version) .workflowVersionImmutable
  refuseIf (workflowSchemaVersion ≠ current.schemaVersion)
    .workflowSchemaVersionImmutable
  refuseIf (definition.status ≠ .draft) .workflowStatusInvalid

/-- The workflow takes the name and the description of a definition. -/
def renameWorkflow
    (db : Database)
    (workflowId : JsString)
    (definition : WorkflowDefinition) :
    Database :=
  { db with
    workflows :=
      updateMany (fun workflow => workflow.id = workflowId)
        (fun workflow =>
          { workflow with
            name := definition.name
            description := definition.description })
        db.workflows }

structure UpdateDraft where
  actorUserId : JsString
  workflowVersionId : JsString
  expectedRevision : Rat
  definitionInput : JsValue
  now : TimeValue

def edited
    (definition : WorkflowDefinition)
    (version : WorkflowVersion) :
    WorkflowVersion :=
  { version with definition, revision := version.revision + 1 }

def updateDraft
    (input : UpdateDraft)
    (db : Database) :
    Except Failure (Database × Answer) := do
  let definition ←
    orThrow .workflowDefinitionInvalid
      (deps.parseDefinition input.definitionInput)
  refuseIf (0 < deps.validateEditorWorkflow input.definitionInput)
    .workflowDefinitionInvalid
  let current ←
    orThrow .workflowVersionNotFound
      (db.accessibleVersion input.actorUserId input.workflowVersionId)
  refuseIf (current.role ∉ editorRoles) .workflowDraftForbidden
  refuseIf (current.row.status ≠ .draft) .workflowVersionNotDraft
  let policy ←
    orThrow .workflowPolicyMissing
      (db.settings.activePolicy current.workspaceId)
  refuseIf ((analyzePublishReadiness deps definition policy).ready = false)
    .workflowPolicyBlocked
  assertImmutableFields current.row definition
  refuseIf ((current.row.revision : Rat) ≠ input.expectedRevision)
    (.workflowDraftRevisionConflict current.row.revision)
  let isUpdated :=
    isExpected input.workflowVersionId .draft input.expectedRevision
  refuseIf (db.versions.countP isUpdated ≠ 1)
    (.workflowDraftRevisionConflict current.row.revision)
  let db' :=
    renameWorkflow (updateVersion db isUpdated (edited definition))
      current.row.workflowId definition
  let detail ←
    orThrow .workflowVersionNotFound
      (db'.accessibleVersion input.actorUserId input.workflowVersionId)
  let audit ←
    appendAuditEvents deps db.audit
      [buildWorkflowDraftUpdatedInput deps.hasher detail.workspaceId
        input.actorUserId detail.row input.now]
  .ok
    ({ db' with audit },
      { workflowVersion := detail, readiness := none, idempotent := false })

structure Transition where
  actorUserId : JsString
  workflowVersionId : JsString
  expectedRevision : Rat
  now : TimeValue

def moved
    (status : WorkflowLifecycleStatus)
    (version : WorkflowVersion) :
    WorkflowVersion :=
  { version with status }

/-- What a transition writes, once it is checked, and the event that tells it. -/
def moveBetween
    (transition : TestingTransition)
    (before after : WorkflowLifecycleStatus)
    (readiness : Option PublishReadinessReport)
    (conflict : Failure)
    (input : Transition)
    (db : Database) :
    Except Failure (Database × Answer) := do
  let isMoved :=
    isExpected input.workflowVersionId before input.expectedRevision
  refuseIf (db.versions.countP isMoved ≠ 1) conflict
  let db' := updateVersion db isMoved (moved after)
  let finalVersion ←
    getAccessibleVersion db' input.actorUserId input.workflowVersionId
  let audit ←
    appendAuditEvents deps db.audit
      [buildWorkflowVersionTransitionInput deps.hasher transition
        finalVersion.workspaceId input.actorUserId finalVersion.row input.now]
  .ok
    ({ db' with audit },
      { workflowVersion := finalVersion, readiness, idempotent := false })

/-- `transitionWithReadiness`, from draft to testing. -/
def submitForTesting
    (input : Transition)
    (db : Database) :
    Except Failure (Database × Answer) := do
  let current ←
    getAccessibleVersion db input.actorUserId input.workflowVersionId
  requireRole current.role editorRoles
  requireRevision current.row.revision input.expectedRevision
  requireTransition current.row.status .testing
  let readiness ←
    requireReadiness deps db current.workspaceId current.row.definition
  moveBetween deps .submittedForTesting .draft .testing (some readiness)
    (.workflowVersionRevisionConflict none) input db

def returnToDraft
    (input : Transition)
    (db : Database) :
    Except Failure (Database × Answer) := do
  let current ←
    getAccessibleVersion db input.actorUserId input.workflowVersionId
  requireRole current.role editorRoles
  requireRevision current.row.revision input.expectedRevision
  requireTransition current.row.status .draft
  moveBetween deps .returnedToDraft .testing .draft none
    .invalidLifecycleTransition input db

structure Publish where
  actorUserId : JsString
  workflowVersionId : JsString
  expectedRevision : Rat
  occurredAt : Option TimeValue

def archived
    (actorUserId : JsString)
    (occurredAt : TimeValue)
    (version : WorkflowVersion) :
    WorkflowVersion :=
  { version with
    status := .archived
    archivedAt := some occurredAt
    archivedById := some actorUserId }

def published
    (actorUserId : JsString)
    (occurredAt : TimeValue)
    (publishedDefinition : WorkflowDefinition)
    (version : WorkflowVersion) :
    WorkflowVersion :=
  { version with
    status := .published
    definition := publishedDefinition
    publishedAt := some occurredAt
    publishedById := some actorUserId }

/-- `where: { workflowId, status: 'published', id: { not } }`. -/
def isReplacedBy
    (id workflowId : JsString)
    (version : WorkflowVersion) :
    Bool :=
  version.workflowId = workflowId ∧ version.status = .published ∧
    version.id ≠ id

/-- The version that a publication replaces, when it is only one. -/
def replacedVersionId (previousPublished : List WorkflowVersion) :
    Option JsString :=
  if previousPublished.length = 1 then
    previousPublished.head?.map WorkflowVersion.id
  else none

/-- `where: { id, status: 'published' }`. -/
def isPublishedVersion (id : JsString) (version : WorkflowVersion) : Bool :=
  version.id = id ∧ version.status = .published

/-- `lockWorkflow`: the workflow is there. -/
def lockWorkflow (db : Database) (workflowId : JsString) :
    Except Failure Unit :=
  refuseIf (db.findWorkflow workflowId = none) .workflowNotFound

def publish
    (input : Publish)
    (db : Database) :
    Except Failure (Database × Answer) := do
  let occurredAt ← requireTimestamp input.occurredAt
  let initial ←
    getAccessibleVersion db input.actorUserId input.workflowVersionId
  requireRole initial.role publisherRoles
  lockWorkflow db initial.row.workflowId
  let current ←
    getAccessibleVersion db input.actorUserId input.workflowVersionId
  requireRole current.role publisherRoles
  requireRevision current.row.revision input.expectedRevision
  if current.row.status = .published then
    let readiness ←
      analyzeReadiness deps db current.workspaceId current.row.definition
    .ok
      (db,
        { workflowVersion := current
          readiness := some readiness
          idempotent := true })
  else
    requireTransition current.row.status .published
    let readiness ←
      requireReadiness deps db current.workspaceId current.row.definition
    let publishedDefinition := withStatus current.row.definition .published
    let isReplaced :=
      isReplacedBy input.workflowVersionId current.row.workflowId
    let previousPublished := db.versions.filter isReplaced
    let replaced :=
      updateVersion db isReplaced (archived input.actorUserId occurredAt)
    let isPublished :=
      isExpected input.workflowVersionId .testing input.expectedRevision
    refuseIf (replaced.versions.countP isPublished ≠ 1)
      (.workflowVersionRevisionConflict none)
    let db' :=
      updateVersion replaced isPublished
        (published input.actorUserId occurredAt publishedDefinition)
    let finalVersion ←
      getAccessibleVersion db' input.actorUserId input.workflowVersionId
    let audit ←
      appendAuditEvents deps db.audit
        (previousPublished.map
            (buildWorkflowVersionArchivedInput deps.hasher current.workspaceId
              input.actorUserId .replacedByPublish occurredAt) ++
          [buildWorkflowVersionPublishedInput deps.hasher
            finalVersion.workspaceId input.actorUserId finalVersion.row
            (deps.createCanonicalJsonDigest publishedDefinition)
            (replacedVersionId previousPublished) occurredAt])
    .ok
      ({ db' with audit },
        { workflowVersion := finalVersion
          readiness := some readiness
          idempotent := false })

structure Archive where
  actorUserId : JsString
  workflowVersionId : JsString
  occurredAt : Option TimeValue

def archive
    (input : Archive)
    (db : Database) :
    Except Failure (Database × Answer) := do
  let occurredAt ← requireTimestamp input.occurredAt
  let current ←
    getAccessibleVersion db input.actorUserId input.workflowVersionId
  requireRole current.role publisherRoles
  lockWorkflow db current.row.workflowId
  let locked ←
    getAccessibleVersion db input.actorUserId input.workflowVersionId
  requireTransition locked.row.status .archived
  let isArchived := isPublishedVersion input.workflowVersionId
  refuseIf (db.versions.countP isArchived ≠ 1) .invalidLifecycleTransition
  let db' :=
    updateVersion db isArchived (archived input.actorUserId occurredAt)
  let finalVersion ←
    getAccessibleVersion db' input.actorUserId input.workflowVersionId
  let audit ←
    appendAuditEvents deps db.audit
      [buildWorkflowVersionArchivedInput deps.hasher finalVersion.workspaceId
        input.actorUserId .manual occurredAt finalVersion.row]
  .ok
    ({ db' with audit },
      { workflowVersion := finalVersion, readiness := none, idempotent := false })

/-- `createDraftVersionClone`; the failures are those its caller throws. -/
def createDraftVersionClone
    (sourceDefinition : WorkflowDefinition)
    (sourceStatus : WorkflowLifecycleStatus)
    (nextVersion : Nat)
    (createdAt : TimeValue) :
    Except Failure WorkflowDefinition :=
  if ¬(0 < nextVersion ∧ nextVersion ≤ maxSafeInteger) then
    .error .invalidLifecycleInput
  else if ¬(isDateTime createdAt.toISOString = true) then
    .error .invalidLifecycleInput
  else if sourceStatus ≠ .published ∧ sourceStatus ≠ .archived then
    .error .sourceVersionNotCloneable
  else if isNext : sourceDefinition.version < nextVersion then
    .ok
      { sourceDefinition with
        version := nextVersion
        versionPositive := Nat.zero_lt_of_lt isNext
        status := .draft }
  else
    .error .invalidLifecycleInput

structure CreateDraftVersion where
  actorUserId : JsString
  workflowId : JsString
  sourceVersionId : JsString
  clientCreationId : JsString
  createdAt : Option TimeValue
  /-- The identifier that the database draws. -/
  newId : JsString

/-- The version that is stored. -/
def CreateDraftVersion.row
    (input : CreateDraftVersion)
    (definition : WorkflowDefinition)
    (createdAt : TimeValue) :
    WorkflowVersion :=
  { id := input.newId
    workflowId := input.workflowId
    version := definition.version
    revision := 1
    status := .draft
    schemaVersion := workflowSchemaVersion
    definition
    createdFromVersionId := some input.sourceVersionId
    clientCreationId := some input.clientCreationId
    publishedAt := none
    publishedById := none
    archivedAt := none
    archivedById := none
    createdAt }

/-- `_max.version` of a workflow; zero for one without versions. -/
def highestVersion (db : Database) (workflowId : JsString) : Nat :=
  (db.versions.filter (·.workflowId = workflowId)).foldl
    (fun highest version => max highest version.version) 0

/-- `workflowId_clientCreationId`. -/
def Database.findCreated
    (db : Database)
    (workflowId clientCreationId : JsString) :
    Option WorkflowVersion :=
  db.versions.find? fun version =>
    version.workflowId = workflowId ∧
      version.clientCreationId = some clientCreationId

def createDraftVersion
    (input : CreateDraftVersion)
    (db : Database) :
    Except Failure (Database × Answer) := do
  refuseIf
    (isUuidPattern input.actorUserId = false ∨
      isUuidPattern input.sourceVersionId = false ∨
      isUuidPattern input.clientCreationId = false)
    .invalidLifecycleInput
  let createdAt ← requireTimestamp input.createdAt
  let workflow ←
    orThrow .workflowNotFound (db.findWorkflow input.workflowId)
  let role ←
    orThrow .workflowNotFound
      (db.settings.role workflow.workspaceId input.actorUserId)
  requireRole role editorRoles
  lockWorkflow db input.workflowId
  match db.findCreated input.workflowId input.clientCreationId with
  | some existing =>
      refuseIf (existing.createdFromVersionId ≠ some input.sourceVersionId)
        .workflowVersionCreationConflict
      let found ← getAccessibleVersion db input.actorUserId existing.id
      .ok
        (db, { workflowVersion := found, readiness := none, idempotent := true })
  | none =>
      let source ←
        orThrow .workflowVersionNotFound
          (db.versions.find? fun version =>
            version.id = input.sourceVersionId ∧
              version.workflowId = input.workflowId)
      refuseIf (source.status ≠ .published ∧ source.status ≠ .archived)
        .sourceVersionNotCloneable
      let definition ←
        createDraftVersionClone source.definition source.status
          (highestVersion db input.workflowId + 1) createdAt
      let created := input.row definition createdAt
      let versions ←
        orThrow .serializationFailure
          (createMany WorkflowVersion.id [created] db.versions)
      let db' := renameWorkflow { db with versions } input.workflowId definition
      let audit ←
        appendAuditEvents deps db.audit
          [buildWorkflowVersionCreatedInput deps.hasher workflow.workspaceId
            input.actorUserId created input.sourceVersionId
            input.clientCreationId createdAt]
      let found ← getAccessibleVersion db' input.actorUserId created.id
      .ok
        ({ db' with audit },
          { workflowVersion := found, readiness := none, idempotent := false })

inductive Call where
  | updateDraft (input : UpdateDraft)
  | submitForTesting (input : Transition)
  | returnToDraft (input : Transition)
  | publish (input : Publish)
  | archive (input : Archive)
  | createDraftVersion (input : CreateDraftVersion)

def Call.transaction : Call → Database → Except Failure (Database × Answer)
  | .updateDraft input => Lifecycle.updateDraft deps input
  | .submitForTesting input => Lifecycle.submitForTesting deps input
  | .returnToDraft input => Lifecycle.returnToDraft deps input
  | .publish input => Lifecycle.publish deps input
  | .archive input => Lifecycle.archive deps input
  | .createDraftVersion input => Lifecycle.createDraftVersion deps input

/-- A call, or a change of the members and the policies by other code. -/
inductive Event where
  | call (call : Call)
  | configure (settings : Settings)

def perform (db : Database) : Event → Database
  | .call call => (transact (call.transaction deps) db).1
  | .configure settings => { db with settings }

def performAll (db : Database) (events : List Event) : Database :=
  events.foldl (perform deps) db

end TaskTwin.Lifecycle
