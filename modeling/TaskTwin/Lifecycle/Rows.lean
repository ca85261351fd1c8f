import TaskTwin.Audit.Appender
import TaskTwin.Audit.EventInput
import TaskTwin.Policy.Definition
import TaskTwin.Store.Table
import TaskTwin.Store.Transaction

/-!
# The versions of workflows

A workflow has versions, and a version has a stored definition.  Drafts are
edited; the other statuses are reached by transitions.  Members of the
organization that owns the workspace of a workflow act on its versions.
-/

namespace TaskTwin.Lifecycle

open Text Schema Store Audit TaskTwin.Workflow
open TaskTwin.Policy (WorkspaceExecutionPolicyDefinition)

/-- `VALID_TRANSITIONS`. -/
def canTransitionWorkflowLifecycle :
    WorkflowLifecycleStatus → WorkflowLifecycleStatus → Bool
  | .draft, .testing => true
  | .testing, .draft => true
  | .testing, .published => true
  | .published, .archived => true
  | _, _ => false

/-- `WORKFLOW_SCHEMA_VERSION`, the literal of every definition. -/
def workflowSchemaVersion : Nat := 1

/-- A definition without its status. -/
structure WorkflowContent where
  workflowId : NonEmptyString
  version : Nat
  name : NonEmptyString
  description : Option NonEmptyString
  workflowVariables : List WorkflowVariable
  steps : List WorkflowStep

def content (definition : WorkflowDefinition) : WorkflowContent :=
  { workflowId := definition.workflowId
    version := definition.version
    name := definition.name
    description := definition.description
    workflowVariables := definition.workflowVariables
    steps := definition.steps }

/-- `{ ...definition, status }`. -/
def withStatus
    (definition : WorkflowDefinition)
    (status : WorkflowLifecycleStatus) :
    WorkflowDefinition :=
  { definition with status }

@[simp] theorem withStatus_content
    (definition : WorkflowDefinition)
    (status : WorkflowLifecycleStatus) :
    content (withStatus definition status) = content definition :=
  rfl

inductive OrganizationRole where
  | owner
  | admin
  | member
  | viewer
  deriving DecidableEq, Repr

/-- `EDITOR_ROLES`, and `WRITER_ROLES` of the drafts. -/
def editorRoles : List OrganizationRole := [.owner, .admin, .member]

def publisherRoles : List OrganizationRole := [.owner, .admin]

structure Workspace where
  id : JsString
  organizationId : JsString
  deriving DecidableEq

structure OrganizationMember where
  organizationId : JsString
  userId : JsString
  role : OrganizationRole
  deriving DecidableEq

structure Workflow where
  id : JsString
  workspaceId : JsString
  name : NonEmptyString
  description : Option NonEmptyString
  deriving DecidableEq

structure WorkflowVersion where
  id : JsString
  workflowId : JsString
  version : Nat
  revision : Nat
  status : WorkflowLifecycleStatus
  schemaVersion : Nat
  definition : WorkflowDefinition
  createdFromVersionId : Option JsString
  clientCreationId : Option JsString
  publishedAt : Option TimeValue
  publishedById : Option JsString
  archivedAt : Option TimeValue
  archivedById : Option JsString
  createdAt : TimeValue

/-- Who may act, and under which policies; other parts of the program set it. -/
structure Settings where
  workspaces : List Workspace
  members : List OrganizationMember
  /-- The parsed definition of the active policy version of a workspace. -/
  activePolicy : JsString → Option WorkspaceExecutionPolicyDefinition

structure Database where
  settings : Settings
  workflows : List Workflow
  versions : List WorkflowVersion
  audit : AuditStore

def Database.findWorkflow (db : Database) (workflowId : JsString) :
    Option Workflow :=
  findUnique Workflow.id workflowId db.workflows

def Database.findVersion (db : Database) (workflowVersionId : JsString) :
    Option WorkflowVersion :=
  findUnique WorkflowVersion.id workflowVersionId db.versions

/-- The role of a user in the organization of a workspace. -/
def Settings.role
    (settings : Settings)
    (workspaceId actorUserId : JsString) :
    Option OrganizationRole :=
  (findUnique Workspace.id workspaceId settings.workspaces).bind
    fun workspace =>
      (settings.members.find? fun member =>
        member.organizationId = workspace.organizationId ∧
          member.userId = actorUserId).map OrganizationMember.role

/-- `WorkflowVersionDetailRecord`: a version, and who reads it. -/
structure WorkflowVersionDetailRecord where
  row : WorkflowVersion
  workspaceId : JsString
  role : OrganizationRole

/-- The version of a workflow that a user is a member for. -/
def Database.accessibleVersion
    (db : Database)
    (actorUserId workflowVersionId : JsString) :
    Option WorkflowVersionDetailRecord := do
  let row ← db.findVersion workflowVersionId
  let workflow ← db.findWorkflow row.workflowId
  let role ← db.settings.role workflow.workspaceId actorUserId
  some { row, workspaceId := workflow.workspaceId, role }

/-- The codes of both repositories, and what an append to the trail throws. -/
inductive Failure where
  | invalidLifecycleInput
  | workflowNotFound
  | workflowVersionNotFound
  | workflowLifecycleForbidden
  | invalidLifecycleTransition
  | workflowPublishReadinessBlocked
  | workflowVersionRevisionConflict (currentRevision : Option Nat)
  | workflowVersionCreationConflict
  | sourceVersionNotCloneable
  | persistedWorkflowInvalid
  | serializationFailure
  | workflowDefinitionInvalid
  | workflowDraftForbidden
  | workflowVersionNotDraft
  | workflowPolicyMissing
  | workflowPolicyBlocked
  | workflowIdImmutable
  | workflowVersionImmutable
  | workflowSchemaVersionImmutable
  | workflowStatusInvalid
  | workflowDraftRevisionConflict (currentRevision : Nat)
  | audit (error : AuditError)
  deriving DecidableEq

structure PublishReadinessReport where
  ready : Bool
  deriving DecidableEq

structure Dependencies where
  parseOther : JsString → Option TimeValue
  hasher : AuditHasher
  newRow : AuditStore → NewRow
  /-- `WorkflowDefinitionSchema.safeParse`. -/
  parseDefinition : JsValue → Option WorkflowDefinition
  /-- The number of the issues that `validateEditorWorkflow` reports. -/
  validateEditorWorkflow : JsValue → Nat
  /-- The analyses behind it read every property but the status. -/
  analyzeContent :
    WorkflowContent →
    WorkspaceExecutionPolicyDefinition →
    PublishReadinessReport
  createCanonicalJsonDigest : WorkflowDefinition → JsString

def analyzePublishReadiness
    (deps : Dependencies)
    (definition : WorkflowDefinition)
    (policy : WorkspaceExecutionPolicyDefinition) :
    PublishReadinessReport :=
  deps.analyzeContent (content definition) policy

/-- `appendAuditEventTransactional`: an event that is refused throws. -/
def appendAuditEventTransactional
    (deps : Dependencies)
    (audit : AuditStore)
    (input : AuditEventInput) :
    Except Failure AuditStore :=
  match appendAuditEvent deps.parseOther deps.hasher audit
      { row := deps.newRow audit, input := input.toJs } with
  | (audit', .ok _) => .ok audit'
  | (_, .error error) => .error (.audit error)

/-- Appending one event after the other. -/
def appendAuditEvents
    (deps : Dependencies)
    (audit : AuditStore)
    (inputs : List AuditEventInput) :
    Except Failure AuditStore :=
  inputs.foldlM (appendAuditEventTransactional deps) audit

end TaskTwin.Lifecycle

namespace TaskTwin.Lifecycle

open Text Schema Audit TaskTwin.Workflow

/-- The two transitions that `buildWorkflowVersionTransitionInput` is for. -/
inductive TestingTransition where
  | submittedForTesting
  | returnedToDraft
  deriving DecidableEq, Repr

def TestingTransition.eventType : TestingTransition → AuditEventType
  | .submittedForTesting => .workflowVersionSubmittedForTesting
  | .returnedToDraft => .workflowVersionReturnedToDraft

inductive ArchiveReason where
  | manual
  | replacedByPublish
  deriving DecidableEq, Repr

def ArchiveReason.text : ArchiveReason → String
  | .manual => "manual"
  | .replacedByPublish => "replaced_by_publish"

variable (hasher : AuditHasher)

def buildTransitionSourceId
    (transition : TestingTransition)
    (workflowVersionId : JsString)
    (revision : Nat) :
    Option JsString :=
  createAuditSourceId hasher "workflow_version_transition"
    [.text (js transition.eventType.text), .text workflowVersionId,
      .number revision]

def buildDraftCreatedSourceId
    (workflowVersionId : JsString)
    (version : Nat)
    (clientCreationId : JsString) :
    Option JsString :=
  createAuditSourceId hasher "workflow_version_created"
    [.text workflowVersionId, .number version, .text clientCreationId]

def buildPublishedSourceId
    (workflowVersionId : JsString)
    (revision : Nat) :
    Option JsString :=
  createAuditSourceId hasher "workflow_version_published"
    [.text workflowVersionId, .number revision]

def buildArchivedSourceId
    (workflowVersionId : JsString)
    (revision : Nat)
    (reason : ArchiveReason) :
    Option JsString :=
  createAuditSourceId hasher "workflow_version_archived"
    [.text workflowVersionId, .number revision, .text (js reason.text)]

def buildDraftUpdatedSourceId
    (workflowVersionId : JsString)
    (revision : Nat) :
    Option JsString :=
  createAuditSourceId hasher "workflow_draft_updated"
    [.text workflowVersionId, .number revision]

def versionEntity (id : JsString) : AuditEntityRef :=
  { kind := js "workflow_version", id }

def workflowEntity (id : JsString) : AuditEntityRef :=
  { kind := js "workflow", id }

/-- The properties that every payload of a version begins with. -/
def versionPayload (version : WorkflowVersion) : List (JsString × JsValue) :=
  [(js "workflowId", .string version.workflowId),
    (js "workflowVersionId", .string version.id),
    (js "version", wholeNumberValue version.version),
    (js "revision", wholeNumberValue version.revision)]

def buildWorkflowVersionTransitionInput
    (transition : TestingTransition)
    (workspaceId actorUserId : JsString)
    (version : WorkflowVersion)
    (occurredAt : TimeValue) :
    AuditEventInput :=
  { workspaceId
    eventType := transition.eventType
    actor := .user actorUserId
    primaryEntity := versionEntity version.id
    relatedEntities := [workflowEntity version.workflowId]
    occurredAt := some occurredAt
    sourceId :=
      buildTransitionSourceId hasher transition version.id version.revision
    payload := versionPayload version }

def buildWorkflowVersionCreatedInput
    (workspaceId actorUserId : JsString)
    (version : WorkflowVersion)
    (sourceVersionId clientCreationId : JsString)
    (occurredAt : TimeValue) :
    AuditEventInput :=
  { workspaceId
    eventType := .workflowVersionCreated
    actor := .user actorUserId
    primaryEntity := versionEntity version.id
    relatedEntities := [workflowEntity version.workflowId]
    occurredAt := some occurredAt
    sourceId :=
      buildDraftCreatedSourceId hasher version.id version.version
        clientCreationId
    payload :=
      versionPayload version ++
        [(js "sourceVersionId", .string sourceVersionId),
          (js "schemaVersion", wholeNumberValue version.schemaVersion)] }

def buildWorkflowVersionPublishedInput
    (workspaceId actorUserId : JsString)
    (version : WorkflowVersion)
    (workflowDigest : JsString)
    (replacedVersionId : Option JsString)
    (occurredAt : TimeValue) :
    AuditEventInput :=
  { workspaceId
    eventType := .workflowVersionPublished
    actor := .user actorUserId
    primaryEntity := versionEntity version.id
    relatedEntities :=
      workflowEntity version.workflowId ::
        replacedVersionId.toList.map versionEntity
    occurredAt := some occurredAt
    sourceId := buildPublishedSourceId hasher version.id version.revision
    payload :=
      versionPayload version ++
        (js "workflowDigest", .string workflowDigest) ::
          replacedVersionId.toList.map fun id =>
            (js "replacedVersionId", .string id) }

def buildWorkflowVersionArchivedInput
    (workspaceId actorUserId : JsString)
    (reason : ArchiveReason)
    (occurredAt : TimeValue)
    (version : WorkflowVersion) :
    AuditEventInput :=
  { workspaceId
    eventType := .workflowVersionArchived
    actor := .user actorUserId
    primaryEntity := versionEntity version.id
    relatedEntities := [workflowEntity version.workflowId]
    occurredAt := some occurredAt
    sourceId :=
      buildArchivedSourceId hasher version.id version.revision reason
    payload :=
      versionPayload version ++
        [(js "reason", .string (js reason.text))] }

/-- `buildWorkflowDraftUpdatedInput`; a stored definition parses. -/
def buildWorkflowDraftUpdatedInput
    (workspaceId actorUserId : JsString)
    (version : WorkflowVersion)
    (occurredAt : TimeValue) :
    AuditEventInput :=
  { workspaceId
    eventType := .workflowDraftUpdated
    actor := .user actorUserId
    primaryEntity := versionEntity version.id
    relatedEntities := [workflowEntity version.workflowId]
    occurredAt := some occurredAt
    sourceId := buildDraftUpdatedSourceId hasher version.id version.revision
    payload :=
      versionPayload version ++
        [(js "stepCount",
          wholeNumberValue version.definition.steps.length)] }

end TaskTwin.Lifecycle
