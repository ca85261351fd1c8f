import TaskTwin.Audit.PayloadSchemas

/-!
# The contracts of operational alerts

What a trusted caller has to say of an alert, and what is derived from its
type.  Issues are not listed: an input with an issue is refused as a
whole.
-/

namespace TaskTwin.Alert

open Text Schema
open TaskTwin.Audit (stableId)

inductive OperationalAlertType where
  | approvalRequired
  | repairRequired
  | runFailed
  | runTimedOut
  | runInterrupted
  | scheduleAutoPaused
  | auditIntegrityFailed
  | runnerRolloutRequiresReview
  deriving DecidableEq, Repr

inductive OperationalAlertSeverity where
  | info
  | warning
  | error
  | critical
  deriving DecidableEq, Repr

inductive OperationalAlertStatus where
  | active
  | resolved
  | informational
  deriving DecidableEq, Repr

inductive OperationalAlertSourceType where
  | approvalRequest
  | repairRequest
  | workflowRun
  | workflowSchedule
  | workflowScheduleOccurrence
  | auditVerificationFailure
  | runnerReleaseRollout
  | runnerReleaseRolloutAssignment
  deriving DecidableEq, Repr

namespace OperationalAlertType

def text : OperationalAlertType → String
  | .approvalRequired => "approval_required"
  | .repairRequired => "repair_required"
  | .runFailed => "run_failed"
  | .runTimedOut => "run_timed_out"
  | .runInterrupted => "run_interrupted"
  | .scheduleAutoPaused => "schedule_auto_paused"
  | .auditIntegrityFailed => "audit_integrity_failed"
  | .runnerRolloutRequiresReview => "runner_rollout_requires_review"

/-- `OPERATIONAL_ALERT_TYPES`. -/
def all : List OperationalAlertType :=
  [.approvalRequired, .repairRequired, .runFailed, .runTimedOut,
    .runInterrupted, .scheduleAutoPaused, .auditIntegrityFailed,
    .runnerRolloutRequiresReview]

def parse (value : JsString) : Option OperationalAlertType :=
  all.find? fun type => js type.text == value

end OperationalAlertType

def OperationalAlertSeverity.text : OperationalAlertSeverity → String
  | .info => "info"
  | .warning => "warning"
  | .error => "error"
  | .critical => "critical"

namespace OperationalAlertSourceType

def text : OperationalAlertSourceType → String
  | .approvalRequest => "approval_request"
  | .repairRequest => "repair_request"
  | .workflowRun => "workflow_run"
  | .workflowSchedule => "workflow_schedule"
  | .workflowScheduleOccurrence => "workflow_schedule_occurrence"
  | .auditVerificationFailure => "audit_verification_failure"
  | .runnerReleaseRollout => "runner_release_rollout"
  | .runnerReleaseRolloutAssignment => "runner_release_rollout_assignment"

/-- `OPERATIONAL_ALERT_SOURCE_TYPES`. -/
def all : List OperationalAlertSourceType :=
  [.approvalRequest, .repairRequest, .workflowRun, .workflowSchedule,
    .workflowScheduleOccurrence, .auditVerificationFailure,
    .runnerReleaseRollout, .runnerReleaseRolloutAssignment]

def parse (value : JsString) : Option OperationalAlertSourceType :=
  all.find? fun type => js type.text == value

end OperationalAlertSourceType

/-- `OPERATIONAL_ALERT_ENTITY_TYPES`. -/
def operationalAlertEntityTypes : List String :=
  OperationalAlertSourceType.all.map OperationalAlertSourceType.text ++
    ["workflow_version", "workspace_audit_chain"]

/-- `z.literal(1)`. -/
def schemaVersion : ValueSchema
  | .number value =>
      if wholeNumber value = some 1 then some (.number value) else none
  | _ => none

/-- `SafeTimestampSchema`. -/
def safeTimestamp : ValueSchema := stringWhere isDateTime

/-- `OperationalAlertEntityRefSchema`. -/
def operationalAlertEntityRef : ValueSchema :=
  strictObject
    [required "type" (oneOf operationalAlertEntityTypes),
      required "id" stableId]

/-- `OperationalAlertSourceBindingSchema`. -/
def operationalAlertSourceBinding : ValueSchema :=
  strictObject
    [required "type"
        (oneOf
          (OperationalAlertSourceType.all.map OperationalAlertSourceType.text)),
      required "id" stableId]

/-- `z.array(schema).max(maximum).default([])`. -/
def arrayOrEmpty (maximum : Nat) (schema : ValueSchema) : ValueSchema
  | .undefined => some (.array [])
  | .array items =>
      if items.length ≤ maximum then (items.mapM schema).map .array else none
  | _ => none

/-- `z.discriminatedUnion(key, variants)`, of strict objects. -/
def discriminatedUnion
    (key : String)
    (variants : List (String × List Field)) :
    ValueSchema
  | .object fields =>
      match JsValue.get fields (js key) with
      | .string tag =>
          (variants.find? fun variant => js variant.1 == tag).bind
            fun variant =>
              strictObject (required key (oneOf [variant.1]) :: variant.2)
                (.object fields)
      | _ => none
  | _ => none

/-- `WorkspaceActionBaseSchema.extend`. -/
def workspaceAction (own : List Field) : List Field :=
  [required "schemaVersion" schemaVersion, required "workspaceId" uuid] ++ own

/-- `OperationalAlertActionTargetSchema`. -/
def operationalAlertActionTarget : ValueSchema :=
  discriminatedUnion "kind"
    [("approval", workspaceAction [required "approvalRequestId" uuid]),
      ("repair", workspaceAction [required "repairRequestId" uuid]),
      ("run", workspaceAction [required "workflowRunId" uuid]),
      ("schedule", workspaceAction [required "workflowScheduleId" uuid]),
      ("audit", workspaceAction []),
      ("runner_rollout", workspaceAction [required "rolloutId" uuid])]

/-- `TemplateBaseSchema.extend`. -/
def template (own : List Field) : List Field :=
  required "schemaVersion" schemaVersion :: own

/-- `OperationalAlertTemplateSchema`. -/
def operationalAlertTemplate : ValueSchema :=
  discriminatedUnion "templateKey"
    [("approval_required.v1",
        template
          [required "approvalRequestId" uuid,
            required "workflowRunId" uuid,
            required "riskLevel" (oneOf ["low", "medium", "high", "critical"]),
            required "expiresAt" safeTimestamp]),
      ("repair_required.v1",
        template
          [required "repairRequestId" uuid,
            required "workflowRunId" uuid,
            required "stepType"
              (oneOf
                ["navigate", "click", "fill", "select", "setChecked", "wait",
                  "extract", "verify", "approval"]),
            required "attemptNumber" (integer 1 3),
            required "expiresAt" safeTimestamp]),
      ("run_failed.v1",
        template
          [required "workflowRunId" uuid, required "failedAt" safeTimestamp]),
      ("run_timed_out.v1",
        template
          [required "workflowRunId" uuid,
            required "timedOutAt" safeTimestamp]),
      ("run_interrupted.v1",
        template
          [required "workflowRunId" uuid,
            required "interruptedAt" safeTimestamp]),
      ("schedule_auto_paused.v1",
        template
          [required "workflowScheduleId" uuid,
            required "reason"
              (oneOf
                ["policy_review_required", "source_version_unavailable",
                  "ambiguous_outcome", "secret_readiness_failed",
                  "runner_update_required"]),
            required "autoPausedAt" safeTimestamp,
            optional "occurrenceId" uuid]),
      ("audit_integrity_failed.v1",
        template
          [required "failureKind"
              (oneOf
                ["SEQUENCE_GAP", "PREVIOUS_HASH_MISMATCH",
                  "PAYLOAD_DIGEST_MISMATCH", "EVENT_HASH_MISMATCH",
                  "HEAD_HASH_MISMATCH"]),
            required "failureSequence" (integer 1 maxSafeInteger),
            required "verifiedAt" safeTimestamp]),
      ("runner_rollout_requires_review.v1",
        template
          [required "rolloutId" uuid,
            required "reason"
              (oneOf ["assignment_rolled_back", "target_release_blocked"]),
            required "observedAt" safeTimestamp])]

/-- The object of `TrustedOperationalAlertInputSchema`. -/
def trustedOperationalAlertInput : ValueSchema :=
  strictObject
    [required "schemaVersion" schemaVersion,
      required "workspaceId" uuid,
      required "type"
        (oneOf (OperationalAlertType.all.map OperationalAlertType.text)),
      required "source" operationalAlertSourceBinding,
      required "primaryEntity" operationalAlertEntityRef,
      required "relatedEntities" (arrayOrEmpty 8 operationalAlertEntityRef),
      required "template" operationalAlertTemplate,
      required "actionTarget" operationalAlertActionTarget,
      optional "creatorUserId" uuid]

/-- The text that is found along a path of properties. -/
def textAt : List String → JsValue → Option JsString
  | [], .string text => some text
  | name :: path, .object fields => textAt path (JsValue.get fields (js name))
  | _, _ => none

/-- The source type, the template and the action that a type has. -/
def OperationalAlertType.expected :
    OperationalAlertType → OperationalAlertSourceType × String × String
  | .approvalRequired => (.approvalRequest, "approval_required.v1", "approval")
  | .repairRequired => (.repairRequest, "repair_required.v1", "repair")
  | .runFailed => (.workflowRun, "run_failed.v1", "run")
  | .runTimedOut => (.workflowRun, "run_timed_out.v1", "run")
  | .runInterrupted => (.workflowRun, "run_interrupted.v1", "run")
  | .scheduleAutoPaused =>
      (.workflowSchedule, "schedule_auto_paused.v1", "schedule")
  | .auditIntegrityFailed =>
      (.auditVerificationFailure, "audit_integrity_failed.v1", "audit")
  | .runnerRolloutRequiresReview =>
      (.runnerReleaseRollout, "runner_rollout_requires_review.v1",
        "runner_rollout")

def sourceTypeMatches
    (type : OperationalAlertType)
    (sourceType : OperationalAlertSourceType) :
    Bool :=
  sourceType = type.expected.1 ||
    (type = .scheduleAutoPaused && sourceType = .workflowScheduleOccurrence) ||
    (type = .runnerRolloutRequiresReview &&
      sourceType = .runnerReleaseRolloutAssignment)

/-- The request that the source, the template and the action are about. -/
def requestIdentitiesMatch
    (idName entityType : String)
    (input : JsValue) :
    Bool :=
  let sourceId := textAt ["source", "id"] input
  sourceId = textAt ["template", idName] input &&
    sourceId = textAt ["actionTarget", idName] input &&
    textAt ["primaryEntity", "type"] input = some (js entityType) &&
    textAt ["primaryEntity", "id"] input = sourceId

def scheduleIdentitiesMatch (input : JsValue) : Bool :=
  let sourceType := textAt ["source", "type"] input
  let sourceId := textAt ["source", "id"] input
  let scheduleId := textAt ["template", "workflowScheduleId"] input
  let occurrenceId := textAt ["template", "occurrenceId"] input
  ((sourceType = some (js "workflow_schedule") && sourceId = scheduleId) ||
      (sourceType = some (js "workflow_schedule_occurrence") &&
        occurrenceId.isSome && sourceId = occurrenceId)) &&
    scheduleId = textAt ["actionTarget", "workflowScheduleId"] input &&
    textAt ["primaryEntity", "type"] input = some (js "workflow_schedule") &&
    textAt ["primaryEntity", "id"] input = scheduleId

def rolloutIdentitiesMatch (input : JsValue) : Bool :=
  let rolloutId := textAt ["template", "rolloutId"] input
  rolloutId = textAt ["actionTarget", "rolloutId"] input &&
    textAt ["primaryEntity", "type"] input =
      some (js "runner_release_rollout") &&
    textAt ["primaryEntity", "id"] input = rolloutId

/--
The switch of `superRefine`.  Where it asks for the template and the action
of the type again, the comparisons before it have asked for them.
-/
def identitiesMatch (type : OperationalAlertType) (input : JsValue) : Bool :=
  match type with
  | .approvalRequired =>
      requestIdentitiesMatch "approvalRequestId" "approval_request" input
  | .repairRequired =>
      requestIdentitiesMatch "repairRequestId" "repair_request" input
  | .runFailed | .runTimedOut | .runInterrupted =>
      requestIdentitiesMatch "workflowRunId" "workflow_run" input
  | .scheduleAutoPaused => scheduleIdentitiesMatch input
  | .auditIntegrityFailed =>
      textAt ["primaryEntity", "type"] input =
          some (js "workspace_audit_chain") &&
        textAt ["primaryEntity", "id"] input = textAt ["workspaceId"] input
  | .runnerRolloutRequiresReview => rolloutIdentitiesMatch input

/-- `superRefine` adds no issue. -/
def isConsistent
    (type : OperationalAlertType)
    (sourceType : OperationalAlertSourceType)
    (input : JsValue) :
    Bool :=
  sourceTypeMatches type sourceType &&
    textAt ["template", "templateKey"] input = some (js type.expected.2.1) &&
    textAt ["actionTarget", "kind"] input = some (js type.expected.2.2) &&
    textAt ["actionTarget", "workspaceId"] input =
      textAt ["workspaceId"] input &&
    identitiesMatch type input

/-- An input that has parsed, and the parts of it that are read on their own. -/
structure TrustedOperationalAlertInput where
  workspaceId : JsString
  type : OperationalAlertType
  sourceType : OperationalAlertSourceType
  sourceId : JsString
  creatorUserId : Option JsString
  value : JsValue

/-- `parseTrustedOperationalAlertInput`; `none` when it throws. -/
def parseTrustedOperationalAlertInput
    (input : JsValue) :
    Option TrustedOperationalAlertInput := do
  let value ← trustedOperationalAlertInput input
  let workspaceId ← textAt ["workspaceId"] value
  let type ← (textAt ["type"] value).bind OperationalAlertType.parse
  let sourceType ←
    (textAt ["source", "type"] value).bind OperationalAlertSourceType.parse
  let sourceId ← textAt ["source", "id"] value
  if isConsistent type sourceType value then
    some
      { workspaceId, type, sourceType, sourceId
        creatorUserId := textAt ["creatorUserId"] value
        value }
  else
    none

/-- `INFORMATIONAL_TYPES`. -/
def informationalTypes : List OperationalAlertType :=
  [.runFailed, .runTimedOut, .runInterrupted]

def deriveOperationalAlertSeverity :
    OperationalAlertType → OperationalAlertSeverity
  | .approvalRequired => .warning
  | .repairRequired => .warning
  | .runFailed => .error
  | .runTimedOut => .error
  | .runInterrupted => .critical
  | .scheduleAutoPaused => .error
  | .auditIntegrityFailed => .critical
  | .runnerRolloutRequiresReview => .error

def deriveInitialOperationalAlertStatus
    (type : OperationalAlertType) :
    OperationalAlertStatus :=
  if type ∈ informationalTypes then .informational else .active

end TaskTwin.Alert
