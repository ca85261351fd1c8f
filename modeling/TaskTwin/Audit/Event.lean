import TaskTwin.Schema.Unknown

/-!
# Audit events

Who acted on which entity, and what kind of event it was.  Rows that are read
back carry these values as plain strings.
-/

namespace TaskTwin.Audit

open Text Schema

inductive AuditEventType where
  | workflowCreated
  | workflowVersionCreated
  | workflowDraftUpdated
  | workflowVersionSubmittedForTesting
  | workflowVersionReturnedToDraft
  | workflowVersionPublished
  | workflowVersionArchived
  | policyVersionArchived
  | policyVersionActivated
  | workflowRunCreated
  | workflowRunClaimed
  | workflowRunStarted
  | workflowRunWaitingForApproval
  | workflowRunWaitingForRepair
  | workflowRunCancelRequested
  | workflowRunSucceeded
  | workflowRunFailed
  | workflowRunCancelled
  | workflowRunTimedOut
  | workflowRunInterrupted
  | executionAttemptStarted
  | executionAttemptTerminal
  | executionVerificationCompleted
  | executionOutputProduced
  | approvalRequested
  | approvalDecided
  | approvalLifecycle
  | repairRequested
  | repairDecided
  | repairLifecycle
  | locatorRepairProposalCreated
  | locatorRepairCandidateTested
  | locatorRepairAppliedToDraft
  | locatorRepairDismissed
  | scheduleCreated
  | schedulePaused
  | scheduleResumed
  | scheduleCompleted
  | scheduleArchived
  | scheduleAutoPaused
  | scheduleOccurrenceDispatched
  | scheduleOccurrenceSkipped
  | scheduleOccurrenceStartWindowExpired
  | scheduleOccurrenceSucceeded
  | notificationAlertCreated
  | notificationAlertResolved
  | notificationDeliveryDeadLettered
  | runnerSecretInventoryUpdated
  | runnerSoftwareVersionChanged
  | runnerRuntimeModeChanged
  | runnerSecretProtectorChanged
  | runnerRolloutCreated
  | runnerRolloutActivated
  | runnerRolloutPaused
  | runnerRolloutCancelled
  | runnerRolloutStageActivated
  | runnerRolloutAssignmentConverged
  | runnerRolloutAssignmentRolledBack
  deriving DecidableEq, Repr

namespace AuditEventType

def text : AuditEventType → String
  | .workflowCreated => "workflow.created"
  | .workflowVersionCreated => "workflow_version.created"
  | .workflowDraftUpdated => "workflow_draft.updated"
  | .workflowVersionSubmittedForTesting =>
      "workflow_version.submitted_for_testing"
  | .workflowVersionReturnedToDraft => "workflow_version.returned_to_draft"
  | .workflowVersionPublished => "workflow_version.published"
  | .workflowVersionArchived => "workflow_version.archived"
  | .policyVersionArchived => "policy_version.archived"
  | .policyVersionActivated => "policy_version.activated"
  | .workflowRunCreated => "workflow_run.created"
  | .workflowRunClaimed => "workflow_run.claimed"
  | .workflowRunStarted => "workflow_run.started"
  | .workflowRunWaitingForApproval => "workflow_run.waiting_for_approval"
  | .workflowRunWaitingForRepair => "workflow_run.waiting_for_repair"
  | .workflowRunCancelRequested => "workflow_run.cancel_requested"
  | .workflowRunSucceeded => "workflow_run.succeeded"
  | .workflowRunFailed => "workflow_run.failed"
  | .workflowRunCancelled => "workflow_run.cancelled"
  | .workflowRunTimedOut => "workflow_run.timed_out"
  | .workflowRunInterrupted => "workflow_run.interrupted"
  | .executionAttemptStarted => "execution.attempt_started"
  | .executionAttemptTerminal => "execution.attempt_terminal"
  | .executionVerificationCompleted => "execution.verification_completed"
  | .executionOutputProduced => "execution.output_produced"
  | .approvalRequested => "approval.requested"
  | .approvalDecided => "approval.decided"
  | .approvalLifecycle => "approval.lifecycle"
  | .repairRequested => "repair.requested"
  | .repairDecided => "repair.decided"
  | .repairLifecycle => "repair.lifecycle"
  | .locatorRepairProposalCreated => "locator_repair.proposal_created"
  | .locatorRepairCandidateTested => "locator_repair.candidate_tested"
  | .locatorRepairAppliedToDraft => "locator_repair.applied_to_draft"
  | .locatorRepairDismissed => "locator_repair.dismissed"
  | .scheduleCreated => "schedule.created"
  | .schedulePaused => "schedule.paused"
  | .scheduleResumed => "schedule.resumed"
  | .scheduleCompleted => "schedule.completed"
  | .scheduleArchived => "schedule.archived"
  | .scheduleAutoPaused => "schedule.auto_paused"
  | .scheduleOccurrenceDispatched => "schedule.occurrence.dispatched"
  | .scheduleOccurrenceSkipped => "schedule.occurrence.skipped"
  | .scheduleOccurrenceStartWindowExpired =>
      "schedule.occurrence.start_window_expired"
  | .scheduleOccurrenceSucceeded => "schedule.occurrence.succeeded"
  | .notificationAlertCreated => "notification.alert.created"
  | .notificationAlertResolved => "notification.alert.resolved"
  | .notificationDeliveryDeadLettered => "notification.delivery.dead_lettered"
  | .runnerSecretInventoryUpdated => "runner.secret_inventory.updated"
  | .runnerSoftwareVersionChanged => "runner.software_version.changed"
  | .runnerRuntimeModeChanged => "runner.runtime_mode.changed"
  | .runnerSecretProtectorChanged => "runner.secret_protector.changed"
  | .runnerRolloutCreated => "runner.rollout.created"
  | .runnerRolloutActivated => "runner.rollout.activated"
  | .runnerRolloutPaused => "runner.rollout.paused"
  | .runnerRolloutCancelled => "runner.rollout.cancelled"
  | .runnerRolloutStageActivated => "runner.rollout.stage.activated"
  | .runnerRolloutAssignmentConverged => "runner.rollout.assignment.converged"
  | .runnerRolloutAssignmentRolledBack =>
      "runner.rollout.assignment.rolled_back"

/-- `AUDIT_EVENT_TYPES`. -/
def all : List AuditEventType :=
  [.workflowCreated, .workflowVersionCreated, .workflowDraftUpdated,
    .workflowVersionSubmittedForTesting, .workflowVersionReturnedToDraft,
    .workflowVersionPublished, .workflowVersionArchived,
    .policyVersionArchived, .policyVersionActivated, .workflowRunCreated,
    .workflowRunClaimed, .workflowRunStarted, .workflowRunWaitingForApproval,
    .workflowRunWaitingForRepair, .workflowRunCancelRequested,
    .workflowRunSucceeded, .workflowRunFailed, .workflowRunCancelled,
    .workflowRunTimedOut, .workflowRunInterrupted, .executionAttemptStarted,
    .executionAttemptTerminal, .executionVerificationCompleted,
    .executionOutputProduced, .approvalRequested, .approvalDecided,
    .approvalLifecycle, .repairRequested, .repairDecided, .repairLifecycle,
    .locatorRepairProposalCreated, .locatorRepairCandidateTested,
    .locatorRepairAppliedToDraft, .locatorRepairDismissed, .scheduleCreated,
    .schedulePaused, .scheduleResumed, .scheduleCompleted, .scheduleArchived,
    .scheduleAutoPaused, .scheduleOccurrenceDispatched,
    .scheduleOccurrenceSkipped, .scheduleOccurrenceStartWindowExpired,
    .scheduleOccurrenceSucceeded, .notificationAlertCreated,
    .notificationAlertResolved, .notificationDeliveryDeadLettered,
    .runnerSecretInventoryUpdated, .runnerSoftwareVersionChanged,
    .runnerRuntimeModeChanged, .runnerSecretProtectorChanged,
    .runnerRolloutCreated, .runnerRolloutActivated, .runnerRolloutPaused,
    .runnerRolloutCancelled, .runnerRolloutStageActivated,
    .runnerRolloutAssignmentConverged, .runnerRolloutAssignmentRolledBack]

/-- `AuditEventTypeSchema`. -/
def parse (text : JsString) : Option AuditEventType :=
  all.find? fun eventType => js eventType.text == text

end AuditEventType

/-- `AUDIT_ENTITY_KINDS`. -/
def auditEntityKinds : List String :=
  ["workflow", "workflow_version", "policy_version", "workflow_run",
    "workflow_run_step", "workflow_run_step_attempt", "workflow_run_output",
    "approval_request", "repair_request", "locator_repair_proposal",
    "locator_repair_candidate", "workflow_schedule",
    "workflow_schedule_occurrence", "operational_alert",
    "notification_outbox_message", "runner_device", "runner_release",
    "runner_release_rollout", "runner_release_rollout_stage",
    "runner_release_rollout_assignment"]

/-- `AuditSystemReasonSchema`. -/
def auditSystemReasons : List String :=
  ["automatic_expiry", "completion_reconciliation", "lease_expired",
    "policy_supersede", "run_cancelled", "scheduler", "automatic",
    "notification_worker", "secret_inventory_sync"]

/-- Who acted. -/
inductive AuditActor where
  | user (userId : JsString)
  | runner (runnerDeviceId : JsString)
  | system (reason : JsString)
  deriving DecidableEq, Repr

structure AuditEntityRef where
  kind : JsString
  id : JsString
  deriving DecidableEq, Repr

/-- The fields of a strict object with exactly these keys, some optional. -/
def strictFields
    (keys : List String) :
    JsValue → Option (List (JsString × JsValue))
  | .object fields =>
      if fields.all fun field => keys.any fun key => js key == field.1 then
        some fields
      else
        none
  | _ => none

/-- A string that passes a check. -/
def textWhere (check : JsString → Bool) : JsValue → Option JsString
  | .string text => if check text then some text else none
  | _ => none

def isOneOf (texts : List String) (text : JsString) : Bool :=
  texts.any fun option => js option == text

/-- `AuditActorSchema`. -/
def parseAuditActor (value : JsValue) : Option AuditActor := do
  let fields ←
    strictFields ["type", "userId", "runnerDeviceId", "reason"] value
  let type ← textWhere (fun _ => true) (JsValue.get fields (js "type"))
  if type = js "user" then
    let fields ← strictFields ["type", "userId"] value
    let userId ← textWhere isUuid (JsValue.get fields (js "userId"))
    some (.user userId)
  else if type = js "runner" then
    let fields ← strictFields ["type", "runnerDeviceId"] value
    let runnerDeviceId ←
      textWhere isUuid (JsValue.get fields (js "runnerDeviceId"))
    some (.runner runnerDeviceId)
  else if type = js "system" then
    let fields ← strictFields ["type", "reason"] value
    let reason ←
      textWhere (isOneOf auditSystemReasons) (JsValue.get fields (js "reason"))
    some (.system reason)
  else
    none

/-- `AuditEntityRefSchema`. -/
def parseAuditEntityRef (value : JsValue) : Option AuditEntityRef := do
  let fields ← strictFields ["kind", "id"] value
  let kind ←
    textWhere (isOneOf auditEntityKinds) (JsValue.get fields (js "kind"))
  let id ←
    textWhere (fun text => hasLength 1 256 text && isReference text)
      (JsValue.get fields (js "id"))
  some { kind, id }

/-- `RelatedAuditEntitiesSchema`, which may be absent. -/
def parseRelatedEntities : JsValue → Option (List AuditEntityRef)
  | .undefined => some []
  | .array items =>
      if items.length ≤ 8 then items.mapM parseAuditEntityRef else none
  | _ => none

def AuditActor.toJson : AuditActor → Json
  | .user userId =>
      .object [(js "type", .string (js "user")), (js "userId", .string userId)]
  | .runner runnerDeviceId =>
      .object
        [(js "type", .string (js "runner")),
          (js "runnerDeviceId", .string runnerDeviceId)]
  | .system reason =>
      .object
        [(js "type", .string (js "system")), (js "reason", .string reason)]

def AuditEntityRef.toJson (entity : AuditEntityRef) : Json :=
  .object [(js "kind", .string entity.kind), (js "id", .string entity.id)]

end TaskTwin.Audit
