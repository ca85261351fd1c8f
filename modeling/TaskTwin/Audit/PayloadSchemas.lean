import TaskTwin.Audit.CanonicalJson
import TaskTwin.Audit.Event

/-!
# Audit payload schemas

Every type of event has a strict schema for its payload.  Timestamps are read
in any offset and kept in the form of `toISOString`.  The input of an event is
parsed together with its payload.
-/

namespace TaskTwin.Audit

open Text Schema

def stableId : ValueSchema :=
  stringWhere fun text => hasLength 1 256 text && isReference text

def count : ValueSchema := integer 0 1000000

def sequence : ValueSchema := integer 1 maxSafeInteger

def duration : ValueSchema := integer 0 86400000

def digest : ValueSchema := stringWhere isSha256Hex

/-- `^[A-Z][A-Z0-9_]*$`, from 2 to 80 symbols. -/
def isSafeCode (text : JsString) : Bool :=
  hasLength 2 80 text &&
    beginsAndContinues CodeUnit.isUpper
      (fun symbol =>
        CodeUnit.isUpper symbol || CodeUnit.isDigit symbol ||
          symbol == unit '_')
      text

def safeCode : ValueSchema := stringWhere isSafeCode

/-- `^[a-z][a-z0-9_]*$`, from 1 to 64 symbols. -/
def isBoundedKind (text : JsString) : Bool :=
  hasLength 1 64 text &&
    beginsAndContinues CodeUnit.isLower
      (fun symbol =>
        CodeUnit.isLower symbol || CodeUnit.isDigit symbol ||
          symbol == unit '_')
      text

def boundedKind : ValueSchema := stringWhere isBoundedKind

/-- `AuditTimestampSchema`. -/
def auditTimestamp
    (parseOther : JsString → Option TimeValue) :
    ValueSchema
  | .string text =>
      if isDateTime text then
        (normalizeAuditTimestamp parseOther text).map .string
      else
        none
  | _ => none

def effectCertainty : ValueSchema :=
  oneOf
    ["not_started", "read_only", "side_effect_possible", "completed",
     "unknown"]

def attemptTrigger : ValueSchema :=
  oneOf
    ["initial", "automatic_retry", "manual_retry"]

def attemptTerminalStatus : ValueSchema :=
  oneOf
    ["succeeded", "failed", "cancelled", "timed_out", "interrupted"]

def runTerminalStatus : ValueSchema :=
  oneOf
    ["succeeded", "failed", "cancelled", "timed_out", "interrupted"]

def riskLevel : ValueSchema :=
  oneOf
    ["low", "medium", "high", "critical"]

def alertType : ValueSchema :=
  oneOf
    ["approval_required", "repair_required", "run_failed", "run_timed_out",
     "run_interrupted", "schedule_auto_paused", "audit_integrity_failed",
     "runner_rollout_requires_review"]

def alertSeverity : ValueSchema :=
  oneOf
    ["info", "warning", "error", "critical"]

def alertSourceType : ValueSchema :=
  oneOf
    ["approval_request", "repair_request", "workflow_run",
     "workflow_schedule", "workflow_schedule_occurrence",
     "audit_verification_failure", "runner_release_rollout",
     "runner_release_rollout_assignment"]

def runnerRuntimeModeValue : ValueSchema :=
  oneOf
    ["interactive", "unattended_process", "service"]

def runnerAutonomyValue : ValueSchema :=
  oneOf
    ["interactive", "process_unattended", "boot_resilient"]

def runnerServiceStatusValue : ValueSchema :=
  oneOf
    ["not_applicable", "starting", "running", "degraded", "draining",
     "stopped"]

def runnerSecretUnlockModeValue : ValueSchema :=
  oneOf
    ["none", "manual", "os_native"]

def rolloutStatus : ValueSchema :=
  oneOf
    ["draft", "active", "paused", "completed", "cancelled"]

variable (parseOther : JsString → Option TimeValue)

def workflowCreatedPayload : List Field :=
  [required "workflowId" stableId]

def workflowVersionCreatedPayload : List Field :=
  [required "workflowId" stableId,
    required "workflowVersionId" uuid,
    required "version" sequence,
    required "revision" sequence,
    optional "sourceVersionId" uuid,
    required "schemaVersion" sequence]

def workflowDraftUpdatedPayload : List Field :=
  [required "workflowId" stableId,
    required "workflowVersionId" uuid,
    required "version" sequence,
    required "revision" sequence,
    required "stepCount" count]

def workflowVersionTransitionPayload : List Field :=
  [required "workflowId" stableId,
    required "workflowVersionId" uuid,
    required "version" sequence,
    required "revision" sequence]

def workflowVersionPublishedPayload : List Field :=
  [required "workflowId" stableId,
    required "workflowVersionId" uuid,
    required "version" sequence,
    required "revision" sequence,
    required "workflowDigest" digest,
    optional "replacedVersionId" uuid]

def workflowVersionArchivedPayload : List Field :=
  [required "workflowId" stableId,
    required "workflowVersionId" uuid,
    required "version" sequence,
    required "revision" sequence,
    required "reason" (oneOf ["manual", "replaced_by_publish"])]

def policyVersionArchivedPayload : List Field :=
  [required "policyVersionId" uuid,
    required "revision" sequence,
    required "policyDigest" digest,
    required "reason" (oneOf ["superseded"])]

def policyVersionActivatedPayload : List Field :=
  [required "policyVersionId" uuid,
    required "revision" sequence,
    required "policyDigest" digest,
    optional "previousPolicyVersionId" uuid]

def workflowRunCreatedPayload : List Field :=
  [required "workflowRunId" uuid,
    required "workflowId" stableId,
    required "workflowVersionId" uuid,
    required "runnerDeviceId" uuid,
    required "workflowDigest" digest,
    required "policyVersionId" uuid,
    required "policyDigest" digest]

def workflowRunClaimedPayload : List Field :=
  [required "workflowRunId" uuid,
    required "runnerDeviceId" uuid,
    required "claimAttemptId" uuid,
    required "leaseExpiresAt" (auditTimestamp parseOther)]

def workflowRunStartedPayload : List Field :=
  [required "workflowRunId" uuid,
    required "startedAt" (auditTimestamp parseOther)]

def workflowRunWaitingPayload : List Field :=
  [required "workflowRunId" uuid,
    required "stepId" stableId,
    required "stepIndex" count,
    optional "attemptNumber" sequence]

def workflowRunCancelRequestedPayload : List Field :=
  [required "workflowRunId" uuid,
    required "requestedAt" (auditTimestamp parseOther)]

def workflowRunTerminalPayload : List Field :=
  [required "workflowRunId" uuid,
    required "terminalStatus" runTerminalStatus,
    optional "terminationCause" safeCode,
    required "finishedAt" (auditTimestamp parseOther),
    optional "engineResultDigest" digest,
    optional "durationMs" duration,
    required "stepCount" count,
    required "producedOutputCount" count]

def executionAttemptStartedPayload : List Field :=
  [required "workflowRunId" uuid,
    required "runStepAttemptId" uuid,
    required "stepId" stableId,
    required "stepIndex" count,
    required "stepType" boundedKind,
    required "attemptNumber" sequence,
    required "trigger" attemptTrigger,
    required "effectCertainty" effectCertainty,
    optional "authorizedByRepairRequestId" uuid]

def executionAttemptTerminalPayload : List Field :=
  [required "workflowRunId" uuid,
    required "runStepAttemptId" uuid,
    required "stepId" stableId,
    required "stepIndex" count,
    required "stepType" boundedKind,
    required "attemptNumber" sequence,
    required "trigger" attemptTrigger,
    required "attemptStatus" attemptTerminalStatus,
    required "effectCertainty" effectCertainty,
    optional "safeErrorCode" safeCode,
    optional "durationMs" duration]

def executionVerificationCompletedPayload : List Field :=
  [required "workflowRunId" uuid,
    required "stepId" stableId,
    required "stepIndex" count,
    required "verificationSequence" sequence,
    required "verificationKind" boundedKind,
    required "outcome" (oneOf ["passed", "failed"]),
    required "attemptCount" sequence]

def executionOutputProducedPayload : List Field :=
  [required "workflowRunId" uuid,
    required "outputName" stableId,
    required "outputType" (oneOf ["string", "boolean"]),
    required "producerStepId" stableId,
    required "producerStepIndex" count]

def approvalRequestedPayload : List Field :=
  [required "approvalRequestId" uuid,
    required "workflowRunId" uuid,
    required "approvalStepId" stableId,
    required "gatedStepId" stableId,
    required "riskLevel" riskLevel,
    required "requestedAt" (auditTimestamp parseOther),
    required "expiresAt" (auditTimestamp parseOther)]

def approvalDecidedPayload : List Field :=
  [required "approvalRequestId" uuid,
    required "workflowRunId" uuid,
    required "decision" (oneOf ["approved", "rejected"]),
    required "decidedByUserId" uuid,
    required "resolvedAt" (auditTimestamp parseOther)]

def approvalLifecyclePayload : List Field :=
  [required "approvalRequestId" uuid,
    required "workflowRunId" uuid,
    required "reason" (oneOf ["expired", "cancelled", "invalidated"]),
    required "resolvedAt" (auditTimestamp parseOther)]

def repairRequestedPayload : List Field :=
  [required "repairRequestId" uuid,
    required "workflowRunId" uuid,
    required "stepId" stableId,
    required "stepIndex" count,
    required "attemptNumber" sequence,
    required "safeErrorCode" safeCode,
    required "effectCertainty" effectCertainty,
    required "retryAllowed" boolean,
    required "requestedAt" (auditTimestamp parseOther),
    required "expiresAt" (auditTimestamp parseOther)]

def repairDecidedPayload : List Field :=
  [required "repairRequestId" uuid,
    required "workflowRunId" uuid,
    required "decision" (oneOf ["retry_approved", "aborted"]),
    required "decidedByUserId" uuid,
    required "resolvedAt" (auditTimestamp parseOther)]

def repairLifecyclePayload : List Field :=
  [required "repairRequestId" uuid,
    required "workflowRunId" uuid,
    required "reason" (oneOf ["expired", "cancelled", "invalidated"]),
    required "resolvedAt" (auditTimestamp parseOther)]

def locatorRepairProposalCreatedPayload : List Field :=
  [required "proposalId" uuid,
    required "workflowRunId" uuid,
    required "stepId" stableId,
    required "stepIndex" count,
    required "failedAttemptNumber" sequence,
    required "candidateCount" count]

def locatorRepairCandidateTestedPayload : List Field :=
  [required "proposalId" uuid,
    required "candidateId" uuid,
    required "candidateRank" sequence,
    required "candidateStrategy" boundedKind,
    required "candidateConfidence" (oneOf ["low", "medium", "high"]),
    required "testStatus"
      (oneOf
        ["pending", "passed", "not_found", "not_unique", "not_actionable",
         "incompatible_element", "stale_page_context", "cancelled", "error"]),
    required "evidenceCodeCount" count,
    optional "testedAt" (auditTimestamp parseOther)]

def locatorRepairAppliedPayload : List Field :=
  [required "proposalId" uuid,
    required "candidateId" uuid,
    required "workflowRunId" uuid,
    required "stepId" stableId,
    required "stepIndex" count,
    required "targetDraftVersionId" uuid,
    required "previousRevision" sequence,
    required "newRevision" sequence,
    required "appliedAt" (auditTimestamp parseOther)]

def locatorRepairDismissedPayload : List Field :=
  [required "proposalId" uuid,
    required "workflowRunId" uuid,
    required "reason" (oneOf ["expired", "invalidated"]),
    required "dismissedAt" (auditTimestamp parseOther)]

def scheduleCreatedPayload : List Field :=
  [required "scheduleId" uuid,
    required "workflowId" stableId,
    required "workflowVersionId" uuid,
    required "runnerDeviceId" uuid,
    required "scheduleName" (stringWhere (hasLength 1 120)),
    required "scheduleType" (oneOf ["one_time", "daily", "weekly"]),
    required "timezone" (stringWhere (hasLength 1 64)),
    required "scheduleDigest" digest,
    required "workflowDigest" digest,
    required "policyVersionId" uuid,
    required "policyDigest" digest,
    required "nextOccurrenceAt" (nullable (auditTimestamp parseOther)),
    required "maxStartDelaySeconds" (integer 30 3600)]

def schedulePausedPayload : List Field :=
  [required "scheduleId" uuid,
    required "pausedAt" (auditTimestamp parseOther)]

def scheduleResumedPayload : List Field :=
  [required "scheduleId" uuid,
    required "resumedAt" (auditTimestamp parseOther),
    required "nextOccurrenceAt" (auditTimestamp parseOther)]

def scheduleCompletedPayload : List Field :=
  [required "scheduleId" uuid,
    required "completedAt" (auditTimestamp parseOther)]

def scheduleArchivedPayload : List Field :=
  [required "scheduleId" uuid,
    required "archivedAt" (auditTimestamp parseOther)]

def scheduleAutoPausedPayload : List Field :=
  [required "scheduleId" uuid,
    required "reason"
      (oneOf
        ["policy_review_required", "source_version_unavailable",
         "ambiguous_outcome", "secret_readiness_failed",
         "runner_update_required"]),
    required "autoPausedAt" (auditTimestamp parseOther),
    optional "triggeringOccurrenceId" uuid]

def scheduleOccurrenceDispatchedPayload : List Field :=
  [required "scheduleId" uuid,
    required "occurrenceId" uuid,
    required "workflowRunId" uuid,
    required "scheduledFor" (auditTimestamp parseOther),
    required "startDeadlineAt" (auditTimestamp parseOther)]

def scheduleOccurrenceSkippedPayload : List Field :=
  [required "scheduleId" uuid,
    required "occurrenceId" uuid,
    required "scheduledFor" (auditTimestamp parseOther),
    required "skipReason"
      (oneOf
        ["schedule_overlap", "runner_busy", "runner_unavailable",
         "runner_update_required", "runner_maintenance", "policy_denied",
         "source_version_unavailable", "missed_start_window",
         "nonexistent_local_time", "repeated_local_time",
         "secret_readiness_failed",
         "secret_inventory_changed_before_execution"]),
    required "skippedAt" (auditTimestamp parseOther)]

def scheduleOccurrenceStartWindowExpiredPayload : List Field :=
  [required "scheduleId" uuid,
    required "occurrenceId" uuid,
    required "workflowRunId" uuid,
    required "scheduledFor" (auditTimestamp parseOther),
    required "startDeadlineAt" (auditTimestamp parseOther),
    required "expiredAt" (auditTimestamp parseOther)]

def scheduleOccurrenceSucceededPayload : List Field :=
  [required "scheduleId" uuid,
    required "occurrenceId" uuid,
    required "workflowRunId" uuid]

def notificationAlertCreatedPayload : List Field :=
  [required "alertId" uuid,
    required "alertType" alertType,
    required "severity" alertSeverity,
    required "sourceType" alertSourceType,
    required "sourceId" stableId,
    required "recipientCount" count]

def notificationAlertResolvedPayload : List Field :=
  [required "alertId" uuid,
    required "alertType" alertType,
    required "severity" alertSeverity,
    required "sourceType" alertSourceType,
    required "sourceId" stableId,
    required "recipientCount" count]

def notificationDeliveryDeadLetteredPayload : List Field :=
  [required "alertId" uuid,
    required "alertType" alertType,
    required "severity" alertSeverity,
    required "sourceType" alertSourceType,
    required "sourceId" stableId,
    required "recipientCount" count]

def runnerSecretInventoryUpdatedPayload : List Field :=
  [required "runnerDeviceId" uuid,
    required "previousRevision" (integer 0 maxSafeInteger),
    required "newRevision" sequence,
    required "configuredSecretCount" count,
    required "inventoryDigest" digest]

def runnerSoftwareVersionChangedPayload : List Field :=
  [required "runnerDeviceId" uuid,
    required "previousVersion" (trimmed 1 32),
    required "newVersion" (trimmed 1 32),
    required "runnerProtocolVersion" (nullable (integer 1 maxSafeInteger)),
    required "localStateSchemaVersion" (nullable (integer 1 maxSafeInteger))]

def runnerRuntimeModeChangedPayload : List Field :=
  [required "runnerDeviceId" uuid,
    required "previousRuntimeMode" (nullable runnerRuntimeModeValue),
    required "runtimeMode" runnerRuntimeModeValue,
    required "previousAutonomyLevel" (nullable runnerAutonomyValue),
    required "autonomyLevel" runnerAutonomyValue,
    required "serviceStatus" runnerServiceStatusValue]

def runnerSecretProtectorChangedPayload : List Field :=
  [required "runnerDeviceId" uuid,
    required "previousUnlockMode" (nullable runnerSecretUnlockModeValue),
    required "unlockMode" runnerSecretUnlockModeValue]

def runnerRolloutCreatedPayload : List Field :=
  [required "rolloutId" uuid,
    required "targetReleaseId" uuid,
    required "stageCount" count,
    required "assignmentCount" count]

def runnerRolloutStatusPayload : List Field :=
  [required "rolloutId" uuid,
    required "status" rolloutStatus,
    optional "reason"
      (oneOf
        ["manual", "target_release_blocked", "assignment_rolled_back"]),
    required "changedAt" (auditTimestamp parseOther)]

def runnerRolloutStageActivatedPayload : List Field :=
  [required "rolloutId" uuid,
    required "stageId" uuid,
    required "stageNumber" sequence,
    required "targetReleaseId" uuid,
    required "assignmentCount" count]

def runnerRolloutAssignmentObservedPayload : List Field :=
  [required "rolloutId" uuid,
    required "stageId" uuid,
    required "assignmentId" uuid,
    required "runnerDeviceId" uuid,
    required "stageNumber" sequence,
    required "observedAt" (auditTimestamp parseOther)]

/-- `AUDIT_PAYLOAD_SCHEMAS`. -/
def auditPayloadSchemas : AuditEventType → List Field
  | .workflowCreated => workflowCreatedPayload
  | .workflowVersionCreated => workflowVersionCreatedPayload
  | .workflowDraftUpdated => workflowDraftUpdatedPayload
  | .workflowVersionSubmittedForTesting => workflowVersionTransitionPayload
  | .workflowVersionReturnedToDraft => workflowVersionTransitionPayload
  | .workflowVersionPublished => workflowVersionPublishedPayload
  | .workflowVersionArchived => workflowVersionArchivedPayload
  | .policyVersionArchived => policyVersionArchivedPayload
  | .policyVersionActivated => policyVersionActivatedPayload
  | .workflowRunCreated => workflowRunCreatedPayload
  | .workflowRunClaimed => workflowRunClaimedPayload parseOther
  | .workflowRunStarted => workflowRunStartedPayload parseOther
  | .workflowRunWaitingForApproval => workflowRunWaitingPayload
  | .workflowRunWaitingForRepair => workflowRunWaitingPayload
  | .workflowRunCancelRequested =>
      workflowRunCancelRequestedPayload parseOther
  | .workflowRunSucceeded => workflowRunTerminalPayload parseOther
  | .workflowRunFailed => workflowRunTerminalPayload parseOther
  | .workflowRunCancelled => workflowRunTerminalPayload parseOther
  | .workflowRunTimedOut => workflowRunTerminalPayload parseOther
  | .workflowRunInterrupted => workflowRunTerminalPayload parseOther
  | .executionAttemptStarted => executionAttemptStartedPayload
  | .executionAttemptTerminal => executionAttemptTerminalPayload
  | .executionVerificationCompleted => executionVerificationCompletedPayload
  | .executionOutputProduced => executionOutputProducedPayload
  | .approvalRequested => approvalRequestedPayload parseOther
  | .approvalDecided => approvalDecidedPayload parseOther
  | .approvalLifecycle => approvalLifecyclePayload parseOther
  | .repairRequested => repairRequestedPayload parseOther
  | .repairDecided => repairDecidedPayload parseOther
  | .repairLifecycle => repairLifecyclePayload parseOther
  | .locatorRepairProposalCreated => locatorRepairProposalCreatedPayload
  | .locatorRepairCandidateTested =>
      locatorRepairCandidateTestedPayload parseOther
  | .locatorRepairAppliedToDraft => locatorRepairAppliedPayload parseOther
  | .locatorRepairDismissed => locatorRepairDismissedPayload parseOther
  | .scheduleCreated => scheduleCreatedPayload parseOther
  | .schedulePaused => schedulePausedPayload parseOther
  | .scheduleResumed => scheduleResumedPayload parseOther
  | .scheduleCompleted => scheduleCompletedPayload parseOther
  | .scheduleArchived => scheduleArchivedPayload parseOther
  | .scheduleAutoPaused => scheduleAutoPausedPayload parseOther
  | .scheduleOccurrenceDispatched =>
      scheduleOccurrenceDispatchedPayload parseOther
  | .scheduleOccurrenceSkipped => scheduleOccurrenceSkippedPayload parseOther
  | .scheduleOccurrenceStartWindowExpired =>
      scheduleOccurrenceStartWindowExpiredPayload parseOther
  | .scheduleOccurrenceSucceeded => scheduleOccurrenceSucceededPayload
  | .notificationAlertCreated => notificationAlertCreatedPayload
  | .notificationAlertResolved => notificationAlertResolvedPayload
  | .notificationDeliveryDeadLettered =>
      notificationDeliveryDeadLetteredPayload
  | .runnerSecretInventoryUpdated => runnerSecretInventoryUpdatedPayload
  | .runnerSoftwareVersionChanged => runnerSoftwareVersionChangedPayload
  | .runnerRuntimeModeChanged => runnerRuntimeModeChangedPayload
  | .runnerSecretProtectorChanged => runnerSecretProtectorChangedPayload
  | .runnerRolloutCreated => runnerRolloutCreatedPayload
  | .runnerRolloutActivated => runnerRolloutStatusPayload parseOther
  | .runnerRolloutPaused => runnerRolloutStatusPayload parseOther
  | .runnerRolloutCancelled => runnerRolloutStatusPayload parseOther
  | .runnerRolloutStageActivated => runnerRolloutStageActivatedPayload
  | .runnerRolloutAssignmentConverged =>
      runnerRolloutAssignmentObservedPayload parseOther
  | .runnerRolloutAssignmentRolledBack =>
      runnerRolloutAssignmentObservedPayload parseOther

def parseAuditPayload
    (eventType : AuditEventType) :
    ValueSchema :=
  strictObject (auditPayloadSchemas parseOther eventType)

structure ParsedAuditEventInput where
  workspaceId : JsString
  eventType : AuditEventType
  actor : AuditActor
  primaryEntity : AuditEntityRef
  relatedEntities : List AuditEntityRef
  occurredAt : JsString
  sourceId : JsString
  correlationId : Option JsString
  payload : JsValue

/-- `z.literal(1).optional()`. -/
def isSchemaVersion : JsValue → Bool
  | .undefined => true
  | .number value => wholeNumber value == some 1
  | _ => false

/-- `z.union([z.date(), z.string().datetime({ offset: true })])`, normalized. -/
def parseOccurredAt : JsValue → Option JsString
  | .date time => time.map TimeValue.toISOString
  | .string text =>
      if isDateTime text then normalizeAuditTimestamp parseOther text
      else none
  | _ => none

/-- A reference within a length, which may be absent. -/
def parseCorrelationId : JsValue → Option (Option JsString)
  | .undefined => some none
  | value =>
      (textWhere (fun text => hasLength 1 80 text && isReference text)
        value).map some

/-- `parseAuditEventInput`. -/
def parseAuditEventInput (input : JsValue) : Option ParsedAuditEventInput := do
  let fields ←
    strictFields
      ["schemaVersion", "workspaceId", "eventType", "actor", "primaryEntity",
        "relatedEntities", "occurredAt", "sourceId", "correlationId",
        "payload"]
      input
  let property (name : String) : JsValue := JsValue.get fields (js name)
  if isSchemaVersion (property "schemaVersion") then
    let workspaceId ← textWhere isUuid (property "workspaceId")
    let typeText ← textWhere (fun _ => true) (property "eventType")
    let eventType ← AuditEventType.parse typeText
    let actor ← parseAuditActor (property "actor")
    let primaryEntity ← parseAuditEntityRef (property "primaryEntity")
    let relatedEntities ← parseRelatedEntities (property "relatedEntities")
    let occurredAt ← parseOccurredAt parseOther (property "occurredAt")
    let sourceId ←
      textWhere (fun text => hasLength 1 160 text && isReference text)
        (property "sourceId")
    let correlationId ← parseCorrelationId (property "correlationId")
    let payload ← parseAuditPayload parseOther eventType (property "payload")
    some
      { workspaceId, eventType, actor, primaryEntity, relatedEntities,
        occurredAt, sourceId, correlationId, payload }
  else
    none

variable {parseOther}

theorem parseOccurredAt_normal
    {value : JsValue}
    {occurredAt : JsString}
    (parsed : parseOccurredAt parseOther value = some occurredAt) :
    normalizeAuditTimestamp parseOther occurredAt = some occurredAt := by
  cases value with
  | date time =>
      obtain ⟨time, _, rfl⟩ := Option.map_eq_some_iff.mp parsed
      rw [normalizeAuditTimestamp, dateParse_toISOString, Option.map_some]
  | string text =>
      simp only [parseOccurredAt] at parsed
      split at parsed
      · exact normalizeAuditTimestamp_normal parsed
      · cases parsed
  | _ => cases parsed

/-- The time of a parsed event is normal. -/
theorem parseAuditEventInput_normal
    {input : JsValue}
    {parsed : ParsedAuditEventInput}
    (isParsed : parseAuditEventInput parseOther input = some parsed) :
    normalizeAuditTimestamp parseOther parsed.occurredAt =
      some parsed.occurredAt := by
  simp only [parseAuditEventInput, Option.bind_eq_bind] at isParsed
  obtain ⟨fields, _, isParsed⟩ := Option.bind_eq_some_iff.mp isParsed
  split at isParsed
  case isFalse notVersion => cases isParsed
  case isTrue isVersion =>
    obtain ⟨_, _, isParsed⟩ := Option.bind_eq_some_iff.mp isParsed
    obtain ⟨_, _, isParsed⟩ := Option.bind_eq_some_iff.mp isParsed
    obtain ⟨_, _, isParsed⟩ := Option.bind_eq_some_iff.mp isParsed
    obtain ⟨_, _, isParsed⟩ := Option.bind_eq_some_iff.mp isParsed
    obtain ⟨_, _, isParsed⟩ := Option.bind_eq_some_iff.mp isParsed
    obtain ⟨_, _, isParsed⟩ := Option.bind_eq_some_iff.mp isParsed
    obtain ⟨occurredAt, occurred, isParsed⟩ :=
      Option.bind_eq_some_iff.mp isParsed
    obtain ⟨_, _, isParsed⟩ := Option.bind_eq_some_iff.mp isParsed
    obtain ⟨_, _, isParsed⟩ := Option.bind_eq_some_iff.mp isParsed
    obtain ⟨_, _, isParsed⟩ := Option.bind_eq_some_iff.mp isParsed
    cases isParsed
    exact parseOccurredAt_normal occurred

end TaskTwin.Audit
