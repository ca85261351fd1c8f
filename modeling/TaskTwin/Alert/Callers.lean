import TaskTwin.Alert.Appender

/-!
# What the callers append

Every caller says of an alert what it is about, whom it is to be shown to and
where it leads.  The repositories hand over the workspace, the identifier and
the creator of the row that they have just changed.
-/

namespace TaskTwin.Alert

open Text Schema Audit

/-- A reference to an entity, or the source of an alert. -/
def entityRef (type : String) (id : JsString) : JsValue :=
  .object [(js "type", text type), (js "id", .string id)]

/-- The parts in which alerts differ. -/
structure AlertParts where
  workspaceId : JsString
  type : OperationalAlertType
  sourceType : OperationalAlertSourceType
  sourceId : JsString
  primaryEntity : JsValue
  relatedEntities : List JsValue
  template : List (JsString × JsValue)
  action : List (JsString × JsValue)
  creatorUserId : Option JsString

/-- The properties of an input. -/
def AlertParts.fields (parts : AlertParts) : List (JsString × JsValue) :=
  [(js "schemaVersion", wholeNumberValue 1),
    (js "workspaceId", .string parts.workspaceId),
    (js "type", text parts.type.text),
    (js "source", entityRef parts.sourceType.text parts.sourceId),
    (js "primaryEntity", parts.primaryEntity),
    (js "relatedEntities", .array parts.relatedEntities),
    (js "template",
      .object
        ((js "schemaVersion", wholeNumberValue 1) ::
          (js "templateKey", text parts.type.expected.2.1) ::
          parts.template)),
    (js "actionTarget",
      .object
        ((js "schemaVersion", wholeNumberValue 1) ::
          (js "kind", text parts.type.expected.2.2) ::
          (js "workspaceId", .string parts.workspaceId) :: parts.action))] ++
    parts.creatorUserId.toList.map fun creatorUserId =>
      (js "creatorUserId", .string creatorUserId)

def AlertParts.input (parts : AlertParts) : JsValue := .object parts.fields

def approvalRequired
    (workspaceId approvalRequestId workflowRunId : JsString)
    (riskLevel : String)
    (expiresAt : JsString) :
    AlertParts where
  workspaceId
  type := .approvalRequired
  sourceType := .approvalRequest
  sourceId := approvalRequestId
  primaryEntity := entityRef "approval_request" approvalRequestId
  relatedEntities := [entityRef "workflow_run" workflowRunId]
  template :=
    [(js "approvalRequestId", .string approvalRequestId),
      (js "workflowRunId", .string workflowRunId),
      (js "riskLevel", text riskLevel),
      (js "expiresAt", .string expiresAt)]
  action := [(js "approvalRequestId", .string approvalRequestId)]
  creatorUserId := none

def repairRequired
    (workspaceId repairRequestId workflowRunId : JsString)
    (stepType : String)
    (attemptNumber : Nat)
    (expiresAt : JsString) :
    AlertParts where
  workspaceId
  type := .repairRequired
  sourceType := .repairRequest
  sourceId := repairRequestId
  primaryEntity := entityRef "repair_request" repairRequestId
  relatedEntities := [entityRef "workflow_run" workflowRunId]
  template :=
    [(js "repairRequestId", .string repairRequestId),
      (js "workflowRunId", .string workflowRunId),
      (js "stepType", text stepType),
      (js "attemptNumber", wholeNumberValue attemptNumber),
      (js "expiresAt", .string expiresAt)]
  action := [(js "repairRequestId", .string repairRequestId)]
  creatorUserId := none

/-- The alert of a run; `at` is when it ended. -/
def runAlert
    (type : OperationalAlertType)
    (timeField : String)
    (workspaceId workflowRunId createdByUserId : JsString)
    (relatedEntities : List JsValue)
    (endedAt : JsString) :
    AlertParts where
  workspaceId
  type
  sourceType := .workflowRun
  sourceId := workflowRunId
  primaryEntity := entityRef "workflow_run" workflowRunId
  relatedEntities
  template :=
    [(js "workflowRunId", .string workflowRunId),
      (js timeField, .string endedAt)]
  action := [(js "workflowRunId", .string workflowRunId)]
  creatorUserId := some createdByUserId

/-- The claim of a run that cannot be executed, and its completion. -/
def runFailed := runAlert .runFailed "failedAt"

/-- A completion, an expired approval or repair, and an occurrence that was
not started in time. -/
def runTimedOut := runAlert .runTimedOut "timedOutAt"

/-- A completion, a lease that has run out, and a runner that is revoked. -/
def runInterrupted := runAlert .runInterrupted "interruptedAt"

def scheduleAlert
    (workspaceId workflowScheduleId createdByUserId : JsString)
    (sourceType : OperationalAlertSourceType)
    (sourceId : JsString)
    (occurrenceId : Option JsString)
    (reason : String)
    (autoPausedAt : JsString) :
    AlertParts where
  workspaceId
  type := .scheduleAutoPaused
  sourceType
  sourceId
  primaryEntity := entityRef "workflow_schedule" workflowScheduleId
  relatedEntities :=
    occurrenceId.toList.map (entityRef "workflow_schedule_occurrence")
  template :=
    [(js "workflowScheduleId", .string workflowScheduleId),
      (js "reason", text reason),
      (js "autoPausedAt", .string autoPausedAt)] ++
      occurrenceId.toList.map fun occurrenceId =>
        (js "occurrenceId", .string occurrenceId)
  action := [(js "workflowScheduleId", .string workflowScheduleId)]
  creatorUserId := some createdByUserId

/-- A dispatch that needs a review of the policy, `handleRunCompletion`, and
the claim of a run whose secrets have changed. -/
def scheduleAutoPaused
    (workspaceId workflowScheduleId createdByUserId : JsString)
    (occurrenceId : Option JsString)
    (reason : String)
    (autoPausedAt : JsString) :
    AlertParts :=
  scheduleAlert workspaceId workflowScheduleId createdByUserId
    .workflowSchedule workflowScheduleId occurrenceId reason autoPausedAt

/-- `autoPauseBlockedOccurrence`, whose source is the occurrence. -/
def blockedOccurrence
    (workspaceId workflowScheduleId createdByUserId occurrenceId : JsString)
    (reason : String)
    (autoPausedAt : JsString) :
    AlertParts :=
  scheduleAlert workspaceId workflowScheduleId createdByUserId
    .workflowScheduleOccurrence occurrenceId (some occurrenceId) reason
    autoPausedAt

/-- The source of a failed verification. -/
def verificationFailureId (failureCode : String) (sequence : Nat) : JsString :=
  js failureCode ++ unit ':' :: decimalText sequence

def auditIntegrityFailed
    (workspaceId : JsString)
    (failureCode : String)
    (failureSequence : Nat)
    (verifiedAt : JsString) :
    AlertParts where
  workspaceId
  type := .auditIntegrityFailed
  sourceType := .auditVerificationFailure
  sourceId := verificationFailureId failureCode failureSequence
  primaryEntity := entityRef "workspace_audit_chain" workspaceId
  relatedEntities := []
  template :=
    [(js "failureKind", text failureCode),
      (js "failureSequence", wholeNumberValue failureSequence),
      (js "verifiedAt", .string verifiedAt)]
  action := []
  creatorUserId := none

/-- An assignment that was rolled back, or a target release that was blocked;
then there is no assignment. -/
def rolloutRequiresReview
    (workspaceId rolloutId : JsString)
    (assignmentId : Option JsString)
    (observedAt : JsString) :
    AlertParts where
  workspaceId
  type := .runnerRolloutRequiresReview
  sourceType :=
    if assignmentId.isSome then .runnerReleaseRolloutAssignment
    else .runnerReleaseRollout
  sourceId := assignmentId.getD rolloutId
  primaryEntity := entityRef "runner_release_rollout" rolloutId
  relatedEntities :=
    assignmentId.toList.map (entityRef "runner_release_rollout_assignment")
  template :=
    [(js "rolloutId", .string rolloutId),
      (js "reason",
        text
          (if assignmentId.isSome then "assignment_rolled_back"
          else "target_release_blocked")),
      (js "observedAt", .string observedAt)]
  action := [(js "rolloutId", .string rolloutId)]
  creatorUserId := none

theorem inputNames_distinct :
    (["schemaVersion", "workspaceId", "type", "source", "primaryEntity",
      "relatedEntities", "template", "actionTarget", "creatorUserId"].map
        js).Nodup := by
  decide +kernel

theorem sourceNames_distinct : (["type", "id"].map js).Nodup := by
  decide +kernel

theorem OperationalAlertType.parse_text (type : OperationalAlertType) :
    OperationalAlertType.parse (js type.text) = some type := by
  cases type <;> decide +kernel

theorem OperationalAlertSourceType.parse_text
    (sourceType : OperationalAlertSourceType) :
    OperationalAlertSourceType.parse (js sourceType.text) =
      some sourceType := by
  cases sourceType <;> decide +kernel

/-- The text of a property of what has parsed. -/
theorem textAt_of_lookup
    {name : String}
    {own : List (JsString × JsValue)}
    {value : JsString}
    (found : own.lookup (js name) = some (.string value)) :
    textAt [name] (.object own) = some value := by
  simp [textAt, JsValue.get, found]

/-- A source says of itself what it was given. -/
theorem sourceBinding_texts
    {sourceType : OperationalAlertSourceType}
    {sourceId : JsString}
    {value : JsValue}
    (parsed :
      operationalAlertSourceBinding (entityRef sourceType.text sourceId) =
        some value) :
    textAt ["type"] value = some (js sourceType.text) ∧
      textAt ["id"] value = some sourceId := by
  constructor
  · obtain ⟨own, rfl, found⟩ :=
      strictObject_text parsed sourceNames_distinct "type" List.mem_cons_self
        rfl
    exact textAt_of_lookup found
  · obtain ⟨own, rfl, found⟩ :=
      strictObject_text parsed sourceNames_distinct "id"
        (List.mem_cons_of_mem _ List.mem_cons_self) rfl
    exact textAt_of_lookup found

variable {parts : AlertParts} {value : JsValue}

theorem AlertParts.source_texts
    (parsed : trustedOperationalAlertInput parts.input = some value) :
    textAt ["source", "type"] value = some (js parts.sourceType.text) ∧
      textAt ["source", "id"] value = some parts.sourceId := by
  obtain ⟨own, source, rfl, isSource, found⟩ :=
    @strictObject_value _ _ _ parsed inputNames_distinct
      ⟨"source", false, operationalAlertSourceBinding⟩
      (List.mem_cons_of_mem _ (List.mem_cons_of_mem _
        (List.mem_cons_of_mem _ List.mem_cons_self)))
      (entityRef parts.sourceType.text parts.sourceId) rfl
      JsValue.noConfusion
  obtain ⟨isType, isId⟩ := sourceBinding_texts isSource
  have isProperty : JsValue.get own (js "source") = source := by
    simp [JsValue.get, found]
  simp only [textAt, isProperty]
  exact ⟨isType, isId⟩

theorem AlertParts.creator_text
    (parsed : trustedOperationalAlertInput parts.input = some value) :
    textAt ["creatorUserId"] value = parts.creatorUserId := by
  cases isCreator : parts.creatorUserId with
  | none =>
      have absent : parts.fields.lookup (js "creatorUserId") = none := by
        rw [AlertParts.fields, isCreator]
        rfl
      obtain ⟨own, rfl, notFound⟩ :=
        strictObject_absent parsed inputNames_distinct
          (@List.mem_of_getElem? _ _ 8 _ rfl) absent
      simp [textAt, JsValue.get, notFound]
  | some creatorUserId =>
      have isText :
          parts.fields.lookup (js "creatorUserId") =
            some (.string creatorUserId) := by
        rw [AlertParts.fields, isCreator]
        rfl
      obtain ⟨own, rfl, found⟩ :=
        strictObject_text parsed inputNames_distinct "creatorUserId"
          (@List.mem_of_getElem? _ _ 8 _ rfl) isText
      exact textAt_of_lookup found

/-- What the parts of an input are when it has parsed. -/
theorem AlertParts.parsed
    {input : TrustedOperationalAlertInput}
    (isParsed : parseTrustedOperationalAlertInput parts.input = some input) :
    input.identity =
        { workspaceId := parts.workspaceId
          type := parts.type
          sourceType := parts.sourceType
          sourceId := parts.sourceId } ∧
      input.creatorUserId = parts.creatorUserId := by
  unfold parseTrustedOperationalAlertInput at isParsed
  obtain ⟨value, parsed, answer⟩ := Option.bind_eq_some_iff.mp isParsed
  obtain ⟨workspaceId, isWorkspace, answer⟩ :=
    Option.bind_eq_some_iff.mp answer
  obtain ⟨type, isType, answer⟩ := Option.bind_eq_some_iff.mp answer
  obtain ⟨sourceType, isSourceType, answer⟩ :=
    Option.bind_eq_some_iff.mp answer
  obtain ⟨sourceId, isSourceId, answer⟩ := Option.bind_eq_some_iff.mp answer
  obtain ⟨-, isInput⟩ := Option.ite_none_right_eq_some.mp answer
  obtain ⟨sourceTypeText, sourceIdText⟩ := AlertParts.source_texts parsed
  have creatorText := AlertParts.creator_text parsed
  have workspaceText :
      textAt ["workspaceId"] value = some parts.workspaceId := by
    obtain ⟨own, rfl, found⟩ :=
      strictObject_text parsed inputNames_distinct "workspaceId"
        (List.mem_cons_of_mem _ List.mem_cons_self) rfl
    exact textAt_of_lookup found
  have typeText :
      textAt ["type"] value = some (js parts.type.text) := by
    obtain ⟨own, rfl, found⟩ :=
      strictObject_text parsed inputNames_distinct "type"
        (List.mem_cons_of_mem _ (List.mem_cons_of_mem _ List.mem_cons_self))
        rfl
    exact textAt_of_lookup found
  rw [workspaceText] at isWorkspace
  rw [typeText, Option.bind_some, OperationalAlertType.parse_text] at isType
  rw [sourceTypeText, Option.bind_some,
    OperationalAlertSourceType.parse_text] at isSourceType
  rw [sourceIdText] at isSourceId
  obtain rfl := Option.some.inj isWorkspace
  obtain rfl := Option.some.inj isType
  obtain rfl := Option.some.inj isSourceType
  obtain rfl := Option.some.inj isSourceId
  obtain rfl := Option.some.inj isInput
  exact ⟨rfl, creatorText⟩

end TaskTwin.Alert
