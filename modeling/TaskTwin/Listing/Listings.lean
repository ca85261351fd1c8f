import Mathlib.Data.Prod.Lex
import Mathlib.Order.OrderDual
import TaskTwin.Collection.Keyset
import TaskTwin.Lifecycle.Rows
import TaskTwin.Policy.Evaluation
import TaskTwin.RunStore.Rows

/-!
# Listing runs and audit events

The two listings that are read page by page.  Runs come newest first and audit
events by sequence; rows that tie come by their identifiers, and so do the
cursors that name the last row of a page.
-/

namespace TaskTwin.Listing

open Text Schema Collection

structure OrganizationMember where
  organizationId : Uuid
  userId : Uuid
  role : RunStore.OrganizationRole
  deriving DecidableEq, Repr

structure Workspace where
  id : Uuid
  organizationId : Uuid
  deriving DecidableEq, Repr

/-- What is listed of a run as it is in its row. -/
structure RunListItem where
  id : Uuid
  workspaceId : Uuid
  workflowId : JsString
  workflowVersionId : Uuid
  workflowVersion : Nat
  runnerDeviceId : Uuid
  createdByUserId : Uuid
  clientRunId : Uuid
  status : RunStore.WorkflowRunStatus
  definitionDigest : JsString
  policyVersionId : Option Uuid
  policyDigest : Option JsString
  lastProgressSequence : Nat
  createdAt : TimeValue
  updatedAt : TimeValue
  claimedAt : Option TimeValue
  startedAt : Option TimeValue
  cancelRequestedAt : Option TimeValue
  finishedAt : Option TimeValue
  terminationCause : Option JsString
  stepCount : Nat

/-- What `runListSelect` selects of a run. -/
structure RunListRow extends RunListItem where
  policyEvaluation : JsValue

structure WorkflowRunListItemRecord extends RunListItem where
  policyDecision : Option Policy.PolicyDecision
  policyHighestRisk : Option Policy.PolicyRiskLevel

/-- The tables that `listRuns` reads; the runs have a primary key. -/
structure RunTables where
  members : List OrganizationMember
  workspaces : List Workspace
  runs : List RunListRow
  distinctIds : (runs.map fun run => run.id).Nodup

structure WorkflowRunAccess where
  organizationId : Uuid
  userId : Uuid
  role : RunStore.OrganizationRole
  deriving DecidableEq, Repr

structure RunCursor where
  createdAt : TimeValue
  id : Uuid
  deriving DecidableEq, Repr

structure WorkflowRunListRecord where
  workspaceId : Uuid
  access : WorkflowRunAccess
  runs : List WorkflowRunListItemRecord
  nextCursor : Option RunCursor

def resolveWorkspaceAccess
    (tables : RunTables)
    (userId workspaceId : Uuid) :
    Option WorkflowRunAccess :=
  (tables.members.find? fun member =>
      member.userId == userId &&
        tables.workspaces.any fun workspace =>
          workspace.id == workspaceId &&
            workspace.organizationId == member.organizationId).map
    fun member =>
      { organizationId := member.organizationId, userId, role := member.role }

namespace RunListRow

/-- `WorkflowPolicyEvaluationSchema` is a parameter. -/
def toListRecord
    (parseEvaluation : JsValue → Option Policy.WorkflowPolicyEvaluation)
    (row : RunListRow) :
    WorkflowRunListItemRecord :=
  let parsed := parseEvaluation row.policyEvaluation
  { row with
    policyDecision := parsed.map Policy.WorkflowPolicyEvaluation.overallDecision
    policyHighestRisk := parsed.map Policy.WorkflowPolicyEvaluation.highestRisk }

def cursor (row : RunListRow) : RunCursor :=
  { createdAt := row.createdAt, id := row.id }

/-- `orderBy: [{ createdAt: 'desc' }, { id: 'asc' }]`. -/
def NotAfter (first second : RunListRow) : Prop :=
  second.createdAt.milliseconds < first.createdAt.milliseconds ∨
    first.createdAt.milliseconds = second.createdAt.milliseconds ∧
      first.id.value ≤ second.id.value

instance : DecidableRel NotAfter := fun first second =>
  inferInstanceAs
    (Decidable
      (second.createdAt.milliseconds < first.createdAt.milliseconds ∨
        first.createdAt.milliseconds = second.createdAt.milliseconds ∧
          first.id.value ≤ second.id.value))

/-- Newer runs come first, and of equally old ones the smaller identifier. -/
def key (row : RunListRow) : ℤᵒᵈ ×ₗ ℕ :=
  toLex (OrderDual.toDual row.createdAt.milliseconds, row.id.value)

end RunListRow

/-- The condition of `listRuns` on what stands behind its cursor. -/
def RunCursor.isBehind (cursor : RunCursor) (row : RunListRow) : Bool :=
  row.createdAt.milliseconds < cursor.createdAt.milliseconds ||
    row.createdAt.milliseconds == cursor.createdAt.milliseconds &&
      cursor.id.value < row.id.value

def listRuns
    (parseEvaluation : JsValue → Option Policy.WorkflowPolicyEvaluation)
    (tables : RunTables)
    (actorUserId workspaceId : Uuid)
    (limit : Nat)
    (cursor : Option RunCursor) :
    Option WorkflowRunListRecord :=
  match resolveWorkspaceAccess tables actorUserId workspaceId with
  | none => none
  | some access =>
      let rows :=
        readPage RunListRow.NotAfter (fun row => row.workspaceId == workspaceId)
          RunCursor.isBehind limit tables.runs cursor
      let page := rows.take limit
      some
        { workspaceId
          access
          runs := page.map (RunListRow.toListRecord parseEvaluation)
          nextCursor := cursorBehind RunListRow.cursor limit rows }

/-- A row of the table of audit events. -/
structure WorkspaceAuditEvent where
  id : Uuid
  workspaceId : Uuid
  sequence : Int
  schemaVersion : Int
  eventType : JsString
  actorType : JsString
  actorId : JsString
  actorReason : Option JsString
  primaryEntityKind : JsString
  primaryEntityId : JsString
  /-- The column, when it holds a list. -/
  relatedEntities : Option (List Audit.AuditEntityRef)
  occurredAt : TimeValue
  sourceId : JsString
  correlationId : Option JsString
  payload : JsValue
  payloadDigest : JsString
  previousHash : JsString
  eventHash : JsString
  createdAt : TimeValue

structure AuditEventTable where
  events : List WorkspaceAuditEvent
  distinctIds : (events.map WorkspaceAuditEvent.id).Nodup

structure AuditEventRecord where
  id : Uuid
  schemaVersion : Int
  workspaceId : Uuid
  sequence : Int
  eventType : JsString
  actor : Audit.AuditActor
  primaryEntity : Audit.AuditEntityRef
  relatedEntities : List Audit.AuditEntityRef
  occurredAt : JsString
  sourceId : JsString
  correlationId : Option JsString
  payload : JsValue
  payloadDigest : JsString
  previousHash : JsString
  eventHash : JsString
  createdAt : JsString

structure AuditCursor where
  sequence : Int
  id : Uuid
  deriving DecidableEq, Repr

structure ListAuditEventsFilters where
  workspaceId : Uuid
  eventTypes : Option (List JsString)
  primaryEntityKind : Option JsString
  primaryEntityId : Option JsString
  correlationId : Option JsString
  occurredAfter : Option TimeValue
  occurredBefore : Option TimeValue
  limit : Option JsNumber
  deriving DecidableEq, Repr

structure ListAuditEventsResult where
  events : List AuditEventRecord
  nextCursor : Option AuditCursor

def asEntityRef (entity : Audit.AuditEntityRef) : Audit.AuditEntityRef :=
  { entity with
    kind :=
      if Audit.isOneOf Audit.auditEntityKinds entity.kind then entity.kind
      else js "workflow" }

namespace WorkspaceAuditEvent

def actor (row : WorkspaceAuditEvent) : Audit.AuditActor :=
  let reason := row.actorReason.getD []
  if row.actorType = js "user" ∧ reason = [] then
    .user row.actorId
  else if row.actorType = js "runner" ∧ reason = [] then
    .runner row.actorId
  else if Audit.isOneOf Audit.auditSystemReasons reason then
    .system reason
  else
    .system (js "automatic_expiry")

def toAuditEventRecord (row : WorkspaceAuditEvent) : AuditEventRecord :=
  { row with
    actor := row.actor
    primaryEntity :=
      asEntityRef { kind := row.primaryEntityKind, id := row.primaryEntityId }
    relatedEntities := (row.relatedEntities.getD []).map asEntityRef
    occurredAt := row.occurredAt.toISOString
    createdAt := row.createdAt.toISOString }

def cursor (row : WorkspaceAuditEvent) : AuditCursor :=
  { sequence := row.sequence, id := row.id }

/-- `orderBy: [{ sequence: 'asc' }, { id: 'asc' }]`. -/
def NotAfter (first second : WorkspaceAuditEvent) : Prop :=
  first.sequence < second.sequence ∨
    first.sequence = second.sequence ∧ first.id.value ≤ second.id.value

instance : DecidableRel NotAfter := fun first second =>
  inferInstanceAs
    (Decidable
      (first.sequence < second.sequence ∨
        first.sequence = second.sequence ∧ first.id.value ≤ second.id.value))

/-- By sequence, and of equal ones the smaller identifier. -/
def key (row : WorkspaceAuditEvent) : ℤ ×ₗ ℕ :=
  toLex (row.sequence, row.id.value)

end WorkspaceAuditEvent

/-- The conditions of `listAuditEvents`, but for the cursor. -/
def ListAuditEventsFilters.matches
    (filters : ListAuditEventsFilters)
    (row : WorkspaceAuditEvent) :
    Bool :=
  row.workspaceId == filters.workspaceId &&
    (filters.eventTypes.all fun eventTypes =>
      eventTypes.isEmpty || eventTypes.contains row.eventType) &&
    filters.primaryEntityKind.all (· == row.primaryEntityKind) &&
    filters.primaryEntityId.all (· == row.primaryEntityId) &&
    filters.correlationId.all (some · == row.correlationId) &&
    (filters.occurredAfter.all fun bound =>
      bound.milliseconds ≤ row.occurredAt.milliseconds) &&
    filters.occurredBefore.all fun bound =>
      row.occurredAt.milliseconds ≤ bound.milliseconds

def AuditCursor.isBehind
    (cursor : AuditCursor)
    (row : WorkspaceAuditEvent) :
    Bool :=
  cursor.sequence < row.sequence ||
    row.sequence == cursor.sequence && cursor.id.value < row.id.value

def defaultLimit : Nat := 50
def minLimit : Nat := 1
def maxLimit : Nat := 100

def clampLimit : Option JsNumber → Nat
  | none => defaultLimit
  | some limit =>
      match wholeNumber limit with
      | none => minLimit
      | some whole =>
          if whole < minLimit then minLimit
          else if maxLimit < whole then maxLimit
          else whole.toNat

def listAuditEvents
    (table : AuditEventTable)
    (filters : ListAuditEventsFilters)
    (cursor : Option AuditCursor) :
    ListAuditEventsResult :=
  let limit := clampLimit filters.limit
  let rows :=
    readPage WorkspaceAuditEvent.NotAfter filters.matches AuditCursor.isBehind
      limit table.events cursor
  let trimmed := if limit < rows.length then rows.take limit else rows
  { events := trimmed.map WorkspaceAuditEvent.toAuditEventRecord
    nextCursor :=
      if limit < rows.length then
        trimmed.getLast?.map WorkspaceAuditEvent.cursor
      else
        none }

theorem RunListRow.notAfter_iff (first second : RunListRow) :
    first.NotAfter second ↔ first.key ≤ second.key := by
  simp [NotAfter, key, Prod.Lex.toLex_le_toLex]

theorem RunListRow.key_lt (first second : RunListRow) :
    first.key < second.key ↔
      second.createdAt.milliseconds < first.createdAt.milliseconds ∨
        first.createdAt.milliseconds = second.createdAt.milliseconds ∧
          first.id.value < second.id.value := by
  simp [key, Prod.Lex.toLex_lt_toLex]

theorem RunListRow.isBehind_cursor (row other : RunListRow) :
    row.cursor.isBehind other = decide (row.key < other.key) := by
  rw [Bool.eq_iff_iff, decide_eq_true_eq, key_lt]
  unfold RunCursor.isBehind cursor
  simp only [Bool.or_eq_true, Bool.and_eq_true, decide_eq_true_eq, beq_iff_eq]
  omega

theorem RunListRow.nodup_keys
    {rows : List RunListRow}
    (distinctIds : (rows.map fun row => row.id).Nodup) :
    (rows.map RunListRow.key).Nodup := by
  refine List.Nodup.of_map (fun place => Uuid.mk (ofLex place).2) ?_
  rwa [List.map_map]

theorem WorkspaceAuditEvent.notAfter_iff (first second : WorkspaceAuditEvent) :
    first.NotAfter second ↔ first.key ≤ second.key := by
  simp [NotAfter, key, Prod.Lex.toLex_le_toLex]

theorem WorkspaceAuditEvent.key_lt (first second : WorkspaceAuditEvent) :
    first.key < second.key ↔
      first.sequence < second.sequence ∨
        first.sequence = second.sequence ∧
          first.id.value < second.id.value := by
  simp [key, Prod.Lex.toLex_lt_toLex]

theorem WorkspaceAuditEvent.isBehind_cursor (row other : WorkspaceAuditEvent) :
    row.cursor.isBehind other = decide (row.key < other.key) := by
  rw [Bool.eq_iff_iff, decide_eq_true_eq, key_lt]
  unfold AuditCursor.isBehind cursor
  simp only [Bool.or_eq_true, Bool.and_eq_true, decide_eq_true_eq, beq_iff_eq]
  omega

theorem WorkspaceAuditEvent.nodup_keys
    {rows : List WorkspaceAuditEvent}
    (distinctIds : (rows.map WorkspaceAuditEvent.id).Nodup) :
    (rows.map WorkspaceAuditEvent.key).Nodup := by
  refine List.Nodup.of_map (fun place => Uuid.mk (ofLex place).2) ?_
  rwa [List.map_map]

theorem clampLimit_pos (limit : Option JsNumber) : 0 < clampLimit limit := by
  unfold clampLimit minLimit maxLimit defaultLimit
  split
  · decide
  · split
    · decide
    · split
      · decide
      · split
        · decide
        · omega

theorem listRuns_answers
    (parseEvaluation : JsValue → Option Policy.WorkflowPolicyEvaluation)
    {tables : RunTables}
    {actorUserId workspaceId : Uuid}
    {access : WorkflowRunAccess}
    (isAccess :
      resolveWorkspaceAccess tables actorUserId workspaceId = some access)
    (limit : Nat)
    (cursor : Option RunCursor) :
    AnswersPage RunListRow.cursor limit
      (listRuns parseEvaluation tables actorUserId workspaceId limit)
      WorkflowRunListRecord.nextCursor
      WorkflowRunListRecord.runs
      (RunListRow.toListRecord parseEvaluation)
      cursor
      (readPage RunListRow.NotAfter (fun row => row.workspaceId == workspaceId)
        RunCursor.isBehind limit tables.runs cursor) := by
  unfold AnswersPage listRuns
  rw [isAccess]
  exact ⟨_, rfl, rfl, rfl⟩

theorem listAuditEvents_answers
    (table : AuditEventTable)
    (filters : ListAuditEventsFilters)
    (cursor : Option AuditCursor) :
    AnswersPage WorkspaceAuditEvent.cursor (clampLimit filters.limit)
      (fun cursor => some (listAuditEvents table filters cursor))
      ListAuditEventsResult.nextCursor
      ListAuditEventsResult.events
      WorkspaceAuditEvent.toAuditEventRecord
      cursor
      (readPage WorkspaceAuditEvent.NotAfter filters.matches
        AuditCursor.isBehind (clampLimit filters.limit) table.events
        cursor) := by
  refine ⟨_, rfl, ?_, ?_⟩
  case refine_1 =>
    dsimp only [listAuditEvents]
    split
    case isTrue hasMore => rfl
    case isFalse isLast =>
      rw [List.take_of_length_le (Nat.le_of_not_lt isLast)]
  case refine_2 =>
    dsimp only [listAuditEvents, cursorBehind]
    split
    case isTrue hasMore => rfl
    case isFalse isLast => rfl

/--
Following the cursors of either listing ends, and shows every row that matches
once, newest runs first and audit events by sequence, ties by identifier.
-/
theorem listings_showAll :
    (∀ parseEvaluation tables actorUserId workspaceId limit,
      0 < limit →
      (resolveWorkspaceAccess tables actorUserId workspaceId).isSome = true →
      ShowsAll
        (listRuns parseEvaluation tables actorUserId workspaceId limit)
        WorkflowRunListRecord.nextCursor
        WorkflowRunListRecord.runs
        (RunListRow.toListRecord parseEvaluation)
        (fun first second =>
          second.createdAt.milliseconds < first.createdAt.milliseconds ∨
            first.createdAt.milliseconds = second.createdAt.milliseconds ∧
              first.id.value < second.id.value)
        (tables.runs.filter fun row => row.workspaceId == workspaceId)) ∧
      ∀ table filters,
        ShowsAll
          (fun cursor => some (listAuditEvents table filters cursor))
          ListAuditEventsResult.nextCursor
          ListAuditEventsResult.events
          WorkspaceAuditEvent.toAuditEventRecord
          (fun first second =>
            first.sequence < second.sequence ∨
              first.sequence = second.sequence ∧
                first.id.value < second.id.value)
          (table.events.filter filters.matches) := by
  constructor
  case left =>
    intro parseEvaluation tables actorUserId workspaceId limit positive
      hasAccess
    obtain ⟨access, isAccess⟩ := Option.isSome_iff_exists.mp hasAccess
    have distinct := RunListRow.nodup_keys tables.distinctIds
    have shown :=
      showsAll_of_pages RunListRow.notAfter_iff RunListRow.isBehind_cursor
        distinct positive
        (listRuns_answers parseEvaluation isAccess limit)
    simpa only [RunListRow.key_lt] using shown
  case right =>
    intro table filters
    have distinct := WorkspaceAuditEvent.nodup_keys table.distinctIds
    have shown :=
      showsAll_of_pages WorkspaceAuditEvent.notAfter_iff
        WorkspaceAuditEvent.isBehind_cursor distinct
        (clampLimit_pos filters.limit)
        (listAuditEvents_answers table filters)
    simpa only [WorkspaceAuditEvent.key_lt] using shown

theorem exampleTime_inRange : -maxTime ≤ 0 ∧ 0 ≤ maxTime := by decide

def exampleTime : TimeValue where
  milliseconds := 0
  inRange := exampleTime_inRange

/-- Runs that were created at one time. -/
def exampleRun (number : Nat) : RunListRow :=
  { id := ⟨number⟩
    workspaceId := ⟨1⟩
    workflowId := js "flow"
    workflowVersionId := ⟨2⟩
    workflowVersion := 1
    runnerDeviceId := ⟨3⟩
    createdByUserId := ⟨4⟩
    clientRunId := ⟨number⟩
    status := .queued
    definitionDigest := js "digest"
    policyVersionId := none
    policyDigest := none
    lastProgressSequence := 0
    createdAt := exampleTime
    updatedAt := exampleTime
    claimedAt := none
    startedAt := none
    cancelRequestedAt := none
    finishedAt := none
    terminationCause := none
    stepCount := 1
    policyEvaluation := .null }

def exampleTables : RunTables :=
  { members := [{ organizationId := ⟨9⟩, userId := ⟨4⟩, role := .member }]
    workspaces := [{ id := ⟨1⟩, organizationId := ⟨9⟩ }]
    runs := [exampleRun 7, exampleRun 5, exampleRun 6]
    distinctIds := by decide }

/-- Three runs of one time, read one by one. -/
theorem listings_showAll_exampleTables :
    ∃ responses,
      Follows (listRuns (fun _ => none) exampleTables ⟨4⟩ ⟨1⟩ 1)
          WorkflowRunListRecord.nextCursor none responses ∧
        (responses.flatMap WorkflowRunListRecord.runs).length = 3 := by
  obtain ⟨responses, shown, follows, sameRows, -, shows⟩ :=
    listings_showAll.1 (fun _ => none) exampleTables ⟨4⟩ ⟨1⟩ 1 (by decide)
      (by decide)
  refine ⟨responses, follows, ?_⟩
  rw [shows, List.length_map, sameRows.length_eq]
  rfl

end TaskTwin.Listing
