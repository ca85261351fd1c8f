import TaskTwin.Alert.Contracts
import TaskTwin.Audit.VerificationService
import TaskTwin.Store.Table
import TaskTwin.Store.Transaction

/-!
# Appending and resolving operational alerts

An alert is found by its source.  It is announced to its recipients through
the outbox, and the audit trail is told of its creation and its resolution.
Both functions run in the transaction of their caller.
-/

namespace TaskTwin.Alert

open Text Schema Audit Store

/-- A member of the organization of a workspace. -/
structure Membership where
  userId : JsString
  role : OrganizationRole
  isActive : Bool
  deriving DecidableEq, Repr

inductive OperationalAlertResolutionReason where
  | approved
  | rejected
  | expired
  | cancelled
  | invalidated
  | retryApproved
  | aborted
  | resumed
  | archived
  deriving DecidableEq, Repr

/-- What an alert is unique by. -/
structure SourceIdentity where
  workspaceId : JsString
  type : OperationalAlertType
  sourceType : OperationalAlertSourceType
  sourceId : JsString
  deriving DecidableEq

structure OperationalAlert where
  id : JsString
  identity : SourceIdentity
  severity : OperationalAlertSeverity
  status : OperationalAlertStatus
  contractDigest : JsString
  createdAt : TimeValue
  resolvedAt : Option TimeValue
  resolutionReason : Option OperationalAlertResolutionReason
  resolvedByUserId : Option JsString

structure NotificationOutboxMessage where
  workspaceId : JsString
  alertId : JsString
  recipientUserId : JsString
  deduplicationKey : JsString
  deriving DecidableEq

structure AlertStore where
  /-- The members of the organization of a workspace that there is. -/
  members : JsString → Option (List Membership)
  alerts : List OperationalAlert
  outbox : List NotificationOutboxMessage
  audit : AuditStore

/-- What the store gives an alert that it inserts. -/
structure NewAlert where
  id : JsString
  createdAt : TimeValue

inductive OperationalAlertErrorCode where
  | invalid
  | sourceConflict
  | workspaceNotFound
  | resolutionConflict
  | recipientsExceeded
  deriving DecidableEq, Repr

/-- What the functions below throw. -/
inductive AlertFailure where
  | alert (code : OperationalAlertErrorCode)
  | audit (error : AuditError)
  | zodError
  | typeError
  /-- The store refuses an identifier that is taken. -/
  | uniqueConstraint
  deriving DecidableEq, Repr

/-- `createCanonicalJsonDigest`; `none` when it throws. -/
def createCanonicalJsonDigest
    (hasher : AuditHasher)
    (value : JsValue) :
    Option JsString :=
  (serializeCanonicalJson value).map hasher.sha256Hex

/-- `MAX_ALERT_RECIPIENTS`. -/
def maxAlertRecipients : Nat := 1000

def isRecipient
    (type : OperationalAlertType)
    (creatorUserId : Option JsString)
    (member : Membership) :
    Bool :=
  let privileged := member.role = .owner || member.role = .admin
  let creatorRouted :=
    creatorUserId = some member.userId &&
      (type = .runFailed || type = .runTimedOut || type = .runInterrupted ||
        type = .scheduleAutoPaused)
  member.isActive && (privileged || creatorRouted)

def resolveOperationalAlertRecipients
    (type : OperationalAlertType)
    (memberships : List Membership)
    (creatorUserId : Option JsString) :
    Except AlertFailure (List JsString) := do
  refuseIf (¬memberships.all fun member => isUuid member.userId) .zodError
  let recipients :=
    ((memberships.filter (isRecipient type creatorUserId)).map
      Membership.userId).dedup
  refuseIf (maxAlertRecipients < recipients.length)
    (.alert .recipientsExceeded)
  .ok (recipients.insertionSort (· ≤ ·))

/-- `segment`. -/
def segment (value : JsString) : JsString :=
  decimalText value.length ++ unit ':' :: value

/-- `createNotificationOutboxDeduplicationKey`; `none` when it throws. -/
def createNotificationOutboxDeduplicationKey
    (alertId recipientUserId : JsString) :
    Option JsString :=
  if isUuid alertId ∧ isUuid recipientUserId then
    some
      (js "outbox-v1|" ++ segment alertId ++ js "|" ++
        segment recipientUserId ++ js "|6:in_app")
  else
    none

/-- The message for a recipient. -/
def outboxMessage
    (workspaceId alertId recipientUserId : JsString) :
    Option NotificationOutboxMessage :=
  (createNotificationOutboxDeduplicationKey alertId recipientUserId).map
    fun deduplicationKey =>
      { workspaceId, alertId, recipientUserId, deduplicationKey }

/-- The keys by which a message is unique; the only channel is `IN_APP`. -/
def NotificationOutboxMessage.conflicts
    (message other : NotificationOutboxMessage) :
    Bool :=
  message.deduplicationKey = other.deduplicationKey ||
    (message.alertId = other.alertId &&
      message.recipientUserId = other.recipientUserId)

def recipientCount
    (outbox : List NotificationOutboxMessage)
    (alertId : JsString) :
    Nat :=
  outbox.countP fun message => message.alertId = alertId

def text (value : String) : JsValue := .string (js value)

/-- The input for an event about an alert. -/
def alertEvent
    (eventType : String)
    (actor : JsValue)
    (alertId : JsString)
    (identity : SourceIdentity)
    (severity : OperationalAlertSeverity)
    (occurredAt : TimeValue)
    (source : String)
    (recipientCount : Nat) :
    JsValue :=
  .object
    [(js "workspaceId", .string identity.workspaceId),
      (js "eventType", text eventType),
      (js "actor", actor),
      (js "primaryEntity",
        .object
          [(js "kind", text "operational_alert"),
            (js "id", .string alertId)]),
      (js "relatedEntities", .array []),
      (js "occurredAt", .string occurredAt.toISOString),
      (js "sourceId", .string (js source ++ unit ':' :: alertId)),
      (js "payload",
        .object
          [(js "alertId", .string alertId),
            (js "alertType", text identity.type.text),
            (js "severity", text severity.text),
            (js "sourceType", text identity.sourceType.text),
            (js "sourceId", .string identity.sourceId),
            (js "recipientCount", wholeNumberValue recipientCount)])]

def automaticActor : JsValue :=
  .object [(js "type", text "system"), (js "reason", text "automatic")]

/-- Who an alert is resolved by. -/
def resolvingActor : Option JsString → JsValue
  | none => automaticActor
  | some userId =>
      .object [(js "type", text "user"), (js "userId", .string userId)]

/-- The event of a creation, in which the severity is derived again. -/
def createdEvent
    (alertId : JsString)
    (identity : SourceIdentity)
    (createdAt : TimeValue)
    (recipientCount : Nat) :
    JsValue :=
  alertEvent "notification.alert.created" automaticActor alertId identity
    (deriveOperationalAlertSeverity identity.type) createdAt
    "notification-alert-created" recipientCount

def resolvedEvent
    (alert : OperationalAlert)
    (resolvedByUserId : Option JsString)
    (resolvedAt : TimeValue)
    (recipientCount : Nat) :
    JsValue :=
  alertEvent "notification.alert.resolved" (resolvingActor resolvedByUserId)
    alert.id alert.identity alert.severity resolvedAt
    "notification-alert-resolved" recipientCount

variable
    (parseOther : JsString → Option TimeValue)
    (hasher : AuditHasher)

/-- `appendAuditEventTransactional`; whether the event was there. -/
def appendAuditEventTransactional
    (db : AlertStore)
    (row : NewRow)
    (input : JsValue) :
    Except AlertFailure (AlertStore × Bool) :=
  match appendAuditEvent parseOther hasher db.audit { row, input } with
  | (audit, .ok result) => .ok ({ db with audit }, result.idempotent)
  | (_, .error error) => .error (.audit error)

def findAlert
    (identity : SourceIdentity)
    (alerts : List OperationalAlert) :
    Option OperationalAlert :=
  findUnique OperationalAlert.identity identity alerts

def TrustedOperationalAlertInput.identity
    (input : TrustedOperationalAlertInput) :
    SourceIdentity where
  workspaceId := input.workspaceId
  type := input.type
  sourceType := input.sourceType
  sourceId := input.sourceId

/-- The row that `upsert` creates. -/
def TrustedOperationalAlertInput.alert
    (input : TrustedOperationalAlertInput)
    (contractDigest : JsString)
    (new : NewAlert) :
    OperationalAlert where
  id := new.id
  identity := input.identity
  severity := deriveOperationalAlertSeverity input.type
  status := deriveInitialOperationalAlertStatus input.type
  contractDigest
  createdAt := new.createdAt
  resolvedAt := none
  resolutionReason := none
  resolvedByUserId := none

/-- The `upsert` of an alert, whose update changes nothing. -/
def upsertAlert
    (input : TrustedOperationalAlertInput)
    (contractDigest : JsString)
    (new : NewAlert)
    (alerts : List OperationalAlert) :
    Except AlertFailure (OperationalAlert × List OperationalAlert) :=
  match findAlert input.identity alerts with
  | some alert => .ok (alert, alerts)
  | none =>
      (orThrow .uniqueConstraint
          (createMany OperationalAlert.id [input.alert contractDigest new]
            alerts)).map
        fun alerts => (input.alert contractDigest new, alerts)

structure AppendResult where
  alertId : JsString
  recipientCount : Nat
  idempotent : Bool
  deriving DecidableEq, Repr

/-- Who an alert is announced to, as the members are now. -/
def currentRecipients
    (db : AlertStore)
    (input : TrustedOperationalAlertInput) :
    Except AlertFailure (List JsString) := do
  let members ←
    orThrow (.alert .workspaceNotFound) (db.members input.workspaceId)
  resolveOperationalAlertRecipients input.type
    (members.filter Membership.isActive) input.creatorUserId

/-- `append`, of an input that has parsed. -/
def appendParsed
    (db : AlertStore)
    (input : TrustedOperationalAlertInput)
    (new : NewAlert)
    (row : NewRow) :
    Except AlertFailure (AlertStore × AppendResult) := do
  let contractDigest ←
    orThrow .typeError (createCanonicalJsonDigest hasher input.value)
  let recipients ← currentRecipients db input
  let (alert, alerts) ← upsertAlert input contractDigest new db.alerts
  refuseIf (alert.contractDigest ≠ contractDigest) (.alert .sourceConflict)
  let messages ←
    orThrow .zodError
      (recipients.mapM (outboxMessage input.workspaceId alert.id))
  let outbox :=
    createManySkipDuplicates NotificationOutboxMessage.conflicts messages
      db.outbox
  let count := recipientCount outbox alert.id
  let (db, idempotent) ←
    appendAuditEventTransactional parseOther hasher { db with alerts, outbox }
      row (createdEvent alert.id input.identity alert.createdAt count)
  .ok (db, { alertId := alert.id, recipientCount := count, idempotent })

/-- `append`. -/
def append
    (db : AlertStore)
    (rawInput : JsValue)
    (new : NewAlert)
    (row : NewRow) :
    Except AlertFailure (AlertStore × AppendResult) := do
  let input ←
    orThrow (.alert .invalid) (parseTrustedOperationalAlertInput rawInput)
  appendParsed parseOther hasher db input new row

structure ResolveOperationalAlertInput where
  identity : SourceIdentity
  reason : OperationalAlertResolutionReason
  resolvedByUserId : Option JsString
  ignoreAlreadyResolved : Bool

/-- The columns that a resolution changes. -/
def OperationalAlert.resolve
    (alert : OperationalAlert)
    (input : ResolveOperationalAlertInput)
    (resolvedAt : TimeValue) :
    OperationalAlert :=
  { alert with
    status := .resolved
    resolvedAt := some resolvedAt
    resolutionReason := some input.reason
    resolvedByUserId := input.resolvedByUserId }

/-- The alerts after `resolve`, which throws where the reasons differ. -/
def resolveAlert
    (alert : OperationalAlert)
    (input : ResolveOperationalAlertInput)
    (resolvedAt : TimeValue)
    (alerts : List OperationalAlert) :
    Except AlertFailure (List OperationalAlert) :=
  if alert.status = .active then
    .ok
      (updateMany (fun row => row.id = alert.id)
        (fun row => row.resolve input resolvedAt) alerts)
  else if alert.resolutionReason ≠ some input.reason then
    .error (.alert .resolutionConflict)
  else
    .ok alerts

/-- `resolve`; without an alert of the source, nothing is answered. -/
def resolve
    (db : AlertStore)
    (input : ResolveOperationalAlertInput)
    (now : TimeValue)
    (row : NewRow) :
    Except AlertFailure (AlertStore × Option (JsString × Bool)) :=
  match findAlert input.identity db.alerts with
  | none => .ok (db, none)
  | some alert =>
      if alert.status = .informational then
        .ok (db, some (alert.id, true))
      else if alert.status = .resolved ∧ input.ignoreAlreadyResolved then
        .ok (db, some (alert.id, true))
      else do
        let resolvedAt := alert.resolvedAt.getD now
        let alerts ← resolveAlert alert input resolvedAt db.alerts
        let count := recipientCount db.outbox alert.id
        let (db, idempotent) ←
          appendAuditEventTransactional parseOther hasher { db with alerts }
            row (resolvedEvent alert input.resolvedByUserId resolvedAt count)
        .ok (db, some (alert.id, idempotent))

end TaskTwin.Alert
