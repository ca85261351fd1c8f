import TaskTwin.Alert.Appender

/-!
# The outbox of notifications

Each of `claimDue`, `deliver` and `retryOrDeadLetter` is one transaction.  The
rows it is about are locked until it commits; the clock is read whenever a
statement asks for it, and goes on between two statements.
-/

namespace TaskTwin.Notification

open Text Schema Audit Store Alert

/-- `MAX_DELIVERY_ATTEMPTS`. -/
def maxDeliveryAttempts : Nat := 5

/-- `RETRY_DELAYS_SECONDS`. -/
def retryDelaysSeconds : List Nat := [15, 60, 300, 900]

def retryDelaySeconds (attemptCount : Nat) : Option Nat :=
  if attemptCount < 1 ∨ maxDeliveryAttempts ≤ attemptCount then
    none
  else
    retryDelaysSeconds[attemptCount - 1]?

/-- The codes that a worker gives. -/
inductive SafeErrorCode where
  | outboxLeaseLost
  | alertTemplateInvalid
  | alertActionTargetInvalid
  | recipientMembershipRevoked
  | recipientNoLongerEligible
  | databaseTimeUnavailable
  | inAppDeliveryTransient
  | deliveryAttemptsExhausted
  deriving DecidableEq, Repr

namespace SafeErrorCode

def text : SafeErrorCode → String
  | .outboxLeaseLost => "OUTBOX_LEASE_LOST"
  | .alertTemplateInvalid => "ALERT_TEMPLATE_INVALID"
  | .alertActionTargetInvalid => "ALERT_ACTION_TARGET_INVALID"
  | .recipientMembershipRevoked => "RECIPIENT_MEMBERSHIP_REVOKED"
  | .recipientNoLongerEligible => "RECIPIENT_NO_LONGER_ELIGIBLE"
  | .databaseTimeUnavailable => "DATABASE_TIME_UNAVAILABLE"
  | .inAppDeliveryTransient => "IN_APP_DELIVERY_TRANSIENT"
  | .deliveryAttemptsExhausted => "DELIVERY_ATTEMPTS_EXHAUSTED"

/-- `SafeCodeSchema` accepts the code: `/^[A-Z][A-Z0-9_]*$/`, of 2 to 80
units. -/
def isSafe (code : SafeErrorCode) : Bool :=
  let units := code.text.toList
  decide (2 ≤ units.length ∧ units.length ≤ 80) &&
    (units.head?.any fun unit => unit.isUpper) &&
    units.all fun unit => unit.isUpper || unit.isDigit || unit == '_'

/-- Parsing a code never throws. -/
theorem all_safe (code : SafeErrorCode) : code.isSafe = true := by
  cases code <;> decide +kernel

end SafeErrorCode

inductive NotificationOutboxStatus where
  | pending
  | processing
  | delivered
  | deadLetter
  deriving DecidableEq, Repr

def NotificationOutboxStatus.isTerminal : NotificationOutboxStatus → Bool
  | .delivered | .deadLetter => true
  | _ => false

/-- A message with the columns that its delivery changes.  Times are
milliseconds. -/
structure OutboxRow extends NotificationOutboxMessage where
  id : JsString
  status : NotificationOutboxStatus := .pending
  attemptCount : Nat := 0
  availableAt : Nat
  lockedBy : Option JsString := none
  lockedUntil : Option Nat := none
  lastErrorCode : Option SafeErrorCode := none
  deliveredAt : Option Nat := none
  deadLetteredAt : Option Nat := none
  deriving DecidableEq

/-- An alert with the columns that its notification is rendered from. -/
structure AlertRow extends OperationalAlert where
  templateParameters : JsValue
  actionTarget : JsValue

structure UserNotification where
  alertId : JsString
  recipientUserId : JsString
  workspaceId : JsString
  deliveredAt : Nat
  deriving DecidableEq

def UserNotification.key
    (notification : UserNotification) :
    JsString × JsString :=
  (notification.alertId, notification.recipientUserId)

def OutboxRow.key (row : OutboxRow) : JsString × JsString :=
  (row.alertId, row.recipientUserId)

/-- A run or a schedule, and who created it. -/
structure OwnedRow where
  id : JsString
  workspaceId : JsString
  createdByUserId : JsString
  deriving DecidableEq

/-- Who works in a workspace, and what was created there. -/
structure Directory where
  /-- The members of the organization of a workspace. -/
  members : JsString → List Membership
  runs : List OwnedRow
  schedules : List OwnedRow

structure Database (Trail : Type) where
  directory : Directory
  alerts : List AlertRow
  outbox : List OutboxRow
  userNotifications : List UserNotification
  trail : Trail

namespace Database

variable {Trail : Type}

def message? (db : Database Trail) (messageId : JsString) : Option OutboxRow :=
  findUnique OutboxRow.id messageId db.outbox

/-- The message and its alert. -/
def messageWithAlert?
    (db : Database Trail)
    (messageId : JsString) :
    Option (OutboxRow × AlertRow) := do
  let message ← db.message? messageId
  let alert ←
    findUnique (fun alert : AlertRow => alert.id) message.alertId db.alerts
  some (message, alert)

/-- Changing one message. -/
def changeMessage
    (db : Database Trail)
    (messageId : JsString)
    (change : OutboxRow → OutboxRow) :
    Database Trail :=
  { db with
    outbox := updateMany (fun row => row.id = messageId) change db.outbox }

end Database

/-- The lease of a worker on a message, when the clock says `now`. -/
def OutboxRow.isOwned
    (row : OutboxRow)
    (workerId : JsString)
    (now : Nat) :
    Bool :=
  row.status = .processing && row.lockedBy = some workerId &&
    row.lockedUntil.any fun lockedUntil => now < lockedUntil

/-- The message that a worker has the lease of. -/
def Database.owned?
    {Trail : Type}
    (db : Database Trail)
    (messageId workerId : JsString)
    (now : Nat) :
    Option OutboxRow :=
  (db.message? messageId).filter fun row => row.isOwned workerId now

def OutboxRow.exhausted (row : OutboxRow) : Bool :=
  row.status = .processing && maxDeliveryAttempts ≤ row.attemptCount

/-- A message that `claimDue` selects. -/
def OutboxRow.isDue (row : OutboxRow) (now : Nat) : Bool :=
  ((row.status = .pending && row.availableAt ≤ now) ||
      (row.status = .processing &&
        row.lockedUntil.any fun lockedUntil => lockedUntil ≤ now)) &&
    (row.attemptCount < maxDeliveryAttempts ||
      (row.status = .processing && row.attemptCount = maxDeliveryAttempts))

/-- `ORDER BY "available_at", "id"`. -/
def comesBefore (row other : OutboxRow) : Bool :=
  row.availableAt < other.availableAt ||
    (row.availableAt = other.availableAt && row.id ≤ other.id)

structure ClaimDue where
  workerId : JsString
  batchSize : Nat
  leaseSeconds : Nat

/-- The clock when the rows are selected, and when they are changed. -/
structure ClaimClock where
  selected : Nat
  changed : Nat

structure ClaimedMessage where
  id : JsString
  attemptCount : Nat
  exhausted : Bool
  deriving DecidableEq, Repr

/-- The columns that a claim changes. -/
def OutboxRow.claim
    (row : OutboxRow)
    (workerId : JsString)
    (lockedUntil : Nat) :
    OutboxRow :=
  { row with
    status := .processing
    attemptCount :=
      if row.exhausted then row.attemptCount else row.attemptCount + 1
    lockedBy := some workerId
    lockedUntil := some lockedUntil }

/-- The rows that a claim selects; it skips those that others have locked. -/
def dueRows
    (isLocked : JsString → Bool)
    (batchSize now : Nat)
    (outbox : List OutboxRow) :
    List OutboxRow :=
  ((outbox.filter fun row => row.isDue now && !isLocked row.id).insertionSort
    (comesBefore · ·)).take batchSize

variable {Trail : Type}

def claimDue
    (input : ClaimDue)
    (isLocked : JsString → Bool)
    (clock : ClaimClock)
    (db : Database Trail) :
    Database Trail × List ClaimedMessage :=
  let batchSize := max 1 (min 100 input.batchSize)
  let leaseSeconds := max 5 (min 300 input.leaseSeconds)
  let due := dueRows isLocked batchSize clock.selected db.outbox
  let lockedUntil := clock.changed + 1000 * leaseSeconds
  ({ db with
      outbox :=
        updateMany (fun row => due.any fun claimed => claimed.id = row.id)
          (fun row => row.claim input.workerId lockedUntil) db.outbox },
    due.map fun row =>
      { id := row.id
        attemptCount := (row.claim input.workerId lockedUntil).attemptCount
        exhausted := row.exhausted })

inductive DeliveryResult where
  | delivered
  | permanent (safeErrorCode : SafeErrorCode)
  | retryable (safeErrorCode : SafeErrorCode)
  deriving DecidableEq, Repr

/-- The first membership of an active user. -/
def Directory.activeMember?
    (directory : Directory)
    (workspaceId userId : JsString) :
    Option Membership :=
  (directory.members workspaceId).find? fun member =>
    member.userId = userId && member.isActive

/-- Rows with an identifier, of a workspace and of a creator. -/
def countOwned
    (rows : List OwnedRow)
    (id workspaceId createdByUserId : JsString) :
    Nat :=
  rows.countP fun row =>
    row.id = id && row.workspaceId = workspaceId &&
      row.createdByUserId = createdByUserId

/-- `type.startsWith('run_')`. -/
def isRunType (type : OperationalAlertType) : Bool :=
  (js "run_").isPrefixOf (js type.text)

def creatorEligible
    (directory : Directory)
    (message : OutboxRow)
    (alert : AlertRow) :
    Bool :=
  if isRunType alert.identity.type then
    countOwned directory.runs alert.identity.sourceId message.workspaceId
      message.recipientUserId = 1
  else if alert.identity.type = .scheduleAutoPaused then
    countOwned directory.schedules alert.identity.sourceId message.workspaceId
      message.recipientUserId = 1
  else
    false

/-- Why the recipient of a message is not notified, if so. -/
def recipientRefusal
    (directory : Directory)
    (message : OutboxRow)
    (alert : AlertRow) :
    Option SafeErrorCode :=
  match
    directory.activeMember? message.workspaceId message.recipientUserId
  with
  | none => some .recipientMembershipRevoked
  | some member =>
      let privileged := member.role = .owner || member.role = .admin
      if !privileged && !creatorEligible directory message alert then
        some .recipientNoLongerEligible
      else
        none

/-- Why a message is not delivered, if so. -/
def refusal
    (directory : Directory)
    (message : OutboxRow)
    (alert : AlertRow) :
    Option SafeErrorCode :=
  if (operationalAlertTemplate alert.templateParameters).isNone then
    some .alertTemplateInvalid
  else if (operationalAlertActionTarget alert.actionTarget).isNone then
    some .alertActionTargetInvalid
  else
    recipientRefusal directory message alert

/-- `upsert` of a notification, whose update changes nothing. -/
def upsertNotification
    (notification : UserNotification)
    (rows : List UserNotification) :
    List UserNotification :=
  match findUnique UserNotification.key notification.key rows with
  | some _ => rows
  | none => rows ++ [notification]

/-- The clock when the lease is looked at, when the time of delivery is asked
for, and when the message is changed. -/
structure DeliveryClock where
  owned : Nat
  deliveredAt : Option Nat
  changed : Nat

def OutboxRow.deliver (row : OutboxRow) (deliveredAt : Nat) : OutboxRow :=
  { row with
    status := .delivered
    deliveredAt := some deliveredAt
    lockedBy := none
    lockedUntil := none
    lastErrorCode := none }

/-- The notification and the message of a recipient that is eligible. -/
def deliverTo
    (message : OutboxRow)
    (workerId : JsString)
    (deliveredAt : Nat)
    (db : Database Trail) :
    Database Trail × DeliveryResult :=
  let notification : UserNotification :=
    { alertId := message.alertId
      recipientUserId := message.recipientUserId
      workspaceId := message.workspaceId
      deliveredAt }
  let notified :=
    { db with
      userNotifications := upsertNotification notification db.userNotifications }
  match db.owned? message.id workerId deliveredAt with
  | some _ =>
      (notified.changeMessage message.id fun row => row.deliver deliveredAt,
        .delivered)
  | none => (notified, .permanent .outboxLeaseLost)

/-- The transaction of `deliver`. -/
def deliverInTransaction
    (messageId workerId : JsString)
    (clock : DeliveryClock)
    (db : Database Trail) :
    Database Trail × DeliveryResult :=
  match db.owned? messageId workerId clock.owned with
  | none => (db, .permanent .outboxLeaseLost)
  | some _ =>
      match db.messageWithAlert? messageId with
      | none => (db, .permanent .outboxLeaseLost)
      | some (message, alert) =>
          match refusal db.directory message alert with
          | some safeErrorCode => (db, .permanent safeErrorCode)
          | none =>
              match clock.deliveredAt with
              | none => (db, .retryable .databaseTimeUnavailable)
              | some deliveredAt => deliverTo message workerId deliveredAt db

/-- `deliver`; a transaction that fails is rolled back. -/
def deliver
    (messageId workerId : JsString)
    (clock : DeliveryClock)
    (fails : Bool)
    (db : Database Trail) :
    Database Trail × DeliveryResult :=
  if fails then
    (db, .retryable .inAppDeliveryTransient)
  else
    deliverInTransaction messageId workerId clock db

inductive RetryResult where
  | retryScheduled
  | deadLettered
  | lostLease
  deriving DecidableEq, Repr

structure RetryOrDeadLetter where
  messageId : JsString
  workerId : JsString
  attemptCount : Nat
  retryable : Bool
  safeErrorCode : SafeErrorCode

/-- The clock when the lease is looked at, and when the message is changed. -/
structure RetryClock where
  owned : Nat
  changed : Nat

/-- When a message is tried again. -/
def RetryOrDeadLetter.delay (input : RetryOrDeadLetter) : Option Nat :=
  if input.retryable then retryDelaySeconds input.attemptCount else none

def OutboxRow.scheduleRetry
    (row : OutboxRow)
    (availableAt : Nat)
    (safeErrorCode : SafeErrorCode) :
    OutboxRow :=
  { row with
    status := .pending
    availableAt
    lockedBy := none
    lockedUntil := none
    lastErrorCode := some safeErrorCode }

def OutboxRow.letDie
    (row : OutboxRow)
    (deadLetteredAt : Nat)
    (safeErrorCode : SafeErrorCode) :
    OutboxRow :=
  { row with
    status := .deadLetter
    lockedBy := none
    lockedUntil := none
    lastErrorCode := some safeErrorCode
    deadLetteredAt := some deadLetteredAt }

/-- The event of a message that is not tried again. -/
def deadLetteredEvent
    (message : OutboxRow)
    (alert : AlertRow)
    (deadLetteredAt : JsString) :
    JsValue :=
  .object
    [(js "workspaceId", .string message.workspaceId),
      (js "eventType", text "notification.delivery.dead_lettered"),
      (js "actor",
        .object
          [(js "type", text "system"),
            (js "reason", text "notification_worker")]),
      (js "primaryEntity",
        .object
          [(js "kind", text "notification_outbox_message"),
            (js "id", .string message.id)]),
      (js "relatedEntities",
        .array
          [.object
            [(js "kind", text "operational_alert"),
              (js "id", .string message.alertId)]]),
      (js "occurredAt", .string deadLetteredAt),
      (js "sourceId",
        .string (js "notification-dead-lettered" ++ unit ':' :: message.id)),
      (js "payload",
        .object
          [(js "alertId", .string message.alertId),
            (js "alertType", text alert.identity.type.text),
            (js "severity", text alert.severity.text),
            (js "sourceType", text alert.identity.sourceType.text),
            (js "sourceId", .string alert.identity.sourceId),
            (js "recipientCount", wholeNumberValue 1)])]

variable
    (append : Trail → JsValue → Option Trail)
    (toISOString : Nat → JsString)

/-- `retryOrDeadLetter`; `none` when it throws and is rolled back. -/
def retryOrDeadLetter
    (input : RetryOrDeadLetter)
    (clock : RetryClock)
    (db : Database Trail) :
    Option (Database Trail × RetryResult) :=
  match db.owned? input.messageId input.workerId clock.owned with
  | none => some (db, .lostLease)
  | some _ =>
      match db.messageWithAlert? input.messageId with
      | none => some (db, .lostLease)
      | some (message, alert) =>
          match db.owned? input.messageId input.workerId clock.changed with
          | none => some (db, .lostLease)
          | some _ =>
              match input.delay with
              | some delay =>
                  some
                    (db.changeMessage input.messageId fun row =>
                      row.scheduleRetry (clock.changed + 1000 * delay)
                        input.safeErrorCode,
                    .retryScheduled)
              | none =>
                  (append db.trail
                    (deadLetteredEvent message alert
                      (toISOString clock.changed))).map fun trail =>
                    ({ db.changeMessage input.messageId fun row =>
                        row.letDie clock.changed input.safeErrorCode with
                        trail },
                      .deadLettered)

end TaskTwin.Notification
