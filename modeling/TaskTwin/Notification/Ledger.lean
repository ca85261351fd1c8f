import TaskTwin.Notification.Outbox

/-!
# The notification workers

A worker claims messages and processes each of them, in any order: it tries to
deliver the message, and where that fails it schedules a retry or gives the
message up.  A crash loses what a worker was about to do.
-/

namespace TaskTwin.Notification

open Text Store Alert

/-- What a worker has still to do for a message. -/
inductive Stage where
  | deliver
  | retryOrDeadLetter (retryable : Bool) (safeErrorCode : SafeErrorCode)
  deriving DecidableEq, Repr

/-- A call of `processMessage`. -/
structure Processing where
  workerId : JsString
  messageId : JsString
  attemptCount : Nat
  stage : Stage
  deriving DecidableEq, Repr

/-- Where `processMessage` begins. -/
def processMessage
    (workerId : JsString)
    (message : ClaimedMessage) :
    Processing where
  workerId
  messageId := message.id
  attemptCount := message.attemptCount
  stage :=
    if message.exhausted then
      .retryOrDeadLetter false .deliveryAttemptsExhausted
    else
      .deliver

/-- Where it goes on after `deliver`; a delivered message is done. -/
def Processing.afterDelivery
    (processing : Processing) :
    DeliveryResult → Option Processing
  | .delivered => none
  | .permanent safeErrorCode =>
      some
        { processing with stage := .retryOrDeadLetter false safeErrorCode }
  | .retryable safeErrorCode =>
      some { processing with stage := .retryOrDeadLetter true safeErrorCode }

/-- The input of the retry. -/
def Processing.retry
    (processing : Processing)
    (retryable : Bool)
    (safeErrorCode : SafeErrorCode) :
    RetryOrDeadLetter where
  messageId := processing.messageId
  workerId := processing.workerId
  attemptCount := processing.attemptCount
  retryable
  safeErrorCode

/-- The database, and what the workers are doing. -/
structure System (Trail : Type) where
  db : Database Trail
  processing : List Processing
  /-- The messages that were handed out for delivery. -/
  handouts : List JsString

/-- A message that an append adds to the outbox. -/
def enqueued
    (message : NotificationOutboxMessage)
    (id : JsString)
    (availableAt : Nat) :
    OutboxRow :=
  { message with id, availableAt }

/-- The columns by which rows of the outbox are unique. -/
def OutboxRow.conflicts (row other : OutboxRow) : Bool :=
  row.id = other.id ||
    row.toNotificationOutboxMessage.conflicts other.toNotificationOutboxMessage

inductive Event where
  | enqueue
      (message : NotificationOutboxMessage)
      (id : JsString)
      (availableAt : Nat)
  | changeAlerts (alerts : List AlertRow)
  | changeDirectory (directory : Directory)
  | claimDue
      (input : ClaimDue)
      (isLocked : JsString → Bool)
      (clock : ClaimClock)
  | deliver (index : Nat) (clock : DeliveryClock) (fails : Bool)
  | retryOrDeadLetter (index : Nat) (clock : RetryClock) (fails : Bool)
  | crash (workerId : JsString)

/-- The clock does not go back within a transaction. -/
def DeliveryClock.isOrdered (clock : DeliveryClock) : Bool :=
  clock.owned ≤ clock.changed &&
    clock.deliveredAt.all fun deliveredAt =>
      clock.owned ≤ deliveredAt && deliveredAt ≤ clock.changed

variable {Trail : Type}

namespace System

def enqueue
    (row : OutboxRow)
    (system : System Trail) :
    System Trail :=
  { system with
    db :=
      { system.db with
        outbox :=
          createManySkipDuplicates OutboxRow.conflicts [row]
            system.db.outbox } }

def claimDue
    (input : ClaimDue)
    (isLocked : JsString → Bool)
    (clock : ClaimClock)
    (system : System Trail) :
    System Trail :=
  let (db, claimed) := Notification.claimDue input isLocked clock system.db
  { db
    processing :=
      system.processing ++ claimed.map (processMessage input.workerId)
    handouts :=
      system.handouts ++
        (claimed.filter fun message => !message.exhausted).map
          ClaimedMessage.id }

/-- The next call of a worker that is to deliver a message. -/
def deliver
    (index : Nat)
    (clock : DeliveryClock)
    (fails : Bool)
    (system : System Trail) :
    Option (System Trail) := do
  let processing ← system.processing[index]?
  match processing.stage with
  | .retryOrDeadLetter _ _ => none
  | .deliver =>
      let (db, result) :=
        Notification.deliver processing.messageId processing.workerId clock
          fails system.db
      some
        { system with
          db
          processing :=
            system.processing.eraseIdx index ++
              (processing.afterDelivery result).toList }

variable
    (append : Trail → JsValue → Option Trail)
    (toISOString : Nat → JsString)

/-- The next call of a worker that did not deliver a message.  Where it
throws, nothing is changed, and the message is not processed further. -/
def retryOrDeadLetter
    (index : Nat)
    (clock : RetryClock)
    (fails : Bool)
    (system : System Trail) :
    Option (System Trail) := do
  let processing ← system.processing[index]?
  match processing.stage with
  | .deliver => none
  | .retryOrDeadLetter retryable safeErrorCode =>
      let answer :=
        Notification.retryOrDeadLetter append toISOString
          (processing.retry retryable safeErrorCode) clock system.db
      let db :=
        match answer with
        | some (db, _) => if fails then system.db else db
        | none => system.db
      some
        { system with db, processing := system.processing.eraseIdx index }

/-- What an event makes of a system, if it is possible. -/
def step (system : System Trail) : Event → Option (System Trail)
  | .enqueue message id availableAt =>
      some (system.enqueue (enqueued message id availableAt))
  | .changeAlerts alerts =>
      some { system with db := { system.db with alerts } }
  | .changeDirectory directory =>
      some { system with db := { system.db with directory } }
  | .claimDue input isLocked clock =>
      if clock.selected ≤ clock.changed then
        some (system.claimDue input isLocked clock)
      else
        none
  | .deliver index clock fails =>
      if clock.isOrdered then system.deliver index clock fails else none
  | .retryOrDeadLetter index clock fails =>
      if clock.owned ≤ clock.changed then
        system.retryOrDeadLetter append toISOString index clock fails
      else
        none
  | .crash workerId =>
      some
        { system with
          processing :=
            system.processing.filter fun processing =>
              processing.workerId ≠ workerId }

/-- A run of events. -/
def run (system : System Trail) : List Event → Option (System Trail)
  | [] => some system
  | event :: events =>
      (system.step append toISOString event).bind fun next => next.run events

end System

end TaskTwin.Notification

namespace TaskTwin.Notification

open Text Store Alert

/-- A recipient was notified of an alert. -/
def IsNotified
    (notifications : List UserNotification)
    (key : JsString × JsString) :
    Prop :=
  ∃ notification ∈ notifications, notification.key = key

structure RowFits
    (notifications : List UserNotification)
    (handouts : List JsString)
    (row : OutboxRow) :
    Prop where
  pending : row.status = .pending → row.attemptCount < maxDeliveryAttempts
  processing :
    row.status = .processing →
      ∃ lockedUntil, row.lockedUntil = some lockedUntil
  attempts : row.attemptCount ≤ maxDeliveryAttempts
  handouts : handouts.count row.id = row.attemptCount
  delivered : row.status = .delivered ↔ IsNotified notifications row.key

structure Ledger
    (outbox : List OutboxRow)
    (notifications : List UserNotification)
    (handouts : List JsString) :
    Prop where
  ids : (outbox.map OutboxRow.id).Nodup
  keys : (outbox.map OutboxRow.key).Nodup
  notified : (notifications.map UserNotification.key).Nodup
  fits : ∀ row ∈ outbox, RowFits notifications handouts row
  fromMessages :
    ∀ notification ∈ notifications,
      ∃ row ∈ outbox, row.key = notification.key
  known : ∀ id ∈ handouts, ∃ row ∈ outbox, row.id = id

def System.Fits {Trail : Type} (system : System Trail) : Prop :=
  Ledger system.db.outbox system.db.userNotifications system.handouts

variable
    {outbox : List OutboxRow}
    {notifications notifications' : List UserNotification}
    {handouts : List JsString}

/-- A change that keeps what a message is found by. -/
structure KeepsKeys (change : OutboxRow → OutboxRow) : Prop where
  id : ∀ row, (change row).id = row.id
  key : ∀ row, (change row).key = row.key

theorem KeepsKeys.ite
    {change : OutboxRow → OutboxRow}
    (keeps : KeepsKeys change)
    (applies : OutboxRow → Bool) :
    KeepsKeys fun row => if applies row then change row else row := by
  constructor <;> intro row <;> split
  · exact keeps.id row
  · rfl
  · exact keeps.key row
  · rfl

/-- Messages change in place, and what they have come to still fits. -/
theorem Ledger.map
    {handouts' : List JsString}
    {change : OutboxRow → OutboxRow}
    (ledger : Ledger outbox notifications handouts)
    (keeps : KeepsKeys change)
    (notified : (notifications'.map UserNotification.key).Nodup)
    (fromMessages :
      ∀ notification ∈ notifications',
        ∃ row ∈ outbox, row.key = notification.key)
    (known : ∀ id ∈ handouts', ∃ row ∈ outbox, row.id = id)
    (fits : ∀ row ∈ outbox, RowFits notifications' handouts' (change row)) :
    Ledger (outbox.map change) notifications' handouts' where
  ids := nodup_map_of_keeps keeps.id ledger.ids
  keys := nodup_map_of_keeps keeps.key ledger.keys
  notified
  fits := List.forall_mem_map.mpr fits
  fromMessages := by
    intro notification isNotification
    obtain ⟨row, isRow, isKey⟩ := fromMessages notification isNotification
    exact ⟨change row, List.mem_map_of_mem isRow, (keeps.key row).trans isKey⟩
  known := by
    intro id isHandout
    obtain ⟨row, isRow, isId⟩ := known id isHandout
    exact ⟨change row, List.mem_map_of_mem isRow, (keeps.id row).trans isId⟩

/-- Changing a message, and telling nobody else of anything. -/
theorem Ledger.changeMessage
    {messageId : JsString}
    {message : OutboxRow}
    {change : OutboxRow → OutboxRow}
    (ledger : Ledger outbox notifications handouts)
    (keeps : KeepsKeys change)
    (found : findUnique OutboxRow.id messageId outbox = some message)
    (notified : (notifications'.map UserNotification.key).Nodup)
    (others :
      ∀ key, key ≠ message.key →
        (IsNotified notifications' key ↔ IsNotified notifications key))
    (fits : RowFits notifications' handouts (change message)) :
    Ledger (updateMany (fun row => row.id = messageId) change outbox)
      notifications' handouts := by
  obtain ⟨listed, isMessage⟩ := mem_of_findUnique found
  refine ledger.map (keeps.ite _) notified ?fromMessages ledger.known ?fits
  case fromMessages =>
    intro notification isNotification
    by_cases sameKey : notification.key = message.key
    · exact ⟨message, listed, sameKey.symm⟩
    · obtain ⟨before, isBefore, sameKey'⟩ :=
        (others notification.key sameKey).mp
          ⟨notification, isNotification, rfl⟩
      obtain ⟨row, isRow, isKey⟩ := ledger.fromMessages before isBefore
      exact ⟨row, isRow, isKey.trans sameKey'⟩
  case fits =>
    intro row isRow
    by_cases sameId : row.id = messageId
    · obtain rfl :=
        eq_of_key ledger.ids isRow listed (sameId.trans isMessage.symm)
      rw [if_pos (decide_eq_true sameId)]
      exact fits
    · rw [if_neg (by simpa using sameId)]
      have before := ledger.fits row isRow
      have otherKey : row.key ≠ message.key := by
        intro sameKey
        have same := eq_of_key ledger.keys isRow listed sameKey
        exact sameId (same ▸ isMessage)
      exact
        { pending := before.pending
          processing := before.processing
          attempts := before.attempts
          handouts := before.handouts
          delivered := before.delivered.trans (others row.key otherKey).symm }

theorem mem_dueRows
    {isLocked : JsString → Bool}
    {batchSize now : Nat}
    {row : OutboxRow}
    (due : row ∈ dueRows isLocked batchSize now outbox) :
    row ∈ outbox ∧ row.isDue now = true := by
  have selected :
      row ∈ outbox.filter fun row => row.isDue now && !isLocked row.id :=
    (List.perm_insertionSort _ _).mem_iff.mp (List.mem_of_mem_take due)
  obtain ⟨listed, passes⟩ := List.mem_filter.mp selected
  exact ⟨listed, (Bool.and_eq_true_iff.mp passes).1⟩

theorem nodup_dueRows
    {isLocked : JsString → Bool}
    {batchSize now : Nat}
    (ids : (outbox.map OutboxRow.id).Nodup) :
    ((dueRows isLocked batchSize now outbox).map OutboxRow.id).Nodup := by
  have selected :
      ((outbox.filter fun row => row.isDue now && !isLocked row.id).map
        OutboxRow.id).Nodup :=
    ids.sublist (List.filter_sublist.map _)
  have sorted :=
    ((List.perm_insertionSort (comesBefore · ·)
      (outbox.filter fun row => row.isDue now && !isLocked row.id)).map
        OutboxRow.id).nodup_iff.mpr selected
  exact sorted.sublist ((List.take_sublist _ _).map _)

/-- What a message that is due has come to. -/
theorem isDue_cases
    {row : OutboxRow}
    {now : Nat}
    (due : row.isDue now = true) :
    (row.status = .pending ∨ row.status = .processing) ∧
      (row.exhausted = false → row.attemptCount < maxDeliveryAttempts) := by
  simp only [OutboxRow.isDue, Bool.and_eq_true, Bool.or_eq_true,
    decide_eq_true_eq] at due
  obtain ⟨waits, attempts⟩ := due
  refine ⟨waits.imp And.left And.left, fun notExhausted => ?_⟩
  rcases attempts with attemptsLeft | ⟨processing, isLast⟩
  · exact attemptsLeft
  · simp [OutboxRow.exhausted, processing, isLast] at notExhausted

theorem Ledger.claim
    {due : List OutboxRow}
    {workerId : JsString}
    {now lockedUntil : Nat}
    (ledger : Ledger outbox notifications handouts)
    (areDue : ∀ row ∈ due, row ∈ outbox ∧ row.isDue now = true)
    (distinct : (due.map OutboxRow.id).Nodup) :
    Ledger
      (updateMany (fun row => due.any fun claimed => claimed.id = row.id)
        (fun row => row.claim workerId lockedUntil) outbox)
      notifications
      (handouts ++
        (due.filter fun row => !row.exhausted).map OutboxRow.id) := by
  have keeps :
      KeepsKeys fun row => row.claim workerId lockedUntil :=
    ⟨fun _ => rfl, fun _ => rfl⟩
  refine ledger.map (keeps.ite _) ledger.notified ledger.fromMessages ?known
    ?fits
  case known =>
    intro id isHandout
    rcases List.mem_append.mp isHandout with before | now
    · exact ledger.known id before
    · obtain ⟨row, isClaimed, isId⟩ := List.mem_map.mp now
      have isDue := (List.mem_filter.mp isClaimed).1
      exact ⟨row, (areDue row isDue).1, isId⟩
  case fits =>
    intro row isRow
    have before := ledger.fits row isRow
    have isDue_of_sameId :
        ∀ claimed ∈ due, claimed.id = row.id → claimed = row :=
      fun claimed isClaimed sameId =>
        eq_of_key ledger.ids (areDue claimed isClaimed).1 isRow sameId
    by_cases isDue : row ∈ due
    · rw [if_pos (List.any_eq_true.mpr ⟨row, isDue, by simp⟩)]
      obtain ⟨waits, attemptsLeft⟩ := isDue_cases (areDue row isDue).2
      have notDelivered : row.status ≠ .delivered := by
        rcases waits with pending | processing
        · simp [pending]
        · simp [processing]
      cases exhausted : row.exhausted with
      | true =>
          have notCounted :
              ((due.filter fun row => !row.exhausted).map
                OutboxRow.id).count row.id = 0 := by
            refine List.count_eq_zero.mpr fun counted => ?_
            obtain ⟨claimed, isClaimed, sameId⟩ := List.mem_map.mp counted
            obtain ⟨listed, notExhausted⟩ := List.mem_filter.mp isClaimed
            rw [isDue_of_sameId claimed listed sameId, exhausted]
              at notExhausted
            cases notExhausted
          exact
            { pending := NotificationOutboxStatus.noConfusion
              processing := fun _ => ⟨lockedUntil, rfl⟩
              attempts := by
                simp only [OutboxRow.claim, exhausted, if_true]
                exact before.attempts
              handouts := by
                simp only [OutboxRow.claim, exhausted, if_true]
                rw [List.count_append, notCounted]
                exact before.handouts
              delivered :=
                ⟨NotificationOutboxStatus.noConfusion,
                  fun isNotified =>
                    absurd (before.delivered.mpr isNotified) notDelivered⟩ }
      | false =>
          have counted :
              ((due.filter fun row => !row.exhausted).map
                OutboxRow.id).count row.id = 1 :=
            List.count_eq_one_of_mem
              (distinct.sublist (List.filter_sublist.map _))
              (List.mem_map_of_mem
                (List.mem_filter.mpr ⟨isDue, by simp [exhausted]⟩))
          exact
            { pending := NotificationOutboxStatus.noConfusion
              processing := fun _ => ⟨lockedUntil, rfl⟩
              attempts := by
                simp only [OutboxRow.claim, exhausted]
                exact attemptsLeft exhausted
              handouts := by
                simp only [OutboxRow.claim, exhausted]
                rw [List.count_append, counted]
                exact congrArg (· + 1) before.handouts
              delivered :=
                ⟨NotificationOutboxStatus.noConfusion,
                  fun isNotified =>
                    absurd (before.delivered.mpr isNotified) notDelivered⟩ }
    · have notClaimed :
          ¬(due.any fun claimed => claimed.id = row.id) = true := by
        intro claimed
        obtain ⟨other, isOther, sameId⟩ := List.any_eq_true.mp claimed
        exact isDue
          (isDue_of_sameId other isOther (of_decide_eq_true sameId) ▸ isOther)
      rw [if_neg notClaimed]
      have notCounted :
          ((due.filter fun row => !row.exhausted).map
            OutboxRow.id).count row.id = 0 := by
        refine List.count_eq_zero.mpr fun counted => ?_
        obtain ⟨claimed, isClaimed, sameId⟩ := List.mem_map.mp counted
        have listed := (List.mem_filter.mp isClaimed).1
        exact isDue (isDue_of_sameId claimed listed sameId ▸ listed)
      exact
        { pending := before.pending
          processing := before.processing
          attempts := before.attempts
          handouts := by
            rw [List.count_append, notCounted]
            exact before.handouts
          delivered := before.delivered }

theorem conflicts_eq_false
    {row other : OutboxRow}
    (conflictFree : row.conflicts other = false) :
    row.id ≠ other.id ∧ row.key ≠ other.key := by
  simp only [OutboxRow.conflicts, NotificationOutboxMessage.conflicts,
    Bool.or_eq_false_iff, Bool.and_eq_false_iff, decide_eq_false_iff_not]
    at conflictFree
  obtain ⟨otherId, -, otherAddress⟩ := conflictFree
  refine ⟨otherId, fun sameKey => ?_⟩
  obtain ⟨sameAlert, sameRecipient⟩ := Prod.mk.inj sameKey
  rcases otherAddress with otherAlert | otherRecipient
  · exact otherAlert sameAlert
  · exact otherRecipient sameRecipient

theorem Ledger.enqueue
    {message : NotificationOutboxMessage}
    {id : JsString}
    {availableAt : Nat}
    (ledger : Ledger outbox notifications handouts) :
    Ledger
      (createManySkipDuplicates OutboxRow.conflicts
        [enqueued message id availableAt] outbox)
      notifications handouts := by
  have isCreated :
      createManySkipDuplicates OutboxRow.conflicts
          [enqueued message id availableAt] outbox =
        if outbox.any (enqueued message id availableAt).conflicts then outbox
        else outbox ++ [enqueued message id availableAt] := rfl
  rw [isCreated]
  split
  case isTrue => exact ledger
  case isFalse free =>
    have conflictFree :
        ∀ row ∈ outbox,
          id ≠ row.id ∧ (enqueued message id availableAt).key ≠ row.key := by
      intro row isRow
      have noConflict :
          (enqueued message id availableAt).conflicts row = false :=
        Bool.eq_false_iff.mpr fun conflicts =>
          free (List.any_eq_true.mpr ⟨row, isRow, conflicts⟩)
      exact conflicts_eq_false noConflict
    have neverHandedOut : id ∉ handouts := by
      intro isHandout
      obtain ⟨row, isRow, sameId⟩ := ledger.known id isHandout
      exact (conflictFree row isRow).1 sameId.symm
    have neverNotified :
        ¬IsNotified notifications (enqueued message id availableAt).key := by
      rintro ⟨notification, isNotification, sameKey⟩
      obtain ⟨row, isRow, sameKey'⟩ :=
        ledger.fromMessages notification isNotification
      exact (conflictFree row isRow).2 (sameKey'.trans sameKey).symm
    refine
      { ids := ?ids
        keys := ?keys
        notified := ledger.notified
        fits := ?fits
        fromMessages := ?fromMessages
        known := ?known }
    case ids =>
      rw [List.map_append, List.map_singleton, ← List.concat_eq_append]
      refine ledger.ids.concat fun isThere => ?_
      obtain ⟨row, isRow, sameId⟩ := List.mem_map.mp isThere
      exact (conflictFree row isRow).1 sameId.symm
    case keys =>
      rw [List.map_append, List.map_singleton, ← List.concat_eq_append]
      refine ledger.keys.concat fun isThere => ?_
      obtain ⟨row, isRow, sameKey⟩ := List.mem_map.mp isThere
      exact (conflictFree row isRow).2 sameKey.symm
    case fits =>
      intro row isRow
      rcases List.mem_append.mp isRow with before | isNew
      · exact ledger.fits row before
      · rw [List.mem_singleton.mp isNew]
        exact
          { pending := fun _ => Nat.succ_pos _
            processing := NotificationOutboxStatus.noConfusion
            attempts := Nat.zero_le _
            handouts := List.count_eq_zero.mpr neverHandedOut
            delivered :=
              ⟨NotificationOutboxStatus.noConfusion,
                fun isNotified => absurd isNotified neverNotified⟩ }
    case fromMessages =>
      intro notification isNotification
      obtain ⟨row, isRow, isKey⟩ :=
        ledger.fromMessages notification isNotification
      exact ⟨row, List.mem_append_left _ isRow, isKey⟩
    case known =>
      intro handout isHandout
      obtain ⟨row, isRow, isId⟩ := ledger.known handout isHandout
      exact ⟨row, List.mem_append_left _ isRow, isId⟩

theorem upsertNotification_notified
    {notification : UserNotification}
    (notified : (notifications.map UserNotification.key).Nodup) :
    ((upsertNotification notification notifications).map
        UserNotification.key).Nodup ∧
      ∀ key,
        IsNotified (upsertNotification notification notifications) key ↔
          IsNotified notifications key ∨ key = notification.key := by
  unfold upsertNotification
  split
  case h_1 existing found =>
    obtain ⟨isThere, sameKey⟩ := mem_of_findUnique found
    refine ⟨notified, fun key => ⟨Or.inl, ?_⟩⟩
    rintro (before | isKey)
    · exact before
    · exact ⟨existing, isThere, sameKey.trans isKey.symm⟩
  case h_2 notFound =>
    have isNew : notification.key ∉ notifications.map UserNotification.key := by
      intro isThere
      obtain ⟨other, isOther, sameKey⟩ := List.mem_map.mp isThere
      have differs := List.find?_eq_none.mp notFound other isOther
      exact differs (decide_eq_true sameKey)
    constructor
    · rw [List.map_append, List.map_singleton, ← List.concat_eq_append]
      exact notified.concat isNew
    · intro key
      constructor
      · rintro ⟨other, isOther, sameKey⟩
        rcases List.mem_append.mp isOther with before | isNotification
        · exact Or.inl ⟨other, before, sameKey⟩
        · rw [List.mem_singleton.mp isNotification] at sameKey
          exact Or.inr sameKey.symm
      · rintro (⟨other, isOther, sameKey⟩ | isKey)
        · exact ⟨other, List.mem_append_left _ isOther, sameKey⟩
        · exact
            ⟨notification, List.mem_append_right _ (List.mem_singleton_self _),
              isKey.symm⟩

end TaskTwin.Notification
