import TaskTwin.Notification.Ledger

/-!
# The law of delivery

A message is changed by nobody but the worker whose lease on it lasts, is
tried five times at most, and ends delivered with a notification or dead
without one, while leases last and retries have attempts left.
-/

namespace TaskTwin.Notification

open Text Audit Store Alert

variable
    {Trail : Type}
    {append : Trail → JsValue → Option Trail}
    {toISOString : Nat → JsString}
    {db db' : Database Trail}

theorem owned?_eq_some
    {messageId workerId : JsString}
    {now : Nat}
    {message : OutboxRow} :
    db.owned? messageId workerId now = some message ↔
      db.message? messageId = some message ∧
        message.isOwned workerId now = true := by
  rw [Database.owned?, Option.filter_eq_some_iff]

theorem isOwned_processing
    {row : OutboxRow}
    {workerId : JsString}
    {now : Nat}
    (owned : row.isOwned workerId now = true) :
    row.status = .processing := by
  simp only [OutboxRow.isOwned, Bool.and_eq_true, decide_eq_true_eq] at owned
  exact owned.1.1

/-- A lease that lasts until later lasts until now. -/
theorem isOwned_earlier
    {row : OutboxRow}
    {workerId : JsString}
    {earlier later : Nat}
    (owned : row.isOwned workerId later = true)
    (isEarlier : earlier ≤ later) :
    row.isOwned workerId earlier = true := by
  simp only [OutboxRow.isOwned, Bool.and_eq_true, decide_eq_true_eq] at owned ⊢
  refine ⟨owned.1, ?_⟩
  cases isUntil : row.lockedUntil with
  | none =>
      rw [isUntil] at owned
      cases owned.2
  | some lockedUntil =>
      have lasts : later < lockedUntil := by simpa [isUntil] using owned.2
      simpa using lt_of_le_of_lt isEarlier lasts

theorem messageWithAlert?_eq_some
    {messageId : JsString}
    {message : OutboxRow}
    {alert : AlertRow}
    (found : db.messageWithAlert? messageId = some (message, alert)) :
    db.message? messageId = some message := by
  simp only [Database.messageWithAlert?, Option.bind_eq_bind,
    Option.bind_eq_some_iff, Option.some.injEq, Prod.mk.injEq] at found
  obtain ⟨row, isRow, _, _, rfl, _⟩ := found
  exact isRow

/-- A delivery that goes on to notify has a lease that lasts until the end of
its transaction. -/
def DeliversInTime
    (db : Database Trail)
    (messageId workerId : JsString)
    (clock : DeliveryClock) :
    Prop :=
  ∀ message alert deliveredAt,
    db.owned? messageId workerId clock.owned = some message →
    db.messageWithAlert? messageId = some (message, alert) →
    refusal db.directory message alert = none →
    clock.deliveredAt = some deliveredAt →
    message.isOwned workerId clock.changed = true

/-- The notification that a delivery leaves behind. -/
def OutboxRow.notification
    (message : OutboxRow)
    (deliveredAt : Nat) :
    UserNotification where
  alertId := message.alertId
  recipientUserId := message.recipientUserId
  workspaceId := message.workspaceId
  deliveredAt

/-- A delivery in time changes nothing, or notifies the recipient and marks
the message as delivered. -/
theorem deliver_cases
    {messageId workerId : JsString}
    {clock : DeliveryClock}
    {fails : Bool}
    (ordered : clock.isOrdered = true)
    (inTime : fails = false → DeliversInTime db messageId workerId clock) :
    (deliver messageId workerId clock fails db).1 = db ∨
      ∃ message deliveredAt,
        db.message? messageId = some message ∧
          message.isOwned workerId clock.changed = true ∧
          (deliver messageId workerId clock fails db).1 =
            { db with
              outbox :=
                updateMany (fun row => row.id = messageId)
                  (fun row => row.deliver deliveredAt) db.outbox
              userNotifications :=
                upsertNotification (message.notification deliveredAt)
                  db.userNotifications } := by
  cases fails with
  | true => exact Or.inl rfl
  | false =>
      specialize inTime rfl
      simp only [deliver, Bool.false_eq_true, if_false]
      unfold deliverInTransaction
      cases isOwned : db.owned? messageId workerId clock.owned with
      | none => exact Or.inl rfl
      | some owned =>
          dsimp only
          cases found : db.messageWithAlert? messageId with
          | none => exact Or.inl rfl
          | some answer =>
              obtain ⟨message, alert⟩ := answer
              dsimp only
              cases refused : refusal db.directory message alert with
              | some code => exact Or.inl rfl
              | none =>
                  dsimp only
                  cases isTime : clock.deliveredAt with
                  | none => exact Or.inl rfl
                  | some deliveredAt =>
                      have isMessage := messageWithAlert?_eq_some found
                      obtain rfl : owned = message :=
                        Option.some.inj
                          ((owned?_eq_some.mp isOwned).1.symm.trans isMessage)
                      have lasts :=
                        inTime owned alert deliveredAt isOwned found refused
                          isTime
                      have inOrder : deliveredAt ≤ clock.changed := by
                        simp only [DeliveryClock.isOrdered, isTime,
                          Option.all_some, Bool.and_eq_true,
                          decide_eq_true_eq] at ordered
                        exact ordered.2.2
                      have isId : owned.id = messageId :=
                        (mem_of_findUnique isMessage).2
                      have stillOwned :
                          db.owned? owned.id workerId deliveredAt =
                            some owned :=
                        owned?_eq_some.mpr
                          ⟨isId.symm ▸ isMessage,
                            isOwned_earlier lasts inOrder⟩
                      refine Or.inr
                        ⟨owned, deliveredAt, isMessage, lasts, ?_⟩
                      dsimp only [deliverTo]
                      rw [stillOwned, isId]
                      rfl

/-- A retry is scheduled only where attempts are left. -/
def RetriesInTime
    (db : Database Trail)
    (input : RetryOrDeadLetter)
    (clock : RetryClock) :
    Prop :=
  ∀ message,
    db.owned? input.messageId input.workerId clock.changed = some message →
    input.delay.isSome = true →
    message.attemptCount < maxDeliveryAttempts

/-- A retry changes nothing, or the message that the worker has the lease
of. -/
theorem retryOrDeadLetter_cases
    {input : RetryOrDeadLetter}
    {clock : RetryClock}
    {result : RetryResult}
    (inTime : RetriesInTime db input clock)
    (returns :
      retryOrDeadLetter append toISOString input clock db =
        some (db', result)) :
    db' = db ∨
      ∃ message,
        db.message? input.messageId = some message ∧
          message.isOwned input.workerId clock.changed = true ∧
          ((message.attemptCount < maxDeliveryAttempts ∧
              ∃ availableAt,
                db' =
                  db.changeMessage input.messageId fun row =>
                    row.scheduleRetry availableAt input.safeErrorCode) ∨
            ∃ trail,
              db' =
                { db.changeMessage input.messageId fun row =>
                    row.letDie clock.changed input.safeErrorCode with
                  trail }) := by
  unfold retryOrDeadLetter at returns
  split at returns
  case h_1 notOwned =>
    cases returns
    exact Or.inl rfl
  case h_2 owned isOwned =>
    split at returns
    case h_1 notFound =>
      cases returns
      exact Or.inl rfl
    case h_2 message alert found =>
      split at returns
      case h_1 lost =>
        cases returns
        exact Or.inl rfl
      case h_2 still stillOwned =>
        obtain ⟨isMessage, lasts⟩ := owned?_eq_some.mp stillOwned
        refine Or.inr ⟨still, isMessage, lasts, ?_⟩
        split at returns
        case h_1 delay isDelay =>
          cases returns
          have attemptsLeft := inTime still stillOwned (by rw [isDelay]; rfl)
          exact Or.inl ⟨attemptsLeft, _, rfl⟩
        case h_2 noDelay =>
          obtain ⟨trail, -, isAnswer⟩ := Option.map_eq_some_iff.mp returns
          cases isAnswer
          exact Or.inr ⟨trail, rfl⟩

/-- What a run needs of each of its events. -/
def Event.InTime (system : System Trail) : Event → Prop
  | .deliver index clock fails =>
      ∀ processing,
        system.processing[index]? = some processing →
        processing.stage = .deliver →
        fails = false →
        DeliversInTime system.db processing.messageId processing.workerId clock
  | .retryOrDeadLetter index clock fails =>
      ∀ processing retryable safeErrorCode,
        system.processing[index]? = some processing →
        processing.stage = .retryOrDeadLetter retryable safeErrorCode →
        fails = false →
        RetriesInTime system.db (processing.retry retryable safeErrorCode) clock
  | _ => True

/-- Who may change a message: `claimDue` where it is due, and a worker whose
lease on it lasts. -/
def Event.MayChange
    (event : Event)
    (system : System Trail)
    (row : OutboxRow) :
    Prop :=
  match event with
  | .claimDue _ _ clock => row.isDue clock.selected = true
  | .deliver index clock _ =>
      ∃ processing,
        system.processing[index]? = some processing ∧
          processing.messageId = row.id ∧
          row.isOwned processing.workerId clock.changed = true
  | .retryOrDeadLetter index clock _ =>
      ∃ processing,
        system.processing[index]? = some processing ∧
          processing.messageId = row.id ∧
          row.isOwned processing.workerId clock.changed = true
  | _ => False

/-- Changing a message leaves the others as they are. -/
theorem mem_changed
    {messageId : JsString}
    {change : OutboxRow → OutboxRow}
    {outbox : List OutboxRow}
    {row : OutboxRow}
    (listed : row ∈ outbox)
    (otherId : row.id ≠ messageId) :
    row ∈ updateMany (fun row => row.id = messageId) change outbox :=
  List.mem_map.mpr ⟨row, listed, if_neg (by simpa using otherId)⟩

/-- What one event does to the messages. -/
structure StepLaw (event : Event) (system system' : System Trail) : Prop where
  fits : system'.Fits
  rows :
    ∀ row ∈ system.db.outbox,
      row ∈ system'.db.outbox ∨ event.MayChange system row

variable {system : System Trail}

theorem claimDue_stepLaw
    {input : ClaimDue}
    {isLocked : JsString → Bool}
    {clock : ClaimClock}
    (fits : system.Fits) :
    StepLaw (.claimDue input isLocked clock) system
      (system.claimDue input isLocked clock) := by
  have areDue :=
    fun row due => @mem_dueRows system.db.outbox isLocked
      (max 1 (min 100 input.batchSize)) clock.selected row due
  constructor
  case fits =>
    have claimed :=
      @Ledger.claim _ _ _ _ input.workerId _
        (clock.changed + 1000 * max 5 (min 300 input.leaseSeconds)) fits areDue
        (nodup_dueRows fits.ids)
    have sameHandouts :
        ((Notification.claimDue input isLocked clock system.db).2.filter
            fun message => !message.exhausted).map ClaimedMessage.id =
          ((dueRows isLocked (max 1 (min 100 input.batchSize)) clock.selected
            system.db.outbox).filter fun row => !row.exhausted).map
              OutboxRow.id := by
      simp only [Notification.claimDue, List.filter_map, List.map_map]
      rfl
    unfold System.Fits System.claimDue
    dsimp only
    rw [sameHandouts]
    exact claimed
  case rows =>
    intro row isRow
    by_cases isDue :
        row ∈ dueRows isLocked (max 1 (min 100 input.batchSize))
          clock.selected system.db.outbox
    · exact Or.inr (areDue row isDue).2
    · refine Or.inl (List.mem_map.mpr ⟨row, isRow, if_neg fun claimed => ?_⟩)
      obtain ⟨other, isOther, sameId⟩ := List.any_eq_true.mp claimed
      have same :=
        eq_of_key fits.ids (areDue other isOther).1 isRow
          (of_decide_eq_true sameId)
      exact isDue (same ▸ isOther)

/-- A delivered message fits the notification that it leaves behind. -/
theorem Ledger.deliver
    {messageId : JsString}
    {message : OutboxRow}
    {deliveredAt : Nat}
    {outbox : List OutboxRow}
    {notifications : List UserNotification}
    {handouts : List JsString}
    (ledger : Ledger outbox notifications handouts)
    (found : findUnique OutboxRow.id messageId outbox = some message) :
    Ledger
      (updateMany (fun row => row.id = messageId)
        (fun row => row.deliver deliveredAt) outbox)
      (upsertNotification (message.notification deliveredAt) notifications)
      handouts := by
  obtain ⟨notified, areNotified⟩ :=
    @upsertNotification_notified _ (message.notification deliveredAt)
      ledger.notified
  have before := ledger.fits message (mem_of_findUnique found).1
  refine ledger.changeMessage ⟨fun _ => rfl, fun _ => rfl⟩ found notified ?_ ?_
  · intro key otherKey
    rw [areNotified key]
    exact or_iff_left otherKey
  · exact
      { pending := NotificationOutboxStatus.noConfusion
        processing := NotificationOutboxStatus.noConfusion
        attempts := before.attempts
        handouts := before.handouts
        delivered :=
          ⟨fun _ => (areNotified message.key).mpr (Or.inr rfl), fun _ => rfl⟩ }

variable {system system' : System Trail}

theorem deliver_stepLaw
    {index : Nat}
    {clock : DeliveryClock}
    {fails : Bool}
    (fits : system.Fits)
    (ordered : clock.isOrdered = true)
    (inTime : Event.InTime system (.deliver index clock fails))
    (stepped : system.deliver index clock fails = some system') :
    StepLaw (.deliver index clock fails) system system' := by
  obtain ⟨processing, isProcessing, stepped⟩ :=
    Option.bind_eq_some_iff.mp stepped
  split at stepped
  case h_1 => cases stepped
  case h_2 isStage =>
    have isNext := Option.some.inj stepped
    have sameHandouts : system'.handouts = system.handouts := by rw [← isNext]
    have isDatabase :
        system'.db =
          (Notification.deliver processing.messageId processing.workerId clock
            fails system.db).1 := by
      rw [← isNext]
      rfl
    rcases deliver_cases ordered
        (inTime processing isProcessing isStage) with
      same | ⟨message, deliveredAt, found, owned, written⟩
    · rw [same] at isDatabase
      constructor
      case fits =>
        rw [System.Fits, isDatabase, sameHandouts]
        exact fits
      case rows =>
        intro row isRow
        rw [isDatabase]
        exact Or.inl isRow
    · rw [written] at isDatabase
      obtain ⟨listed, isId⟩ := mem_of_findUnique found
      constructor
      case fits =>
        rw [System.Fits, isDatabase, sameHandouts]
        exact fits.deliver found
      case rows =>
        intro row isRow
        by_cases sameId : row.id = processing.messageId
        · obtain rfl := eq_of_key fits.ids isRow listed (sameId.trans isId.symm)
          exact Or.inr ⟨processing, isProcessing, isId.symm, owned⟩
        · rw [isDatabase]
          exact Or.inl (mem_changed isRow sameId)

/-- A message that is to be tried again, or is dead, was not delivered. -/
theorem Ledger.giveBack
    {messageId workerId : JsString}
    {now : Nat}
    {message : OutboxRow}
    {change : OutboxRow → OutboxRow}
    {outbox : List OutboxRow}
    {notifications : List UserNotification}
    {handouts : List JsString}
    (ledger : Ledger outbox notifications handouts)
    (found : findUnique OutboxRow.id messageId outbox = some message)
    (owned : message.isOwned workerId now = true)
    (keeps : KeepsKeys change)
    (attempts : (change message).attemptCount = message.attemptCount)
    (pending :
      (change message).status = .pending →
        message.attemptCount < maxDeliveryAttempts)
    (notProcessing : (change message).status ≠ .processing)
    (notDelivered : (change message).status ≠ .delivered) :
    Ledger (updateMany (fun row => row.id = messageId) change outbox)
      notifications handouts := by
  have before := ledger.fits message (mem_of_findUnique found).1
  have wasProcessing := isOwned_processing owned
  refine ledger.changeMessage keeps found ledger.notified (fun _ _ => Iff.rfl) ?_
  exact
    { pending := fun isPending => by
        rw [attempts]
        exact pending isPending
      processing := fun isProcessing => absurd isProcessing notProcessing
      attempts := by
        rw [attempts]
        exact before.attempts
      handouts := by
        rw [attempts, keeps.id]
        exact before.handouts
      delivered := by
        rw [keeps.key]
        constructor
        · intro delivered
          exact absurd delivered notDelivered
        · intro isNotified
          have delivered := before.delivered.mpr isNotified
          rw [wasProcessing] at delivered
          cases delivered }

/-- Only the outbox and the trail change when a message is given back. -/
theorem retryOrDeadLetter_ledger
    {input : RetryOrDeadLetter}
    {clock : RetryClock}
    {result : RetryResult}
    (fits : system.Fits)
    (inTime : RetriesInTime system.db input clock)
    (returns :
      Notification.retryOrDeadLetter append toISOString input clock system.db =
        some (db', result)) :
    Ledger db'.outbox db'.userNotifications system.handouts ∧
      ∀ row ∈ system.db.outbox,
        row ∈ db'.outbox ∨
          input.messageId = row.id ∧
            row.isOwned input.workerId clock.changed = true := by
  rcases retryOrDeadLetter_cases inTime returns with
    same | ⟨message, found, owned, changes⟩
  · rw [same]
    exact ⟨fits, fun row isRow => Or.inl isRow⟩
  · obtain ⟨listed, isId⟩ := mem_of_findUnique found
    have rows :
        ∀ change, ∀ row ∈ system.db.outbox,
          row ∈
              updateMany (fun row => row.id = input.messageId) change
                system.db.outbox ∨
            input.messageId = row.id ∧
              row.isOwned input.workerId clock.changed = true := by
      intro change row isRow
      by_cases sameId : row.id = input.messageId
      · obtain rfl := eq_of_key fits.ids isRow listed (sameId.trans isId.symm)
        exact Or.inr ⟨sameId.symm, owned⟩
      · exact Or.inl (mem_changed isRow sameId)
    rcases changes with ⟨attemptsLeft, availableAt, written⟩ | ⟨trail, written⟩
    · rw [written]
      refine ⟨?_, rows _⟩
      exact fits.giveBack found owned ⟨fun _ => rfl, fun _ => rfl⟩ rfl
        (fun _ => attemptsLeft) NotificationOutboxStatus.noConfusion
        NotificationOutboxStatus.noConfusion
    · rw [written]
      refine ⟨?_, rows _⟩
      exact fits.giveBack found owned ⟨fun _ => rfl, fun _ => rfl⟩ rfl
        NotificationOutboxStatus.noConfusion
        NotificationOutboxStatus.noConfusion
        NotificationOutboxStatus.noConfusion

theorem retryOrDeadLetter_stepLaw
    {index : Nat}
    {clock : RetryClock}
    {fails : Bool}
    (fits : system.Fits)
    (inTime : Event.InTime system (.retryOrDeadLetter index clock fails))
    (stepped :
      system.retryOrDeadLetter append toISOString index clock fails =
        some system') :
    StepLaw (.retryOrDeadLetter index clock fails) system system' := by
  obtain ⟨processing, isProcessing, stepped⟩ :=
    Option.bind_eq_some_iff.mp stepped
  split at stepped
  case h_1 => cases stepped
  case h_2 retryable safeErrorCode isStage =>
    have isNext := Option.some.inj stepped
    have sameHandouts : system'.handouts = system.handouts := by rw [← isNext]
    have unchanged
        (same : system'.db = system.db) :
        StepLaw (.retryOrDeadLetter index clock fails) system system' := by
      constructor
      case fits =>
        rw [System.Fits, same, sameHandouts]
        exact fits
      case rows =>
        intro row isRow
        rw [same]
        exact Or.inl isRow
    cases fails with
    | true =>
        refine unchanged ?_
        rw [← isNext]
        dsimp only
        split <;> rfl
    | false =>
        cases answer :
            Notification.retryOrDeadLetter append toISOString
              (processing.retry retryable safeErrorCode) clock system.db with
        | none =>
            refine unchanged ?_
            rw [← isNext, answer]
        | some returned =>
            obtain ⟨db', result⟩ := returned
            have isDatabase : system'.db = db' := by
              rw [← isNext, answer]
              rfl
            obtain ⟨ledger, rows⟩ :=
              retryOrDeadLetter_ledger fits
                (inTime processing retryable safeErrorCode isProcessing isStage
                  rfl) answer
            constructor
            case fits =>
              rw [System.Fits, isDatabase, sameHandouts]
              exact ledger
            case rows =>
              intro row isRow
              rw [isDatabase]
              refine (rows row isRow).imp_right ?_
              rintro ⟨sameId, owned⟩
              exact ⟨processing, isProcessing, sameId, owned⟩

theorem step_stepLaw
    {event : Event}
    (fits : system.Fits)
    (inTime : event.InTime system)
    (stepped : system.step append toISOString event = some system') :
    StepLaw event system system' := by
  have unchanged
      (sameOutbox : system'.db.outbox = system.db.outbox)
      (sameNotifications :
        system'.db.userNotifications = system.db.userNotifications)
      (sameHandouts : system'.handouts = system.handouts) :
      StepLaw event system system' := by
    constructor
    case fits =>
      rw [System.Fits, sameOutbox, sameNotifications, sameHandouts]
      exact fits
    case rows =>
      intro row isRow
      rw [sameOutbox]
      exact Or.inl isRow
  cases event with
  | enqueue message id availableAt =>
      cases stepped
      constructor
      case fits => exact fits.enqueue
      case rows =>
        intro row isRow
        exact Or.inl (subset_createManySkipDuplicates _ _ isRow)
  | changeAlerts alerts =>
      cases stepped
      exact unchanged rfl rfl rfl
  | changeDirectory directory =>
      cases stepped
      exact unchanged rfl rfl rfl
  | crash workerId =>
      cases stepped
      exact unchanged rfl rfl rfl
  | claimDue input isLocked clock =>
      obtain ⟨-, isNext⟩ := Option.ite_none_right_eq_some.mp stepped
      cases isNext
      exact claimDue_stepLaw fits
  | deliver index clock fails =>
      obtain ⟨ordered, stepped⟩ := Option.ite_none_right_eq_some.mp stepped
      exact deliver_stepLaw fits ordered inTime stepped
  | retryOrDeadLetter index clock fails =>
      obtain ⟨-, stepped⟩ := Option.ite_none_right_eq_some.mp stepped
      exact retryOrDeadLetter_stepLaw fits inTime stepped

/-- A finished message is changed by nobody. -/
theorem not_mayChange_of_terminal
    {event : Event}
    {row : OutboxRow}
    (terminal : row.status.isTerminal = true) :
    ¬event.MayChange system row := by
  intro mayChange
  have notOwned : ∀ {workerId now}, row.isOwned workerId now ≠ true := by
    intro workerId now owned
    rw [isOwned_processing owned] at terminal
    cases terminal
  cases event with
  | claimDue input isLocked clock =>
      rcases (isDue_cases mayChange).1 with pending | processing
      · rw [pending] at terminal
        cases terminal
      · rw [processing] at terminal
        cases terminal
  | deliver index clock fails =>
      obtain ⟨_, -, -, owned⟩ := mayChange
      exact notOwned owned
  | retryOrDeadLetter index clock fails =>
      obtain ⟨_, -, -, owned⟩ := mayChange
      exact notOwned owned
  | _ => exact mayChange

/-- Every event of a run is in time. -/
def RunInTime
    (append : Trail → JsValue → Option Trail)
    (toISOString : Nat → JsString) :
    System Trail → List Event → Prop
  | _, [] => True
  | system, event :: events =>
      event.InTime system ∧
        ∀ next, system.step append toISOString event = some next →
          RunInTime append toISOString next events

/-- What a run of events in time leads to. -/
def Leads
    (append : Trail → JsValue → Option Trail)
    (toISOString : Nat → JsString)
    (system system' : System Trail) :
    Prop :=
  ∃ events,
    RunInTime append toISOString system events ∧
      system.run append toISOString events = some system'

theorem run_keeps
    {holds : System Trail → Prop}
    (keeps :
      ∀ system event next,
        holds system → event.InTime system →
        system.step append toISOString event = some next → holds next)
    {system system' : System Trail}
    (held : holds system)
    (leads : Leads append toISOString system system') :
    holds system' := by
  obtain ⟨events, inTime, ran⟩ := leads
  induction events generalizing system with
  | nil =>
      cases ran
      exact held
  | cons event events inductionHypothesis =>
      obtain ⟨next, stepped, ran'⟩ := Option.bind_eq_some_iff.mp ran
      exact inductionHypothesis (keeps system event next held inTime.1 stepped)
        (inTime.2 next stepped) ran'

theorem fits_of_leads
    (fits : system.Fits)
    (leads : Leads append toISOString system system') :
    system'.Fits :=
  run_keeps
    (fun _ _ _ held inTime stepped => (step_stepLaw held inTime stepped).fits)
    fits leads

/-- A message that is finished stays as it is. -/
theorem terminal_stays
    {row : OutboxRow}
    (fits : system.Fits)
    (listed : row ∈ system.db.outbox)
    (terminal : row.status.isTerminal = true)
    (leads : Leads append toISOString system system') :
    row ∈ system'.db.outbox := by
  have stays :=
    @run_keeps _ append toISOString
      (fun system => system.Fits ∧ row ∈ system.db.outbox)
      (by
        rintro system event next ⟨fits, listed⟩ inTime stepped
        have law := step_stepLaw fits inTime stepped
        exact ⟨law.fits,
          (law.rows row listed).resolve_right
            (not_mayChange_of_terminal terminal)⟩)
      system system' ⟨fits, listed⟩ leads
  exact stays.2

/-- From some time on a message that is not finished is due. -/
theorem RowFits.claimable
    {notifications : List UserNotification}
    {handouts : List JsString}
    {row : OutboxRow}
    (fits : RowFits notifications handouts row)
    (unfinished : row.status.isTerminal = false) :
    ∃ dueAt, ∀ now, dueAt ≤ now → row.isDue now = true := by
  cases status : row.status with
  | pending =>
      refine ⟨row.availableAt, fun now isLater => ?_⟩
      simp [OutboxRow.isDue, status, isLater, fits.pending status]
  | processing =>
      obtain ⟨lockedUntil, isUntil⟩ := fits.processing status
      refine ⟨lockedUntil, fun now isLater => ?_⟩
      simp [OutboxRow.isDue, status, isUntil, isLater,
        lt_or_eq_of_le fits.attempts]
  | delivered =>
      rw [status] at unfinished
      cases unfinished
  | deadLetter =>
      rw [status] at unfinished
      cases unfinished

/-- What holds of the messages of a system, whatever happens next. -/
structure DeliveryLaw
    (append : Trail → JsValue → Option Trail)
    (toISOString : Nat → JsString)
    (system : System Trail) :
    Prop where
  terminal :
    ∀ row ∈ system.db.outbox, row.status.isTerminal = true →
      ∀ later, Leads append toISOString system later →
        row ∈ later.db.outbox
  handouts :
    ∀ row ∈ system.db.outbox,
      system.handouts.count row.id ≤ maxDeliveryAttempts
  leases :
    ∀ event next, event.InTime system →
      system.step append toISOString event = some next →
      ∀ row ∈ system.db.outbox,
        row ∈ next.db.outbox ∨ event.MayChange system row
  claimable :
    ∀ row ∈ system.db.outbox, row.status.isTerminal = false →
      ∃ dueAt, ∀ now, dueAt ≤ now → row.isDue now = true
  onceNotified : (system.db.userNotifications.map UserNotification.key).Nodup
  delivered :
    ∀ row ∈ system.db.outbox, row.status = .delivered →
      IsNotified system.db.userNotifications row.key
  deadLetter :
    ∀ row ∈ system.db.outbox, row.status = .deadLetter →
      ¬IsNotified system.db.userNotifications row.key

theorem System.Fits.deliveryLaw
    {system : System Trail}
    (fits : system.Fits) :
    DeliveryLaw append toISOString system where
  terminal row listed terminal later leads :=
    terminal_stays fits listed terminal leads
  handouts row listed := by
    have rowFits := fits.fits row listed
    rw [rowFits.handouts]
    exact rowFits.attempts
  leases event next inTime stepped := (step_stepLaw fits inTime stepped).rows
  claimable row listed unfinished :=
    (fits.fits row listed).claimable unfinished
  onceNotified := fits.notified
  delivered row listed isDelivered :=
    (fits.fits row listed).delivered.mp isDelivered
  deadLetter row listed isDead isNotified := by
    have isDelivered := (fits.fits row listed).delivered.mpr isNotified
    rw [isDead] at isDelivered
    cases isDelivered

/-- Before any message is enqueued. -/
def System.start
    (directory : Directory)
    (alerts : List AlertRow)
    (trail : Trail) :
    System Trail where
  db := { directory, alerts, outbox := [], userNotifications := [], trail }
  processing := []
  handouts := []

theorem start_fits
    (directory : Directory)
    (alerts : List AlertRow)
    (trail : Trail) :
    (System.start directory alerts trail).Fits where
  ids := List.nodup_nil
  keys := List.nodup_nil
  notified := List.nodup_nil
  fits _ listed := absurd listed List.not_mem_nil
  fromMessages _ listed := absurd listed List.not_mem_nil
  known _ listed := absurd listed List.not_mem_nil

/-- In a run whose events are in time the law holds in every state. -/
theorem deliveryLaw_of_inTime
    (append : Trail → JsValue → Option Trail)
    (toISOString : Nat → JsString)
    (directory : Directory)
    (alerts : List AlertRow)
    (trail : Trail)
    (system : System Trail)
    (leads :
      Leads append toISOString (System.start directory alerts trail) system) :
    DeliveryLaw append toISOString system :=
  (fits_of_leads (start_fits directory alerts trail) leads).deliveryLaw

theorem exampleTime_inRange : -maxTime ≤ 0 ∧ 0 ≤ maxTime := by decide

def exampleTime : TimeValue where
  milliseconds := 0
  inRange := exampleTime_inRange

def exampleAlert : AlertRow where
  id := js "alert"
  identity :=
    { workspaceId := js "11111111-1111-4111-8111-111111111111"
      type := .auditIntegrityFailed
      sourceType := .auditVerificationFailure
      sourceId := js "SEQUENCE_GAP:2" }
  severity := .critical
  status := .active
  contractDigest := js "digest"
  createdAt := exampleTime
  resolvedAt := none
  resolutionReason := none
  resolvedByUserId := none
  templateParameters :=
    .object
      [(js "schemaVersion", wholeNumberValue 1),
        (js "templateKey", text "audit_integrity_failed.v1"),
        (js "failureKind", text "SEQUENCE_GAP"),
        (js "failureSequence", wholeNumberValue 2),
        (js "verifiedAt", text "2026-01-01T00:00:00.000Z")]
  actionTarget :=
    .object
      [(js "schemaVersion", wholeNumberValue 1),
        (js "kind", text "audit"),
        (js "workspaceId", text "11111111-1111-4111-8111-111111111111")]

def exampleMessage : NotificationOutboxMessage where
  workspaceId := js "11111111-1111-4111-8111-111111111111"
  alertId := js "alert"
  recipientUserId := js "owner"
  deduplicationKey := js "key"

def exampleDirectory : Directory where
  members _ := [{ userId := js "owner", role := .owner, isActive := true }]
  runs := []
  schedules := []

def exampleStart : System Unit :=
  System.start exampleDirectory [exampleAlert] ()

def exampleRun (events : List Event) : Option (System Unit) :=
  exampleStart.run (fun _ _ => some ()) (fun _ => []) events

def enqueueExample : Event := .enqueue exampleMessage (js "message") 0

/-- A worker claims what is due, for thirty seconds. -/
def claimAt (now : Nat) : Event :=
  .claimDue { workerId := js "worker", batchSize := 25, leaseSeconds := 30 }
    (fun _ => false) { selected := now, changed := now }

def deliverAt (now : Nat) : Event :=
  .deliver 0 { owned := now, deliveredAt := some now, changed := now } false

def retryAt (index now : Nat) : Event :=
  .retryOrDeadLetter index { owned := now, changed := now } false

/-- A message that is claimed and delivered while its lease lasts. -/
theorem exampleDelivery_law :
    ∃ system,
      exampleRun [enqueueExample, claimAt 0, deliverAt 1] = some system ∧
        DeliveryLaw (fun _ _ => some ()) (fun _ => []) system := by
  refine ⟨_, rfl, deliveryLaw_of_inTime (fun _ _ => some ()) (fun _ => [])
    exampleDirectory [exampleAlert] () _
    ⟨[enqueueExample, claimAt 0, deliverAt 1], ?_, rfl⟩⟩
  refine ⟨trivial, fun enqueued isEnqueued => ⟨trivial, ?_⟩⟩
  obtain rfl := Option.some.inj isEnqueued
  intro claimed isClaimed
  obtain rfl := Option.some.inj isClaimed
  refine ⟨?_, fun _ _ => trivial⟩
  intro processing isProcessing _ _ message alert deliveredAt owned _ _ _
  obtain rfl := Option.some.inj isProcessing
  obtain rfl := Option.some.inj owned
  decide +kernel

/-- A lease that ends within `deliver` leaves a notification behind; when the
recipient then loses their membership, the message dies all the same. -/
def leaseEndsWithinDelivery : List Event :=
  [enqueueExample, claimAt 0,
    .deliver 0
      { owned := 29999, deliveredAt := some 30000, changed := 30000 } false,
    retryAt 0 30000, claimAt 30000,
    .changeDirectory { members := fun _ => [], runs := [], schedules := [] },
    deliverAt 30001, retryAt 0 30002]

/-- A worker schedules a retry for the fourth attempt when it has claimed the
message for its fifth one already. -/
def retryOfEarlierAttempt : List Event :=
  [enqueueExample, claimAt 0, claimAt 30000, claimAt 60000, claimAt 90000,
    .deliver 3
      { owned := 90001, deliveredAt := some 90001, changed := 90001 } true,
    claimAt 120000, retryAt 3 120001]

/-- A dead message with a notification, and a message that waits without any
attempts left. -/
theorem deliveryLaw_broken :
    (exampleRun leaseEndsWithinDelivery).map
        (fun system =>
          (system.db.outbox.map OutboxRow.status,
            decide
              (system.db.userNotifications.map UserNotification.key =
                system.db.outbox.map OutboxRow.key))) =
      some ([.deadLetter], true) ∧
    (exampleRun retryOfEarlierAttempt).map
        (fun system =>
          system.db.outbox.map fun row => (row.status, row.attemptCount)) =
      some [(.pending, maxDeliveryAttempts)] := by
  constructor <;> decide +kernel

end TaskTwin.Notification
