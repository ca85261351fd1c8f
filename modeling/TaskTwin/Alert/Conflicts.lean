import TaskTwin.Alert.Announcement

/-!
# No earlier alert is in the way

As long as inputs agree with the alerts that were raised before them, no
transaction is rolled back because of an earlier alert.
-/

namespace TaskTwin.Alert

open Text Audit Store

variable
    (parseOther : JsString → Option TimeValue)
    (hasher : AuditHasher)

/-- What a message is unique by, apart from its key. -/
def NotificationOutboxMessage.address
    (message : NotificationOutboxMessage) :
    JsString × JsString :=
  (message.alertId, message.recipientUserId)

/-- The audit trail tells of the alerts that there are, and of no others. -/
structure AlertInvariant (db : AlertStore) : Prop where
  ids : (db.alerts.map OperationalAlert.id).Nodup
  identities : (db.alerts.map OperationalAlert.identity).Nodup
  messages : (db.outbox.map NotificationOutboxMessage.address).Nodup
  created :
    ∀ alert ∈ db.alerts,
      Holds parseOther hasher db.audit
        (createdEvent alert.id alert.identity alert.createdAt
          (recipientCount db.outbox alert.id))
  resolved :
    ∀ alert ∈ db.alerts, alert.status = .resolved →
      ∃ resolvedByUserId resolvedAt,
        Holds parseOther hasher db.audit
          (resolvedEvent alert resolvedByUserId resolvedAt
            (recipientCount db.outbox alert.id))
  unresolved :
    ∀ alert ∈ db.alerts, alert.status ≠ .resolved →
      IsFree db.audit (resolvedSource alert.id)
  absent :
    ∀ alertId, alertId ∉ db.alerts.map OperationalAlert.id →
      IsFree db.audit (createdSource alertId) ∧
        IsFree db.audit (resolvedSource alertId)

theorem alertInvariant_empty
    (members : JsString → Option (List Membership)) :
    AlertInvariant parseOther hasher (.empty members) where
  ids := List.nodup_nil
  identities := List.nodup_nil
  messages := List.nodup_nil
  created := by simp [AlertStore.empty]
  resolved := by simp [AlertStore.empty]
  unresolved := by simp [AlertStore.empty]
  absent := by simp [AlertStore.empty, AuditStore.empty, IsFree]

variable {parseOther hasher}

theorem outboxMessage_address
    {workspaceId alertId recipientUserId : JsString}
    {message : NotificationOutboxMessage}
    (isMessage :
      outboxMessage workspaceId alertId recipientUserId = some message) :
    message.alertId = alertId ∧ message.recipientUserId = recipientUserId := by
  obtain ⟨key, -, rfl⟩ := Option.map_eq_some_iff.mp isMessage
  exact ⟨rfl, rfl⟩

theorem Announces.message
    {db : AlertStore}
    {input : TrustedOperationalAlertInput}
    {new : NewAlert}
    {recipients : List JsString}
    {alert : OperationalAlert}
    {alerts : List OperationalAlert}
    {messages : List NotificationOutboxMessage}
    (announces :
      Announces hasher db input new recipients alert alerts messages)
    {message : NotificationOutboxMessage}
    (listed : message ∈ messages) :
    message.alertId = alert.id ∧ message.recipientUserId ∈ recipients := by
  obtain ⟨recipientUserId, isRecipient, isMessage⟩ :=
    (Collection.mem_of_mapM announces.areMessages message).mp listed
  obtain ⟨isAlert, rfl⟩ := outboxMessage_address isMessage
  exact ⟨isAlert, isRecipient⟩

theorem conflicts_self (message : NotificationOutboxMessage) :
    message.conflicts message = true := by
  simp [NotificationOutboxMessage.conflicts]

theorem conflicts_of_address
    (message other : NotificationOutboxMessage)
    (same : message.address = other.address) :
    message.conflicts other = true := by
  obtain ⟨isAlert, isRecipient⟩ := Prod.ext_iff.mp same
  simp [NotificationOutboxMessage.conflicts,
    show message.alertId = other.alertId from isAlert,
    show message.recipientUserId = other.recipientUserId from isRecipient]

/-- The messages of other alerts are as many as before. -/
theorem recipientCount_of_other
    {alertId other : JsString}
    (differs : other ≠ alertId)
    {messages : List NotificationOutboxMessage}
    (ofAlert : ∀ message ∈ messages, message.alertId = alertId)
    (outbox : List NotificationOutboxMessage) :
    recipientCount
        (createManySkipDuplicates NotificationOutboxMessage.conflicts messages
          outbox)
        other =
      recipientCount outbox other := by
  obtain ⟨inserted, isResult, among⟩ :=
    @createManySkipDuplicates_cases _ NotificationOutboxMessage.conflicts
      messages outbox
  have noneInserted :
      inserted.countP (fun message => message.alertId = other) = 0 := by
    rw [List.countP_eq_zero]
    intro message isInserted
    rw [ofAlert message (among isInserted)]
    simpa using differs.symm
  rw [isResult, recipientCount, List.countP_append, noneInserted,
    Nat.add_zero, recipientCount]

variable {db : AlertStore}

/-- An alert that every recipient was told of is not announced again. -/
theorem announced_eq
    {input : TrustedOperationalAlertInput}
    {new : NewAlert}
    {recipients : List JsString}
    {alert : OperationalAlert}
    {messages : List NotificationOutboxMessage}
    (announces :
      Announces hasher db input new recipients alert db.alerts messages)
    (told :
      ∀ recipientUserId ∈ recipients,
        ∃ message ∈ db.outbox,
          message.alertId = alert.id ∧
            message.recipientUserId = recipientUserId) :
    announced db db.alerts messages = db := by
  have there :
      createManySkipDuplicates NotificationOutboxMessage.conflicts messages
          db.outbox =
        db.outbox := by
    apply createManySkipDuplicates_of_there
    intro message listed
    obtain ⟨isAlert, isRecipient⟩ := announces.message listed
    obtain ⟨other, isOther, ofAlert, toRecipient⟩ := told _ isRecipient
    apply List.any_eq_true.mpr
    exact ⟨other, isOther,
      conflicts_of_address message other
        (by simp [NotificationOutboxMessage.address, isAlert, ofAlert,
          toRecipient])⟩
  rw [announced, there]

/-- An input that agrees with the alert of its source changes nothing. -/
theorem announcedEvent_holds
    (invariant : AlertInvariant parseOther hasher db)
    {input : TrustedOperationalAlertInput}
    {new : NewAlert}
    {recipients : List JsString}
    {alert : OperationalAlert}
    {messages : List NotificationOutboxMessage}
    (announces :
      Announces hasher db input new recipients alert db.alerts messages)
    (found : findAlert input.identity db.alerts = some alert)
    (told :
      ∀ recipientUserId ∈ recipients,
        ∃ message ∈ db.outbox,
          message.alertId = alert.id ∧
            message.recipientUserId = recipientUserId)
    (row : NewRow) :
    appendAuditEventTransactional parseOther hasher
        (announced db db.alerts messages) row
        (announcedEvent db input alert db.alerts messages) =
      .ok (db, true) := by
  obtain ⟨listed, isIdentity⟩ := findAlert_identity found
  rw [announcedEvent, announced_eq announces told, ← isIdentity]
  exact appendAuditEventTransactional_of_holds (invariant.created alert listed)
    row

/-- The identifier of a row that could be added is not taken. -/
theorem fresh_id
    {alerts : List OperationalAlert}
    {alert : OperationalAlert}
    (distinct : ((alerts ++ [alert]).map OperationalAlert.id).Nodup) :
    alert.id ∉ alerts.map OperationalAlert.id := by
  rw [List.map_append, List.map_singleton] at distinct
  intro taken
  exact (List.nodup_append.mp distinct).2.2 _ taken _
    (List.mem_singleton_self _) rfl

theorem conflict_of_audit
    {error : AuditError}
    (isConflict : (AlertFailure.audit error).isConflict = true) :
    error = .trail .auditSourceConflict := by
  cases error with
  | typeError => cases isConflict
  | trail code => cases code <;> first | rfl | cases isConflict

theorem append_noConflict
    (invariant : AlertInvariant parseOther hasher db)
    {rawInput : JsValue}
    (agrees : AppendAgrees hasher db rawInput)
    {new : NewAlert}
    {row : NewRow}
    {failure : AlertFailure}
    (throws :
      append parseOther hasher db rawInput new row = .error failure) :
    failure.isConflict = false := by
  unfold append at throws
  rcases bind_eq_error throws with invalid | ⟨input, isParsed, throws⟩
  · rw [(orThrow_eq_error invalid).2]
    rfl
  have isInput := orThrow_eq_ok.mp isParsed
  cases isConflict : failure.isConflict with
  | false => rfl
  | true =>
    exfalso
    rcases appendParsed_conflict throws isConflict with
      ⟨alert, alerts, contractDigest, isDigest, upserted, differs⟩ |
      ⟨recipients, alert, alerts, messages, announces, refused⟩
    · rcases upsertAlert_cases upserted with
        ⟨found, -⟩ | ⟨-, isNew, -, -⟩
      · exact differs ((agrees input alert isInput found).1 _ isDigest)
      · rw [isNew] at differs
        exact differs rfl
    · rcases upsertAlert_cases announces.upserted with
        ⟨found, rfl⟩ | ⟨-, isNew, isExtended, distinct⟩
      · have told :=
          (agrees input alert isInput found).2 recipients
            announces.areRecipients
        rw [announcedEvent_holds invariant announces found told] at refused
        cases refused
      · rcases appendAuditEventTransactional_cases _ _ _ with
          ⟨error, thrown, answer⟩ | ⟨_, returned, -⟩
        · rw [thrown] at refused
          obtain rfl := Except.error.inj refused
          rw [isExtended] at distinct
          have isFree := (invariant.absent alert.id (fresh_id distinct)).1
          refine IsFree.noConflict ?_
            (answer.trans (congrArg _ (conflict_of_audit isConflict)))
          intro parsed isParsed
          rw [alertEvent_source isParsed]
          exact isFree
        · rw [returned] at refused
          cases refused

theorem initialStatus_ne_resolved (type : OperationalAlertType) :
    deriveInitialOperationalAlertStatus type ≠ .resolved := by
  cases type <;> decide

/-- The store after a new alert was announced and the trail was told. -/
theorem alertInvariant_new
    (invariant : AlertInvariant parseOther hasher db)
    {input : TrustedOperationalAlertInput}
    {new : NewAlert}
    {recipients : List JsString}
    {alert : OperationalAlert}
    {messages : List NotificationOutboxMessage}
    (announces :
      Announces hasher db input new recipients alert (db.alerts ++ [alert])
        messages)
    (notFound : findAlert input.identity db.alerts = none)
    (isIdentity : alert.identity = input.identity)
    (notResolved : alert.status ≠ .resolved)
    (distinct : ((db.alerts ++ [alert]).map OperationalAlert.id).Nodup)
    {row : NewRow}
    {event : JsValue}
    (isEvent :
      event = announcedEvent db input alert (db.alerts ++ [alert]) messages)
    {audit : AuditStore}
    (isAudit :
      audit =
        (appendAuditEvent parseOther hasher db.audit
          { row, input := event }).1)
    (holds : Holds parseOther hasher audit event) :
    AlertInvariant parseOther hasher
      { announced db (db.alerts ++ [alert]) messages with audit } := by
  have isFresh := fresh_id distinct
  have ofAlert :
      ∀ message ∈ messages, message.alertId = alert.id := fun message listed =>
    (announces.message listed).1
  have sameCount :
      ∀ earlier ∈ db.alerts,
        recipientCount
            (announced db (db.alerts ++ [alert]) messages).outbox earlier.id =
          recipientCount db.outbox earlier.id := by
    intro earlier listed
    apply recipientCount_of_other _ ofAlert
    intro same
    exact isFresh (same ▸ List.mem_map_of_mem listed)
  have staysFree :
      ∀ {sourceId}, IsFree db.audit sourceId →
        sourceId ≠ createdSource alert.id → IsFree audit sourceId := by
    intro sourceId isFree differs
    rw [isAudit]
    apply isFree.after_append
    intro parsed isParsed same
    rw [isEvent] at isParsed
    exact differs (same.symm.trans (alertEvent_source isParsed))
  constructor
  case ids => exact distinct
  case identities =>
    simp only [announced, List.map_append, List.map_singleton]
    apply List.Nodup.append invariant.identities (List.nodup_singleton _)
    intro identity taken isAlert
    obtain ⟨earlier, listed, rfl⟩ := List.mem_map.mp taken
    have notSame := List.find?_eq_none.mp notFound earlier listed
    simp only [decide_eq_true_eq] at notSame
    exact notSame ((List.mem_singleton.mp isAlert).trans isIdentity)
  case messages =>
    exact nodup_createManySkipDuplicates conflicts_of_address
      invariant.messages
  case created =>
    intro other listed
    rcases List.mem_append.mp listed with earlier | isNew
    · have isHeld := invariant.created other earlier
      rw [← sameCount other earlier] at isHeld
      simp only [isAudit]
      exact isHeld.after_append _
    · obtain rfl := List.mem_singleton.mp isNew
      rw [isIdentity]
      rw [isEvent] at holds
      exact holds
  case resolved =>
    intro other listed isResolved
    rcases List.mem_append.mp listed with earlier | isNew
    · obtain ⟨userId, resolvedAt, isHeld⟩ :=
        invariant.resolved other earlier isResolved
      rw [← sameCount other earlier] at isHeld
      refine ⟨userId, resolvedAt, ?_⟩
      simp only [isAudit]
      exact isHeld.after_append _
    · obtain rfl := List.mem_singleton.mp isNew
      exact absurd isResolved notResolved
  case unresolved =>
    intro other listed isUnresolved
    have differs :
        resolvedSource other.id ≠ createdSource alert.id := fun same =>
      createdSource_ne_resolvedSource alert.id other.id same.symm
    rcases List.mem_append.mp listed with earlier | isNew
    · exact staysFree (invariant.unresolved other earlier isUnresolved) differs
    · obtain rfl := List.mem_singleton.mp isNew
      exact staysFree (invariant.absent other.id isFresh).2 differs
  case absent =>
    intro alertId notListed
    simp only [announced, List.map_append, List.mem_append,
      List.map_singleton, List.mem_singleton, not_or] at notListed
    obtain ⟨createdFree, resolvedFree⟩ := invariant.absent alertId notListed.1
    exact
      ⟨staysFree createdFree fun same =>
          notListed.2 (alertSource_injective same),
        staysFree resolvedFree fun same =>
          createdSource_ne_resolvedSource alert.id alertId same.symm⟩

theorem alertInvariant_append
    {db db' : AlertStore}
    (invariant : AlertInvariant parseOther hasher db)
    {rawInput : JsValue}
    (agrees : AppendAgrees hasher db rawInput)
    {new : NewAlert}
    {row : NewRow}
    {result : AppendResult}
    (returns :
      append parseOther hasher db rawInput new row = .ok (db', result)) :
    AlertInvariant parseOther hasher db' := by
  unfold append at returns
  obtain ⟨input, isParsed, returns⟩ := bind_eq_ok.mp returns
  have isInput := orThrow_eq_ok.mp isParsed
  obtain ⟨recipients, alert, alerts, messages, announces, returned, -, -⟩ :=
    appendParsed_ok.mp returns
  rcases upsertAlert_cases announces.upserted with
    ⟨found, rfl⟩ | ⟨notFound, isNew, rfl, distinct⟩
  · have told :=
      (agrees input alert isInput found).2 recipients announces.areRecipients
    rw [announcedEvent_holds invariant announces found told] at returned
    obtain rfl := (Prod.mk.inj (Except.ok.inj returned)).1
    exact invariant
  · rcases appendAuditEventTransactional_cases _ _ _ with
      ⟨error, thrown, -⟩ | ⟨idempotent, appended, holds⟩
    · rw [thrown] at returned
      cases returned
    · rw [appended] at returned
      obtain rfl := (Prod.mk.inj (Except.ok.inj returned)).1
      exact alertInvariant_new invariant announces notFound
        (by rw [isNew]; rfl) (by rw [isNew]; exact initialStatus_ne_resolved _)
        distinct rfl rfl holds

theorem resolvedEvent_same
    (alert : OperationalAlert)
    (resolvedByUserId other : Option JsString)
    (resolvedAt otherTime : TimeValue)
    (count : Nat) :
    ∃ fields others,
      resolvedEvent alert resolvedByUserId resolvedAt count =
          .object fields ∧
        resolvedEvent alert other otherTime count = .object others ∧
        SameSubject fields others :=
  ⟨_, _, rfl, rfl, ⟨rfl, rfl, rfl, rfl, rfl⟩⟩

variable
  {db : AlertStore}
  {input : ResolveOperationalAlertInput}
  {now : TimeValue}
  {alert : OperationalAlert}

/-- A resolution that the trail holds is in conflict with no other. -/
theorem resolvedEvent_again
    {earlierUserId : Option JsString}
    {earlierTime : TimeValue}
    {count : Nat}
    (holds :
      Holds parseOther hasher db.audit
        (resolvedEvent alert earlierUserId earlierTime count))
    (resolvedByUserId : Option JsString)
    (resolvedAt : TimeValue)
    (row : NewRow) :
    let appended :=
      appendAuditEvent parseOther hasher db.audit
        { row
          input := resolvedEvent alert resolvedByUserId resolvedAt count }
    appended.1 = db.audit ∧
      appended.2 ≠ .error (.trail .auditSourceConflict) := by
  obtain ⟨fields, others, isEarlier, isLater, same⟩ :=
    resolvedEvent_same alert earlierUserId resolvedByUserId earlierTime
      resolvedAt count
  rw [isEarlier] at holds
  rw [isLater]
  exact holds.again same row

/-- What a resolution has come to when it tells the audit trail. -/
structure Resolves
    (db : AlertStore)
    (input : ResolveOperationalAlertInput)
    (now : TimeValue)
    (alert : OperationalAlert)
    (alerts : List OperationalAlert) :
    Prop where
  found : findAlert input.identity db.alerts = some alert
  isMatter : alert.status ≠ .informational
  notIgnored :
    ¬(alert.status = .resolved ∧ input.ignoreAlreadyResolved = true)
  changed :
    resolveAlert alert input (alert.resolvedAt.getD now) db.alerts =
      .ok alerts

def resolutionEvent
    (db : AlertStore)
    (input : ResolveOperationalAlertInput)
    (now : TimeValue)
    (alert : OperationalAlert) :
    JsValue :=
  resolvedEvent alert input.resolvedByUserId (alert.resolvedAt.getD now)
    (recipientCount db.outbox alert.id)

theorem resolve_conflict
    {row : NewRow}
    {failure : AlertFailure}
    (throws : resolve parseOther hasher db input now row = .error failure) :
    (∃ alert,
        findAlert input.identity db.alerts = some alert ∧
          alert.status = .resolved ∧
          input.ignoreAlreadyResolved ≠ true ∧
          alert.resolutionReason ≠ some input.reason) ∨
      ∃ alert alerts,
        Resolves db input now alert alerts ∧
          appendAuditEventTransactional parseOther hasher { db with alerts }
              row (resolutionEvent db input now alert) =
            .error failure := by
  unfold resolve at throws
  split at throws
  case h_1 notFound => cases throws
  case h_2 alert found =>
    split at throws
    case isTrue isInformational => cases throws
    case isFalse isMatter =>
      split at throws
      case isTrue isIgnored => cases throws
      case isFalse notIgnored =>
        rcases bind_eq_error throws with differs | ⟨alerts, changed, throws⟩
        · unfold resolveAlert at differs
          split at differs
          case isTrue isActive => cases differs
          case isFalse notActive =>
            have isResolved : alert.status = .resolved := by
              cases status : alert.status <;> simp_all
            split at differs
            case isTrue otherReason =>
              exact Or.inl
                ⟨alert, found, isResolved,
                  fun ignored => notIgnored ⟨isResolved, ignored⟩,
                  otherReason⟩
            case isFalse sameReason => cases differs
        · rcases bind_eq_error throws with refused | ⟨answer, -, throws⟩
          · exact Or.inr
              ⟨alert, alerts, { found, isMatter, notIgnored, changed },
                refused⟩
          · cases throws

theorem resolve_ok
    {db db' : AlertStore}
    {input : ResolveOperationalAlertInput}
    {now : TimeValue}
    {row : NewRow}
    {answer : Option (JsString × Bool)}
    (returns : resolve parseOther hasher db input now row = .ok (db', answer)) :
    db' = db ∨
      ∃ alert alerts idempotent,
        Resolves db input now alert alerts ∧
          appendAuditEventTransactional parseOther hasher { db with alerts }
              row (resolutionEvent db input now alert) =
            .ok (db', idempotent) := by
  unfold resolve at returns
  split at returns
  case h_1 notFound =>
    exact Or.inl (Prod.mk.inj (Except.ok.inj returns)).1.symm
  case h_2 alert found =>
    split at returns
    case isTrue isInformational =>
      exact Or.inl (Prod.mk.inj (Except.ok.inj returns)).1.symm
    case isFalse isMatter =>
      split at returns
      case isTrue isIgnored =>
        exact Or.inl (Prod.mk.inj (Except.ok.inj returns)).1.symm
      case isFalse notIgnored =>
        obtain ⟨alerts, changed, returns⟩ := bind_eq_ok.mp returns
        obtain ⟨⟨told, idempotent⟩, appended, returns⟩ :=
          bind_eq_ok.mp returns
        obtain rfl := (Prod.mk.inj (Except.ok.inj returns)).1
        exact Or.inr
          ⟨alert, alerts, idempotent, { found, isMatter, notIgnored, changed },
            appended⟩

/-- An active alert is resolved; a resolved one stays as it is. -/
theorem Resolves.cases
    {alerts : List OperationalAlert}
    (resolves : Resolves db input now alert alerts) :
    (alert.status ≠ .resolved ∧
        alerts =
          updateMany (fun row => row.id = alert.id)
            (fun row => row.resolve input (alert.resolvedAt.getD now))
            db.alerts) ∨
      (alert.status = .resolved ∧ alerts = db.alerts) := by
  have changed := resolves.changed
  have isMatter := resolves.isMatter
  unfold resolveAlert at changed
  split at changed
  case isTrue isActive =>
    exact Or.inl ⟨by rw [isActive]; decide, (Except.ok.inj changed).symm⟩
  case isFalse notActive =>
    split at changed
    case isTrue otherReason => cases changed
    case isFalse sameReason =>
      refine Or.inr ⟨?_, (Except.ok.inj changed).symm⟩
      cases status : alert.status with
      | active => exact absurd status notActive
      | resolved => rfl
      | informational => exact absurd status isMatter

theorem resolve_noConflict
    (invariant : AlertInvariant parseOther hasher db)
    {input : ResolveOperationalAlertInput}
    (agrees : ResolveAgrees db input)
    {now : TimeValue}
    {row : NewRow}
    {failure : AlertFailure}
    (throws : resolve parseOther hasher db input now row = .error failure) :
    failure.isConflict = false := by
  cases isConflict : failure.isConflict with
  | false => rfl
  | true =>
    exfalso
    rcases resolve_conflict throws with
      ⟨alert, found, isResolved, notIgnored, otherReason⟩ |
      ⟨alert, alerts, resolves, refused⟩
    · rcases agrees alert found isResolved with ignored | sameReason
      · exact notIgnored ignored
      · exact otherReason sameReason
    obtain ⟨listed, -⟩ := findAlert_identity resolves.found
    rcases appendAuditEventTransactional_cases _ _ _ with
      ⟨error, thrown, answer⟩ | ⟨_, returned, -⟩
    · rw [thrown] at refused
      obtain rfl := Except.error.inj refused
      have conflict := answer.trans (congrArg _ (conflict_of_audit isConflict))
      rcases resolves.cases with ⟨notResolved, -⟩ | ⟨isResolved, -⟩
      · refine IsFree.noConflict ?_ conflict
        intro parsed isParsed
        rw [alertEvent_source isParsed]
        exact invariant.unresolved alert listed notResolved
      · obtain ⟨userId, resolvedAt, holds⟩ :=
          invariant.resolved alert listed isResolved
        exact (resolvedEvent_again holds _ _ _).2 conflict
    · rw [returned] at refused
      cases refused

/-- The store after an active alert was resolved and the trail was told. -/
theorem alertInvariant_resolved
    (invariant : AlertInvariant parseOther hasher db)
    {input : ResolveOperationalAlertInput}
    {resolvedAt : TimeValue}
    {alert : OperationalAlert}
    (listed : alert ∈ db.alerts)
    {row : NewRow}
    {audit : AuditStore}
    (isAudit :
      audit =
        (appendAuditEvent parseOther hasher db.audit
          { row
            input :=
              resolvedEvent alert input.resolvedByUserId resolvedAt
                (recipientCount db.outbox alert.id) }).1)
    (holds :
      Holds parseOther hasher audit
        (resolvedEvent alert input.resolvedByUserId resolvedAt
          (recipientCount db.outbox alert.id))) :
    AlertInvariant parseOther hasher
      { db with
        alerts :=
          updateMany (fun row => row.id = alert.id)
            (fun row => row.resolve input resolvedAt) db.alerts
        audit } := by
  have staysFree :
      ∀ {sourceId}, IsFree db.audit sourceId →
        sourceId ≠ resolvedSource alert.id → IsFree audit sourceId := by
    intro sourceId isFree differs
    rw [isAudit]
    apply isFree.after_append
    intro parsed isParsed same
    exact differs (same.symm.trans (alertEvent_source isParsed))
  have staysHeld :
      ∀ {event}, Holds parseOther hasher db.audit event →
        Holds parseOther hasher audit event := by
    intro event isHeld
    rw [isAudit]
    exact isHeld.after_append _
  have sameIds :
      (updateMany (fun row => row.id = alert.id)
          (fun row : OperationalAlert => row.resolve input resolvedAt)
          db.alerts).map OperationalAlert.id =
        db.alerts.map OperationalAlert.id := by
    rw [updateMany, List.map_map]
    apply List.map_congr_left
    intro row _
    simp only [Function.comp]
    split <;> rfl
  constructor
  case ids =>
    rw [sameIds]
    exact invariant.ids
  case identities =>
    refine nodup_map_of_keeps ?_ invariant.identities
    intro row
    split <;> rfl
  case messages => exact invariant.messages
  case created =>
    intro other isOther
    obtain ⟨earlier, wasListed, rfl⟩ := List.mem_map.mp isOther
    have isHeld := staysHeld (invariant.created earlier wasListed)
    split <;> exact isHeld
  case resolved =>
    intro other isOther isResolved
    obtain ⟨earlier, wasListed, rfl⟩ := List.mem_map.mp isOther
    by_cases isAlert : earlier.id = alert.id
    · obtain rfl := eq_of_key invariant.ids wasListed listed isAlert
      simp only [decide_true, if_true]
      exact ⟨input.resolvedByUserId, resolvedAt, holds⟩
    · simp only [isAlert, decide_false, Bool.false_eq_true,
        if_false] at isResolved ⊢
      obtain ⟨userId, earlierTime, isHeld⟩ :=
        invariant.resolved earlier wasListed isResolved
      exact ⟨userId, earlierTime, staysHeld isHeld⟩
  case unresolved =>
    intro other isOther isUnresolved
    obtain ⟨earlier, wasListed, rfl⟩ := List.mem_map.mp isOther
    by_cases isAlert : earlier.id = alert.id
    · simp only [isAlert, decide_true, if_true] at isUnresolved
      exact absurd rfl isUnresolved
    · simp only [isAlert, decide_false, Bool.false_eq_true,
        if_false] at isUnresolved ⊢
      exact staysFree (invariant.unresolved earlier wasListed isUnresolved)
        fun same => isAlert (alertSource_injective same)
  case absent =>
    intro alertId notListed
    dsimp only at notListed
    rw [sameIds] at notListed
    obtain ⟨createdFree, resolvedFree⟩ := invariant.absent alertId notListed
    exact
      ⟨staysFree createdFree (createdSource_ne_resolvedSource _ _),
        staysFree resolvedFree fun same =>
          notListed
            (alertSource_injective same ▸ List.mem_map_of_mem listed)⟩

theorem alertInvariant_resolve
    {db db' : AlertStore}
    (invariant : AlertInvariant parseOther hasher db)
    {input : ResolveOperationalAlertInput}
    {now : TimeValue}
    {row : NewRow}
    {answer : Option (JsString × Bool)}
    (returns : resolve parseOther hasher db input now row = .ok (db', answer)) :
    AlertInvariant parseOther hasher db' := by
  rcases resolve_ok returns with
    rfl | ⟨alert, alerts, idempotent, resolves, told⟩
  · exact invariant
  obtain ⟨listed, -⟩ := findAlert_identity resolves.found
  rcases appendAuditEventTransactional_cases _ _ _ with
    ⟨error, thrown, -⟩ | ⟨_, appended, holds⟩
  · rw [thrown] at told
    cases told
  · rw [appended] at told
    obtain rfl := (Prod.mk.inj (Except.ok.inj told)).1
    rcases resolves.cases with ⟨-, rfl⟩ | ⟨isResolved, rfl⟩
    · exact alertInvariant_resolved invariant listed rfl holds
    · obtain ⟨userId, resolvedAt, isHeld⟩ :=
        invariant.resolved alert listed isResolved
      have unchanged := (resolvedEvent_again isHeld input.resolvedByUserId
        (alert.resolvedAt.getD now) row).1
      unfold resolutionEvent
      rw [unchanged]
      exact invariant

end TaskTwin.Alert
