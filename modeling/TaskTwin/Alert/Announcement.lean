import TaskTwin.Alert.Appender

/-!
# Transactions that raise and resolve alerts

A domain transaction appends alerts, resolves alerts and records events of its
own.  It is rolled back when one of these throws.  Between transactions the
members of an organization may change in any way.
-/

namespace TaskTwin.Alert

open Text Audit Store

/-- The namespaces of the sources that alerts have in the audit trail. -/
def alertNamespaces : List JsString :=
  [js "notification-alert-created", js "notification-alert-resolved"]

/-- An event of a domain; its source is not that of an alert. -/
structure DomainEvent where
  row : NewRow
  fields : List (JsString × JsValue)
  notOfAlert :
    ∀ sourceId, JsValue.get fields (js "sourceId") = .string sourceId →
      sourceNamespace sourceId ∉ alertNamespaces

inductive AlertEffect where
  | append (rawInput : JsValue) (new : NewAlert) (row : NewRow)
  | resolve
      (input : ResolveOperationalAlertInput)
      (now : TimeValue)
      (row : NewRow)
  | record (event : DomainEvent)

inductive DomainOperation where
  | transaction (effects : List AlertEffect)
  | changeMembers (workspaceId : JsString) (members : List Membership)

/-- What a domain transaction is rolled back by. -/
inductive TransactionFailure where
  /-- Thrown by `append` or by `resolve`. -/
  | alert (failure : AlertFailure)
  /-- Thrown where the domain records an event of its own. -/
  | domain (error : AuditError)
  deriving DecidableEq, Repr

/-- The failure is there because of an earlier alert. -/
def AlertFailure.isConflict : AlertFailure → Bool
  | .alert .sourceConflict => true
  | .alert .resolutionConflict => true
  | .audit (.trail .auditSourceConflict) => true
  | _ => false

def TransactionFailure.isConflict : TransactionFailure → Bool
  | .alert failure => failure.isConflict
  | .domain _ => false

variable
    (parseOther : JsString → Option TimeValue)
    (hasher : AuditHasher)

def AlertEffect.perform
    (effect : AlertEffect)
    (db : AlertStore) :
    Except TransactionFailure AlertStore :=
  match effect with
  | .append rawInput new row =>
      match Alert.append parseOther hasher db rawInput new row with
      | .ok answer => .ok answer.1
      | .error failure => .error (.alert failure)
  | .resolve input now row =>
      match Alert.resolve parseOther hasher db input now row with
      | .ok answer => .ok answer.1
      | .error failure => .error (.alert failure)
  | .record event =>
      match appendAuditEvent parseOther hasher db.audit
          { row := event.row, input := .object event.fields } with
      | (audit, .ok _) => .ok { db with audit }
      | (_, .error error) => .error (.domain error)

def performAll :
    List AlertEffect → AlertStore → Except TransactionFailure AlertStore
  | [], db => .ok db
  | effect :: effects, db =>
      match effect.perform parseOther hasher db with
      | .ok db => performAll effects db
      | .error failure => .error failure

def DomainOperation.execute
    (operation : DomainOperation)
    (db : AlertStore) :
    Except TransactionFailure AlertStore :=
  match operation with
  | .transaction effects => performAll parseOther hasher effects db
  | .changeMembers workspaceId members =>
      .ok
        { db with
          members := Function.update db.members workspaceId (some members) }

/-- The store after an operation, which is rolled back when it throws. -/
def step (db : AlertStore) (operation : DomainOperation) : AlertStore :=
  match operation.execute parseOther hasher db with
  | .ok db => db
  | .error _ => db

def run (db : AlertStore) (operations : List DomainOperation) : AlertStore :=
  operations.foldl (step parseOther hasher) db

/-- A store in which no alert was raised. -/
def AlertStore.empty (members : JsString → Option (List Membership)) :
    AlertStore where
  members
  alerts := []
  outbox := []
  audit := .empty

/--
An input agrees with the alert of its source, if there is one: the alert was
raised by the same contract, and every current recipient has its message.
-/
def AppendAgrees (db : AlertStore) (rawInput : JsValue) : Prop :=
  ∀ input alert,
    parseTrustedOperationalAlertInput rawInput = some input →
    findAlert input.identity db.alerts = some alert →
    (∀ digest,
        createCanonicalJsonDigest hasher input.value = some digest →
        alert.contractDigest = digest) ∧
      ∀ recipients,
        currentRecipients db input = .ok recipients →
        ∀ recipientUserId ∈ recipients,
          ∃ message ∈ db.outbox,
            message.alertId = alert.id ∧
              message.recipientUserId = recipientUserId

/-- A resolved alert is resolved for its reason, or that it was is ignored. -/
def ResolveAgrees
    (db : AlertStore)
    (input : ResolveOperationalAlertInput) :
    Prop :=
  ∀ alert,
    findAlert input.identity db.alerts = some alert →
    alert.status = .resolved →
    input.ignoreAlreadyResolved = true ∨
      alert.resolutionReason = some input.reason

def AlertEffect.Agrees (effect : AlertEffect) (db : AlertStore) : Prop :=
  match effect with
  | .append rawInput _ _ => AppendAgrees hasher db rawInput
  | .resolve input _ _ => ResolveAgrees db input
  | .record _ => True

/-- Every effect agrees with the alerts where it is performed. -/
def AllAgree : List AlertEffect → AlertStore → Prop
  | [], _ => True
  | effect :: effects, db =>
      effect.Agrees hasher db ∧
        ∀ next, effect.perform parseOther hasher db = .ok next →
          AllAgree effects next

def DomainOperation.Agrees
    (operation : DomainOperation)
    (db : AlertStore) :
    Prop :=
  match operation with
  | .transaction effects => AllAgree parseOther hasher effects db
  | .changeMembers _ _ => True

/-- Every operation of a run agrees with the alerts where it is executed. -/
def RunAgrees : AlertStore → List DomainOperation → Prop
  | _, [] => True
  | db, operation :: operations =>
      operation.Agrees parseOther hasher db ∧
        RunAgrees (step parseOther hasher db operation) operations

end TaskTwin.Alert

namespace TaskTwin.Alert

open Text Audit Store

variable
    {parseOther : JsString → Option TimeValue}
    {hasher : AuditHasher}

def alertSource (source : String) (alertId : JsString) : JsString :=
  js source ++ unit ':' :: alertId

abbrev createdSource : JsString → JsString :=
  alertSource "notification-alert-created"

abbrev resolvedSource : JsString → JsString :=
  alertSource "notification-alert-resolved"

theorem alertSource_injective
    {source : String}
    {alertId other : JsString}
    (same : alertSource source alertId = alertSource source other) :
    alertId = other :=
  List.tail_eq_of_cons_eq (List.append_cancel_left same)

theorem namespace_created (alertId : JsString) :
    sourceNamespace (createdSource alertId) =
      js "notification-alert-created" :=
  sourceNamespace_append (by decide +kernel) alertId

theorem namespace_resolved (alertId : JsString) :
    sourceNamespace (resolvedSource alertId) =
      js "notification-alert-resolved" :=
  sourceNamespace_append (by decide +kernel) alertId

theorem createdSource_ne_resolvedSource (alertId other : JsString) :
    createdSource alertId ≠ resolvedSource other := by
  intro same
  have sameNamespace := congrArg sourceNamespace same
  rw [namespace_created, namespace_resolved] at sameNamespace
  exact absurd sameNamespace (by decide +kernel)

/-- The source of an event about an alert. -/
theorem alertEvent_source
    {eventType : String}
    {actor : JsValue}
    {alertId : JsString}
    {identity : SourceIdentity}
    {severity : OperationalAlertSeverity}
    {occurredAt : TimeValue}
    {source : String}
    {count : Nat}
    {parsed : ParsedAuditEventInput}
    (isParsed :
      parseAuditEventInput parseOther
          (alertEvent eventType actor alertId identity severity occurredAt
            source count) =
        some parsed) :
    parsed.sourceId = alertSource source alertId := by
  obtain ⟨-, -, -, isSource, -⟩ := parseAuditEventInput_properties isParsed
  exact (JsValue.string.inj isSource).symm

/-- The source of an event of a domain is none of an alert. -/
theorem DomainEvent.source
    (event : DomainEvent)
    {parsed : ParsedAuditEventInput}
    (isParsed :
      parseAuditEventInput parseOther (.object event.fields) = some parsed)
    (alertId : JsString) :
    parsed.sourceId ≠ createdSource alertId ∧
      parsed.sourceId ≠ resolvedSource alertId := by
  obtain ⟨-, -, -, isSource, -⟩ := parseAuditEventInput_properties isParsed
  have notOfAlert := event.notOfAlert parsed.sourceId isSource
  constructor <;> intro same <;> rw [same] at notOfAlert
  · rw [namespace_created] at notOfAlert
    exact notOfAlert (by simp [alertNamespaces])
  · rw [namespace_resolved] at notOfAlert
    exact notOfAlert (by simp [alertNamespaces])

theorem appendAuditEventTransactional_eq
    (db : AlertStore)
    (row : NewRow)
    (input : JsValue) :
    appendAuditEventTransactional parseOther hasher db row input =
      let appended :=
        appendAuditEvent parseOther hasher db.audit { row, input }
      match appended.2 with
      | .ok result => .ok ({ db with audit := appended.1 }, result.idempotent)
      | .error error => .error (.audit error) := by
  unfold appendAuditEventTransactional
  split
  case h_1 audit result appended => simp [appended]
  case h_2 audit error refused => simp [refused]

/-- What the trail holds is there. -/
theorem appendAuditEventTransactional_of_holds
    {db : AlertStore}
    {input : JsValue}
    (holds : Holds parseOther hasher db.audit input)
    (row : NewRow) :
    appendAuditEventTransactional parseOther hasher db row input =
      .ok (db, true) := by
  obtain ⟨parsed, payloadDigest, event, isHeld⟩ := holds
  have isAnswered :=
    @HoldsEvent.appendAuditEvent_eq parseOther hasher db.audit { row, input } _
      _ _ isHeld
  rw [appendAuditEventTransactional_eq]
  simp [isAnswered]

/-- An append to the trail throws, or the trail holds the event. -/
theorem appendAuditEventTransactional_cases
    (db : AlertStore)
    (row : NewRow)
    (input : JsValue) :
    (∃ error,
        appendAuditEventTransactional parseOther hasher db row input =
            .error (.audit error) ∧
          (appendAuditEvent parseOther hasher db.audit { row, input }).2 =
            .error error) ∨
      ∃ idempotent,
        appendAuditEventTransactional parseOther hasher db row input =
            .ok
              ({ db with
                  audit :=
                    (appendAuditEvent parseOther hasher db.audit
                      { row, input }).1 },
                idempotent) ∧
          Holds parseOther hasher
            (appendAuditEvent parseOther hasher db.audit { row, input }).1
            input := by
  rw [appendAuditEventTransactional_eq]
  cases answer :
      (appendAuditEvent parseOther hasher db.audit { row, input }).2 with
  | error error => exact Or.inl ⟨error, by simp [answer], rfl⟩
  | ok result =>
      exact Or.inr
        ⟨result.idempotent, by simp [answer], holds_of_appended answer⟩

variable
  {db : AlertStore}
  {input : TrustedOperationalAlertInput}
  {new : NewAlert}

theorem currentRecipients_noConflict
    {failure : AlertFailure}
    (throws : currentRecipients db input = .error failure) :
    failure.isConflict = false := by
  unfold currentRecipients at throws
  rcases bind_eq_error throws with missing | ⟨members, -, throws⟩
  · rw [(orThrow_eq_error missing).2]
    rfl
  unfold resolveOperationalAlertRecipients at throws
  rcases bind_eq_error throws with invalid | ⟨_, -, throws⟩
  · rw [(refuseIf_eq_error invalid).2]
    rfl
  rcases bind_eq_error throws with tooMany | ⟨_, -, throws⟩
  · rw [(refuseIf_eq_error tooMany).2]
    rfl
  · cases throws

theorem findAlert_identity
    {identity : SourceIdentity}
    {alerts : List OperationalAlert}
    {alert : OperationalAlert}
    (found : findAlert identity alerts = some alert) :
    alert ∈ alerts ∧ alert.identity = identity :=
  mem_of_findUnique found

theorem upsertAlert_noConflict
    {contractDigest : JsString}
    {new : NewAlert}
    {alerts : List OperationalAlert}
    {failure : AlertFailure}
    (throws : upsertAlert input contractDigest new alerts = .error failure) :
    failure.isConflict = false := by
  unfold upsertAlert at throws
  split at throws
  case h_1 existing found => cases throws
  case h_2 notFound =>
    cases created :
        createMany OperationalAlert.id [input.alert contractDigest new]
          alerts with
    | none =>
        rw [created] at throws
        cases throws
        rfl
    | some extended =>
        rw [created] at throws
        cases throws

/-- The alert of a source is the one that was found, or a new one. -/
theorem upsertAlert_cases
    {contractDigest : JsString}
    {new : NewAlert}
    {alerts alerts' : List OperationalAlert}
    {alert : OperationalAlert}
    (upserted :
      upsertAlert input contractDigest new alerts = .ok (alert, alerts')) :
    (findAlert input.identity alerts = some alert ∧ alerts' = alerts) ∨
      (findAlert input.identity alerts = none ∧
        alert = input.alert contractDigest new ∧
        alerts' = alerts ++ [alert] ∧
        (alerts'.map OperationalAlert.id).Nodup) := by
  unfold upsertAlert at upserted
  split at upserted
  case h_1 existing found =>
    cases upserted
    exact Or.inl ⟨found, rfl⟩
  case h_2 notFound =>
    cases created :
        createMany OperationalAlert.id [input.alert contractDigest new]
          alerts with
    | none =>
        rw [created] at upserted
        cases upserted
    | some extended =>
        rw [created] at upserted
        obtain ⟨distinct, isExtended⟩ := createMany_eq_some_iff.mp created
        cases upserted
        rw [← isExtended] at distinct
        exact Or.inr ⟨notFound, rfl, isExtended, distinct⟩

/-- What an append has come to when it tells the audit trail. -/
structure Announces
    (hasher : AuditHasher)
    (db : AlertStore)
    (input : TrustedOperationalAlertInput)
    (new : NewAlert)
    (recipients : List JsString)
    (alert : OperationalAlert)
    (alerts : List OperationalAlert)
    (messages : List NotificationOutboxMessage) :
    Prop where
  isDigest :
    createCanonicalJsonDigest hasher input.value = some alert.contractDigest
  areRecipients : currentRecipients db input = .ok recipients
  upserted :
    upsertAlert input alert.contractDigest new db.alerts = .ok (alert, alerts)
  areMessages :
    recipients.mapM (outboxMessage input.workspaceId alert.id) = some messages

/-- The store in which an alert is announced, but the trail not yet told. -/
def announced
    (db : AlertStore)
    (alerts : List OperationalAlert)
    (messages : List NotificationOutboxMessage) :
    AlertStore :=
  { db with
    alerts
    outbox :=
      createManySkipDuplicates NotificationOutboxMessage.conflicts messages
        db.outbox }

def announcedEvent
    (db : AlertStore)
    (input : TrustedOperationalAlertInput)
    (alert : OperationalAlert)
    (alerts : List OperationalAlert)
    (messages : List NotificationOutboxMessage) :
    JsValue :=
  createdEvent alert.id input.identity alert.createdAt
    (recipientCount (announced db alerts messages).outbox alert.id)

/-- An append is in conflict with the contract of an alert, or in the trail. -/
theorem appendParsed_conflict
    {row : NewRow}
    {failure : AlertFailure}
    (throws :
      appendParsed parseOther hasher db input new row = .error failure)
    (isConflict : failure.isConflict = true) :
    (∃ alert alerts contractDigest,
        createCanonicalJsonDigest hasher input.value = some contractDigest ∧
          upsertAlert input contractDigest new db.alerts =
            .ok (alert, alerts) ∧
          alert.contractDigest ≠ contractDigest) ∨
      ∃ recipients alert alerts messages,
        Announces hasher db input new recipients alert alerts messages ∧
          appendAuditEventTransactional parseOther hasher
              (announced db alerts messages) row
              (announcedEvent db input alert alerts messages) =
            .error failure := by
  unfold appendParsed at throws
  rcases bind_eq_error throws with undigested | ⟨contractDigest, digested, throws⟩
  · obtain rfl := (orThrow_eq_error undigested).2
    cases isConflict
  rcases bind_eq_error throws with noRecipients | ⟨recipients, areRecipients, throws⟩
  · rw [currentRecipients_noConflict noRecipients] at isConflict
    cases isConflict
  rcases bind_eq_error throws with refused | ⟨upsert, upserted, throws⟩
  · rw [upsertAlert_noConflict refused] at isConflict
    cases isConflict
  obtain ⟨alert, alerts⟩ := upsert
  have isDigest := orThrow_eq_ok.mp digested
  rcases bind_eq_error throws with differs | ⟨_, same, throws⟩
  · exact Or.inl
      ⟨alert, alerts, contractDigest, isDigest, upserted,
        (refuseIf_eq_error differs).1⟩
  have sameContract : alert.contractDigest = contractDigest :=
    not_not.mp (refuseIf_eq_ok.mp same)
  rcases bind_eq_error throws with noKeys | ⟨messages, areMessages, throws⟩
  · obtain rfl := (orThrow_eq_error noKeys).2
    cases isConflict
  rcases bind_eq_error throws with refused | ⟨answer, -, throws⟩
  · exact Or.inr
      ⟨recipients, alert, alerts, messages,
        { isDigest := by rw [sameContract]; exact isDigest
          areRecipients
          upserted := by rw [sameContract]; exact upserted
          areMessages := orThrow_eq_ok.mp areMessages },
        refused⟩
  · cases throws

/-- An append that returns has announced the alert and told the trail. -/
theorem appendParsed_ok
    {row : NewRow}
    {db' : AlertStore}
    {result : AppendResult} :
    appendParsed parseOther hasher db input new row = .ok (db', result) ↔
      ∃ recipients alert alerts messages,
        Announces hasher db input new recipients alert alerts messages ∧
          appendAuditEventTransactional parseOther hasher
              (announced db alerts messages) row
              (announcedEvent db input alert alerts messages) =
            .ok (db', result.idempotent) ∧
          result.alertId = alert.id ∧
          result.recipientCount =
            recipientCount (announced db alerts messages).outbox alert.id := by
  unfold appendParsed
  constructor
  case mp =>
    intro returns
    obtain ⟨contractDigest, digested, returns⟩ := bind_eq_ok.mp returns
    obtain ⟨recipients, areRecipients, returns⟩ := bind_eq_ok.mp returns
    obtain ⟨⟨alert, alerts⟩, upserted, returns⟩ := bind_eq_ok.mp returns
    obtain ⟨_, same, returns⟩ := bind_eq_ok.mp returns
    have sameContract : alert.contractDigest = contractDigest :=
      not_not.mp (refuseIf_eq_ok.mp same)
    obtain ⟨messages, areMessages, returns⟩ := bind_eq_ok.mp returns
    obtain ⟨answer, told, returns⟩ := bind_eq_ok.mp returns
    cases returns
    exact
      ⟨recipients, alert, alerts, messages,
        { isDigest := by rw [sameContract]; exact orThrow_eq_ok.mp digested
          areRecipients
          upserted := by rw [sameContract]; exact upserted
          areMessages := orThrow_eq_ok.mp areMessages },
        told, rfl, rfl⟩
  case mpr =>
    rintro ⟨recipients, alert, alerts, messages, announces, told, isAlert,
      isCount⟩
    refine bind_eq_ok.mpr
      ⟨_, orThrow_eq_ok.mpr announces.isDigest, bind_eq_ok.mpr
        ⟨_, announces.areRecipients, bind_eq_ok.mpr
          ⟨_, announces.upserted, bind_eq_ok.mpr
            ⟨_, refuseIf_of_not (not_not.mpr rfl), bind_eq_ok.mpr
              ⟨_, orThrow_eq_ok.mpr announces.areMessages, bind_eq_ok.mpr
                ⟨_, told, ?_⟩⟩⟩⟩⟩⟩
    obtain ⟨alertId, count, idempotent⟩ := result
    subst isAlert isCount
    rfl

end TaskTwin.Alert
