import TaskTwin.Alert.Conflicts

/-!
# Runs of transactions that raise and resolve alerts
-/

namespace TaskTwin.Alert

open Text Audit Store

variable
    {parseOther : JsString → Option TimeValue}
    {hasher : AuditHasher}

theorem alertInvariant_record
    {db : AlertStore}
    (invariant : AlertInvariant parseOther hasher db)
    (event : DomainEvent)
    {audit : AuditStore}
    (isAudit :
      audit =
        (appendAuditEvent parseOther hasher db.audit
          { row := event.row, input := .object event.fields }).1) :
    AlertInvariant parseOther hasher { db with audit } := by
  have staysHeld :
      ∀ {input}, Holds parseOther hasher db.audit input →
        Holds parseOther hasher audit input := by
    intro input isHeld
    rw [isAudit]
    exact isHeld.after_append _
  have createdStaysFree :
      ∀ {alertId}, IsFree db.audit (createdSource alertId) →
        IsFree audit (createdSource alertId) := by
    intro alertId isFree
    rw [isAudit]
    exact isFree.after_append fun parsed isParsed =>
      (event.source isParsed alertId).1
  have resolvedStaysFree :
      ∀ {alertId}, IsFree db.audit (resolvedSource alertId) →
        IsFree audit (resolvedSource alertId) := by
    intro alertId isFree
    rw [isAudit]
    exact isFree.after_append fun parsed isParsed =>
      (event.source isParsed alertId).2
  exact
    { ids := invariant.ids
      identities := invariant.identities
      messages := invariant.messages
      created := fun alert listed =>
        staysHeld (invariant.created alert listed)
      resolved := by
        intro alert listed isResolved
        obtain ⟨userId, resolvedAt, isHeld⟩ :=
          invariant.resolved alert listed isResolved
        exact ⟨userId, resolvedAt, staysHeld isHeld⟩
      unresolved := fun alert listed isUnresolved =>
        resolvedStaysFree (invariant.unresolved alert listed isUnresolved)
      absent := fun alertId notListed =>
        ⟨createdStaysFree (invariant.absent alertId notListed).1,
          resolvedStaysFree (invariant.absent alertId notListed).2⟩ }

theorem perform_noConflict
    {db : AlertStore}
    (invariant : AlertInvariant parseOther hasher db)
    {effect : AlertEffect}
    (agrees : effect.Agrees hasher db)
    {failure : TransactionFailure}
    (throws : effect.perform parseOther hasher db = .error failure) :
    failure.isConflict = false := by
  cases effect with
  | append rawInput new row =>
      unfold AlertEffect.perform at throws
      dsimp only at throws
      split at throws
      case h_1 answer returned => cases throws
      case h_2 thrown refused =>
        cases throws
        exact append_noConflict invariant agrees refused
  | resolve input now row =>
      unfold AlertEffect.perform at throws
      dsimp only at throws
      split at throws
      case h_1 answer returned => cases throws
      case h_2 thrown refused =>
        cases throws
        exact resolve_noConflict invariant agrees refused
  | record event =>
      unfold AlertEffect.perform at throws
      dsimp only at throws
      split at throws
      case h_1 audit result appended => cases throws
      case h_2 audit error refused =>
        cases throws
        rfl

theorem alertInvariant_perform
    {db db' : AlertStore}
    (invariant : AlertInvariant parseOther hasher db)
    {effect : AlertEffect}
    (agrees : effect.Agrees hasher db)
    (returns : effect.perform parseOther hasher db = .ok db') :
    AlertInvariant parseOther hasher db' := by
  cases effect with
  | append rawInput new row =>
      unfold AlertEffect.perform at returns
      dsimp only at returns
      split at returns
      case h_1 answer returned =>
        cases returns
        exact alertInvariant_append invariant agrees returned
      case h_2 thrown refused => cases returns
  | resolve input now row =>
      unfold AlertEffect.perform at returns
      dsimp only at returns
      split at returns
      case h_1 answer returned =>
        cases returns
        exact alertInvariant_resolve invariant returned
      case h_2 thrown refused => cases returns
  | record event =>
      unfold AlertEffect.perform at returns
      dsimp only at returns
      split at returns
      case h_1 audit result appended =>
        cases returns
        exact alertInvariant_record invariant event (by rw [appended])
      case h_2 audit error refused => cases returns

theorem performAll_noConflict
    {effects : List AlertEffect}
    {db : AlertStore}
    (invariant : AlertInvariant parseOther hasher db)
    (agree : AllAgree parseOther hasher effects db)
    {failure : TransactionFailure}
    (throws : performAll parseOther hasher effects db = .error failure) :
    failure.isConflict = false := by
  induction effects generalizing db with
  | nil => cases throws
  | cons effect effects inductionHypothesis =>
      obtain ⟨agrees, othersAgree⟩ := agree
      unfold performAll at throws
      split at throws
      case h_1 next performed =>
        exact inductionHypothesis
          (alertInvariant_perform invariant agrees performed)
          (othersAgree next performed) throws
      case h_2 thrown refused =>
        cases throws
        exact perform_noConflict invariant agrees refused

theorem alertInvariant_performAll
    {effects : List AlertEffect}
    {db db' : AlertStore}
    (invariant : AlertInvariant parseOther hasher db)
    (agree : AllAgree parseOther hasher effects db)
    (returns : performAll parseOther hasher effects db = .ok db') :
    AlertInvariant parseOther hasher db' := by
  induction effects generalizing db with
  | nil =>
      cases returns
      exact invariant
  | cons effect effects inductionHypothesis =>
      obtain ⟨agrees, othersAgree⟩ := agree
      unfold performAll at returns
      split at returns
      case h_1 next performed =>
        exact inductionHypothesis
          (alertInvariant_perform invariant agrees performed)
          (othersAgree next performed) returns
      case h_2 thrown refused => cases returns

theorem execute_noConflict
    {db : AlertStore}
    (invariant : AlertInvariant parseOther hasher db)
    {operation : DomainOperation}
    (agrees : operation.Agrees parseOther hasher db)
    {failure : TransactionFailure}
    (throws : operation.execute parseOther hasher db = .error failure) :
    failure.isConflict = false := by
  cases operation with
  | transaction effects => exact performAll_noConflict invariant agrees throws
  | changeMembers workspaceId members => cases throws

theorem alertInvariant_step
    {db : AlertStore}
    (invariant : AlertInvariant parseOther hasher db)
    {operation : DomainOperation}
    (agrees : operation.Agrees parseOther hasher db) :
    AlertInvariant parseOther hasher (step parseOther hasher db operation) := by
  unfold step
  split
  case h_2 failure rolledBack => exact invariant
  case h_1 next committed =>
    cases operation with
    | transaction effects =>
        exact alertInvariant_performAll invariant agrees committed
    | changeMembers workspaceId members =>
        cases committed
        obtain ⟨ids, identities, messages, created, resolved, unresolved,
          absent⟩ := invariant
        exact
          { ids, identities, messages, created, resolved, unresolved, absent }

/-- An append that returned finds the alert that it announced. -/
theorem findAlert_of_upserted
    {input : TrustedOperationalAlertInput}
    {contractDigest : JsString}
    {new : NewAlert}
    {alerts alerts' : List OperationalAlert}
    {alert : OperationalAlert}
    (upserted :
      upsertAlert input contractDigest new alerts = .ok (alert, alerts')) :
    findAlert input.identity alerts' = some alert := by
  rcases upsertAlert_cases upserted with
    ⟨found, rfl⟩ | ⟨notFound, rfl, rfl, -⟩
  · exact found
  · unfold findAlert findUnique at notFound ⊢
    rw [List.find?_append, notFound]
    simp [TrustedOperationalAlertInput.alert]

/-- The same input again yields the same alert and changes nothing. -/
theorem append_again
    {db db' : AlertStore}
    {rawInput : JsValue}
    {new : NewAlert}
    {row : NewRow}
    {result : AppendResult}
    (returns : append parseOther hasher db rawInput new row = .ok (db', result))
    (new' : NewAlert)
    (row' : NewRow) :
    append parseOther hasher db' rawInput new' row' =
      .ok (db', { result with idempotent := true }) := by
  unfold append at returns ⊢
  obtain ⟨input, isParsed, returns⟩ := bind_eq_ok.mp returns
  obtain ⟨recipients, alert, alerts, messages, announces, told, isAlert,
    isCount⟩ := appendParsed_ok.mp returns
  rcases appendAuditEventTransactional_cases _ _ _ with
    ⟨error, thrown, -⟩ | ⟨idempotent, appended, holds⟩
  · rw [thrown] at told
    cases told
  rw [appended] at told
  obtain rfl := (Prod.mk.inj (Except.ok.inj told)).1
  have there :
      createManySkipDuplicates NotificationOutboxMessage.conflicts messages
          (announced db alerts messages).outbox =
        (announced db alerts messages).outbox :=
    createManySkipDuplicates_of_there fun message listed =>
      there_of_created conflicts_self listed
  have same :
      ∀ audit,
        announced { announced db alerts messages with audit } alerts
            messages =
          { announced db alerts messages with audit } := by
    intro audit
    unfold announced at there ⊢
    dsimp only at there ⊢
    rw [there]
  refine bind_eq_ok.mpr ⟨input, isParsed, appendParsed_ok.mpr
    ⟨recipients, alert, alerts, messages,
      { isDigest := announces.isDigest
        areRecipients := announces.areRecipients
        upserted := ?_
        areMessages := announces.areMessages }, ?_, isAlert, ?_⟩⟩
  · unfold upsertAlert
    dsimp only [announced]
    rw [findAlert_of_upserted announces.upserted]
  · unfold announcedEvent
    rw [same]
    exact appendAuditEventTransactional_of_holds holds row'
  · rw [same]
    exact isCount

/-- The part of a run that comes first keeps the invariant. -/
theorem alertInvariant_run
    {before after : List DomainOperation}
    {db : AlertStore}
    (invariant : AlertInvariant parseOther hasher db)
    (agree : RunAgrees parseOther hasher db (before ++ after)) :
    AlertInvariant parseOther hasher (run parseOther hasher db before) ∧
      RunAgrees parseOther hasher (run parseOther hasher db before) after := by
  induction before generalizing db with
  | nil => exact ⟨invariant, agree⟩
  | cons operation before inductionHypothesis =>
      obtain ⟨agrees, othersAgree⟩ := agree
      exact inductionHypothesis (alertInvariant_step invariant agrees)
        othersAgree

/--
No operation of a run is rolled back because of an earlier alert.  There is
one alert of a source and one message of it for a recipient, and an input that
is appended twice changes nothing the second time.
-/
structure AlertsStand
    (parseOther : JsString → Option TimeValue)
    (hasher : AuditHasher)
    (db : AlertStore)
    (operations : List DomainOperation) :
    Prop where
  noConflict :
    ∀ before operation after, operations = before ++ operation :: after →
      ∀ failure,
        operation.execute parseOther hasher
            (run parseOther hasher db before) =
          .error failure →
        failure.isConflict = false
  oneAlert :
    ∀ before after, operations = before ++ after →
      ((run parseOther hasher db before).alerts.map
        OperationalAlert.identity).Nodup
  oneMessage :
    ∀ before after, operations = before ++ after →
      ((run parseOther hasher db before).outbox.map
        NotificationOutboxMessage.address).Nodup
  twice :
    ∀ before after, operations = before ++ after →
      ∀ rawInput new row db' result,
        append parseOther hasher (run parseOther hasher db before) rawInput new
            row =
          .ok (db', result) →
        ∀ new' row',
          append parseOther hasher db' rawInput new' row' =
            .ok (db', { result with idempotent := true })

/-- Operations that agree with the alerts before them are not in conflict. -/
theorem agreeing_operations_stand
    (members : JsString → Option (List Membership))
    (operations : List DomainOperation)
    (agree : RunAgrees parseOther hasher (.empty members) operations) :
    AlertsStand parseOther hasher (.empty members) operations := by
  have start := alertInvariant_empty parseOther hasher members
  constructor
  case noConflict =>
    intro before operation after isRun failure throws
    rw [isRun] at agree
    obtain ⟨invariant, agrees, -⟩ := alertInvariant_run start agree
    exact execute_noConflict invariant agrees throws
  case oneAlert =>
    intro before after isRun
    rw [isRun] at agree
    exact (alertInvariant_run start agree).1.identities
  case oneMessage =>
    intro before after isRun
    rw [isRun] at agree
    exact (alertInvariant_run start agree).1.messages
  case twice =>
    intro before after _ rawInput new row db' result returns
    exact append_again returns

/-- The alert of a schedule that is paused because of an occurrence. -/
def scheduleAutoPausedAlert
    (workspaceId scheduleId occurrenceId createdByUserId : JsString)
    (reason : String)
    (now : TimeValue) :
    JsValue :=
  .object
    [(js "schemaVersion", wholeNumberValue 1),
      (js "workspaceId", .string workspaceId),
      (js "type", text "schedule_auto_paused"),
      (js "source",
        .object
          [(js "type", text "workflow_schedule"),
            (js "id", .string scheduleId)]),
      (js "primaryEntity",
        .object
          [(js "type", text "workflow_schedule"),
            (js "id", .string scheduleId)]),
      (js "relatedEntities",
        .array
          [.object
            [(js "type", text "workflow_schedule_occurrence"),
              (js "id", .string occurrenceId)]]),
      (js "template",
        .object
          [(js "schemaVersion", wholeNumberValue 1),
            (js "templateKey", text "schedule_auto_paused.v1"),
            (js "workflowScheduleId", .string scheduleId),
            (js "reason", text reason),
            (js "autoPausedAt", .string now.toISOString),
            (js "occurrenceId", .string occurrenceId)]),
      (js "actionTarget",
        .object
          [(js "schemaVersion", wholeNumberValue 1),
            (js "kind", text "schedule"),
            (js "workspaceId", .string workspaceId),
            (js "workflowScheduleId", .string scheduleId)]),
      (js "creatorUserId", .string createdByUserId)]

/-- How the alert of a schedule is resolved when the schedule is resumed. -/
def scheduleResumed
    (workspaceId scheduleId actorUserId : JsString) :
    ResolveOperationalAlertInput where
  identity :=
    { workspaceId
      type := .scheduleAutoPaused
      sourceType := .workflowSchedule
      sourceId := scheduleId }
  reason := .resumed
  resolvedByUserId := some actorUserId
  ignoreAlreadyResolved := true

/-- A digest of 64 symbols that depends on every symbol of its content. -/
def checksumHasher : AuditHasher where
  sha256Hex content :=
    let sum :=
      content.foldl (fun sum symbol => (sum * 65537 + symbol.val) % 16 ^ 64) 1
    (List.range 64).map fun place => hexUnit (sum / 16 ^ place % 16)

def exampleWorkspace : JsString := js "11111111-1111-4111-8111-111111111111"
def exampleSchedule : JsString := js "22222222-2222-4222-8222-222222222222"
def exampleOwner : JsString := js "33333333-3333-4333-8333-333333333333"
def firstOccurrence : JsString := js "55555555-5555-4555-8555-555555555555"
def secondOccurrence : JsString := js "66666666-6666-4666-8666-666666666666"

theorem firstTime_inRange : -maxTime ≤ 0 ∧ 0 ≤ maxTime := by decide

def firstTime : TimeValue where
  milliseconds := 0
  inRange := firstTime_inRange

theorem secondTime_inRange : -maxTime ≤ 86400000 ∧ 86400000 ≤ maxTime := by
  decide

def secondTime : TimeValue where
  milliseconds := 86400000
  inRange := secondTime_inRange

def exampleMembers : JsString → Option (List Membership) :=
  fun workspaceId =>
    if workspaceId = exampleWorkspace then
      some [{ userId := exampleOwner, role := .owner, isActive := true }]
    else
      none

def exampleRow : NewRow where
  id := js "event"
  createdAt := firstTime.toISOString

def newAlert (id : String) (createdAt : TimeValue) : NewAlert where
  id := js id
  createdAt

/-- A schedule is paused because of an occurrence. -/
def pausedBy (occurrenceId : JsString) (new : NewAlert) : DomainOperation :=
  .transaction
    [.append
      (scheduleAutoPausedAlert exampleWorkspace exampleSchedule occurrenceId
        exampleOwner "policy_review_required" new.createdAt)
      new exampleRow]

def resumed : DomainOperation :=
  .transaction
    [.resolve (scheduleResumed exampleWorkspace exampleSchedule exampleOwner)
      firstTime exampleRow]

def firstPause : DomainOperation :=
  pausedBy firstOccurrence
    (newAlert "77777777-7777-4777-8777-777777777777" firstTime)

def secondPause : DomainOperation :=
  pausedBy secondOccurrence
    (newAlert "88888888-8888-4888-8888-888888888888" secondTime)

/-- What a run on one workspace has come to. -/
def exampleExecute
    (before : List DomainOperation)
    (operation : DomainOperation) :
    Except TransactionFailure AlertStore :=
  operation.execute (fun _ => none) checksumHasher
    (run (fun _ => none) checksumHasher (.empty exampleMembers) before)

def failureOf :
    Except TransactionFailure AlertStore → Option TransactionFailure
  | .ok _ => none
  | .error failure => some failure

/-- A schedule that was resumed cannot be paused again by the system. -/
theorem secondPause_conflicts :
    ¬AlertsStand (fun _ => none) checksumHasher (.empty exampleMembers)
      [firstPause, resumed, secondPause] := by
  intro stands
  have isRefused :
      failureOf (exampleExecute [firstPause, resumed] secondPause) =
        some (.alert (.alert .sourceConflict)) := by
    decide +kernel
  cases outcome : exampleExecute [firstPause, resumed] secondPause with
  | ok db =>
      rw [outcome] at isRefused
      cases isRefused
  | error failure =>
      rw [outcome] at isRefused
      obtain rfl := Option.some.inj isRefused
      have noConflict :=
        stands.noConflict [firstPause, resumed] secondPause [] rfl _ outcome
      cases noConflict

/-- Pausing a schedule once and resuming it is in conflict with nothing. -/
theorem firstPause_stands :
    AlertsStand (fun _ => none) checksumHasher (.empty exampleMembers)
      [firstPause, resumed] := by
  apply agreeing_operations_stand
  refine ⟨⟨?_, fun _ _ => trivial⟩, ⟨?_, fun _ _ => trivial⟩, trivial⟩
  · intro input alert _ found
    cases found
  · intro alert _ _
    exact Or.inl rfl

end TaskTwin.Alert
