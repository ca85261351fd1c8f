import Mathlib.Data.List.Dedup
import TaskTwin.Alert.Callers
import TaskTwin.Notification.Outbox

/-!
# Who is still eligible at delivery

An append decides from the creator that its caller names who an alert is for.
The delivery finds the creator again, from the type and the source of the
alert.  The two agree, except for the alert of a blocked occurrence, whose
source is no schedule.
-/

namespace TaskTwin.Notification

open Text Schema Audit Store Alert

/-- An alert that a domain operation raises, and the row it is about. -/
inductive DomainAlert where
  | approvalRequired
      (workspaceId approvalRequestId workflowRunId : JsString)
      (riskLevel : String)
      (expiresAt : JsString)
  | repairRequired
      (workspaceId repairRequestId workflowRunId : JsString)
      (stepType : String)
      (attemptNumber : Nat)
      (expiresAt : JsString)
  | runFailed (run : OwnedRow) (failedAt : JsString)
  | runTimedOut
      (run : OwnedRow)
      (relatedEntities : List JsValue)
      (timedOutAt : JsString)
  | runInterrupted (run : OwnedRow) (interruptedAt : JsString)
  /-- A claim pauses the schedule of a run, which is of the same workspace. -/
  | scheduleAutoPaused
      (schedule : OwnedRow)
      (occurrenceId : Option JsString)
      (reason : String)
      (autoPausedAt : JsString)
  | blockedOccurrence
      (schedule : OwnedRow)
      (occurrenceId : JsString)
      (reason : String)
      (autoPausedAt : JsString)
  | auditIntegrityFailed
      (workspaceId : JsString)
      (failureCode : String)
      (failureSequence : Nat)
      (verifiedAt : JsString)
  | rolloutRequiresReview
      (workspaceId rolloutId : JsString)
      (assignmentId : Option JsString)
      (observedAt : JsString)

namespace DomainAlert

/-- What the caller appends. -/
def parts : DomainAlert → AlertParts
  | .approvalRequired workspaceId approvalRequestId workflowRunId riskLevel
      expiresAt =>
      Alert.approvalRequired workspaceId approvalRequestId workflowRunId
        riskLevel expiresAt
  | .repairRequired workspaceId repairRequestId workflowRunId stepType
      attemptNumber expiresAt =>
      Alert.repairRequired workspaceId repairRequestId workflowRunId stepType
        attemptNumber expiresAt
  | .runFailed run failedAt =>
      Alert.runFailed run.workspaceId run.id run.createdByUserId [] failedAt
  | .runTimedOut run relatedEntities timedOutAt =>
      Alert.runTimedOut run.workspaceId run.id run.createdByUserId
        relatedEntities timedOutAt
  | .runInterrupted run interruptedAt =>
      Alert.runInterrupted run.workspaceId run.id run.createdByUserId []
        interruptedAt
  | .scheduleAutoPaused schedule occurrenceId reason autoPausedAt =>
      Alert.scheduleAutoPaused schedule.workspaceId schedule.id
        schedule.createdByUserId occurrenceId reason autoPausedAt
  | .blockedOccurrence schedule occurrenceId reason autoPausedAt =>
      Alert.blockedOccurrence schedule.workspaceId schedule.id
        schedule.createdByUserId occurrenceId reason autoPausedAt
  | .auditIntegrityFailed workspaceId failureCode failureSequence verifiedAt =>
      Alert.auditIntegrityFailed workspaceId failureCode failureSequence
        verifiedAt
  | .rolloutRequiresReview workspaceId rolloutId assignmentId observedAt =>
      Alert.rolloutRequiresReview workspaceId rolloutId assignmentId observedAt

/-- The run or the schedule of an alert is there. -/
def Stands (directory : Directory) : DomainAlert → Prop
  | .runFailed run _ => run ∈ directory.runs
  | .runTimedOut run _ _ => run ∈ directory.runs
  | .runInterrupted run _ => run ∈ directory.runs
  | .scheduleAutoPaused schedule _ _ _ => schedule ∈ directory.schedules
  | .blockedOccurrence schedule _ _ _ => schedule ∈ directory.schedules
  | _ => True

end DomainAlert

def isPrivileged (member : Membership) : Bool :=
  member.role = .owner || member.role = .admin

theorem mem_recipients
    {type : OperationalAlertType}
    {memberships : List Membership}
    {creatorUserId : Option JsString}
    {recipients : List JsString}
    (resolved :
      resolveOperationalAlertRecipients type memberships creatorUserId =
        .ok recipients)
    {userId : JsString}
    (listed : userId ∈ recipients) :
    ∃ member ∈ memberships,
      member.userId = userId ∧
        isRecipient type creatorUserId member = true := by
  unfold resolveOperationalAlertRecipients at resolved
  obtain ⟨_, -, resolved⟩ := bind_eq_ok.mp resolved
  obtain ⟨_, -, resolved⟩ := bind_eq_ok.mp resolved
  obtain rfl := Except.ok.inj resolved
  have isUser := List.mem_dedup.mp ((List.mem_insertionSort _).mp listed)
  obtain ⟨member, isMember, isUser⟩ := List.mem_map.mp isUser
  obtain ⟨isThere, receives⟩ := List.mem_filter.mp isMember
  exact ⟨member, isThere, isUser, receives⟩

/-- Identifiers are unique, and so is the row that is counted. -/
theorem countOwned_eq_one
    {rows : List OwnedRow}
    (ids : (rows.map OwnedRow.id).Nodup)
    {row : OwnedRow}
    (listed : row ∈ rows) :
    countOwned rows row.id row.workspaceId row.createdByUserId = 1 := by
  have sameRows :
      countOwned rows row.id row.workspaceId row.createdByUserId =
        rows.count row := by
    unfold countOwned List.count
    refine List.countP_congr fun other isOther => ?_
    simp only [Bool.and_eq_true, decide_eq_true_eq, beq_iff_eq]
    constructor
    · rintro ⟨⟨sameId, -⟩, -⟩
      exact eq_of_key ids isOther listed sameId
    · rintro rfl
      exact ⟨⟨rfl, rfl⟩, rfl⟩
  rw [sameRows]
  exact List.count_eq_one_of_mem (List.Nodup.of_map _ ids) listed

/-- The tables that a delivery reads have their keys. -/
structure Directory.Keyed (directory : Directory) : Prop where
  members :
    ∀ workspaceId,
      ((directory.members workspaceId).map Membership.userId).Nodup
  runs : (directory.runs.map OwnedRow.id).Nodup
  schedules : (directory.schedules.map OwnedRow.id).Nodup

theorem activeMember?_of_mem
    {directory : Directory}
    (keyed : directory.Keyed)
    {workspaceId : JsString}
    {member : Membership}
    (listed : member ∈ directory.members workspaceId)
    (isActive : member.isActive = true) :
    directory.activeMember? workspaceId member.userId = some member := by
  unfold Directory.activeMember?
  cases found :
      (directory.members workspaceId).find? fun other =>
        other.userId = member.userId && other.isActive with
  | none =>
      have differs := List.find?_eq_none.mp found member listed
      simp [isActive] at differs
  | some other =>
      have isOther := List.find?_some found
      simp only [Bool.and_eq_true, decide_eq_true_eq] at isOther
      rw [eq_of_key (keyed.members workspaceId)
        (List.mem_of_find?_eq_some found) listed isOther.1]

/-- The delivery does not find the creator: the source of the alert is an
occurrence, and there is no schedule of the recipient with its identifier. -/
def DomainAlert.LosesCreator
    (directory : Directory)
    (userId : JsString) :
    DomainAlert → Prop
  | .blockedOccurrence schedule occurrenceId _ _ =>
      countOwned directory.schedules occurrenceId schedule.workspaceId userId ≠
        1
  | _ => False

/-- What the delivery knows of a message and its alert. -/
structure IsAbout
    (parts : AlertParts)
    (userId : JsString)
    (message : OutboxRow)
    (alert : AlertRow) :
    Prop where
  workspace : message.workspaceId = parts.workspaceId
  recipient : message.recipientUserId = userId
  type : alert.identity.type = parts.type
  source : alert.identity.sourceId = parts.sourceId

theorem isRunType_runFailed : isRunType .runFailed = true := by
  decide +kernel

theorem isRunType_runTimedOut : isRunType .runTimedOut = true := by
  decide +kernel

theorem isRunType_runInterrupted : isRunType .runInterrupted = true := by
  decide +kernel

variable {directory : Directory}

theorem creatorEligible_of_run
    (keyed : directory.Keyed)
    {run : OwnedRow}
    (listed : run ∈ directory.runs)
    {message : OutboxRow}
    {alert : AlertRow}
    (isRun : isRunType alert.identity.type = true)
    (source : alert.identity.sourceId = run.id)
    (workspace : message.workspaceId = run.workspaceId)
    (recipient : message.recipientUserId = run.createdByUserId) :
    creatorEligible directory message alert = true := by
  unfold creatorEligible
  rw [if_pos isRun, source, workspace, recipient,
    countOwned_eq_one keyed.runs listed]
  rfl

variable
  {store : AlertStore}
  {alert : DomainAlert}
  {userId : JsString}
  {message : OutboxRow}
  {alertRow : AlertRow}

theorem creatorEligible_scheduleAutoPaused
    {alert : AlertRow}
    (isType : alert.identity.type = .scheduleAutoPaused) :
    creatorEligible directory message alert =
      decide
        (countOwned directory.schedules alert.identity.sourceId
          message.workspaceId message.recipientUserId = 1) := by
  have notRun : isRunType .scheduleAutoPaused = false := by decide +kernel
  unfold creatorEligible
  rw [isType, notRun]
  rfl

/-- A creator to whom an alert was routed is found again, unless it is lost. -/
theorem creatorEligible_iff
    (keyed : directory.Keyed)
    {alert : DomainAlert}
    (stands : alert.Stands directory)
    {userId : JsString}
    {message : OutboxRow}
    {alertRow : AlertRow}
    (about : IsAbout alert.parts userId message alertRow)
    (routed :
      alert.parts.creatorUserId = some userId ∧
        (alert.parts.type = .runFailed ∨ alert.parts.type = .runTimedOut ∨
          alert.parts.type = .runInterrupted ∨
            alert.parts.type = .scheduleAutoPaused)) :
    creatorEligible directory message alertRow = true ↔
      ¬alert.LosesCreator directory userId := by
  obtain ⟨isCreator, -⟩ := routed
  obtain ⟨workspace, recipient, type, source⟩ := about
  cases alert with
  | runFailed run failedAt =>
      have isRun : isRunType alertRow.identity.type = true := by
        rw [type]
        exact isRunType_runFailed
      have creator := Option.some.inj isCreator
      exact iff_of_true
        (creatorEligible_of_run keyed stands isRun source workspace
          (recipient.trans creator.symm)) id
  | runTimedOut run relatedEntities timedOutAt =>
      have isRun : isRunType alertRow.identity.type = true := by
        rw [type]
        exact isRunType_runTimedOut
      have creator := Option.some.inj isCreator
      exact iff_of_true
        (creatorEligible_of_run keyed stands isRun source workspace
          (recipient.trans creator.symm)) id
  | runInterrupted run interruptedAt =>
      have isRun : isRunType alertRow.identity.type = true := by
        rw [type]
        exact isRunType_runInterrupted
      have creator := Option.some.inj isCreator
      exact iff_of_true
        (creatorEligible_of_run keyed stands isRun source workspace
          (recipient.trans creator.symm)) id
  | scheduleAutoPaused schedule occurrenceId reason autoPausedAt =>
      have creator := Option.some.inj isCreator
      have counted :
          countOwned directory.schedules alertRow.identity.sourceId
            message.workspaceId message.recipientUserId = 1 := by
        rw [source, workspace, recipient, ← creator]
        exact countOwned_eq_one keyed.schedules stands
      rw [creatorEligible_scheduleAutoPaused type]
      exact iff_of_true (decide_eq_true counted) id
  | blockedOccurrence schedule occurrenceId reason autoPausedAt =>
      rw [creatorEligible_scheduleAutoPaused type, decide_eq_true_iff, source,
        workspace, recipient]
      exact not_not.symm
  | _ => cases isCreator

/-- An append of the alert has found that the user is to be told, and has
created the message for them. -/
structure IsAnnounced
    (store : AlertStore)
    (alert : DomainAlert)
    (userId : JsString)
    (message : OutboxRow)
    (alertRow : AlertRow) :
    Prop where
  announced :
    ∃ input recipients,
      parseTrustedOperationalAlertInput alert.parts.input = some input ∧
        currentRecipients store input = .ok recipients ∧
        userId ∈ recipients ∧
        alertRow.identity = input.identity ∧
        outboxMessage input.workspaceId alertRow.id userId =
          some message.toNotificationOutboxMessage

/-- The membership of a user is what it was. -/
def SameMembership
    (store : AlertStore)
    (directory : Directory)
    (workspaceId userId : JsString) :
    Prop :=
  ∀ members, store.members workspaceId = some members →
    members.filter (fun member => member.userId = userId) =
      (directory.members workspaceId).filter fun member =>
        member.userId = userId

theorem IsAnnounced.about
    (isAnnounced : IsAnnounced store alert userId message alertRow) :
    IsAbout alert.parts userId message alertRow := by
  obtain ⟨input, recipients, isParsed, -, -, identity, isMessage⟩ :=
    isAnnounced.announced
  obtain ⟨isIdentity, -⟩ := AlertParts.parsed isParsed
  obtain ⟨key, -, created⟩ := Option.map_eq_some_iff.mp isMessage
  have workspace : input.workspaceId = message.workspaceId :=
    congrArg NotificationOutboxMessage.workspaceId created
  have recipient : userId = message.recipientUserId :=
    congrArg NotificationOutboxMessage.recipientUserId created
  have sameWorkspace : input.workspaceId = alert.parts.workspaceId :=
    congrArg SourceIdentity.workspaceId isIdentity
  exact
    { workspace := workspace.symm.trans sameWorkspace
      recipient := recipient.symm
      type := by rw [identity, isIdentity]
      source := by rw [identity, isIdentity] }

/-- The recipient of an announced alert was, and is, a member to be told. -/
theorem IsAnnounced.member
    {directory : Directory}
    (isAnnounced : IsAnnounced store alert userId message alertRow)
    (keyed : directory.Keyed)
    (same :
      SameMembership store directory alert.parts.workspaceId userId) :
    ∃ member,
      directory.activeMember? message.workspaceId message.recipientUserId =
          some member ∧
        isRecipient alert.parts.type alert.parts.creatorUserId member =
          true ∧
        member.userId = userId := by
  have about := isAnnounced.about
  obtain ⟨input, recipients, isParsed, areRecipients, listed, -, -⟩ :=
    isAnnounced.announced
  obtain ⟨isIdentity, isCreator⟩ := AlertParts.parsed isParsed
  have sameWorkspace : input.workspaceId = alert.parts.workspaceId :=
    congrArg SourceIdentity.workspaceId isIdentity
  have sameType : input.type = alert.parts.type :=
    congrArg SourceIdentity.type isIdentity
  obtain ⟨members, areMembers, resolved⟩ := bind_eq_ok.mp areRecipients
  have areMembers := orThrow_eq_ok.mp areMembers
  obtain ⟨member, isMember, isUser, receives⟩ :=
    mem_recipients resolved listed
  obtain ⟨isThere, isActive⟩ := List.mem_filter.mp isMember
  rw [sameWorkspace] at areMembers
  have isStillThere :
      member ∈
        (directory.members alert.parts.workspaceId).filter fun member =>
          member.userId = userId := by
    rw [← same members areMembers]
    exact List.mem_filter.mpr ⟨isThere, decide_eq_true isUser⟩
  have found :=
    activeMember?_of_mem keyed (List.mem_filter.mp isStillThere).1 isActive
  rw [sameType, isCreator] at receives
  rw [about.workspace, about.recipient]
  rw [isUser] at found
  exact ⟨member, found, receives, isUser⟩

/-- The recipient of an announced alert is refused when it is delivered
exactly if they are not privileged and their right as a creator is lost. -/
theorem recipient_accepted_iff
    (store : AlertStore)
    (alert : DomainAlert)
    (userId : JsString)
    (message : OutboxRow)
    (alertRow : AlertRow)
    (directory : Directory)
    (isAnnounced : IsAnnounced store alert userId message alertRow)
    (keyed : directory.Keyed)
    (same : SameMembership store directory alert.parts.workspaceId userId)
    (stands : alert.Stands directory) :
    recipientRefusal directory message alertRow = none ↔
      (∃ member ∈ directory.members alert.parts.workspaceId,
          member.userId = userId ∧ isPrivileged member = true) ∨
        ¬alert.LosesCreator directory userId := by
  obtain ⟨member, found, receives, isUser⟩ := isAnnounced.member keyed same
  have about := isAnnounced.about
  have listed :
      member ∈ directory.members alert.parts.workspaceId := by
    rw [← about.workspace]
    exact List.mem_of_find?_eq_some found
  have isOnly :
      (∃ other ∈ directory.members alert.parts.workspaceId,
          other.userId = userId ∧ isPrivileged other = true) ↔
        isPrivileged member = true := by
    constructor
    · rintro ⟨other, isOther, sameUser, privileged⟩
      have sameMember :=
        eq_of_key (keyed.members alert.parts.workspaceId) isOther listed
          (sameUser.trans isUser.symm)
      exact sameMember ▸ privileged
    · intro privileged
      exact ⟨member, listed, isUser, privileged⟩
  rw [isOnly]
  unfold recipientRefusal
  rw [found]
  dsimp only
  cases privileged : isPrivileged member with
  | true =>
      rw [isPrivileged] at privileged
      simp [privileged]
  | false =>
      have notPrivileged := privileged
      rw [isPrivileged] at notPrivileged
      have routed :
          alert.parts.creatorUserId = some userId ∧
            (alert.parts.type = .runFailed ∨ alert.parts.type = .runTimedOut ∨
              alert.parts.type = .runInterrupted ∨
                alert.parts.type = .scheduleAutoPaused) := by
        simp only [isRecipient, notPrivileged, Bool.false_or,
          Bool.and_eq_true, Bool.or_eq_true, decide_eq_true_eq] at receives
        obtain ⟨-, isCreator, ((failed | timedOut) | interrupted) | paused⟩ :=
          receives
        · exact ⟨isUser ▸ isCreator, Or.inl failed⟩
        · exact ⟨isUser ▸ isCreator, Or.inr (Or.inl timedOut)⟩
        · exact ⟨isUser ▸ isCreator, Or.inr (Or.inr (Or.inl interrupted))⟩
        · exact ⟨isUser ▸ isCreator, Or.inr (Or.inr (Or.inr paused))⟩
      have eligible := creatorEligible_iff keyed stands about routed
      rw [notPrivileged]
      simp only [Bool.not_false, Bool.true_and, Bool.not_eq_true',
        ite_eq_right_iff, reduceCtorEq, imp_false, Bool.not_eq_false,
        Bool.false_eq_true, false_or]
      exact eligible

/-- An alert that parses, and whose recipients are resolved, is announced. -/
theorem isAnnounced_of_resolved
    {message : OutboxRow}
    {alertRow : AlertRow}
    {members : List Membership}
    {recipients : List JsString}
    (parses :
      (parseTrustedOperationalAlertInput alert.parts.input).isSome = true)
    (areMembers : store.members alert.parts.workspaceId = some members)
    (resolved :
      resolveOperationalAlertRecipients alert.parts.type
          (members.filter Membership.isActive) alert.parts.creatorUserId =
        .ok recipients)
    (listed : userId ∈ recipients)
    (identity :
      alertRow.identity =
        { workspaceId := alert.parts.workspaceId
          type := alert.parts.type
          sourceType := alert.parts.sourceType
          sourceId := alert.parts.sourceId })
    (isMessage :
      outboxMessage alert.parts.workspaceId alertRow.id userId =
        some message.toNotificationOutboxMessage) :
    IsAnnounced store alert userId message alertRow := by
  obtain ⟨input, isParsed⟩ := Option.isSome_iff_exists.mp parses
  obtain ⟨isIdentity, isCreator⟩ := AlertParts.parsed isParsed
  have sameWorkspace : input.workspaceId = alert.parts.workspaceId :=
    congrArg SourceIdentity.workspaceId isIdentity
  have sameType : input.type = alert.parts.type :=
    congrArg SourceIdentity.type isIdentity
  refine ⟨input, recipients, isParsed, ?_, listed, identity.trans isIdentity.symm,
    ?_⟩
  · unfold currentRecipients
    rw [sameWorkspace, sameType, isCreator]
    exact bind_eq_ok.mpr ⟨members, orThrow_eq_ok.mpr areMembers, resolved⟩
  · rw [sameWorkspace]
    exact isMessage

theorem epoch_inRange : -maxTime ≤ 0 ∧ 0 ≤ maxTime := by decide

def epoch : TimeValue where
  milliseconds := 0
  inRange := epoch_inRange

def exampleSchedule : OwnedRow where
  id := js "22222222-2222-4222-8222-222222222222"
  workspaceId := js "11111111-1111-4111-8111-111111111111"
  createdByUserId := js "33333333-3333-4333-8333-333333333333"

/-- The creator of the schedule is a member like any other. -/
def exampleMember : Membership where
  userId := exampleSchedule.createdByUserId
  role := .member
  isActive := true

def exampleMembers : JsString → Option (List Membership) :=
  fun _ => some [exampleMember]

def exampleStore : AlertStore where
  members := exampleMembers
  alerts := []
  outbox := []
  audit := .empty

def memberDirectory : Directory where
  members _ := [exampleMember]
  runs := []
  schedules := [exampleSchedule]

theorem memberDirectory_keyed : memberDirectory.Keyed where
  members _ := List.nodup_singleton _
  runs := List.nodup_nil
  schedules := List.nodup_singleton _

theorem exampleMember_same (workspaceId : JsString) :
    SameMembership exampleStore memberDirectory workspaceId
      exampleMember.userId := by
  intro members areMembers
  obtain rfl := Option.some.inj areMembers
  rfl

/-- The row of an alert that was appended. -/
def appendedRow (alert : DomainAlert) : AlertRow where
  id := js "44444444-4444-4444-8444-444444444444"
  identity :=
    { workspaceId := alert.parts.workspaceId
      type := alert.parts.type
      sourceType := alert.parts.sourceType
      sourceId := alert.parts.sourceId }
  severity := deriveOperationalAlertSeverity alert.parts.type
  status := deriveInitialOperationalAlertStatus alert.parts.type
  contractDigest := []
  createdAt := epoch
  resolvedAt := none
  resolutionReason := none
  resolvedByUserId := none
  templateParameters := JsValue.get alert.parts.fields (js "template")
  actionTarget := JsValue.get alert.parts.fields (js "actionTarget")

/-- The message for the member. -/
def memberMessage : OutboxRow where
  workspaceId := exampleSchedule.workspaceId
  alertId := js "44444444-4444-4444-8444-444444444444"
  recipientUserId := exampleMember.userId
  deduplicationKey :=
    js "outbox-v1|" ++ segment (js "44444444-4444-4444-8444-444444444444") ++
      js "|" ++ segment exampleMember.userId ++ js "|6:in_app"
  id := js "message"
  availableAt := 0

theorem memberMessage_created :
    outboxMessage exampleSchedule.workspaceId
        (js "44444444-4444-4444-8444-444444444444") exampleMember.userId =
      some memberMessage.toNotificationOutboxMessage := by
  have areUuids :
      isUuid (js "44444444-4444-4444-8444-444444444444") = true ∧
        isUuid exampleMember.userId = true := by
    decide +kernel
  unfold outboxMessage createNotificationOutboxDeduplicationKey
  rw [if_pos areUuids]
  rfl

theorem exampleMember_resolved :
    resolveOperationalAlertRecipients .scheduleAutoPaused
        (([exampleMember] : List Membership).filter Membership.isActive)
        (some exampleMember.userId) =
      .ok [exampleMember.userId] := by
  have isMemberUuid : isUuid exampleMember.userId = true := by
    decide +kernel
  unfold resolveOperationalAlertRecipients
  refine bind_eq_ok.mpr ⟨(), refuseIf_of_not ?_, rfl⟩
  rw [not_not]
  exact List.all_eq_true.mpr fun member listed => by
    rw [List.mem_singleton.mp listed]
    exact isMemberUuid

/-- A schedule that is paused when a run of it has completed. -/
def pausedByCompletion : DomainAlert :=
  .scheduleAutoPaused exampleSchedule
    (some (js "55555555-5555-4555-8555-555555555555")) "ambiguous_outcome"
    (js "2026-01-01T00:00:00.000Z")

/-- A schedule that is paused because an occurrence was blocked. -/
def pausedByBlock : DomainAlert :=
  .blockedOccurrence exampleSchedule
    (js "55555555-5555-4555-8555-555555555555") "secret_readiness_failed"
    (js "2026-01-01T00:00:00.000Z")

theorem pausedByCompletion_announced :
    IsAnnounced exampleStore pausedByCompletion exampleMember.userId
      memberMessage (appendedRow pausedByCompletion) := by
  have parses :
      (parseTrustedOperationalAlertInput
        pausedByCompletion.parts.input).isSome = true := by
    decide +kernel
  exact isAnnounced_of_resolved parses rfl exampleMember_resolved
    List.mem_cons_self rfl memberMessage_created

theorem pausedByBlock_announced :
    IsAnnounced exampleStore pausedByBlock exampleMember.userId
      memberMessage (appendedRow pausedByBlock) := by
  have parses :
      (parseTrustedOperationalAlertInput
        pausedByBlock.parts.input).isSome = true := by
    decide +kernel
  exact isAnnounced_of_resolved parses rfl exampleMember_resolved
    List.mem_cons_self rfl memberMessage_created

/-- After a completion the member is accepted. -/
theorem pausedByCompletion_accepted :
    recipientRefusal memberDirectory memberMessage
        (appendedRow pausedByCompletion) =
      none :=
  (recipient_accepted_iff exampleStore pausedByCompletion exampleMember.userId
    memberMessage (appendedRow pausedByCompletion) memberDirectory
    pausedByCompletion_announced memberDirectory_keyed
    (exampleMember_same _) List.mem_cons_self).mpr (Or.inr id)

/-- After a blocked occurrence the member, to whom the message was addressed,
is refused as no longer eligible. -/
theorem pausedByBlock_refused :
    IsAnnounced exampleStore pausedByBlock exampleMember.userId
        memberMessage (appendedRow pausedByBlock) ∧
      SameMembership exampleStore memberDirectory
        exampleSchedule.workspaceId exampleMember.userId ∧
      pausedByBlock.Stands memberDirectory ∧
      refusal memberDirectory memberMessage (appendedRow pausedByBlock) =
        some .recipientNoLongerEligible := by
  refine ⟨pausedByBlock_announced, exampleMember_same _, List.mem_cons_self, ?_⟩
  decide +kernel

end TaskTwin.Notification
