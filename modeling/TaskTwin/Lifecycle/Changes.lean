import TaskTwin.Lifecycle.Operations

/-!
# What an operation commits

An operation that answers has changed versions, each in one of six ways and
each told by one event; or it has created a version; or it has changed
nothing and repeats an earlier answer.
-/

namespace TaskTwin.Lifecycle

open Text Schema Store Audit TaskTwin.Workflow

variable {deps : Dependencies}

/-- The workspace of a workflow. -/
def Database.workspaceOf (db : Database) (workflowId : JsString) :
    Option JsString :=
  (db.findWorkflow workflowId).map Workflow.workspaceId

variable {db : Database} {actorUserId workflowVersionId : JsString}

theorem accessibleVersion_eq_some
    {detail : WorkflowVersionDetailRecord} :
    db.accessibleVersion actorUserId workflowVersionId = some detail ↔
      db.findVersion workflowVersionId = some detail.row ∧
        db.workspaceOf detail.row.workflowId = some detail.workspaceId ∧
        db.settings.role detail.workspaceId actorUserId = some detail.role := by
  simp only [Database.accessibleVersion, Database.workspaceOf,
    Option.bind_eq_bind, Option.bind_eq_some_iff, Option.map_eq_some_iff]
  constructor
  · rintro ⟨row, isRow, workflow, isWorkflow, role, isRole, isDetail⟩
    obtain rfl := Option.some.inj isDetail
    exact ⟨isRow, ⟨workflow, isWorkflow, rfl⟩, isRole⟩
  · rintro ⟨isRow, ⟨workflow, isWorkflow, isWorkspace⟩, isRole⟩
    exact ⟨detail.row, isRow, workflow, isWorkflow, detail.role,
      by rw [isWorkspace]; exact isRole, by rw [isWorkspace]⟩

theorem getAccessibleVersion_eq_ok
    {detail : WorkflowVersionDetailRecord} :
    getAccessibleVersion db actorUserId workflowVersionId = .ok detail ↔
      (isUuidPattern actorUserId = true ∧
          isUuidPattern workflowVersionId = true) ∧
        db.accessibleVersion actorUserId workflowVersionId = some detail := by
  simp [getAccessibleVersion, bind_eq_ok, not_or]

/-- A change of versions that keeps what they are found by. -/
structure KeepsKeys (change : WorkflowVersion → WorkflowVersion) : Prop where
  id : ∀ version, (change version).id = version.id
  workflowId : ∀ version, (change version).workflowId = version.workflowId
  version : ∀ version, (change version).version = version.version
  clientCreationId :
    ∀ version, (change version).clientCreationId = version.clientCreationId
  createdFromVersionId :
    ∀ version,
      (change version).createdFromVersionId = version.createdFromVersionId

theorem KeepsKeys.ite
    {change : WorkflowVersion → WorkflowVersion}
    (keeps : KeepsKeys change)
    (applies : WorkflowVersion → Bool) :
    KeepsKeys fun version =>
      if applies version then change version else version := by
  constructor
  all_goals
    intro version
    split
  case id.isTrue => exact keeps.id version
  case workflowId.isTrue => exact keeps.workflowId version
  case version.isTrue => exact keeps.version version
  case clientCreationId.isTrue => exact keeps.clientCreationId version
  case createdFromVersionId.isTrue => exact keeps.createdFromVersionId version
  all_goals rfl

theorem KeepsKeys.comp
    {first second : WorkflowVersion → WorkflowVersion}
    (keepsFirst : KeepsKeys first)
    (keepsSecond : KeepsKeys second) :
    KeepsKeys fun version => second (first version) where
  id version := (keepsSecond.id _).trans (keepsFirst.id version)
  workflowId version :=
    (keepsSecond.workflowId _).trans (keepsFirst.workflowId version)
  version version := (keepsSecond.version _).trans (keepsFirst.version version)
  clientCreationId version :=
    (keepsSecond.clientCreationId _).trans
      (keepsFirst.clientCreationId version)
  createdFromVersionId version :=
    (keepsSecond.createdFromVersionId _).trans
      (keepsFirst.createdFromVersionId version)

theorem keepsKeys_moved (status : WorkflowLifecycleStatus) :
    KeepsKeys (moved status) :=
  ⟨fun _ => rfl, fun _ => rfl, fun _ => rfl, fun _ => rfl, fun _ => rfl⟩

theorem keepsKeys_edited (definition : WorkflowDefinition) :
    KeepsKeys (edited definition) :=
  ⟨fun _ => rfl, fun _ => rfl, fun _ => rfl, fun _ => rfl, fun _ => rfl⟩

theorem keepsKeys_archived (actorUserId : JsString) (occurredAt : TimeValue) :
    KeepsKeys (archived actorUserId occurredAt) :=
  ⟨fun _ => rfl, fun _ => rfl, fun _ => rfl, fun _ => rfl, fun _ => rfl⟩

theorem keepsKeys_published
    (actorUserId : JsString)
    (occurredAt : TimeValue)
    (definition : WorkflowDefinition) :
    KeepsKeys (published actorUserId occurredAt definition) :=
  ⟨fun _ => rfl, fun _ => rfl, fun _ => rfl, fun _ => rfl, fun _ => rfl⟩

/-- What a change leaves as it was, apart from the trail. -/
structure SameFrame (db db' : Database) : Prop where
  settings : db'.settings = db.settings
  workspaceOf : db'.workspaceOf = db.workspaceOf

theorem findVersion_map
    {db db' : Database}
    {change : WorkflowVersion → WorkflowVersion}
    (keeps : KeepsKeys change)
    (versions : db'.versions = db.versions.map change)
    (id : JsString) :
    db'.findVersion id = (db.findVersion id).map change := by
  rw [Database.findVersion, Database.findVersion, versions, findUnique,
    findUnique, List.find?_map]
  congr 2
  funext version
  simp [keeps.id]

/-- A reader reads a changed version in place of the version before. -/
theorem accessibleVersion_changed
    {db db' : Database}
    {change : WorkflowVersion → WorkflowVersion}
    (keeps : KeepsKeys change)
    (versions : db'.versions = db.versions.map change)
    (frame : SameFrame db db')
    {actorUserId workflowVersionId : JsString}
    {detail detail' : WorkflowVersionDetailRecord}
    (isDetail :
      db.accessibleVersion actorUserId workflowVersionId = some detail)
    (isDetail' :
      db'.accessibleVersion actorUserId workflowVersionId = some detail') :
    detail'.row = change detail.row ∧
      detail'.workspaceId = detail.workspaceId := by
  obtain ⟨isRow, isWorkspace, -⟩ := accessibleVersion_eq_some.mp isDetail
  obtain ⟨isRow', isWorkspace', -⟩ := accessibleVersion_eq_some.mp isDetail'
  rw [findVersion_map keeps versions, isRow, Option.map_some] at isRow'
  have sameRow : change detail.row = detail'.row := Option.some.inj isRow'
  rw [frame.workspaceOf, ← sameRow, keeps.workflowId, isWorkspace]
    at isWorkspace'
  exact ⟨sameRow.symm, (Option.some.inj isWorkspace').symm⟩

theorem workspaceOf_renameWorkflow
    (db : Database)
    (workflowId : JsString)
    (definition : WorkflowDefinition) :
    (renameWorkflow db workflowId definition).workspaceOf = db.workspaceOf := by
  funext wanted
  simp only [Database.workspaceOf, Database.findWorkflow, findUnique,
    renameWorkflow, updateMany]
  rw [List.find?_map, Option.map_map]
  have sameKey :
      ((fun row : Workflow => decide (row.id = wanted)) ∘
          fun row : Workflow =>
            if decide (row.id = workflowId) = true then
              { row with
                name := definition.name
                description := definition.description }
            else row) =
        fun row => decide (row.id = wanted) := by
    funext row
    dsimp only [Function.comp_apply]
    split <;> rfl
  rw [sameKey]
  congr 1
  funext row
  dsimp only [Function.comp_apply]
  split <;> rfl

/-- The ways a call changes a version, and the event that tells it. -/
inductive VersionChange
    (deps : Dependencies)
    (db : Database) :
    Call → WorkflowVersion → WorkflowVersion → AuditEventInput → Prop where
  | edited
      {input : UpdateDraft}
      {version : WorkflowVersion}
      {definition : WorkflowDefinition}
      {workspaceId : JsString}
      (isVersion : version.id = input.workflowVersionId)
      (inWorkspace : db.workspaceOf version.workflowId = some workspaceId)
      (isDraft : version.status = .draft)
      (named : (version.revision : Rat) = input.expectedRevision)
      (parsed : deps.parseDefinition input.definitionInput = some definition)
      (sameVersion : definition.version = version.version) :
      VersionChange deps db (.updateDraft input) version
        (edited definition version)
        (buildWorkflowDraftUpdatedInput deps.hasher workspaceId
          input.actorUserId (edited definition version) input.now)
  | submitted
      {input : Transition}
      {version : WorkflowVersion}
      {workspaceId : JsString}
      (isVersion : version.id = input.workflowVersionId)
      (inWorkspace : db.workspaceOf version.workflowId = some workspaceId)
      (isDraft : version.status = .draft) :
      VersionChange deps db (.submitForTesting input) version
        (moved .testing version)
        (buildWorkflowVersionTransitionInput deps.hasher .submittedForTesting
          workspaceId input.actorUserId (moved .testing version)
          input.now)
  | returned
      {input : Transition}
      {version : WorkflowVersion}
      {workspaceId : JsString}
      (isVersion : version.id = input.workflowVersionId)
      (inWorkspace : db.workspaceOf version.workflowId = some workspaceId)
      (inTesting : version.status = .testing) :
      VersionChange deps db (.returnToDraft input) version
        (moved .draft version)
        (buildWorkflowVersionTransitionInput deps.hasher .returnedToDraft
          workspaceId input.actorUserId (moved .draft version)
          input.now)
  | published
      {input : Publish}
      {version : WorkflowVersion}
      {workspaceId : JsString}
      {occurredAt : TimeValue}
      {policy : Policy.WorkspaceExecutionPolicyDefinition}
      {replacedVersionId : Option JsString}
      (isVersion : version.id = input.workflowVersionId)
      (inWorkspace : db.workspaceOf version.workflowId = some workspaceId)
      (inTesting : version.status = .testing)
      (isActive : db.settings.activePolicy workspaceId = some policy)
      (ready :
        (analyzePublishReadiness deps version.definition policy).ready =
          true) :
      VersionChange deps db (.publish input) version
        (published input.actorUserId occurredAt
          (withStatus version.definition .published) version)
        (buildWorkflowVersionPublishedInput deps.hasher workspaceId
          input.actorUserId
          (published input.actorUserId occurredAt
            (withStatus version.definition .published) version)
          (deps.createCanonicalJsonDigest
            (withStatus version.definition .published))
          replacedVersionId occurredAt)
  | replaced
      {input : Publish}
      {version : WorkflowVersion}
      {workspaceId : JsString}
      {occurredAt : TimeValue}
      (isOther : version.id ≠ input.workflowVersionId)
      (inWorkspace : db.workspaceOf version.workflowId = some workspaceId)
      (isPublished : version.status = .published) :
      VersionChange deps db (.publish input) version
        (archived input.actorUserId occurredAt version)
        (buildWorkflowVersionArchivedInput deps.hasher workspaceId
          input.actorUserId .replacedByPublish occurredAt version)
  | archived
      {input : Archive}
      {version : WorkflowVersion}
      {workspaceId : JsString}
      {occurredAt : TimeValue}
      (isVersion : version.id = input.workflowVersionId)
      (inWorkspace : db.workspaceOf version.workflowId = some workspaceId)
      (isPublished : version.status = .published) :
      VersionChange deps db (.archive input) version
        (archived input.actorUserId occurredAt version)
        (buildWorkflowVersionArchivedInput deps.hasher workspaceId
          input.actorUserId .manual occurredAt
          (archived input.actorUserId occurredAt version))

/-- The changed versions of a call, each told by one event. -/
structure Changed
    (deps : Dependencies)
    (db : Database)
    (call : Call)
    (change : WorkflowVersion → WorkflowVersion)
    (changed : List WorkflowVersion)
    (told : WorkflowVersion → AuditEventInput) :
    Prop where
  keeps : KeepsKeys change
  listed : ∀ version ∈ changed, version ∈ db.versions
  distinct : (changed.map WorkflowVersion.id).Nodup
  isChange :
    ∀ version ∈ changed,
      VersionChange deps db call version (change version) (told version)
  others : ∀ version ∈ db.versions, version ∉ changed → change version = version
  /-- A version that becomes published is then the only one. -/
  replaces :
    ∀ version ∈ db.versions,
      version.status ≠ .published →
      (change version).status = .published →
      ∀ other ∈ db.versions,
        other.workflowId = version.workflowId →
        (change other).status = .published →
        other = version

/-- A version that `createDraftVersion` has stored. -/
structure CreatedFrom
    (deps : Dependencies)
    (db : Database)
    (input : CreateDraftVersion)
    (created : WorkflowVersion)
    (told : AuditEventInput) :
    Prop where
  isNew : db.findCreated input.workflowId input.clientCreationId = none
  idFree : ((db.versions ++ [created]).map WorkflowVersion.id).Nodup
  isRow :
    ∃ definition createdAt, created = input.row definition createdAt
  isNext : created.version = highestVersion db input.workflowId + 1
  isTold :
    ∃ workspaceId createdAt,
      db.workspaceOf input.workflowId = some workspaceId ∧
        told =
          buildWorkflowVersionCreatedInput deps.hasher workspaceId
            input.actorUserId created input.sourceVersionId
            input.clientCreationId createdAt

/-- The event that tells what a call did to its version. -/
def Call.eventType : Call → AuditEventType
  | .updateDraft _ => .workflowDraftUpdated
  | .submitForTesting _ => .workflowVersionSubmittedForTesting
  | .returnToDraft _ => .workflowVersionReturnedToDraft
  | .publish _ => .workflowVersionPublished
  | .archive _ => .workflowVersionArchived
  | .createDraftVersion _ => .workflowVersionCreated

/-- What a call that answers has done. -/
inductive Commits
    (deps : Dependencies)
    (db : Database) :
    Call → Database → Answer → Prop where
  | changed
      {call : Call}
      {db' : Database}
      {answer : Answer}
      {change : WorkflowVersion → WorkflowVersion}
      {changed : List WorkflowVersion}
      {told : WorkflowVersion → AuditEventInput}
      {version : WorkflowVersion}
      (isChanged : Changed deps db call change changed told)
      (frame : SameFrame db db')
      (versions : db'.versions = db.versions.map change)
      (appended :
        appendAuditEvents deps db.audit (changed.map told) = .ok db'.audit)
      (about : version ∈ changed)
      (toldType : (told version).eventType = call.eventType)
      (answered : answer.workflowVersion.row = change version)
      (first : answer.idempotent = false) :
      Commits deps db call db' answer
  | created
      {input : CreateDraftVersion}
      {db' : Database}
      {answer : Answer}
      {created : WorkflowVersion}
      {told : AuditEventInput}
      (isCreated : CreatedFrom deps db input created told)
      (frame : SameFrame db db')
      (versions : db'.versions = db.versions ++ [created])
      (appended : appendAuditEvents deps db.audit [told] = .ok db'.audit)
      (answered : answer.workflowVersion.row = created)
      (first : answer.idempotent = false) :
      Commits deps db (.createDraftVersion input) db' answer
  | publishedBefore
      {input : Publish}
      {answer : Answer}
      (again : answer.idempotent = true) :
      Commits deps db (.publish input) db answer
  | createdBefore
      {input : CreateDraftVersion}
      {answer : Answer}
      {existing : WorkflowVersion}
      (found :
        db.findCreated input.workflowId input.clientCreationId =
          some existing)
      (sameSource :
        existing.createdFromVersionId = some input.sourceVersionId)
      (answered : answer.workflowVersion.row.id = existing.id)
      (again : answer.idempotent = true) :
      Commits deps db (.createDraftVersion input) db answer

/-- The version that a reader finds is the one that its identifier is of. -/
theorem mem_of_accessibleVersion
    {detail : WorkflowVersionDetailRecord}
    (isDetail :
      db.accessibleVersion actorUserId workflowVersionId = some detail) :
    detail.row ∈ db.versions ∧ detail.row.id = workflowVersionId :=
  mem_of_findUnique (accessibleVersion_eq_some.mp isDetail).1

/-- A change of one version, which is told by one event. -/
theorem Changed.ofOne
    {call : Call}
    {applies : WorkflowVersion → Bool}
    {change : WorkflowVersion → WorkflowVersion}
    {current : WorkflowVersion}
    {told : AuditEventInput}
    (distinct : (db.versions.map WorkflowVersion.id).Nodup)
    (keeps : KeepsKeys change)
    (listed : current ∈ db.versions)
    (isApplied : applies current = true)
    (byId : ∀ version, applies version = true → version.id = current.id)
    (isChange : VersionChange deps db call current (change current) told)
    (notPublished :
      (change current).status = .published → current.status = .published) :
    Changed deps db call
      (fun version => if applies version then change version else version)
      [current] fun _ => told := by
  have others :
      ∀ version ∈ db.versions, version ≠ current → applies version = false := by
    intro version isListed isOther
    by_contra isApplied
    exact isOther (eq_of_key distinct isListed listed
      (byId version (by simpa using isApplied)))
  constructor
  case keeps => exact keeps.ite applies
  case listed => simpa using listed
  case distinct => exact List.nodup_singleton _
  case isChange =>
    intro version isCurrent
    obtain rfl := List.mem_singleton.mp isCurrent
    rwa [if_pos isApplied]
  case others =>
    intro version isListed notCurrent
    rw [others version isListed (by simpa using notCurrent)]
    exact if_neg Bool.false_ne_true
  case replaces =>
    intro version isListed before after
    split at after
    case isTrue applied =>
      obtain rfl : version = current := by
        by_contra isOther
        rw [others version isListed isOther] at applied
        cases applied
      exact absurd (notPublished after) before
    case isFalse notApplied => exact absurd after before

/-- A call that changes one version, reads it and tells it by one event. -/
theorem commits_one
    {db db' written : Database}
    {call : Call}
    {answer : Answer}
    {actorUserId workflowVersionId : JsString}
    {current final : WorkflowVersionDetailRecord}
    {applies : WorkflowVersion → Bool}
    {change : WorkflowVersion → WorkflowVersion}
    {told : JsString → WorkflowVersion → AuditEventInput}
    {audit : AuditStore}
    (distinct : (db.versions.map WorkflowVersion.id).Nodup)
    (keeps : KeepsKeys change)
    (isCurrent :
      db.accessibleVersion actorUserId workflowVersionId = some current)
    (isFinal :
      written.accessibleVersion actorUserId workflowVersionId = some final)
    (frame : SameFrame db written)
    (versions : written.versions = updateMany applies change db.versions)
    (isApplied : applies current.row = true)
    (byId :
      ∀ version, applies version = true → version.id = workflowVersionId)
    (isChange :
      VersionChange deps db call current.row (change current.row)
        (told current.workspaceId (change current.row)))
    (notPublished :
      (change current.row).status = .published →
      current.row.status = .published)
    (toldType :
      ∀ workspaceId version,
        (told workspaceId version).eventType = call.eventType)
    (appended :
      appendAuditEvents deps db.audit [told final.workspaceId final.row] =
        .ok audit)
    (isDb' : { written with audit } = db')
    (answered : answer.workflowVersion = final)
    (first : answer.idempotent = false) :
    Commits deps db call db' answer := by
  obtain ⟨isListed, isId⟩ := mem_of_accessibleVersion isCurrent
  obtain ⟨isRow, isWorkspace⟩ :=
    accessibleVersion_changed (keeps.ite applies) versions frame isCurrent
      isFinal
  rw [if_pos isApplied] at isRow
  have isChanged :=
    Changed.ofOne distinct keeps isListed isApplied
      (fun version applied => (byId version applied).trans isId.symm)
      isChange notPublished
  refine
    .changed isChanged ?_ ?_ ?_ (List.mem_singleton_self _) (toldType _ _) ?_
      first
  case refine_1 =>
    rw [← isDb']
    exact ⟨frame.settings, frame.workspaceOf⟩
  case refine_2 =>
    rw [← isDb']
    exact versions
  case refine_3 =>
    rw [← isDb', List.map_singleton]
    rwa [isRow, isWorkspace] at appended
  case refine_4 =>
    rw [answered, if_pos isApplied]
    exact isRow

theorem requireRevision_eq_ok
    {current : Nat}
    {expected : Rat} :
    requireRevision current expected = .ok () ↔
      (expected.den = 1 ∧ 1 ≤ expected) ∧ (current : Rat) = expected := by
  simp [requireRevision, bind_eq_ok]

theorem requireReadiness_eq_ok
    {workspaceId : JsString}
    {definition : WorkflowDefinition}
    {readiness : PublishReadinessReport} :
    requireReadiness deps db workspaceId definition = .ok readiness ↔
      ∃ policy,
        db.settings.activePolicy workspaceId = some policy ∧
          analyzePublishReadiness deps definition policy = readiness ∧
          readiness.ready = true := by
  simp only [requireReadiness, analyzeReadiness, bind_eq_ok, orThrow_eq_ok,
    refuseIf_eq_ok, Except.ok.injEq]
  constructor
  · rintro ⟨report, ⟨policy, isActive, rfl⟩, _, ready, rfl⟩
    exact ⟨policy, isActive, rfl, by simpa using ready⟩
  · rintro ⟨policy, isActive, rfl, ready⟩
    exact ⟨_, ⟨policy, isActive, rfl⟩, (), by simpa using ready, rfl⟩

theorem isExpected_id
    {id : JsString}
    {status : WorkflowLifecycleStatus}
    {revision : Rat}
    {version : WorkflowVersion}
    (expected : isExpected id status revision version = true) :
    version.id = id :=
  (of_decide_eq_true expected).1

variable
  {db db' : Database}
  {answer : Answer}
  {input : Transition}
  {status : WorkflowLifecycleStatus}

theorem moveBetween_commits
    {call : Call}
    {transition : TestingTransition}
    {before after : WorkflowLifecycleStatus}
    {readiness : Option PublishReadinessReport}
    {conflict : Failure}
    {input : Transition}
    {current : WorkflowVersionDetailRecord}
    (distinct : (db.versions.map WorkflowVersion.id).Nodup)
    (isCurrent :
      db.accessibleVersion input.actorUserId input.workflowVersionId =
        some current)
    (isBefore : current.row.status = before)
    (named : (current.row.revision : Rat) = input.expectedRevision)
    (isChange :
      VersionChange deps db call current.row (moved after current.row)
        (buildWorkflowVersionTransitionInput deps.hasher transition
          current.workspaceId input.actorUserId (moved after current.row)
          input.now))
    (notPublished : after ≠ .published)
    (toldType : transition.eventType = call.eventType)
    (ran :
      moveBetween deps transition before after readiness conflict input db =
        .ok (db', answer)) :
    Commits deps db call db' answer := by
  simp only [moveBetween, bind_eq_ok, refuseIf_eq_ok,
    getAccessibleVersion_eq_ok] at ran
  obtain ⟨_, -, finalVersion, ⟨-, isFinal⟩, audit, appended, returned⟩ := ran
  obtain ⟨isListed, isId⟩ := mem_of_accessibleVersion isCurrent
  have isDb' := (Prod.mk.inj (Except.ok.inj returned)).1
  have isAnswer := (Prod.mk.inj (Except.ok.inj returned)).2
  exact
    @commits_one deps _ _ _ _ _ _ _ _ _ _ _
      (fun workspaceId version =>
        buildWorkflowVersionTransitionInput deps.hasher transition workspaceId
          input.actorUserId version input.now)
      audit distinct (keepsKeys_moved after) isCurrent
      isFinal ⟨rfl, rfl⟩ rfl (decide_eq_true ⟨isId, isBefore, named⟩)
      (fun _ applied => isExpected_id applied)
      isChange (fun isPublished => absurd isPublished notPublished)
      (fun _ _ => toldType) appended isDb' (by rw [← isAnswer]) (by rw [← isAnswer])

theorem canTransition_testing
    (allowed : canTransitionWorkflowLifecycle status .testing = true) :
    status = .draft := by
  cases status <;> first | rfl | cases allowed

theorem canTransition_draft
    (allowed : canTransitionWorkflowLifecycle status .draft = true) :
    status = .testing := by
  cases status <;> first | rfl | cases allowed

theorem canTransition_published
    (allowed : canTransitionWorkflowLifecycle status .published = true) :
    status = .testing := by
  cases status <;> first | rfl | cases allowed

theorem canTransition_archived
    (allowed : canTransitionWorkflowLifecycle status .archived = true) :
    status = .published := by
  cases status <;> first | rfl | cases allowed

theorem requireTransition_eq_ok
    {current next : WorkflowLifecycleStatus} :
    requireTransition current next = .ok () ↔
      canTransitionWorkflowLifecycle current next = true := by
  simp [requireTransition]

theorem submitForTesting_commits
    (distinct : (db.versions.map WorkflowVersion.id).Nodup)
    (ran : submitForTesting deps input db = .ok (db', answer)) :
    Commits deps db (.submitForTesting input) db' answer := by
  simp only [submitForTesting, bind_eq_ok, getAccessibleVersion_eq_ok] at ran
  obtain ⟨current, ⟨-, isCurrent⟩, _, -, _, isRevision, _, isAllowed,
    readiness, -, moved⟩ := ran
  have isDraft := canTransition_testing (requireTransition_eq_ok.mp isAllowed)
  have isVersion := (mem_of_accessibleVersion isCurrent).2
  obtain ⟨-, inWorkspace, -⟩ := accessibleVersion_eq_some.mp isCurrent
  exact moveBetween_commits distinct isCurrent isDraft
    (requireRevision_eq_ok.mp isRevision).2
    (.submitted isVersion inWorkspace isDraft) (by decide) rfl moved

theorem returnToDraft_commits
    (distinct : (db.versions.map WorkflowVersion.id).Nodup)
    (ran : returnToDraft deps input db = .ok (db', answer)) :
    Commits deps db (.returnToDraft input) db' answer := by
  simp only [returnToDraft, bind_eq_ok, getAccessibleVersion_eq_ok] at ran
  obtain ⟨current, ⟨-, isCurrent⟩, _, -, _, isRevision, _, isAllowed,
    moved⟩ := ran
  have inTesting := canTransition_draft (requireTransition_eq_ok.mp isAllowed)
  have isVersion := (mem_of_accessibleVersion isCurrent).2
  obtain ⟨-, inWorkspace, -⟩ := accessibleVersion_eq_some.mp isCurrent
  exact moveBetween_commits distinct isCurrent inTesting
    (requireRevision_eq_ok.mp isRevision).2
    (.returned isVersion inWorkspace inTesting) (by decide) rfl moved

variable
  {db db' : Database}
  {input : Publish}
  {answer : Answer}
  {current : WorkflowVersion}

theorem assertImmutableFields_eq_ok
    {definition : WorkflowDefinition} :
    assertImmutableFields current definition = .ok () ↔
      (js definition.workflowId.text = current.workflowId ∧
        definition.version = current.version) ∧
        workflowSchemaVersion = current.schemaVersion ∧
          definition.status = .draft := by
  simp [assertImmutableFields, bind_eq_ok, and_assoc]

theorem updateDraft_commits
    {input : UpdateDraft}
    (distinct : (db.versions.map WorkflowVersion.id).Nodup)
    (ran : updateDraft deps input db = .ok (db', answer)) :
    Commits deps db (.updateDraft input) db' answer := by
  simp only [updateDraft, bind_eq_ok, orThrow_eq_ok, refuseIf_eq_ok] at ran
  obtain ⟨definition, parsed, _, -, current, isCurrent, _, -, _, isDraft, _,
    -, _, -, _, immutable, _, named, _, -, detail, isDetail, audit, appended,
    returned⟩ := ran
  have isDraft := not_not.mp isDraft
  have named := not_not.mp named
  obtain ⟨isListed, isId⟩ := mem_of_accessibleVersion isCurrent
  obtain ⟨-, inWorkspace, -⟩ := accessibleVersion_eq_some.mp isCurrent
  have isDb' := (Prod.mk.inj (Except.ok.inj returned)).1
  have isAnswer := (Prod.mk.inj (Except.ok.inj returned)).2
  have sameVersion := (assertImmutableFields_eq_ok.mp immutable).1.2
  exact
    @commits_one deps _ _ _ _ _ _ _ _ _ _ _
      (fun workspaceId version =>
        buildWorkflowDraftUpdatedInput deps.hasher workspaceId
          input.actorUserId version input.now)
      audit distinct (keepsKeys_edited definition) isCurrent
      isDetail ⟨rfl, workspaceOf_renameWorkflow _ _ _⟩ rfl
      (decide_eq_true ⟨isId, isDraft, named⟩)
      (fun _ applied => isExpected_id applied)
      (.edited isId inWorkspace isDraft named parsed sameVersion) id
      (fun _ _ => rfl) appended isDb'
      (by rw [← isAnswer]) (by rw [← isAnswer])

theorem archive_commits
    {input : Archive}
    (distinct : (db.versions.map WorkflowVersion.id).Nodup)
    (ran : archive deps input db = .ok (db', answer)) :
    Commits deps db (.archive input) db' answer := by
  simp only [archive, bind_eq_ok, getAccessibleVersion_eq_ok,
    refuseIf_eq_ok] at ran
  obtain ⟨occurredAt, -, current, -, _, -, _, -, locked, ⟨-, isLocked⟩, _,
    isAllowed, _, -, finalVersion, ⟨-, isFinal⟩, audit, appended, returned⟩ :=
    ran
  have isPublished :=
    canTransition_archived (requireTransition_eq_ok.mp isAllowed)
  obtain ⟨isListed, isId⟩ := mem_of_accessibleVersion isLocked
  obtain ⟨-, inWorkspace, -⟩ := accessibleVersion_eq_some.mp isLocked
  have isDb' := (Prod.mk.inj (Except.ok.inj returned)).1
  have isAnswer := (Prod.mk.inj (Except.ok.inj returned)).2
  exact
    @commits_one deps _ _ _ _ _ _ _ _ _ _ _
      (fun workspaceId version =>
        buildWorkflowVersionArchivedInput deps.hasher workspaceId
          input.actorUserId .manual occurredAt version)
      audit distinct (keepsKeys_archived input.actorUserId occurredAt) isLocked
      isFinal ⟨rfl, rfl⟩ rfl (decide_eq_true ⟨isId, isPublished⟩)
      (fun _ applied => (of_decide_eq_true applied).1)
      (.archived isId inWorkspace isPublished) (fun _ => isPublished)
      (fun _ _ => rfl) appended isDb' (by rw [← isAnswer]) (by rw [← isAnswer])

/-- What a publication makes of every version. -/
def publication
    (input : Publish)
    (current : WorkflowVersion)
    (occurredAt : TimeValue)
    (version : WorkflowVersion) :
    WorkflowVersion :=
  let version :=
    if isReplacedBy input.workflowVersionId current.workflowId version then
      archived input.actorUserId occurredAt version
    else version
  if isExpected input.workflowVersionId .testing input.expectedRevision
      version then
    published input.actorUserId occurredAt
      (withStatus current.definition .published) version
  else version

theorem keepsKeys_publication
    (input : Publish)
    (current : WorkflowVersion)
    (occurredAt : TimeValue) :
    KeepsKeys (publication input current occurredAt) :=
  ((keepsKeys_archived _ _).ite _).comp ((keepsKeys_published _ _ _).ite _)

theorem publication_replaced
    {current version : WorkflowVersion}
    {occurredAt : TimeValue}
    (isReplaced :
      isReplacedBy input.workflowVersionId current.workflowId version = true) :
    publication input current occurredAt version =
      archived input.actorUserId occurredAt version := by
  have notTesting :
      isExpected input.workflowVersionId .testing input.expectedRevision
          (archived input.actorUserId occurredAt version) =
        false := by
    simp [isExpected, archived]
  simp only [publication, if_pos isReplaced, notTesting]
  rfl

theorem publication_current
    {occurredAt : TimeValue}
    (isVersion : current.id = input.workflowVersionId)
    (isCurrent :
      isExpected input.workflowVersionId .testing input.expectedRevision
          current =
        true) :
    publication input current occurredAt current =
      published input.actorUserId occurredAt
        (withStatus current.definition .published) current := by
  have notReplaced :
      isReplacedBy input.workflowVersionId current.workflowId current =
        false := by
    simp [isReplacedBy, isVersion]
  simp only [publication, notReplaced, Bool.false_eq_true, if_false,
    if_pos isCurrent]

theorem publication_other
    {current version : WorkflowVersion}
    {occurredAt : TimeValue}
    (isOther : version.id ≠ input.workflowVersionId)
    (notReplaced :
      isReplacedBy input.workflowVersionId current.workflowId version =
        false) :
    publication input current occurredAt version = version := by
  have notExpected :
      isExpected input.workflowVersionId .testing input.expectedRevision
          version =
        false := by
    simp [isExpected, isOther]
  simp only [publication, notReplaced, notExpected, Bool.false_eq_true,
    if_false]

/-- The event of a version that a publication changes. -/
def publicationEvent
    (deps : Dependencies)
    (input : Publish)
    (current : WorkflowVersionDetailRecord)
    (occurredAt : TimeValue)
    (replacedVersionId : Option JsString)
    (version : WorkflowVersion) :
    AuditEventInput :=
  if version.id = input.workflowVersionId then
    buildWorkflowVersionPublishedInput deps.hasher current.workspaceId
      input.actorUserId
      (published input.actorUserId occurredAt
        (withStatus current.row.definition .published) current.row)
      (deps.createCanonicalJsonDigest
        (withStatus current.row.definition .published))
      replacedVersionId occurredAt
  else
    buildWorkflowVersionArchivedInput deps.hasher current.workspaceId
      input.actorUserId .replacedByPublish occurredAt version

/-- The versions that a publication changes, and the events that tell them. -/
theorem publication_changed
    {db : Database}
    {input : Publish}
    {current : WorkflowVersion}
    {workspaceId : JsString}
    {occurredAt : TimeValue}
    {policy : Policy.WorkspaceExecutionPolicyDefinition}
    {replacedVersionId : Option JsString}
    {told : WorkflowVersion → AuditEventInput}
    (distinct : (db.versions.map WorkflowVersion.id).Nodup)
    (isListed : current ∈ db.versions)
    (isId : current.id = input.workflowVersionId)
    (inWorkspace : db.workspaceOf current.workflowId = some workspaceId)
    (inTesting : current.status = .testing)
    (named : (current.revision : Rat) = input.expectedRevision)
    (isActive : db.settings.activePolicy workspaceId = some policy)
    (ready :
      (analyzePublishReadiness deps current.definition policy).ready = true)
    (toldCurrent :
      told current =
        buildWorkflowVersionPublishedInput deps.hasher workspaceId
          input.actorUserId
          (published input.actorUserId occurredAt
            (withStatus current.definition .published) current)
          (deps.createCanonicalJsonDigest
            (withStatus current.definition .published))
          replacedVersionId occurredAt)
    (toldReplaced :
      ∀ version,
        version.id ≠ input.workflowVersionId →
        told version =
          buildWorkflowVersionArchivedInput deps.hasher workspaceId
            input.actorUserId .replacedByPublish occurredAt version) :
    Changed deps db (.publish input) (publication input current occurredAt)
      (db.versions.filter
          (isReplacedBy input.workflowVersionId current.workflowId) ++
        [current])
      told := by
  have isCurrent :
      isExpected input.workflowVersionId .testing input.expectedRevision
          current =
        true :=
    decide_eq_true ⟨isId, inTesting, named⟩
  have isOther :
      ∀ version ∈ db.versions, version ≠ current →
        version.id ≠ input.workflowVersionId := by
    intro version listed different same
    exact different (eq_of_key distinct listed isListed (same.trans isId.symm))
  constructor
  case keeps => exact keepsKeys_publication input current occurredAt
  case listed =>
    intro version changed
    rcases List.mem_append.mp changed with replaced | isSame
    · exact (List.mem_filter.mp replaced).1
    · rwa [List.mem_singleton.mp isSame]
  case distinct =>
    rw [List.map_append, List.map_singleton]
    refine List.nodup_append.mpr ⟨?_, List.nodup_singleton _, ?_⟩
    · exact distinct.sublist (List.filter_sublist.map _)
    · intro id replaced other isSame same
      obtain ⟨version, isReplaced, rfl⟩ := List.mem_map.mp replaced
      have replacedBy := of_decide_eq_true (List.mem_filter.mp isReplaced).2
      rw [List.mem_singleton.mp isSame, isId] at same
      exact replacedBy.2.2 same
  case isChange =>
    intro version changed
    rcases List.mem_append.mp changed with replaced | isSame
    · have isReplaced := (List.mem_filter.mp replaced).2
      have replacedBy := of_decide_eq_true isReplaced
      rw [publication_replaced isReplaced, toldReplaced _ replacedBy.2.2]
      exact .replaced replacedBy.2.2 (by rw [replacedBy.1]; exact inWorkspace)
        replacedBy.2.1
    · rw [List.mem_singleton.mp isSame, publication_current isId isCurrent,
        toldCurrent]
      exact .published isId inWorkspace inTesting isActive ready
  case others =>
    intro version listed notChanged
    rw [List.mem_append, List.mem_filter, List.mem_singleton, not_or]
      at notChanged
    refine publication_other (isOther version listed notChanged.2) ?_
    by_contra isReplaced
    exact notChanged.1 ⟨listed, by simpa using isReplaced⟩
  case replaces =>
    intro version listed before after other isListed' sameWorkflow isPublished
    by_cases isSame : version = current
    case neg =>
      have different := isOther version listed isSame
      cases isReplaced :
          isReplacedBy input.workflowVersionId current.workflowId version with
      | true =>
          rw [publication_replaced isReplaced] at after
          cases after
      | false =>
          rw [publication_other different isReplaced] at after
          exact absurd after before
    case pos =>
      subst isSame
      by_contra notSame
      have different := isOther other isListed' notSame
      cases isReplaced :
          isReplacedBy input.workflowVersionId version.workflowId other with
      | true =>
          rw [publication_replaced isReplaced] at isPublished
          cases isPublished
      | false =>
          rw [publication_other different isReplaced] at isPublished
          have replacedBy :
              isReplacedBy input.workflowVersionId version.workflowId other =
                true :=
            decide_eq_true ⟨sameWorkflow, isPublished, different⟩
          rw [isReplaced] at replacedBy
          cases replacedBy

theorem publish_commits
    {input : Publish}
    (distinct : (db.versions.map WorkflowVersion.id).Nodup)
    (ran : publish deps input db = .ok (db', answer)) :
    Commits deps db (.publish input) db' answer := by
  simp only [publish, bind_eq_ok, getAccessibleVersion_eq_ok] at ran
  obtain ⟨occurredAt, -, initial, -, _, -, _, -, current, ⟨-, isCurrent⟩, _,
    -, _, isRevision, ran⟩ := ran
  split at ran
  case isTrue isPublished =>
    obtain ⟨readiness, -, returned⟩ := bind_eq_ok.mp ran
    have isDb' := (Prod.mk.inj (Except.ok.inj returned)).1
    have isAnswer := (Prod.mk.inj (Except.ok.inj returned)).2
    rw [← isDb', ← isAnswer]
    exact .publishedBefore rfl
  case isFalse notPublished =>
    simp only [bind_eq_ok, getAccessibleVersion_eq_ok, refuseIf_eq_ok,
      requireReadiness_eq_ok] at ran
    obtain ⟨_, isAllowed, readiness, ⟨policy, isActive, isReport, ready⟩, _,
      -, finalVersion, ⟨-, isFinal⟩, audit, appended, returned⟩ := ran
    have inTesting :=
      canTransition_published (requireTransition_eq_ok.mp isAllowed)
    have named := (requireRevision_eq_ok.mp isRevision).2
    obtain ⟨isListed, isId⟩ := mem_of_accessibleVersion isCurrent
    obtain ⟨-, inWorkspace, -⟩ := accessibleVersion_eq_some.mp isCurrent
    have isDb' := (Prod.mk.inj (Except.ok.inj returned)).1
    have isAnswer := (Prod.mk.inj (Except.ok.inj returned)).2
    have isExpectedVersion :
        isExpected input.workflowVersionId .testing input.expectedRevision
            current.row =
          true :=
      decide_eq_true ⟨isId, inTesting, named⟩
    have versions : db'.versions =
        db.versions.map (publication input current.row occurredAt) := by
      rw [← isDb']
      simp only [updateVersion, updateMany, List.map_map]
      rfl
    have frame : SameFrame db db' := by
      rw [← isDb']
      exact ⟨rfl, rfl⟩
    have isFinal' :
        db'.accessibleVersion input.actorUserId input.workflowVersionId =
          some finalVersion := by
      rw [← isDb']
      exact isFinal
    obtain ⟨isRow, isWorkspace⟩ :=
      accessibleVersion_changed
        (keepsKeys_publication input current.row occurredAt) versions frame
        isCurrent isFinal'
    have isPublication :=
      @publication_current input current.row occurredAt isId isExpectedVersion
    rw [isRow, isWorkspace, isPublication] at appended
    have isChanged :=
      @publication_changed deps db input current.row current.workspaceId
        occurredAt policy _
        (publicationEvent deps input current occurredAt
          (replacedVersionId
            (db.versions.filter
              (isReplacedBy input.workflowVersionId current.row.workflowId))))
        distinct isListed isId inWorkspace inTesting named isActive
        (by rw [isReport]; exact ready) (if_pos isId)
        (fun version isOther => if_neg isOther)
    refine
      .changed isChanged frame versions ?_
        (List.mem_append_right _ (List.mem_singleton_self _)) ?_ ?_ ?_
    case refine_1 =>
      rw [List.map_append, List.map_singleton]
      have toldReplaced :
          ∀ version ∈ db.versions.filter
              (isReplacedBy input.workflowVersionId current.row.workflowId),
            publicationEvent deps input current occurredAt
                (replacedVersionId
                  (db.versions.filter
                    (isReplacedBy input.workflowVersionId
                      current.row.workflowId)))
                version =
              buildWorkflowVersionArchivedInput deps.hasher
                current.workspaceId input.actorUserId .replacedByPublish
                occurredAt version :=
        fun version isReplaced =>
          if_neg (of_decide_eq_true (List.mem_filter.mp isReplaced).2).2.2
      rw [← isDb', List.map_congr_left toldReplaced, publicationEvent,
        if_pos isId]
      exact appended
    case refine_2 =>
      rw [publicationEvent, if_pos isId]
      rfl
    case refine_3 =>
      rw [← isAnswer]
      exact isRow
    case refine_4 => rw [← isAnswer]

theorem createDraftVersionClone_version
    {source definition : WorkflowDefinition}
    {status : WorkflowLifecycleStatus}
    {nextVersion : Nat}
    {createdAt : TimeValue}
    (cloned :
      createDraftVersionClone source status nextVersion createdAt =
        .ok definition) :
    definition.version = nextVersion := by
  unfold createDraftVersionClone at cloned
  split at cloned
  case isTrue isInvalid => cases cloned
  case isFalse isValid =>
    split at cloned
    case isTrue notDate => cases cloned
    case isFalse isDate =>
      split at cloned
      case isTrue notCloneable => cases cloned
      case isFalse isCloneable =>
        split at cloned
        case isTrue isNext =>
          rw [← Except.ok.inj cloned]
        case isFalse notNext => cases cloned

theorem createDraftVersion_commits
    {input : CreateDraftVersion}
    (ran : createDraftVersion deps input db = .ok (db', answer)) :
    Commits deps db (.createDraftVersion input) db' answer := by
  simp only [createDraftVersion, bind_eq_ok, orThrow_eq_ok] at ran
  obtain ⟨_, -, createdAt, -, workflow, isWorkflow, role, -, _, -, _, -,
    ran⟩ := ran
  split at ran
  case h_1 existing found =>
    simp only [bind_eq_ok, getAccessibleVersion_eq_ok, refuseIf_eq_ok] at ran
    obtain ⟨_, sameSource, detail, ⟨-, isDetail⟩, returned⟩ := ran
    have isDb' := (Prod.mk.inj (Except.ok.inj returned)).1
    have isAnswer := (Prod.mk.inj (Except.ok.inj returned)).2
    rw [← isDb', ← isAnswer]
    exact .createdBefore found (not_not.mp sameSource)
      (mem_of_accessibleVersion isDetail).2 rfl
  case h_2 isNew =>
    simp only [bind_eq_ok, orThrow_eq_ok, getAccessibleVersion_eq_ok] at ran
    obtain ⟨source, -, _, -, definition, cloned, versions, inserted, audit,
      appended, detail, ⟨-, isDetail⟩, returned⟩ := ran
    have isDb' := (Prod.mk.inj (Except.ok.inj returned)).1
    have isAnswer := (Prod.mk.inj (Except.ok.inj returned)).2
    obtain ⟨idFree, isVersions⟩ := createMany_eq_some_iff.mp inserted
    have isCreated :
        CreatedFrom deps db input (input.row definition createdAt)
          (buildWorkflowVersionCreatedInput deps.hasher workflow.workspaceId
            input.actorUserId (input.row definition createdAt)
            input.sourceVersionId input.clientCreationId createdAt) :=
      { isNew
        idFree
        isRow := ⟨definition, createdAt, rfl⟩
        isNext := createDraftVersionClone_version cloned
        isTold :=
          ⟨workflow.workspaceId, createdAt,
            by rw [Database.workspaceOf, isWorkflow]; rfl, rfl⟩ }
    refine .created isCreated ?_ ?_ ?_ ?_ ?_
    case refine_1 =>
      rw [← isDb']
      exact ⟨rfl, workspaceOf_renameWorkflow _ _ _⟩
    case refine_2 =>
      rw [← isDb', isVersions]
      rfl
    case refine_3 =>
      rw [← isDb']
      exact appended
    case refine_4 =>
      rw [← isAnswer]
      obtain ⟨isListed, isId⟩ := mem_of_accessibleVersion isDetail
      have distinct : (versions.map WorkflowVersion.id).Nodup := by
        rw [isVersions]
        exact idFree
      refine eq_of_key distinct isListed ?_ isId
      rw [isVersions]
      exact List.mem_append_right _ (List.mem_singleton_self _)
    case refine_5 => rw [← isAnswer]

/-- Every call that answers commits what its operation may commit. -/
theorem transaction_commits
    {call : Call}
    {answer : Answer}
    (distinct : (db.versions.map WorkflowVersion.id).Nodup)
    (ran : call.transaction deps db = .ok (db', answer)) :
    Commits deps db call db' answer := by
  cases call with
  | updateDraft input => exact updateDraft_commits distinct ran
  | submitForTesting input => exact submitForTesting_commits distinct ran
  | returnToDraft input => exact returnToDraft_commits distinct ran
  | publish input => exact publish_commits distinct ran
  | archive input => exact archive_commits distinct ran
  | createDraftVersion input => exact createDraftVersion_commits ran

end TaskTwin.Lifecycle
