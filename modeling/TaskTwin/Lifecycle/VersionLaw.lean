import TaskTwin.Lifecycle.Versions
import TaskTwin.RunStore.Rows

/-!
# The law of versions

What an event may do to a stored version, what the events of a run may do to
it one after the other, and where a published definition comes from.
-/

namespace TaskTwin.Lifecycle

open Text Schema Store Audit TaskTwin.Workflow

/-- An accepted `updateDraft`, of a draft and at the revision that it names. -/
structure Edit
    (deps : Dependencies)
    (event : Event)
    (version version' : WorkflowVersion)
    (input : UpdateDraft) :
    Prop where
  isEvent : event = .call (.updateDraft input)
  isVersion : input.workflowVersionId = version.id
  isDraft : version.status = .draft
  staysDraft : version'.status = .draft
  named : input.expectedRevision = version.revision
  raised : version'.revision = version.revision + 1
  written :
    deps.parseDefinition input.definitionInput = some version'.definition

/-- A `publish` that was ready under the policy that was active. -/
structure Publication
    (deps : Dependencies)
    (db : Database)
    (event : Event)
    (version version' : WorkflowVersion) :
    Prop where
  isEvent :
    ∃ input,
      event = .call (.publish input) ∧ input.workflowVersionId = version.id
  inTesting : version.status = .testing
  isPublished : version'.status = .published
  sameRevision : version'.revision = version.revision
  written : version'.definition = withStatus version.definition .published
  ready :
    ∃ workspaceId policy,
      db.workspaceOf version.workflowId = some workspaceId ∧
        db.settings.activePolicy workspaceId = some policy ∧
        (analyzePublishReadiness deps version.definition policy).ready =
            true ∧
          (analyzePublishReadiness deps version'.definition policy).ready =
            true

/-- Published now, or once. -/
def isReleased (status : WorkflowLifecycleStatus) : Bool :=
  status = .published ∨ status = .archived

/-- What no event changes of a stored version. -/
structure SameKeys (version version' : WorkflowVersion) : Prop where
  sameId : version'.id = version.id
  sameWorkflow : version'.workflowId = version.workflowId
  sameVersion : version'.version = version.version
  sameCreation : version'.clientCreationId = version.clientCreationId
  sameSource : version'.createdFromVersionId = version.createdFromVersionId

/-- What an event may do to a stored version. -/
structure StepLaw
    (deps : Dependencies)
    (db : Database)
    (event : Event)
    (version version' : WorkflowVersion) :
    Prop extends SameKeys version version' where
  archivedStays : version.status = .archived → version' = version
  definition :
    version'.definition = version.definition ∧
        version'.revision = version.revision ∨
      (∃ input, Edit deps event version version' input) ∨
      Publication deps db event version version'
  released :
    isReleased version'.status = true →
    isReleased version.status = true ∧
        version'.definition = version.definition ∨
      Publication deps db event version version'
  staysReleased :
    isReleased version.status = true →
    isReleased version'.status = true ∧
      version'.definition = version.definition

variable {deps : Dependencies}

theorem StepLaw.refl
    (db : Database)
    (event : Event)
    (version : WorkflowVersion) :
    StepLaw deps db event version version where
  toSameKeys := ⟨rfl, rfl, rfl, rfl, rfl⟩
  archivedStays _ := rfl
  definition := Or.inl ⟨rfl, rfl⟩
  released isReleased := Or.inl ⟨isReleased, rfl⟩
  staysReleased isReleased := ⟨isReleased, rfl⟩

variable
  {db : Database}
  {event : Event}
  {call : Call}
  {version version' : WorkflowVersion}
  {input : UpdateDraft}

/-- A change of the status that neither releases nor withdraws. -/
theorem StepLaw.ofStatus
    (keys : SameKeys version version')
    (sameDefinition : version'.definition = version.definition)
    (sameRevision : version'.revision = version.revision)
    (notArchived : version.status ≠ .archived)
    (sameRelease : isReleased version'.status = isReleased version.status) :
    StepLaw deps db event version version' where
  toSameKeys := keys
  archivedStays isArchived := absurd isArchived notArchived
  definition := Or.inl ⟨sameDefinition, sameRevision⟩
  released isReleased := Or.inl ⟨sameRelease ▸ isReleased, sameDefinition⟩
  staysReleased isReleased := ⟨sameRelease ▸ isReleased, sameDefinition⟩

theorem VersionChange.edit
    {version version' : WorkflowVersion}
    {told : AuditEventInput}
    (change :
      VersionChange deps db (.updateDraft input) version version' told) :
    Edit deps (.call (.updateDraft input)) version version' input := by
  cases change with
  | edited isVersion inWorkspace isDraft named parsed sameVersion =>
      exact
        { isEvent := rfl
          isVersion := isVersion.symm
          isDraft
          staysDraft := isDraft
          named := named.symm
          raised := rfl
          written := parsed }

theorem Edit.stepLaw
    (edit : Edit deps event version version' input)
    (keys : SameKeys version version') :
    StepLaw deps db event version version' where
  toSameKeys := keys
  archivedStays isArchived := by
    rw [edit.isDraft] at isArchived
    cases isArchived
  definition := Or.inr (Or.inl ⟨input, edit⟩)
  released isReleased := by
    rw [edit.staysDraft] at isReleased
    cases isReleased
  staysReleased isReleased := by
    rw [edit.isDraft] at isReleased
    cases isReleased

theorem Publication.stepLaw
    (publication : Publication deps db event version version')
    (keys : SameKeys version version') :
    StepLaw deps db event version version' where
  toSameKeys := keys
  archivedStays isArchived := by
    rw [publication.inTesting] at isArchived
    cases isArchived
  definition := Or.inr (Or.inr publication)
  released _ := Or.inr publication
  staysReleased isReleased := by
    rw [publication.inTesting] at isReleased
    cases isReleased

theorem VersionChange.stepLaw
    {told : AuditEventInput}
    (change : VersionChange deps db call version version' told) :
    StepLaw deps db (.call call) version version' := by
  have isChange := change
  cases change with
  | edited => exact isChange.edit.stepLaw ⟨rfl, rfl, rfl, rfl, rfl⟩
  | submitted isVersion inWorkspace isDraft =>
      exact StepLaw.ofStatus ⟨rfl, rfl, rfl, rfl, rfl⟩ rfl rfl
        (by simp [isDraft]) (by simp [moved, isReleased, isDraft])
  | returned isVersion inWorkspace inTesting =>
      exact StepLaw.ofStatus ⟨rfl, rfl, rfl, rfl, rfl⟩ rfl rfl
        (by simp [inTesting]) (by simp [moved, isReleased, inTesting])
  | published isVersion inWorkspace inTesting isActive ready =>
      refine Publication.stepLaw ?_ ⟨rfl, rfl, rfl, rfl, rfl⟩
      exact
        { isEvent := ⟨_, rfl, isVersion.symm⟩
          inTesting
          isPublished := rfl
          sameRevision := rfl
          written := rfl
          ready := ⟨_, _, inWorkspace, isActive, ready, ready⟩ }
  | replaced isOther inWorkspace isPublished =>
      exact StepLaw.ofStatus ⟨rfl, rfl, rfl, rfl, rfl⟩ rfl rfl
        (by simp [isPublished])
        (by simp [Lifecycle.archived, isReleased, isPublished])
  | archived isVersion inWorkspace isPublished =>
      exact StepLaw.ofStatus ⟨rfl, rfl, rfl, rfl, rfl⟩ rfl rfl
        (by simp [isPublished])
        (by simp [Lifecycle.archived, isReleased, isPublished])

/-- Versions stay, and those that come are drafts. -/
structure EventLaw
    (deps : Dependencies)
    (db db' : Database)
    (event : Event) :
    Prop where
  kept :
    ∀ version ∈ db.versions,
      ∃ version' ∈ db'.versions, StepLaw deps db event version version'
  come :
    ∀ version' ∈ db'.versions,
      (∃ version ∈ db.versions, StepLaw deps db event version version') ∨
        (∃ input,
            event = .call (.createDraftVersion input) ∧
              version'.workflowId = input.workflowId ∧
              version'.clientCreationId = some input.clientCreationId) ∧
          version'.status = .draft ∧
          version'.revision = 1

variable {db db' : Database}

theorem EventLaw.refl
    (versions : db'.versions = db.versions)
    (event : Event) :
    EventLaw deps db db' event where
  kept version listed :=
    ⟨version, by rwa [versions], StepLaw.refl db event version⟩
  come version listed :=
    Or.inl ⟨version, by rwa [← versions], StepLaw.refl db event version⟩

theorem Changed.stepLaw
    {change : WorkflowVersion → WorkflowVersion}
    {changed : List WorkflowVersion}
    {told : WorkflowVersion → AuditEventInput}
    (isChanged : Changed deps db call change changed told)
    {version : WorkflowVersion}
    (listed : version ∈ db.versions) :
    StepLaw deps db (.call call) version (change version) := by
  by_cases isChange : version ∈ changed
  · exact (isChanged.isChange version isChange).stepLaw
  · rw [isChanged.others version listed isChange]
    exact StepLaw.refl db _ version

theorem Commits.eventLaw
    {call : Call}
    {answer : Answer}
    (commits : Commits deps db call db' answer) :
    EventLaw deps db db' (.call call) := by
  cases commits with
  | changed isChanged frame versions =>
      constructor
      case kept =>
        intro version listed
        refine ⟨_, ?_, isChanged.stepLaw listed⟩
        rw [versions]
        exact List.mem_map_of_mem listed
      case come =>
        intro version' listed'
        rw [versions] at listed'
        obtain ⟨version, listed, rfl⟩ := List.mem_map.mp listed'
        exact Or.inl ⟨version, listed, isChanged.stepLaw listed⟩
  | created isCreated frame versions =>
      constructor
      case kept =>
        intro version listed
        refine ⟨version, ?_, StepLaw.refl db _ version⟩
        rw [versions]
        exact List.mem_append_left _ listed
      case come =>
        intro version' listed'
        rw [versions] at listed'
        rcases List.mem_append.mp listed' with listed | isNew
        · exact Or.inl ⟨version', listed, StepLaw.refl db _ version'⟩
        · obtain ⟨-, isWorkflow, isCreation, -, isDraft, isFirst, -⟩ :=
            isCreated.fields
          rw [List.mem_singleton.mp isNew]
          exact Or.inr ⟨⟨_, rfl, isWorkflow, isCreation⟩, isDraft, isFirst⟩
  | publishedBefore => exact EventLaw.refl rfl _
  | createdBefore => exact EventLaw.refl rfl _

theorem perform_eventLaw
    (distinct : (db.versions.map WorkflowVersion.id).Nodup)
    (event : Event) :
    EventLaw deps db (perform deps db event) event := by
  rcases perform_cases distinct event with
    ⟨versions, -⟩ | ⟨call, answer, rfl, -, commits⟩
  · exact EventLaw.refl versions event
  · exact commits.eventLaw

/-- An edit that is accepted is written. -/
theorem accepted_edit
    {input : UpdateDraft}
    {answer : Answer}
    (distinct : (db.versions.map WorkflowVersion.id).Nodup)
    (ran : updateDraft deps input db = .ok (db', answer)) :
    ∃ version ∈ db.versions,
      answer.workflowVersion.row ∈ db'.versions ∧
        Edit deps (.call (.updateDraft input)) version
          answer.workflowVersion.row input := by
  cases updateDraft_commits distinct ran with
  | changed isChanged frame versions appended about toldType answered first =>
      have isChange := isChanged.isChange _ about
      refine ⟨_, isChanged.listed _ about, ?_, ?_⟩
      · rw [answered, versions]
        exact List.mem_map_of_mem (isChanged.listed _ about)
      · rw [answered]
        exact isChange.edit

/-- What a run may do to a stored version. -/
structure RunLaw (version version' : WorkflowVersion) : Prop
    extends SameKeys version version' where
  archivedStays : version.status = .archived → version' = version
  revisions : version.revision ≤ version'.revision
  /-- At one revision there is one definition, but for its status. -/
  sameContent :
    version'.revision = version.revision →
    content version'.definition = content version.definition
  staysReleased :
    isReleased version.status = true →
    isReleased version'.status = true ∧
      version'.definition = version.definition

theorem SameKeys.trans
    {first second third : WorkflowVersion}
    (toSecond : SameKeys first second)
    (toThird : SameKeys second third) :
    SameKeys first third where
  sameId := toThird.sameId.trans toSecond.sameId
  sameWorkflow := toThird.sameWorkflow.trans toSecond.sameWorkflow
  sameVersion := toThird.sameVersion.trans toSecond.sameVersion
  sameCreation := toThird.sameCreation.trans toSecond.sameCreation
  sameSource := toThird.sameSource.trans toSecond.sameSource

theorem RunLaw.refl (version : WorkflowVersion) : RunLaw version version where
  toSameKeys := ⟨rfl, rfl, rfl, rfl, rfl⟩
  archivedStays _ := rfl
  revisions := le_rfl
  sameContent _ := rfl
  staysReleased isReleased := ⟨isReleased, rfl⟩

theorem RunLaw.trans
    {first second third : WorkflowVersion}
    (toSecond : RunLaw first second)
    (toThird : RunLaw second third) :
    RunLaw first third where
  toSameKeys := toSecond.toSameKeys.trans toThird.toSameKeys
  archivedStays isArchived := by
    have same := toSecond.archivedStays isArchived
    rw [toThird.archivedStays (by rwa [same]), same]
  revisions := toSecond.revisions.trans toThird.revisions
  sameContent sameRevision := by
    have upper := toThird.revisions
    have lower := toSecond.revisions
    rw [toThird.sameContent (by omega), toSecond.sameContent (by omega)]
  staysReleased isReleased := by
    obtain ⟨inSecond, sameSecond⟩ := toSecond.staysReleased isReleased
    obtain ⟨inThird, sameThird⟩ := toThird.staysReleased inSecond
    exact ⟨inThird, sameThird.trans sameSecond⟩

theorem StepLaw.runLaw
    {db : Database}
    {event : Event}
    {version version' : WorkflowVersion}
    (law : StepLaw deps db event version version') :
    RunLaw version version' where
  toSameKeys := law.toSameKeys
  archivedStays := law.archivedStays
  revisions := by
    rcases law.definition with ⟨-, same⟩ | ⟨input, edit⟩ | publication
    · exact same.ge
    · rw [edit.raised]
      exact Nat.le_succ _
    · exact publication.sameRevision.ge
  sameContent sameRevision := by
    rcases law.definition with ⟨same, -⟩ | ⟨input, edit⟩ | publication
    · rw [same]
    · rw [edit.raised] at sameRevision
      omega
    · rw [publication.written, withStatus_content]
  staysReleased := law.staysReleased

/-- The versions of a database go on in every later one. -/
theorem performAll_kept
    {db : Database}
    (consistent : Consistent db)
    (events : List Event)
    {version : WorkflowVersion}
    (listed : version ∈ db.versions) :
    ∃ version' ∈ (performAll deps db events).versions,
      RunLaw version version' := by
  induction events generalizing db version with
  | nil => exact ⟨version, listed, RunLaw.refl version⟩
  | cons event events inductionHypothesis =>
      obtain ⟨next, isNext, law⟩ :=
        (@perform_eventLaw deps db consistent.ids event).kept version listed
      obtain ⟨version', listed', later⟩ :=
        inductionHypothesis (perform_consistent consistent event) isNext
      exact ⟨version', listed', law.runLaw.trans later⟩

theorem performAll_append
    (db : Database)
    (earlier later : List Event) :
    performAll deps db (earlier ++ later) =
      performAll deps (performAll deps db earlier) later :=
  List.foldl_append

/-- The publication that a released version comes from. -/
def ReleasedBy
    (deps : Dependencies)
    (start : Database)
    (events : List Event)
    (version : WorkflowVersion) :
    Prop :=
  ∃ earlier event later before after,
    events = earlier ++ event :: later ∧
      before ∈ (performAll deps start earlier).versions ∧
      before.id = version.id ∧
      Publication deps (performAll deps start earlier) event before after ∧
      version.definition = after.definition

theorem released_by_publication
    {start : Database}
    (first : FirstDrafts start)
    (events : List Event) :
    ∀ version ∈ (performAll deps start events).versions,
      isReleased version.status = true →
      ReleasedBy deps start events version := by
  induction events using List.reverseRecOn with
  | nil =>
      intro version listed released
      rw [first.status version listed] at released
      cases released
  | append_singleton events event inductionHypothesis =>
      intro version' listed' released
      have consistent :=
        @performAll_consistent deps _ first.consistent events
      rw [performAll_append] at listed'
      rcases (@perform_eventLaw deps _ consistent.ids event).come version'
          listed' with
        ⟨version, listed, law⟩ | ⟨-, isDraft, -⟩
      case inr =>
        rw [isDraft] at released
        cases released
      case inl =>
        rcases law.released released with ⟨before, same⟩ | publication
        · obtain ⟨earlier, cause, later, row, after, isRun, isRow, sameId,
            isPublication, written⟩ :=
              inductionHypothesis version listed before
          exact ⟨earlier, cause, later ++ [event], row, after, by simp [isRun],
            isRow, sameId.trans law.sameId.symm, isPublication,
            same.trans written⟩
        · exact ⟨events, event, [], version, version', rfl, listed,
            law.sameId.symm, publication, rfl⟩

/-- A creation that answers was given identifiers, and answers with one. -/
theorem created_identifiers
    {input : CreateDraftVersion}
    {answer : Answer}
    (ran : createDraftVersion deps input db = .ok (db', answer)) :
    isUuidPattern input.sourceVersionId = true ∧
      isUuidPattern input.clientCreationId = true ∧
      isUuidPattern answer.workflowVersion.row.id = true := by
  simp only [createDraftVersion, bind_eq_ok, orThrow_eq_ok, refuseIf_eq_ok]
    at ran
  obtain ⟨_, areUuids, createdAt, -, workflow, -, role, -, _, -, _, -, ran⟩ :=
    ran
  rw [not_or, not_or, Bool.not_eq_false, Bool.not_eq_false,
    Bool.not_eq_false] at areUuids
  refine ⟨areUuids.2.1, areUuids.2.2, ?_⟩
  split at ran
  case h_1 existing found =>
    simp only [bind_eq_ok, getAccessibleVersion_eq_ok] at ran
    obtain ⟨_, -, detail, ⟨isUuid, isDetail⟩, returned⟩ := ran
    rw [← (Prod.mk.inj (Except.ok.inj returned)).2]
    dsimp only
    rw [(mem_of_accessibleVersion isDetail).2]
    exact isUuid.2
  case h_2 isNew =>
    simp only [bind_eq_ok, getAccessibleVersion_eq_ok] at ran
    obtain ⟨source, -, _, -, definition, -, versions, -, audit, -, detail,
      ⟨isUuid, isDetail⟩, returned⟩ := ran
    rw [← (Prod.mk.inj (Except.ok.inj returned)).2]
    dsimp only
    rw [(mem_of_accessibleVersion isDetail).2]
    exact isUuid.2

theorem findCreated_eq_some
    {db : Database}
    {workflowId clientCreationId : JsString}
    {version : WorkflowVersion}
    (found : db.findCreated workflowId clientCreationId = some version) :
    version ∈ db.versions ∧
      version.workflowId = workflowId ∧
      version.clientCreationId = some clientCreationId := by
  rw [Database.findCreated] at found
  exact ⟨List.mem_of_find?_eq_some found,
    by simpa using List.find?_some found⟩

/-- A version that a creation answers with. -/
theorem created_found
    {input : CreateDraftVersion}
    {answer : Answer}
    (ran : createDraftVersion deps input db = .ok (db', answer)) :
    ∃ version ∈ db'.versions,
      version.id = answer.workflowVersion.row.id ∧
        version.workflowId = input.workflowId ∧
        version.clientCreationId = some input.clientCreationId ∧
        version.createdFromVersionId = some input.sourceVersionId := by
  cases createDraftVersion_commits ran with
  | changed isChanged frame versions appended about =>
      cases isChanged.isChange _ about
  | created isCreated frame versions appended answered first =>
      obtain ⟨-, isWorkflow, isCreation, isSource, -⟩ := isCreated.fields
      refine ⟨_, ?_, by rw [answered], isWorkflow, isCreation, isSource⟩
      rw [versions]
      exact List.mem_append_right _ (List.mem_singleton_self _)
  | createdBefore found sameSource answered again =>
      obtain ⟨listed, isWorkflow, isCreation⟩ := findCreated_eq_some found
      exact ⟨_, listed, answered.symm, isWorkflow, isCreation, sameSource⟩

/-- The version of a creation is found by its client's identifier. -/
theorem Consistent.findCreated
    {db : Database}
    (consistent : Consistent db)
    {version : WorkflowVersion}
    (listed : version ∈ db.versions)
    {workflowId clientCreationId : JsString}
    (isWorkflow : version.workflowId = workflowId)
    (isCreation : version.clientCreationId = some clientCreationId) :
    db.findCreated workflowId clientCreationId = some version := by
  cases found : db.findCreated workflowId clientCreationId with
  | none =>
      have notFound := List.find?_eq_none.mp found version listed
      exact absurd (decide_eq_true ⟨isWorkflow, isCreation⟩) notFound
  | some other =>
      obtain ⟨listed', isWorkflow', isCreation'⟩ := findCreated_eq_some found
      rw [consistent.creations other listed' version listed
        (isWorkflow'.trans isWorkflow.symm)
        (isCreation'.trans isCreation.symm) (by simp [isCreation'])]

/-- What a repeated creation finds, and what it is answered with. -/
structure Repeats
    (deps : Dependencies)
    (db : Database)
    (again : CreateDraftVersion)
    (id sourceVersionId : JsString) :
    Prop where
  answersSame :
    ∀ db' answer,
      createDraftVersion deps again db = .ok (db', answer) →
      db' = db ∧ answer.workflowVersion.row.id = id ∧ answer.idempotent = true
  /-- A member who may edit is answered, if the source is the same. -/
  answers :
    again.sourceVersionId = sourceVersionId →
    isUuidPattern again.actorUserId = true →
    again.createdAt ≠ none →
    (∃ workspaceId role,
      db.workspaceOf again.workflowId = some workspaceId ∧
        db.settings.role workspaceId again.actorUserId = some role ∧
        role ∈ editorRoles) →
    ∃ answer, createDraftVersion deps again db = .ok (db, answer)

theorem Consistent.repeats
    {db : Database}
    (consistent : Consistent db)
    {version : WorkflowVersion}
    (listed : version ∈ db.versions)
    {again : CreateDraftVersion}
    {sourceVersionId : JsString}
    (isWorkflow : version.workflowId = again.workflowId)
    (isCreation : version.clientCreationId = some again.clientCreationId)
    (isSource : version.createdFromVersionId = some sourceVersionId)
    (sourceIsUuid : isUuidPattern sourceVersionId = true)
    (creationIsUuid : isUuidPattern again.clientCreationId = true)
    (idIsUuid : isUuidPattern version.id = true) :
    Repeats deps db again version.id sourceVersionId := by
  have found := consistent.findCreated listed isWorkflow isCreation
  constructor
  case answersSame =>
    intro db' answer ran
    cases createDraftVersion_commits ran with
    | changed isChanged frame versions appended about =>
        cases isChanged.isChange _ about
    | created isCreated =>
        rw [isCreated.isNew] at found
        cases found
    | createdBefore found' sameSource answered isAgain =>
        rw [found] at found'
        obtain rfl := Option.some.inj found'
        exact ⟨rfl, answered, isAgain⟩
  case answers =>
    rintro rfl actorIsUuid hasTime
      ⟨workspaceId, role, inWorkspace, isRole, mayEdit⟩
    obtain ⟨createdAt, isTime⟩ := Option.ne_none_iff_exists'.mp hasTime
    obtain ⟨workflow, isFound, isWorkspace⟩ :=
      Option.map_eq_some_iff.mp inWorkspace
    have isRead :
        db.accessibleVersion again.actorUserId version.id =
          some { row := version, workspaceId, role } :=
      accessibleVersion_eq_some.mpr
        ⟨findUnique_of_mem consistent.ids listed,
          by rw [isWorkflow]; exact inWorkspace, isRole⟩
    refine
      ⟨{ workflowVersion := { row := version, workspaceId, role }
         readiness := none
         idempotent := true }, ?_⟩
    simp only [createDraftVersion, requireTimestamp, bind_eq_ok, orThrow_eq_ok,
      refuseIf_eq_ok]
    refine ⟨(), ?_, createdAt, isTime, workflow, isFound, role, ?_, (), ?_, (),
      ?_, ?_⟩
    · simp [actorIsUuid, sourceIsUuid, creationIsUuid]
    · rw [isWorkspace]
      exact isRole
    · simpa [requireRole] using mayEdit
    · simp [lockWorkflow, isFound]
    · rw [found]
      simp only [bind_eq_ok, refuseIf_eq_ok, getAccessibleVersion_eq_ok]
      exact ⟨(), by simp [isSource], _, ⟨⟨actorIsUuid, idIsUuid⟩, isRead⟩,
        rfl⟩

/-- What holds after every run from first drafts, and of the next event. -/
structure VersionLaw
    (deps : Dependencies)
    (start : Database)
    (events : List Event) :
    Prop where
  consistent : Consistent (performAll deps start events)
  /-- What the next event does to every version. -/
  next :
    ∀ event,
      EventLaw deps (performAll deps start events)
        (performAll deps start (events ++ [event])) event
  /-- An accepted edit is what the version then holds. -/
  accepted :
    ∀ input db' answer,
      updateDraft deps input (performAll deps start events) =
        .ok (db', answer) →
      ∃ version ∈ (performAll deps start events).versions,
        answer.workflowVersion.row ∈ db'.versions ∧
          Edit deps (.call (.updateDraft input)) version
            answer.workflowVersion.row input
  /-- What became of every version since any moment of the run. -/
  since :
    ∀ earlier later,
      events = earlier ++ later →
      ∀ version ∈ (performAll deps start earlier).versions,
        ∃ version' ∈ (performAll deps start events).versions,
          RunLaw version version'
  released :
    ∀ version ∈ (performAll deps start events).versions,
      isReleased version.status = true →
      ReleasedBy deps start events version
  repeated :
    ∀ earlier later input db' answer,
      events = earlier ++ .call (.createDraftVersion input) :: later →
      createDraftVersion deps input (performAll deps start earlier) =
        .ok (db', answer) →
      ∀ again : CreateDraftVersion,
        again.workflowId = input.workflowId →
        again.clientCreationId = input.clientCreationId →
        Repeats deps (performAll deps start events) again
          answer.workflowVersion.row.id input.sourceVersionId

/-- A hash of 64 digits. -/
def exampleHasher : AuditHasher where
  sha256Hex text :=
    RunStore.hexText 64
      (text.foldl (fun hash symbol => 65599 * hash + symbol.toNat) 7)

def exampleDependencies : Dependencies where
  parseOther _ := none
  hasher := exampleHasher
  newRow _ := { id := [], createdAt := [] }
  parseDefinition _ := none
  validateEditorWorkflow _ := 0
  analyzeContent _ _ := { ready := true }
  createCanonicalJsonDigest _ := genesisPreviousHash

def exampleVersionId : JsString :=
  js "11111111-1111-4111-8111-111111111111"

def exampleActorId : JsString :=
  js "22222222-2222-4222-8222-222222222222"

def exampleWorkspaceId : JsString :=
  js "33333333-3333-4333-8333-333333333333"

theorem exampleMoment_inRange : -maxTime ≤ 0 ∧ 0 ≤ maxTime := by
  decide

def exampleMoment : TimeValue :=
  { milliseconds := 0, inRange := exampleMoment_inRange }

def exampleDraft : WorkflowVersion :=
  { id := exampleVersionId
    workflowId := js "workflow"
    version := 1
    revision := 1
    status := .draft
    schemaVersion := workflowSchemaVersion
    definition := withStatus exampleWorkflow .draft
    createdFromVersionId := none
    clientCreationId := none
    publishedAt := none
    publishedById := none
    archivedAt := none
    archivedById := none
    createdAt := exampleMoment }

/-- A workflow with its first draft, and an owner. -/
def exampleStart : Database :=
  { settings :=
      { workspaces := [{ id := exampleWorkspaceId, organizationId := [] }]
        members :=
          [{ organizationId := [], userId := exampleActorId, role := .owner }]
        activePolicy := fun _ => some Policy.defaultWorkspaceExecutionPolicy }
    workflows :=
      [{ id := js "workflow"
         workspaceId := exampleWorkspaceId
         name := exampleGate
         description := none }]
    versions := [exampleDraft]
    audit := .empty }

theorem exampleStart_firstDrafts : FirstDrafts exampleStart := by
  have isDraft :
      ∀ version ∈ exampleStart.versions, version = exampleDraft := by
    intro version listed
    exact List.mem_singleton.mp listed
  constructor
  case ids => exact List.nodup_singleton _
  case one =>
    intro version listed other listed' _
    rw [isDraft version listed, isDraft other listed']
  all_goals
    intro version listed
    rw [isDraft version listed]
    rfl

def exampleTransition : Transition :=
  { actorUserId := exampleActorId
    workflowVersionId := exampleVersionId
    expectedRevision := 1
    now := exampleMoment }

/-- A draft that is submitted, and then published. -/
def examplePublication : List Event :=
  [.call (.submitForTesting exampleTransition),
    .call
      (.publish
        { actorUserId := exampleActorId
          workflowVersionId := exampleVersionId
          expectedRevision := 1
          occurredAt := some exampleMoment })]

end TaskTwin.Lifecycle
