import TaskTwin.Lifecycle.VersionLaw

/-!
# The trail of versions

A trail tells every change of status as long as no version makes one of the
transitions between draft and testing a second time at one revision.
-/

namespace TaskTwin.Lifecycle

open Text Schema Store Audit TaskTwin.Workflow

abbrev StatusChange : Type :=
  WorkflowLifecycleStatus × WorkflowLifecycleStatus

/-- The change of status that an event tells. -/
def statusChangeOf : AuditEventType → Option StatusChange
  | .workflowVersionSubmittedForTesting => some (.draft, .testing)
  | .workflowVersionReturnedToDraft => some (.testing, .draft)
  | .workflowVersionPublished => some (.testing, .published)
  | .workflowVersionArchived => some (.published, .archived)
  | _ => none

/-- The change of status of a version that a stored event tells. -/
def auditedChange
    (workflowVersionId : JsString)
    (event : StoredAuditEvent) :
    Option StatusChange :=
  if event.primaryEntity = versionEntity workflowVersionId then
    (AuditEventType.parse event.eventType).bind statusChangeOf
  else none

def changeOf (version version' : WorkflowVersion) : Option StatusChange :=
  if version.status = version'.status then none
  else some (version.status, version'.status)

/-- The change of status of a version between two databases. -/
def changeBetween
    (db db' : Database)
    (workflowVersionId : JsString) :
    List StatusChange :=
  match db.findVersion workflowVersionId,
      db'.findVersion workflowVersionId with
  | some version, some version' => (changeOf version version').toList
  | _, _ => []

/-- A submission or a return: its version, and the revision it is made at. -/
structure Move where
  transition : TestingTransition
  workflowVersionId : JsString
  revision : Nat
  deriving DecidableEq

variable (deps : Dependencies)

/-- The changes of status of a version during a run. -/
def statusChanges
    (workflowVersionId : JsString)
    (db : Database) :
    List Event → List StatusChange
  | [] => []
  | event :: events =>
      changeBetween db (perform deps db event) workflowVersionId ++
        statusChanges workflowVersionId (perform deps db event) events

/-- The submission or the return that an event is, if it is answered. -/
def moveOf (db : Database) : Event → Option Move
  | .call (.submitForTesting input) =>
      match submitForTesting deps input db with
      | .ok (_, answer) =>
          some
            { transition := .submittedForTesting
              workflowVersionId := answer.workflowVersion.row.id
              revision := answer.workflowVersion.row.revision }
      | .error _ => none
  | .call (.returnToDraft input) =>
      match returnToDraft deps input db with
      | .ok (_, answer) =>
          some
            { transition := .returnedToDraft
              workflowVersionId := answer.workflowVersion.row.id
              revision := answer.workflowVersion.row.revision }
      | .error _ => none
  | _ => none

/-- The submissions and the returns of a run. -/
def moves (db : Database) : List Event → List Move
  | [] => []
  | event :: events =>
      (moveOf deps db event).toList ++ moves (perform deps db event) events

theorem statusChanges_concat
    (workflowVersionId : JsString)
    (db : Database)
    (events : List Event)
    (event : Event) :
    statusChanges deps workflowVersionId db (events ++ [event]) =
      statusChanges deps workflowVersionId db events ++
        changeBetween (performAll deps db events)
          (performAll deps db (events ++ [event])) workflowVersionId := by
  induction events generalizing db with
  | nil => simp [statusChanges, performAll]
  | cons first events inductionHypothesis =>
      rw [List.cons_append, statusChanges, inductionHypothesis,
        ← List.append_assoc]
      rfl

theorem moves_append
    (db : Database)
    (earlier later : List Event) :
    moves deps db (earlier ++ later) =
      moves deps db earlier ++
        moves deps (performAll deps db earlier) later := by
  induction earlier generalizing db with
  | nil => rfl
  | cons first earlier inductionHypothesis =>
      rw [List.cons_append, moves, inductionHypothesis, ← List.append_assoc]
      rfl

variable {deps}

/-- What has happened when a source is taken. -/
def Explained (db : Database) (made : List Move) : SourceKind → Prop
  | .moved transition workflowVersionId revision =>
      { transition, workflowVersionId, revision } ∈ made
  | .created workflowVersionId _ _ =>
      ∃ version ∈ db.versions, version.id = workflowVersionId
  | .published workflowVersionId _ =>
      ∃ version ∈ db.versions,
        version.id = workflowVersionId ∧ isReleased version.status = true
  | .archived workflowVersionId _ _ =>
      ∃ version ∈ db.versions,
        version.id = workflowVersionId ∧ version.status = .archived
  | .edited workflowVersionId revision =>
      ∃ version ∈ db.versions,
        version.id = workflowVersionId ∧ revision ≤ version.revision

/-- No source of the events of versions. -/
def Foreign (hasher : AuditHasher) (event : StoredAuditEvent) : Prop :=
  ∀ kind : SourceKind, kind.sourceId hasher ≠ some event.sourceId

/-- Every source that is taken is explained, or made by other code. -/
def TrailExplained
    (deps : Dependencies)
    (db : Database)
    (made : List Move) :
    Prop :=
  ∀ event ∈ db.audit.events,
    (∃ kind : SourceKind,
      kind.sourceId deps.hasher = some event.sourceId ∧
        Explained db made kind) ∨
      Foreign deps.hasher event

theorem Explained.later
    {db db' : Database}
    {made made' : List Move}
    {event : Event}
    (law : EventLaw deps db db' event)
    (more : made ⊆ made')
    {kind : SourceKind}
    (explained : Explained db made kind) :
    Explained db' made' kind := by
  cases kind with
  | moved transition workflowVersionId revision => exact more explained
  | created workflowVersionId version clientCreationId =>
      obtain ⟨row, listed, isId⟩ := explained
      obtain ⟨row', listed', step⟩ := law.kept row listed
      exact ⟨row', listed', step.sameId.trans isId⟩
  | published workflowVersionId revision =>
      obtain ⟨row, listed, isId, isReleased⟩ := explained
      obtain ⟨row', listed', step⟩ := law.kept row listed
      exact ⟨row', listed', step.sameId.trans isId,
        (step.staysReleased isReleased).1⟩
  | archived workflowVersionId revision reason =>
      obtain ⟨row, listed, isId, isArchived⟩ := explained
      obtain ⟨row', listed', step⟩ := law.kept row listed
      have same := step.archivedStays isArchived
      exact ⟨row', listed', step.sameId.trans isId, by rw [same, isArchived]⟩
  | edited workflowVersionId revision =>
      obtain ⟨row, listed, isId, reached⟩ := explained
      obtain ⟨row', listed', step⟩ := law.kept row listed
      exact ⟨row', listed', step.sameId.trans isId,
        reached.trans step.runLaw.revisions⟩

/-- A source that nothing explains is free. -/
theorem TrailExplained.isFree
    {db : Database}
    {made : List Move}
    (explained : TrailExplained deps db made)
    (injective : Function.Injective deps.hasher.sha256Hex)
    {kind : SourceKind}
    (unexplained : ¬Explained db made kind)
    {sourceId : JsString}
    (isSource : kind.sourceId deps.hasher = some sourceId) :
    IsFree db.audit sourceId := by
  intro event listed same
  rcases explained event listed with ⟨other, isOther, isExplained⟩ | foreign
  · rw [same] at isOther
    rw [SourceKind.sourceId_injective injective isOther isSource]
      at isExplained
    exact unexplained isExplained
  · rw [← same] at isSource
    exact foreign kind isSource

/-- The submission or the return that a call makes of a version. -/
def Call.move (version : WorkflowVersion) : Call → Option Move
  | .submitForTesting _ =>
      some
        { transition := .submittedForTesting
          workflowVersionId := version.id
          revision := version.revision }
  | .returnToDraft _ =>
      some
        { transition := .returnedToDraft
          workflowVersionId := version.id
          revision := version.revision }
  | _ => none

/-- What the event of a change says. -/
structure ToldChange
    (db : Database)
    (version version' : WorkflowVersion)
    (told : AuditEventInput) :
    Prop where
  workspaceId : db.workspaceOf version.workflowId = some told.workspaceId
  primaryEntity : told.primaryEntity = versionEntity version.id
  statusChange : statusChangeOf told.eventType = changeOf version version'

theorem VersionChange.toldChange
    {db : Database}
    {call : Call}
    {version version' : WorkflowVersion}
    {told : AuditEventInput}
    (change : VersionChange deps db call version version' told) :
    ToldChange db version version' told := by
  cases change with
  | edited isVersion inWorkspace isDraft =>
      exact ⟨inWorkspace, rfl, by simp [changeOf, Lifecycle.edited]; rfl⟩
  | submitted isVersion inWorkspace isDraft =>
      exact ⟨inWorkspace, rfl, by simp [changeOf, moved, isDraft]; rfl⟩
  | returned isVersion inWorkspace inTesting =>
      exact ⟨inWorkspace, rfl, by simp [changeOf, moved, inTesting]; rfl⟩
  | published isVersion inWorkspace inTesting =>
      exact ⟨inWorkspace, rfl,
        by simp [changeOf, Lifecycle.published, inTesting]; rfl⟩
  | replaced isOther inWorkspace isPublished =>
      exact ⟨inWorkspace, rfl,
        by simp [changeOf, Lifecycle.archived, isPublished]; rfl⟩
  | archived isVersion inWorkspace isPublished =>
      exact ⟨inWorkspace, rfl,
        by simp [changeOf, Lifecycle.archived, isPublished]; rfl⟩

/-- What the source of a change is made for. -/
structure ChangeSource
    (hasher : AuditHasher)
    (db : Database)
    (call : Call)
    (version version' : WorkflowVersion)
    (told : AuditEventInput)
    (kind : SourceKind) :
    Prop where
  isSource : told.sourceId = kind.sourceId hasher
  isVersion : kind.versionId = version.id
  unexplained :
    (db.versions.map WorkflowVersion.id).Nodup →
    version ∈ db.versions →
    ∀ made,
      (∀ move, call.move version = some move → move ∉ made) →
      ¬Explained db made kind
  explained :
    ∀ db' made,
      version' ∈ db'.versions →
      (∀ move, call.move version = some move → move ∈ made) →
      Explained db' made kind

theorem VersionChange.source
    {db : Database}
    {call : Call}
    {version version' : WorkflowVersion}
    {told : AuditEventInput}
    (change : VersionChange deps db call version version' told) :
    ∃ kind,
      ChangeSource deps.hasher db call version version' told kind := by
  cases change with
  | edited isVersion inWorkspace isDraft =>
      refine ⟨.edited version.id (version.revision + 1), rfl, rfl, ?_, ?_⟩
      · rintro distinct listed made - ⟨row, isRow, isId, reached⟩
        rw [eq_of_key distinct isRow listed isId] at reached
        omega
      · intro db' made listed' _
        exact ⟨_, listed', rfl, le_rfl⟩
  | submitted isVersion inWorkspace isDraft =>
      refine
        ⟨.moved .submittedForTesting version.id version.revision, rfl, rfl,
          ?_, ?_⟩
      · intro distinct listed made notMade
        exact notMade _ rfl
      · intro db' made listed' isMade
        exact isMade _ rfl
  | returned isVersion inWorkspace inTesting =>
      refine
        ⟨.moved .returnedToDraft version.id version.revision, rfl, rfl, ?_,
          ?_⟩
      · intro distinct listed made notMade
        exact notMade _ rfl
      · intro db' made listed' isMade
        exact isMade _ rfl
  | published isVersion inWorkspace inTesting =>
      refine ⟨.published version.id version.revision, rfl, rfl, ?_, ?_⟩
      · rintro distinct listed made - ⟨row, isRow, isId, released⟩
        rw [eq_of_key distinct isRow listed isId, inTesting] at released
        cases released
      · intro db' made listed' _
        exact ⟨_, listed', rfl, rfl⟩
  | replaced isOther inWorkspace isPublished =>
      refine
        ⟨.archived version.id version.revision .replacedByPublish, rfl, rfl,
          ?_, ?_⟩
      · rintro distinct listed made - ⟨row, isRow, isId, isArchived⟩
        rw [eq_of_key distinct isRow listed isId, isPublished] at isArchived
        cases isArchived
      · intro db' made listed' _
        exact ⟨_, listed', rfl, rfl⟩
  | archived isVersion inWorkspace isPublished =>
      refine ⟨.archived version.id version.revision .manual, rfl, rfl, ?_, ?_⟩
      · rintro distinct listed made - ⟨row, isRow, isId, isArchived⟩
        rw [eq_of_key distinct isRow listed isId, isPublished] at isArchived
        cases isArchived
      · intro db' made listed' _
        exact ⟨_, listed', rfl, rfl⟩

/-- What the trail says of a call that answered. -/
structure CallTrail
    (deps : Dependencies)
    (db db' : Database)
    (call : Call)
    (answer : Answer)
    (made' : List Move)
    (added : List StoredAuditEvent) :
    Prop where
  appended : db'.audit.events = db.audit.events ++ added
  explained : TrailExplained deps db' made'
  /-- The events of a version tell what became of its status. -/
  tells :
    ∀ id workspaceId,
      (∀ version ∈ db'.versions,
        version.id = id →
        db'.workspaceOf version.workflowId = some workspaceId) →
      (added.filter (·.workspaceId = workspaceId)).filterMap
          (auditedChange id) =
        changeBetween db db' id
  /-- One event names the call and its version. -/
  names :
    answer.idempotent = false →
    ∃ event ∈ added,
      event.eventType = js call.eventType.text ∧
        event.primaryEntity =
          versionEntity answer.workflowVersion.row.id ∧
        db'.workspaceOf answer.workflowVersion.row.workflowId =
          some event.workspaceId

theorem changeBetween_self (db : Database) (id : JsString) :
    changeBetween db db id = [] := by
  unfold changeBetween
  cases db.findVersion id with
  | none => rfl
  | some version => simp [changeOf]

variable
  {db db' : Database}
  {call : Call}
  {answer : Answer}
  {change : WorkflowVersion → WorkflowVersion}
  {changed : List WorkflowVersion}

theorem changeBetween_concat
    {created : WorkflowVersion}
    (versions : db'.versions = db.versions ++ [created])
    (id : JsString) :
    changeBetween db db' id = [] := by
  unfold changeBetween
  cases found : db.findVersion id with
  | none => rfl
  | some version =>
      have found' : db'.findVersion id = some version := by
        rw [Database.findVersion, findUnique] at found ⊢
        rw [versions, List.find?_append, found]
        rfl
      simp [found', changeOf]

/-- A list of related values, read by functions that agree. -/
theorem filterMap_of_forall₂
    {α β γ : Type}
    {related : α → β → Prop}
    {read : α → Option γ}
    {read' : β → Option γ}
    {values : List α}
    {values' : List β}
    (all : List.Forall₂ related values values')
    (agree :
      ∀ value ∈ values, ∀ value',
        related value value' → read' value' = read value) :
    values'.filterMap read' = values.filterMap read := by
  induction all with
  | nil => rfl
  | @cons value value' values values' isRelated all inductionHypothesis =>
      have rest :=
        inductionHypothesis fun other listed =>
          agree other (List.mem_cons_of_mem _ listed)
      rw [List.filterMap_cons, List.filterMap_cons, rest,
        agree value List.mem_cons_self value' isRelated]

theorem exists_of_forall₂
    {α β : Type}
    {related : α → β → Prop}
    {values : List α}
    {values' : List β}
    (all : List.Forall₂ related values values') :
    (∀ value ∈ values, ∃ value' ∈ values', related value value') ∧
      ∀ value' ∈ values', ∃ value ∈ values, related value value' := by
  induction all with
  | nil => simp
  | cons isRelated all inductionHypothesis =>
      obtain ⟨forth, back⟩ := inductionHypothesis
      constructor
      · intro value listed
        rcases List.mem_cons.mp listed with rfl | later
        · exact ⟨_, List.mem_cons_self, isRelated⟩
        · obtain ⟨value', listed', isRelated'⟩ := forth value later
          exact ⟨value', List.mem_cons_of_mem _ listed', isRelated'⟩
      · intro value' listed'
        rcases List.mem_cons.mp listed' with rfl | later
        · exact ⟨_, List.mem_cons_self, isRelated⟩
        · obtain ⟨value, listed, isRelated'⟩ := back value' later
          exact ⟨value, List.mem_cons_of_mem _ listed, isRelated'⟩

/-- What is read of the one version of a list that has an identifier. -/
theorem filterMap_of_id
    {γ : Type}
    {changed : List WorkflowVersion}
    (distinct : (changed.map WorkflowVersion.id).Nodup)
    {version : WorkflowVersion}
    (listed : version ∈ changed)
    (read : WorkflowVersion → Option γ) :
    (changed.filterMap fun other =>
        if other.id = version.id then read other else none) =
      (read version).toList := by
  induction changed with
  | nil => cases listed
  | cons first rest inductionHypothesis =>
      obtain ⟨notAgain, restDistinct⟩ := List.nodup_cons.mp distinct
      rw [List.filterMap_cons]
      rcases List.mem_cons.mp listed with rfl | later
      case inl =>
        have noOther :
            (rest.filterMap fun other =>
                if other.id = version.id then read other else none) =
              [] := by
          rw [List.filterMap_eq_nil_iff]
          intro other isOther
          refine if_neg ?_
          intro same
          exact notAgain (List.mem_map.mpr ⟨other, isOther, same⟩)
        rw [if_pos rfl, noOther]
        cases read version <;> rfl
      case inr =>
        have isOther : first.id ≠ version.id := by
          intro same
          exact notAgain (List.mem_map.mpr ⟨version, later, same.symm⟩)
        rw [if_neg isOther]
        exact inductionHypothesis restDistinct later

/-- What the event of a changed version tells of a version. -/
theorem auditedChange_of_tells
    {db : Database}
    {version version' : WorkflowVersion}
    {told : AuditEventInput}
    {event : StoredAuditEvent}
    (tells : Tells told event)
    (toldChange : ToldChange db version version' told)
    (id : JsString) :
    auditedChange id event =
      if version.id = id then changeOf version version' else none := by
  rw [auditedChange, tells.primaryEntity, toldChange.primaryEntity,
    tells.eventType, AuditEventType.parse_text, Option.bind_some,
    toldChange.statusChange]
  have sameEntity :
      versionEntity version.id = versionEntity id ↔ version.id = id := by
    unfold versionEntity
    rw [AuditEntityRef.mk.injEq]
    exact and_iff_right rfl
  simp only [sameEntity]

theorem VersionChange.submitted_id
    {db : Database}
    {input : Transition}
    {version version' : WorkflowVersion}
    {told : AuditEventInput}
    (change :
      VersionChange deps db (.submitForTesting input) version version' told) :
    version.id = input.workflowVersionId ∧
      version'.id = version.id ∧ version'.revision = version.revision := by
  cases change with
  | submitted isVersion => exact ⟨isVersion, rfl, rfl⟩

theorem VersionChange.returned_id
    {db : Database}
    {input : Transition}
    {version version' : WorkflowVersion}
    {told : AuditEventInput}
    (change :
      VersionChange deps db (.returnToDraft input) version version' told) :
    version.id = input.workflowVersionId ∧
      version'.id = version.id ∧ version'.revision = version.revision := by
  cases change with
  | returned isVersion => exact ⟨isVersion, rfl, rfl⟩

/-- A call submits or returns one version. -/
theorem Changed.move_eq
    {db : Database}
    {call : Call}
    {change : WorkflowVersion → WorkflowVersion}
    {changed : List WorkflowVersion}
    {told : WorkflowVersion → AuditEventInput}
    (isChanged : Changed deps db call change changed told)
    {version other : WorkflowVersion}
    (listed : version ∈ changed)
    (listed' : other ∈ changed) :
    call.move version = call.move other := by
  have isChange := isChanged.isChange version listed
  have isChange' := isChanged.isChange other listed'
  cases call with
  | submitForTesting input =>
      rw [eq_of_key isChanged.distinct listed listed'
        (isChange.submitted_id.1.trans isChange'.submitted_id.1.symm)]
  | returnToDraft input =>
      rw [eq_of_key isChanged.distinct listed listed'
        (isChange.returned_id.1.trans isChange'.returned_id.1.symm)]
  | _ => rfl

theorem VersionChange.moveOf_eq
    {version version' : WorkflowVersion}
    {told : AuditEventInput}
    (change : VersionChange deps db call version version' told)
    (ran : call.transaction deps db = .ok (db', answer))
    (answered : answer.workflowVersion.row = version') :
    moveOf deps db (.call call) = call.move version := by
  cases call with
  | submitForTesting input =>
      obtain ⟨-, sameId, sameRevision⟩ := change.submitted_id
      rw [Call.transaction] at ran
      simp only [moveOf, ran, Call.move, answered, sameId, sameRevision]
  | returnToDraft input =>
      obtain ⟨-, sameId, sameRevision⟩ := change.returned_id
      rw [Call.transaction] at ran
      simp only [moveOf, ran, Call.move, answered, sameId, sameRevision]
  | _ => rfl

/-- What explains the sources goes on to, while the trail grows. -/
theorem TrailExplained.later
    {made made' : List Move}
    {event : Event}
    {added : List StoredAuditEvent}
    (explained : TrailExplained deps db made)
    (law : EventLaw deps db db' event)
    (more : made ⊆ made')
    (appended : db'.audit.events = db.audit.events ++ added)
    (addedExplained :
      ∀ stored ∈ added,
        ∃ kind : SourceKind,
          kind.sourceId deps.hasher = some stored.sourceId ∧
            Explained db' made' kind) :
    TrailExplained deps db' made' := by
  intro stored listed
  rw [appended] at listed
  rcases List.mem_append.mp listed with before | new
  · rcases explained stored before with ⟨kind, isSource, isExplained⟩ | foreign
    · exact Or.inl ⟨kind, isSource, isExplained.later law more⟩
    · exact Or.inr foreign
  · exact Or.inl (addedExplained stored new)

/-- The changed versions with an identifier, and what became of it. -/
theorem Changed.filterMap_changeOf
    {told : WorkflowVersion → AuditEventInput}
    (isChanged : Changed deps db call change changed told)
    (distinct : (db.versions.map WorkflowVersion.id).Nodup)
    (versions : db'.versions = db.versions.map change)
    (id : JsString) :
    (changed.filterMap fun other =>
        if other.id = id then changeOf other (change other) else none) =
      changeBetween db db' id := by
  unfold changeBetween
  rw [findVersion_map isChanged.keeps versions]
  cases found : db.findVersion id with
  | none =>
      rw [Option.map_none]
      dsimp only
      rw [List.filterMap_eq_nil_iff]
      intro other isListed
      refine if_neg ?_
      rintro rfl
      have isFound :=
        findUnique_of_mem distinct (isChanged.listed other isListed)
      rw [Database.findVersion, isFound] at found
      cases found
  | some version =>
      obtain ⟨listed, rfl⟩ := mem_of_findUnique found
      rw [Option.map_some]
      by_cases isChange : version ∈ changed
      case pos =>
        exact filterMap_of_id isChanged.distinct isChange fun other =>
          changeOf other (change other)
      case neg =>
        rw [List.filterMap_eq_nil_iff.mpr]
        · simp [isChanged.others version listed isChange, changeOf]
        · intro other isListed
          refine if_neg ?_
          intro sameId
          rw [eq_of_key distinct (isChanged.listed other isListed) listed
            sameId] at isListed
          exact isChange isListed

/-- The events of a call that changes versions. -/
theorem Changed.callTrail
    {told : WorkflowVersion → AuditEventInput}
    {made : List Move}
    {version : WorkflowVersion}
    (isChanged : Changed deps db call change changed told)
    (distinct : (db.versions.map WorkflowVersion.id).Nodup)
    (frame : SameFrame db db')
    (versions : db'.versions = db.versions.map change)
    (appended :
      appendAuditEvents deps db.audit (changed.map told) = .ok db'.audit)
    (about : version ∈ changed)
    (toldType : (told version).eventType = call.eventType)
    (answered : answer.workflowVersion.row = change version)
    (ran : call.transaction deps db = .ok (db', answer))
    (law : EventLaw deps db db' (.call call))
    (injective : Function.Injective deps.hasher.sha256Hex)
    (explained : TrailExplained deps db made)
    (once : (made ++ (moveOf deps db (.call call)).toList).Nodup) :
    ∃ added,
      CallTrail deps db db' call answer
        (made ++ (moveOf deps db (.call call)).toList) added := by
  have keeps := isChanged.keeps
  have isMove :
      ∀ other ∈ changed, call.move other = moveOf deps db (.call call) := by
    intro other listed
    rw [(isChanged.isChange version about).moveOf_eq ran answered]
    exact isChanged.move_eq listed about
  have notMade :
      ∀ other ∈ changed, ∀ move, call.move other = some move →
        move ∉ made := by
    intro other listed move isSome again
    rw [isMove other listed] at isSome
    rw [isSome, Option.toList_some] at once
    exact (List.nodup_append.mp once).2.2 move again move
      (List.mem_singleton_self _) rfl
  have different :
      (changed.map told).Pairwise fun first second =>
        ∀ sourceId,
          first.sourceId = some sourceId →
          second.sourceId ≠ some sourceId := by
    rw [List.pairwise_map]
    have distinctIds := List.pairwise_map.mp isChanged.distinct
    refine distinctIds.imp_of_mem ?_
    intro first second listed listed' otherId sourceId isFirst isSecond
    obtain ⟨kind, isKind⟩ := (isChanged.isChange first listed).source
    obtain ⟨kind', isKind'⟩ := (isChanged.isChange second listed').source
    rw [isKind.isSource] at isFirst
    rw [isKind'.isSource] at isSecond
    apply otherId
    rw [← isKind.isVersion, ← isKind'.isVersion,
      SourceKind.sourceId_injective injective isFirst isSecond]
  have areFree :
      ∀ input ∈ changed.map told, ∀ sourceId,
        input.sourceId = some sourceId → IsFree db.audit sourceId := by
    intro input listed sourceId isSource
    obtain ⟨other, isListed, rfl⟩ := List.mem_map.mp listed
    obtain ⟨kind, isKind⟩ := (isChanged.isChange other isListed).source
    rw [isKind.isSource] at isSource
    exact explained.isFree injective
      (isKind.unexplained distinct (isChanged.listed other isListed) made
        (notMade other isListed))
      isSource
  obtain ⟨added, isAdded, areTold⟩ :=
    appendAuditEvents_free different areFree appended
  have related := List.forall₂_map_left_iff.mp areTold
  obtain ⟨forth, back⟩ := exists_of_forall₂ related
  refine ⟨added, isAdded, ?_, ?_, ?_⟩
  case refine_1 =>
    refine explained.later law (List.subset_append_left _ _) isAdded ?_
    intro stored listed
    obtain ⟨other, isListed, tells⟩ := back stored listed
    obtain ⟨kind, isKind⟩ := (isChanged.isChange other isListed).source
    refine ⟨kind, by rw [← isKind.isSource, tells.sourceId], ?_⟩
    refine isKind.explained db' _ ?_ ?_
    · rw [versions]
      exact List.mem_map_of_mem (isChanged.listed other isListed)
    · intro move isSome
      rw [isMove other isListed] at isSome
      rw [isSome]
      exact List.mem_append_right _ (List.mem_singleton_self _)
  case refine_2 =>
    intro id workspaceId inWorkspace
    rw [List.filterMap_filter]
    have agree :
        ∀ other ∈ changed, ∀ stored,
          Tells (told other) stored →
          (if decide (stored.workspaceId = workspaceId) = true then
              auditedChange id stored
            else none) =
            if other.id = id then changeOf other (change other) else none := by
      intro other isListed stored tells
      have toldChange := (isChanged.isChange other isListed).toldChange
      rw [auditedChange_of_tells tells toldChange id]
      by_cases sameId : other.id = id
      case neg => simp [sameId]
      case pos =>
        have isListed' : change other ∈ db'.versions := by
          rw [versions]
          exact List.mem_map_of_mem (isChanged.listed other isListed)
        have isHere :=
          inWorkspace (change other) isListed' ((keeps.id other).trans sameId)
        rw [keeps.workflowId, frame.workspaceOf, toldChange.workspaceId]
          at isHere
        rw [if_pos
          (decide_eq_true (tells.workspaceId.trans (Option.some.inj isHere)))]
    rw [filterMap_of_forall₂ related agree]
    exact isChanged.filterMap_changeOf distinct versions id
  case refine_3 =>
    intro _
    obtain ⟨stored, listed, tells⟩ := forth version about
    have toldChange := (isChanged.isChange version about).toldChange
    refine ⟨stored, listed, ?_, ?_, ?_⟩
    · rw [tells.eventType, toldType]
    · rw [tells.primaryEntity, toldChange.primaryEntity, answered, keeps.id]
    · rw [answered, keeps.workflowId, frame.workspaceOf,
        toldChange.workspaceId, tells.workspaceId]

theorem CreatedFrom.callTrail
    {input : CreateDraftVersion}
    {answer : Answer}
    {created : WorkflowVersion}
    {told : AuditEventInput}
    {made : List Move}
    (isCreated : CreatedFrom deps db input created told)
    (frame : SameFrame db db')
    (versions : db'.versions = db.versions ++ [created])
    (appended : appendAuditEvents deps db.audit [told] = .ok db'.audit)
    (answered : answer.workflowVersion.row = created)
    (law : EventLaw deps db db' (.call (.createDraftVersion input)))
    (injective : Function.Injective deps.hasher.sha256Hex)
    (explained : TrailExplained deps db made) :
    ∃ added,
      CallTrail deps db db' (.createDraftVersion input) answer made added := by
  obtain ⟨isId, isWorkflow, -⟩ := isCreated.fields
  obtain ⟨workspaceId, createdAt, inWorkspace, isTold⟩ := isCreated.isTold
  have isSource :
      told.sourceId =
        (SourceKind.created created.id created.version
          input.clientCreationId).sourceId deps.hasher := by
    rw [isTold]
    rfl
  have unexplained :
      ¬Explained db made
        (.created created.id created.version input.clientCreationId) := by
    rintro ⟨row, listed, sameId⟩
    have idFree := isCreated.idFree
    rw [List.map_append, List.map_singleton] at idFree
    exact (List.nodup_append.mp idFree).2.2 row.id
      (List.mem_map_of_mem listed) created.id (List.mem_singleton_self _)
      sameId
  have areFree :
      ∀ other ∈ [told], ∀ sourceId,
        other.sourceId = some sourceId → IsFree db.audit sourceId := by
    intro other isOther sourceId isSome
    rw [List.mem_singleton.mp isOther, isSource] at isSome
    exact explained.isFree injective unexplained isSome
  obtain ⟨added, isAdded, areTold⟩ :=
    appendAuditEvents_free (List.pairwise_singleton _ _) areFree appended
  obtain ⟨stored, _, tells, isNil, rfl⟩ := List.forall₂_cons_left_iff.mp areTold
  rw [List.forall₂_nil_left_iff] at isNil
  subst isNil
  have isListed : created ∈ db'.versions := by
    rw [versions]
    exact List.mem_append_right _ (List.mem_singleton_self _)
  refine ⟨[stored], isAdded, ?_, ?_, ?_⟩
  case refine_1 =>
    refine explained.later law (List.Subset.refl _) isAdded ?_
    intro other isOther
    rw [List.mem_singleton.mp isOther]
    exact
      ⟨.created created.id created.version input.clientCreationId,
        by rw [← isSource, tells.sourceId], created, isListed, rfl⟩
  case refine_2 =>
    intro id wanted _
    rw [changeBetween_concat versions, List.filterMap_eq_nil_iff]
    intro other isOther
    rw [List.mem_singleton.mp (List.mem_filter.mp isOther).1, auditedChange,
      tells.eventType, isTold, AuditEventType.parse_text]
    split <;> rfl
  case refine_3 =>
    intro _
    refine ⟨stored, List.mem_singleton_self _, ?_, ?_, ?_⟩
    · rw [tells.eventType, isTold]
      rfl
    · rw [tells.primaryEntity, answered, isTold]
      rfl
    · rw [answered, isWorkflow, frame.workspaceOf, inWorkspace,
        tells.workspaceId, isTold]
      rfl

/-- A call that changes nothing says nothing. -/
theorem callTrail_unchanged
    {db : Database}
    {call : Call}
    {answer : Answer}
    {made : List Move}
    (again : answer.idempotent = true)
    (explained : TrailExplained deps db made) :
    CallTrail deps db db call answer made [] where
  appended := by simp
  explained := explained
  tells id workspaceId _ := by simp [changeBetween_self]
  names first := by
    rw [again] at first
    cases first

theorem Commits.callTrail
    {made : List Move}
    (commits : Commits deps db call db' answer)
    (ran : call.transaction deps db = .ok (db', answer))
    (distinct : (db.versions.map WorkflowVersion.id).Nodup)
    (injective : Function.Injective deps.hasher.sha256Hex)
    (explained : TrailExplained deps db made)
    (once : (made ++ (moveOf deps db (.call call)).toList).Nodup) :
    ∃ added,
      CallTrail deps db db' call answer
        (made ++ (moveOf deps db (.call call)).toList) added := by
  have law := commits.eventLaw
  cases commits with
  | changed isChanged frame versions appended about toldType answered first =>
      exact isChanged.callTrail distinct frame versions appended about toldType
        answered ran law injective explained once
  | @created input _ _ _ _ isCreated frame versions appended answered first =>
      have noMove :
          moveOf deps db (.call (.createDraftVersion input)) = none := rfl
      rw [noMove, Option.toList_none, List.append_nil]
      exact isCreated.callTrail frame versions appended answered law injective
        explained
  | @publishedBefore input _ again =>
      have noMove : moveOf deps db (.call (.publish input)) = none := rfl
      rw [noMove, Option.toList_none, List.append_nil]
      exact ⟨[], callTrail_unchanged again explained⟩
  | @createdBefore input _ _ found sameSource answered again =>
      have noMove :
          moveOf deps db (.call (.createDraftVersion input)) = none := rfl
      rw [noMove, Option.toList_none, List.append_nil]
      exact ⟨[], callTrail_unchanged again explained⟩

/-- No version is submitted, or returned, twice at one revision. -/
def MovesOnce
    (deps : Dependencies)
    (start : Database)
    (events : List Event) :
    Prop :=
  (moves deps start events).Nodup

/-- What the trail holds that other code has written before. -/
structure FirstTrail (deps : Dependencies) (start : Database) : Prop where
  foreign : ∀ event ∈ start.audit.events, Foreign deps.hasher event
  noChange :
    ∀ event ∈ start.audit.events, ∀ id, auditedChange id event = none

/-- Every change of a version can be read from the trail. -/
structure TrailLaw
    (deps : Dependencies)
    (start : Database)
    (events : List Event) :
    Prop where
  /-- An answer that is no repetition has appended an event that names it. -/
  appended :
    ∀ earlier call later db' answer,
      events = earlier ++ .call call :: later →
      call.transaction deps (performAll deps start earlier) =
        .ok (db', answer) →
      answer.idempotent = false →
      ∃ added,
        db'.audit.events =
            (performAll deps start earlier).audit.events ++ added ∧
          ∃ event ∈ added,
            event.eventType = js call.eventType.text ∧
              event.primaryEntity =
                versionEntity answer.workflowVersion.row.id ∧
              db'.workspaceOf answer.workflowVersion.row.workflowId =
                some event.workspaceId
  /-- The changes that the chain of a workspace tells of a version. -/
  history :
    ∀ version ∈ (performAll deps start events).versions, ∀ workspaceId,
      (performAll deps start events).workspaceOf version.workflowId =
        some workspaceId →
      ((performAll deps start events).audit.chain workspaceId).filterMap
          (auditedChange version.id) =
        statusChanges deps version.id start events

theorem moveOf_of_error
    {db : Database}
    {call : Call}
    {failure : Failure}
    (threw : call.transaction deps db = .error failure) :
    moveOf deps db (.call call) = none := by
  cases call with
  | submitForTesting input =>
      rw [Call.transaction] at threw
      simp only [moveOf, threw]
  | returnToDraft input =>
      rw [Call.transaction] at threw
      simp only [moveOf, threw]
  | _ => rfl

theorem perform_call
    {db db' : Database}
    {call : Call}
    {answer : Answer}
    (ran : call.transaction deps db = .ok (db', answer)) :
    perform deps db (.call call) = db' := by
  simp only [perform, transact_of_ok ran]

/-- What one event adds to the trail, and to what explains it. -/
theorem perform_trail
    {db : Database}
    {made : List Move}
    (event : Event)
    (distinct : (db.versions.map WorkflowVersion.id).Nodup)
    (injective : Function.Injective deps.hasher.sha256Hex)
    (explained : TrailExplained deps db made)
    (once : (made ++ (moveOf deps db event).toList).Nodup) :
    TrailExplained deps (perform deps db event)
        (made ++ (moveOf deps db event).toList) ∧
      ∃ added,
        (perform deps db event).audit.events = db.audit.events ++ added ∧
          ∀ id workspaceId,
            (∀ version ∈ (perform deps db event).versions,
              version.id = id →
              (perform deps db event).workspaceOf version.workflowId =
                some workspaceId) →
            (added.filter (·.workspaceId = workspaceId)).filterMap
                (auditedChange id) =
              changeBetween db (perform deps db event) id := by
  cases event with
  | configure settings =>
      have noMove : moveOf deps db (.configure settings) = none := rfl
      rw [noMove, Option.toList_none, List.append_nil]
      exact ⟨explained, [], by simp [perform],
        fun id _ _ => (changeBetween_self db id).symm⟩
  | call call =>
      cases ran : call.transaction deps db with
      | error failure =>
          have isNext : perform deps db (.call call) = db := by
            simp only [perform, transact_of_error ran]
          rw [moveOf_of_error ran, Option.toList_none, List.append_nil, isNext]
          exact ⟨explained, [], by simp,
            fun id _ _ => (changeBetween_self db id).symm⟩
      | ok done =>
          obtain ⟨db', answer⟩ := done
          obtain ⟨added, trail⟩ :=
            (transaction_commits distinct ran).callTrail ran distinct injective
              explained once
          rw [perform_call ran]
          exact ⟨trail.explained, added, trail.appended, trail.tells⟩

theorem perform_workspaceOf
    {db : Database}
    (distinct : (db.versions.map WorkflowVersion.id).Nodup)
    (event : Event) :
    (perform deps db event).workspaceOf = db.workspaceOf := by
  cases event with
  | configure settings => rfl
  | call call =>
      cases ran : call.transaction deps db with
      | error failure => simp only [perform, transact_of_error ran]
      | ok done =>
          obtain ⟨db', answer⟩ := done
          rw [perform_call ran]
          cases transaction_commits distinct ran with
          | changed isChanged frame => exact frame.workspaceOf
          | created isCreated frame => exact frame.workspaceOf
          | publishedBefore => rfl
          | createdBefore => rfl

/-- The trail after a run, told version by version. -/
theorem performAll_trail
    {start : Database}
    (consistent : Consistent start)
    (first : FirstTrail deps start)
    (injective : Function.Injective deps.hasher.sha256Hex)
    {events : List Event}
    (once : MovesOnce deps start events) :
    TrailExplained deps (performAll deps start events)
        (moves deps start events) ∧
      ∀ id workspaceId,
        (∀ version ∈ (performAll deps start events).versions,
          version.id = id →
          (performAll deps start events).workspaceOf version.workflowId =
            some workspaceId) →
        ((performAll deps start events).audit.chain workspaceId).filterMap
            (auditedChange id) =
          statusChanges deps id start events := by
  induction events using List.reverseRecOn with
  | nil =>
      constructor
      · intro event listed
        exact Or.inr (first.foreign event listed)
      · intro id workspaceId _
        rw [statusChanges, List.filterMap_eq_nil_iff]
        intro event listed
        exact first.noChange event (List.mem_filter.mp listed).1 id
  | append_singleton events event inductionHypothesis =>
      have isMoves :
          moves deps start (events ++ [event]) =
            moves deps start events ++
              (moveOf deps (performAll deps start events) event).toList := by
        rw [moves_append, moves, moves, List.append_nil]
      have isNext :
          performAll deps start (events ++ [event]) =
            perform deps (performAll deps start events) event :=
        performAll_append start events [event]
      rw [MovesOnce, isMoves] at once
      obtain ⟨explained, history⟩ :=
        inductionHypothesis (List.nodup_append.mp once).1
      have isConsistent :=
        @performAll_consistent deps start consistent events
      obtain ⟨explained', added, isAdded, tells⟩ :=
        perform_trail event isConsistent.ids injective explained once
      rw [isMoves, isNext]
      refine ⟨explained', ?_⟩
      intro id workspaceId inWorkspace
      have before :
          ∀ version ∈ (performAll deps start events).versions,
            version.id = id →
            (performAll deps start events).workspaceOf version.workflowId =
              some workspaceId := by
        intro version listed isId
        obtain ⟨version', listed', law⟩ :=
          (@perform_eventLaw deps _ isConsistent.ids event).kept version listed
        have isHere := inWorkspace version' listed' (law.sameId.trans isId)
        rwa [perform_workspaceOf isConsistent.ids, law.sameWorkflow] at isHere
      rw [AuditStore.chain, isAdded, List.filter_append, List.filterMap_append,
        tells id workspaceId inWorkspace, statusChanges_concat, isNext]
      exact congrArg (· ++ _) (history id workspaceId before)

/--
As long as no version is submitted or returned twice at one revision, every
answer that is no repetition is told by an event of its own, and the trail
tells every change of status.
-/
theorem performAll_trailLaw
    (deps : Dependencies)
    (start : Database)
    (firstDrafts : FirstDrafts start)
    (firstTrail : FirstTrail deps start)
    (injective : Function.Injective deps.hasher.sha256Hex)
    (events : List Event)
    (once : MovesOnce deps start events) :
    TrailLaw deps start events := by
  have consistent := @performAll_consistent deps start firstDrafts.consistent
  constructor
  case appended =>
    rintro earlier call later db' answer rfl ran first
    rw [MovesOnce, moves_append, moves, ← List.append_assoc] at once
    have onceCall := (List.nodup_append.mp once).1
    have onceEarlier := (List.nodup_append.mp onceCall).1
    obtain ⟨explained, -⟩ :=
      performAll_trail firstDrafts.consistent firstTrail injective onceEarlier
    obtain ⟨added, trail⟩ :=
      (transaction_commits (consistent earlier).ids ran).callTrail ran
        (consistent earlier).ids injective explained onceCall
    exact ⟨added, trail.appended, trail.names first⟩
  case history =>
    intro version listed workspaceId inWorkspace
    refine
      (performAll_trail firstDrafts.consistent firstTrail injective once).2
        version.id workspaceId ?_
    intro other listed' sameId
    rwa [eq_of_key (consistent events).ids listed' listed sameId]

theorem exampleStart_firstTrail (deps : Dependencies) :
    FirstTrail deps exampleStart where
  foreign event listed := by cases listed
  noChange event listed := by cases listed

/-- What is hashed for the submission of the example. -/
def exampleSourceText : JsString :=
  (serializeCanonicalJson
    (.array
      ([.text (js "workflow_version.submitted_for_testing"),
          .text exampleVersionId, .number 1].map
        SourcePart.toJs))).getD
    []

def examplePayloadText : JsString :=
  (serializeCanonicalJson
    (.object (versionPayload (moved .testing exampleDraft)))).getD
    []

def exampleDigit (digit : Char) : JsString := List.replicate 64 (unit digit)

def exampleEventText : JsString :=
  serialize
    (AuditHashContent.json
      { workspaceId := exampleWorkspaceId
        sequence := 1
        eventType := js "workflow_version.submitted_for_testing"
        actor := .user exampleActorId
        primaryEntity := versionEntity exampleVersionId
        relatedEntities := [workflowEntity (js "workflow")]
        occurredAt := exampleMoment.toISOString
        sourceId :=
          js "workflow_version_transition" ++ unit ':' :: exampleDigit '1'
        correlationId := none
        payloadDigest := exampleDigit '2'
        previousHash := genesisPreviousHash }
      exampleMoment.toISOString)

/-- Hashes that tell all texts apart. -/
def exampleDistinctHasher : AuditHasher where
  sha256Hex text :=
    Equiv.swap exampleSourceText (exampleDigit '1')
      (Equiv.swap examplePayloadText (exampleDigit '2')
        (Equiv.swap exampleEventText (exampleDigit '3') text))

theorem exampleDistinctHasher_injective :
    Function.Injective exampleDistinctHasher.sha256Hex :=
  (Equiv.injective _).comp ((Equiv.injective _).comp (Equiv.injective _))

def exampleDistinct : Dependencies :=
  { exampleDependencies with hasher := exampleDistinctHasher }

def exampleSubmission : List Event :=
  [.call (.submitForTesting exampleTransition)]

theorem exampleSubmission_moves :
    moves exampleDistinct exampleStart exampleSubmission =
      [{ transition := .submittedForTesting
         workflowVersionId := exampleVersionId
         revision := 1 }] := by
  decide +kernel

/-- A submission is told. -/
theorem exampleSubmission_trailLaw :
    TrailLaw exampleDistinct exampleStart exampleSubmission := by
  refine
    performAll_trailLaw exampleDistinct exampleStart exampleStart_firstDrafts
      (exampleStart_firstTrail _) exampleDistinctHasher_injective
      exampleSubmission ?_
  rw [MovesOnce, exampleSubmission_moves]
  exact List.nodup_singleton _

/-- Submitted, and returned at the same revision. -/
def exampleReturn : List Event :=
  [.call (.submitForTesting exampleTransition),
    .call (.returnToDraft exampleTransition)]

/-- An answer that is no repetition, and leaves the trail as it was. -/
def isSilent
    (db : Database)
    (outcome : Except Failure (Database × Answer)) :
    Bool :=
  match outcome with
  | .ok (db', answer) =>
      db'.audit.events.length == db.audit.events.length && !answer.idempotent
  | .error _ => false

/-- A run whose last answer is silent is not told. -/
theorem not_trailLaw_of_silent
    {start : Database}
    {events : List Event}
    {call : Call}
    (silent :
      isSilent (performAll deps start events)
          (call.transaction deps (performAll deps start events)) =
        true) :
    ¬TrailLaw deps start (events ++ [.call call]) := by
  intro law
  unfold isSilent at silent
  split at silent
  case h_1 db' answer ran =>
    rw [Bool.and_eq_true, beq_iff_eq, Bool.not_eq_true'] at silent
    obtain ⟨sameLength, notIdempotent⟩ := silent
    obtain ⟨added, isAdded, event, listed, -⟩ :=
      law.appended events call [] db' answer rfl ran notIdempotent
    rw [isAdded, List.length_append] at sameLength
    have isEmpty : added = [] := List.eq_nil_of_length_eq_zero (by omega)
    rw [isEmpty] at listed
    cases listed
  case h_2 failure threw => cases silent

theorem exampleReturn_silent :
    isSilent (performAll exampleDependencies exampleStart exampleReturn)
        ((Call.submitForTesting exampleTransition).transaction
          exampleDependencies
          (performAll exampleDependencies exampleStart exampleReturn)) =
      true := by
  decide +kernel

/-- The second submission at one revision is told by no event. -/
theorem submitForTesting_again_silent :
    ¬∀ events, TrailLaw exampleDependencies exampleStart events := by
  intro law
  exact not_trailLaw_of_silent exampleReturn_silent (law _)

end TaskTwin.Lifecycle
