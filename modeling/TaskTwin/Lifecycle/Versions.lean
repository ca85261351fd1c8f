import TaskTwin.Audit.Replay
import TaskTwin.Lifecycle.Changes

/-!
# The versions of a workflow over whole runs

In every run from first drafts, one version of a workflow is published at
most, and numbers and definitions agree.
-/

namespace TaskTwin.Lifecycle

open Text Schema Store Audit TaskTwin.Workflow

/-- Workflows with their first drafts, as conversions store them. -/
structure FirstDrafts (db : Database) : Prop where
  ids : (db.versions.map WorkflowVersion.id).Nodup
  one :
    ∀ version ∈ db.versions, ∀ other ∈ db.versions,
      version.workflowId = other.workflowId → version = other
  version : ∀ version ∈ db.versions, version.version = 1
  revision : ∀ version ∈ db.versions, version.revision = 1
  status : ∀ version ∈ db.versions, version.status = .draft
  stored : ∀ version ∈ db.versions, version.definition.version = 1

structure Consistent (db : Database) : Prop where
  ids : (db.versions.map WorkflowVersion.id).Nodup
  onePublished :
    ∀ version ∈ db.versions, ∀ other ∈ db.versions,
      version.workflowId = other.workflowId →
      version.status = .published →
      other.status = .published →
      version = other
  numbers :
    ∀ version ∈ db.versions, ∀ other ∈ db.versions,
      version.workflowId = other.workflowId →
      version.version = other.version →
      version = other
  stored :
    ∀ version ∈ db.versions, version.definition.version = version.version
  creations :
    ∀ version ∈ db.versions, ∀ other ∈ db.versions,
      version.workflowId = other.workflowId →
      version.clientCreationId = other.clientCreationId →
      version.clientCreationId ≠ none →
      version = other

theorem FirstDrafts.consistent
    {db : Database}
    (first : FirstDrafts db) :
    Consistent db where
  ids := first.ids
  onePublished version listed other listed' same _ _ :=
    first.one version listed other listed' same
  numbers version listed other listed' same _ :=
    first.one version listed other listed' same
  stored version listed :=
    (first.stored version listed).trans (first.version version listed).symm
  creations version listed other listed' same _ _ :=
    first.one version listed other listed' same

variable {deps : Dependencies}

variable {db : Database}

variable {db db' : Database} {call : Call}

theorem VersionChange.stored
    {version version' : WorkflowVersion}
    {told : AuditEventInput}
    (change : VersionChange deps db call version version' told)
    (stored : version.definition.version = version.version) :
    version'.definition.version = version'.version := by
  cases change with
  | edited isVersion inWorkspace isDraft named parsed sameVersion =>
      exact sameVersion
  | submitted => exact stored
  | returned => exact stored
  | published => exact stored
  | replaced => exact stored
  | archived => exact stored

/-- Rows that a change makes the same were the same before it. -/
theorem Changed.consistent
    {change : WorkflowVersion → WorkflowVersion}
    {changed : List WorkflowVersion}
    {told : WorkflowVersion → AuditEventInput}
    (isChanged : Changed deps db call change changed told)
    (versions : db'.versions = db.versions.map change)
    (consistent : Consistent db) :
    Consistent db' := by
  have keeps := isChanged.keeps
  have isOne :
      ∀ version ∈ db'.versions,
        ∃ before ∈ db.versions, version = change before := by
    intro version listed
    rw [versions] at listed
    obtain ⟨before, isBefore, rfl⟩ := List.mem_map.mp listed
    exact ⟨before, isBefore, rfl⟩
  constructor
  case ids =>
    rw [versions]
    exact nodup_map_of_keeps keeps.id consistent.ids
  case onePublished =>
    intro _ listedAfter _ listedAfter' sameWorkflow isPublished isPublished'
    obtain ⟨version, listed, rfl⟩ := isOne _ listedAfter
    obtain ⟨other, listed', rfl⟩ := isOne _ listedAfter'
    rw [keeps.workflowId, keeps.workflowId] at sameWorkflow
    by_cases before : version.status = .published
    case neg =>
      rw [isChanged.replaces version listed before isPublished other listed'
        sameWorkflow.symm isPublished']
    case pos =>
      by_cases before' : other.status = .published
      case neg =>
        rw [isChanged.replaces other listed' before' isPublished' version
          listed sameWorkflow isPublished]
      case pos =>
        rw [consistent.onePublished version listed other listed' sameWorkflow
          before before']
  case numbers =>
    intro _ listedAfter _ listedAfter' sameWorkflow sameNumber
    obtain ⟨version, listed, rfl⟩ := isOne _ listedAfter
    obtain ⟨other, listed', rfl⟩ := isOne _ listedAfter'
    rw [keeps.workflowId, keeps.workflowId] at sameWorkflow
    rw [keeps.version, keeps.version] at sameNumber
    rw [consistent.numbers version listed other listed' sameWorkflow
      sameNumber]
  case stored =>
    intro _ listedAfter
    obtain ⟨version, listed, rfl⟩ := isOne _ listedAfter
    have stored := consistent.stored version listed
    by_cases isChange : version ∈ changed
    · exact (isChanged.isChange version isChange).stored stored
    · rwa [isChanged.others version listed isChange]
  case creations =>
    intro _ listedAfter _ listedAfter' sameWorkflow sameCreation isCreation
    obtain ⟨version, listed, rfl⟩ := isOne _ listedAfter
    obtain ⟨other, listed', rfl⟩ := isOne _ listedAfter'
    rw [keeps.workflowId, keeps.workflowId] at sameWorkflow
    rw [keeps.clientCreationId, keeps.clientCreationId] at sameCreation
    rw [keeps.clientCreationId] at isCreation
    rw [consistent.creations version listed other listed' sameWorkflow
      sameCreation isCreation]

theorem version_le_highestVersion
    {version : WorkflowVersion}
    (listed : version ∈ db.versions) :
    version.version ≤ highestVersion db version.workflowId := by
  have foldBound :
      ∀ (versions : List WorkflowVersion) (highest : Nat),
        highest ≤
            versions.foldl (fun highest row => max highest row.version)
              highest ∧
          ∀ row ∈ versions,
            row.version ≤
              versions.foldl (fun highest row => max highest row.version)
                highest := by
    intro versions
    induction versions with
    | nil => simp
    | cons first rest inductionHypothesis =>
        intro highest
        obtain ⟨fromHighest, fromRest⟩ :=
          inductionHypothesis (max highest first.version)
        refine ⟨(le_max_left _ _).trans fromHighest, ?_⟩
        intro row isRow
        rcases List.mem_cons.mp isRow with rfl | inRest
        · exact (le_max_right _ _).trans fromHighest
        · exact fromRest row inRest
  exact (foldBound _ 0).2 version
    (List.mem_filter.mpr ⟨listed, decide_eq_true rfl⟩)

/-- What is known of a version that was stored. -/
theorem CreatedFrom.fields
    {input : CreateDraftVersion}
    {created : WorkflowVersion}
    {told : AuditEventInput}
    (isCreated : CreatedFrom deps db input created told) :
    created.id = input.newId ∧
      created.workflowId = input.workflowId ∧
      created.clientCreationId = some input.clientCreationId ∧
      created.createdFromVersionId = some input.sourceVersionId ∧
      created.status = .draft ∧
      created.revision = 1 ∧
      created.definition.version = created.version := by
  obtain ⟨definition, createdAt, rfl⟩ := isCreated.isRow
  exact ⟨rfl, rfl, rfl, rfl, rfl, rfl, rfl⟩

theorem CreatedFrom.consistent
    {input : CreateDraftVersion}
    {created : WorkflowVersion}
    {told : AuditEventInput}
    (isCreated : CreatedFrom deps db input created told)
    (versions : db'.versions = db.versions ++ [created])
    (consistent : Consistent db) :
    Consistent db' := by
  obtain ⟨-, isWorkflow, isCreation, -, isDraft, -, isStored⟩ :=
    isCreated.fields
  have isEither :
      ∀ version ∈ db'.versions, version ∈ db.versions ∨ version = created := by
    intro version listed
    simpa [versions] using listed
  have newNumber :
      ∀ version ∈ db.versions, version.workflowId = created.workflowId →
        version.version < created.version := by
    intro version listed sameWorkflow
    have bound := version_le_highestVersion listed
    rw [isCreated.isNext, ← isWorkflow, ← sameWorkflow]
    exact Nat.lt_succ_of_le bound
  have newCreation :
      ∀ version ∈ db.versions, version.workflowId = created.workflowId →
        version.clientCreationId ≠ created.clientCreationId := by
    intro version listed sameWorkflow sameCreation
    have notFound := List.find?_eq_none.mp isCreated.isNew version listed
    rw [isWorkflow] at sameWorkflow
    rw [isCreation] at sameCreation
    exact notFound (decide_eq_true ⟨sameWorkflow, sameCreation⟩)
  constructor
  case ids =>
    rw [versions]
    exact isCreated.idFree
  case onePublished =>
    intro version listed other listed' sameWorkflow isPublished isPublished'
    rcases isEither version listed with before | rfl
    case inr =>
      rw [isDraft] at isPublished
      cases isPublished
    case inl =>
      rcases isEither other listed' with before' | rfl
      case inr =>
        rw [isDraft] at isPublished'
        cases isPublished'
      case inl =>
        exact consistent.onePublished version before other before' sameWorkflow
          isPublished isPublished'
  case numbers =>
    intro version listed other listed' sameWorkflow sameNumber
    rcases isEither version listed with before | rfl
    case inl =>
      rcases isEither other listed' with before' | rfl
      case inl =>
        exact consistent.numbers version before other before' sameWorkflow
          sameNumber
      case inr => exact absurd sameNumber (newNumber _ before sameWorkflow).ne
    case inr =>
      rcases isEither other listed' with before' | rfl
      case inl =>
        exact absurd sameNumber (newNumber _ before' sameWorkflow.symm).ne'
      case inr => rfl
  case stored =>
    intro version listed
    rcases isEither version listed with before | rfl
    · exact consistent.stored version before
    · exact isStored
  case creations =>
    intro version listed other listed' sameWorkflow sameCreation isSome
    rcases isEither version listed with before | rfl
    case inl =>
      rcases isEither other listed' with before' | rfl
      case inl =>
        exact consistent.creations version before other before' sameWorkflow
          sameCreation isSome
      case inr =>
        exact absurd sameCreation (newCreation _ before sameWorkflow)
    case inr =>
      rcases isEither other listed' with before' | rfl
      case inl =>
        exact absurd sameCreation.symm
          (newCreation _ before' sameWorkflow.symm)
      case inr => rfl

theorem Commits.consistent
    {answer : Answer}
    (commits : Commits deps db call db' answer)
    (consistent : Consistent db) :
    Consistent db' := by
  cases commits with
  | changed isChanged frame versions => exact isChanged.consistent versions consistent
  | created isCreated frame versions => exact isCreated.consistent versions consistent
  | publishedBefore => exact consistent
  | createdBefore => exact consistent

/-- What an event does to a database. -/
theorem perform_cases
    (distinct : (db.versions.map WorkflowVersion.id).Nodup)
    (event : Event) :
    (perform deps db event).versions = db.versions ∧
        (perform deps db event).audit = db.audit ∨
      ∃ call answer,
        event = .call call ∧
          call.transaction deps db = .ok (perform deps db event, answer) ∧
          Commits deps db call (perform deps db event) answer := by
  cases event with
  | configure settings => exact Or.inl ⟨rfl, rfl⟩
  | call call =>
      cases ran : call.transaction deps db with
      | error failure =>
          left
          simp [perform, transact_of_error ran]
      | ok done =>
          obtain ⟨db', answer⟩ := done
          have isNext : perform deps db (.call call) = db' := by
            simp [perform, transact_of_ok ran]
          right
          rw [isNext]
          exact ⟨call, answer, rfl, ran, transaction_commits distinct ran⟩

theorem Consistent.ofVersions
    (consistent : Consistent db)
    (versions : db'.versions = db.versions) :
    Consistent db' := by
  constructor
  all_goals rw [versions]
  case ids => exact consistent.ids
  case onePublished => exact consistent.onePublished
  case numbers => exact consistent.numbers
  case stored => exact consistent.stored
  case creations => exact consistent.creations

theorem perform_consistent
    (consistent : Consistent db)
    (event : Event) :
    Consistent (perform deps db event) := by
  rcases perform_cases consistent.ids event with
    ⟨versions, -⟩ | ⟨call, answer, -, -, commits⟩
  · exact consistent.ofVersions versions
  · exact commits.consistent consistent

theorem performAll_consistent
    (consistent : Consistent db)
    (events : List Event) :
    Consistent (performAll deps db events) := by
  induction events generalizing db with
  | nil => exact consistent
  | cons event events inductionHypothesis =>
      exact inductionHypothesis (perform_consistent consistent event)

end TaskTwin.Lifecycle

/-!
## The sources of the events of versions
-/

namespace TaskTwin.Lifecycle

open Text Schema Store Audit TaskTwin.Workflow

/-- What a source is made for. -/
inductive SourceKind where
  | moved
      (transition : TestingTransition)
      (workflowVersionId : JsString)
      (revision : Nat)
  | created
      (workflowVersionId : JsString)
      (version : Nat)
      (clientCreationId : JsString)
  | published (workflowVersionId : JsString) (revision : Nat)
  | archived
      (workflowVersionId : JsString)
      (revision : Nat)
      (reason : ArchiveReason)
  | edited (workflowVersionId : JsString) (revision : Nat)

def SourceKind.versionId : SourceKind → JsString
  | .moved _ workflowVersionId _ => workflowVersionId
  | .created workflowVersionId _ _ => workflowVersionId
  | .published workflowVersionId _ => workflowVersionId
  | .archived workflowVersionId _ _ => workflowVersionId
  | .edited workflowVersionId _ => workflowVersionId

/-- The identifier of a source, as its builder makes it. -/
def SourceKind.sourceId (hasher : AuditHasher) : SourceKind → Option JsString
  | .moved transition workflowVersionId revision =>
      buildTransitionSourceId hasher transition workflowVersionId revision
  | .created workflowVersionId version clientCreationId =>
      buildDraftCreatedSourceId hasher workflowVersionId version
        clientCreationId
  | .published workflowVersionId revision =>
      buildPublishedSourceId hasher workflowVersionId revision
  | .archived workflowVersionId revision reason =>
      buildArchivedSourceId hasher workflowVersionId revision reason
  | .edited workflowVersionId revision =>
      buildDraftUpdatedSourceId hasher workflowVersionId revision

/-- The parts of a source. -/
def SourceKind.parts : SourceKind → List SourcePart
  | .moved transition workflowVersionId revision =>
      [.text (js transition.eventType.text), .text workflowVersionId,
        .number revision]
  | .created workflowVersionId version clientCreationId =>
      [.text workflowVersionId, .number version, .text clientCreationId]
  | .published workflowVersionId revision =>
      [.text workflowVersionId, .number revision]
  | .archived workflowVersionId revision reason =>
      [.text workflowVersionId, .number revision, .text (js reason.text)]
  | .edited workflowVersionId revision =>
      [.text workflowVersionId, .number revision]

/-- The namespaces of sources. -/
inductive SourceFamily where
  | moved
  | created
  | published
  | archived
  | edited
  deriving DecidableEq

def SourceFamily.name : SourceFamily → String
  | .moved => "workflow_version_transition"
  | .created => "workflow_version_created"
  | .published => "workflow_version_published"
  | .archived => "workflow_version_archived"
  | .edited => "workflow_draft_updated"

def SourceKind.family : SourceKind → SourceFamily
  | .moved .. => .moved
  | .created .. => .created
  | .published .. => .published
  | .archived .. => .archived
  | .edited .. => .edited

theorem SourceKind.sourceId_eq (hasher : AuditHasher) (kind : SourceKind) :
    kind.sourceId hasher =
      createAuditSourceId hasher kind.family.name kind.parts := by
  cases kind <;> rfl

theorem SourceFamily.noColon (family : SourceFamily) :
    (js family.name).all (fun symbol => symbol ≠ unit ':') = true := by
  cases family <;> decide +kernel

theorem SourceFamily.name_injective
    {first second : SourceFamily}
    (same : js first.name = js second.name) :
    first = second := by
  revert same
  cases first <;> cases second <;> decide +kernel

theorem TestingTransition.eventType_injective
    {first second : TestingTransition}
    (same : js first.eventType.text = js second.eventType.text) :
    first = second := by
  revert same
  cases first <;> cases second <;> decide +kernel

theorem ArchiveReason.text_injective
    {first second : ArchiveReason}
    (same : js first.text = js second.text) :
    first = second := by
  revert same
  cases first <;> cases second <;> decide +kernel

/-- Kinds of one family with the same parts are the same. -/
theorem SourceKind.parts_injective
    {first second : SourceKind}
    (sameFamily : first.family = second.family)
    (sameParts : first.parts = second.parts) :
    first = second := by
  cases first <;> cases second <;>
    simp only [SourceKind.family, reduceCtorEq] at sameFamily <;>
    simp only [SourceKind.parts, List.cons.injEq, SourcePart.text.injEq,
      SourcePart.number.injEq, and_true] at sameParts
  case moved.moved =>
    obtain ⟨sameType, rfl, rfl⟩ := sameParts
    rw [TestingTransition.eventType_injective sameType]
  case created.created =>
    obtain ⟨rfl, rfl, rfl⟩ := sameParts
    rfl
  case published.published =>
    obtain ⟨rfl, rfl⟩ := sameParts
    rfl
  case archived.archived =>
    obtain ⟨rfl, rfl, sameReason⟩ := sameParts
    rw [ArchiveReason.text_injective sameReason]
  case edited.edited =>
    obtain ⟨rfl, rfl⟩ := sameParts
    rfl

/-- Where hashes are told apart, a source is made for one thing only. -/
theorem SourceKind.sourceId_injective
    {hasher : AuditHasher}
    (injective : Function.Injective hasher.sha256Hex)
    {first second : SourceKind}
    {sourceId : JsString}
    (isFirst : first.sourceId hasher = some sourceId)
    (isSecond : second.sourceId hasher = some sourceId) :
    first = second := by
  rw [SourceKind.sourceId_eq] at isFirst isSecond
  have sameName :=
    (createAuditSourceId_namespace first.family.noColon isFirst).symm.trans
      (createAuditSourceId_namespace second.family.noColon isSecond)
  have sameFamily := SourceFamily.name_injective sameName
  rw [sameFamily] at isFirst
  exact SourceKind.parts_injective sameFamily
    (createAuditSourceId_injective injective isFirst isSecond)

variable {deps : Dependencies}

theorem appendAuditEventTransactional_eq_ok
    {audit audit' : AuditStore}
    {input : AuditEventInput}
    (appended : appendAuditEventTransactional deps audit input = .ok audit') :
    ∃ result,
      appendAuditEvent deps.parseOther deps.hasher audit
          { row := deps.newRow audit, input := input.toJs } =
        (audit', .ok result) := by
  unfold appendAuditEventTransactional at appended
  split at appended
  case h_1 store result answered =>
    rw [← Except.ok.inj appended]
    exact ⟨result, answered⟩
  case h_2 store error refused => cases appended

/-- Events whose sources are free and different are all appended. -/
theorem appendAuditEvents_free
    {audit audit' : AuditStore}
    {inputs : List AuditEventInput}
    (different :
      inputs.Pairwise fun first second =>
        ∀ sourceId,
          first.sourceId = some sourceId → second.sourceId ≠ some sourceId)
    (areFree :
      ∀ input ∈ inputs, ∀ sourceId,
        input.sourceId = some sourceId → IsFree audit sourceId)
    (appended : appendAuditEvents deps audit inputs = .ok audit') :
    ∃ added,
      audit'.events = audit.events ++ added ∧
        List.Forall₂ Tells inputs added := by
  induction inputs generalizing audit with
  | nil =>
      rw [appendAuditEvents, List.foldlM_nil] at appended
      rw [← Except.ok.inj appended]
      exact ⟨[], by simp, .nil⟩
  | cons input inputs inductionHypothesis =>
      rw [appendAuditEvents, List.foldlM_cons] at appended
      obtain ⟨next, isNext, appended⟩ := bind_eq_ok.mp appended
      obtain ⟨result, answered⟩ :=
        appendAuditEventTransactional_eq_ok isNext
      obtain ⟨event, isEvents, tells⟩ :=
        appended_of_free (areFree input List.mem_cons_self) answered
      obtain ⟨different, others⟩ := List.pairwise_cons.mp different
      have areFree' :
          ∀ other ∈ inputs, ∀ sourceId,
            other.sourceId = some sourceId → IsFree next sourceId := by
        intro other isOther sourceId isSource stored listed
        rw [isEvents] at listed
        rcases List.mem_append.mp listed with earlier | isLast
        · exact areFree other (List.mem_cons_of_mem _ isOther) sourceId isSource
            stored earlier
        · rw [List.mem_singleton.mp isLast]
          rintro rfl
          exact different other isOther event.sourceId tells.sourceId isSource
      obtain ⟨added, isAdded, areTold⟩ :=
        inductionHypothesis others areFree' appended
      refine ⟨event :: added, ?_, .cons tells areTold⟩
      rw [isAdded, isEvents, List.append_assoc]
      rfl

end TaskTwin.Lifecycle
