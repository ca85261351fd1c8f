import TaskTwin.Effect.Program
import TaskTwin.SecureInputs.Checks

/-!
# Reachable databases

Every preparation stays backed by the rows that it was checked against, and
exactly the consumed ones have an envelope and a run, whatever others do.
-/

namespace TaskTwin.SecureInputs

open Text Schema Store Workflow Engine Effect

/-- Published and archived versions keep their definition. -/
def WorkflowVersion.IsSettled (version : WorkflowVersion) : Prop :=
  version.status = .published ∨ version.status = .archived

/-- What a version may become. -/
structure WorkflowVersion.Becomes (version version' : WorkflowVersion) :
    Prop where
  workflowId : version'.workflowId = version.workflowId
  workspaceId : version'.workspaceId = version.workspaceId
  number : version'.version = version.version
  schemaVersion : version'.schemaVersion = version.schemaVersion
  settled :
    version.IsSettled →
      version'.IsSettled ∧ version'.definition = version.definition

/-- Rows are not deleted, and what identifies them does not change. -/
structure KeepsRows (db db' : Database) : Prop where
  versions :
    ∀ id version,
      db.findVersion id = some version →
        ∃ version',
          db'.findVersion id = some version' ∧ version.Becomes version'
  runners :
    ∀ id runner,
      db.findRunner id = some runner →
        ∃ runner',
          db'.findRunner id = some runner' ∧
            runner'.workspaceId = runner.workspaceId
  keys :
    ∀ id key,
      db.findKey id = some key →
        ∃ key', db'.findKey id = some key' ∧ key'.metadata = key.metadata

/-- The definitions of versions are written after they were parsed. -/
def Database.IsWritten (deps : Dependencies) (db : Database) : Prop :=
  ∀ version ∈ db.versions,
    ∃ value workflow,
      deps.schema.safeParse value = some workflow ∧
        version.definition = deps.schema.written workflow

/-- What others change; memberships, policies and audit events as they like. -/
structure Changes (deps : Dependencies) (db db' : Database) : Prop
    extends KeepsRows db db' where
  written : db'.IsWritten deps
  distinctKeys : (db'.keys.map RunnerEncryptionKey.id).Nodup
  samePreparations : db'.preparations = db.preparations
  sameEnvelopes : db'.envelopes = db.envelopes
  runs :
    ∃ others,
      db'.runs = db.runs ++ others ∧
        -- `randomUUID` does not return an identifier twice
        ∀ run ∈ others,
          ∀ preparation ∈ db.preparations,
            run.id ≠ preparation.reservedRunId
  distinctRuns : AreUnique WorkflowRun.conflicts db'.runs

/-- A call of one of the methods, or a change that others make. -/
inductive Step (deps : Dependencies) : Database → Database → Prop where
  | prepare
      {db db' : Database}
      (input : PrepareInput)
      (result : RunInputPreparationResult)
      (isNew : ∀ run ∈ db.runs, run.id ≠ input.newWorkflowRunId)
      (prepared : prepare deps input db = .ok (db', result)) :
      Step deps db db'
  | commit
      {db db' : Database}
      (input : CommitInput)
      (result : RunInputCommitResult)
      (committed : commit deps input db = .ok (db', result)) :
      Step deps db db'
  | change
      {db db' : Database}
      (changes : Changes deps db db') :
      Step deps db db'

/-- Nothing is prepared yet. -/
structure IsInitial (deps : Dependencies) (db : Database) : Prop where
  noPreparations : db.preparations = []
  noEnvelopes : db.envelopes = []
  distinctRuns : AreUnique WorkflowRun.conflicts db.runs
  distinctKeys : (db.keys.map RunnerEncryptionKey.id).Nodup
  written : db.IsWritten deps

/-- The databases that calls and changes lead to. -/
abbrev Reaches (deps : Dependencies) : Database → Prop :=
  Reachable (IsInitial deps) (Step deps)

/-- The rows that a preparation was checked against, as they are now. -/
structure Backs
    (deps : Dependencies)
    (db : Database)
    (preparation : WorkflowRunInputPreparation)
    (version : WorkflowVersion)
    (workflow : WorkflowDefinition)
    (readiness : WorkflowRunReadinessReport)
    (runner : RunnerDevice)
    (key : RunnerEncryptionKey) :
    Prop where
  isVersion : db.findVersion preparation.workflowVersionId = some version
  sameWorkspace : version.workspaceId = preparation.workspaceId
  isSettled : version.IsSettled
  isParsed : deps.schema.safeParse version.definition = some workflow
  schemaVersion : version.schemaVersion = 1
  sameWorkflow : js workflow.workflowId.text = version.workflowId
  sameVersion : workflow.version = version.version
  definesPublished : workflow.status = .published
  isAnalyzed :
    analyzeWorkflowRunReadiness deps.parser (some workflow) = some readiness
  allLifted : ∀ issue ∈ readiness.issues, isLiftedIssue issue = true
  sameOrigins : preparation.allowedOrigins = readiness.allowedOrigins
  sameDigest : preparation.definitionDigest = deps.definitionDigest workflow
  isRunner : db.findRunner preparation.runnerDeviceId = some runner
  runnerWorkspace : runner.workspaceId = preparation.workspaceId
  isKey : db.findKey preparation.runnerEncryptionKeyId = some key
  sameKey : preparation.aad.keyId = key.keyId
  aadParsed : preparation.aad.parse deps.parser = some preparation.aad
  aadPreparation : preparation.aad.preparationId = preparation.id
  aadRun : preparation.aad.workflowRunId = preparation.reservedRunId
  aadExpiry : isoText preparation.expiresAt = some preparation.aad.expiresAt

def IsBacked
    (deps : Dependencies)
    (db : Database)
    (preparation : WorkflowRunInputPreparation) :
    Prop :=
  ∃ version workflow readiness runner key,
    Backs deps db preparation version workflow readiness runner key

/-- The envelope and the run of a preparation that is consumed. -/
structure IsDelivery
    (preparation : WorkflowRunInputPreparation)
    (row : WorkflowRunInputEnvelope)
    (run : WorkflowRun) :
    Prop where
  preparationId : row.preparationId = preparation.id
  workflowRunId : row.workflowRunId = preparation.reservedRunId
  runId : run.id = preparation.reservedRunId
  workspaceId : run.workspaceId = preparation.workspaceId
  clientRunId : run.clientRunId = preparation.clientRunId
  workflowVersionId : run.workflowVersionId = preparation.workflowVersionId
  runnerDeviceId : run.runnerDeviceId = preparation.runnerDeviceId
  authenticates :
    row.envelope.aad = base64UrlText (encodeRunInputAad preparation.aad)

structure Sound (deps : Dependencies) (db : Database) : Prop where
  distinctPreparations :
    AreUnique WorkflowRunInputPreparation.conflicts db.preparations
  distinctEnvelopes :
    AreUnique WorkflowRunInputEnvelope.conflicts db.envelopes
  distinctRuns : AreUnique WorkflowRun.conflicts db.runs
  distinctKeys : (db.keys.map RunnerEncryptionKey.id).Nodup
  written : db.IsWritten deps
  backed : ∀ preparation ∈ db.preparations, IsBacked deps db preparation
  delivered :
    ∀ preparation ∈ db.preparations,
      preparation.status = .consumed →
        ∃ row ∈ db.envelopes,
          ∃ run ∈ db.runs, IsDelivery preparation row run
  prepared :
    ∀ row ∈ db.envelopes,
      ∃ preparation ∈ db.preparations,
        preparation.status = .consumed ∧ row.preparationId = preparation.id ∧
          row.workflowRunId = preparation.reservedRunId
  reserved :
    ∀ preparation ∈ db.preparations,
      preparation.status = .pending →
        ∀ run ∈ db.runs, run.id ≠ preparation.reservedRunId

variable {deps : Dependencies} {db db' : Database}

theorem IsInitial.sound (isInitial : IsInitial deps db) : Sound deps db where
  distinctPreparations := by simp [AreUnique, isInitial.noPreparations]
  distinctEnvelopes := by simp [AreUnique, isInitial.noEnvelopes]
  distinctRuns := isInitial.distinctRuns
  distinctKeys := isInitial.distinctKeys
  written := isInitial.written
  backed := by simp [isInitial.noPreparations]
  delivered := by simp [isInitial.noPreparations]
  prepared := by simp [isInitial.noEnvelopes]
  reserved := by simp [isInitial.noPreparations]

theorem WorkflowVersion.Becomes.refl (version : WorkflowVersion) :
    version.Becomes version :=
  ⟨rfl, rfl, rfl, rfl, fun settled => ⟨settled, rfl⟩⟩

/-- Rows that are not touched are kept. -/
theorem KeepsRows.of_same
    (sameVersions : db'.versions = db.versions)
    (sameRunners : db'.runners = db.runners)
    (sameKeys : db'.keys = db.keys) :
    KeepsRows db db' where
  versions id version found :=
    ⟨version, by rwa [Database.findVersion, sameVersions],
      WorkflowVersion.Becomes.refl version⟩
  runners id runner found :=
    ⟨runner, by rwa [Database.findRunner, sameRunners], rfl⟩
  keys id key found := ⟨key, by rwa [Database.findKey, sameKeys], rfl⟩

theorem IsBacked.kept
    {preparation : WorkflowRunInputPreparation}
    (isBacked : IsBacked deps db preparation)
    (keeps : KeepsRows db db') :
    IsBacked deps db' preparation := by
  obtain ⟨version, workflow, readiness, runner, key, backs⟩ := isBacked
  obtain ⟨version', isVersion', becomes⟩ :=
    keeps.versions _ version backs.isVersion
  obtain ⟨runner', isRunner', sameWorkspace'⟩ :=
    keeps.runners _ runner backs.isRunner
  obtain ⟨key', isKey', sameKey'⟩ := keeps.keys _ key backs.isKey
  obtain ⟨isSettled', sameDefinition⟩ := becomes.settled backs.isSettled
  have sameKeyId : key'.keyId = key.keyId :=
    congrArg RunnerPublicKeyMetadata.keyId sameKey'
  exact ⟨version', workflow, readiness, runner', key',
    { backs with
      isVersion := isVersion'
      sameWorkspace := becomes.workspaceId.trans backs.sameWorkspace
      isSettled := isSettled'
      isParsed := by rw [sameDefinition, backs.isParsed]
      schemaVersion := becomes.schemaVersion.trans backs.schemaVersion
      sameWorkflow := backs.sameWorkflow.trans becomes.workflowId.symm
      sameVersion := backs.sameVersion.trans becomes.number.symm
      isRunner := isRunner'
      runnerWorkspace := sameWorkspace'.trans backs.runnerWorkspace
      isKey := isKey'
      sameKey := backs.sameKey.trans sameKeyId.symm }⟩

/-- Being consumed changes nothing that was checked. -/
theorem IsBacked.consume
    {preparation : WorkflowRunInputPreparation}
    (isBacked : IsBacked deps db preparation)
    (now : Nat) :
    IsBacked deps db (preparation.consume now) := by
  obtain ⟨version, workflow, readiness, runner, key, backs⟩ := isBacked
  exact ⟨version, workflow, readiness, runner, key,
    { isVersion := backs.isVersion
      sameWorkspace := backs.sameWorkspace
      isSettled := backs.isSettled
      isParsed := backs.isParsed
      schemaVersion := backs.schemaVersion
      sameWorkflow := backs.sameWorkflow
      sameVersion := backs.sameVersion
      definesPublished := backs.definesPublished
      isAnalyzed := backs.isAnalyzed
      allLifted := backs.allLifted
      sameOrigins := backs.sameOrigins
      sameDigest := backs.sameDigest
      isRunner := backs.isRunner
      runnerWorkspace := backs.runnerWorkspace
      isKey := backs.isKey
      sameKey := backs.sameKey
      aadParsed := backs.aadParsed
      aadPreparation := backs.aadPreparation
      aadRun := backs.aadRun
      aadExpiry := backs.aadExpiry }⟩

theorem activeKey_eq_some
    {runnerDeviceId : JsString}
    {key : RunnerEncryptionKey}
    (distinct : (db.keys.map RunnerEncryptionKey.id).Nodup)
    (found : db.activeKey runnerDeviceId = some key) :
    db.findKey key.id = some key ∧ key.status = .active := by
  have isFound := List.find?_some found
  simp only [Bool.decide_and, Bool.and_eq_true, decide_eq_true_eq] at isFound
  exact ⟨findUnique_of_mem distinct (List.mem_of_find?_eq_some found),
    isFound.2⟩

theorem Inserts.isBacked
    {input : PrepareInput}
    {row : WorkflowRunInputPreparation}
    {version : WorkflowVersion}
    {workflow : WorkflowDefinition}
    {readiness : WorkflowRunReadinessReport}
    {runner : RunnerDevice}
    {key : RunnerEncryptionKey}
    (inserts :
      Inserts deps input db row version workflow readiness runner key)
    (distinct : (db.keys.map RunnerEncryptionKey.id).Nodup) :
    IsBacked deps db row := by
  have isVersion : db.findVersion row.workflowVersionId = some version := by
    rw [inserts.rowVersion, (mem_of_findUnique inserts.isVersion).2]
    exact inserts.isVersion
  have isRunner : db.findRunner row.runnerDeviceId = some runner := by
    rw [inserts.rowRunner, (mem_of_findUnique inserts.isRunner).2]
    exact inserts.isRunner
  have isKey : db.findKey row.runnerEncryptionKeyId = some key := by
    rw [inserts.rowKey]
    exact (activeKey_eq_some distinct inserts.isKey).1
  exact ⟨version, workflow, readiness, runner, key,
    { isVersion
      sameWorkspace := inserts.rowWorkspace.symm
      isSettled := Or.inl inserts.isRunnable.isPublished
      isParsed := inserts.isRunnable.isParsed
      schemaVersion := inserts.isRunnable.schemaVersion
      sameWorkflow := inserts.isRunnable.sameWorkflow
      sameVersion := inserts.isRunnable.sameVersion
      definesPublished := inserts.isRunnable.definesPublished
      isAnalyzed := inserts.isAnalyzed
      allLifted := inserts.allLifted
      sameOrigins := inserts.rowOrigins
      sameDigest := inserts.rowDigest
      isRunner
      runnerWorkspace := inserts.runnerWorkspace.trans inserts.rowWorkspace.symm
      isKey
      sameKey := inserts.aadKey
      aadParsed := inserts.aadParsed
      aadPreparation := inserts.aadPreparation
      aadRun := inserts.aadRun
      aadExpiry := inserts.aadExpiry }⟩

theorem Sound.prepare
    {input : PrepareInput}
    {result : RunInputPreparationResult}
    (sound : Sound deps db)
    (isNew : ∀ run ∈ db.runs, run.id ≠ input.newWorkflowRunId)
    (prepared : prepare deps input db = .ok (db', result)) :
    Sound deps db' := by
  obtain ⟨-, rfl⟩ | ⟨row, version, workflow, readiness, runner, key, inserts,
    -, rfl⟩ := prepare_cases prepared
  · exact sound
  have keeps :
      KeepsRows db { db with preparations := db.preparations ++ [row] } :=
    KeepsRows.of_same rfl rfl rfl
  exact
    { sound with
      distinctPreparations :=
        sound.distinctPreparations.concat
          WorkflowRunInputPreparation.conflicts_symmetric inserts.free
      backed := by
        intro preparation listed
        rcases List.mem_append.mp listed with earlier | last
        · exact (sound.backed preparation earlier).kept keeps
        · rw [List.mem_singleton.mp last]
          exact (inserts.isBacked sound.distinctKeys).kept keeps
      delivered := by
        intro preparation listed isConsumed
        rcases List.mem_append.mp listed with earlier | last
        · exact sound.delivered preparation earlier isConsumed
        · rw [List.mem_singleton.mp last, inserts.rowStatus] at isConsumed
          cases isConsumed
      prepared := by
        intro envelope listed
        obtain ⟨preparation, isPreparation, same⟩ :=
          sound.prepared envelope listed
        exact ⟨preparation, List.mem_append_left _ isPreparation, same⟩
      reserved := by
        intro preparation listed isPending
        rcases List.mem_append.mp listed with earlier | last
        · exact sound.reserved preparation earlier isPending
        · rw [List.mem_singleton.mp last, inserts.rowRun]
          exact isNew }

/-- What a commit makes of a row. -/
def afterCommit
    (preparationId : JsString)
    (now : Nat)
    (row : WorkflowRunInputPreparation) :
    WorkflowRunInputPreparation :=
  if row.id == preparationId then row.consume now else row

@[simp] theorem afterCommit_id
    (preparationId : JsString)
    (now : Nat)
    (row : WorkflowRunInputPreparation) :
    (afterCommit preparationId now row).id = row.id := by
  rw [afterCommit]
  split <;> rfl

theorem conflicts_afterCommit
    (preparationId : JsString)
    (now : Nat)
    (row other : WorkflowRunInputPreparation) :
    (afterCommit preparationId now row).conflicts
        (afterCommit preparationId now other) =
      row.conflicts other := by
  simp only [afterCommit]
  split <;> split <;> rfl

/-- A row that is pending after a commit is another one than was committed. -/
theorem pending_afterCommit
    {preparationId : JsString}
    {now : Nat}
    {row : WorkflowRunInputPreparation}
    (isPending : (afterCommit preparationId now row).status = .pending) :
    row.id ≠ preparationId ∧ afterCommit preparationId now row = row := by
  rw [afterCommit] at isPending ⊢
  split at isPending
  case isTrue => cases isPending
  case isFalse other =>
    rw [if_neg other]
    exact ⟨by simpa using other, rfl⟩

theorem withRun_preparations
    (db : Database)
    (preparation : WorkflowRunInputPreparation)
    (envelope : SecureRunInputEnvelope)
    (run : WorkflowRun)
    (now : Nat) :
    (db.withRun preparation envelope run now).preparations =
      db.preparations.map (afterCommit preparation.id now) :=
  rfl

/-- Identifiers and reservations tell preparations apart. -/
theorem Sound.eq_of_conflicts
    (sound : Sound deps db)
    {first second : WorkflowRunInputPreparation}
    (isFirst : first ∈ db.preparations)
    (isSecond : second ∈ db.preparations)
    (conflicting : first.conflicts second = true) :
    first = second :=
  sound.distinctPreparations.eq_of_conflict
    WorkflowRunInputPreparation.conflicts_symmetric isFirst isSecond conflicting

variable
  {input : CommitInput}
  {preparation : WorkflowRunInputPreparation}
  {run : WorkflowRun}
  {first second : WorkflowRunInputPreparation}

theorem conflicts_of_id
    (same : first.id = second.id) :
    first.conflicts second = true := by
  simp [WorkflowRunInputPreparation.conflicts, same]

theorem conflicts_of_reservedRunId
    (same : first.reservedRunId = second.reservedRunId) :
    first.conflicts second = true := by
  simp [WorkflowRunInputPreparation.conflicts, same]

theorem Creates.listed
    (creates : Creates deps input db preparation run) :
    preparation ∈ db.preparations :=
  (mem_of_findUnique creates.isPreparation).1

/-- The run that is created, and its envelope, are those of the preparation. -/
theorem Creates.isDelivery
    (creates : Creates deps input db preparation run)
    (isBacked : IsBacked deps db preparation) :
    IsDelivery preparation (envelopeRow preparation input.envelope) run := by
  obtain ⟨version, workflow, readiness, runner, key, backs⟩ := isBacked
  obtain ⟨version', runner', workflow', activePolicy, policyEvaluation, -,
    rfl⟩ := committedRun_eq_ok.mp creates.isRun
  have bound := ((checkEnvelope_eq_ok backs.aadParsed).mp creates.isChecked).2.2
  exact
    { preparationId := rfl
      workflowRunId := rfl
      runId := rfl
      workspaceId := rfl
      clientRunId := rfl
      workflowVersionId := rfl
      runnerDeviceId := rfl
      authenticates := bound.authenticates }

theorem IsDelivery.consume
    {row : WorkflowRunInputEnvelope}
    {run : WorkflowRun}
    (isDelivery : IsDelivery preparation row run)
    (now : Nat) :
    IsDelivery (preparation.consume now) row run where
  preparationId := isDelivery.preparationId
  workflowRunId := isDelivery.workflowRunId
  runId := isDelivery.runId
  workspaceId := isDelivery.workspaceId
  clientRunId := isDelivery.clientRunId
  workflowVersionId := isDelivery.workflowVersionId
  runnerDeviceId := isDelivery.runnerDeviceId
  authenticates := isDelivery.authenticates

theorem Sound.withRun
    (sound : Sound deps db)
    (creates : Creates deps input db preparation run) :
    Sound deps (db.withRun preparation input.envelope run input.now) := by
  have isDelivery :=
    creates.isDelivery (sound.backed preparation creates.listed)
  have keeps :
      KeepsRows db (db.withRun preparation input.envelope run input.now) :=
    KeepsRows.of_same rfl rfl rfl
  have isBackedAfter :
      ∀ row ∈ db.preparations,
        IsBacked deps (db.withRun preparation input.envelope run input.now)
          (afterCommit preparation.id input.now row) := by
    intro row listed
    have isBacked := (sound.backed row listed).kept keeps
    rw [afterCommit]
    split
    · exact isBacked.consume input.now
    · exact isBacked
  have committed :
      preparation.consume input.now =
        afterCommit preparation.id input.now preparation := by
    simp [afterCommit]
  exact
    { sound with
      distinctPreparations :=
        sound.distinctPreparations.map (conflicts_afterCommit _ _)
      distinctEnvelopes :=
        sound.distinctEnvelopes.concat
          WorkflowRunInputEnvelope.conflicts_symmetric creates.envelopeIsFree
      distinctRuns :=
        sound.distinctRuns.concat WorkflowRun.conflicts_symmetric
          creates.runIsFree
      backed := by
        intro row listed
        obtain ⟨earlier, isEarlier, rfl⟩ := List.mem_map.mp listed
        exact isBackedAfter earlier isEarlier
      delivered := by
        intro row listed isConsumed
        obtain ⟨earlier, isEarlier, rfl⟩ := List.mem_map.mp listed
        change
          (afterCommit preparation.id input.now earlier).status = .consumed
            at isConsumed
        change
          ∃ envelope ∈ db.envelopes ++ [envelopeRow preparation input.envelope],
            ∃ run' ∈ db.runs ++ [run],
              IsDelivery (afterCommit preparation.id input.now earlier)
                envelope run'
        by_cases isCommitted : earlier.id = preparation.id
        · obtain rfl :=
            sound.eq_of_conflicts isEarlier creates.listed
              (conflicts_of_id isCommitted)
          rw [← committed]
          exact ⟨_, List.mem_concat_self, _, List.mem_concat_self,
            isDelivery.consume input.now⟩
        · have same :
              afterCommit preparation.id input.now earlier = earlier := by
            simp [afterCommit, isCommitted]
          rw [same] at isConsumed ⊢
          obtain ⟨envelope, isEnvelope, run', isRun', delivers⟩ :=
            sound.delivered earlier isEarlier isConsumed
          exact ⟨envelope, List.mem_append_left _ isEnvelope, run',
            List.mem_append_left _ isRun', delivers⟩
      prepared := by
        intro envelope listed
        rcases List.mem_append.mp listed with isEarlier | isLast
        · obtain ⟨row, isRow, isConsumed, sameId, sameRun⟩ :=
            sound.prepared envelope isEarlier
          have other : ¬row.id = preparation.id := by
            intro isCommitted
            have sameRow :=
              sound.eq_of_conflicts isRow creates.listed
                (conflicts_of_id isCommitted)
            rw [sameRow, creates.isPending] at isConsumed
            cases isConsumed
          have same : afterCommit preparation.id input.now row = row := by
            simp [afterCommit, other]
          exact ⟨row, List.mem_map.mpr ⟨row, isRow, same⟩, isConsumed, sameId,
            sameRun⟩
        · rw [List.mem_singleton.mp isLast]
          exact ⟨preparation.consume input.now,
            List.mem_map.mpr ⟨preparation, creates.listed, committed.symm⟩, rfl,
            rfl, rfl⟩
      reserved := by
        intro row listed isPending run' listed'
        obtain ⟨earlier, isEarlier, rfl⟩ := List.mem_map.mp listed
        obtain ⟨other, same⟩ := pending_afterCommit isPending
        change run'.id ≠
          (afterCommit preparation.id input.now earlier).reservedRunId
        change (afterCommit preparation.id input.now earlier).status = .pending
          at isPending
        rw [same] at isPending ⊢
        rcases List.mem_append.mp listed' with before | last
        · exact sound.reserved earlier isEarlier isPending run' before
        · rw [List.mem_singleton.mp last, isDelivery.runId]
          intro sameReservation
          have sameRow :=
            sound.eq_of_conflicts isEarlier creates.listed
              (conflicts_of_reservedRunId sameReservation.symm)
          exact other (congrArg WorkflowRunInputPreparation.id sameRow) }

theorem Sound.commit
    {result : RunInputCommitResult}
    (sound : Sound deps db)
    (committed : commit deps input db = .ok (db', result)) :
    Sound deps db' := by
  obtain ⟨preparation, -, rfl, -⟩ | ⟨preparation, run, creates, rfl, -⟩ :=
    commit_eq_ok.mp committed
  · exact sound
  · exact sound.withRun creates

theorem Sound.change
    (sound : Sound deps db)
    (changes : Changes deps db db') :
    Sound deps db' := by
  obtain ⟨others, areRuns, notReserved⟩ := changes.runs
  exact
    { distinctPreparations := by
        rw [changes.samePreparations]
        exact sound.distinctPreparations
      distinctEnvelopes := by
        rw [changes.sameEnvelopes]
        exact sound.distinctEnvelopes
      distinctRuns := changes.distinctRuns
      distinctKeys := changes.distinctKeys
      written := changes.written
      backed := by
        rw [changes.samePreparations]
        intro preparation listed
        exact (sound.backed preparation listed).kept changes.toKeepsRows
      delivered := by
        rw [changes.samePreparations, changes.sameEnvelopes, areRuns]
        intro preparation listed isConsumed
        obtain ⟨envelope, isEnvelope, run, isRun, delivers⟩ :=
          sound.delivered preparation listed isConsumed
        exact ⟨envelope, isEnvelope, run, List.mem_append_left _ isRun,
          delivers⟩
      prepared := by
        rw [changes.samePreparations, changes.sameEnvelopes]
        exact sound.prepared
      reserved := by
        rw [changes.samePreparations, areRuns]
        intro preparation listed isPending run isRun
        rcases List.mem_append.mp isRun with earlier | later
        · exact sound.reserved preparation listed isPending run earlier
        · exact notReserved run later preparation listed }

theorem Sound.step
    (sound : Sound deps db)
    (step : Step deps db db') :
    Sound deps db' := by
  cases step with
  | prepare input result isNew prepared => exact sound.prepare isNew prepared
  | commit input result committed => exact sound.commit committed
  | change changes => exact sound.change changes

/-- Every database that calls and changes lead to is sound. -/
theorem Reaches.sound (reaches : Reaches deps db) : Sound deps db :=
  reaches.invariant (fun _ isInitial => isInitial.sound)
    fun _ _ sound step => sound.step step

end TaskTwin.SecureInputs
