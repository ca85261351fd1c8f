import TaskTwin.SecureInputs.RunCreation

/-!
# What preparing and committing check

A call that is accepted has passed every check of its method.  The lemmas here
say what was found on the way, and what an accepted call leaves behind.
-/

namespace TaskTwin.SecureInputs

open Text Schema Store Workflow Engine
open TaskTwin.Policy
  (WorkspaceExecutionPolicyDefinition WorkflowPolicyEvaluation
    evaluateWorkflowPolicy)
open TaskTwin.Lifecycle (editorRoles)

variable {deps : Dependencies} {db db' : Database}

/-- The user is a member of the workspace who may write. -/
def Database.MayWrite
    (db : Database)
    (userId workspaceId : JsString) :
    Prop :=
  ∃ role ∈ editorRoles, db.role userId workspaceId = some role

theorem requireWriter_eq_ok
    {userId workspaceId : JsString} :
    requireWriter db userId workspaceId = .ok () ↔
      db.MayWrite userId workspaceId := by
  simp only [requireWriter, bind_eq_ok, orThrow_eq_ok, refuseIf_eq_ok, not_not]
  constructor
  · rintro ⟨role, isRole, mayWrite⟩
    exact ⟨role, mayWrite, isRole⟩
  · rintro ⟨role, mayWrite, isRole⟩
    exact ⟨role, isRole, mayWrite⟩

/-- A version that can run. -/
structure IsRunnable
    (deps : Dependencies)
    (version : WorkflowVersion)
    (workflow : WorkflowDefinition) :
    Prop where
  isParsed : deps.schema.safeParse version.definition = some workflow
  isPublished : version.status = .published
  schemaVersion : version.schemaVersion = 1
  sameWorkflow : js workflow.workflowId.text = version.workflowId
  sameVersion : workflow.version = version.version
  definesPublished : workflow.status = .published

theorem runnableDefinition_eq_some
    {version : WorkflowVersion}
    {workflow : WorkflowDefinition} :
    runnableDefinition deps version = some workflow ↔
      IsRunnable deps version workflow := by
  simp only [runnableDefinition, Option.bind_eq_bind, Option.bind_eq_some_iff,
    Option.ite_none_left_eq_some, Option.some.injEq, not_or, not_not]
  constructor
  · rintro ⟨parsed, isParsed, ⟨published, schema, id, number, defines⟩, rfl⟩
    exact ⟨isParsed, published, schema, id, number, defines⟩
  · rintro ⟨isParsed, published, schema, id, number, defines⟩
    exact ⟨workflow, isParsed, ⟨published, schema, id, number, defines⟩, rfl⟩

/-- The active policy of a workspace evaluates a workflow. -/
structure Evaluates
    (deps : Dependencies)
    (activePolicy : WorkspaceExecutionPolicyVersion)
    (workflow : WorkflowDefinition)
    (workflowDigest : JsString)
    (policyEvaluation : WorkflowPolicyEvaluation) :
    Prop where
  isEvaluated :
    ∃ policy,
      activePolicy.definition.parse deps.platform = some policy ∧
        evaluateWorkflowPolicy deps.platform
            { policy
              workflow
              policyDigest := activePolicy.digest
              workflowDigest } =
          some policyEvaluation
  allows : refusesWorkflow policyEvaluation = false

/-- What the checks of `prepare` found, and the row that they lead to. -/
structure Prepares
    (deps : Dependencies)
    (input : PrepareInput)
    (version : WorkflowVersion)
    (db : Database)
    (row : WorkflowRunInputPreparation)
    (workflow : WorkflowDefinition)
    (readiness : WorkflowRunReadinessReport)
    (runner : RunnerDevice)
    (key : RunnerEncryptionKey) :
    Prop where
  isRunnable : IsRunnable deps version workflow
  isAnalyzed :
    analyzeWorkflowRunReadiness deps.parser (some workflow) = some readiness
  allLifted : ∀ issue ∈ readiness.issues, isLiftedIssue issue = true
  isEvaluated :
    ∃ activePolicy policyEvaluation,
      db.activePolicy version.workspaceId = some activePolicy ∧
        Evaluates deps activePolicy workflow (deps.definitionDigest workflow)
          policyEvaluation
  isRunner : db.findRunner input.runnerDeviceId = some runner
  runnerWorkspace : runner.workspaceId = version.workspaceId
  notRevoked : runner.revokedAt = none
  isKey : db.activeKey runner.id = some key
  rowId : row.id = input.newPreparationId
  rowWorkspace : row.workspaceId = version.workspaceId
  rowVersion : row.workflowVersionId = version.id
  rowRunner : row.runnerDeviceId = runner.id
  rowKey : row.runnerEncryptionKeyId = key.id
  rowClientPreparation : row.clientPreparationId = input.clientPreparationId
  rowClientRun : row.clientRunId = input.clientRunId
  rowRun : row.reservedRunId = input.newWorkflowRunId
  rowStatus : row.status = .pending
  rowOrigins : row.allowedOrigins = readiness.allowedOrigins
  rowDigest : row.definitionDigest = deps.definitionDigest workflow
  rowExpiry :
    row.expiresAt = input.now + defaultPreparationTtlSeconds * 1000
  aadParsed : row.aad.parse deps.parser = some row.aad
  aadPreparation : row.aad.preparationId = row.id
  aadRun : row.aad.workflowRunId = row.reservedRunId
  aadKey : row.aad.keyId = key.keyId
  aadExpiry : isoText row.expiresAt = some row.aad.expiresAt

theorem preparedRow_eq_ok
    {input : PrepareInput}
    {version : WorkflowVersion}
    {requestDigest : JsString}
    {row : WorkflowRunInputPreparation}
    (prepared : preparedRow deps input version requestDigest db = .ok row) :
    ∃ workflow readiness runner key,
      Prepares deps input version db row workflow readiness runner key := by
  simp only [preparedRow, bind_eq_ok, orThrow_eq_ok, refuseIf_eq_ok,
    Option.filter_eq_some_iff, runnableDefinition_eq_some] at prepared
  obtain ⟨workflow, isRunnable, readiness, isAnalyzed, -, notBlocked,
    activePolicy, isActive, policy, isPolicy, policyEvaluation, isEvaluated, -,
    allows, manifest, -, runner, ⟨isRunner, sameWorkspace⟩, -, notRevoked, -,
    -, key, isKey, options, -, -, -, expiresText, isText, aad, isAad,
    isRow⟩ := prepared
  obtain rfl := Except.ok.inj isRow
  have isParsed :=
    RunInputAdditionalAuthenticatedData.parse_parsed isAad
  simp only [RunInputAdditionalAuthenticatedData.parse,
    Option.ite_none_right_eq_some, Option.some.injEq] at isAad
  obtain ⟨-, rfl⟩ := isAad
  refine ⟨workflow, readiness, runner, key, ?_⟩
  exact
    { isRunnable
      isAnalyzed
      allLifted := by simpa using notBlocked
      isEvaluated :=
        ⟨activePolicy, policyEvaluation, isActive,
          ⟨policy, isPolicy, isEvaluated⟩, by simpa using allows⟩
      isRunner
      runnerWorkspace := by simpa using sameWorkspace
      notRevoked := not_not.mp notRevoked
      isKey
      rowId := rfl
      rowWorkspace := rfl
      rowVersion := rfl
      rowRunner := rfl
      rowKey := rfl
      rowClientPreparation := rfl
      rowClientRun := rfl
      rowRun := rfl
      rowStatus := rfl
      rowOrigins := rfl
      rowDigest := rfl
      rowExpiry := rfl
      aadParsed := isParsed
      aadPreparation := rfl
      aadRun := rfl
      aadKey := rfl
      aadExpiry := isText }

/-- The answer tells of the row. -/
theorem preparationResult_eq_ok
    {row : WorkflowRunInputPreparation}
    {idempotent : Bool}
    {result : RunInputPreparationResult}
    (answered : preparationResult deps db row idempotent = .ok result) :
    result.idempotent = idempotent ∧
      result.preparation.preparationId = row.id ∧
        result.preparation.workflowRunId = row.reservedRunId ∧
          result.preparation.workspaceId = row.workspaceId ∧
            row.aad.parse deps.parser = some result.preparation.aad := by
  simp only [preparationResult, bind_eq_ok, orThrow_eq_ok, refuseIf_eq_ok]
    at answered
  obtain ⟨key, -, expiresAt, -, -, -, -, -, aad, isAad, isResult⟩ := answered
  obtain rfl := Except.ok.inj isResult
  exact ⟨rfl, rfl, rfl, rfl, isAad⟩

/-- A call of `prepare` that inserts a row. -/
structure Inserts
    (deps : Dependencies)
    (input : PrepareInput)
    (db : Database)
    (row : WorkflowRunInputPreparation)
    (version : WorkflowVersion)
    (workflow : WorkflowDefinition)
    (readiness : WorkflowRunReadinessReport)
    (runner : RunnerDevice)
    (key : RunnerEncryptionKey) :
    Prop extends
      Prepares deps input version db row workflow readiness runner key where
  isVersion : db.findVersion input.workflowVersionId = some version
  mayWrite : db.MayWrite input.actorUserId version.workspaceId
  free : ∀ other ∈ db.preparations, row.conflicts other = false

/-- An accepted call of `prepare` is a replay, or inserts one row. -/
theorem prepare_cases
    {input : PrepareInput}
    {result : RunInputPreparationResult}
    (prepared : prepare deps input db = .ok (db', result)) :
    (result.idempotent = true ∧ db' = db) ∨
      ∃ row version workflow readiness runner key,
        Inserts deps input db row version workflow readiness runner key ∧
          preparationResult deps db row false = .ok result ∧
            db' = { db with preparations := db.preparations ++ [row] } := by
  simp only [prepare, bind_eq_ok, orThrow_eq_ok] at prepared
  obtain ⟨version, isVersion, ⟨⟩, mayWrite, prepared⟩ := prepared
  split at prepared
  case h_1 existing isExisting =>
    simp only [bind_eq_ok] at prepared
    obtain ⟨-, -, answer, answered, returned⟩ := prepared
    obtain ⟨rfl, rfl⟩ := Prod.mk.inj (Except.ok.inj returned)
    exact Or.inl ⟨(preparationResult_eq_ok answered).1, rfl⟩
  case h_2 isFirst =>
    simp only [bind_eq_ok, orThrow_eq_ok, insertUnique_eq_some] at prepared
    obtain ⟨-, -, row, isRow, preparations, ⟨free, rfl⟩, answer, answered,
      returned⟩ := prepared
    obtain ⟨rfl, rfl⟩ := Prod.mk.inj (Except.ok.inj returned)
    obtain ⟨workflow, readiness, runner, key, prepares⟩ :=
      preparedRow_eq_ok isRow
    refine Or.inr ⟨row, version, workflow, readiness, runner, key, ?_, answered,
      rfl⟩
    exact
      { toPrepares := prepares
        isVersion
        mayWrite := requireWriter_eq_ok.mp mayWrite
        free }

theorem assertEnvelopeBinding_eq_true
    {parser : UrlParser}
    {parseOther : JsString → Option TimeValue}
    {envelope : SecureRunInputEnvelope}
    {now : Nat}
    {aad : RunInputAdditionalAuthenticatedData}
    (isParsed : aad.parse parser = some aad) :
    assertEnvelopeBinding parser parseOther envelope aad now = true ↔
      envelope.parses = true ∧
        isExpiredText parseOther aad.expiresAt now = false ∧
          envelope.preparationId = aad.preparationId ∧
            envelope.workflowRunId = aad.workflowRunId ∧
              envelope.keyId = aad.keyId ∧
                envelope.expiresAt = aad.expiresAt := by
  unfold assertEnvelopeBinding
  simp only [isParsed, Bool.and_eq_true, beq_iff_eq, Bool.not_eq_true',
    and_assoc]

/-- An envelope that is bound to the data of a preparation. -/
structure IsBound
    (deps : Dependencies)
    (aad : RunInputAdditionalAuthenticatedData)
    (envelope : SecureRunInputEnvelope) :
    Prop where
  parses : envelope.parses = true
  samePreparation : envelope.preparationId = aad.preparationId
  sameRun : envelope.workflowRunId = aad.workflowRunId
  sameKey : envelope.keyId = aad.keyId
  sameExpiry : envelope.expiresAt = aad.expiresAt
  authenticates : envelope.aad = base64UrlText (encodeRunInputAad aad)
  isDigest :
    sha256Base64Url deps.sha256Octets envelope.ciphertext =
      envelope.ciphertextDigest

theorem checkEnvelope_eq_ok
    {preparation : WorkflowRunInputPreparation}
    {envelope : SecureRunInputEnvelope}
    {now : Nat}
    {aad : RunInputAdditionalAuthenticatedData}
    (isParsed : preparation.aad.parse deps.parser = some aad) :
    checkEnvelope deps preparation envelope now = .ok () ↔
      now < preparation.expiresAt ∧
        isExpiredText deps.parseOther aad.expiresAt now = false ∧
          IsBound deps aad envelope := by
  have again := RunInputAdditionalAuthenticatedData.parse_parsed isParsed
  simp only [checkEnvelope, isParsed, orThrow, ok_bind, bind_eq_ok,
    refuseIf_eq_ok, not_le, Bool.not_eq_eq_eq_not, Bool.not_true,
    Bool.not_eq_false, assertEnvelopeBinding_eq_true again, not_or, not_not]
  constructor
  · rintro ⟨-, inTime, -, ⟨parses, notExpired, preparationId, runId, keyId,
      expiresAt⟩, authenticates, isDigest⟩
    exact ⟨inTime, notExpired, parses, preparationId, runId, keyId, expiresAt,
      authenticates, isDigest⟩
  · rintro ⟨inTime, notExpired, bound⟩
    exact ⟨(), inTime, (), ⟨bound.parses, notExpired, bound.samePreparation,
      bound.sameRun, bound.sameKey, bound.sameExpiry⟩, bound.authenticates,
      bound.isDigest⟩

/-- What the checks of `commit` find in the rows that are read again. -/
structure Finds
    (deps : Dependencies)
    (db : Database)
    (preparation : WorkflowRunInputPreparation)
    (version : WorkflowVersion)
    (runner : RunnerDevice)
    (workflow : WorkflowDefinition)
    (activePolicy : WorkspaceExecutionPolicyVersion)
    (policyEvaluation : WorkflowPolicyEvaluation) :
    Prop extends
      Evaluates deps activePolicy workflow preparation.definitionDigest
        policyEvaluation where
  isVersion : db.findVersion preparation.workflowVersionId = some version
  isRunner : db.findRunner preparation.runnerDeviceId = some runner
  isKey :
    ∃ key,
      db.findKey preparation.runnerEncryptionKeyId = some key ∧
        key.status = .active
  notRevoked : runner.revokedAt = none
  isPublished : version.status = .published
  sameDigest :
    preparation.definitionDigest =
      deps.createCanonicalJsonDigest version.definition
  isParsed : deps.schema.safeParse version.definition = some workflow
  isActive : db.activePolicy preparation.workspaceId = some activePolicy

/-- The columns that `commit` gives a run. -/
def runOfPreparation
    (actorUserId : JsString)
    (preparation : WorkflowRunInputPreparation)
    (version : WorkflowVersion)
    (workflow : WorkflowDefinition)
    (activePolicy : WorkspaceExecutionPolicyVersion)
    (policyEvaluation : WorkflowPolicyEvaluation) :
    WorkflowRun :=
  { id := preparation.reservedRunId
    workspaceId := preparation.workspaceId
    workflowId := version.workflowId
    workflowVersionId := preparation.workflowVersionId
    runnerDeviceId := preparation.runnerDeviceId
    createdByUserId := actorUserId
    clientRunId := preparation.clientRunId
    runProtocolVersion
    workflowEngineVersion := 1
    definitionDigest := preparation.definitionDigest
    policyVersionId := activePolicy.id
    policyDigest := activePolicy.digest
    policyEvaluation
    allowedOrigins := preparation.allowedOrigins
    executionOptions := preparation.executionOptions
    steps := createdSteps workflow
    outputs := createdOutputs workflow }

theorem committedRun_eq_ok
    {actorUserId : JsString}
    {preparation : WorkflowRunInputPreparation}
    {run : WorkflowRun} :
    committedRun deps actorUserId preparation db = .ok run ↔
      ∃ version runner workflow activePolicy policyEvaluation,
        Finds deps db preparation version runner workflow activePolicy
            policyEvaluation ∧
          run =
            runOfPreparation actorUserId preparation version workflow
              activePolicy policyEvaluation := by
  simp only [committedRun, bind_eq_ok, orThrow_eq_ok, refuseIf_eq_ok, not_or,
    not_not]
  constructor
  · rintro ⟨version, isVersion, runner, isRunner, key, isKey, -,
      ⟨notRevoked, isActiveKey, isPublished, sameDigest⟩, workflow, isParsed,
      activePolicy, isActive, policy, isPolicy, policyEvaluation, isEvaluated,
      -, allows, isRun⟩
    refine ⟨version, runner, workflow, activePolicy, policyEvaluation, ?_,
      (Except.ok.inj isRun).symm⟩
    exact
      { isEvaluated := ⟨policy, isPolicy, isEvaluated⟩
        allows := by simpa using allows
        isVersion
        isRunner
        isKey := ⟨key, isKey, isActiveKey⟩
        notRevoked
        isPublished
        sameDigest
        isParsed
        isActive }
  · rintro ⟨version, runner, workflow, activePolicy, policyEvaluation, finds,
      rfl⟩
    obtain ⟨key, isKey, isActiveKey⟩ := finds.isKey
    obtain ⟨policy, isPolicy, isEvaluated⟩ := finds.isEvaluated
    exact ⟨version, finds.isVersion, runner, finds.isRunner, key, isKey, (),
      ⟨finds.notRevoked, isActiveKey, finds.isPublished, finds.sameDigest⟩,
      workflow, finds.isParsed, activePolicy, finds.isActive, policy, isPolicy,
      policyEvaluation, isEvaluated, (), by simpa using finds.allows, rfl⟩

/-- The envelope row of a preparation. -/
def envelopeRow
    (preparation : WorkflowRunInputPreparation)
    (envelope : SecureRunInputEnvelope) :
    WorkflowRunInputEnvelope :=
  { workflowRunId := preparation.reservedRunId
    preparationId := preparation.id
    runnerEncryptionKeyId := preparation.runnerEncryptionKeyId
    envelope }

/-- What a commit of a run writes. -/
def Database.withRun
    (db : Database)
    (preparation : WorkflowRunInputPreparation)
    (envelope : SecureRunInputEnvelope)
    (run : WorkflowRun)
    (now : Nat) :
    Database :=
  { db with
    runs := db.runs ++ [run]
    envelopes := db.envelopes ++ [envelopeRow preparation envelope]
    preparations :=
      updateMany (fun row => row.id == preparation.id)
        (WorkflowRunInputPreparation.consume now) db.preparations }

/-- A call of `commit` that creates a run. -/
structure Creates
    (deps : Dependencies)
    (input : CommitInput)
    (db : Database)
    (preparation : WorkflowRunInputPreparation)
    (run : WorkflowRun) :
    Prop where
  isPreparation : db.findPreparation input.preparationId = some preparation
  mayWrite : db.MayWrite input.actorUserId preparation.workspaceId
  parses : input.envelope.parses = true
  isPending : preparation.status = .pending
  isChecked :
    checkEnvelope deps preparation input.envelope input.now = .ok ()
  isRun : committedRun deps input.actorUserId preparation db = .ok run
  runIsFree : ∀ other ∈ db.runs, run.conflicts other = false
  envelopeIsFree :
    ∀ other ∈ db.envelopes,
      (envelopeRow preparation input.envelope).conflicts other = false

/-- A call of `commit` that repeats an earlier one. -/
structure Repeats
    (input : CommitInput)
    (db : Database)
    (preparation : WorkflowRunInputPreparation) :
    Prop where
  isPreparation : db.findPreparation input.preparationId = some preparation
  mayWrite : db.MayWrite input.actorUserId preparation.workspaceId
  parses : input.envelope.parses = true
  isConsumed : preparation.status = .consumed
  isSame :
    isSameEnvelope (db.findEnvelope preparation.id) input.envelope = true

/-- An accepted call of `commit` repeats an earlier one, or creates a run. -/
theorem commit_eq_ok
    {input : CommitInput}
    {result : RunInputCommitResult} :
    commit deps input db = .ok (db', result) ↔
      (∃ preparation,
        Repeats input db preparation ∧
          db' = db ∧
            result =
              { workflowRunId := preparation.reservedRunId
                idempotent := true }) ∨
        ∃ preparation run,
          Creates deps input db preparation run ∧
            db' = db.withRun preparation input.envelope run input.now ∧
              result =
                { workflowRunId := preparation.reservedRunId
                  idempotent := false } := by
  simp only [commit, bind_eq_ok, orThrow_eq_ok, refuseIf_eq_ok,
    Bool.not_eq_eq_eq_not, Bool.not_true, Bool.not_eq_false]
  constructor
  · rintro ⟨preparation, isPreparation, ⟨⟩, mayWrite, -, parses, committed⟩
    have mayWrite := requireWriter_eq_ok.mp mayWrite
    split at committed
    case h_1 isConsumed =>
      simp only [bind_eq_ok, refuseIf_eq_ok, Bool.not_eq_false] at committed
      obtain ⟨-, isSame, returned⟩ := committed
      obtain ⟨rfl, rfl⟩ := Prod.mk.inj (Except.ok.inj returned)
      exact Or.inl ⟨preparation,
        ⟨isPreparation, mayWrite, parses, isConsumed, isSame⟩, rfl, rfl⟩
    case h_2 isPending =>
      simp only [bind_eq_ok, orThrow_eq_ok, insertUnique_eq_some] at committed
      obtain ⟨⟨⟩, isChecked, run, isRun, runs, ⟨runIsFree, rfl⟩, envelopes,
        ⟨envelopeIsFree, rfl⟩, returned⟩ := committed
      obtain ⟨rfl, rfl⟩ := Prod.mk.inj (Except.ok.inj returned)
      exact Or.inr ⟨preparation, run,
        ⟨isPreparation, mayWrite, parses, isPending, isChecked, isRun,
          runIsFree, envelopeIsFree⟩, rfl, rfl⟩
  · rintro (⟨preparation, repeats, rfl, rfl⟩ |
      ⟨preparation, run, creates, rfl, rfl⟩)
    · refine ⟨preparation, repeats.isPreparation, (),
        requireWriter_eq_ok.mpr repeats.mayWrite, (), repeats.parses, ?_⟩
      rw [repeats.isConsumed]
      simp [repeats.isSame, refuseIf, ok_bind]
    · refine ⟨preparation, creates.isPreparation, (),
        requireWriter_eq_ok.mpr creates.mayWrite, (), creates.parses, ?_⟩
      rw [creates.isPending]
      simp only [bind_eq_ok, orThrow_eq_ok, insertUnique_eq_some]
      exact ⟨(), creates.isChecked, run, creates.isRun, _,
        ⟨creates.runIsFree, rfl⟩, _, ⟨creates.envelopeIsFree, rfl⟩, rfl⟩

end TaskTwin.SecureInputs
