import TaskTwin.SecureInputs.AdmissionLaw

/-!
# Delivery of prepared inputs

For any order of calls and changes a preparation leads to at most one run, a
commit that was accepted is answered in the same way ever after, and a bound
envelope is accepted as long as nothing it depends on has changed.
-/

namespace TaskTwin.SecureInputs

open Text Schema Store Workflow Engine Effect

variable {deps : Dependencies} {db db' : Database}

/-- Any number of calls and changes. -/
abbrev Later (deps : Dependencies) : Database → Database → Prop :=
  Relation.ReflTransGen (Step deps)

/-- A run that was committed for a preparation. -/
def IsRunOf
    (db : Database)
    (preparation : WorkflowRunInputPreparation)
    (run : WorkflowRun) :
    Prop :=
  run ∈ db.runs ∧
    ∃ row ∈ db.envelopes,
      row.preparationId = preparation.id ∧ row.workflowRunId = run.id

/-- A run carries what its preparation reserved and had authenticated. -/
structure Carries
    (db : Database)
    (preparation : WorkflowRunInputPreparation)
    (run : WorkflowRun) :
    Prop where
  runId : run.id = preparation.reservedRunId
  workspaceId : run.workspaceId = preparation.workspaceId
  clientRunId : run.clientRunId = preparation.clientRunId
  envelope :
    ∃ row ∈ db.envelopes,
      row.workflowRunId = run.id ∧ row.preparationId = preparation.id ∧
        base64UrlOctets row.envelope.aad = encodeRunInputAad preparation.aad

/-- Runner, version, key and policy are as they were. -/
structure IsUnchanged
    (db db' : Database)
    (input : PrepareInput)
    (workspaceId : JsString) :
    Prop where
  runner : db'.findRunner input.runnerDeviceId = db.findRunner input.runnerDeviceId
  version :
    db'.findVersion input.workflowVersionId =
      db.findVersion input.workflowVersionId
  key : db'.activeKey input.runnerDeviceId = db.activeKey input.runnerDeviceId
  policy : db'.activePolicy workspaceId = db.activePolicy workspaceId

/--
What holds of the calls from a database on, where `differs` tells which other
envelopes are to be rejected after one was accepted.
-/
structure SecureInputLaw
    (deps : Dependencies)
    (differs : SecureRunInputEnvelope → SecureRunInputEnvelope → Prop)
    (db : Database) :
    Prop where
  oneRun :
    ∀ preparation ∈ db.preparations,
      ∀ run run',
        IsRunOf db preparation run → IsRunOf db preparation run' → run = run'
  oneClientRun :
    ∀ run ∈ db.runs,
      ∀ run' ∈ db.runs,
        run.workspaceId = run'.workspaceId →
          run.clientRunId = run'.clientRunId → run = run'
  carries :
    ∀ preparation ∈ db.preparations,
      ∀ run, IsRunOf db preparation run → Carries db preparation run
  prepareFails :
    ∀ input failure,
      (transact (prepare deps input) db).2 = .error failure →
        (transact (prepare deps input) db).1 = db
  commitFails :
    ∀ input failure,
      (transact (commit deps input) db).2 = .error failure →
        (transact (commit deps input) db).1 = db
  replays :
    ∀ input db₁ result,
      commit deps input db = .ok (db₁, result) →
        ∀ db₂,
          Later deps db₁ db₂ →
            (∀ workspaceId,
              db₂.role input.actorUserId workspaceId =
                db.role input.actorUserId workspaceId) →
              ∀ now,
                commit deps { input with now } db₂ =
                  .ok
                    (db₂,
                      { workflowRunId := result.workflowRunId
                        idempotent := true })
  rejects :
    ∀ input db₁ result,
      commit deps input db = .ok (db₁, result) →
        ∀ db₂,
          Later deps db₁ db₂ →
            ∀ other : CommitInput,
              other.preparationId = input.preparationId →
                differs other.envelope input.envelope →
                  ∃ failure, commit deps other db₂ = .error failure
  accepts :
    ∀ input db₁ result,
      (∀ run ∈ db.runs, run.id ≠ input.newWorkflowRunId) →
        prepare deps input db = .ok (db₁, result) →
          result.idempotent = false →
            ∀ db₂,
              Later deps db₁ db₂ →
                IsUnchanged db db₂ input result.preparation.workspaceId →
                  ∀ answer : CommitInput,
                    answer.preparationId = result.preparation.preparationId →
                      IsBound deps result.preparation.aad answer.envelope →
                        db₂.MayWrite answer.actorUserId
                            result.preparation.workspaceId →
                          answer.now <
                              input.now + defaultPreparationTtlSeconds * 1000 →
                            db₂.findClientRun result.preparation.workspaceId
                                input.clientRunId =
                              none →
                              ∃ db₃,
                                commit deps answer db₂ =
                                  .ok
                                    (db₃,
                                      { workflowRunId :=
                                          result.preparation.workflowRunId
                                        idempotent := false })

/-- Preparations may be consumed, and envelopes stay as they are. -/
structure Extends (db db' : Database) : Prop where
  preparations :
    ∀ id preparation,
      db.findPreparation id = some preparation →
        ∃ preparation',
          db'.findPreparation id = some preparation' ∧
            (preparation' = preparation ∨
              preparation.status = .pending ∧
                ∃ now, preparation' = preparation.consume now)
  envelopes :
    ∀ id row, db.findEnvelope id = some row → db'.findEnvelope id = some row

theorem Extends.refl (db : Database) : Extends db db where
  preparations _ preparation found := ⟨preparation, found, Or.inl rfl⟩
  envelopes _ _ found := found

theorem Extends.trans
    {db'' : Database}
    (first : Extends db db')
    (second : Extends db' db'') :
    Extends db db'' where
  preparations id preparation found := by
    obtain ⟨preparation', found', became⟩ :=
      first.preparations id preparation found
    obtain ⟨preparation'', found'', became'⟩ :=
      second.preparations id preparation' found'
    refine ⟨preparation'', found'', ?_⟩
    rcases became with rfl | ⟨isPending, now, rfl⟩
    · exact became'
    · rcases became' with rfl | ⟨isPending', -⟩
      · exact Or.inr ⟨isPending, now, rfl⟩
      · cases isPending'
  envelopes id row found := second.envelopes id row (first.envelopes id row found)

/-- A row is found again behind which others were inserted. -/
theorem findUnique_append
    {α κ : Type}
    [DecidableEq κ]
    {key : α → κ}
    {wanted : κ}
    {rows others : List α}
    {row : α}
    (found : findUnique key wanted rows = some row) :
    findUnique key wanted (rows ++ others) = some row := by
  rw [findUnique, List.find?_append]
  rw [findUnique] at found
  rw [found]
  rfl

theorem findPreparation_withRun
    (preparation : WorkflowRunInputPreparation)
    (envelope : SecureRunInputEnvelope)
    (run : WorkflowRun)
    (now : Nat)
    (id : JsString) :
    (db.withRun preparation envelope run now).findPreparation id =
      (db.findPreparation id).map (afterCommit preparation.id now) := by
  rw [Database.findPreparation, withRun_preparations, findUnique,
    List.find?_map]
  congr 2
  funext row
  simp

theorem Step.extends
    (step : Step deps db db') :
    Extends db db' := by
  cases step with
  | prepare input result isNew prepared =>
      obtain ⟨-, rfl⟩ | ⟨row, version, workflow, readiness, runner, key,
        inserts, -, rfl⟩ := prepare_cases prepared
      · exact Extends.refl _
      · exact
          { preparations := fun id preparation found =>
              ⟨preparation, findUnique_append found, Or.inl rfl⟩
            envelopes := fun id envelope found => found }
  | commit input result committed =>
      obtain ⟨preparation, -, rfl, -⟩ | ⟨preparation, run, creates, rfl, -⟩ :=
        commit_eq_ok.mp committed
      · exact Extends.refl _
      · refine
          { preparations := fun id row found => ?_
            envelopes := fun id envelope found => findUnique_append found }
        rw [findPreparation_withRun, found]
        refine ⟨_, rfl, ?_⟩
        by_cases isCommitted : row.id = preparation.id
        · have sameId : id = input.preparationId :=
            (mem_of_findUnique found).2.symm.trans
              (isCommitted.trans (mem_of_findUnique creates.isPreparation).2)
          rw [sameId, creates.isPreparation] at found
          obtain rfl := Option.some.inj found
          exact Or.inr ⟨creates.isPending, input.now, by simp [afterCommit]⟩
        · exact Or.inl (by simp [afterCommit, isCommitted])
  | change changes =>
      exact
        { preparations := fun id preparation found => by
            refine ⟨preparation, ?_, Or.inl rfl⟩
            rw [Database.findPreparation, changes.samePreparations]
            exact found
          envelopes := fun id row found => by
            rw [Database.findEnvelope, changes.sameEnvelopes]
            exact found }

theorem Later.extends (later : Later deps db db') : Extends db db' := by
  induction later with
  | refl => exact Extends.refl db
  | tail _ step inductionHypothesis =>
      exact inductionHypothesis.trans step.extends

theorem Later.sound
    (later : Later deps db db')
    (sound : Sound deps db) :
    Sound deps db' := by
  induction later with
  | refl => exact sound
  | tail _ step inductionHypothesis => exact inductionHypothesis.step step

/-- What an accepted commit leaves behind for the calls that repeat it. -/
structure Accepted
    (db : Database)
    (input : CommitInput)
    (result : RunInputCommitResult)
    (preparation : WorkflowRunInputPreparation)
    (row : WorkflowRunInputEnvelope) :
    Prop where
  isPreparation : db.findPreparation input.preparationId = some preparation
  isConsumed : preparation.status = .consumed
  isEnvelope : db.findEnvelope preparation.id = some row
  sameDigest : row.envelope.ciphertextDigest = input.envelope.ciphertextDigest
  sameAad : row.envelope.aad = input.envelope.aad
  isAnswer : result.workflowRunId = preparation.reservedRunId

variable
  {input : CommitInput}
  {result : RunInputCommitResult}
  {preparation : WorkflowRunInputPreparation}
  {row : WorkflowRunInputEnvelope}

theorem isSameEnvelope_some
    {envelope : SecureRunInputEnvelope} :
    isSameEnvelope (some row) envelope = true ↔
      row.envelope.ciphertextDigest = envelope.ciphertextDigest ∧
        row.envelope.aad = envelope.aad := by
  simp [isSameEnvelope]

theorem isSameEnvelope_eq_true
    {accepted : Option WorkflowRunInputEnvelope}
    {envelope : SecureRunInputEnvelope} :
    isSameEnvelope accepted envelope = true ↔
      ∃ row,
        accepted = some row ∧
          row.envelope.ciphertextDigest = envelope.ciphertextDigest ∧
            row.envelope.aad = envelope.aad := by
  cases accepted with
  | none => simp [isSameEnvelope]
  | some row => simp [isSameEnvelope]

theorem commit_accepted
    (committed : commit deps input db = .ok (db', result)) :
    input.envelope.parses = true ∧
      ∃ preparation row,
        db.MayWrite input.actorUserId preparation.workspaceId ∧
          Accepted db' input result preparation row := by
  obtain ⟨preparation, repeats, rfl, rfl⟩ |
    ⟨preparation, run, creates, rfl, rfl⟩ := commit_eq_ok.mp committed
  · obtain ⟨row, isRow, same⟩ := isSameEnvelope_eq_true.mp repeats.isSame
    exact ⟨repeats.parses, preparation, row, repeats.mayWrite,
      { isPreparation := repeats.isPreparation
        isConsumed := repeats.isConsumed
        isEnvelope := isRow
        sameDigest := same.1
        sameAad := same.2
        isAnswer := rfl }⟩
  · refine ⟨creates.parses, preparation.consume input.now,
      envelopeRow preparation input.envelope, creates.mayWrite, ?_⟩
    have noneBefore :
        db.envelopes.find? (fun row => row.preparationId = preparation.id) =
          none := by
      rw [List.find?_eq_none]
      intro row listed same
      have free := creates.envelopeIsFree row listed
      have isSame : row.preparationId = preparation.id := by simpa using same
      rw [WorkflowRunInputEnvelope.conflicts] at free
      simp [envelopeRow, isSame] at free
    exact
      { isPreparation := by
          rw [findPreparation_withRun, creates.isPreparation]
          simp [afterCommit]
        isConsumed := rfl
        isEnvelope := by
          change
            (db.envelopes ++ [envelopeRow preparation input.envelope]).find?
                (fun row => row.preparationId = preparation.id) =
              _
          rw [List.find?_append, noneBefore]
          simp [envelopeRow]
        sameDigest := rfl
        sameAad := rfl
        isAnswer := rfl }

/-- What was accepted stays accepted. -/
theorem Accepted.later
    (accepted : Accepted db input result preparation row)
    (extended : Extends db db') :
    Accepted db' input result preparation row := by
  obtain ⟨preparation', isPreparation', became⟩ :=
    extended.preparations _ _ accepted.isPreparation
  rcases became with rfl | ⟨isPending, -⟩
  · exact
      { accepted with
        isPreparation := isPreparation'
        isEnvelope := extended.envelopes _ _ accepted.isEnvelope }
  · rw [accepted.isConsumed] at isPending
    cases isPending

/-- The digest of the ciphertext or the authenticated data differ. -/
def sealsOtherwise (envelope accepted : SecureRunInputEnvelope) : Prop :=
  envelope.ciphertextDigest ≠ accepted.ciphertextDigest ∨
    envelope.aad ≠ accepted.aad

/-- What seals otherwise than an accepted envelope is not accepted. -/
theorem Accepted.rejects
    {input other : CommitInput}
    {result result' : RunInputCommitResult}
    {preparation : WorkflowRunInputPreparation}
    {row : WorkflowRunInputEnvelope}
    (accepted : Accepted db input result preparation row)
    (samePreparation : other.preparationId = input.preparationId)
    (differs : sealsOtherwise other.envelope input.envelope) :
    commit deps other db ≠ .ok (db', result') := by
  intro committed
  obtain ⟨preparation', repeats, -, -⟩ | ⟨preparation', run, creates, -, -⟩ :=
    commit_eq_ok.mp committed
  · have isPreparation := repeats.isPreparation
    rw [samePreparation, accepted.isPreparation] at isPreparation
    obtain rfl := Option.some.inj isPreparation
    have same := repeats.isSame
    rw [accepted.isEnvelope, isSameEnvelope_some] at same
    rcases differs with otherDigest | otherAad
    · exact otherDigest (same.1.symm.trans accepted.sameDigest)
    · exact otherAad (same.2.symm.trans accepted.sameAad)
  · have isPreparation := creates.isPreparation
    rw [samePreparation, accepted.isPreparation] at isPreparation
    obtain rfl := Option.some.inj isPreparation
    have isPending := creates.isPending
    rw [accepted.isConsumed] at isPending
    cases isPending

/-- An envelope that was accepted is answered with its run, at any time. -/
theorem Accepted.replays
    (accepted : Accepted db input result preparation row)
    (parses : input.envelope.parses = true)
    (mayWrite : db.MayWrite input.actorUserId preparation.workspaceId)
    (now : Nat) :
    commit deps { input with now } db =
      .ok
        (db,
          { workflowRunId := result.workflowRunId
            idempotent := true }) := by
  have repeats : Repeats { input with now } db preparation :=
    { isPreparation := accepted.isPreparation
      mayWrite
      parses
      isConsumed := accepted.isConsumed
      isSame := by
        rw [accepted.isEnvelope, isSameEnvelope_some]
        exact ⟨accepted.sameDigest, accepted.sameAad⟩ }
  rw [accepted.isAnswer]
  exact commit_eq_ok.mpr (Or.inl ⟨preparation, repeats, rfl, rfl⟩)

theorem Sound.carries
    (sound : Sound deps db)
    {preparation : WorkflowRunInputPreparation}
    {run : WorkflowRun}
    (listed : preparation ∈ db.preparations)
    (isRunOf : IsRunOf db preparation run) :
    Carries db preparation run := by
  obtain ⟨isRun, row, isRow, samePreparation, sameRun⟩ := isRunOf
  obtain ⟨preparation', listed', isConsumed, isPrepared, isReserved⟩ :=
    sound.prepared row isRow
  obtain rfl :=
    sound.eq_of_conflicts listed' listed
      (conflicts_of_id (isPrepared.symm.trans samePreparation))
  obtain ⟨row', isRow', run', isRun', delivers⟩ :=
    sound.delivered preparation' listed' isConsumed
  have sameRow : row' = row := by
    refine
      sound.distinctEnvelopes.eq_of_conflict
        WorkflowRunInputEnvelope.conflicts_symmetric isRow' isRow ?_
    simp [WorkflowRunInputEnvelope.conflicts, delivers.preparationId,
      samePreparation]
  have sameRun' : run' = run := by
    refine
      sound.distinctRuns.eq_of_conflict WorkflowRun.conflicts_symmetric isRun'
        isRun ?_
    simp [WorkflowRun.conflicts, delivers.runId, ← sameRun, isReserved]
  obtain rfl := sameRow
  obtain rfl := sameRun'
  exact
    { runId := delivers.runId
      workspaceId := delivers.workspaceId
      clientRunId := delivers.clientRunId
      envelope :=
        ⟨row', isRow', sameRun, samePreparation, by
          rw [delivers.authenticates, base64UrlOctets_text]⟩ }

theorem Sound.eq_of_runId
    (sound : Sound deps db)
    {run run' : WorkflowRun}
    (isRun : run ∈ db.runs)
    (isRun' : run' ∈ db.runs)
    (same : run.id = run'.id) :
    run = run' :=
  sound.distinctRuns.eq_of_conflict WorkflowRun.conflicts_symmetric isRun isRun'
    (by simp [WorkflowRun.conflicts, same])

/-- A date that is written is read as the time that it was. -/
theorem isExpiredText_isoText
    {parseOther : JsString → Option TimeValue}
    {expiresAt now : Nat}
    {text : JsString}
    (isText : isoText expiresAt = some text) :
    isExpiredText parseOther text now = decide (expiresAt ≤ now) := by
  rw [isoText, Option.map_eq_some_iff] at isText
  obtain ⟨time, isTime, rfl⟩ := isText
  rw [timeClip, Option.dite_none_right_eq_some] at isTime
  obtain ⟨inRange, isTime⟩ := isTime
  obtain rfl := Option.some.inj isTime
  rw [isExpiredText, dateParse_toISOString]
  simp

/-- The definition of a version is the one that was parsed, as it is written. -/
theorem Database.IsWritten.definition
    (written : db.IsWritten deps)
    {version : WorkflowVersion}
    {workflow : WorkflowDefinition}
    (listed : version ∈ db.versions)
    (isParsed : deps.schema.safeParse version.definition = some workflow) :
    version.definition = deps.schema.written workflow := by
  obtain ⟨value, workflow', isParsed', isWritten⟩ := written version listed
  have again := deps.schema.safeParse_written value workflow' isParsed'
  rw [isWritten, again] at isParsed
  rw [isWritten, Option.some.inj isParsed]

variable
  {input : PrepareInput}
  {row : WorkflowRunInputPreparation}
  {version : WorkflowVersion}
  {workflow : WorkflowDefinition}
  {readiness : WorkflowRunReadinessReport}
  {runner : RunnerDevice}
  {key : RunnerEncryptionKey}

/-- A row that was inserted stays as it is until a run is created for it. -/
theorem Inserts.isPending_later
    (inserts :
      Inserts deps input db row version workflow readiness runner key)
    (extended :
      Extends { db with preparations := db.preparations ++ [row] } db')
    (sound : Sound deps db')
    (noRun : db'.findClientRun row.workspaceId row.clientRunId = none) :
    db'.findPreparation row.id = some row := by
  have isInserted :
      findUnique WorkflowRunInputPreparation.id row.id
          (db.preparations ++ [row]) =
        some row := by
    have noneBefore :
        db.preparations.find? (fun other => other.id = row.id) = none := by
      rw [List.find?_eq_none]
      intro other listed same
      have isSame : other.id = row.id := by simpa using same
      have free := inserts.free other listed
      rw [conflicts_of_id isSame.symm] at free
      cases free
    rw [findUnique, List.find?_append, noneBefore]
    simp
  obtain ⟨row', isRow', became⟩ := extended.preparations row.id row isInserted
  rcases became with rfl | ⟨-, now, rfl⟩
  · exact isRow'
  · obtain ⟨envelope, -, run, isRun, delivers⟩ :=
      sound.delivered _ (mem_of_findUnique isRow').1 rfl
    exact absurd delivers.clientRunId
      (findClientRun_eq_none.mp noRun run isRun delivers.workspaceId)

/-- What `prepare` found is found again. -/
theorem Inserts.finds
    (inserts :
      Inserts deps input db row version workflow readiness runner key)
    (written : db.IsWritten deps)
    (unchanged : IsUnchanged db db' input row.workspaceId)
    (distinct : (db'.keys.map RunnerEncryptionKey.id).Nodup) :
    ∃ activePolicy policyEvaluation,
      Finds deps db' row version runner workflow activePolicy
        policyEvaluation := by
  obtain ⟨activePolicy, policyEvaluation, isActive, evaluates⟩ :=
    inserts.isEvaluated
  obtain ⟨isListed, versionId⟩ := mem_of_findUnique inserts.isVersion
  have runnerId := (mem_of_findUnique inserts.isRunner).2
  have isKey : db'.activeKey input.runnerDeviceId = some key := by
    rw [unchanged.key, ← runnerId]
    exact inserts.isKey
  have sameDefinition :=
    written.definition isListed inserts.isRunnable.isParsed
  refine ⟨activePolicy, policyEvaluation, ?_⟩
  exact
    { isEvaluated := by
        rw [inserts.rowDigest]
        exact evaluates.isEvaluated
      allows := evaluates.allows
      isVersion := by
        rw [inserts.rowVersion, versionId, unchanged.version]
        exact inserts.isVersion
      isRunner := by
        rw [inserts.rowRunner, runnerId, unchanged.runner]
        exact inserts.isRunner
      isKey := by
        rw [inserts.rowKey]
        exact ⟨key, activeKey_eq_some distinct isKey⟩
      notRevoked := inserts.notRevoked
      isPublished := inserts.isRunnable.isPublished
      sameDigest := by
        rw [inserts.rowDigest, sameDefinition, Dependencies.definitionDigest]
      isParsed := inserts.isRunnable.isParsed
      isActive := by
        rw [unchanged.policy, inserts.rowWorkspace]
        exact isActive }

/-- No envelope and no run stand in the way of a preparation that is pending. -/
theorem Sound.isFree
    (sound : Sound deps db)
    {row : WorkflowRunInputPreparation}
    (listed : row ∈ db.preparations)
    (isPending : row.status = .pending)
    (envelope : SecureRunInputEnvelope) :
    ∀ other ∈ db.envelopes,
      (envelopeRow row envelope).conflicts other = false := by
  intro other isOther
  obtain ⟨preparation, listed', isConsumed, isPrepared, isReserved⟩ :=
    sound.prepared other isOther
  have apart : row.conflicts preparation = false := by
    rw [← Bool.not_eq_true]
    intro conflicting
    rw [sound.eq_of_conflicts listed listed' conflicting, isConsumed]
      at isPending
    cases isPending
  simp only [WorkflowRunInputPreparation.conflicts, Bool.or_eq_false_iff]
    at apart
  simp only [WorkflowRunInputEnvelope.conflicts, envelopeRow, isPrepared,
    isReserved, apart, Bool.or_self]

/-- An envelope that is bound to what was returned is accepted. -/
theorem Inserts.creates
    {answer : CommitInput}
    (inserts :
      Inserts deps input db row version workflow readiness runner key)
    (written : db.IsWritten deps)
    (extended :
      Extends { db with preparations := db.preparations ++ [row] } db')
    (sound : Sound deps db')
    (unchanged : IsUnchanged db db' input row.workspaceId)
    (isAnswer : answer.preparationId = row.id)
    (isBound : IsBound deps row.aad answer.envelope)
    (mayWrite : db'.MayWrite answer.actorUserId row.workspaceId)
    (inTime : answer.now < row.expiresAt)
    (noRun : db'.findClientRun row.workspaceId row.clientRunId = none) :
    ∃ run, Creates deps answer db' row run := by
  have isPreparation := inserts.isPending_later extended sound noRun
  have listed := (mem_of_findUnique isPreparation).1
  obtain ⟨activePolicy, policyEvaluation, finds⟩ :=
    inserts.finds written unchanged sound.distinctKeys
  have notExpired :
      isExpiredText deps.parseOther row.aad.expiresAt answer.now = false := by
    rw [isExpiredText_isoText inserts.aadExpiry]
    simpa using inTime
  refine
    ⟨runOfPreparation answer.actorUserId row version workflow activePolicy
      policyEvaluation, ?_⟩
  exact
    { isPreparation := by rw [isAnswer, isPreparation]
      mayWrite
      parses := isBound.parses
      isPending := inserts.rowStatus
      isChecked :=
        (checkEnvelope_eq_ok inserts.aadParsed).mpr
          ⟨inTime, notExpired, isBound⟩
      isRun := committedRun_eq_ok.mpr ⟨_, _, _, _, _, finds, rfl⟩
      runIsFree := by
        intro other isOther
        rw [conflicts_eq_false]
        refine ⟨(sound.reserved row listed inserts.rowStatus other isOther).symm,
          ?_⟩
        intro sameWorkspace
        exact (findClientRun_eq_none.mp noRun other isOther
          sameWorkspace.symm).symm
      envelopeIsFree := sound.isFree listed inserts.rowStatus answer.envelope }

/-- Another initialization vector. -/
def exampleOtherIv : JsString := List.replicate 16 (unit 'B')

theorem exampleOtherIv_parses :
    (exampleEnvelope exampleOtherIv).parses = true :=
  exampleEnvelope_parses (by decide)

end TaskTwin.SecureInputs
