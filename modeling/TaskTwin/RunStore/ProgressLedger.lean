import TaskTwin.RunStore.Frames

/-!
# The ledger of progress

The batches that were accepted for a run, over the transactions of any party.
The run lists exactly these batches, and their events are numbered without a
gap or a repetition up to the last sequence number of the run.
-/

namespace TaskTwin.RunStore

open Text Schema Workflow Engine Audit Store

variable {Trail : Type}

section Accepted

variable
  (hasher : AuditHasher)
  (append : Trail → JsValue → Option Trail)
  (runId : JsString)

/-- The submission that a transaction accepts as a new batch of a run. -/
def acceptedBy
    (db : Database Trail)
    (transaction : Transaction) :
    List IngestProgress :=
  match transaction with
  | .ingestProgress input =>
      match ingestLockedProgress hasher append input db with
      | .ok (_, answer) =>
          if input.workflowRunId = runId ∧ answer.idempotent = false then
            [input]
          else
            []
      | .error _ => []
  | _ => []

/-- The submissions that a sequence of transactions accepts, in order. -/
def accepted (db : Database Trail) : List Transaction → List IngestProgress
  | [] => []
  | transaction :: transactions =>
      acceptedBy hasher append runId db transaction ++
        accepted (perform hasher append db transaction) transactions

end Accepted

def IngestProgress.row (input : IngestProgress) : WorkflowRunProgressBatch :=
  input.batch.row input.payloadDigest

/-- What is answered to a submission that was accepted before. -/
def IngestProgress.replayAnswer
    (input : IngestProgress)
    (run : WorkflowRun) :
    ProgressBatchResult :=
  { acceptedThroughSequence := input.batch.lastSequence
    idempotent := true
    cancelRequested := run.status = .cancelRequested }

/-- The range of a batch tells how many events it has. -/
theorem IngestProgress.row_eq
    {first second : IngestProgress}
    (sameId : first.batch.clientBatchId = second.batch.clientBatchId)
    (sameDigest : first.payloadDigest = second.payloadDigest)
    (sameFirst : first.batch.firstSequence = second.batch.firstSequence)
    (sameLast : first.batch.lastSequence = second.batch.lastSequence) :
    first.row = second.row := by
  have sameCount : first.batch.events.length = second.batch.events.length := by
    have range := first.batch.range
    have range' := second.batch.range
    omega
  simp only [IngestProgress.row, WorkflowProgressBatch.row, sameId, sameDigest,
    sameFirst, sameLast, sameCount]

/-- The sequence numbers of the events of a submission. -/
def IngestProgress.sequences (input : IngestProgress) : List Nat :=
  input.batch.events.map SequencedWorkflowProgressEvent.sequence

/-- What is recorded of the progress of a run; nothing before it is created. -/
def progressOf : Option WorkflowRun → Nat × List WorkflowRunProgressBatch
  | some run => (run.lastProgressSequence, run.progressBatches)
  | none => (0, [])

/-- A row that records the submissions accepted for its run. -/
structure ProgressLedger
    (submissions : List IngestProgress)
    (row : Option WorkflowRun) : Prop where
  rows : (progressOf row).2 = submissions.map IngestProgress.row
  sequences :
    submissions.flatMap IngestProgress.sequences =
      List.range' 1 (progressOf row).1
  distinct : (submissions.map (·.batch.clientBatchId)).Nodup

theorem ProgressLedger.empty : ProgressLedger [] none :=
  ⟨rfl, rfl, List.nodup_nil⟩

theorem ProgressLedger.of_sameProgress
    {submissions : List IngestProgress}
    {row row' : Option WorkflowRun}
    (ledger : ProgressLedger submissions row)
    (same : progressOf row' = progressOf row) :
    ProgressLedger submissions row' :=
  ⟨by rw [same]; exact ledger.rows, by rw [same]; exact ledger.sequences,
    ledger.distinct⟩

/-- An accepted batch goes on where the ledger ends. -/
theorem ProgressLedger.extend
    {submissions : List IngestProgress}
    {run : WorkflowRun}
    {input : IngestProgress}
    {state : Ingestion}
    (ledger : ProgressLedger submissions (some run))
    (isNew :
      input.batch.clientBatchId ∉
        run.progressBatches.map WorkflowRunProgressBatch.clientBatchId)
    (adjacent : input.batch.firstSequence = run.lastProgressSequence + 1)
    (frame : EventFrame (.begin run) state) :
    ProgressLedger (submissions ++ [input]) (some (state.finish input).run) := by
  have rows : run.progressBatches = submissions.map IngestProgress.row :=
    ledger.rows
  have sequences :
      submissions.flatMap IngestProgress.sequences =
        List.range' 1 run.lastProgressSequence :=
    ledger.sequences
  have range := input.batch.range
  refine ⟨?_, ?_, ?_⟩
  · have sameBatches : state.run.progressBatches = run.progressBatches := by
      rw [frame]
      rfl
    simp only [progressOf, Ingestion.finish, sameBatches, rows,
      List.map_append, List.map_cons, List.map_nil, IngestProgress.row]
  · have isLast :
        input.batch.lastSequence =
          run.lastProgressSequence + input.batch.events.length := by
      omega
    rw [List.flatMap_append, sequences, List.flatMap_singleton,
      IngestProgress.sequences, input.batch.contiguous, adjacent]
    simp only [progressOf, Ingestion.finish, isLast]
    rw [← List.range'_append_1, Nat.add_comm 1]
  · rw [List.map_append]
    refine List.Nodup.append ledger.distinct (List.nodup_singleton _) ?_
    intro clientBatchId listed listed'
    rw [rows, List.map_map] at isNew
    rw [List.map_singleton, List.mem_singleton] at listed'
    exact isNew (listed' ▸ listed)

variable
  {hasher : AuditHasher}
  {append : Trail → JsValue → Option Trail}
  {transaction : Transaction}

/-- Progress is ingested by its own method only. -/
def Transaction.isIngestion : Transaction → Bool
  | .ingestProgress _ => true
  | _ => false

theorem RunStep.sameProgress
    {run run' : WorkflowRun}
    {events : List AuditEventInput}
    (other : transaction.isIngestion = false)
    (step : RunStep hasher transaction run run' events) :
    progressOf (some run') = progressOf (some run) := by
  cases step with
  | unchanged => rfl
  | interrupted now expired => rfl
  | renewed => rfl
  | claimed input _ runner activePolicyId =>
      rcases @claimQueued_cases hasher input runner activePolicyId run with
        ⟨_, _, _, isFailed⟩ | ⟨isClaimed, -⟩
      · rw [isFailed]
        rfl
      · rw [isClaimed]
        rfl
  | ingested input isIngestion =>
      subst isIngestion
      cases other
  | completed input _ change completes =>
      rcases completeRun_cases completes with
        ⟨-, -, -, rfl⟩ | ⟨-, -, -, -, -, rfl⟩ | ⟨-, -, -, -, -, rfl⟩ <;> rfl
  | cancelled input _ change _ cancels =>
      rcases cancelUnfinished_cases cancels with
        ⟨-, isRun, -⟩ | ⟨-, isRun, -⟩ <;>
          rw [isRun] <;> rfl
  | approvalCreated input _ change creates =>
      obtain ⟨-, -, ⟨isRun, -⟩ | ⟨_, -, -, -, isRun, -⟩⟩ :=
        createApprovalOn_cases creates <;>
          rw [isRun] <;> rfl
  | approvalExpired request now terminateRun =>
      obtain ⟨_, _, _, _, _, _, _, isRun⟩ :=
        @expireApprovalOn_frame hasher request now terminateRun run
      rw [isRun]
      rfl
  | approvalDecided input _ role request change _ decides =>
      rcases decideApprovalOn_cases decides with
        ⟨isRun, -⟩ | ⟨-, -, isRun, -⟩ <;>
          rw [isRun] <;> rfl
  | repairCreated input _ change creates =>
      obtain ⟨-, -, ⟨isRun, -⟩ | ⟨_, _, -, isRun, -⟩⟩ :=
        createRepairOn_cases creates <;>
          rw [isRun] <;> rfl
  | repairExpired request now terminateRun =>
      obtain ⟨_, _, _, _, _, _, _, isRun⟩ :=
        @expireRepairOn_frame hasher request now terminateRun run
      rw [isRun]
      rfl
  | repairDecided input _ role request change _ decides =>
      rcases decideRepairOn_cases decides with
        ⟨isRun, -⟩ | ⟨-, -, isRun, -⟩ <;>
          rw [isRun] <;> rfl

theorem RowMove.sameProgress
    {row row' : Option WorkflowRun}
    (other : transaction.isIngestion = false)
    (move : RowMove hasher transaction row row') :
    progressOf row' = progressOf row := by
  cases move with
  | same => rfl
  | created input _ version policy => rfl
  | changed run run' events step => exact step.sameProgress other
  | revoked input _ run =>
      simp only [progressOf, WorkflowRun.revoked]
      split
      · split <;> rfl
      · rfl

variable
  {runId : JsString}
  {db db' : Database Trail}
  {submissions : List IngestProgress}

/-- A row that records the same progress. -/
def SameProgress (row row' : Option WorkflowRun) : Prop :=
  progressOf row' = progressOf row

theorem Commits.sameProgress
    (distinct : DistinctRuns db)
    (other : transaction.isIngestion = false)
    (commits : Commits hasher append transaction db db') :
    SameProgress (db.run? runId) (db'.run? runId) :=
  (@Commits.rowMoves _ _ _ _ _ _ SameProgress (fun _ => rfl)
    (fun _ _ _ same same' => same'.trans same)
    (fun _ _ move => move.sameProgress other) distinct commits runId).2

/-- A submission leaves the other runs as they are. -/
theorem changeRun_ledger
    {input : IngestProgress}
    {answer : ProgressBatchResult}
    (ledger : ProgressLedger submissions (db.run? runId))
    (committed :
      ingestLockedProgress hasher append input db = .ok (db', answer)) :
    ProgressLedger
      (submissions ++
        if input.workflowRunId = runId ∧ answer.idempotent = false then [input]
        else [])
      (db'.run? runId) := by
  obtain ⟨run, change, found, ingests, committed⟩ :=
    changeRun_eq_ok.mp committed
  obtain ⟨trail, -, rfl, rfl⟩ := commitChange_eq_ok.mp committed
  obtain ⟨listed, isRun⟩ := Database.mem_of_run? found
  have sameId := (ingestRun_frame ingests).id
  have isPut :
      ({ db.putRun change.run with trail } : Database Trail).run? runId =
        if runId = change.run.id then some change.run else db.run? runId :=
    run?_putRun runId ⟨run, listed, sameId.symm⟩
  rw [isPut, sameId, isRun]
  by_cases ofRun : input.workflowRunId = runId
  case neg =>
    simp only [ofRun, Ne.symm ofRun, if_false, false_and, List.append_nil]
    exact ledger
  case pos =>
    subst ofRun
    rw [found] at ledger
    obtain ⟨-, ⟨existing, -, -, sameRun, -, idempotent⟩ |
      ⟨isNew, adjacent, state, applies, rfl⟩⟩ := ingestRun_cases ingests
    · simp only [idempotent, sameRun]
      simpa using ledger
    · simpa [Ingestion.finish] using
        ledger.extend isNew adjacent (applyEvents_frame applies)

/-- A transaction keeps the ledger of a run, extended by what it accepts. -/
theorem perform_ledger
    (distinct : DistinctRuns db)
    (ledger : ProgressLedger submissions (db.run? runId))
    (transaction : Transaction) :
    ProgressLedger
      (submissions ++ acceptedBy hasher append runId db transaction)
      ((perform hasher append db transaction).run? runId) := by
  cases other : transaction.isIngestion with
  | false =>
      have acceptsNothing :
          acceptedBy hasher append runId db transaction = [] := by
        cases transaction <;> first | rfl | cases other
      rw [acceptsNothing, List.append_nil, perform]
      cases committed : transaction.commit hasher append db with
      | error failure => exact ledger
      | ok db' =>
          exact ledger.of_sameProgress
            ((Transaction.commits committed).sameProgress distinct other)
  | true =>
      cases transaction with
      | ingestProgress input =>
          rw [perform, acceptedBy, Transaction.commit]
          cases committed : ingestLockedProgress hasher append input db with
          | error failure => simpa [Except.map] using ledger
          | ok outcome => exact changeRun_ledger ledger committed
      | _ => cases other

theorem performAll_ledger
    (distinct : DistinctRuns db)
    (ledger : ProgressLedger submissions (db.run? runId))
    (transactions : List Transaction) :
    ProgressLedger
      (submissions ++ accepted hasher append runId db transactions)
      ((performAll hasher append db transactions).run? runId) := by
  induction transactions generalizing db submissions with
  | nil => simpa [accepted, performAll] using ledger
  | cons transaction transactions inductionHypothesis =>
      rw [accepted, ← List.append_assoc]
      exact inductionHypothesis (distinctRuns_kept.perform distinct transaction)
        (perform_ledger distinct ledger transaction)

/-- The lease of a runner that may act on a run has not run out. -/
theorem leaseHasExpired_of_requireLease
    {runner : Option RunnerDevice}
    {lease : LeaseClaim}
    {now : Nat}
    {run : WorkflowRun}
    (leased : requireLease runner lease now run = .ok ()) :
    run.leaseHasExpired now = false := by
  simp only [requireLease, bind_eq_ok, refuseIf_eq_ok] at leased
  obtain ⟨_, -, _, -, _, -, _, -, notExpired⟩ := leased
  simp only [Bool.not_eq_true] at notExpired
  rw [WorkflowRun.leaseHasExpired, notExpired, Bool.and_false]

/-- Writing a row back as it was read changes nothing. -/
theorem putRun_of_listed
    {run : WorkflowRun}
    (distinct : DistinctRuns db)
    (listed : run ∈ db.runs) :
    db.putRun run = db := by
  have sameRuns : (db.putRun run).runs = db.runs := by
    refine (List.map_congr_left fun row isRow => ?_).trans (List.map_id _)
    by_cases sameId : row.id = run.id
    case pos => simp [distinct.eq listed isRow sameId]
    case neg => simp [sameId]
  rw [Database.putRun] at sameRuns ⊢
  simp only at sameRuns
  rw [sameRuns]

theorem findUnique_none
    {clientBatchId : JsString}
    {rows : List WorkflowRunProgressBatch}
    (isNew : ∀ row ∈ rows, row.clientBatchId ≠ clientBatchId) :
    findUnique WorkflowRunProgressBatch.clientBatchId clientBatchId rows =
      none :=
  List.find?_eq_none.mpr fun row listed => by simpa using isNew row listed

section Leased

variable
  {input : IngestProgress}
  {run : WorkflowRun}
  (leased : requireLease none input.lease input.now run = .ok ())

include leased

theorem ingestRun_of_known
    {existing : WorkflowRunProgressBatch}
    (isKnown :
      findUnique WorkflowRunProgressBatch.clientBatchId
          input.batch.clientBatchId run.progressBatches =
        some existing) :
    ingestRun hasher input run = replayBatch input run existing := by
  rw [ingestRun, leased, ok_bind, isKnown]

theorem ingestRun_of_new
    (isNew :
      findUnique WorkflowRunProgressBatch.clientBatchId
          input.batch.clientBatchId run.progressBatches =
        none) :
    ingestRun hasher input run = applyBatch hasher input run := by
  rw [ingestRun, leased, ok_bind, isNew]

variable (found : db.run? input.workflowRunId = some run)

include found

/-- A submission to a leased run is one transaction. -/
theorem ingestProgress_of_leased :
    ingestProgress hasher append input db =
      transact (ingestLockedProgress hasher append input) db := by
  have notInterrupted :
      expireRunIfRequired hasher append input.workflowRunId input.now db =
        .ok (db, ()) := by
    simp only [expireRunIfRequired, found]
    rw [leaseHasExpired_of_requireLease leased]
    rfl
  exact andThen_of_ok notInterrupted

/-- A submission that the run refuses leaves the database as it is. -/
theorem ingestProgress_of_refused
    {failure : StoreFailure}
    (refused : ingestRun hasher input run = .error failure) :
    ingestProgress hasher append input db = (db, .error failure) := by
  rw [ingestProgress_of_leased leased found]
  refine transact_of_error ?_
  rw [ingestLockedProgress, changeRun, found]
  simp only [orThrow, ok_bind, refused, error_bind]

/-- A submission that throws leaves the database as it is. -/
theorem ingestProgress_rollsBack
    {failure : StoreFailure}
    (threw : (ingestProgress hasher append input db).2 = .error failure) :
    (ingestProgress hasher append input db).1 = db := by
  rw [ingestProgress_of_leased leased found, transact] at threw ⊢
  split at threw
  case h_1 db' answer answered => cases threw
  case h_2 => rfl

/-- A batch that the run lists is answered again. -/
theorem ingestProgress_of_listed
    (distinct : DistinctRuns db)
    (ids : (run.progressBatches.map (·.clientBatchId)).Nodup)
    (listed : input.row ∈ run.progressBatches) :
    ingestProgress hasher append input db =
      (db, .ok (input.replayAnswer run)) := by
  have isKnown := findUnique_of_mem ids listed
  have ingests :
      ingestRun hasher input run =
        .ok (unchanged run (input.replayAnswer run)) := by
    rw [ingestRun_of_known leased isKnown, replayBatch, refuseIf_of_not]
    · rfl
    · simp [IngestProgress.row, WorkflowProgressBatch.row]
  have isRow := (Database.mem_of_run? found).1
  have written :
      commitChange append (unchanged run (input.replayAnswer run)) db =
        .ok (db, input.replayAnswer run) := by
    refine commitChange_eq_ok.mpr ⟨db.trail, rfl, ?_, rfl⟩
    simp only [unchanged]
    rw [putRun_of_listed distinct isRow]
  rw [ingestProgress_of_leased leased found]
  exact transact_of_ok (changeRun_eq_ok.mpr ⟨run, _, found, ingests, written⟩)

/-- A batch is in conflict with another one that has its identifier. -/
theorem ingestProgress_of_conflict
    {existing : WorkflowRunProgressBatch}
    (ids : (run.progressBatches.map (·.clientBatchId)).Nodup)
    (listed : existing ∈ run.progressBatches)
    (sameId : existing.clientBatchId = input.batch.clientBatchId)
    (differs :
      existing.payloadDigest ≠ input.payloadDigest ∨
        existing.firstSequence ≠ input.batch.firstSequence ∨
        existing.lastSequence ≠ input.batch.lastSequence) :
    ingestProgress hasher append input db =
      (db, .error .progressBatchConflict) := by
  have isKnown := findUnique_of_mem ids listed
  rw [sameId] at isKnown
  refine ingestProgress_of_refused leased found ?_
  rw [ingestRun_of_known leased isKnown, replayBatch, refuseIf_of differs]
  rfl

/-- A batch that overlaps the last one or leaves a gap is refused. -/
theorem ingestProgress_of_notAdjacent
    (isNew :
      ∀ row ∈ run.progressBatches,
        row.clientBatchId ≠ input.batch.clientBatchId)
    (notAdjacent : input.batch.firstSequence ≠ run.lastProgressSequence + 1) :
    ingestProgress hasher append input db =
      (db, .error .progressSequenceInvalid) := by
  refine ingestProgress_of_refused leased found ?_
  rw [ingestRun_of_new leased (findUnique_none isNew), applyBatch,
    refuseIf_of notAdjacent]
  rfl

end Leased

/-- A run to which a batch was submitted by the runner that leases it. -/
structure LeasedSubmission
    (run : WorkflowRun)
    (input : IngestProgress) : Prop where
  isRun : input.workflowRunId = run.id
  leased : requireLease none input.lease input.now run = .ok ()

def exampleDatabase (Trail : Type) (trail : Trail) : Database Trail :=
  { runs := []
    runners :=
      [{ id := js "runner"
         workspaceId := js "00000000-0000-4000-8000-000000000001"
         revoked := false
         credentialRevoked := false
         runnerVersion := js "1.0.0"
         runProtocolVersion := 1
         workflowSchemaVersion := 1
         canClaimJobs := true
         releaseBlocked := false
         draining := false
         secretInventory := none }]
    versions :=
      [{ id := js "version"
         workspaceId := js "00000000-0000-4000-8000-000000000001"
         workflow := exampleWorkflow
         definitionDigest := js "digest" }]
    policies :=
      [{ id := js "policy"
         workspaceId := js "00000000-0000-4000-8000-000000000001"
         digest := js "digest"
         active := true }]
    memberships :=
      [{ userId := js "owner"
         workspaceId := js "00000000-0000-4000-8000-000000000001"
         role := .owner }]
    trail }

def exampleCreateRun : CreateRun :=
  { actorUserId := js "owner"
    workflowVersionId := js "version"
    runnerDeviceId := js "runner"
    clientRunId := js "client"
    runProtocolVersion := 1
    recoveryMode := .automaticSafeAndManual
    pinnedSecretInventory := none
    isReady := true
    now := 0
    newRunId := js "00000000-0000-0000-0000-000000000005" }

def exampleClaim : ClaimRun :=
  { runnerDeviceId := js "runner"
    runnerVersion := js "1.0.0"
    runProtocolVersion := 1
    workflowSchemaVersion := 1
    claimAttemptId := js "attempt"
    leaseTokenHash := js "lease"
    now := 1
    leaseExpiresAt := 1000
    secretInventory := none }

def exampleLease : LeaseClaim :=
  { runnerDeviceId := js "runner"
    leaseTokenHash := js "lease" }

theorem singleton_parses
    {event : WorkflowProgressEvent}
    (parses : event.parses = true)
    (sequence : Nat) :
    [(⟨sequence, event⟩ : SequencedWorkflowProgressEvent)].all
        (·.event.parses) =
      true := by
  simp [parses]

/-- A submission of one event. -/
def exampleSubmission
    (clientBatchId : String)
    (previous : Nat)
    (kind : ProgressEventKind)
    (parses :
      ({ executionId := ⟨5⟩, timestamp := previous, kind } :
          WorkflowProgressEvent).parses =
        true) :
    IngestProgress :=
  { workflowRunId := js "00000000-0000-0000-0000-000000000005"
    lease := exampleLease
    batch :=
      { clientBatchId := js clientBatchId
        firstSequence := previous + 1
        lastSequence := previous + 1
        events :=
          [{ sequence := previous + 1
             event := { executionId := ⟨5⟩, timestamp := previous, kind } }]
        positive := Nat.succ_pos previous
        nonEmpty := List.cons_ne_nil _ _
        notTooMany := Nat.le_add_left 1 49
        eventsParse := singleton_parses parses _
        range := rfl
        contiguous := rfl }
    payloadDigest := js clientBatchId
    now := 2
    newAttemptId := fun _ => [] }

def exampleFirstSubmission : IngestProgress :=
  exampleSubmission "first" 0 (.runStatusChanged .pending none) rfl

/-- A run is created, claimed, and its first batch is accepted. -/
def exampleTransactions : List Transaction :=
  [.createRun exampleCreateRun, .claim exampleClaim,
    .ingestProgress exampleFirstSubmission]

/-- The run that the transactions leave behind. -/
def exampleRun : WorkflowRun :=
  { exampleCreateRun.row
      { id := js "version"
        workspaceId := js "00000000-0000-4000-8000-000000000001"
        workflow := exampleWorkflow
        definitionDigest := js "digest" }
      { id := js "policy"
        workspaceId := js "00000000-0000-4000-8000-000000000001"
        digest := js "digest"
        active := true } with
    status := .claimed
    claimAttemptId := some (js "attempt")
    leaseTokenHash := some (js "lease")
    leaseExpiresAt := some 1000
    claimedAt := some 1
    lastProgressSequence := 1
    lastEngineStatus := some .pending
    progressBatches := [exampleFirstSubmission.row] }

def exampleHasher : AuditHasher where
  sha256Hex _ := []

theorem exampleRun_found :
    (performAll exampleHasher (fun _ _ => some ())
      (exampleDatabase Unit ()) exampleTransactions).run? exampleRun.id =
      some exampleRun := by
  rfl

theorem exampleRun_submissions :
    accepted exampleHasher (fun _ _ => some ()) exampleRun.id
        (exampleDatabase Unit ()) exampleTransactions =
      [exampleFirstSubmission] := by
  rfl

end TaskTwin.RunStore
