import TaskTwin.RunStore.Steps

/-!
# What a change leaves as it is

The columns of a run that no change touches, the columns that the events of a
batch do not touch, and the batches, which are only ever added to.
-/

namespace TaskTwin.RunStore

open Text Schema Workflow Recovery Engine Audit Store

variable {Trail : Type} {hasher : AuditHasher}

/-- Events change the status, the start, the steps and the outputs only. -/
def EventFrame (state state' : Ingestion) : Prop :=
  state'.run =
    { state.run with
      status := state'.run.status
      startedAt := state'.run.startedAt
      steps := state'.run.steps
      outputs := state'.run.outputs }

theorem EventFrame.refl (state : Ingestion) : EventFrame state state := rfl

theorem EventFrame.trans
    {first second third : Ingestion}
    (frame : EventFrame first second)
    (frame' : EventFrame second third) :
    EventFrame first third := by
  unfold EventFrame at *
  rw [frame', frame]

section Events

variable
  {runnerDeviceId : JsString}
  {time : Nat}
  {state state' : Ingestion}

theorem applyRunStatus_frame
    {status : WorkflowEngineRunStatus}
    (applies :
      applyRunStatus hasher runnerDeviceId status time state = .ok state') :
    EventFrame state state' := by
  obtain ⟨_, -, applies⟩ := bind_eq_ok.mp applies
  split at applies <;> cases applies
  · unfold Ingestion.runs
    split
    · dsimp only
      split <;> rfl
    · rfl
  · unfold Ingestion.waitsForApproval
    split
    · dsimp only
      split
      · rfl
      · split <;> rfl
    · rfl
  · unfold Ingestion.waitsForRepair
    split
    · dsimp only
      split
      · rfl
      · split <;> rfl
    · rfl
  · rfl

theorem applyOutputProduced_frame
    {producerStepId : NonEmptyString}
    {outputName : Identifier}
    {outputType : WorkflowOutputType}
    (applies :
      applyOutputProduced hasher runnerDeviceId producerStepId outputName
          outputType time state =
        .ok state') :
    EventFrame state state' := by
  simp only [applyOutputProduced, bind_eq_ok, orThrow_eq_ok,
    refuseIf_eq_ok] at applies
  obtain ⟨output, -, producer, -, _, -, applies⟩ := applies
  cases applies
  rfl

variable {stepId : NonEmptyString} {newAttemptId : Nat → JsString}

theorem beginAttempt_frame
    {attemptNumber : Nat}
    {trigger : RetryTrigger}
    {effectCertainty : ExecutionEffectCertainty}
    {attemptId : JsString}
    (applies :
      beginAttempt hasher runnerDeviceId stepId attemptNumber trigger
          effectCertainty attemptId time state =
        .ok state') :
    EventFrame state state' := by
  simp only [beginAttempt, bind_eq_ok, orThrow_eq_ok,
    refuseIf_eq_ok] at applies
  obtain ⟨step, -, _, -, _, -, repairRequestId, -, applies⟩ := applies
  cases applies
  rfl

theorem endAttempt_frame
    {attemptNumber : Nat}
    {trigger : RetryTrigger}
    {status : StepAttemptStatus}
    {errorCode : Option ExecutionErrorCode}
    {effectCertainty : ExecutionEffectCertainty}
    (applies :
      endAttempt hasher runnerDeviceId stepId attemptNumber trigger status
          errorCode effectCertainty time state =
        .ok state') :
    EventFrame state state' := by
  simp only [endAttempt, bind_eq_ok, orThrow_eq_ok, refuseIf_eq_ok] at applies
  obtain ⟨step, -, attempt, -, _, -, applies⟩ := applies
  cases applies
  rfl

theorem applyStepStatus_frame
    {stepType : WorkflowStepType}
    {status : WorkflowEngineStepStatus}
    {errorCode : Option ExecutionErrorCode}
    {skippedReason : Option SkippedStepReason}
    (applies :
      applyStepStatus stepId stepType status errorCode skippedReason time
          state =
        .ok state') :
    EventFrame state state' := by
  simp only [applyStepStatus, bind_eq_ok, orThrow_eq_ok,
    refuseIf_eq_ok] at applies
  obtain ⟨step, -, _, -, _, -, _, -, applies⟩ := applies
  cases applies
  rfl

theorem applyEvent_frame
    {item : SequencedWorkflowProgressEvent}
    (applies :
      applyEvent hasher runnerDeviceId newAttemptId state item = .ok state') :
    EventFrame state state' := by
  obtain ⟨_, -, applies⟩ := bind_eq_ok.mp applies
  split at applies
  case h_1 => exact applyRunStatus_frame applies
  case h_2 =>
    cases applies
    rfl
  case h_3 => exact applyOutputProduced_frame applies
  case h_4 =>
    obtain ⟨_, -, applies⟩ := bind_eq_ok.mp applies
    cases applies
    rfl
  case h_5 =>
    obtain ⟨_, -, applies⟩ := bind_eq_ok.mp applies
    obtain ⟨_, -, applies⟩ := bind_eq_ok.mp applies
    cases applies
    rfl
  case h_6 =>
    split at applies
    · exact beginAttempt_frame applies
    · exact endAttempt_frame applies
  case h_7 => exact applyStepStatus_frame applies

/-- What holds of a state and is kept by every event holds at the end. -/
theorem applyEvents_induction
    {holds : Ingestion → Prop}
    (kept :
      ∀ state item state',
        holds state →
        applyEvent hasher runnerDeviceId newAttemptId state item =
            .ok state' →
        holds state')
    {items : List SequencedWorkflowProgressEvent}
    (before : holds state)
    (applies :
      applyEvents hasher runnerDeviceId newAttemptId items state =
        .ok state') :
    holds state' := by
  induction items generalizing state with
  | nil =>
      cases applies
      exact before
  | cons item items inductionHypothesis =>
      rw [applyEvents, List.foldlM_cons] at applies
      obtain ⟨next, isNext, applies⟩ := bind_eq_ok.mp applies
      exact inductionHypothesis (kept state item next before isNext) applies

theorem applyEvents_frame
    {items : List SequencedWorkflowProgressEvent}
    (applies :
      applyEvents hasher runnerDeviceId newAttemptId items state =
        .ok state') :
    EventFrame state state' :=
  applyEvents_induction
    (fun _ _ _ frame applied => frame.trans (applyEvent_frame applied))
    (EventFrame.refl state) applies

end Events

/-- A batch is replayed, or it is applied. -/
theorem ingestRun_cases
    {input : IngestProgress}
    {run : WorkflowRun}
    {change : RunChange ProgressBatchResult}
    (ingests : ingestRun hasher input run = .ok change) :
    requireLease none input.lease input.now run = .ok () ∧
      ((∃ existing ∈ run.progressBatches,
          existing.clientBatchId = input.batch.clientBatchId ∧
            change.run = run ∧ change.events = [] ∧
            change.answer.idempotent = true) ∨
        (input.batch.clientBatchId ∉
            run.progressBatches.map WorkflowRunProgressBatch.clientBatchId ∧
          input.batch.firstSequence = run.lastProgressSequence + 1 ∧
          ∃ state,
            applyEvents hasher input.lease.runnerDeviceId input.newAttemptId
                input.batch.events (.begin run) =
              .ok state ∧
              change = state.finish input)) := by
  obtain ⟨_, leased, ingests⟩ := bind_eq_ok.mp ingests
  refine ⟨leased, ?_⟩
  split at ingests
  case h_1 existing found =>
    obtain ⟨_, -, ingests⟩ := bind_eq_ok.mp ingests
    cases ingests
    obtain ⟨listed, sameId⟩ := mem_of_findUnique found
    exact Or.inl ⟨existing, listed, sameId, rfl, rfl, rfl⟩
  case h_2 notFound =>
    simp only [applyBatch, bind_eq_ok, refuseIf_eq_ok, pure_eq_ok,
      Decidable.not_not] at ingests
    obtain ⟨_, adjacent, state, applies, rfl⟩ := ingests
    refine Or.inr ⟨?_, adjacent, state, applies, rfl⟩
    intro listed
    obtain ⟨existing, isListed, sameId⟩ := List.mem_map.mp listed
    have notSame := List.find?_eq_none.mp notFound existing isListed
    simp [sameId] at notSame

/-- The columns that are written once, when a run is created. -/
structure SameIdentity (run run' : WorkflowRun) : Prop where
  id : run'.id = run.id
  workspaceId : run'.workspaceId = run.workspaceId
  workflowVersionId : run'.workflowVersionId = run.workflowVersionId
  runnerDeviceId : run'.runnerDeviceId = run.runnerDeviceId
  clientRunId : run'.clientRunId = run.clientRunId
  workflow : run'.workflow = run.workflow

theorem SameIdentity.refl (run : WorkflowRun) : SameIdentity run run :=
  ⟨rfl, rfl, rfl, rfl, rfl, rfl⟩

theorem EventFrame.sameIdentity
    {state state' : Ingestion}
    (frame : EventFrame state state') :
    SameIdentity state.run state'.run := by
  rw [frame]
  exact ⟨rfl, rfl, rfl, rfl, rfl, rfl⟩

theorem revoked_sameIdentity
    (run : WorkflowRun)
    (runnerDeviceId : JsString)
    (now : Nat) :
    SameIdentity run (run.revoked runnerDeviceId now) := by
  unfold WorkflowRun.revoked
  dsimp only
  split
  · split <;> exact ⟨rfl, rfl, rfl, rfl, rfl, rfl⟩
  · exact ⟨rfl, rfl, rfl, rfl, rfl, rfl⟩

theorem completeRun_cases
    {input : Complete}
    {run : WorkflowRun}
    {change : RunChange CompletionResult}
    (completes : completeRun hasher input run = .ok change) :
    (run.status.isTerminal = true ∧ run.hasRecorded input.completion = true ∧
        run.isReadable = true ∧
        change =
          { run, events := [], answer := { run, idempotent := true } }) ∨
      (run.status = .timedOut ∧
        run.terminationCause = some (.engine .approvalExpired) ∧
        run.clientCompletionId = none ∧
        matchesExpiry .approvalExpired input.completion.result run = true ∧
        run.isReadable = true ∧
        change =
          { run := run.recordCompletion input.completion
            events := []
            answer :=
              { run := run.recordCompletion input.completion
                idempotent := false } }) ∨
      (run.status.isTerminal = false ∧
        requireLease none input.lease input.now run = .ok () ∧
        input.completion.result.parses = true ∧
        resultAgrees input.completion.result run = true ∧
        (run.completed input.completion).isReadable = true ∧
        change =
          { run := run.completed input.completion
            events :=
              verificationEvents hasher input.lease.runnerDeviceId
                  input.completion.result run ++
                [buildRunTerminalInput hasher run
                  (completionEnding input.lease.runnerDeviceId
                    input.completion)]
            answer :=
              { run := run.completed input.completion
                idempotent := false } }) := by
  unfold completeRun at completes
  split at completes
  case isTrue finished =>
    unfold completeFinished at completes
    split at completes
    case isTrue recorded =>
      simp only [bind_eq_ok, toRecord] at completes
      obtain ⟨record, isRecord, completes⟩ := completes
      split at isRecord
      case isTrue readable =>
        cases isRecord
        cases completes
        exact Or.inl ⟨finished, recorded, readable, rfl⟩
      case isFalse => cases isRecord
    case isFalse notRecorded =>
      split at completes
      case isTrue expired =>
        obtain ⟨isTimedOut, isCause, notCompleted⟩ := expired
        simp only [bind_eq_ok, refuseIf_eq_ok, toRecord, Bool.not_eq_true',
          Bool.not_eq_false] at completes
        obtain ⟨_, isMatch, record, isRecord, completes⟩ := completes
        split at isRecord
        case isTrue readable =>
          cases isRecord
          cases completes
          exact Or.inr (Or.inl
            ⟨isTimedOut, isCause, notCompleted, isMatch, readable, rfl⟩)
        case isFalse => cases isRecord
      case isFalse => cases completes
  case isFalse unfinished =>
    simp only [completeUnfinished, bind_eq_ok, refuseIf_eq_ok, toRecord,
      Bool.not_eq_true', Bool.not_eq_false] at completes
    obtain ⟨_, leased, _, parses, _, agrees, record, isRecord, completes⟩ :=
      completes
    split at isRecord
    case isTrue readable =>
      cases isRecord
      cases completes
      exact Or.inr (Or.inr
        ⟨by simpa using unfinished, leased, parses, agrees, readable, rfl⟩)
    case isFalse => cases isRecord

theorem cancelUnfinished_cases
    {input : CancelRun}
    {run : WorkflowRun}
    {change : RunChange CompletionResult}
    (cancels : cancelUnfinished hasher input run = .ok change) :
    (run.status = .queued ∧
        change.run =
          { cancelRequests input.now run with
            steps :=
              run.steps.map (skipPendingStep (.engine .runCancelled) input.now)
            status := .cancelled
            cancelRequestedAt := some input.now
            cancelRequestedByUserId := some input.actorUserId
            finishedAt := some input.now
            terminationCause := some (.engine .runCancelled) } ∧
        change.events =
          lifecycleEvents hasher run .cancelled input.now ++
            [buildRunTerminalInput hasher change.run
              { actor := .user input.actorUserId
                terminalStatus := .cancelled
                terminationCause := .engine .runCancelled
                finishedAt := input.now
                engineResultDigest := none
                durationMs := none
                producedOutputCount := change.run.producedOutputCount }]) ∨
      (run.status ≠ .queued ∧
        change.run =
          { cancelRequests input.now run with
            status := .cancelRequested
            cancelRequestedAt := some (run.cancelRequestedAt.getD input.now)
            cancelRequestedByUserId :=
              some (run.cancelRequestedByUserId.getD input.actorUserId) } ∧
        change.events =
          lifecycleEvents hasher run .cancelled input.now ++
            [buildRunCancelRequestedInput hasher change.run input.actorUserId
              (run.cancelRequestedAt.getD input.now)]) := by
  unfold cancelUnfinished at cancels
  dsimp only at cancels
  split at cancels
  case isTrue queued =>
    obtain ⟨record, -, cancels⟩ := bind_eq_ok.mp cancels
    cases cancels
    exact Or.inl ⟨queued, rfl, rfl⟩
  case isFalse notQueued =>
    obtain ⟨record, -, cancels⟩ := bind_eq_ok.mp cancels
    cases cancels
    exact Or.inr ⟨notQueued, rfl, rfl⟩

/-- A request is known already, or it is created by a run that may ask. -/
theorem createApprovalOn_cases
    {input : CreateApproval}
    {run : WorkflowRun}
    {change : RunChange ApprovalRecord}
    (creates : createApprovalOn hasher input run = .ok change) :
    requireRequestLease input.lease input.now run = .ok () ∧
      (run.status = .running ∨ run.status = .waitingForApproval) ∧
      ((change.run = run ∧ change.events = []) ∨
        ∃ binding,
          requireApprovalBinding run.workflow input.approvalStepId =
              some binding ∧
            (∀ request ∈ run.approvalRequests,
              request.approvalStepId ≠ binding.approvalStepId) ∧
            input.now < input.expiresAt ∧
            change.run =
              { run with
                approvalRequests :=
                  run.approvalRequests ++ [input.row binding]
                status := .waitingForApproval
                steps :=
                  setStepStatus binding.approvalStepId .waitingForApproval
                    run.steps } ∧
            change.events =
              [buildApprovalRequestedInput hasher run
                input.lease.runnerDeviceId (input.row binding)]) := by
  simp only [createApprovalOn, bind_eq_ok, refuseIf_eq_ok,
    orThrow_eq_ok] at creates
  obtain ⟨_, leased, _, mayAsk, binding, bound, _, fits, creates⟩ := creates
  refine ⟨leased, by tauto, ?_⟩
  split at creates
  case h_1 existing found =>
    simp only [bind_eq_ok] at creates
    obtain ⟨_, -, _, -, creates⟩ := creates
    cases creates
    exact Or.inl ⟨rfl, rfl⟩
  case h_2 notFound =>
    obtain ⟨record, -, creates⟩ := bind_eq_ok.mp creates
    cases creates
    refine Or.inr ⟨binding, bound, ?_, by omega, rfl, rfl⟩
    intro request listed sameStep
    have notSame := List.find?_eq_none.mp notFound request listed
    simp [sameStep] at notSame

theorem createRepairOn_cases
    {input : CreateRepair}
    {run : WorkflowRun}
    {change : RunChange RepairRecord}
    (creates : createRepairOn hasher input run = .ok change) :
    requireRequestLease input.lease input.now run = .ok () ∧
      (run.status = .running ∨ run.status = .waitingForRepair) ∧
      ((change.run = run ∧ change.events = []) ∨
        ∃ stepIndex retryAllowed,
          input.now < input.expiresAt ∧
            change.run =
              { run with
                repairRequests :=
                  run.repairRequests ++ [input.row stepIndex retryAllowed]
                status := .waitingForRepair
                steps :=
                  setStepStatus input.stepId .waitingForRepair run.steps } ∧
            change.events =
              [buildRepairRequestedInput hasher run input.lease.runnerDeviceId
                (input.row stepIndex retryAllowed)]) := by
  simp only [createRepairOn, bind_eq_ok, refuseIf_eq_ok,
    orThrow_eq_ok] at creates
  obtain ⟨_, leased, _, mayAsk, stepIndex, -, step, -, stored, -, attempt, -,
    _, -, _, -, _, inTime, creates⟩ := creates
  refine ⟨leased, by tauto, ?_⟩
  split at creates
  case h_1 existing found =>
    simp only [bind_eq_ok] at creates
    obtain ⟨_, -, _, -, creates⟩ := creates
    cases creates
    exact Or.inl ⟨rfl, rfl⟩
  case h_2 notFound =>
    obtain ⟨record, -, creates⟩ := bind_eq_ok.mp creates
    cases creates
    exact Or.inr ⟨stepIndex, _, by omega, rfl, rfl⟩

theorem decideApprovalOn_cases
    {input : DecideApproval}
    {role : OrganizationRole}
    {request : WorkflowApprovalRequest}
    {run : WorkflowRun}
    {change : RunChange ApprovalRecord}
    (decides : decideApprovalOn hasher input role request run = .ok change) :
    (change.run = run ∧ change.events = []) ∨
      (request.status = .pending ∧ input.now < request.expiresAt ∧
        change.run = run.changeApproval request.id input.decided ∧
        change.events =
          [buildApprovalDecidedInput hasher run input.userId request.id
            input.decision input.now]) := by
  obtain ⟨_, -, decides⟩ := bind_eq_ok.mp decides
  split at decides
  case isTrue =>
    obtain ⟨record, -, decides⟩ := bind_eq_ok.mp decides
    cases decides
    exact Or.inl ⟨rfl, rfl⟩
  case isFalse =>
    simp only [bind_eq_ok, refuseIf_eq_ok] at decides
    obtain ⟨_, -, _, pending, _, inTime, record, -, decides⟩ := decides
    cases decides
    exact Or.inr ⟨by simpa using pending, by omega, rfl, rfl⟩

theorem decideRepairOn_cases
    {input : DecideRepair}
    {role : OrganizationRole}
    {request : WorkflowRepairRequest}
    {run : WorkflowRun}
    {change : RunChange RepairRecord}
    (decides : decideRepairOn hasher input role request run = .ok change) :
    (change.run = run ∧ change.events = []) ∨
      (request.status = .pending ∧ input.now < request.expiresAt ∧
        change.run = run.changeRepair request.id input.decided ∧
        change.events =
          [buildRepairDecidedInput hasher run input.userId request.id
            input.decision input.now]) := by
  obtain ⟨_, -, decides⟩ := bind_eq_ok.mp decides
  split at decides
  case isTrue =>
    obtain ⟨record, -, decides⟩ := bind_eq_ok.mp decides
    cases decides
    exact Or.inl ⟨rfl, rfl⟩
  case isFalse =>
    simp only [bind_eq_ok, refuseIf_eq_ok, not_or, not_le] at decides
    obtain ⟨_, ⟨pending, inTime, -⟩, _, -, record, -, decides⟩ := decides
    cases decides
    exact Or.inr ⟨by simpa using pending, inTime, rfl, rfl⟩

theorem claimQueued_cases
    (input : ClaimRun)
    (runner : RunnerDevice)
    (activePolicyId : Option JsString)
    (run : WorkflowRun) :
    (∃ actorReason cause reason,
        claimQueued hasher input runner activePolicyId run =
          failBeforeExecution hasher actorReason cause reason input.now run) ∨
      ((claimQueued hasher input runner activePolicyId run).run =
          { run with
            status := .claimed
            claimAttemptId := some input.claimAttemptId
            leaseTokenHash := some input.leaseTokenHash
            leaseExpiresAt := some input.leaseExpiresAt
            claimedAt := some input.now } ∧
        (claimQueued hasher input runner activePolicyId run).events =
          [buildRunClaimedInput hasher
            (claimQueued hasher input runner activePolicyId run).run
            input.runnerDeviceId input.claimAttemptId input.leaseExpiresAt
            input.now]) := by
  unfold claimQueued
  split
  case isTrue => exact Or.inl ⟨_, _, _, rfl⟩
  case isFalse =>
    split
    case isTrue => exact Or.inl ⟨_, _, _, rfl⟩
    case isFalse => exact Or.inr ⟨rfl, rfl⟩

theorem expireApprovalOn_frame
    (request : WorkflowApprovalRequest)
    (now : Nat)
    (terminateRun : Bool)
    (run : WorkflowRun) :
    ∃ status finishedAt cause leaseTokenHash leaseExpiresAt steps requests,
      (expireApprovalOn hasher request now terminateRun run).run =
        { run with
          status
          finishedAt
          terminationCause := cause
          leaseTokenHash
          leaseExpiresAt
          steps
          approvalRequests := requests } := by
  unfold expireApprovalOn WorkflowRun.approvalTimedOut
  dsimp only
  split
  · split <;> exact ⟨_, _, _, _, _, _, _, rfl⟩
  · exact ⟨_, _, _, _, _, _, _, rfl⟩

theorem expireRepairOn_frame
    (request : WorkflowRepairRequest)
    (now : Nat)
    (terminateRun : Bool)
    (run : WorkflowRun) :
    ∃ status finishedAt cause leaseTokenHash leaseExpiresAt steps requests,
      (expireRepairOn hasher request now terminateRun run).run =
        { run with
          status
          finishedAt
          terminationCause := cause
          leaseTokenHash
          leaseExpiresAt
          steps
          repairRequests := requests } := by
  unfold expireRepairOn WorkflowRun.repairTimedOut
  dsimp only
  split
  · split <;> exact ⟨_, _, _, _, _, _, _, rfl⟩
  · exact ⟨_, _, _, _, _, _, _, rfl⟩

theorem ingestRun_frame
    {input : IngestProgress}
    {run : WorkflowRun}
    {change : RunChange ProgressBatchResult}
    (ingests : ingestRun hasher input run = .ok change) :
    SameIdentity run change.run := by
  obtain ⟨-, ⟨_, -, -, isRun, -, -⟩ | ⟨-, -, state, applies, rfl⟩⟩ :=
    ingestRun_cases ingests
  · exact isRun ▸ SameIdentity.refl run
  · have same := (applyEvents_frame applies).sameIdentity
    exact ⟨same.id, same.workspaceId, same.workflowVersionId,
      same.runnerDeviceId, same.clientRunId, same.workflow⟩

theorem RunStep.sameIdentity
    {transaction : Transaction}
    {run run' : WorkflowRun}
    {events : List AuditEventInput}
    (step : RunStep hasher transaction run run' events) :
    SameIdentity run run' := by
  cases step with
  | unchanged => exact SameIdentity.refl run
  | interrupted now expired => exact ⟨rfl, rfl, rfl, rfl, rfl, rfl⟩
  | renewed => exact ⟨rfl, rfl, rfl, rfl, rfl, rfl⟩
  | claimed input _ runner activePolicyId =>
      rcases @claimQueued_cases hasher input runner activePolicyId
          run with ⟨_, _, _, isFailed⟩ | ⟨isClaimed, -⟩
      · rw [isFailed]
        exact ⟨rfl, rfl, rfl, rfl, rfl, rfl⟩
      · rw [isClaimed]
        exact ⟨rfl, rfl, rfl, rfl, rfl, rfl⟩
  | ingested input _ change _ ingests => exact ingestRun_frame ingests
  | completed input _ change completes =>
      rcases completeRun_cases completes with
        ⟨-, -, -, rfl⟩ | ⟨-, -, -, -, -, rfl⟩ | ⟨-, -, -, -, -, rfl⟩ <;>
          exact ⟨rfl, rfl, rfl, rfl, rfl, rfl⟩
  | cancelled input _ change _ cancels =>
      rcases cancelUnfinished_cases cancels with
        ⟨-, isRun, -⟩ | ⟨-, isRun, -⟩ <;>
          rw [isRun] <;> exact ⟨rfl, rfl, rfl, rfl, rfl, rfl⟩
  | approvalCreated input _ change creates =>
      obtain ⟨-, -, ⟨isRun, -⟩ | ⟨_, -, -, -, isRun, -⟩⟩ :=
        createApprovalOn_cases creates <;>
          rw [isRun] <;> exact ⟨rfl, rfl, rfl, rfl, rfl, rfl⟩
  | approvalExpired request now terminateRun =>
      obtain ⟨_, _, _, _, _, _, _, isRun⟩ :=
        @expireApprovalOn_frame hasher request now terminateRun run
      rw [isRun]
      exact ⟨rfl, rfl, rfl, rfl, rfl, rfl⟩
  | approvalDecided input _ role request change _ decides =>
      rcases decideApprovalOn_cases decides with
        ⟨isRun, -⟩ | ⟨-, -, isRun, -⟩ <;>
          rw [isRun] <;> exact ⟨rfl, rfl, rfl, rfl, rfl, rfl⟩
  | repairCreated input _ change creates =>
      obtain ⟨-, -, ⟨isRun, -⟩ | ⟨_, _, -, isRun, -⟩⟩ :=
        createRepairOn_cases creates <;>
          rw [isRun] <;> exact ⟨rfl, rfl, rfl, rfl, rfl, rfl⟩
  | repairExpired request now terminateRun =>
      obtain ⟨_, _, _, _, _, _, _, isRun⟩ :=
        @expireRepairOn_frame hasher request now terminateRun run
      rw [isRun]
      exact ⟨rfl, rfl, rfl, rfl, rfl, rfl⟩
  | repairDecided input _ role request change _ decides =>
      rcases decideRepairOn_cases decides with
        ⟨isRun, -⟩ | ⟨-, -, isRun, -⟩ <;>
          rw [isRun] <;> exact ⟨rfl, rfl, rfl, rfl, rfl, rfl⟩

/-- Identifiers tell runs apart. -/
def DistinctRuns (db : Database Trail) : Prop :=
  (db.runs.map WorkflowRun.id).Nodup

variable
  {append : Trail → JsValue → Option Trail}
  {transaction : Transaction}
  {db db' : Database Trail}

theorem DistinctRuns.eq
    (distinct : DistinctRuns db)
    {run other : WorkflowRun}
    (listed : run ∈ db.runs)
    (listed' : other ∈ db.runs)
    (sameId : other.id = run.id) :
    other = run :=
  eq_of_key distinct listed' listed sameId

theorem DistinctRuns.run?
    (distinct : DistinctRuns db)
    {run : WorkflowRun}
    (listed : run ∈ db.runs) :
    db.run? run.id = some run :=
  findUnique_of_mem distinct listed

theorem putRun_ids
    (run : WorkflowRun) :
    (db.putRun run).runs.map WorkflowRun.id = db.runs.map WorkflowRun.id := by
  simp only [Database.putRun, updateMany, List.map_map]
  refine List.map_congr_left fun row _ => ?_
  simp only [Function.comp_apply]
  split
  case isTrue sameId => exact (by simpa using sameId : row.id = run.id).symm
  case isFalse => rfl

theorem revoked_ids
    (runnerDeviceId : JsString)
    (now : Nat) :
    (db.runs.map fun run => run.revoked runnerDeviceId now).map
        WorkflowRun.id =
      db.runs.map WorkflowRun.id := by
  rw [List.map_map]
  exact List.map_congr_left fun run _ =>
    (revoked_sameIdentity run runnerDeviceId now).id

/-- Every change keeps the identifiers distinct. -/
theorem distinctRuns_kept :
    KeptByCommits hasher append (@DistinctRuns Trail) := by
  intro transaction db db' distinct commit
  cases commit with
  | created input _ version policy trail free => exact free
  | changed run run' events trail listed step appended =>
      exact (congrArg List.Nodup (putRun_ids run')).mpr distinct
  | revoked input _ runners =>
      exact (congrArg List.Nodup (revoked_ids _ _)).mpr distinct

/-- Changing rows in place changes the row that is found. -/
theorem findUnique_map
    {α κ : Type}
    [DecidableEq κ]
    {key : α → κ}
    {change : α → α}
    (keeps : ∀ row, key (change row) = key row)
    (wanted : κ)
    (rows : List α) :
    findUnique key wanted (rows.map change) =
      (findUnique key wanted rows).map change := by
  rw [findUnique, List.find?_map]
  have sameTest :
      ((fun row => decide (key row = wanted)) ∘ change) =
        fun row => decide (key row = wanted) := by
    funext row
    simp [keeps]
  rw [sameTest]
  rfl

/-- The row of a run is found where it was written. -/
theorem run?_putRun
    (runId : JsString)
    {run : WorkflowRun}
    (stored : ∃ row ∈ db.runs, row.id = run.id) :
    (db.putRun run).run? runId =
      if runId = run.id then some run else db.run? runId := by
  have isMap :
      (db.putRun run).run? runId =
        (db.run? runId).map fun row => if row.id = run.id then run else row := by
    rw [Database.run?, Database.putRun, updateMany]
    simp only [decide_eq_true_eq]
    refine findUnique_map (fun row => ?_) runId db.runs
    split
    case isTrue sameId => exact sameId.symm
    case isFalse => rfl
  rw [isMap]
  split
  case isTrue isRun =>
    obtain ⟨row, listed, sameId⟩ := stored
    cases found : db.run? runId with
    | none =>
        have notFound := List.find?_eq_none.mp found row listed
        simp [sameId, isRun] at notFound
    | some other =>
        have isOther := (Database.mem_of_run? found).2
        simp [isOther, isRun]
  case isFalse notRun =>
    cases found : db.run? runId with
    | none => rfl
    | some other =>
        have isOther := (Database.mem_of_run? found).2
        simp [isOther, notRun]

/-- What a change of the database is for the run with an identifier. -/
inductive RowMove (hasher : AuditHasher) (transaction : Transaction) :
    Option WorkflowRun → Option WorkflowRun → Prop where
  | same (row : Option WorkflowRun) : RowMove hasher transaction row row
  | created
      (input : CreateRun)
      (isCreation : transaction = .createRun input)
      (version : WorkflowVersion)
      (policy : PolicyVersion) :
      RowMove hasher transaction none (some (input.row version policy))
  | changed
      (run run' : WorkflowRun)
      (events : List AuditEventInput)
      (step : RunStep hasher transaction run run' events) :
      RowMove hasher transaction (some run) (some run')
  | revoked
      (input : RevokeRunner)
      (isRevocation : transaction = .revokeRunnerDevice input)
      (run : WorkflowRun) :
      RowMove hasher transaction (some run)
        (some (run.revoked input.runnerDeviceId input.now))

theorem Commit.rowMove
    (distinct : DistinctRuns db)
    (commit : Commit hasher append transaction db db')
    (runId : JsString) :
    RowMove hasher transaction (db.run? runId) (db'.run? runId) := by
  cases commit with
  | created input isCreation version policy trail free =>
      have isAppended :
          ({ db with
              runs := db.runs ++ [input.row version policy], trail } :
              Database Trail).run? runId =
            (db.run? runId).or
              (if input.newRunId = runId then some (input.row version policy)
                else none) := by
        simp only [Database.run?, findUnique, List.find?_append,
          List.find?_cons, List.find?_nil, CreateRun.row]
        split <;> simp_all
      rw [isAppended]
      cases found : db.run? runId with
      | some run => exact .same (some run)
      | none =>
          simp only [Option.none_or]
          split
          case isTrue => exact .created input isCreation version policy
          case isFalse => exact .same none
  | changed run run' events trail listed step appended =>
      have sameId := step.sameIdentity.id
      have isPut :
          ({ db.putRun run' with trail } : Database Trail).run? runId =
            if runId = run'.id then some run' else db.run? runId :=
        run?_putRun runId ⟨run, listed, sameId.symm⟩
      rw [isPut]
      split
      case isTrue isRun =>
        rw [isRun, sameId, distinct.run? listed]
        exact .changed run run' events step
      case isFalse => exact .same _
  | revoked input isRevocation runners =>
      have isMap :
          ({ db with
              runners
              runs :=
                db.runs.map fun run =>
                  run.revoked input.runnerDeviceId input.now } :
              Database Trail).run? runId =
            (db.run? runId).map fun run =>
              run.revoked input.runnerDeviceId input.now :=
        findUnique_map
          (fun run => (revoked_sameIdentity run _ _).id) runId db.runs
      rw [isMap]
      cases found : db.run? runId with
      | none => exact .same none
      | some run => exact .revoked input isRevocation run

/-- What every move of a row keeps is kept by a transaction. -/
theorem Commits.rowMoves
    {keeps : Option WorkflowRun → Option WorkflowRun → Prop}
    (refl : ∀ row, keeps row row)
    (trans :
      ∀ first second third,
        keeps first second → keeps second third → keeps first third)
    (moves :
      ∀ row row', RowMove hasher transaction row row' → keeps row row')
    (distinct : DistinctRuns db)
    (commits : Commits hasher append transaction db db')
    (runId : JsString) :
    DistinctRuns db' ∧ keeps (db.run? runId) (db'.run? runId) := by
  induction commits with
  | refl => exact ⟨distinct, refl _⟩
  | tail _ commit inductionHypothesis =>
      obtain ⟨distinct', kept⟩ := inductionHypothesis
      exact ⟨distinctRuns_kept _ _ _ distinct' commit,
        trans _ _ _ kept (moves _ _ (commit.rowMove distinct' runId))⟩

end TaskTwin.RunStore
