import TaskTwin.RunStore.ProgressLedger

/-!
# Queued runs have not begun

A run that is queued has no attempts: attempts begin with the progress that a
runner reports under a lease, and no run returns to the queue.
-/

namespace TaskTwin.RunStore

open Text Schema Workflow Engine Audit Store

variable {Trail : Type} {hasher : AuditHasher}

/-- A run without attempts, as long as it is queued. -/
def WorkflowRun.HasNotBegun (run : WorkflowRun) : Prop :=
  run.status = .queued → ∀ step ∈ run.steps, step.attempts = []

theorem WorkflowRun.hasNotBegun_of_status
    {run : WorkflowRun}
    (notQueued : run.status ≠ .queued) :
    run.HasNotBegun :=
  fun queued => absurd queued notQueued

theorem createdSteps_attempts
    (workflow : WorkflowDefinition) :
    ∀ step ∈ createdSteps workflow, step.attempts = [] := by
  intro step listed
  obtain ⟨indexed, -, rfl⟩ := List.mem_map.mp listed
  rfl

theorem not_queued_of_requireLease
    {runner : Option RunnerDevice}
    {lease : LeaseClaim}
    {now : Nat}
    {run : WorkflowRun}
    (leased : requireLease runner lease now run = .ok ()) :
    run.status ≠ .queued := by
  simp only [requireLease, bind_eq_ok, refuseIf_eq_ok] at leased
  obtain ⟨_, -, _, -, _, -, _, valid, -⟩ := leased
  intro queued
  apply valid
  left
  rw [queued]
  rfl

section Events

variable
  {runnerDeviceId : JsString}
  {time : Nat}
  {state state' : Ingestion}

/-- The status of a run that tells of itself is none of a queued run. -/
theorem applyRunStatus_notQueued
    {status : WorkflowEngineRunStatus}
    (notQueued : state.run.status ≠ .queued)
    (applies :
      applyRunStatus hasher runnerDeviceId status time state = .ok state') :
    state'.run.status ≠ .queued := by
  obtain ⟨_, -, applies⟩ := bind_eq_ok.mp applies
  split at applies <;> cases applies
  · unfold Ingestion.runs
    split
    · dsimp only
      split
      · intro queued
        cases queued
      · intro queued
        cases queued
    · exact notQueued
  · unfold Ingestion.waitsForApproval
    split
    · dsimp only
      split
      · intro queued
        cases queued
      · split
        · intro queued
          cases queued
        · intro queued
          cases queued
    · exact notQueued
  · unfold Ingestion.waitsForRepair
    split
    · dsimp only
      split
      · intro queued
        cases queued
      · split
        · intro queued
          cases queued
        · intro queued
          cases queued
    · exact notQueued
  · exact notQueued

/-- No event returns a run to the queue. -/
theorem applyEvent_notQueued
    {newAttemptId : Nat → JsString}
    {item : SequencedWorkflowProgressEvent}
    (notQueued : state.run.status ≠ .queued)
    (applies :
      applyEvent hasher runnerDeviceId newAttemptId state item = .ok state') :
    state'.run.status ≠ .queued := by
  obtain ⟨_, -, applies⟩ := bind_eq_ok.mp applies
  split at applies
  case h_1 => exact applyRunStatus_notQueued notQueued applies
  case h_2 =>
    cases applies
    exact notQueued
  case h_3 =>
    simp only [applyOutputProduced, bind_eq_ok, orThrow_eq_ok,
      refuseIf_eq_ok] at applies
    obtain ⟨output, -, producer, -, _, -, applies⟩ := applies
    cases applies
    exact notQueued
  case h_4 =>
    obtain ⟨_, -, applies⟩ := bind_eq_ok.mp applies
    cases applies
    exact notQueued
  case h_5 =>
    obtain ⟨_, -, applies⟩ := bind_eq_ok.mp applies
    obtain ⟨_, -, applies⟩ := bind_eq_ok.mp applies
    cases applies
    exact notQueued
  case h_6 =>
    split at applies
    · simp only [beginAttempt, bind_eq_ok, orThrow_eq_ok,
        refuseIf_eq_ok] at applies
      obtain ⟨step, -, _, -, _, -, repairRequestId, -, applies⟩ := applies
      cases applies
      exact notQueued
    · simp only [endAttempt, bind_eq_ok, orThrow_eq_ok,
        refuseIf_eq_ok] at applies
      obtain ⟨step, -, attempt, -, _, -, applies⟩ := applies
      cases applies
      exact notQueued
  case h_7 =>
    simp only [applyStepStatus, bind_eq_ok, orThrow_eq_ok,
      refuseIf_eq_ok] at applies
    obtain ⟨step, -, _, -, _, -, _, -, applies⟩ := applies
    cases applies
    exact notQueued

end Events

theorem ingestRun_notQueued
    {input : IngestProgress}
    {run : WorkflowRun}
    {change : RunChange ProgressBatchResult}
    (ingests : ingestRun hasher input run = .ok change) :
    change.run.status ≠ .queued := by
  obtain ⟨leased, ⟨_, -, -, isRun, -, -⟩ | ⟨-, -, state, applies, rfl⟩⟩ :=
    ingestRun_cases ingests
  · rw [isRun]
    exact not_queued_of_requireLease leased
  · have notQueued :=
      applyEvents_induction
        (fun _ _ _ notQueued applied =>
          applyEvent_notQueued notQueued applied)
        (not_queued_of_requireLease leased : (Ingestion.begin run).run.status ≠
          .queued)
        applies
    exact notQueued

@[simp] theorem skipPendingStep_attempts
    (reason : StoredSkippedReason)
    (now : Nat)
    (step : WorkflowRunStep) :
    (skipPendingStep reason now step).attempts = step.attempts := by
  unfold skipPendingStep
  split <;> rfl

theorem approvalExpiredStep_attempts
    (approvalStepId : NonEmptyString)
    (now : Nat)
    (step : WorkflowRunStep) :
    (approvalExpiredStep approvalStepId now step).attempts =
      step.attempts := by
  rw [approvalExpiredStep, skipPendingStep_attempts]
  split <;> rfl

theorem repairExpiredStep_attempts
    (stepId : NonEmptyString)
    (now : Nat)
    (step : WorkflowRunStep) :
    (repairExpiredStep stepId now step).attempts = step.attempts := by
  rw [repairExpiredStep, skipPendingStep_attempts]
  split <;> rfl

/-- A change of steps that keeps their attempts keeps that there are none. -/
theorem attempts_map
    {change : WorkflowRunStep → WorkflowRunStep}
    {steps : List WorkflowRunStep}
    (keeps : ∀ step, step.attempts = [] → (change step).attempts = [])
    (noAttempts : ∀ step ∈ steps, step.attempts = []) :
    ∀ step ∈ steps.map change, step.attempts = [] := by
  intro step listed
  obtain ⟨before, isStep, rfl⟩ := List.mem_map.mp listed
  exact keeps before (noAttempts before isStep)

/-- No change of a run begins an attempt at a queued run. -/
theorem RunStep.hasNotBegun
    {transaction : Transaction}
    {run run' : WorkflowRun}
    {events : List AuditEventInput}
    (notBegun : run.HasNotBegun)
    (step : RunStep hasher transaction run run' events) :
    run'.HasNotBegun := by
  cases step with
  | unchanged => exact notBegun
  | interrupted now expired =>
      intro queued
      cases queued
  | renewed input isRenewal runner leased =>
      have notQueued := not_queued_of_requireLease leased
      exact WorkflowRun.hasNotBegun_of_status notQueued
  | claimed input isClaim runner activePolicyId queued ofRunner =>
      intro queued'
      rcases @claimQueued_cases hasher input runner activePolicyId run with
        ⟨_, _, _, isFailed⟩ | ⟨isClaimed, -⟩
      · rw [isFailed] at queued'
        cases queued'
      · rw [isClaimed] at queued'
        cases queued'
  | ingested input _ change _ ingests =>
      exact WorkflowRun.hasNotBegun_of_status (ingestRun_notQueued ingests)
  | completed input _ change completes =>
      rcases completeRun_cases completes with
        ⟨-, -, -, rfl⟩ | ⟨-, -, -, -, -, rfl⟩ | ⟨-, -, -, -, -, rfl⟩
      · exact notBegun
      · exact notBegun
      · intro queued
        have terminal :=
          persistedRunStatus_isTerminal input.completion.result.status
        rw [show persistedRunStatus input.completion.result.status = .queued
          from queued] at terminal
        cases terminal
  | cancelled input _ change _ cancels =>
      intro queued
      rcases cancelUnfinished_cases cancels with
        ⟨-, isRun, -⟩ | ⟨-, isRun, -⟩
      · rw [isRun] at queued
        cases queued
      · rw [isRun] at queued
        cases queued
  | approvalCreated input _ change creates =>
      obtain ⟨-, mayAsk, ⟨isRun, -⟩ | ⟨_, -, -, -, isRun, -⟩⟩ :=
        createApprovalOn_cases creates
      · rw [isRun]
        exact notBegun
      · intro queued
        rw [isRun] at queued
        cases queued
  | approvalExpired request now terminateRun =>
      intro queued
      unfold expireApprovalOn WorkflowRun.approvalTimedOut at queued ⊢
      dsimp only at queued ⊢
      split at queued
      case isFalse keeps =>
        rw [if_neg keeps]
        exact notBegun queued
      case isTrue terminates =>
        split at queued
        case isTrue => cases queued
        case isFalse =>
          rw [if_pos terminates]
          apply attempts_map _ (notBegun queued)
          intro step none
          rw [approvalExpiredStep_attempts]
          exact none
  | approvalDecided input _ role request change _ decides =>
      rcases decideApprovalOn_cases decides with
        ⟨isRun, -⟩ | ⟨-, -, isRun, -⟩
      · rw [isRun]
        exact notBegun
      · rw [isRun]
        exact notBegun
  | repairCreated input _ change creates =>
      obtain ⟨-, mayAsk, ⟨isRun, -⟩ | ⟨_, _, -, isRun, -⟩⟩ :=
        createRepairOn_cases creates
      · rw [isRun]
        exact notBegun
      · intro queued
        rw [isRun] at queued
        cases queued
  | repairExpired request now terminateRun =>
      intro queued
      unfold expireRepairOn WorkflowRun.repairTimedOut at queued ⊢
      dsimp only at queued ⊢
      split at queued
      case isFalse keeps =>
        rw [if_neg keeps]
        exact notBegun queued
      case isTrue terminates =>
        split at queued
        case isTrue => cases queued
        case isFalse =>
          rw [if_pos terminates]
          apply attempts_map _ (notBegun queued)
          intro step none
          rw [repairExpiredStep_attempts]
          exact none
  | repairDecided input _ role request change _ decides =>
      rcases decideRepairOn_cases decides with
        ⟨isRun, -⟩ | ⟨-, -, isRun, -⟩
      · rw [isRun]
        exact notBegun
      · rw [isRun]
        exact notBegun

theorem revoked_hasNotBegun
    {run : WorkflowRun}
    (notBegun : run.HasNotBegun)
    (runnerDeviceId : JsString)
    (now : Nat) :
    (run.revoked runnerDeviceId now).HasNotBegun := by
  intro queued
  unfold WorkflowRun.revoked at queued ⊢
  dsimp only at queued ⊢
  split at queued
  case isFalse ofOther =>
    rw [if_neg ofOther]
    exact notBegun queued
  case isTrue ofRunner =>
    rw [if_pos ofRunner]
    split at queued
    case isTrue => cases queued
    case isFalse inactive =>
      rw [if_neg inactive]
      apply attempts_map _ (notBegun queued)
      intro step none
      rw [interruptAttempts, none]
      rfl

/-- No run that is queued has begun. -/
def QueuedHaveNotBegun (db : Database Trail) : Prop :=
  ∀ run ∈ db.runs, run.HasNotBegun

theorem putRun_hasNotBegun
    {db : Database Trail}
    {run : WorkflowRun}
    (notBegun : QueuedHaveNotBegun db)
    (isNew : run.HasNotBegun) :
    QueuedHaveNotBegun (db.putRun run) := by
  intro row listed
  obtain ⟨before, isRow, rfl⟩ := List.mem_map.mp listed
  dsimp only
  split
  · exact isNew
  · exact notBegun before isRow

variable {append : Trail → JsValue → Option Trail}

theorem queuedHaveNotBegun_kept :
    KeptByCommits hasher append (@QueuedHaveNotBegun Trail) := by
  intro transaction db db' notBegun commit
  cases commit with
  | created input _ version policy trail free =>
      intro run listed
      rw [List.mem_append] at listed
      rcases listed with old | isNew
      · exact notBegun run old
      · obtain rfl := List.mem_singleton.mp isNew
        exact fun _ => createdSteps_attempts version.workflow
  | changed run run' events trail listed step appended =>
      exact putRun_hasNotBegun notBegun (step.hasNotBegun (notBegun run listed))
  | revoked input _ runners =>
      intro run listed
      obtain ⟨before, isRow, rfl⟩ := List.mem_map.mp listed
      exact revoked_hasNotBegun (notBegun before isRow) _ _

end TaskTwin.RunStore

namespace TaskTwin.RunStore

open Text Audit Store

variable
  {Trail : Type}
  {hasher : AuditHasher}
  {append : Trail → JsValue → Option Trail}
  {store store' : Database Trail}
  {input : ClaimRun}
  {runner : RunnerDevice}
  {runId : JsString}

/-- A runner that a claim gives the run queued next. -/
structure CanClaim
    (store : Database Trail)
    (input : ClaimRun)
    (runner : RunnerDevice) :
    Prop where
  found :
    findUnique RunnerDevice.id input.runnerDeviceId store.runners = some runner
  notRevoked : runner.revoked = false
  compatible :
    ¬(!runner.canClaimJobs ∨ input.runnerVersion ≠ runner.runnerVersion ∨
        input.runProtocolVersion ≠ runner.runProtocolVersion ∨
        input.workflowSchemaVersion ≠ runner.workflowSchemaVersion ∨
        runner.releaseBlocked)
  firstAttempt :
    ∀ run ∈ store.runs,
      run.runnerDeviceId = input.runnerDeviceId →
      run.claimAttemptId ≠ some input.claimAttemptId
  notDraining : runner.draining = false
  idle :
    ∀ run,
      store.runs.find? (fun run =>
          run.runnerDeviceId = input.runnerDeviceId ∧ run.status.isActive) =
        some run →
      run.leaseHasExpired input.now = true

/-- The rows after a committed change. -/
theorem commitChange_run?
    {α : Type}
    {change : RunChange α}
    {answer : α}
    {run : WorkflowRun}
    (listed : run ∈ store.runs)
    (sameId : change.run.id = run.id)
    (committed : commitChange append change store = .ok (store', answer))
    (runId : JsString) :
    store'.run? runId =
      if runId = run.id then some change.run else store.run? runId := by
  obtain ⟨trail, -, rfl, -⟩ := commitChange_eq_ok.mp committed
  rw [← sameId]
  exact run?_putRun runId ⟨run, listed, sameId.symm⟩

/-- A change of an active run leaves queued runs as they are. -/
theorem commitChange_queued
    {α : Type}
    {change : RunChange α}
    {answer : α}
    {run active : WorkflowRun}
    (distinct : DistinctRuns store)
    (listed : active ∈ store.runs)
    (isActive : active.status.isActive = true)
    (sameId : change.run.id = active.id)
    (committed : commitChange append change store = .ok (store', answer))
    (found : store.run? runId = some run)
    (queued : run.status = .queued) :
    store'.run? runId = some run := by
  have notActive : runId ≠ active.id := by
    rintro rfl
    rw [distinct.run? listed] at found
    obtain rfl := Option.some.inj found
    rw [queued] at isActive
    cases isActive
  rw [commitChange_run? listed sameId committed, if_neg notActive]
  exact found

/-- A change outside of what a filter keeps is not seen through it. -/
theorem filter_map_of_outside
    {α : Type}
    {keeps : α → Bool}
    {change : α → α}
    {rows : List α}
    (outside :
      ∀ row ∈ rows, change row = row ∨
        (keeps row = false ∧ keeps (change row) = false)) :
    (rows.map change).filter keeps = rows.filter keeps := by
  induction rows with
  | nil => rfl
  | cons row rows inductionHypothesis =>
      rw [List.forall_mem_cons] at outside
      rw [List.map_cons, List.filter_cons, List.filter_cons,
        inductionHypothesis outside.2]
      rcases outside.1 with same | ⟨before, after⟩
      · rw [same]
      · simp [before, after]

/-- Ending an active run does not change which run is queued next. -/
theorem nextQueued_putRun
    (distinct : DistinctRuns store)
    {run run' : WorkflowRun}
    (listed : run ∈ store.runs)
    (active : run.status.isActive = true)
    (sameId : run'.id = run.id)
    (notQueued : run'.status ≠ .queued) :
    (store.putRun run').nextQueued input = store.nextQueued input := by
  unfold Database.nextQueued Database.putRun updateMany
  dsimp only
  rw [filter_map_of_outside]
  intro row isRow
  by_cases isRun : row.id = run'.id
  · obtain rfl := distinct.eq listed isRow (isRun.trans sameId)
    have notQueued' : row.status ≠ .queued := by
      intro queued
      rw [queued] at active
      cases active
    exact Or.inr ⟨by simp [notQueued'], by simp [isRun, notQueued]⟩
  · exact Or.inl (by simp [isRun])

theorem claimQueued_id
    (input : ClaimRun)
    (runner : RunnerDevice)
    (activePolicyId : Option JsString)
    (run : WorkflowRun) :
    (claimQueued hasher input runner activePolicyId run).run.id = run.id := by
  rcases @claimQueued_cases hasher input runner activePolicyId run with
    ⟨_, _, _, isFailed⟩ | ⟨isClaimed, -⟩
  · rw [isFailed]
    rfl
  · rw [isClaimed]

/-- What the claim of the next run does to a queued run. -/
theorem claimNext_queued
    {answer : ClaimWorkflowRunResult}
    (committed :
      claimNext hasher append input runner store = .ok (store', answer))
    {run : WorkflowRun}
    (distinct : DistinctRuns store)
    (found : store.run? runId = some run) :
    store'.run? runId = some run ∨
      store.nextQueued input = some run ∧
        store'.run? runId =
          some
            (claimQueued hasher input runner
              ((store.activePolicy run.workspaceId).map PolicyVersion.id)
              run).run := by
  unfold claimNext at committed
  split at committed
  case h_1 =>
    cases committed
    exact Or.inl found
  case h_2 next isNext =>
    obtain ⟨listed, -, -⟩ := Database.mem_of_nextQueued isNext
    have after :=
      commitChange_run? listed (claimQueued_id input runner _ next) committed
        runId
    by_cases isRun : runId = next.id
    · right
      rw [isRun, distinct.run? listed] at found
      obtain rfl := Option.some.inj found
      rw [if_pos isRun] at after
      exact ⟨isNext, after⟩
    · rw [if_neg isRun] at after
      exact Or.inl (after.trans found)

/-- What a claim does to a queued run. -/
theorem claim_queued
    (distinct : DistinctRuns store)
    {answer : ClaimWorkflowRunResult}
    (committed : claim hasher append input store = .ok (store', answer))
    {run : WorkflowRun}
    (found : store.run? runId = some run)
    (queued : run.status = .queued) :
    store'.run? runId = some run ∨
      ∃ runner,
        CanClaim store input runner ∧ store.nextQueued input = some run ∧
          store'.run? runId =
            some
              (claimQueued hasher input runner
                ((store.activePolicy run.workspaceId).map PolicyVersion.id)
                run).run := by
  simp only [claim, bind_eq_ok, orThrow_eq_ok, refuseIf_eq_ok] at committed
  obtain ⟨runner, isRunner, _, notRevoked, committed⟩ := committed
  rw [Bool.not_eq_true] at notRevoked
  split at committed
  case isTrue =>
    cases committed
    exact Or.inl found
  case isFalse compatible =>
    split at committed
    case h_1 retried isRetried =>
      left
      have listed : retried ∈ store.runs := List.mem_of_find?_eq_some isRetried
      simp only [bind_eq_ok] at committed
      obtain ⟨change, again, committed⟩ := committed
      simp only [claimAgain, bind_eq_ok, refuseIf_eq_ok] at again
      obtain ⟨_, leased, again⟩ := again
      have isActive : retried.status.isActive = true := by
        by_contra inactive
        exact leased (Or.inl (by simpa using inactive))
      have sameId : change.run.id = retried.id := by
        split at again
        · obtain rfl := Except.ok.inj again
          rfl
        · obtain rfl := Except.ok.inj again
          rfl
      exact
        commitChange_queued distinct listed isActive sameId committed found
          queued
    case h_2 notRetried =>
      have firstAttempt :
          ∀ run ∈ store.runs,
            run.runnerDeviceId = input.runnerDeviceId →
            run.claimAttemptId ≠ some input.claimAttemptId := by
        intro run listed ofRunner isAttempt
        have fails := List.find?_eq_none.mp notRetried run listed
        exact fails (by simp [ofRunner, isAttempt])
      split at committed
      case isTrue =>
        cases committed
        exact Or.inl found
      case isFalse notDraining =>
        rw [Bool.not_eq_true] at notDraining
        split at committed
        case h_1 noneActive =>
          have canClaim : CanClaim store input runner :=
            { found := isRunner
              notRevoked
              compatible
              firstAttempt
              notDraining
              idle := by
                intro active isActive
                rw [noneActive] at isActive
                cases isActive }
          rcases claimNext_queued committed distinct found with
            same | ⟨isNext, after⟩
          · exact Or.inl same
          · exact Or.inr ⟨runner, canClaim, isNext, after⟩
        case h_2 active isActive =>
          split at committed
          case isFalse =>
            cases committed
            exact Or.inl found
          case isTrue expired =>
            have canClaim : CanClaim store input runner :=
              { found := isRunner
                notRevoked
                compatible
                firstAttempt
                notDraining
                idle := by
                  intro other isOther
                  obtain rfl := Option.some.inj (isActive.symm.trans isOther)
                  exact expired }
            simp only [bind_eq_ok] at committed
            obtain ⟨⟨middle, _⟩, interrupted, committed⟩ := committed
            have listed : active ∈ store.runs :=
              List.mem_of_find?_eq_some isActive
            have wasActive : active.status.isActive = true := by
              have holds := List.find?_some isActive
              simp only [decide_eq_true_eq] at holds
              exact holds.2
            have foundMiddle :=
              commitChange_queued distinct listed wasActive rfl interrupted
                found queued
            obtain ⟨trail, -, rfl, -⟩ := commitChange_eq_ok.mp interrupted
            have distinctMiddle :
                DistinctRuns
                  ({ store.putRun
                      (interruptLockedRun hasher input.now active).run with
                    trail } : Database Trail) :=
              (congrArg List.Nodup (putRun_ids _)).mpr distinct
            rcases claimNext_queued committed distinctMiddle foundMiddle with
              same | ⟨isNext, after⟩
            · exact Or.inl same
            · refine Or.inr ⟨runner, canClaim, ?_, after⟩
              rw [← isNext]
              exact
                (@nextQueued_putRun Trail store input distinct active
                  (interruptLockedRun hasher input.now active).run listed
                  wasActive rfl (by simp [interruptLockedRun])).symm

/-- Only a claim changes when a run was claimed. -/
theorem RunStep.times
    {transaction : Transaction}
    {run run' : WorkflowRun}
    {events : List AuditEventInput}
    (step : RunStep hasher transaction run run' events) :
    run'.createdAt = run.createdAt ∧
      (run'.claimedAt = run.claimedAt ∨
        run.status = .queued ∧ ∃ input, transaction = .claim input) := by
  cases step with
  | unchanged => exact ⟨rfl, Or.inl rfl⟩
  | interrupted now expired => exact ⟨rfl, Or.inl rfl⟩
  | renewed => exact ⟨rfl, Or.inl rfl⟩
  | claimed input isClaim runner activePolicyId queued =>
      refine ⟨?_, Or.inr ⟨queued, input, isClaim⟩⟩
      rcases @claimQueued_cases hasher input runner activePolicyId run with
        ⟨_, _, _, isFailed⟩ | ⟨isClaimed, -⟩
      · rw [isFailed]
        rfl
      · rw [isClaimed]
  | ingested input _ change _ ingests =>
      obtain ⟨-, ⟨_, -, -, isRun, -, -⟩ | ⟨-, -, state, applies, rfl⟩⟩ :=
        ingestRun_cases ingests
      · rw [isRun]
        exact ⟨rfl, Or.inl rfl⟩
      · have frame := applyEvents_frame applies
        have isRun : (state.finish input).run.createdAt = run.createdAt ∧
            (state.finish input).run.claimedAt = run.claimedAt := by
          show state.run.createdAt = _ ∧ state.run.claimedAt = _
          rw [frame]
          exact ⟨rfl, rfl⟩
        exact ⟨isRun.1, Or.inl isRun.2⟩
  | completed input _ change completes =>
      rcases completeRun_cases completes with
        ⟨-, -, -, rfl⟩ | ⟨-, -, -, -, -, rfl⟩ | ⟨-, -, -, -, -, rfl⟩ <;>
          exact ⟨rfl, Or.inl rfl⟩
  | cancelled input _ change _ cancels =>
      rcases cancelUnfinished_cases cancels with
        ⟨-, isRun, -⟩ | ⟨-, isRun, -⟩ <;>
          rw [isRun] <;> exact ⟨rfl, Or.inl rfl⟩
  | approvalCreated input _ change creates =>
      obtain ⟨-, -, ⟨isRun, -⟩ | ⟨_, -, -, -, isRun, -⟩⟩ :=
        createApprovalOn_cases creates <;>
          rw [isRun] <;> exact ⟨rfl, Or.inl rfl⟩
  | approvalExpired request now terminateRun =>
      obtain ⟨_, _, _, _, _, _, _, isRun⟩ :=
        @expireApprovalOn_frame hasher request now terminateRun run
      rw [isRun]
      exact ⟨rfl, Or.inl rfl⟩
  | approvalDecided input _ role request change _ decides =>
      rcases decideApprovalOn_cases decides with
        ⟨isRun, -⟩ | ⟨-, -, isRun, -⟩ <;>
          rw [isRun] <;> exact ⟨rfl, Or.inl rfl⟩
  | repairCreated input _ change creates =>
      obtain ⟨-, -, ⟨isRun, -⟩ | ⟨_, _, -, isRun, -⟩⟩ :=
        createRepairOn_cases creates <;>
          rw [isRun] <;> exact ⟨rfl, Or.inl rfl⟩
  | repairExpired request now terminateRun =>
      obtain ⟨_, _, _, _, _, _, _, isRun⟩ :=
        @expireRepairOn_frame hasher request now terminateRun run
      rw [isRun]
      exact ⟨rfl, Or.inl rfl⟩
  | repairDecided input _ role request change _ decides =>
      rcases decideRepairOn_cases decides with
        ⟨isRun, -⟩ | ⟨-, -, isRun, -⟩ <;>
          rw [isRun] <;> exact ⟨rfl, Or.inl rfl⟩

theorem revoked_times
    (run : WorkflowRun)
    (runnerDeviceId : JsString)
    (now : Nat) :
    (run.revoked runnerDeviceId now).createdAt = run.createdAt ∧
      (run.revoked runnerDeviceId now).claimedAt = run.claimedAt := by
  unfold WorkflowRun.revoked
  dsimp only
  split
  · split <;> exact ⟨rfl, rfl⟩
  · exact ⟨rfl, rfl⟩

/-- A claim never returns a run to the queue. -/
theorem RunStep.leavesQueue
    {run run' : WorkflowRun}
    {events : List AuditEventInput}
    (step : RunStep hasher (.claim input) run run' events)
    (notQueued : run.status ≠ .queued) :
    run'.status ≠ .queued := by
  cases step with
  | unchanged => exact notQueued
  | interrupted now expired =>
      intro queued
      cases queued
  | claimed input' isClaim runner activePolicyId queued =>
      exact absurd queued notQueued
  | renewed input' isOther => cases isOther
  | ingested input' isOther => cases isOther
  | completed input' isOther => cases isOther
  | cancelled input' isOther => cases isOther
  | approvalCreated input' isOther => cases isOther
  | approvalExpired request now terminateRun isOther => cases isOther
  | approvalDecided input' isOther => cases isOther
  | repairCreated input' isOther => cases isOther
  | repairExpired request now terminateRun isOther => cases isOther
  | repairDecided input' isOther => cases isOther

/-- A transaction keeps the runs and when they were created, and only a claim
changes when a run was claimed. -/
theorem commits_times
    {transaction : Transaction}
    (distinct : DistinctRuns store)
    (commits : Commits hasher append transaction store store')
    {run : WorkflowRun}
    (found : store.run? runId = some run) :
    ∃ run',
      store'.run? runId = some run' ∧ run'.createdAt = run.createdAt ∧
        ((∀ input, transaction ≠ .claim input) →
          run'.claimedAt = run.claimedAt) := by
  apply
    (@Commits.rowMoves Trail hasher append transaction store store'
      (fun row row' =>
        ∀ run, row = some run →
          ∃ run',
            row' = some run' ∧ run'.createdAt = run.createdAt ∧
              ((∀ input, transaction ≠ .claim input) →
                run'.claimedAt = run.claimedAt))
      ?_ ?_ ?_ distinct commits runId).2 run found
  · intro row run isRun
    exact ⟨run, isRun, rfl, fun _ => rfl⟩
  · intro first second third kept kept' run isRun
    obtain ⟨run', isRun', created, claimed⟩ := kept run isRun
    obtain ⟨run'', isRun'', created', claimed'⟩ := kept' run' isRun'
    exact ⟨run'', isRun'', created'.trans created,
      fun notClaim => (claimed' notClaim).trans (claimed notClaim)⟩
  · intro row row' move run isRun
    cases move with
    | same _ => exact ⟨run, isRun, rfl, fun _ => rfl⟩
    | created => cases isRun
    | changed before run' events step =>
        obtain rfl := Option.some.inj isRun
        obtain ⟨created, claimed⟩ := step.times
        refine ⟨run', rfl, created, ?_⟩
        intro notClaim
        rcases claimed with same | ⟨-, input, isClaim⟩
        · exact same
        · exact absurd isClaim (notClaim input)
    | revoked input _ before =>
        obtain rfl := Option.some.inj isRun
        obtain ⟨created, claimed⟩ := revoked_times before input.runnerDeviceId
          input.now
        exact ⟨_, rfl, created, fun _ => claimed⟩

/-- A claim keeps when a run was claimed that is not queued. -/
theorem commits_notQueued
    (distinct : DistinctRuns store)
    (commits : Commits hasher append (.claim input) store store')
    {run : WorkflowRun}
    (found : store.run? runId = some run)
    (notQueued : run.status ≠ .queued) :
    ∃ run',
      store'.run? runId = some run' ∧ run'.claimedAt = run.claimedAt := by
  have kept :=
    (@Commits.rowMoves Trail hasher append (.claim input) store store'
      (fun row row' =>
        ∀ run, row = some run → run.status ≠ .queued →
          ∃ run',
            row' = some run' ∧ run'.status ≠ .queued ∧
              run'.claimedAt = run.claimedAt)
      ?_ ?_ ?_ distinct commits runId).2 run found notQueued
  · obtain ⟨run', found', -, claimed⟩ := kept
    exact ⟨run', found', claimed⟩
  · intro row run isRun notQueued
    exact ⟨run, isRun, notQueued, rfl⟩
  · intro first second third kept kept' run isRun notQueued
    obtain ⟨run', isRun', notQueued', claimed⟩ := kept run isRun notQueued
    obtain ⟨run'', isRun'', notQueued'', claimed'⟩ :=
      kept' run' isRun' notQueued'
    exact ⟨run'', isRun'', notQueued'', claimed'.trans claimed⟩
  · intro row row' move run isRun notQueued
    cases move with
    | same _ => exact ⟨run, isRun, notQueued, rfl⟩
    | created => cases isRun
    | changed before run' events step =>
        obtain rfl := Option.some.inj isRun
        refine ⟨run', rfl, step.leavesQueue notQueued, ?_⟩
        rcases step.times.2 with same | ⟨queued, -⟩
        · exact same
        · exact absurd queued notQueued
    | revoked input' isRevocation => cases isRevocation

end TaskTwin.RunStore
