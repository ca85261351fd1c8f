import TaskTwin.RunStore.Frames

/-!
# How the status of a run moves

A run is queued, then active, then finished.  It becomes active by a claim
only, an active run alone has a lease, and a finished run stays as it ended.
-/

namespace TaskTwin.RunStore

open Text Schema Workflow Engine Audit Store

variable {Trail : Type} {hasher : AuditHasher}

/-- The run is active under the lease that a runner shows. -/
structure LeaseHeld
    (lease : LeaseClaim)
    (now : Nat)
    (run : WorkflowRun) :
    Prop where
  ofRunner : run.runnerDeviceId = lease.runnerDeviceId
  active : run.status.isActive = true
  token : run.leaseTokenHash = some lease.leaseTokenHash
  unexpired : ∃ expiresAt, run.leaseExpiresAt = some expiresAt ∧ now < expiresAt

theorem leaseHeld_of_requireLease
    {runner : Option RunnerDevice}
    {lease : LeaseClaim}
    {now : Nat}
    {run : WorkflowRun}
    (leased : requireLease runner lease now run = .ok ()) :
    LeaseHeld lease now run := by
  simp only [requireLease, bind_eq_ok, refuseIf_eq_ok, not_or,
    Bool.not_eq_true', Bool.not_eq_false, Decidable.not_not] at leased
  obtain ⟨_, ofRunner, _, -, _, -, _, ⟨active, token, hasExpiry⟩,
    unexpired⟩ := leased
  refine { ofRunner, active, token, unexpired := ?_ }
  cases expiry : run.leaseExpiresAt with
  | none => exact absurd expiry hasExpiry
  | some expiresAt =>
      rw [expiry] at unexpired
      exact ⟨expiresAt, rfl, by simpa using unexpired⟩

section Events

variable
  {runnerDeviceId : JsString}
  {time : Nat}
  {state state' : Ingestion}

/-- The status that a run tells of itself is one of an active run. -/
theorem applyRunStatus_active
    {status : WorkflowEngineRunStatus}
    (active : state.run.status.isActive = true)
    (applies :
      applyRunStatus hasher runnerDeviceId status time state = .ok state') :
    state'.run.status.isActive = true := by
  obtain ⟨_, -, applies⟩ := bind_eq_ok.mp applies
  split at applies <;> cases applies
  · unfold Ingestion.runs
    split
    · dsimp only
      split <;> rfl
    · exact active
  · unfold Ingestion.waitsForApproval
    split
    · dsimp only
      split
      · rfl
      · split <;> rfl
    · exact active
  · unfold Ingestion.waitsForRepair
    split
    · dsimp only
      split
      · rfl
      · split <;> rfl
    · exact active
  · exact active

/-- No event ends a run. -/
theorem applyEvent_active
    {newAttemptId : Nat → JsString}
    {item : SequencedWorkflowProgressEvent}
    (active : state.run.status.isActive = true)
    (applies :
      applyEvent hasher runnerDeviceId newAttemptId state item = .ok state') :
    state'.run.status.isActive = true := by
  obtain ⟨_, -, applies⟩ := bind_eq_ok.mp applies
  split at applies
  case h_1 => exact applyRunStatus_active active applies
  case h_2 =>
    cases applies
    exact active
  case h_3 =>
    simp only [applyOutputProduced, bind_eq_ok, orThrow_eq_ok,
      refuseIf_eq_ok] at applies
    obtain ⟨output, -, producer, -, _, -, applies⟩ := applies
    cases applies
    exact active
  case h_4 =>
    obtain ⟨_, -, applies⟩ := bind_eq_ok.mp applies
    cases applies
    exact active
  case h_5 =>
    obtain ⟨_, -, applies⟩ := bind_eq_ok.mp applies
    obtain ⟨_, -, applies⟩ := bind_eq_ok.mp applies
    cases applies
    exact active
  case h_6 =>
    split at applies
    · simp only [beginAttempt, bind_eq_ok, orThrow_eq_ok,
        refuseIf_eq_ok] at applies
      obtain ⟨step, -, _, -, _, -, repairRequestId, -, applies⟩ := applies
      cases applies
      exact active
    · simp only [endAttempt, bind_eq_ok, orThrow_eq_ok,
        refuseIf_eq_ok] at applies
      obtain ⟨step, -, attempt, -, _, -, applies⟩ := applies
      cases applies
      exact active
  case h_7 =>
    simp only [applyStepStatus, bind_eq_ok, orThrow_eq_ok,
      refuseIf_eq_ok] at applies
    obtain ⟨step, -, _, -, _, -, _, -, applies⟩ := applies
    cases applies
    exact active

end Events

/-- A batch is accepted of an active run, and leaves it active. -/
theorem ingestRun_active
    {input : IngestProgress}
    {run : WorkflowRun}
    {change : RunChange ProgressBatchResult}
    (ingests : ingestRun hasher input run = .ok change) :
    run.status.isActive = true ∧ change.run.status.isActive = true := by
  obtain ⟨leased, ⟨_, -, -, isRun, -, -⟩ | ⟨-, -, state, applies, rfl⟩⟩ :=
    ingestRun_cases ingests
  · have held := leaseHeld_of_requireLease leased
    rw [isRun]
    exact ⟨held.active, held.active⟩
  · have held := leaseHeld_of_requireLease leased
    have stillActive :=
      applyEvents_induction
        (fun _ _ _ active applied => applyEvent_active active applied)
        (held.active : (Ingestion.begin run).run.status.isActive = true)
        applies
    exact ⟨held.active, stillActive⟩

/-- What a change does to the status of a run and to its lease. -/
inductive StatusMove
    (transaction : Transaction)
    (run run' : WorkflowRun) :
    Prop where
  | kept
      (status : run'.status = run.status)
      (token : run'.leaseTokenHash = run.leaseTokenHash)
      (expiry : run'.leaseExpiresAt = run.leaseExpiresAt)
  | active
      (before : run.status.isActive = true)
      (after : run'.status.isActive = true)
  | claimed
      (input : ClaimRun)
      (isClaim : transaction = .claim input)
      (queued : run.status = .queued)
      (after : run'.status = .claimed)
  | dropped
      (queued : run.status = .queued)
      (after : run'.status.isTerminal = true)
      (token : run'.leaseTokenHash = run.leaseTokenHash)
      (expiry : run'.leaseExpiresAt = run.leaseExpiresAt)
  | ended
      (before : run.status.isActive = true)
      (after : run'.status.isTerminal = true)
      (token : run'.leaseTokenHash = none)
      (expiry : run'.leaseExpiresAt = none)

/-- A status is that of a queued, of an active or of a finished run. -/
theorem WorkflowRunStatus.active_of
    {status : WorkflowRunStatus}
    (unfinished : status.isTerminal = false)
    (notQueued : status ≠ .queued) :
    status.isActive = true := by
  cases status with
  | queued => exact absurd rfl notQueued
  | claimed | running | waitingForApproval | waitingForRepair
  | cancelRequested => rfl
  | succeeded | failed | cancelled | timedOut | interrupted =>
      cases unfinished

theorem RunStep.statusMove
    {transaction : Transaction}
    {run run' : WorkflowRun}
    {events : List AuditEventInput}
    (step : RunStep hasher transaction run run' events) :
    StatusMove transaction run run' := by
  cases step with
  | unchanged => exact .kept rfl rfl rfl
  | interrupted now expired =>
      rw [WorkflowRun.leaseHasExpired, Bool.and_eq_true] at expired
      exact .ended expired.1 rfl rfl rfl
  | renewed input isRenewal runner leased =>
      have held := leaseHeld_of_requireLease leased
      exact .active held.active held.active
  | claimed input isClaim runner activePolicyId queued ofRunner =>
      rcases @claimQueued_cases hasher input runner activePolicyId run with
        ⟨_, _, _, isFailed⟩ | ⟨isClaimed, -⟩
      · rw [isFailed]
        exact .dropped queued rfl rfl rfl
      · rw [isClaimed]
        exact .claimed input isClaim queued rfl
  | ingested input _ change _ ingests =>
      obtain ⟨before, after⟩ := ingestRun_active ingests
      exact .active before after
  | completed input _ change completes =>
      rcases completeRun_cases completes with
        ⟨-, -, -, rfl⟩ | ⟨-, -, -, -, -, rfl⟩ | ⟨-, leased, -, -, -, rfl⟩
      · exact .kept rfl rfl rfl
      · exact .kept rfl rfl rfl
      · exact .ended (leaseHeld_of_requireLease leased).active
          (persistedRunStatus_isTerminal _) rfl rfl
  | cancelled input _ change unfinished cancels =>
      rcases cancelUnfinished_cases cancels with
        ⟨queued, isRun, -⟩ | ⟨notQueued, isRun, -⟩
      · rw [isRun]
        exact .dropped queued rfl rfl rfl
      · rw [isRun]
        exact .active (WorkflowRunStatus.active_of unfinished notQueued) rfl
  | approvalCreated input _ change creates =>
      obtain ⟨-, mayAsk, ⟨isRun, -⟩ | ⟨_, -, -, -, isRun, -⟩⟩ :=
        createApprovalOn_cases creates
      · rw [isRun]
        exact .kept rfl rfl rfl
      · rw [isRun]
        refine .active ?_ rfl
        rcases mayAsk with isRunning | isWaiting
        · rw [isRunning]
          rfl
        · rw [isWaiting]
          rfl
  | approvalExpired request now terminateRun =>
      unfold expireApprovalOn WorkflowRun.approvalTimedOut
      dsimp only
      split
      case isFalse keeps => exact .kept rfl rfl rfl
      case isTrue terminates =>
        split
        case isTrue waiting =>
          refine .ended ?_ rfl rfl rfl
          rw [show run.status = .waitingForApproval from waiting]
          rfl
        case isFalse => exact .kept rfl rfl rfl
  | approvalDecided input _ role request change _ decides =>
      rcases decideApprovalOn_cases decides with
        ⟨isRun, -⟩ | ⟨-, -, isRun, -⟩
      · rw [isRun]
        exact .kept rfl rfl rfl
      · rw [isRun]
        exact .kept rfl rfl rfl
  | repairCreated input _ change creates =>
      obtain ⟨-, mayAsk, ⟨isRun, -⟩ | ⟨_, _, -, isRun, -⟩⟩ :=
        createRepairOn_cases creates
      · rw [isRun]
        exact .kept rfl rfl rfl
      · rw [isRun]
        refine .active ?_ rfl
        rcases mayAsk with isRunning | isWaiting
        · rw [isRunning]
          rfl
        · rw [isWaiting]
          rfl
  | repairExpired request now terminateRun =>
      unfold expireRepairOn WorkflowRun.repairTimedOut
      dsimp only
      split
      case isFalse keeps => exact .kept rfl rfl rfl
      case isTrue terminates =>
        split
        case isTrue waiting =>
          refine .ended ?_ rfl rfl rfl
          rw [show run.status = .waitingForRepair from waiting]
          rfl
        case isFalse => exact .kept rfl rfl rfl
  | repairDecided input _ role request change _ decides =>
      rcases decideRepairOn_cases decides with
        ⟨isRun, -⟩ | ⟨-, -, isRun, -⟩
      · rw [isRun]
        exact .kept rfl rfl rfl
      · rw [isRun]
        exact .kept rfl rfl rfl

/-- The revocation of a runner ends its active runs. -/
theorem revoked_statusMove
    (transaction : Transaction)
    (run : WorkflowRun)
    (runnerDeviceId : JsString)
    (now : Nat) :
    StatusMove transaction run (run.revoked runnerDeviceId now) := by
  unfold WorkflowRun.revoked
  dsimp only
  split
  case isTrue ofRunner =>
    split
    case isTrue active => exact .ended active rfl rfl rfl
    case isFalse => exact .kept rfl rfl rfl
  case isFalse => exact .kept rfl rfl rfl

theorem mem_putRun
    {db : Database Trail}
    {run row : WorkflowRun}
    (listed : row ∈ (db.putRun run).runs) :
    row = run ∨ row ∈ db.runs ∧ row.id ≠ run.id := by
  obtain ⟨before, isRow, rfl⟩ := List.mem_map.mp listed
  by_cases same : before.id = run.id
  · exact Or.inl (by simp [same])
  · exact Or.inr (by simpa [same] using isRow)

variable {append : Trail → JsValue → Option Trail}

/-- What every change of a run keeps is kept of all runs. -/
theorem keptByCommits_of_runs
    {holds : WorkflowRun → Prop}
    (created :
      ∀ (input : CreateRun) version policy, holds (input.row version policy))
    (changed :
      ∀ transaction run run' events,
        holds run → RunStep hasher transaction run run' events → holds run')
    (revoked :
      ∀ run runnerDeviceId now,
        holds run → holds (run.revoked runnerDeviceId now)) :
    KeptByCommits hasher append
      fun db : Database Trail => ∀ run ∈ db.runs, holds run := by
  intro transaction db db' allHold commit
  cases commit with
  | created input _ version policy trail free =>
      intro run listed
      rcases List.mem_append.mp listed with old | isNew
      · exact allHold run old
      · obtain rfl := List.mem_singleton.mp isNew
        exact created input version policy
  | changed run run' events trail listed step appended =>
      intro row isRow
      rcases mem_putRun isRow with rfl | ⟨old, -⟩
      · exact changed _ run _ events (allHold run listed) step
      · exact allHold row old
  | revoked input _ runners =>
      intro row isRow
      obtain ⟨before, isBefore, rfl⟩ := List.mem_map.mp isRow
      exact revoked before _ _ (allHold before isBefore)

end TaskTwin.RunStore
