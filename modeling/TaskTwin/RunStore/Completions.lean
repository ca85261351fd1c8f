import TaskTwin.RunStore.RunLeases

/-!
# Completions are final

A run that is completed keeps what it came to and the completion that was
recorded for it, whatever is called later.  Its completion is answered again,
and every other one is refused.
-/

namespace TaskTwin.RunStore

open Text Engine Audit Store

/-- What a run has come to, with the completion that is recorded for it. -/
def WorkflowRun.outcome (run : WorkflowRun) :=
  (run.status, run.terminationCause, run.finishedAt, run.clientCompletionId,
    run.completionDigest, run.finalResult)

structure WorkflowRun.IsCompleted (run : WorkflowRun) : Prop where
  finished : run.status.isTerminal = true
  recorded : run.clientCompletionId ≠ none

variable
  {Trail : Type}
  {hasher : AuditHasher}
  {append : Trail → JsValue → Option Trail}
  {transaction : Transaction}
  {run run' : WorkflowRun}
  {db : Database Trail}

namespace WorkflowRun.IsCompleted

theorem of_outcome
    (completed : run.IsCompleted)
    (same : run'.outcome = run.outcome) :
    run'.IsCompleted := by
  simp only [outcome, Prod.mk.injEq] at same
  exact ⟨same.1 ▸ completed.finished, same.2.2.2.1 ▸ completed.recorded⟩

theorem notActive (completed : run.IsCompleted) : run.status.isActive ≠ true := by
  intro active
  have finished := completed.finished
  rw [not_isTerminal_of_isActive active] at finished
  cases finished

theorem outcome_revoked
    (completed : run.IsCompleted)
    (runnerDeviceId : JsString)
    (now : Nat) :
    (run.revoked runnerDeviceId now).outcome = run.outcome := by
  unfold revoked
  simp only [completed.notActive]
  split <;> rfl

theorem outcome_step
    {events : List AuditEventInput}
    (completed : run.IsCompleted)
    (step : RunStep hasher transaction run run' events) :
    run'.outcome = run.outcome := by
  have notActive := completed.notActive
  obtain ⟨finished, recorded⟩ := completed
  cases step with
  | unchanged => rfl
  | interrupted now expired =>
      rw [leaseHasExpired, Bool.and_eq_true] at expired
      exact absurd expired.1 notActive
  | renewed input isRenewal runner leased =>
      exact absurd (leaseHeld_of_requireLease leased).active notActive
  | claimed input isClaim runner activePolicyId queued ofRunner =>
      rw [queued] at finished
      cases finished
  | ingested input isIngestion change isRun ingests =>
      exact absurd (ingestRun_active ingests).1 notActive
  | completed input isCompletion change completes =>
      rcases completeRun_cases completes with
        ⟨-, -, -, rfl⟩ | ⟨-, -, notCompleted, -⟩ | ⟨unfinished, -⟩
      · rfl
      · exact absurd notCompleted recorded
      · rw [unfinished] at finished
        cases finished
  | cancelled input isCancellation change unfinished cancels =>
      rw [unfinished] at finished
      cases finished
  | approvalCreated input isCreation change creates =>
      obtain ⟨-, isRunning | isWaiting, -⟩ := createApprovalOn_cases creates
      · exact absurd (isRunning ▸ rfl) notActive
      · exact absurd (isWaiting ▸ rfl) notActive
  | approvalExpired request now terminateRun =>
      have notWaiting : run.status ≠ .waitingForApproval :=
        fun isWaiting => notActive (isWaiting ▸ rfl)
      cases terminateRun
      all_goals
        simp [expireApprovalOn, approvalTimedOut, changeApproval, outcome,
          notWaiting]
  | approvalDecided input _ role request change _ decides =>
      rcases decideApprovalOn_cases decides with
        ⟨isRun, -⟩ | ⟨-, -, isRun, -⟩
      · rw [isRun]
      · rw [isRun]
        rfl
  | repairCreated input _ change creates =>
      obtain ⟨-, isRunning | isWaiting, -⟩ := createRepairOn_cases creates
      · exact absurd (isRunning ▸ rfl) notActive
      · exact absurd (isWaiting ▸ rfl) notActive
  | repairExpired request now terminateRun =>
      have notWaiting : run.status ≠ .waitingForRepair :=
        fun isWaiting => notActive (isWaiting ▸ rfl)
      cases terminateRun
      all_goals
        simp [expireRepairOn, repairTimedOut, changeRepair, outcome,
          notWaiting]
  | repairDecided input _ role request change _ decides =>
      rcases decideRepairOn_cases decides with
        ⟨isRun, -⟩ | ⟨-, -, isRun, -⟩
      · rw [isRun]
      · rw [isRun]
        rfl

end WorkflowRun.IsCompleted

/-- A run that is completed goes on with what it has come to. -/
def StaysCompleted (row row' : Option WorkflowRun) : Prop :=
  ∀ run, row = some run → run.IsCompleted →
    ∃ run', row' = some run' ∧ run'.outcome = run.outcome

theorem RowMove.staysCompleted
    {row row' : Option WorkflowRun}
    (move : RowMove hasher transaction row row') :
    StaysCompleted row row' := by
  intro run isRun completed
  cases move with
  | same => exact ⟨run, isRun, rfl⟩
  | created input isCreation version policy => cases isRun
  | changed before after events step =>
      obtain rfl := Option.some.inj isRun
      exact ⟨after, rfl, completed.outcome_step step⟩
  | revoked input isRevocation before =>
      obtain rfl := Option.some.inj isRun
      exact ⟨_, rfl, completed.outcome_revoked _ _⟩

theorem StaysCompleted.trans
    (first second third : Option WorkflowRun)
    (stays : StaysCompleted first second)
    (stays' : StaysCompleted second third) :
    StaysCompleted first third := by
  intro run isRun completed
  obtain ⟨middle, isMiddle, same⟩ := stays run isRun completed
  obtain ⟨last, isLast, same'⟩ :=
    stays' middle isMiddle (completed.of_outcome same)
  exact ⟨last, isLast, same'.trans same⟩

/-- The answer to a completion of a run that is completed. -/
def answerAgain
    (completion : CompletionInput)
    (run : WorkflowRun) :
    Except StoreFailure CompletionResult :=
  if run.hasRecorded completion then
    (toRecord run).map fun run => { run, idempotent := true }
  else
    .error .completionConflict

theorem complete_again
    {input : Complete}
    (distinct : DistinctRuns db)
    (found : db.run? input.workflowRunId = some run)
    (completed : run.IsCompleted) :
    complete hasher append input db =
      (db, answerAgain input.completion run) := by
  have notExpired :
      expireRunIfRequired hasher append input.workflowRunId input.now db =
        .ok (db, ()) := by
    simp [expireRunIfRequired, found, WorkflowRun.leaseHasExpired,
      completed.notActive]
  rw [complete, andThen_of_ok notExpired]
  unfold transact completeLocked changeRun
  simp only [found, orThrow, ok_bind, completeRun, completed.finished,
    completeFinished, completed.recorded, answerAgain, toRecord, and_false,
    if_true, if_false]
  by_cases recorded : run.hasRecorded input.completion = true
  case neg => simp [recorded, error_bind]
  case pos =>
    by_cases readable : run.isReadable = true
    case neg => simp [recorded, readable, error_bind, Except.map]
    case pos =>
      have same := putRun_of_listed distinct (Database.mem_of_run? found).1
      simp [recorded, readable, commitChange, unchanged, appendEvents,
        orThrow, ok_bind, same, Except.map, pure, Except.pure]

theorem completeRun_completed
    {input : Complete}
    {change : RunChange CompletionResult}
    (completes : completeRun hasher input run = .ok change) :
    change.answer.run = change.run ∧
      change.run.id = run.id ∧
      change.run.IsCompleted ∧
      change.run.hasRecorded input.completion = true := by
  rcases completeRun_cases completes with
    ⟨finished, recorded, -, rfl⟩ | ⟨timedOut, -, -, -, -, rfl⟩ |
    ⟨-, -, -, -, -, rfl⟩
  · refine ⟨rfl, rfl, ⟨finished, ?_⟩, recorded⟩
    simp only [WorkflowRun.hasRecorded, Bool.and_eq_true,
      decide_eq_true_eq] at recorded
    simp [recorded.1]
  · have finished : run.status.isTerminal = true := timedOut ▸ rfl
    exact ⟨rfl, rfl, ⟨finished, Option.some_ne_none _⟩,
      by simp [WorkflowRun.hasRecorded, WorkflowRun.recordCompletion]⟩
  · exact ⟨rfl, rfl,
      ⟨persistedRunStatus_isTerminal _, Option.some_ne_none _⟩,
      by simp [WorkflowRun.hasRecorded, WorkflowRun.completed]⟩

theorem completeLocked_accepted
    {input : Complete}
    {db' : Database Trail}
    {answer : CompletionResult}
    (completes :
      completeLocked hasher append input db = .ok (db', answer)) :
    answer.run.IsCompleted ∧
      answer.run.hasRecorded input.completion = true ∧
      db'.run? input.workflowRunId = some answer.run := by
  obtain ⟨run, change, found, changes, committed⟩ :=
    changeRun_eq_ok.mp completes
  obtain ⟨trail, -, rfl, rfl⟩ := commitChange_eq_ok.mp committed
  obtain ⟨isRun, sameId, completed, recorded⟩ := completeRun_completed changes
  obtain ⟨listed, isId⟩ := Database.mem_of_run? found
  rw [isRun]
  exact ⟨completed, recorded,
    (run?_putRun input.workflowRunId ⟨run, listed, sameId.symm⟩).trans
      (if_pos (isId.symm.trans sameId.symm))⟩

/-- What holds of the completions of a database, whatever is called next. -/
structure CompletionLaw
    (hasher : AuditHasher)
    (append : Trail → JsValue → Option Trail)
    (db : Database Trail) :
    Prop where
  accepted :
    ∀ input db' answer,
      completeLocked hasher append input db = .ok (db', answer) →
      answer.run.IsCompleted ∧
        answer.run.hasRecorded input.completion = true ∧
        db'.run? input.workflowRunId = some answer.run
  stays :
    ∀ transactions runId,
      StaysCompleted (db.run? runId)
        ((performAll hasher append db transactions).run? runId)
  again :
    ∀ (input : Complete) run,
      db.run? input.workflowRunId = some run → run.IsCompleted →
      complete hasher append input db = (db, answerAgain input.completion run)

/-- From a database without runs, completions are final at every moment. -/
theorem performAll_completionLaw
    (hasher : AuditHasher)
    (append : Trail → JsValue → Option Trail)
    (db : Database Trail)
    (noRuns : db.runs = [])
    (transactions : List Transaction) :
    CompletionLaw hasher append (performAll hasher append db transactions) := by
  have distinct :
      DistinctRuns (performAll hasher append db transactions) :=
    distinctRuns_kept.performAll (distinctRuns_of_noRuns noRuns) transactions
  exact
    { accepted := fun _ _ _ completes => completeLocked_accepted completes
      stays :=
        performAll_rowMoves (fun _ run isRun _ => ⟨run, isRun, rfl⟩)
          StaysCompleted.trans (fun _ _ _ move => move.staysCompleted) distinct
      again := fun _ _ found completed =>
        complete_again distinct found completed }

theorem exampleTransactions_completionLaw :
    CompletionLaw exampleHasher (fun _ _ => some ())
      (performAll exampleHasher (fun _ _ => some ()) (exampleDatabase Unit ())
        exampleTransactions) :=
  performAll_completionLaw exampleHasher (fun _ _ => some ())
    (exampleDatabase Unit ()) rfl exampleTransactions

end TaskTwin.RunStore
