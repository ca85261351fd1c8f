import Mathlib.Logic.Relation
import TaskTwin.RunStore.Requests

/-!
# What transactions change

A transaction commits one change after the other, each of one run, of the runs
of a revoked runner, or by a run that is created.  What every change keeps is
kept by every transaction and by every sequence of transactions.
-/

namespace TaskTwin.RunStore

open Text Schema Workflow Engine Audit Store

variable {Trail : Type}

/-- The ways in which a transaction changes one run, with their events. -/
inductive RunStep
    (hasher : AuditHasher)
    (transaction : Transaction)
    (run : WorkflowRun) :
    WorkflowRun → List AuditEventInput → Prop where
  | unchanged : RunStep hasher transaction run run []
  | interrupted
      (now : Nat)
      (expired : run.leaseHasExpired now = true) :
      RunStep hasher transaction run (interruptLockedRun hasher now run).run
        (interruptLockedRun hasher now run).events
  | renewed
      (input : RenewLease)
      (isRenewal : transaction = .renewLease input)
      (runner : Option RunnerDevice)
      (leased : requireLease runner input.lease input.now run = .ok ()) :
      RunStep hasher transaction run
        { run with leaseExpiresAt := some input.leaseExpiresAt } []
  | claimed
      (input : ClaimRun)
      (isClaim : transaction = .claim input)
      (runner : RunnerDevice)
      (activePolicyId : Option JsString)
      (queued : run.status = .queued)
      (ofRunner : run.runnerDeviceId = input.runnerDeviceId) :
      RunStep hasher transaction run
        (claimQueued hasher input runner activePolicyId run).run
        (claimQueued hasher input runner activePolicyId run).events
  | ingested
      (input : IngestProgress)
      (isIngestion : transaction = .ingestProgress input)
      (change : RunChange ProgressBatchResult)
      (isRun : input.workflowRunId = run.id)
      (ingests : ingestRun hasher input run = .ok change) :
      RunStep hasher transaction run change.run change.events
  | completed
      (input : Complete)
      (isCompletion : transaction = .complete input)
      (change : RunChange CompletionResult)
      (completes : completeRun hasher input run = .ok change) :
      RunStep hasher transaction run change.run change.events
  | cancelled
      (input : CancelRun)
      (isCancellation : transaction = .cancel input)
      (change : RunChange CompletionResult)
      (unfinished : run.status.isTerminal = false)
      (cancels : cancelUnfinished hasher input run = .ok change) :
      RunStep hasher transaction run change.run change.events
  | approvalCreated
      (input : CreateApproval)
      (isCreation : transaction = .createApproval input)
      (change : RunChange ApprovalRecord)
      (creates : createApprovalOn hasher input run = .ok change) :
      RunStep hasher transaction run change.run change.events
  | approvalExpired
      (request : WorkflowApprovalRequest)
      (now : Nat)
      (terminateRun : Bool)
      (isExpiry :
        transaction = .expireApproval request.id now terminateRun)
      (listed : request ∈ run.approvalRequests)
      (expires : request.isPending = true ∧ request.expiresAt ≤ now) :
      RunStep hasher transaction run
        (expireApprovalOn hasher request now terminateRun run).run
        (expireApprovalOn hasher request now terminateRun run).events
  | approvalDecided
      (input : DecideApproval)
      (isDecision : transaction = .decideApproval input)
      (role : OrganizationRole)
      (request : WorkflowApprovalRequest)
      (change : RunChange ApprovalRecord)
      (listed : request ∈ run.approvalRequests)
      (decides : decideApprovalOn hasher input role request run = .ok change) :
      RunStep hasher transaction run change.run change.events
  | repairCreated
      (input : CreateRepair)
      (isCreation : transaction = .createRepair input)
      (change : RunChange RepairRecord)
      (creates : createRepairOn hasher input run = .ok change) :
      RunStep hasher transaction run change.run change.events
  | repairExpired
      (request : WorkflowRepairRequest)
      (now : Nat)
      (terminateRun : Bool)
      (isExpiry : transaction = .expireRepair request.id now terminateRun)
      (listed : request ∈ run.repairRequests)
      (expires : request.isPending = true ∧ request.expiresAt ≤ now) :
      RunStep hasher transaction run
        (expireRepairOn hasher request now terminateRun run).run
        (expireRepairOn hasher request now terminateRun run).events
  | repairDecided
      (input : DecideRepair)
      (isDecision : transaction = .decideRepair input)
      (role : OrganizationRole)
      (request : WorkflowRepairRequest)
      (change : RunChange RepairRecord)
      (listed : request ∈ run.repairRequests)
      (decides : decideRepairOn hasher input role request run = .ok change) :
      RunStep hasher transaction run change.run change.events

/-- One change that a transaction commits. -/
inductive Commit
    (hasher : AuditHasher)
    (append : Trail → JsValue → Option Trail)
    (transaction : Transaction)
    (db : Database Trail) :
    Database Trail → Prop where
  | created
      (input : CreateRun)
      (isCreation : transaction = .createRun input)
      (version : WorkflowVersion)
      (policy : PolicyVersion)
      (trail : Trail)
      (free :
        ((db.runs ++ [input.row version policy]).map WorkflowRun.id).Nodup)
      (appended :
        appendEvents append
            [buildRunCreatedInput hasher (input.row version policy) version
              policy input.actorUserId input.now]
            db.trail =
          some trail) :
      Commit hasher append transaction db
        { db with runs := db.runs ++ [input.row version policy], trail }
  | changed
      (run run' : WorkflowRun)
      (events : List AuditEventInput)
      (trail : Trail)
      (listed : run ∈ db.runs)
      (step : RunStep hasher transaction run run' events)
      (appended : appendEvents append events db.trail = some trail) :
      Commit hasher append transaction db { db.putRun run' with trail }
  | revoked
      (input : RevokeRunner)
      (isRevocation : transaction = .revokeRunnerDevice input)
      (runners : List RunnerDevice) :
      Commit hasher append transaction db
        { db with
          runners
          runs :=
            db.runs.map fun run => run.revoked input.runnerDeviceId input.now }

/-- The changes of a transaction, one after the other. -/
abbrev Commits
    (hasher : AuditHasher)
    (append : Trail → JsValue → Option Trail)
    (transaction : Transaction) :
    Database Trail → Database Trail → Prop :=
  Relation.ReflTransGen (Commit hasher append transaction)

variable
  {hasher : AuditHasher}
  {append : Trail → JsValue → Option Trail}
  {transaction : Transaction}
  {db db' : Database Trail}

variable
  {requestId : JsString}
  {α : Type}
  {runId : JsString}
  {now : Nat}
  {input : ClaimRun}
  {run : WorkflowRun}

theorem Database.mem_of_run?
    (found : db.run? runId = some run) :
    run ∈ db.runs ∧ run.id = runId :=
  mem_of_findUnique found

theorem commitChange_eq_ok
    {change : RunChange α}
    {answer : α} :
    commitChange append change db = .ok (db', answer) ↔
      ∃ trail,
        appendEvents append change.events db.trail = some trail ∧
          db' = { db.putRun change.run with trail } ∧
          answer = change.answer := by
  simp only [commitChange, bind_eq_ok, orThrow_eq_ok, pure_eq_ok,
    Prod.mk.injEq]
  constructor
  · rintro ⟨trail, appended, rfl, rfl⟩
    exact ⟨trail, appended, rfl, rfl⟩
  · rintro ⟨trail, appended, rfl, rfl⟩
    exact ⟨trail, appended, rfl, rfl⟩

theorem changeRun_eq_ok
    {missing : StoreFailure}
    {body : WorkflowRun → Except StoreFailure (RunChange α)}
    {answer : α} :
    changeRun append runId missing body db = .ok (db', answer) ↔
      ∃ run change,
        db.run? runId = some run ∧
          body run = .ok change ∧
          commitChange append change db = .ok (db', answer) := by
  simp only [changeRun, bind_eq_ok, orThrow_eq_ok]
  constructor
  · rintro ⟨run, found, change, isChange, committed⟩
    exact ⟨run, change, found, isChange, committed⟩
  · rintro ⟨run, change, found, isChange, committed⟩
    exact ⟨run, found, change, isChange, committed⟩

/-- A change of a run that the transaction has found. -/
theorem commits_of_change
    {change : RunChange α}
    {answer : α}
    (listed : run ∈ db.runs)
    (step : RunStep hasher transaction run change.run change.events)
    (committed : commitChange append change db = .ok (db', answer)) :
    Commits hasher append transaction db db' := by
  obtain ⟨trail, appended, rfl, -⟩ := commitChange_eq_ok.mp committed
  exact .single (.changed run change.run change.events trail listed step
    appended)

theorem commits_of_changeRun
    {missing : StoreFailure}
    {body : WorkflowRun → Except StoreFailure (RunChange α)}
    {answer : α}
    (steps :
      ∀ run change,
        run.id = runId →
        body run = .ok change →
        RunStep hasher transaction run change.run change.events)
    (committed :
      changeRun append runId missing body db = .ok (db', answer)) :
    Commits hasher append transaction db db' := by
  obtain ⟨run, change, found, isChange, committed⟩ :=
    changeRun_eq_ok.mp committed
  obtain ⟨listed, isRun⟩ := Database.mem_of_run? found
  exact commits_of_change listed (steps run change isRun isChange) committed

theorem createRun_commits
    {input : CreateRun}
    {answer : CreateWorkflowRunResult}
    (committed : createRun hasher append input db = .ok (db', answer)) :
    Commits hasher append (.createRun input) db db' := by
  simp only [createRun, bind_eq_ok, orThrow_eq_ok] at committed
  obtain ⟨version, -, role, -, _, -, committed⟩ := committed
  split at committed
  case h_1 existing found =>
    simp only [bind_eq_ok, pure_eq_ok, Prod.mk.injEq] at committed
    obtain ⟨_, -, _, -, rfl, -⟩ := committed
    exact .refl
  case h_2 notFound =>
    simp only [bind_eq_ok, orThrow_eq_ok, pure_eq_ok,
      Prod.mk.injEq] at committed
    obtain ⟨runner, -, _, -, policy, -, _, -, runs, isCreated, trail, appended,
      _, -, rfl, -⟩ := committed
    rw [createMany, Option.ite_none_right_eq_some,
      Option.some.injEq] at isCreated
    obtain ⟨free, rfl⟩ := isCreated
    exact .single (.created input rfl version policy trail free appended)

theorem expireRunIfRequired_commits
    {answer : Unit}
    (committed :
      expireRunIfRequired hasher append runId now db = .ok (db', answer)) :
    Commits hasher append transaction db db' := by
  unfold expireRunIfRequired at committed
  split at committed
  case h_1 notFound =>
    cases committed
    exact .refl
  case h_2 run found =>
    split at committed
    case isTrue expired =>
      exact commits_of_change (Database.mem_of_run? found).1
        (.interrupted now expired) committed
    case isFalse notExpired =>
      cases committed
      exact .refl

theorem Database.mem_of_nextQueued
    (isNext : db.nextQueued input = some run) :
    run ∈ db.runs ∧ run.status = .queued ∧
      run.runnerDeviceId = input.runnerDeviceId := by
  have listed := List.mem_of_head? isNext
  rw [List.mem_insertionSort, List.mem_filter] at listed
  simp only [decide_eq_true_eq] at listed
  exact ⟨listed.1, listed.2.2.1, listed.2.1⟩

theorem claimNext_commits
    {runner : RunnerDevice}
    {answer : ClaimWorkflowRunResult}
    (committed :
      claimNext hasher append input runner db = .ok (db', answer)) :
    Commits hasher append (.claim input) db db' := by
  unfold claimNext at committed
  split at committed
  case h_1 notFound =>
    cases committed
    exact .refl
  case h_2 run isNext =>
    obtain ⟨listed, queued, ofRunner⟩ := Database.mem_of_nextQueued isNext
    exact commits_of_change listed
      (.claimed input rfl runner _ queued ofRunner) committed

theorem claimAgain_step
    {change : RunChange ClaimWorkflowRunResult}
    (claims : claimAgain hasher input run = .ok change) :
    RunStep hasher transaction run change.run change.events := by
  simp only [claimAgain, bind_eq_ok, refuseIf_eq_ok] at claims
  obtain ⟨_, notRefused, claims⟩ := claims
  split at claims
  case isTrue expired =>
    cases claims
    refine .interrupted input.now ?_
    simp only [not_or, Bool.not_eq_true', Bool.not_eq_false] at notRefused
    simp [WorkflowRun.leaseHasExpired, notRefused.1, expired]
  case isFalse notExpired =>
    cases claims
    exact .unchanged

theorem claim_commits
    {answer : ClaimWorkflowRunResult}
    (committed : claim hasher append input db = .ok (db', answer)) :
    Commits hasher append (.claim input) db db' := by
  simp only [claim, bind_eq_ok, orThrow_eq_ok] at committed
  obtain ⟨runner, -, _, -, committed⟩ := committed
  split at committed
  case isTrue noJob =>
    cases committed
    exact .refl
  case isFalse =>
    split at committed
    case h_1 retried found =>
      obtain ⟨change, claims, committed⟩ := bind_eq_ok.mp committed
      exact commits_of_change (List.mem_of_find?_eq_some found)
        (claimAgain_step claims) committed
    case h_2 notRetried =>
      split at committed
      case isTrue draining =>
        cases committed
        exact .refl
      case isFalse =>
        split at committed
        case h_1 idle => exact claimNext_commits committed
        case h_2 active found =>
          split at committed
          case isTrue expired =>
            obtain ⟨⟨middle, _⟩, interrupts, committed⟩ :=
              bind_eq_ok.mp committed
            exact Relation.ReflTransGen.trans
              (commits_of_change (List.mem_of_find?_eq_some found)
                (.interrupted input.now expired) interrupts)
              (claimNext_commits committed)
          case isFalse =>
            cases committed
            exact .refl

theorem cancel_commits
    {input : CancelRun}
    {answer : CompletionResult}
    (committed : cancel hasher append input db = .ok (db', answer)) :
    Commits hasher append (.cancel input) db db' := by
  refine commits_of_changeRun ?_ committed
  intro run change _ cancels
  simp only [bind_eq_ok] at cancels
  obtain ⟨role, -, _, -, cancels⟩ := cancels
  split at cancels
  case isTrue finished =>
    obtain ⟨record, -, cancels⟩ := bind_eq_ok.mp cancels
    cases cancels
    exact .unchanged
  case isFalse unfinished =>
    exact .cancelled input rfl change (by simpa using unfinished) cancels

theorem Database.mem_of_approval?
    {request : WorkflowApprovalRequest}
    (found : db.approval? requestId = some (run, request)) :
    run ∈ db.runs ∧ request ∈ run.approvalRequests ∧ request.id = requestId := by
  obtain ⟨other, listed, isFound⟩ := List.exists_of_findSome?_eq_some found
  obtain ⟨request', isRequest, same⟩ := Option.map_eq_some_iff.mp isFound
  obtain ⟨rfl, rfl⟩ := Prod.mk.inj same
  exact ⟨listed, mem_of_findUnique isRequest⟩

theorem Database.mem_of_repair?
    {request : WorkflowRepairRequest}
    (found : db.repair? requestId = some (run, request)) :
    run ∈ db.runs ∧ request ∈ run.repairRequests ∧ request.id = requestId := by
  obtain ⟨other, listed, isFound⟩ := List.exists_of_findSome?_eq_some found
  obtain ⟨request', isRequest, same⟩ := Option.map_eq_some_iff.mp isFound
  obtain ⟨rfl, rfl⟩ := Prod.mk.inj same
  exact ⟨listed, mem_of_findUnique isRequest⟩

theorem expireApproval_commits
    {terminateRun : Bool}
    {answer : Unit}
    (committed :
      expireApproval hasher append requestId now terminateRun db =
        .ok (db', answer)) :
    Commits hasher append (.expireApproval requestId now terminateRun) db db' := by
  unfold expireApproval at committed
  split at committed
  case h_1 notFound =>
    cases committed
    exact .refl
  case h_2 run request found =>
    split at committed
    case isTrue expires =>
      obtain ⟨listed, requested, rfl⟩ := Database.mem_of_approval? found
      exact commits_of_change listed
        (.approvalExpired request now terminateRun rfl requested expires)
        committed
    case isFalse =>
      cases committed
      exact .refl

theorem expireRepair_commits
    {terminateRun : Bool}
    {answer : Unit}
    (committed :
      expireRepair hasher append requestId now terminateRun db =
        .ok (db', answer)) :
    Commits hasher append (.expireRepair requestId now terminateRun) db db' := by
  unfold expireRepair at committed
  split at committed
  case h_1 notFound =>
    cases committed
    exact .refl
  case h_2 run request found =>
    split at committed
    case isTrue expires =>
      obtain ⟨listed, requested, rfl⟩ := Database.mem_of_repair? found
      exact commits_of_change listed
        (.repairExpired request now terminateRun rfl requested expires)
        committed
    case isFalse =>
      cases committed
      exact .refl

/-- A transaction commits changes only. -/
theorem Transaction.commits
    {transaction : Transaction}
    (committed : transaction.commit hasher append db = .ok db') :
    Commits hasher append transaction db db' := by
  cases transaction with
  | createRun input =>
      obtain ⟨_, committed⟩ := map_fst_eq_ok.mp committed
      exact createRun_commits committed
  | claim input =>
      obtain ⟨_, committed⟩ := map_fst_eq_ok.mp committed
      exact claim_commits committed
  | expireRunIfRequired runId now =>
      obtain ⟨_, committed⟩ := map_fst_eq_ok.mp committed
      exact expireRunIfRequired_commits committed
  | renewLease input =>
      obtain ⟨_, committed⟩ := map_fst_eq_ok.mp committed
      refine commits_of_changeRun ?_ committed
      intro run change _ renews
      obtain ⟨_, leased, renews⟩ := bind_eq_ok.mp renews
      cases renews
      exact .renewed input rfl _ leased
  | ingestProgress input =>
      obtain ⟨_, committed⟩ := map_fst_eq_ok.mp committed
      exact commits_of_changeRun
        (fun run change isRun => .ingested input rfl change isRun.symm) committed
  | complete input =>
      obtain ⟨_, committed⟩ := map_fst_eq_ok.mp committed
      exact commits_of_changeRun
        (fun run change _ => .completed input rfl change) committed
  | cancel input =>
      obtain ⟨_, committed⟩ := map_fst_eq_ok.mp committed
      exact cancel_commits committed
  | createApproval input =>
      obtain ⟨_, committed⟩ := map_fst_eq_ok.mp committed
      obtain ⟨_, -, committed⟩ := bind_eq_ok.mp committed
      exact commits_of_changeRun
        (fun run change _ => .approvalCreated input rfl change) committed
  | expireApproval requestId now terminateRun =>
      obtain ⟨_, committed⟩ := map_fst_eq_ok.mp committed
      exact expireApproval_commits committed
  | decideApproval input =>
      obtain ⟨_, committed⟩ := map_fst_eq_ok.mp committed
      simp only [decideLockedApproval, bind_eq_ok,
        orThrow_eq_ok] at committed
      obtain ⟨⟨run, request⟩, found, _, -, role, -, change, decides,
        committed⟩ := committed
      obtain ⟨listed, requested, -⟩ := Database.mem_of_approval? found
      exact commits_of_change listed
        (.approvalDecided input rfl role request change requested decides)
        committed
  | createRepair input =>
      obtain ⟨_, committed⟩ := map_fst_eq_ok.mp committed
      obtain ⟨_, -, committed⟩ := bind_eq_ok.mp committed
      exact commits_of_changeRun
        (fun run change _ => .repairCreated input rfl change) committed
  | expireRepair requestId now terminateRun =>
      obtain ⟨_, committed⟩ := map_fst_eq_ok.mp committed
      exact expireRepair_commits committed
  | decideRepair input =>
      obtain ⟨_, committed⟩ := map_fst_eq_ok.mp committed
      simp only [decideLockedRepair, bind_eq_ok, orThrow_eq_ok] at committed
      obtain ⟨_, -, ⟨run, request⟩, found, role, -, change, decides,
        committed⟩ := committed
      obtain ⟨listed, requested, -⟩ := Database.mem_of_repair? found
      exact commits_of_change listed
        (.repairDecided input rfl role request change requested decides) committed
  | revokeRunnerDevice input =>
      obtain ⟨_, committed⟩ := map_fst_eq_ok.mp committed
      simp only [RunStore.revokeRunnerDevice, bind_eq_ok, orThrow_eq_ok,
        Except.ok.injEq, Prod.mk.injEq] at committed
      obtain ⟨device, -, role, -, _, -, rfl, -⟩ := committed
      exact .single (.revoked input rfl _)

/-- A property that every change keeps. -/
def KeptByCommits
    (hasher : AuditHasher)
    (append : Trail → JsValue → Option Trail)
    (holds : Database Trail → Prop) :
    Prop :=
  ∀ transaction db db',
    holds db → Commit hasher append transaction db db' → holds db'

variable {holds : Database Trail → Prop}

theorem KeptByCommits.commits
    (kept : KeptByCommits hasher append holds)
    (before : holds db)
    (commits : Commits hasher append transaction db db') :
    holds db' := by
  induction commits with
  | refl => exact before
  | tail _ commit inductionHypothesis =>
      exact kept _ _ _ inductionHypothesis commit

theorem KeptByCommits.perform
    (kept : KeptByCommits hasher append holds)
    (before : holds db)
    (transaction : Transaction) :
    holds (perform hasher append db transaction) := by
  unfold RunStore.perform
  cases committed : transaction.commit hasher append db with
  | error failure => exact before
  | ok db' => exact kept.commits before (Transaction.commits committed)

/-- What every change keeps holds after every sequence of transactions. -/
theorem KeptByCommits.performAll
    (kept : KeptByCommits hasher append holds)
    (before : holds db)
    (transactions : List Transaction) :
    holds (performAll hasher append db transactions) := by
  induction transactions generalizing db with
  | nil => exact before
  | cons transaction transactions inductionHypothesis =>
      exact inductionHypothesis (kept.perform before transaction)

end TaskTwin.RunStore
