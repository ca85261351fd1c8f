import TaskTwin.RunStore.ProgressLedger
import TaskTwin.RunStore.StatusMoves

/-!
# One active run, under one lease

A runner has one active run at most, and only active runs have leases.  A call
with a lease that is wrong or has expired changes nothing itself; what may
change is that the run is interrupted before, because its lease has run out.
-/

namespace TaskTwin.RunStore

open Text Schema Workflow Engine Audit Store

variable {Trail : Type} {hasher : AuditHasher}

/-- A run that is not active has no lease. -/
def WorkflowRun.LeaseFits (run : WorkflowRun) : Prop :=
  run.status.isActive = false →
    run.leaseTokenHash = none ∧ run.leaseExpiresAt = none

theorem StatusMove.leaseFits
    {transaction : Transaction}
    {run run' : WorkflowRun}
    (fits : run.LeaseFits)
    (move : StatusMove transaction run run') :
    run'.LeaseFits := by
  intro inactive
  cases move with
  | kept status token expiry =>
      rw [status] at inactive
      rw [token, expiry]
      exact fits inactive
  | active before after =>
      rw [after] at inactive
      cases inactive
  | claimed input isClaim queued after =>
      rw [after] at inactive
      cases inactive
  | dropped queued after token expiry =>
      rw [token, expiry]
      exact fits (by rw [queued]; rfl)
  | ended before after token expiry => exact ⟨token, expiry⟩

variable {append : Trail → JsValue → Option Trail}

/-- Only active runs have leases. -/
def LeasesFit (db : Database Trail) : Prop :=
  ∀ run ∈ db.runs, run.LeaseFits

theorem leasesFit_kept : KeptByCommits hasher append (@LeasesFit Trail) :=
  keptByCommits_of_runs
    (fun _ _ _ _ => ⟨rfl, rfl⟩)
    (fun _ _ _ _ fits step => step.statusMove.leaseFits fits)
    (fun run runnerDeviceId now fits =>
      (revoked_statusMove (.expireRunIfRequired run.id now) run runnerDeviceId
        now).leaseFits fits)

/-- Two active runs of a runner are the same run. -/
def OneActiveRun (db : Database Trail) : Prop :=
  ∀ run ∈ db.runs, ∀ other ∈ db.runs,
    run.runnerDeviceId = other.runnerDeviceId →
    run.status.isActive = true →
    other.status.isActive = true →
    run.id = other.id

/-- What is active was active before. -/
def NoneBecomesActive (db db' : Database Trail) : Prop :=
  ∀ run' ∈ db'.runs, run'.status.isActive = true →
    ∃ run ∈ db.runs,
      run.id = run'.id ∧ run.runnerDeviceId = run'.runnerDeviceId ∧
        run.status.isActive = true

theorem NoneBecomesActive.refl (db : Database Trail) : NoneBecomesActive db db :=
  fun run listed active => ⟨run, listed, rfl, rfl, active⟩

theorem NoneBecomesActive.trans
    {first second third : Database Trail}
    (none : NoneBecomesActive first second)
    (none' : NoneBecomesActive second third) :
    NoneBecomesActive first third := by
  intro run listed active
  obtain ⟨middle, isMiddle, sameId, sameRunner, wasActive⟩ :=
    none' run listed active
  obtain ⟨before, isBefore, sameId', sameRunner', wasActive'⟩ :=
    none middle isMiddle wasActive
  exact ⟨before, isBefore, sameId'.trans sameId,
    sameRunner'.trans sameRunner, wasActive'⟩

variable {transaction : Transaction} {db db' : Database Trail}

theorem NoneBecomesActive.oneActiveRun
    (none : NoneBecomesActive db db')
    (one : OneActiveRun db) :
    OneActiveRun db' := by
  intro run listed other listed' sameRunner active active'
  obtain ⟨before, isBefore, sameId, ofRunner, wasActive⟩ :=
    none run listed active
  obtain ⟨before', isBefore', sameId', ofRunner', wasActive'⟩ :=
    none other listed' active'
  rw [← sameId, ← sameId']
  exact one before isBefore before' isBefore'
    ((ofRunner.trans sameRunner).trans ofRunner'.symm) wasActive wasActive'

variable
  {db : Database Trail}
  (runId : JsString)
  {run run' : WorkflowRun}
  (now : Nat)

/-- A run becomes active by a claim only. -/
theorem StatusMove.wasActive
    (notClaim : ∀ input, transaction ≠ .claim input)
    (move : StatusMove transaction run run')
    (active : run'.status.isActive = true) :
    run.status.isActive = true := by
  cases move with
  | kept status token expiry => rwa [status] at active
  | active before after => exact before
  | claimed input isClaim queued after => exact absurd isClaim (notClaim input)
  | dropped queued after token expiry =>
      rw [not_isTerminal_of_isActive active] at after
      cases after
  | ended before after token expiry => exact before

theorem RunStep.putRun_noneBecomesActive
    {events : List AuditEventInput}
    {trail : Trail}
    (notClaim : ∀ input, transaction ≠ .claim input)
    (listed : run ∈ db.runs)
    (step : RunStep hasher transaction run run' events) :
    NoneBecomesActive db { db.putRun run' with trail } := by
  intro row isRow active
  rcases mem_putRun isRow with rfl | ⟨old, -⟩
  · have same := step.sameIdentity
    exact ⟨run, listed, same.id.symm, same.runnerDeviceId.symm,
      step.statusMove.wasActive notClaim active⟩
  · exact ⟨row, old, rfl, rfl, active⟩

theorem Commit.noneBecomesActive
    (notClaim : ∀ input, transaction ≠ .claim input)
    (commit : Commit hasher append transaction db db') :
    NoneBecomesActive db db' := by
  cases commit with
  | created input _ version policy trail free =>
      intro row isRow active
      rcases List.mem_append.mp isRow with old | isNew
      · exact ⟨row, old, rfl, rfl, active⟩
      · rw [List.mem_singleton.mp isNew] at active
        cases active
  | changed run run' events trail listed step appended =>
      exact step.putRun_noneBecomesActive notClaim listed
  | revoked input _ runners =>
      intro row isRow active
      obtain ⟨before, isBefore, rfl⟩ := List.mem_map.mp isRow
      have same := revoked_sameIdentity before input.runnerDeviceId input.now
      exact ⟨before, isBefore, same.id.symm, same.runnerDeviceId.symm,
        (revoked_statusMove _ before input.runnerDeviceId
          input.now).wasActive notClaim active⟩

theorem Commits.noneBecomesActive
    (notClaim : ∀ input, transaction ≠ .claim input)
    (commits : Commits hasher append transaction db db') :
    NoneBecomesActive db db' := by
  induction commits with
  | refl => exact NoneBecomesActive.refl db
  | tail _ commit inductionHypothesis =>
      exact inductionHypothesis.trans (commit.noneBecomesActive notClaim)

/-- A runner without an active run has one at most after it has claimed. -/
theorem claimNext_oneActiveRun
    {input : ClaimRun}
    {runner : RunnerDevice}
    {db db' : Database Trail}
    {answer : ClaimWorkflowRunResult}
    (one : OneActiveRun db)
    (idle :
      ∀ run ∈ db.runs, run.runnerDeviceId = input.runnerDeviceId →
        run.status.isActive = false)
    (claims : claimNext hasher append input runner db = .ok (db', answer)) :
    OneActiveRun db' := by
  unfold claimNext at claims
  split at claims
  case h_1 notFound =>
    cases claims
    exact one
  case h_2 next isNext =>
    obtain ⟨-, queued, ofRunner⟩ := Database.mem_of_nextQueued isNext
    obtain ⟨trail, -, rfl, -⟩ := commitChange_eq_ok.mp claims
    have same :=
      (@RunStep.claimed hasher (.claim input) next input rfl runner
        ((db.activePolicy next.workspaceId).map PolicyVersion.id) queued
        ofRunner).sameIdentity
    intro row isRow other isOther sameRunner active active'
    rcases mem_putRun isRow with rfl | ⟨old, -⟩
    · rcases mem_putRun isOther with rfl | ⟨old', -⟩
      · rfl
      · have inactive :=
          idle other old'
            (sameRunner.symm.trans (same.runnerDeviceId.trans ofRunner))
        rw [inactive] at active'
        cases active'
    · rcases mem_putRun isOther with rfl | ⟨old', -⟩
      · have inactive :=
          idle row old (sameRunner.trans (same.runnerDeviceId.trans ofRunner))
        rw [inactive] at active
        cases active
      · exact one row old other old' sameRunner active active'

/-- No transaction leaves a runner with two active runs. -/
theorem claim_oneActiveRun
    {input : ClaimRun}
    {db db' : Database Trail}
    {answer : ClaimWorkflowRunResult}
    (one : OneActiveRun db)
    (claims : claim hasher append input db = .ok (db', answer)) :
    OneActiveRun db' := by
  simp only [claim, bind_eq_ok, orThrow_eq_ok] at claims
  obtain ⟨runner, -, _, -, claims⟩ := claims
  split at claims
  case isTrue noJob =>
    cases claims
    exact one
  case isFalse =>
    split at claims
    case h_1 retried found =>
      obtain ⟨change, again, claims⟩ := bind_eq_ok.mp claims
      obtain ⟨trail, -, rfl, -⟩ := commitChange_eq_ok.mp claims
      have step :
          RunStep hasher (.expireRunIfRequired retried.id input.now) retried
            change.run change.events :=
        claimAgain_step again
      exact (step.putRun_noneBecomesActive (by simp)
        (List.mem_of_find?_eq_some found)).oneActiveRun one
    case h_2 notRetried =>
      split at claims
      case isTrue draining =>
        cases claims
        exact one
      case isFalse =>
        split at claims
        case h_1 noneActive =>
          refine claimNext_oneActiveRun one ?_ claims
          intro run listed ofRunner
          have notActive := List.find?_eq_none.mp noneActive run listed
          simpa [ofRunner] using notActive
        case h_2 active found =>
          split at claims
          case isFalse => 
            cases claims
            exact one
          case isTrue expired =>
            obtain ⟨⟨middle, _⟩, interrupts, claims⟩ := bind_eq_ok.mp claims
            obtain ⟨trail, -, rfl, -⟩ := commitChange_eq_ok.mp interrupts
            have listed := List.mem_of_find?_eq_some found
            have isActive := List.find?_some found
            simp only [decide_eq_true_eq] at isActive
            have step :
                RunStep hasher (.expireRunIfRequired active.id input.now)
                  active (interruptLockedRun hasher input.now active).run
                  (interruptLockedRun hasher input.now active).events :=
              .interrupted input.now expired
            refine claimNext_oneActiveRun
              ((step.putRun_noneBecomesActive (by simp) listed).oneActiveRun
                one) ?_ claims
            intro run isRun ofRunner
            rcases mem_putRun isRun with rfl | ⟨old, otherId⟩
            · rfl
            · cases stillActive : run.status.isActive with
              | false => rfl
              | true =>
                  have sameId :=
                    one run old active listed
                      (ofRunner.trans isActive.1.symm) stillActive isActive.2
                  exact absurd sameId otherId

theorem perform_oneActiveRun
    (one : OneActiveRun db)
    (transaction : Transaction) :
    OneActiveRun (perform hasher append db transaction) := by
  unfold perform
  split
  case h_2 failure threw => exact one
  case h_1 db' committed =>
    cases isClaim : transaction with
    | claim input =>
        rw [isClaim] at committed
        obtain ⟨_, claims⟩ := map_fst_eq_ok.mp committed
        exact claim_oneActiveRun one claims
    | _ =>
        exact ((Transaction.commits committed).noneBecomesActive
          (by simp [isClaim])).oneActiveRun one

theorem performAll_oneActiveRun
    (one : OneActiveRun db)
    (transactions : List Transaction) :
    OneActiveRun (performAll hasher append db transactions) := by
  induction transactions generalizing db with
  | nil => exact one
  | cons transaction transactions inductionHypothesis =>
      exact inductionHypothesis (perform_oneActiveRun one transaction)

/-- A run that has finished goes on with the status it ended with. -/
def StaysFinished (row row' : Option WorkflowRun) : Prop :=
  ∀ run, row = some run → run.status.isTerminal = true →
    ∃ run', row' = some run' ∧ run'.status = run.status

theorem StatusMove.finished
    {transaction : Transaction}
    {run run' : WorkflowRun}
    (move : StatusMove transaction run run')
    (finished : run.status.isTerminal = true) :
    run'.status = run.status := by
  have notActive : run.status.isActive ≠ true := by
    intro active
    rw [not_isTerminal_of_isActive active] at finished
    cases finished
  have notQueued : run.status ≠ .queued := by
    intro queued
    rw [queued] at finished
    cases finished
  cases move with
  | kept status token expiry => exact status
  | active before after => exact absurd before notActive
  | claimed input isClaim queued after => exact absurd queued notQueued
  | dropped queued after token expiry => exact absurd queued notQueued
  | ended before after token expiry => exact absurd before notActive

theorem RowMove.staysFinished
    {transaction : Transaction}
    {row row' : Option WorkflowRun}
    (move : RowMove hasher transaction row row') :
    StaysFinished row row' := by
  intro run isRun finished
  cases move with
  | same => exact ⟨run, isRun, rfl⟩
  | created input isCreation version policy => cases isRun
  | changed before after events step =>
      obtain rfl := Option.some.inj isRun
      exact ⟨after, rfl, step.statusMove.finished finished⟩
  | revoked input isRevocation before =>
      obtain rfl := Option.some.inj isRun
      exact ⟨_, rfl,
        (revoked_statusMove transaction before input.runnerDeviceId
          input.now).finished finished⟩

theorem StaysFinished.refl (row : Option WorkflowRun) : StaysFinished row row :=
  fun run isRun _ => ⟨run, isRun, rfl⟩

theorem StaysFinished.trans
    (first second third : Option WorkflowRun)
    (stays : StaysFinished first second)
    (stays' : StaysFinished second third) :
    StaysFinished first third := by
  intro run isRun finished
  obtain ⟨middle, isMiddle, sameStatus⟩ := stays run isRun finished
  obtain ⟨last, isLast, sameStatus'⟩ :=
    stays' middle isMiddle (by rwa [sameStatus])
  exact ⟨last, isLast, sameStatus'.trans sameStatus⟩

/-- What every move of a row keeps is kept by every sequence of transactions. -/
theorem performAll_rowMoves
    {keeps : Option WorkflowRun → Option WorkflowRun → Prop}
    (refl : ∀ row, keeps row row)
    (trans :
      ∀ first second third,
        keeps first second → keeps second third → keeps first third)
    (moves :
      ∀ transaction row row',
        RowMove hasher transaction row row' → keeps row row')
    (distinct : DistinctRuns db)
    (transactions : List Transaction)
    (runId : JsString) :
    keeps (db.run? runId)
      ((performAll hasher append db transactions).run? runId) := by
  induction transactions generalizing db with
  | nil => exact refl _
  | cons transaction transactions inductionHypothesis =>
      have distinct' :
          DistinctRuns (perform hasher append db transaction) :=
        distinctRuns_kept.perform distinct transaction
      refine trans _ _ _ ?_ (inductionHypothesis distinct')
      unfold perform
      split
      case h_2 failure threw => exact refl _
      case h_1 db' committed =>
        exact ((Transaction.commits committed).rowMoves refl trans
          (moves transaction) distinct runId).2

theorem performAll_staysFinished
    (distinct : DistinctRuns db)
    (transactions : List Transaction)
    (runId : JsString) :
    StaysFinished (db.run? runId)
      ((performAll hasher append db transactions).run? runId) :=
  performAll_rowMoves StaysFinished.refl StaysFinished.trans
    (fun _ _ _ move => move.staysFinished) distinct transactions runId

/-- The lease that a runner shows is the one of the run, and has not expired. -/
def Database.HasLease
    (db : Database Trail)
    (runId : JsString)
    (lease : LeaseClaim)
    (now : Nat) :
    Prop :=
  ∃ run expiresAt,
    db.run? runId = some run ∧
      run.leaseTokenHash = some lease.leaseTokenHash ∧
      run.leaseExpiresAt = some expiresAt ∧ now < expiresAt

/-- The database after a run was interrupted, if its lease has run out. -/
def afterExpiry
    (hasher : AuditHasher)
    (append : Trail → JsValue → Option Trail)
    (runId : JsString)
    (now : Nat)
    (db : Database Trail) :
    Database Trail :=
  (transact (expireRunIfRequired hasher append runId now) db).1

/-- Nothing was interrupted, or the run whose lease had expired. -/
theorem afterExpiry_eq
    (db : Database Trail) :
    afterExpiry hasher append runId now db = db ∨
      ∃ run trail,
        db.run? runId = some run ∧
          run.leaseHasExpired now = true ∧
          afterExpiry hasher append runId now db =
            { db.putRun (interruptLockedRun hasher now run).run with trail } := by
  cases interrupts : expireRunIfRequired hasher append runId now db with
  | error failure =>
      exact Or.inl (by rw [afterExpiry, transact_of_error interrupts])
  | ok answer =>
      obtain ⟨db', _⟩ := answer
      rw [afterExpiry, transact_of_ok interrupts]
      unfold expireRunIfRequired at interrupts
      split at interrupts
      case h_1 notFound =>
        cases interrupts
        exact Or.inl rfl
      case h_2 run found =>
        split at interrupts
        case isFalse =>
          cases interrupts
          exact Or.inl rfl
        case isTrue expired =>
          obtain ⟨trail, -, written, -⟩ := commitChange_eq_ok.mp interrupts
          exact Or.inr ⟨run, trail, found, expired, written⟩

/-- Either nothing was interrupted, or the run has lost its lease. -/
theorem afterExpiry_cases
    (db : Database Trail) :
    afterExpiry hasher append runId now db = db ∨
      ∃ run, (afterExpiry hasher append runId now db).run? runId = some run ∧
        run.status = .interrupted ∧ run.leaseTokenHash = none := by
  rcases @afterExpiry_eq _ hasher append runId now db with
    unchanged | ⟨run, trail, found, -, written⟩
  · exact Or.inl unchanged
  · obtain ⟨listed, isRun⟩ := Database.mem_of_run? found
    have lookup :=
      @run?_putRun _ db runId (interruptLockedRun hasher now run).run
        ⟨run, listed, rfl⟩
    refine Or.inr ⟨(interruptLockedRun hasher now run).run, ?_, rfl, rfl⟩
    rw [written]
    exact lookup.trans (if_pos isRun.symm)

theorem distinctRuns_afterExpiry
    {runId : JsString}
    {now : Nat}
    {db : Database Trail}
    (distinct : DistinctRuns db) :
    DistinctRuns (afterExpiry hasher append runId now db) := by
  rcases @afterExpiry_eq _ hasher append runId now db with
    unchanged | ⟨run, trail, -, -, written⟩
  · rw [unchanged]
    exact distinct
  · rw [written]
    exact (congrArg List.Nodup (putRun_ids _)).mpr distinct

/-- Who has no lease before an interruption has none after it. -/
theorem not_leaseHeld_afterExpiry
    {runId : JsString}
    {lease : LeaseClaim}
    {now : Nat}
    {db : Database Trail}
    (noLease : ¬db.HasLease runId lease now)
    {run : WorkflowRun}
    (found : (afterExpiry hasher append runId now db).run? runId = some run) :
    ¬LeaseHeld lease now run := by
  intro held
  rcases @afterExpiry_cases _ hasher append runId now db with
    unchanged | ⟨other, isOther, -, noToken⟩
  · rw [unchanged] at found
    obtain ⟨expiresAt, isExpiry, inTime⟩ := held.unexpired
    exact noLease ⟨run, expiresAt, found, held.token, isExpiry, inTime⟩
  · obtain rfl := Option.some.inj (found.symm.trans isOther)
    rw [held.token] at noToken
    cases noToken

/-- A method that interrupts a run first has done no more than that, or what
its second transaction does after it. -/
theorem andThen_afterExpiry
    {α : Type}
    (runId : JsString)
    (now : Nat)
    (second : Database Trail → Except StoreFailure (Database Trail × α))
    (db : Database Trail) :
    (andThen (expireRunIfRequired hasher append runId now) second db).1 =
        afterExpiry hasher append runId now db ∨
      ∃ answer,
        second (afterExpiry hasher append runId now db) =
          .ok ((andThen (expireRunIfRequired hasher append runId now) second
            db).1, answer) := by
  unfold afterExpiry
  cases interrupts : expireRunIfRequired hasher append runId now db with
  | error failure => exact Or.inl (by simp [andThen, transact, interrupts])
  | ok answer =>
      obtain ⟨middle, _⟩ := answer
      rw [transact_of_ok interrupts, andThen_of_ok interrupts]
      cases answered : second middle with
      | error failure => exact Or.inl (by rw [transact_of_error answered])
      | ok answer =>
          obtain ⟨db', value⟩ := answer
          rw [transact_of_ok answered]
          exact Or.inr ⟨value, rfl⟩

theorem renewLease_of_noLease
    {input : RenewLease}
    {db : Database Trail}
    (noLease : ¬db.HasLease input.workflowRunId input.lease input.now) :
    (renewLease hasher append input db).1 =
      afterExpiry hasher append input.workflowRunId input.now db := by
  unfold renewLease
  rcases andThen_afterExpiry input.workflowRunId input.now
      (renewLockedLease append input) db with same | ⟨answer, renewed⟩
  · exact same
  · obtain ⟨run, change, found, renews, -⟩ := changeRun_eq_ok.mp renewed
    obtain ⟨_, leased, -⟩ := bind_eq_ok.mp renews
    exact absurd (leaseHeld_of_requireLease leased)
      (not_leaseHeld_afterExpiry noLease found)

theorem ingestProgress_of_noLease
    {input : IngestProgress}
    {db : Database Trail}
    (noLease : ¬db.HasLease input.workflowRunId input.lease input.now) :
    (ingestProgress hasher append input db).1 =
      afterExpiry hasher append input.workflowRunId input.now db := by
  unfold ingestProgress
  rcases andThen_afterExpiry input.workflowRunId input.now
      (ingestLockedProgress hasher append input) db with same | ⟨answer, ingested⟩
  · exact same
  · obtain ⟨run, change, found, ingests, -⟩ := changeRun_eq_ok.mp ingested
    obtain ⟨leased, -⟩ := ingestRun_cases ingests
    exact absurd (leaseHeld_of_requireLease leased)
      (not_leaseHeld_afterExpiry noLease found)

/-- A completion is the one that is due after an approval has expired. -/
structure IsLateCompletion
    (completion : CompletionInput)
    (run : WorkflowRun) :
    Prop where
  timedOut : run.status = .timedOut
  byApproval : run.terminationCause = some (.engine .approvalExpired)
  notCompleted : run.clientCompletionId = none
  isMatch : matchesExpiry .approvalExpired completion.result run = true

/-- The completion that is due after an expired approval needs no lease: its
identifier, its digest and its result are recorded. -/
theorem complete_of_noLease
    {input : Complete}
    {db : Database Trail}
    (distinct : DistinctRuns db)
    (noLease : ¬db.HasLease input.workflowRunId input.lease input.now) :
    (complete hasher append input db).1 =
        afterExpiry hasher append input.workflowRunId input.now db ∨
      ∃ run,
        db.run? input.workflowRunId = some run ∧
          IsLateCompletion input.completion run ∧
          (complete hasher append input db).1 =
            db.putRun (run.recordCompletion input.completion) := by
  unfold complete
  rcases andThen_afterExpiry input.workflowRunId input.now
      (completeLocked hasher append input) db with same | ⟨answer, completed⟩
  · exact Or.inl same
  · obtain ⟨run, change, found, completes, committed⟩ :=
      changeRun_eq_ok.mp completed
    obtain ⟨trail, appended, written, -⟩ := commitChange_eq_ok.mp committed
    obtain ⟨listed, -⟩ := Database.mem_of_run? found
    rcases completeRun_cases completes with
      ⟨-, -, -, rfl⟩ |
      ⟨timedOut, byApproval, notCompleted, isMatch, -, rfl⟩ |
      ⟨-, leased, -⟩
    · -- The completion is a replay of the one that was recorded.
      obtain rfl := Option.some.inj appended
      refine Or.inl ?_
      rw [written]
      exact putRun_of_listed
        (distinctRuns_afterExpiry distinct) listed
    · obtain rfl := Option.some.inj appended
      rcases @afterExpiry_cases _ hasher append input.workflowRunId input.now
          db with unchanged | ⟨other, isOther, interrupted, -⟩
      · rw [unchanged] at found written
        exact Or.inr
          ⟨run, found, ⟨timedOut, byApproval, notCompleted, isMatch⟩, written⟩
      · obtain rfl := Option.some.inj (found.symm.trans isOther)
        rw [timedOut] at interrupted
        cases interrupted
    · exact absurd (leaseHeld_of_requireLease leased)
        (not_leaseHeld_afterExpiry noLease found)

/-- What holds of the leases of a database, whatever is called next. -/
structure LeaseLaw
    (hasher : AuditHasher)
    (append : Trail → JsValue → Option Trail)
    (db : Database Trail) :
    Prop where
  /-- A runner has one active run at most. -/
  oneActive :
    ∀ run ∈ db.runs, ∀ other ∈ db.runs,
      run.runnerDeviceId = other.runnerDeviceId →
      run.status.isActive = true →
      other.status.isActive = true →
      run = other
  distinct : DistinctRuns db
  leasesFit : LeasesFit db
  finished :
    ∀ transactions runId,
      StaysFinished (db.run? runId)
        ((performAll hasher append db transactions).run? runId)
  /-- Only a run whose lease has expired is interrupted. -/
  interrupts :
    ∀ runId now,
      afterExpiry hasher append runId now db = db ∨
        ∃ run trail,
          db.run? runId = some run ∧
            run.leaseHasExpired now = true ∧
            afterExpiry hasher append runId now db =
              { db.putRun (interruptLockedRun hasher now run).run with trail }
  renewal :
    ∀ input : RenewLease,
      ¬db.HasLease input.workflowRunId input.lease input.now →
      (renewLease hasher append input db).1 =
        afterExpiry hasher append input.workflowRunId input.now db
  progress :
    ∀ input : IngestProgress,
      ¬db.HasLease input.workflowRunId input.lease input.now →
      (ingestProgress hasher append input db).1 =
        afterExpiry hasher append input.workflowRunId input.now db
  completion :
    ∀ input : Complete,
      ¬db.HasLease input.workflowRunId input.lease input.now →
      (complete hasher append input db).1 =
          afterExpiry hasher append input.workflowRunId input.now db ∨
        ∃ run,
          db.run? input.workflowRunId = some run ∧
            IsLateCompletion input.completion run ∧
            (complete hasher append input db).1 =
              db.putRun (run.recordCompletion input.completion)

variable {db : Database Trail}

theorem oneActiveRun_of_noRuns
    (noRuns : db.runs = []) :
    OneActiveRun db := by
  intro run listed
  rw [noRuns] at listed
  cases listed

theorem leasesFit_of_noRuns
    (noRuns : db.runs = []) :
    LeasesFit db := by
  intro run listed
  rw [noRuns] at listed
  cases listed

theorem distinctRuns_of_noRuns
    (noRuns : db.runs = []) :
    DistinctRuns db := by
  rw [DistinctRuns, noRuns]
  exact List.nodup_nil

/-- From a database without runs, the law of the leases holds at every
moment. -/
theorem performAll_leaseLaw
    (hasher : AuditHasher)
    (append : Trail → JsValue → Option Trail)
    (db : Database Trail)
    (noRuns : db.runs = [])
    (transactions : List Transaction) :
    LeaseLaw hasher append (performAll hasher append db transactions) := by
  have distinct :
      DistinctRuns (performAll hasher append db transactions) :=
    distinctRuns_kept.performAll (distinctRuns_of_noRuns noRuns) transactions
  have one :=
    @performAll_oneActiveRun _ hasher append _
      (oneActiveRun_of_noRuns noRuns) transactions
  exact
    { oneActive := fun run listed other otherListed sameRunner active
        otherActive =>
        distinct.eq otherListed listed
          (one run listed other otherListed sameRunner active otherActive)
      distinct
      leasesFit :=
        leasesFit_kept.performAll (leasesFit_of_noRuns noRuns) transactions
      finished := performAll_staysFinished distinct
      interrupts := fun runId now => afterExpiry_eq runId now _
      renewal := fun input noLease => renewLease_of_noLease noLease
      progress := fun input noLease => ingestProgress_of_noLease noLease
      completion := fun input noLease => complete_of_noLease distinct noLease }

theorem exampleTransactions_leaseLaw :
    LeaseLaw exampleHasher (fun _ _ => some ())
      (performAll exampleHasher (fun _ _ => some ()) (exampleDatabase Unit ())
        exampleTransactions) :=
  performAll_leaseLaw exampleHasher (fun _ _ => some ())
    (exampleDatabase Unit ()) rfl exampleTransactions

/-- A renewal that comes when the lease has expired. -/
def exampleLateRenewal : RenewLease :=
  { workflowRunId := exampleRun.id
    lease := exampleLease
    now := 1000
    leaseExpiresAt := 2000 }

/-- The renewal is refused, and the run is interrupted all the same. -/
theorem lateRenewal_interrupts :
    let append : Unit → JsValue → Option Unit := fun _ _ => some ()
    let db' :=
      performAll exampleHasher append (exampleDatabase Unit ())
        exampleTransactions
    ¬db'.HasLease exampleRun.id exampleLease exampleLateRenewal.now ∧
      (db'.run? exampleRun.id).map (·.status) = some .claimed ∧
      ((renewLease exampleHasher append exampleLateRenewal db').1.run?
        exampleRun.id).map (·.status) = some .interrupted := by
  refine ⟨?_, ?_, ?_⟩
  · rintro ⟨run, expiresAt, found, -, isExpiry, inTime⟩
    rw [exampleRun_found] at found
    obtain rfl := Option.some.inj found
    obtain rfl := Option.some.inj isExpiry
    exact absurd inTime (by decide)
  · rw [exampleRun_found]
    rfl
  · rfl

end TaskTwin.RunStore
