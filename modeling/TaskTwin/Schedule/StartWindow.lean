import TaskTwin.Schedule.Accounting

/-!
# Start windows

A scheduled run is created and claimed inside of its start window, and the end
of the window ends only a run that is still queued, while every tick and every
claim comes in time and every expiry finds its run queued.
-/

namespace TaskTwin.Schedule

open Text Audit Store RunStore

variable {Trail : Type}

/-- A scheduled run that was created, and claimed if it was, in its window. -/
structure InWindow
    (db : Database Trail)
    (scheduled : ScheduledRun) :
    Prop where
  deadline :
    ∃ schedule,
      db.schedule? scheduled.scheduleId = some schedule ∧
        scheduled.scheduledStartDeadlineAt =
          startDeadline scheduled.scheduledFor schedule.maxStartDelaySeconds
  started :
    ∃ run,
      db.store.run? scheduled.runId = some run ∧
        run.createdAt ≤ scheduled.scheduledStartDeadlineAt ∧
        ∀ claimedAt,
          run.claimedAt = some claimedAt →
          claimedAt ≤ scheduled.scheduledStartDeadlineAt

/-- Scheduled runs start in their windows, and the end of a window ends only
runs that are queued. -/
structure StartWindowsKept
    (hasher : AuditHasher)
    (append : Trail → JsValue → Option Trail)
    (calendar : Calendar)
    (db : Database Trail)
    (actions : List Action) :
    Prop where
  starts :
    ∀ before after,
      actions = before ++ after →
      ∀ scheduled ∈
          (performAll hasher append calendar db before).scheduledRuns,
        InWindow (performAll hasher append calendar db before) scheduled
  expiries :
    ∀ before occurrenceId now after,
      actions = before ++ .expireStartWindow occurrenceId now :: after →
      ∀ runId run,
        (performAll hasher append calendar db before).store.run? runId =
            some run →
        run.status ≠ .queued →
        (performAll hasher append calendar db
            (before ++ [.expireStartWindow occurrenceId now])).store.run?
              runId =
          some run

/-- A claim that takes the run queued next. -/
structure Takes
    (store : RunStore.Database Trail)
    (input : ClaimRun)
    (run : WorkflowRun) :
    Prop where
  next : store.nextQueued input = some run
  runner :
    ∃ runner,
      CanClaim store input runner ∧
        secretInventoryMatches input runner run = true
  hasPolicy : run.policyVersionId ≠ none
  samePolicy :
    (store.activePolicy run.workspaceId).map PolicyVersion.id =
      run.policyVersionId

/-- An action that dispatches, claims and expires in time. -/
structure ActsInTime (db : Database Trail) (action : Action) : Prop where
  tick :
    ∀ input,
      action = .processOccurrence input →
      ∀ schedule scheduledFor,
        IsDue db input schedule scheduledFor →
        CanDispatch db input schedule →
        input.now ≤ startDeadline scheduledFor schedule.maxStartDelaySeconds
  claim :
    ∀ input,
      action = .run (.claim input) →
      ∀ run,
        Takes db.store input run →
        ∀ scheduled ∈ db.scheduledRuns,
          scheduled.runId = run.id →
          input.now ≤ scheduled.scheduledStartDeadlineAt
  expiry :
    ∀ occurrenceId now,
      action = .expireStartWindow occurrenceId now →
      ∀ occurrence,
        db.occurrence? occurrenceId = some occurrence →
        hasMissedWindow now occurrence = true →
        ∀ runId run,
          occurrence.workflowRunId = some runId →
          db.store.run? runId = some run →
          run.status = .queued

variable
  {hasher : AuditHasher}
  {append : Trail → JsValue → Option Trail}
  {calendar : Calendar}
  {action : Action}
  {db db' : Database Trail}

/-- What a claim does to when a run was created and claimed. -/
theorem claim_times
    {input : ClaimRun}
    {store store' : RunStore.Database Trail}
    (distinct : DistinctRuns store)
    (isCommitted :
      (Transaction.claim input).commit hasher append store = .ok store')
    {runId : JsString}
    {run : WorkflowRun}
    (found : store.run? runId = some run) :
    ∃ run',
      store'.run? runId = some run' ∧ run'.createdAt = run.createdAt ∧
        (run'.claimedAt = run.claimedAt ∨
          Takes store input run ∧ run'.claimedAt = some input.now) := by
  have commits := (Transaction.claim input).commits isCommitted
  obtain ⟨run', found', created, -⟩ := commits_times distinct commits found
  refine ⟨run', found', created, ?_⟩
  by_cases queued : run.status = .queued
  · obtain ⟨answer, committed⟩ := map_fst_eq_ok.mp isCommitted
    rcases claim_queued distinct committed found queued with
      same | ⟨runner, canClaim, isNext, after⟩
    · obtain rfl := Option.some.inj (found'.symm.trans same)
      exact Or.inl rfl
    · obtain rfl := Option.some.inj (found'.symm.trans after)
      unfold claimQueued
      split
      case isTrue => exact Or.inl rfl
      case isFalse matching =>
        split
        case isTrue => exact Or.inl rfl
        case isFalse samePolicy =>
          rw [not_or, not_not] at samePolicy
          refine Or.inr ⟨?_, rfl⟩
          exact
            { next := isNext
              runner := ⟨runner, canClaim, by simpa using matching⟩
              hasPolicy := samePolicy.1
              samePolicy := samePolicy.2 }
  · obtain ⟨other, isOther, claimed⟩ :=
      commits_notQueued distinct commits found queued
    obtain rfl := Option.some.inj (found'.symm.trans isOther)
    exact Or.inl claimed

/-- What every action does to when a run was created and claimed. -/
theorem Commit.times
    (distinct : DistinctRuns db.store)
    (commit : Commit hasher append calendar action db db')
    {runId : JsString}
    {run : WorkflowRun}
    (found : db.store.run? runId = some run) :
    ∃ run',
      db'.store.run? runId = some run' ∧ run'.createdAt = run.createdAt ∧
        (run'.claimedAt = run.claimedAt ∨
          ∃ input,
            action = .run (.claim input) ∧ Takes db.store input run ∧
              run'.claimedAt = some input.now) := by
  cases commit with
  | skipped input isTick schedule scheduledFor isDue reason change isChange
      created isCreated =>
      obtain ⟨-, -, rfl⟩ := createOccurrence_eq_ok.mp isCreated
      exact ⟨run, found, rfl, Or.inl rfl⟩
  | dispatched input isTick schedule scheduledFor isDue canDispatch version
      policy pinned committed result isDispatched =>
      refine ⟨run, ?_, rfl, Or.inl rfl⟩
      rw [RunStore.Database.run?, (dispatched_of_eq_ok isDispatched).runs,
        findUnique, List.find?_append]
      exact Option.or_of_isSome (Option.isSome_of_eq_some found) ▸ found
  | expired occurrenceId now isExpiry occurrence isOccurrence missed store
      isExpired =>
      rcases expireRunOf_eq_ok isExpired with ⟨-, rfl⟩ | ⟨ended, -, isRun, rfl⟩
      · exact ⟨run, found, rfl, Or.inl rfl⟩
      · obtain ⟨listed, -⟩ := RunStore.Database.mem_of_run? isRun
        have isPut :
            (db.store.putRun (expiredRun now ended)).run? runId =
              if runId = ended.id then some (expiredRun now ended)
              else db.store.run? runId :=
          run?_putRun runId ⟨ended, listed, rfl⟩
        by_cases isEnded : runId = ended.id
        · rw [isEnded, isRun] at found
          obtain rfl := Option.some.inj found
          refine ⟨expiredRun now ended, ?_, rfl, Or.inl rfl⟩
          exact isPut.trans (if_pos isEnded)
        · refine ⟨run, ?_, rfl, Or.inl rfl⟩
          exact (isPut.trans (if_neg isEnded)).trans found
  | ran transaction isRun store isCommitted =>
      by_cases isClaim : ∃ input, transaction = .claim input
      · obtain ⟨input, rfl⟩ := isClaim
        obtain ⟨run', found', created, claimed⟩ :=
          claim_times distinct isCommitted found
        refine ⟨run', found', created, ?_⟩
        rcases claimed with same | ⟨takes, isClaimed⟩
        · exact Or.inl same
        · exact Or.inr ⟨input, isRun, takes, isClaimed⟩
      · obtain ⟨run', found', created, claimed⟩ :=
          commits_times distinct (transaction.commits isCommitted) found
        exact
          ⟨run', found', created,
            Or.inl (claimed (not_exists.mp isClaim))⟩
  | failed input isClaim store isCommitted failed isFailed scheduled
      isScheduled =>
      obtain ⟨run', found', created, claimed⟩ :=
        claim_times distinct isCommitted found
      refine ⟨run', found', created, ?_⟩
      rcases claimed with same | ⟨takes, isClaimed⟩
      · exact Or.inl same
      · exact Or.inr ⟨input, isClaim, takes, isClaimed⟩
  | _ => exact ⟨run, found, rfl, Or.inl rfl⟩

theorem SkipChange.maxStartDelaySeconds
    {input : ProcessOccurrence}
    {scheduledFor : Nat}
    {reason : ScheduleSkipReason}
    {change : WorkflowSchedule → WorkflowSchedule}
    (isChange : SkipChange calendar input scheduledFor reason change)
    (row : WorkflowSchedule) :
    (change row).maxStartDelaySeconds = row.maxStartDelaySeconds := by
  cases isChange with
  | maintained definition =>
      unfold maintainedSchedule
      split <;> rfl
  | blocked skipReason autoPauseReason => rfl
  | denied => rfl

/-- No action changes how long a schedule's runs may wait. -/
theorem ScheduleMove.maxStartDelaySeconds
    {scheduleId : JsString}
    {row row' : WorkflowSchedule}
    (move :
      ScheduleMove hasher append calendar action db db' scheduleId (some row)
        (some row')) :
    row'.maxStartDelaySeconds = row.maxStartDelaySeconds := by
  cases move with
  | skipped _ input scheduledFor isDue reason change isChange accounted =>
      exact isChange.maxStartDelaySeconds row
  | dispatched _ input scheduledFor isDue accounted =>
      unfold dispatchedSchedule
      dsimp only
      split <;> rfl
  | completed _ input isCompletion occurrence isOccurrence was ofSchedule =>
      unfold completedSchedule
      split <;> rfl
  | _ => rfl

/-- The deadline of a scheduled run stays the one of its schedule. -/
theorem Commit.deadline
    (commit : Commit hasher append calendar action db db')
    {scheduleId : JsString}
    {schedule : WorkflowSchedule}
    (found : db.schedule? scheduleId = some schedule) :
    ∃ schedule',
      db'.schedule? scheduleId = some schedule' ∧
        schedule'.maxStartDelaySeconds = schedule.maxStartDelaySeconds := by
  have move := commit.scheduleMove scheduleId
  rw [found] at move
  obtain ⟨schedule', found'⟩ := move.exists
  rw [found'] at move
  exact ⟨schedule', found', move.maxStartDelaySeconds⟩

/-- An action in time keeps scheduled runs in their windows. -/
theorem InWindow.next
    (distinct : DistinctRuns db.store)
    (inTime : ActsInTime db action)
    (commit : Commit hasher append calendar action db db')
    {scheduled : ScheduledRun}
    (listed : scheduled ∈ db.scheduledRuns)
    (inWindow : InWindow db scheduled) :
    InWindow db' scheduled := by
  obtain ⟨schedule, found, isDeadline⟩ := inWindow.deadline
  obtain ⟨run, isRun, created, claimed⟩ := inWindow.started
  obtain ⟨schedule', found', sameDelay⟩ := commit.deadline found
  obtain ⟨run', isRun', created', claimed'⟩ := commit.times distinct isRun
  constructor
  · exact ⟨schedule', found', by rw [sameDelay]; exact isDeadline⟩
  · refine ⟨run', isRun', by rw [created']; exact created, ?_⟩
    intro claimedAt isClaimed
    rcases claimed' with same | ⟨input, isClaim, takes, now⟩
    · exact claimed claimedAt (same.symm.trans isClaimed)
    · obtain rfl := Option.some.inj (now.symm.trans isClaimed)
      have sameId := (RunStore.Database.mem_of_run? isRun).2
      exact inTime.claim input isClaim run takes scheduled listed sameId.symm

/-- A tick in time adds scheduled runs in their windows. -/
theorem Commit.inWindow
    (inTime : ActsInTime db action)
    (commit : Commit hasher append calendar action db db')
    {scheduled : ScheduledRun}
    (listed : scheduled ∈ db'.scheduledRuns)
    (isNew : scheduled ∉ db.scheduledRuns) :
    InWindow db' scheduled := by
  have deadline := fun scheduleId schedule =>
    @Commit.deadline Trail hasher append calendar action db db' commit
      scheduleId schedule
  cases commit with
  | skipped input isTick schedule scheduledFor isDue reason change isChange
      created isCreated =>
      obtain ⟨-, -, rfl⟩ := createOccurrence_eq_ok.mp isCreated
      exact absurd listed isNew
  | dispatched input isTick schedule scheduledFor isDue canDispatch version
      policy pinned committed result isDispatched =>
      have dispatched := dispatched_of_eq_ok isDispatched
      rw [dispatched.scheduledRuns, List.mem_append] at listed
      rcases listed with old | isRun
      · exact absurd old isNew
      · obtain rfl := List.mem_singleton.mp isRun
        obtain ⟨schedule', found', sameDelay⟩ :=
          deadline schedule.id schedule isDue.found
        constructor
        · exact ⟨schedule', found', by rw [sameDelay]; rfl⟩
        · refine
            ⟨input.run schedule version policy pinned, ?_,
              inTime.tick input isTick schedule scheduledFor isDue canDispatch,
              ?_⟩
          · have isListed :
                input.run schedule version policy pinned ∈ db'.store.runs := by
              rw [dispatched.runs]
              exact List.mem_append_right _ (List.mem_singleton_self _)
            exact dispatched.runIds.run? isListed
          · intro claimedAt isClaimed
            cases isClaimed
  | _ => exact absurd listed isNew

/-- An expiry in time ends queued runs only. -/
theorem Commit.sparesStarted
    {occurrenceId : JsString}
    {now : Nat}
    (inTime : ActsInTime db (.expireStartWindow occurrenceId now))
    (commit :
      Commit hasher append calendar (.expireStartWindow occurrenceId now) db
        db')
    {runId : JsString}
    {run : WorkflowRun}
    (found : db.store.run? runId = some run)
    (notQueued : run.status ≠ .queued) :
    db'.store.run? runId = some run := by
  cases commit with
  | unchanged => exact found
  | expired _ _ isExpiry occurrence isOccurrence missed store isExpired =>
      cases isExpiry
      rcases expireRunOf_eq_ok isExpired with
        ⟨-, rfl⟩ | ⟨ended, isRunId, isRun, rfl⟩
      · exact found
      · have queued :=
          inTime.expiry occurrenceId now rfl occurrence isOccurrence missed
            ended.id ended isRunId isRun
        have notEnded : runId ≠ ended.id := by
          rintro rfl
          obtain rfl := Option.some.inj (found.symm.trans isRun)
          exact notQueued queued
        obtain ⟨listed, -⟩ := RunStore.Database.mem_of_run? isRun
        have isPut :
            (db.store.putRun (expiredRun now ended)).run? runId =
              if runId = ended.id then some (expiredRun now ended)
              else db.store.run? runId :=
          run?_putRun runId ⟨ended, listed, rfl⟩
        exact (isPut.trans (if_neg notEnded)).trans found
  | created input isOther => cases isOther
  | paused actorUserId scheduleId now isOther => cases isOther
  | resumed actorUserId scheduleId now isOther => cases isOther
  | archived actorUserId scheduleId now isOther => cases isOther
  | skipped input isOther => cases isOther
  | dispatched input isOther => cases isOther
  | completed input isOther => cases isOther
  | ran transaction isOther => cases isOther
  | failed input isOther => cases isOther
  | changed surroundings isOther => cases isOther

/-- The run of the first occurrence is claimed late, but inside its window. -/
def lateClaimActions : List Action :=
  dispatchedActions ++ [.run (.claim (exampleClaim (firstMidnight + 250000)))]

/-- The start window of the first occurrence is over. -/
def windowEnd : Nat := firstMidnight + 301000

def exampleRunStatus (actions : List Action) : Option WorkflowRunStatus :=
  ((performAll exampleHasher exampleAppend exampleCalendar emptyDatabase
    actions).store.run? (js "run")).map WorkflowRun.status

theorem lateClaimActions_claimed :
    exampleRunStatus lateClaimActions = some .claimed := by
  decide +kernel

theorem lateClaimActions_timedOut :
    exampleRunStatus
        (lateClaimActions ++ [.expireStartWindow (js "occurrence") windowEnd]) =
      some .timedOut := by
  decide +kernel

theorem dispatchedActions_due :
    exampleNext (dispatchedActions.take 2) =
      some (.active, some firstMidnight) := by
  decide +kernel

end TaskTwin.Schedule
