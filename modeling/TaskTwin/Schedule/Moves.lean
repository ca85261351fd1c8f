import TaskTwin.RunStore.Frames
import TaskTwin.Schedule.Steps

/-!
# What a change is for one schedule

The schedule with an identifier, before and after a transaction, and what a
transaction does to the occurrences and to the columns of scheduled runs.
-/

namespace TaskTwin.Schedule

open Text Audit Store RunStore

variable
  {Trail : Type}
  {hasher : AuditHasher}
  {append : Trail → JsValue → Option Trail}
  {calendar : Calendar}
  {action : Action}
  {db db' : Database Trail}

/-- The row that is found after the rows with an identifier were updated. -/
theorem findUnique_updateMany
    {α κ : Type}
    [DecidableEq κ]
    {key : α → κ}
    {change : α → α}
    (keeps : ∀ row, key (change row) = key row)
    (updatedKey wanted : κ)
    (rows : List α) :
    findUnique key wanted
        (updateMany (fun row => key row = updatedKey) change rows) =
      (findUnique key wanted rows).map fun row =>
        if key row = updatedKey then change row else row := by
  rw [updateMany]
  simp only [decide_eq_true_eq]
  refine findUnique_map (fun row => ?_) wanted rows
  split
  · exact keeps row
  · rfl

/-- The schedule that is found after schedules were updated. -/
theorem schedule?_updateSchedule
    (db : Database Trail)
    (updatedId : JsString)
    {change : WorkflowSchedule → WorkflowSchedule}
    (keeps : ∀ row, (change row).id = row.id)
    (scheduleId : JsString) :
    (db.updateSchedule updatedId change).schedule? scheduleId =
      (db.schedule? scheduleId).map fun row =>
        if row.id = updatedId then change row else row :=
  findUnique_updateMany keeps updatedId scheduleId db.schedules

/-- The occurrence that is found after another one was updated. -/
theorem occurrence?_not_updated
    {updatedId occurrenceId : JsString}
    {change : WorkflowScheduleOccurrence → WorkflowScheduleOccurrence}
    (keeps : ∀ row, (change row).id = row.id)
    (isOther : occurrenceId ≠ updatedId) :
    (db.updateOccurrence updatedId change).occurrence? occurrenceId =
      db.occurrence? occurrenceId := by
  rw [Database.occurrence?, Database.updateOccurrence,
    findUnique_updateMany keeps]
  cases found : findUnique WorkflowScheduleOccurrence.id occurrenceId
      db.occurrences with
  | none => rw [Database.occurrence?, found, Option.map_none]
  | some row =>
      have isRow : row.id = occurrenceId := (mem_of_findUnique found).2
      rw [Database.occurrence?, found, Option.map_some,
        if_neg (by rw [isRow]; exact isOther)]

/-- An occurrence is still found after another one was created. -/
theorem occurrence?_created
    {occurrence created : WorkflowScheduleOccurrence}
    {occurrenceId : JsString}
    (found : db.occurrence? occurrenceId = some occurrence)
    (occurrences : db'.occurrences = db.occurrences ++ [created]) :
    db'.occurrence? occurrenceId = some occurrence := by
  rw [Database.occurrence?, findUnique] at found ⊢
  rw [occurrences, List.find?_append, found, Option.some_or]

/-- A schedule that is updated is found changed, and another one as it was. -/
theorem schedule?_updated
    {updatedId : JsString}
    {change : WorkflowSchedule → WorkflowSchedule}
    (keeps : ∀ row, (change row).id = row.id)
    {row : WorkflowSchedule}
    (found : db.schedule? updatedId = some row) :
    (db.updateSchedule updatedId change).schedule? updatedId =
      some (change row) := by
  rw [schedule?_updateSchedule db updatedId keeps, found, Option.map_some,
    if_pos (mem_of_findUnique found).2]

theorem schedule?_not_updated
    {updatedId scheduleId : JsString}
    {change : WorkflowSchedule → WorkflowSchedule}
    (keeps : ∀ row, (change row).id = row.id)
    (isOther : scheduleId ≠ updatedId) :
    (db.updateSchedule updatedId change).schedule? scheduleId =
      db.schedule? scheduleId := by
  rw [schedule?_updateSchedule db updatedId keeps]
  cases found : db.schedule? scheduleId with
  | none => rfl
  | some row =>
      have isRow : row.id = scheduleId := (mem_of_findUnique found).2
      rw [Option.map_some, if_neg (by rw [isRow]; exact isOther)]

theorem createOccurrence_eq_ok
    {occurrence : WorkflowScheduleOccurrence} :
    db.createOccurrence occurrence = .ok db' ↔
      db.isAccounted occurrence.scheduleId occurrence.scheduledFor = false ∧
        ((db.occurrences ++ [occurrence]).map
          WorkflowScheduleOccurrence.id).Nodup ∧
        db' = { db with occurrences := db.occurrences ++ [occurrence] } := by
  simp only [Database.createOccurrence, bind_eq_ok, refuseIf_eq_ok,
    orThrow_eq_ok, pure_eq_ok, createMany_eq_some_iff, Bool.not_eq_true]
  constructor
  · rintro ⟨_, free, occurrences, ⟨distinct, rfl⟩, rfl⟩
    exact ⟨free, distinct, rfl⟩
  · rintro ⟨free, distinct, rfl⟩
    exact ⟨(), free, _, ⟨distinct, rfl⟩, rfl⟩

/-- What a dispatch writes. -/
structure Dispatched
    (calendar : Calendar)
    (db db' : Database Trail)
    (input : ProcessOccurrence)
    (schedule : WorkflowSchedule)
    (scheduledFor : Nat)
    (run : WorkflowRun) :
    Prop where
  free : db.isAccounted schedule.id scheduledFor = false
  occurrences :
    db'.occurrences =
      db.occurrences ++
        [{ input.occurrence schedule scheduledFor .dispatched with
           workflowRunId := some input.newRunId
           dispatchedAt := some input.now }]
  occurrenceIds : (db'.occurrences.map WorkflowScheduleOccurrence.id).Nodup
  runs : db'.store.runs = db.store.runs ++ [run]
  runIds : DistinctRuns db'.store
  scheduledRuns :
    db'.scheduledRuns =
      db.scheduledRuns ++ [input.scheduledRun schedule scheduledFor]
  scheduledRunIds : (db'.scheduledRuns.map ScheduledRun.runId).Nodup
  schedules :
    db'.schedules =
      (db.updateSchedule schedule.id
        (dispatchedSchedule calendar input scheduledFor)).schedules

theorem dispatched_of_eq_ok
    {input : ProcessOccurrence}
    {schedule : WorkflowSchedule}
    {scheduledFor : Nat}
    {run : WorkflowRun}
    {result : OccurrenceDispatchResult}
    (isDispatched :
      dispatchOccurrence calendar input schedule scheduledFor run db =
        .ok (db', result)) :
    Dispatched calendar db db' input schedule scheduledFor run := by
  simp only [dispatchOccurrence, bind_eq_ok, orThrow_eq_ok,
    createOccurrence_eq_ok] at isDispatched
  obtain ⟨created, ⟨free, occurrenceIds, rfl⟩, runs, isRun, scheduledRuns,
    isScheduled, committed⟩ := isDispatched
  obtain ⟨rfl, -⟩ := Prod.mk.inj (Except.ok.inj committed)
  obtain ⟨runIds, rfl⟩ := createMany_eq_some_iff.mp isRun
  obtain ⟨scheduledRunIds, rfl⟩ := createMany_eq_some_iff.mp isScheduled
  exact
    { free
      occurrences := rfl
      occurrenceIds
      runs := rfl
      runIds
      scheduledRuns := rfl
      scheduledRunIds
      schedules := rfl }

@[simp] theorem pausedSchedule_id (row : WorkflowSchedule) :
    (pausedSchedule row).id = row.id :=
  rfl

@[simp] theorem resumedSchedule_id (now : Nat) (row : WorkflowSchedule) :
    (resumedSchedule calendar now row).id = row.id :=
  rfl

@[simp] theorem archivedSchedule_id
    (actorUserId : JsString)
    (now : Nat)
    (row : WorkflowSchedule) :
    (archivedSchedule actorUserId now row).id = row.id :=
  rfl

@[simp] theorem advancedSchedule_id (now : Nat) (row : WorkflowSchedule) :
    (advancedSchedule calendar now row).id = row.id :=
  rfl

@[simp] theorem secretPausedSchedule_id
    (now : Nat)
    (occurrenceId : JsString)
    (row : WorkflowSchedule) :
    (secretPausedSchedule now occurrenceId row).id = row.id :=
  rfl

@[simp] theorem dispatchedSchedule_id
    (input : ProcessOccurrence)
    (scheduledFor : Nat)
    (row : WorkflowSchedule) :
    (dispatchedSchedule calendar input scheduledFor row).id = row.id := by
  unfold dispatchedSchedule
  dsimp only
  split <;> rfl

@[simp] theorem completedSchedule_id
    (input : RunCompletion)
    (occurrence : WorkflowScheduleOccurrence)
    (autoPause : Bool)
    (row : WorkflowSchedule) :
    (completedSchedule calendar input occurrence autoPause row).id =
      row.id := by
  unfold completedSchedule
  split <;> rfl

theorem SkipChange.id
    {input : ProcessOccurrence}
    {scheduledFor : Nat}
    {reason : ScheduleSkipReason}
    {change : WorkflowSchedule → WorkflowSchedule}
    (isChange : SkipChange calendar input scheduledFor reason change)
    (row : WorkflowSchedule) :
    (change row).id = row.id := by
  cases isChange with
  | maintained definition =>
      unfold maintainedSchedule
      split <;> rfl
  | blocked skipReason autoPauseReason => rfl
  | denied => rfl

/-- What a transaction is for the schedule with an identifier. -/
inductive ScheduleMove
    (hasher : AuditHasher)
    (append : Trail → JsValue → Option Trail)
    (calendar : Calendar)
    (action : Action)
    (db db' : Database Trail)
    (scheduleId : JsString) :
    Option WorkflowSchedule → Option WorkflowSchedule → Prop where
  | same (row : Option WorkflowSchedule) :
      ScheduleMove hasher append calendar action db db' scheduleId row row
  | created
      (input : CreateSchedule)
      (isCreation : action = .create input)
      (version : WorkflowVersion) :
      ScheduleMove hasher append calendar action db db' scheduleId none
        (some (input.row calendar version))
  | paused
      (row : WorkflowSchedule)
      (was : row.status = .active ∨ row.status = .paused) :
      ScheduleMove hasher append calendar action db db' scheduleId (some row)
        (some (pausedSchedule row))
  | resumed
      (row : WorkflowSchedule)
      (actorUserId : JsString)
      (now : Nat)
      (isResumption : action = .resume actorUserId scheduleId now)
      (managed : db.managedSchedule actorUserId scheduleId = .ok row)
      (was : row.status = .paused ∨ row.status = .autoPaused) :
      ScheduleMove hasher append calendar action db db' scheduleId (some row)
        (some (resumedSchedule calendar now row))
  | archived
      (row : WorkflowSchedule)
      (actorUserId : JsString)
      (now : Nat)
      (was : row.status ≠ .archived) :
      ScheduleMove hasher append calendar action db db' scheduleId (some row)
        (some (archivedSchedule actorUserId now row))
  | skipped
      (row : WorkflowSchedule)
      (input : ProcessOccurrence)
      (scheduledFor : Nat)
      (isDue : IsDue db input row scheduledFor)
      (reason : ScheduleSkipReason)
      (change : WorkflowSchedule → WorkflowSchedule)
      (isChange : SkipChange calendar input scheduledFor reason change)
      (accounted : db'.isAccounted row.id scheduledFor = true) :
      ScheduleMove hasher append calendar action db db' scheduleId (some row)
        (some (change row))
  | dispatched
      (row : WorkflowSchedule)
      (input : ProcessOccurrence)
      (scheduledFor : Nat)
      (isDue : IsDue db input row scheduledFor)
      (accounted : db'.isAccounted row.id scheduledFor = true) :
      ScheduleMove hasher append calendar action db db' scheduleId (some row)
        (some (dispatchedSchedule calendar input scheduledFor row))
  | completed
      (row : WorkflowSchedule)
      (input : RunCompletion)
      (isCompletion : action = .handleRunCompletion input)
      (occurrence : WorkflowScheduleOccurrence)
      (found : db.occurrence? input.occurrenceId = some occurrence)
      (was : occurrence.status = .dispatched)
      (ofSchedule : occurrence.scheduleId = scheduleId) :
      ScheduleMove hasher append calendar action db db' scheduleId (some row)
        (some
          (completedSchedule calendar input occurrence
            (completionOutcome (db.runStatusOf occurrence)
              input.terminationCause).2
            row))
  | expired
      (row : WorkflowSchedule)
      (occurrenceId : JsString)
      (now : Nat)
      (isExpiry : action = .expireStartWindow occurrenceId now)
      (occurrence : WorkflowScheduleOccurrence)
      (found : db.occurrence? occurrenceId = some occurrence)
      (missed : hasMissedWindow now occurrence = true)
      (ofSchedule : occurrence.scheduleId = scheduleId) :
      ScheduleMove hasher append calendar action db db' scheduleId (some row)
        (some (advancedSchedule calendar now row))
  | failed
      (row : WorkflowSchedule)
      (input : ClaimRun)
      (isClaim : action = .run (.claim input))
      (store : RunStore.Database Trail)
      (isCommitted :
        (Transaction.claim input).commit hasher append db.store = .ok store)
      (run : WorkflowRun)
      (isFailed : failedForSecrets db.store store = some run)
      (scheduled : ScheduledRun)
      (isScheduled : db.scheduledRun? run.id = some scheduled)
      (ofSchedule : scheduled.scheduleId = scheduleId) :
      ScheduleMove hasher append calendar action db db' scheduleId (some row)
        (some (secretPausedSchedule input.now scheduled.occurrenceId row))

/-- The move of a schedule that an update may reach. -/
theorem scheduleMove_of_update
    {base : Database Trail}
    {updatedId scheduleId : JsString}
    {change : WorkflowSchedule → WorkflowSchedule}
    (keeps : ∀ row, (change row).id = row.id)
    (sameSchedules : base.schedules = db.schedules)
    (after : db'.schedules = (base.updateSchedule updatedId change).schedules)
    (moves :
      ∀ row,
        updatedId = scheduleId →
        db.schedule? scheduleId = some row →
        ScheduleMove hasher append calendar action db db' scheduleId (some row)
          (some (change row))) :
    ScheduleMove hasher append calendar action db db' scheduleId
      (db.schedule? scheduleId) (db'.schedule? scheduleId) := by
  have isBase : base.schedule? scheduleId = db.schedule? scheduleId := by
    rw [Database.schedule?, sameSchedules, Database.schedule?]
  have isAfter :
      db'.schedule? scheduleId =
        (base.updateSchedule updatedId change).schedule? scheduleId := by
    rw [Database.schedule?, after, Database.schedule?]
  rw [isAfter]
  by_cases isUpdated : scheduleId = updatedId
  · subst isUpdated
    cases found : db.schedule? scheduleId with
    | none =>
        rw [schedule?_updateSchedule base scheduleId keeps, isBase, found]
        exact .same none
    | some row =>
        rw [schedule?_updated keeps (isBase.trans found)]
        exact moves row rfl found
  · rw [schedule?_not_updated keeps isUpdated, isBase]
    exact .same _

theorem isAccounted_of_mem
    {occurrence : WorkflowScheduleOccurrence}
    (listed : occurrence ∈ db.occurrences) :
    db.isAccounted occurrence.scheduleId occurrence.scheduledFor = true := by
  rw [Database.isAccounted, List.any_eq_true]
  exact ⟨occurrence, listed, by simp⟩

theorem isAccounted_iff
    {scheduleId : JsString}
    {scheduledFor : Nat} :
    db.isAccounted scheduleId scheduledFor = true ↔
      ∃ occurrence ∈ db.occurrences,
        occurrence.scheduleId = scheduleId ∧
          occurrence.scheduledFor = scheduledFor := by
  simp [Database.isAccounted]

/-- Every change is such a move for every schedule. -/
theorem Commit.scheduleMove
    (commit : Commit hasher append calendar action db db')
    (scheduleId : JsString) :
    ScheduleMove hasher append calendar action db db' scheduleId
      (db.schedule? scheduleId) (db'.schedule? scheduleId) := by
  cases commit with
  | unchanged => exact .same _
  | created input isCreation version free =>
      have isAppended :
          ({ db with
              schedules := db.schedules ++ [input.row calendar version] } :
              Database Trail).schedule? scheduleId =
            (db.schedule? scheduleId).or
              (if input.newScheduleId = scheduleId then
                some (input.row calendar version)
              else none) := by
        simp only [Database.schedule?, findUnique, List.find?_append,
          List.find?_cons, List.find?_nil, CreateSchedule.row]
        split <;> simp_all
      rw [isAppended]
      cases found : db.schedule? scheduleId with
      | some row => exact .same (some row)
      | none =>
          rw [Option.none_or]
          split
          · exact .created input isCreation version
          · exact .same none
  | paused actorUserId updatedId now isPause schedule found was =>
      refine scheduleMove_of_update pausedSchedule_id rfl rfl ?_
      rintro row rfl isRow
      obtain rfl := Option.some.inj (found.symm.trans isRow)
      exact .paused schedule was
  | resumed actorUserId updatedId now isResumption schedule managed found was =>
      refine scheduleMove_of_update (resumedSchedule_id now) rfl rfl ?_
      rintro row rfl isRow
      obtain rfl := Option.some.inj (found.symm.trans isRow)
      exact .resumed schedule actorUserId now isResumption managed was
  | archived actorUserId updatedId now isArchiving schedule found was =>
      refine
        scheduleMove_of_update (archivedSchedule_id actorUserId now) rfl rfl ?_
      rintro row rfl isRow
      obtain rfl := Option.some.inj (found.symm.trans isRow)
      exact .archived schedule actorUserId now was
  | skipped input isTick schedule scheduledFor isDue reason change isChange
      created isCreated =>
      obtain ⟨-, -, rfl⟩ := createOccurrence_eq_ok.mp isCreated
      refine scheduleMove_of_update isChange.id rfl rfl ?_
      rintro row rfl isRow
      obtain rfl := Option.some.inj (isDue.found.symm.trans isRow)
      refine .skipped schedule input scheduledFor isDue reason change isChange ?_
      exact isAccounted_iff.mpr
        ⟨_, List.mem_append_right _ (List.mem_singleton_self _), rfl, rfl⟩
  | dispatched input isTick schedule scheduledFor isDue canDispatch version
      policy pinned committed result isDispatched =>
      have dispatched := dispatched_of_eq_ok isDispatched
      refine
        scheduleMove_of_update (dispatchedSchedule_id input scheduledFor) rfl
          dispatched.schedules ?_
      rintro row rfl isRow
      obtain rfl := Option.some.inj (isDue.found.symm.trans isRow)
      refine .dispatched schedule input scheduledFor isDue ?_
      rw [isAccounted_iff, dispatched.occurrences]
      exact ⟨_, List.mem_append_right _ (List.mem_singleton_self _), rfl, rfl⟩
  | completed input isCompletion occurrence found was schedule ofSchedule =>
      refine
        scheduleMove_of_update
          (completedSchedule_id input occurrence _) rfl rfl ?_
      intro row isUpdated isRow
      exact .completed row input isCompletion occurrence found was isUpdated
  | expired occurrenceId now isExpiry occurrence found missed store isExpired =>
      refine scheduleMove_of_update (advancedSchedule_id now) rfl rfl ?_
      intro row isUpdated isRow
      exact .expired row occurrenceId now isExpiry occurrence found missed
        isUpdated
  | ran transaction isRun store isCommitted => exact .same _
  | failed input isClaim store isCommitted run isFailed scheduled isScheduled =>
      refine
        scheduleMove_of_update
          (secretPausedSchedule_id input.now scheduled.occurrenceId) rfl rfl ?_
      intro row isUpdated isRow
      exact .failed row input isClaim store isCommitted run isFailed scheduled
        isScheduled isUpdated
  | changed surroundings isChange => exact .same _

end TaskTwin.Schedule
