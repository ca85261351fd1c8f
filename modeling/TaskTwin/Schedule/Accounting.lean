import TaskTwin.Schedule.Lifecycle

/-!
# The instants of a schedule

An instant of a schedule has at most one occurrence and at most one run.  An
instant that became due while its schedule was active is accounted for by an
occurrence before another instant replaces it, unless a run ends, a start
window expires or a claim fails in between.
-/

namespace TaskTwin.Schedule

open Text Audit Store RunStore

variable {Trail : Type}

/-- An instant has at most one occurrence and at most one run. -/
structure OnceEach (db : Database Trail) : Prop where
  occurrences :
    (db.occurrences.map fun occurrence =>
      (occurrence.scheduleId, occurrence.scheduledFor)).Nodup
  runs :
    (db.scheduledRuns.map fun scheduled =>
      (scheduled.scheduleId, scheduled.scheduledFor)).Nodup
  accounted :
    ∀ scheduled ∈ db.scheduledRuns,
      db.isAccounted scheduled.scheduleId scheduled.scheduledFor = true

section Law

variable
  (hasher : AuditHasher)
  (append : Trail → JsValue → Option Trail)
  (calendar : Calendar)
  (db : Database Trail)

/-- The next instant of a schedule, which became due while it was active: as an
action is taken, or before it. -/
inductive IsDueAt : List Action → Action → JsString → Nat → Prop where
  | now
      (before : List Action)
      (action : Action)
      (schedule : WorkflowSchedule)
      (scheduledFor now : Nat)
      (found :
        (performAll hasher append calendar db before).schedule? schedule.id =
          some schedule)
      (active : schedule.status = .active)
      (next : schedule.nextOccurrenceAt = some scheduledFor)
      (clock : action.now = some now)
      (due : scheduledFor ≤ now) :
      IsDueAt before action schedule.id scheduledFor
  | still
      (before : List Action)
      (earlier action : Action)
      (schedule : WorkflowSchedule)
      (scheduledFor : Nat)
      (wasDue : IsDueAt before earlier schedule.id scheduledFor)
      (found :
        (performAll hasher append calendar db (before ++ [earlier])).schedule?
            schedule.id =
          some schedule)
      (next : schedule.nextOccurrenceAt = some scheduledFor) :
      IsDueAt (before ++ [earlier]) action schedule.id scheduledFor

/-- An instant that became due stays the next one until it has an occurrence
or the schedule is resumed. -/
def NoInstantLost (actions : List Action) : Prop :=
  ∀ before action after,
    actions = before ++ action :: after →
    ∀ scheduleId scheduledFor,
      IsDueAt hasher append calendar db before action scheduleId scheduledFor →
      (∃ schedule,
          (performAll hasher append calendar db (before ++ [action])).schedule?
              scheduleId =
            some schedule ∧
          schedule.nextOccurrenceAt = some scheduledFor) ∨
        (∃ actorUserId now, action = .resume actorUserId scheduleId now) ∨
        (performAll hasher append calendar db (before ++ [action])).isAccounted
            scheduleId scheduledFor =
          true

/-- The instant of a schedule that is due has its occurrence. -/
def DueIsAccounted
    (before : List Action)
    (action : Action)
    (scheduleId : JsString) :
    Prop :=
  ∀ scheduledFor,
    IsDueAt hasher append calendar db before action scheduleId scheduledFor →
    (performAll hasher append calendar db before).isAccounted scheduleId
        scheduledFor =
      true

/-- An action that finds the next instant of a schedule anew without looking at
the one it replaces, when that one is not due or has its occurrence. -/
structure AccountsFirst (before : List Action) (action : Action) : Prop where
  completion :
    ∀ input,
      action = .handleRunCompletion input →
      ∀ occurrence,
        (performAll hasher append calendar db before).occurrence?
            input.occurrenceId =
          some occurrence →
        occurrence.status = .dispatched →
        endsAmbiguously
            ((performAll hasher append calendar db before).runStatusOf
              occurrence)
            input.terminationCause =
          false →
        DueIsAccounted hasher append calendar db before action
          occurrence.scheduleId
  expiry :
    ∀ occurrenceId now,
      action = .expireStartWindow occurrenceId now →
      ∀ occurrence,
        (performAll hasher append calendar db before).occurrence?
            occurrenceId =
          some occurrence →
        hasMissedWindow now occurrence = true →
        DueIsAccounted hasher append calendar db before action
          occurrence.scheduleId
  claim :
    ∀ input,
      action = .run (.claim input) →
      ∀ runner run,
        findUnique RunnerDevice.id input.runnerDeviceId
            (performAll hasher append calendar db before).store.runners =
          some runner →
        (performAll hasher append calendar db before).store.nextQueued input =
          some run →
        secretInventoryMatches input runner run = false →
        ∀ scheduled,
          (performAll hasher append calendar db before).scheduledRun? run.id =
            some scheduled →
          DueIsAccounted hasher append calendar db before action
            scheduled.scheduleId

end Law

variable
  {hasher : AuditHasher}
  {append : Trail → JsValue → Option Trail}
  {calendar : Calendar}
  {action : Action}
  {db db' : Database Trail}

/-- A change of occurrences that keeps their instants. -/
theorem updateOccurrence_instants
    (db : Database Trail)
    (occurrenceId : JsString)
    {change : WorkflowScheduleOccurrence → WorkflowScheduleOccurrence}
    (keeps :
      ∀ row,
        (change row).scheduleId = row.scheduleId ∧
          (change row).scheduledFor = row.scheduledFor) :
    ((db.updateOccurrence occurrenceId change).occurrences.map fun occurrence =>
        (occurrence.scheduleId, occurrence.scheduledFor)) =
      db.occurrences.map fun occurrence =>
        (occurrence.scheduleId, occurrence.scheduledFor) := by
  rw [Database.updateOccurrence, updateMany, List.map_map]
  apply List.map_congr_left
  intro row _
  rw [Function.comp_apply]
  split
  · rw [(keeps row).1, (keeps row).2]
  · rfl

/-- What every change does to the instants that are accounted for. -/
theorem Commit.instants
    (commit : Commit hasher append calendar action db db') :
    (db'.occurrences.map fun occurrence =>
          (occurrence.scheduleId, occurrence.scheduledFor)) =
        (db.occurrences.map fun occurrence =>
          (occurrence.scheduleId, occurrence.scheduledFor)) ∧
        db'.scheduledRuns = db.scheduledRuns ∨
      ∃ scheduleId scheduledFor,
        db.isAccounted scheduleId scheduledFor = false ∧
          (db'.occurrences.map fun occurrence =>
              (occurrence.scheduleId, occurrence.scheduledFor)) =
            (db.occurrences.map fun occurrence =>
                (occurrence.scheduleId, occurrence.scheduledFor)) ++
              [(scheduleId, scheduledFor)] ∧
          (db'.scheduledRuns = db.scheduledRuns ∨
            ∃ scheduled : ScheduledRun,
              scheduled.scheduleId = scheduleId ∧
                scheduled.scheduledFor = scheduledFor ∧
                db'.scheduledRuns = db.scheduledRuns ++ [scheduled]) := by
  cases commit with
  | skipped input isTick schedule scheduledFor isDue reason change isChange
      created isCreated =>
      obtain ⟨free, -, rfl⟩ := createOccurrence_eq_ok.mp isCreated
      refine Or.inr ⟨schedule.id, scheduledFor, free, ?_, Or.inl rfl⟩
      exact List.map_append
  | dispatched input isTick schedule scheduledFor isDue canDispatch version
      policy pinned committed result isDispatched =>
      have dispatched := dispatched_of_eq_ok isDispatched
      refine
        Or.inr ⟨schedule.id, scheduledFor, dispatched.free, ?_,
          Or.inr ⟨_, rfl, rfl, dispatched.scheduledRuns⟩⟩
      rw [dispatched.occurrences, List.map_append]
      rfl
  | completed input isCompletion occurrence found was schedule ofSchedule =>
      refine Or.inl ⟨?_, rfl⟩
      exact updateOccurrence_instants db occurrence.id fun row => ⟨rfl, rfl⟩
  | expired occurrenceId now isExpiry occurrence found missed store isExpired =>
      refine Or.inl ⟨?_, rfl⟩
      exact
        updateOccurrence_instants { db with store } occurrence.id fun row =>
          ⟨rfl, rfl⟩
  | failed input isClaim store isCommitted run isFailed scheduled isScheduled =>
      refine Or.inl ⟨?_, rfl⟩
      exact
        @updateOccurrence_instants Trail
          (({ db with store }).updateSchedule scheduled.scheduleId
            (secretPausedSchedule input.now scheduled.occurrenceId))
          scheduled.occurrenceId (secretSkippedOccurrence input.now)
          fun row => ⟨rfl, rfl⟩
  | _ => exact Or.inl ⟨rfl, rfl⟩

/-- An instant that is accounted for stays so. -/
theorem Commit.isAccounted
    (commit : Commit hasher append calendar action db db')
    {scheduleId : JsString}
    {scheduledFor : Nat}
    (accounted : db.isAccounted scheduleId scheduledFor = true) :
    db'.isAccounted scheduleId scheduledFor = true := by
  obtain ⟨occurrence, listed, rfl, rfl⟩ := isAccounted_iff.mp accounted
  have isInstant :
      (occurrence.scheduleId, occurrence.scheduledFor) ∈
        db'.occurrences.map fun occurrence =>
          (occurrence.scheduleId, occurrence.scheduledFor) := by
    have wasInstant :
        (occurrence.scheduleId, occurrence.scheduledFor) ∈
          db.occurrences.map fun occurrence =>
            (occurrence.scheduleId, occurrence.scheduledFor) :=
      List.mem_map.mpr ⟨occurrence, listed, rfl⟩
    rcases commit.instants with ⟨same, -⟩ | ⟨_, _, -, added, -⟩
    · rw [same]
      exact wasInstant
    · rw [added]
      exact List.mem_append_left _ wasInstant
  obtain ⟨other, listed', sameInstant⟩ := List.mem_map.mp isInstant
  obtain ⟨sameSchedule, sameTime⟩ := Prod.mk.inj sameInstant
  exact isAccounted_iff.mpr ⟨other, listed', sameSchedule, sameTime⟩

/-- Every change keeps one occurrence and one run for each instant. -/
theorem OnceEach.next
    (once : OnceEach db)
    (commit : Commit hasher append calendar action db db') :
    OnceEach db' := by
  rcases commit.instants with
    ⟨sameInstants, sameRuns⟩ | ⟨scheduleId, scheduledFor, free, added, runs⟩
  · constructor
    · rw [sameInstants]
      exact once.occurrences
    · rw [sameRuns]
      exact once.runs
    · intro scheduled listed
      rw [sameRuns] at listed
      exact commit.isAccounted (once.accounted scheduled listed)
  · have isAdded : db'.isAccounted scheduleId scheduledFor = true := by
      have isInstant :
          (scheduleId, scheduledFor) ∈
            db'.occurrences.map fun occurrence =>
              (occurrence.scheduleId, occurrence.scheduledFor) := by
        rw [added]
        exact List.mem_append_right _ (List.mem_singleton_self _)
      obtain ⟨occurrence, listed, sameInstant⟩ := List.mem_map.mp isInstant
      obtain ⟨sameSchedule, sameTime⟩ := Prod.mk.inj sameInstant
      exact isAccounted_iff.mpr ⟨occurrence, listed, sameSchedule, sameTime⟩
    constructor
    · rw [added]
      refine List.Nodup.append once.occurrences (List.nodup_singleton _) ?_
      rw [List.disjoint_singleton]
      intro listed
      obtain ⟨occurrence, isOccurrence, sameInstant⟩ := List.mem_map.mp listed
      obtain ⟨rfl, rfl⟩ := Prod.mk.inj sameInstant
      rw [isAccounted_of_mem isOccurrence] at free
      cases free
    · rcases runs with sameRuns | ⟨scheduled, rfl, rfl, addedRun⟩
      · rw [sameRuns]
        exact once.runs
      · rw [addedRun, List.map_append]
        refine List.Nodup.append once.runs (List.nodup_singleton _) ?_
        rw [List.map_singleton, List.disjoint_singleton]
        intro listed
        obtain ⟨other, isOther, sameInstant⟩ := List.mem_map.mp listed
        obtain ⟨sameSchedule, sameTime⟩ := Prod.mk.inj sameInstant
        have accounted := once.accounted other isOther
        rw [sameSchedule, sameTime, free] at accounted
        cases accounted
    · intro other listed
      rcases runs with sameRuns | ⟨scheduled, rfl, rfl, addedRun⟩
      · rw [sameRuns] at listed
        exact commit.isAccounted (once.accounted other listed)
      · rw [addedRun, List.mem_append] at listed
        rcases listed with old | isNew
        · exact commit.isAccounted (once.accounted other old)
        · obtain rfl := List.mem_singleton.mp isNew
          exact isAdded

theorem OnceEach.performAll
    (once : OnceEach db)
    (actions : List Action) :
    OnceEach (performAll hasher append calendar db actions) := by
  induction actions using List.reverseRecOn with
  | nil => exact once
  | append_singleton actions action inductionHypothesis =>
      rw [performAll_concat]
      exact
        inductionHypothesis.next
          (perform_commits hasher append calendar _ action)

theorem IsDueAt.found
    {before : List Action}
    {scheduleId : JsString}
    {scheduledFor : Nat}
    (isDue :
      IsDueAt hasher append calendar db before action scheduleId
        scheduledFor) :
    ∃ schedule,
      (performAll hasher append calendar db before).schedule? scheduleId =
          some schedule ∧
        schedule.nextOccurrenceAt = some scheduledFor := by
  cases isDue with
  | now _ _ schedule _ now found active next clock due =>
      exact ⟨schedule, found, next⟩
  | still before earlier _ schedule _ wasDue found next =>
      exact ⟨schedule, found, next⟩

/-- An action that accounts first loses no instant. -/
theorem Commit.keepsInstant
    {before : List Action}
    (distinct :
      DistinctRuns (performAll hasher append calendar db before).store)
    (accounts : AccountsFirst hasher append calendar db before action)
    (commit :
      Commit hasher append calendar action
        (performAll hasher append calendar db before) db')
    {scheduleId : JsString}
    {scheduledFor : Nat}
    (isDue :
      IsDueAt hasher append calendar db before action scheduleId
        scheduledFor) :
    (∃ schedule,
        db'.schedule? scheduleId = some schedule ∧
          schedule.nextOccurrenceAt = some scheduledFor) ∨
      (∃ actorUserId now, action = .resume actorUserId scheduleId now) ∨
      db'.isAccounted scheduleId scheduledFor = true := by
  obtain ⟨row, found, next⟩ := isDue.found
  have isRow : row.id = scheduleId := (mem_of_findUnique found).2
  have move := commit.scheduleMove scheduleId
  rw [found] at move
  obtain ⟨row', found'⟩ := move.exists
  rw [found'] at move
  have stays :
      row'.nextOccurrenceAt = some scheduledFor →
      ∃ schedule,
        db'.schedule? scheduleId = some schedule ∧
          schedule.nextOccurrenceAt = some scheduledFor :=
    fun same => ⟨row', found', same⟩
  cases move with
  | same _ => exact Or.inl (stays next)
  | paused _ was => exact Or.inl (stays next)
  | resumed _ actorUserId now isResumption managed was =>
      exact Or.inr (Or.inl ⟨actorUserId, now, isResumption⟩)
  | archived _ actorUserId now was => exact Or.inl (stays next)
  | skipped _ input instant due reason change isChange accounted =>
      right
      right
      rw [isRow] at accounted
      obtain rfl := Option.some.inj (due.next.symm.trans next)
      exact accounted
  | dispatched _ input instant due accounted =>
      right
      right
      rw [isRow] at accounted
      obtain rfl := Option.some.inj (due.next.symm.trans next)
      exact accounted
  | completed _ input isCompletion occurrence isOccurrence was ofSchedule =>
      rw [completionOutcome_pauses] at stays
      cases pauses :
          endsAmbiguously
            ((performAll hasher append calendar db before).runStatusOf
              occurrence)
            input.terminationCause with
      | true =>
          rw [pauses] at stays
          exact Or.inl (stays next)
      | false =>
          right
          right
          apply commit.isAccounted
          rw [← ofSchedule] at isDue ⊢
          exact
            accounts.completion input isCompletion occurrence isOccurrence was
              pauses scheduledFor isDue
  | expired _ occurrenceId now isExpiry occurrence isOccurrence missed
      ofSchedule =>
      right
      right
      apply commit.isAccounted
      rw [← ofSchedule] at isDue ⊢
      exact
        accounts.expiry occurrenceId now isExpiry occurrence isOccurrence missed
          scheduledFor isDue
  | failed _ input isClaim store isCommitted run isFailed scheduled isScheduled
      ofSchedule =>
      right
      right
      apply commit.isAccounted
      obtain ⟨answer, committed⟩ := map_fst_eq_ok.mp isCommitted
      obtain ⟨runner, queued, isRunner, isNext, isRun, differs⟩ :=
        claim_fails distinct committed (failsForSecrets_of_find isFailed)
      rw [← ofSchedule] at isDue ⊢
      exact
        accounts.claim input isClaim runner queued isRunner isNext differs
          scheduled (by rw [isRun]; exact isScheduled) scheduledFor isDue

/-- One second after the second midnight. -/
def afterSecondMidnight : Nat := 2 * firstMidnight + 1000

/-- The start window of the first occurrence expires when the second instant is
due. -/
def lateExpiry : Action := .expireStartWindow (js "occurrence") afterSecondMidnight

def exampleNext (actions : List Action) :
    Option (WorkflowScheduleStatus × Option Nat) :=
  ((performAll exampleHasher exampleAppend exampleCalendar emptyDatabase
    actions).schedule? (js "schedule")).map fun schedule =>
      (schedule.status, schedule.nextOccurrenceAt)

theorem dispatchedActions_next :
    exampleNext dispatchedActions = some (.active, some (2 * firstMidnight)) := by
  decide +kernel

theorem lateExpiry_next :
    exampleNext (dispatchedActions ++ [lateExpiry]) =
      some (.active, some (3 * firstMidnight)) := by
  decide +kernel

theorem lateExpiry_unaccounted :
    (performAll exampleHasher exampleAppend exampleCalendar emptyDatabase
        (dispatchedActions ++ [lateExpiry])).isAccounted (js "schedule")
        (2 * firstMidnight) =
      false := by
  decide +kernel

end TaskTwin.Schedule
