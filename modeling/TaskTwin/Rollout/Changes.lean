import Mathlib.Data.List.Perm.Subperm
import TaskTwin.Rollout.Database

/-!
# What operations change

Each operation that answers either leaves all rows as they are or has met its
guards and changes the rows in one way.  What follows about operations follows
from these descriptions.
-/

namespace TaskTwin.Rollout

open Text Store

variable {Trail : Type} {append : Trail → JsValue → Option Trail}

theorem orThrow_eq_ok
    {α : Type}
    {failure : RolloutFailure}
    {value : Option α}
    {result : α} :
    orThrow failure value = .ok result ↔ value = some result := by
  cases value <;> simp [orThrow]

theorem refuseIf_eq_ok
    {condition : Prop}
    [Decidable condition]
    {failure : RolloutFailure}
    {result : Unit} :
    refuseIf condition failure = .ok result ↔ ¬condition := by
  rw [refuseIf]
  split
  case isTrue isRefused => simp [isRefused]
  case isFalse notRefused => simp [notRefused]

theorem rethrow_eq_ok
    {α : Type}
    {value : Except RunnerRolloutErrorCode α}
    {result : α} :
    rethrow value = .ok result ↔ value = .ok result := by
  cases value <;> simp [rethrow]

theorem pure_eq_ok
    {α : Type}
    {value result : α} :
    (pure value : Except RolloutFailure α) = .ok result ↔ value = result := by
  simp [pure, Except.pure]

theorem bind_eq_ok
    {α β : Type}
    {first : Except RolloutFailure α}
    {next : α → Except RolloutFailure β}
    {result : β} :
    (first >>= next) = .ok result ↔
      ∃ value, first = .ok value ∧ next value = .ok result := by
  cases first with
  | error failure => simp [bind, Except.bind]
  | ok value => simp [bind, Except.bind]

/-- Rows that are as they were. -/
structure SameRows (db db' : Database Trail) : Prop where
  releases : db'.releases = db.releases
  runners : db'.runners = db.runners
  rollouts : db'.rollouts = db.rollouts
  stages : db'.stages = db.stages
  assignments : db'.assignments = db.assignments

theorem SameRows.refl (db : Database Trail) : SameRows db db :=
  ⟨rfl, rfl, rfl, rfl, rfl⟩

theorem SameRows.trans
    {first second third : Database Trail}
    (same : SameRows first second)
    (same' : SameRows second third) :
    SameRows first third :=
  ⟨same'.releases.trans same.releases, same'.runners.trans same.runners,
    same'.rollouts.trans same.rollouts, same'.stages.trans same.stages,
    same'.assignments.trans same.assignments⟩

/-- Auditing changes no row; the trail has accepted the event. -/
theorem audited_ok
    {event : JsValue}
    {db db' : Database Trail}
    (answered : audited append event db = .ok db') :
    SameRows db db' ∧ ∃ trail, append db.trail event = some trail := by
  rw [audited] at answered
  cases appended : append db.trail event with
  | none => simp [appended, orThrow, Except.map] at answered
  | some trail =>
      simp only [appended, orThrow, Except.map, Except.ok.injEq] at answered
      subst answered
      exact ⟨⟨rfl, rfl, rfl, rfl, rfl⟩, trail, rfl⟩

theorem auditedAll_ok
    {events : List JsValue}
    {db db' : Database Trail}
    (answered : auditedAll append events db = .ok db') :
    SameRows db db' := by
  induction events generalizing db with
  | nil =>
      simp only [auditedAll, List.foldlM_nil, pure, Except.pure,
        Except.ok.injEq] at answered
      exact answered ▸ SameRows.refl db
  | cons event events inductionHypothesis =>
      rw [auditedAll, List.foldlM_cons, bind_eq_ok] at answered
      obtain ⟨next, isNext, answered⟩ := answered
      exact (audited_ok isNext).1.trans (inductionHypothesis answered)

/-- A rollout was created by a valid plan, under keys that were free. -/
structure Created
    (input : CreateRollout)
    (db db' : Database Trail) :
    Prop where
  numbers :
    input.plan.stages.map RolloutStageDefinition.stageNumber =
      List.range' 1 input.plan.stages.length
  distinct :
    (input.plan.stages.flatMap
      RolloutStageDefinition.runnerDeviceIds).Nodup
  release :
    ∃ release ∈ db.releases, release.id = input.plan.targetReleaseId
  runners :
    ∀ runnerId ∈
        input.plan.stages.flatMap RolloutStageDefinition.runnerDeviceIds,
      ∃ runner ∈ db.runners, runner.id = runnerId
  freeRollout :
    ((db.rollouts ++ [input.rollout]).map RunnerReleaseRollout.id).Nodup
  freeStages :
    ((db.stages ++ input.stages).map RunnerReleaseRolloutStage.id).Nodup
  freeAssignments :
    ((db.assignments ++ input.assignments).map
      RunnerReleaseRolloutAssignment.id).Nodup
  rows :
    SameRows
      { db with
        rollouts := db.rollouts ++ [input.rollout]
        stages := db.stages ++ input.stages
        assignments := db.assignments ++ input.assignments }
      db'

/-- As many runners as identifiers: every identifier is one of a runner. -/
theorem runners_of_count
    {runners : List RunnerDevice}
    (distinctRunners : (runners.map RunnerDevice.id).Nodup)
    {ids : List JsString}
    (sameCount :
      (runners.filter fun runner => runner.id ∈ ids).length = ids.length) :
    ∀ id ∈ ids, ∃ runner ∈ runners, runner.id = id := by
  have found :
      ((runners.filter fun runner => runner.id ∈ ids).map
        RunnerDevice.id).Nodup :=
    distinctRunners.sublist (List.filter_sublist.map _)
  have included :
      (runners.filter fun runner => runner.id ∈ ids).map RunnerDevice.id ⊆
        ids := by
    intro id listed
    obtain ⟨runner, isRunner, rfl⟩ := List.mem_map.mp listed
    simpa using (List.mem_filter.mp isRunner).2
  have isPerm :
      ((runners.filter fun runner => runner.id ∈ ids).map
        RunnerDevice.id).Perm ids := by
    apply (List.subperm_of_subset found included).perm_of_length_le
    rw [List.length_map, sameCount]
  intro id listed
  obtain ⟨runner, isRunner, isId⟩ :=
    List.mem_map.mp (isPerm.mem_iff.mpr listed)
  exact ⟨runner, (List.mem_filter.mp isRunner).1, isId⟩

theorem create_ok
    {input : CreateRollout}
    {db db' : Database Trail}
    (distinctRunners : (db.runners.map RunnerDevice.id).Nodup)
    (answered : create append input db = .ok db') :
    db' = db ∨ Created input db db' := by
  simp only [create, bind_eq_ok, rethrow_eq_ok] at answered
  obtain ⟨plan, isPlan, -, -, answered⟩ := answered
  obtain ⟨rfl, numbers, distinct⟩ := validateRolloutPlan_spec isPlan
  split at answered
  case h_1 existing found =>
    simp only [bind_eq_ok, pure_eq_ok] at answered
    obtain ⟨-, -, same⟩ := answered
    exact Or.inl same.symm
  case h_2 =>
    simp only [bind_eq_ok, refuseIf_eq_ok, orThrow_eq_ok,
      createMany_eq_some_iff, not_not] at answered
    obtain ⟨-, isRelease, -, knownRunners, _, ⟨freeRollout, rfl⟩, _,
      ⟨freeStages, rfl⟩, _, ⟨freeAssignments, rfl⟩, answered⟩ := answered
    rw [not_or, not_not] at knownRunners
    obtain ⟨release, found, -⟩ := Option.map_eq_some_iff.mp isRelease
    exact Or.inr
      { numbers
        distinct
        release := ⟨release, mem_of_findUnique found⟩
        runners := runners_of_count distinctRunners knownRunners.1
        freeRollout
        freeStages
        freeAssignments
        rows := (audited_ok answered).1 }

/-- A stage may be activated when its rollout is active and the stage before
it is completed. -/
theorem assertStageMayActivate_eq_ok
    {rolloutStatus : RunnerRolloutStatus}
    {targetStatus : RunnerReleaseCatalogStatus}
    {stageNumber : Nat}
    {previous : Option RunnerRolloutStageStatus}
    (allowed :
      assertStageMayActivate rolloutStatus targetStatus stageNumber previous =
        .ok ()) :
    rolloutStatus = .active ∧
      (1 < stageNumber → previous = some .completed) := by
  rw [assertStageMayActivate] at allowed
  by_cases isActive : rolloutStatus = .active
  · refine ⟨isActive, ?_⟩
    intro later
    by_contra notCompleted
    cases targetStatus <;>
      simp [isActive, later, notCompleted, assertReleaseCanTargetRollout, bind,
        Except.bind, throw, throwThe, MonadExceptOf.throw] at allowed
  · simp [isActive, bind, Except.bind, throw, throwThe,
      MonadExceptOf.throw] at allowed

theorem forM_eq_ok
    {α : Type}
    {check : α → Except RolloutFailure Unit}
    {values : List α}
    (passed : values.forM check = .ok ()) :
    ∀ value ∈ values, check value = .ok () := by
  induction values with
  | nil => simp
  | cons value values inductionHypothesis =>
      rw [List.forM, bind_eq_ok] at passed
      obtain ⟨⟨⟩, isValue, rest⟩ := passed
      exact List.forall_mem_cons.mpr ⟨isValue, inductionHypothesis rest⟩

/-- A stage was activated. -/
structure StageActivated
    (rollout : RunnerReleaseRollout)
    (stage : RunnerReleaseRolloutStage)
    (db db' : Database Trail) :
    Prop where
  isRollout : rollout ∈ db.rollouts
  isStage : stage ∈ db.stages
  ofRollout : stage.rolloutId = rollout.id
  active : rollout.status = .active
  notActive : stage.status ≠ .active
  notCompleted : stage.status ≠ .completed
  previous :
    1 < stage.stageNumber →
      ∃ previous ∈ db.stages,
        previous.rolloutId = rollout.id ∧
          previous.stageNumber + 1 = stage.stageNumber ∧
          previous.status = .completed
  free :
    ∀ assigned ∈ assignedRunners db stage.id,
      assigned.runner.desiredRolloutAssignmentId = none ∨
        assigned.runner.desiredRolloutAssignmentId =
          some assigned.assignment.id
  rows :
    SameRows
      { db with
        runners :=
          assignRunners rollout (assignedRunners db stage.id) db.runners
        assignments :=
          assignTargets (assignedRunners db stage.id) db.assignments
        stages :=
          updateMany (fun row => row.id = stage.id)
            (fun row => { row with status := .active }) db.stages }
      db'

theorem activateStage_ok
    {input : ActivateStage}
    {db db' : Database Trail}
    (answered : activateStage append input db = .ok db') :
    db' = db ∨ ∃ rollout stage, StageActivated rollout stage db db' := by
  simp only [activateStage, bind_eq_ok, orThrow_eq_ok] at answered
  obtain ⟨rollout, isRollout, release, isRelease, -, -, stage, isStage,
    answered⟩ := answered
  split at answered
  case isTrue => exact Or.inl (pure_eq_ok.mp answered).symm
  case isFalse notYet =>
    rw [not_or] at notYet
    simp only [bind_eq_ok, rethrow_eq_ok] at answered
    obtain ⟨⟨⟩, mayActivate, ⟨⟩, assignable, answered⟩ := answered
    obtain ⟨isActive, isPrevious⟩ := assertStageMayActivate_eq_ok mayActivate
    have ofRollout := List.mem_filter.mp (List.mem_of_find?_eq_some isStage)
    have isNumber : stage.stageNumber = input.stageNumber := by
      simpa using List.find?_some isStage
    refine Or.inr ⟨rollout, stage, ?_⟩
    constructor
    case isRollout => exact (mem_of_findUnique isRollout).1
    case isStage => exact ofRollout.1
    case ofRollout => simpa using ofRollout.2
    case active => exact isActive
    case notActive => exact notYet.1
    case notCompleted => exact notYet.2
    case previous =>
      intro later
      obtain ⟨previous, found, isCompleted⟩ :=
        Option.map_eq_some_iff.mp (isPrevious later)
      have ofSame := List.mem_filter.mp (List.mem_of_find?_eq_some found)
      have isBefore : previous.stageNumber + 1 = input.stageNumber := by
        simpa using List.find?_some found
      exact ⟨previous, ofSame.1, by simpa using ofSame.2,
        isBefore.trans isNumber.symm, isCompleted⟩
    case free =>
      intro assigned listed
      have passed := forM_eq_ok assignable assigned listed
      simp only [requireAssignable, bind_eq_ok, refuseIf_eq_ok] at passed
      obtain ⟨-, -, -, -, -, -, -, -, notOther⟩ := passed
      rw [not_and_or, not_not, not_not] at notOther
      exact notOther
    case rows => exact (audited_ok answered).1

/-- The status of a rollout was changed by hand. -/
structure RolloutChanged
    (append : Trail → JsValue → Option Trail)
    (action : RolloutAction)
    (rollout : RunnerReleaseRollout)
    (db db' : Database Trail) :
    Prop where
  isRollout : rollout ∈ db.rollouts
  notYet : rollout.status ≠ action.next
  permitted :
    permitsTransition rolloutTransitions rollout.status action.next = true
  unreviewed : action = .activate → rollout.reviewReason = none
  rows :
    SameRows
      { (if action = .cancel then cancelRows rollout db else db) with
        rollouts :=
          updateMany (fun row => row.id = rollout.id)
            (fun row => { row with status := action.next }) db.rollouts }
      db'
  audited :
    ∃ input : ChangeRolloutState,
      input.action = action ∧ ∃ trail trail',
        append trail (input.event rollout) = some trail'

theorem changeRolloutState_ok
    {input : ChangeRolloutState}
    {db db' : Database Trail}
    (answered : changeRolloutState append input db = .ok db') :
    db' = db ∨
      ∃ rollout, RolloutChanged append input.action rollout db db' := by
  simp only [changeRolloutState, bind_eq_ok, orThrow_eq_ok] at answered
  obtain ⟨rollout, isRollout, release, isRelease, -, -, answered⟩ := answered
  split at answered
  case isTrue => exact Or.inl (pure_eq_ok.mp answered).symm
  case isFalse notYet =>
    simp only [bind_eq_ok, refuseIf_eq_ok] at answered
    obtain ⟨-, activatable, -, permitted, answered⟩ := answered
    obtain ⟨rows, trail, appended⟩ := audited_ok answered
    refine Or.inr ⟨rollout, ?_⟩
    constructor
    case isRollout => exact (mem_of_findUnique isRollout).1
    case notYet => exact notYet
    case permitted => simpa using permitted
    case unreviewed =>
      intro isActivate
      by_contra reviewed
      exact activatable ⟨isActivate, Or.inr reviewed⟩
    case rows =>
      refine SameRows.trans ?_ rows
      split <;> exact ⟨rfl, rfl, rfl, rfl, rfl⟩
    case audited => exact ⟨input, rfl, _, _, appended⟩

theorem SameRows.completeRows
    {db db' : Database Trail}
    (same : SameRows db db')
    (observed : ObservedAssignment) :
    SameRows (completeRows observed db) (completeRows observed db') := by
  simp only [Rollout.completeRows, same.stages, same.assignments,
    same.rollouts, same.runners]
  split
  · split
    · exact ⟨same.releases, rfl, rfl, rfl, rfl⟩
    · exact ⟨same.releases, rfl, rfl, rfl, rfl⟩
  · exact same

/-- What a heartbeat makes of the desired assignment of its runner. -/
inductive Observed
    (append : Trail → JsValue → Option Trail)
    (input : Heartbeat)
    (observed : ObservedAssignment)
    (db db' : Database Trail) :
    Prop where
  | unchanged
      (rows :
        SameRows
          (observeRow observed observed.assignment.status input.runnerVersion
            db)
          db')
  | converged
      (was : observed.assignment.status = .targetAssigned)
      (isTarget : input.runnerVersion = observed.release.version)
      (rows :
        SameRows
          (completeRows observed
            (observeRow observed .converged input.runnerVersion db))
          db')
      (audited :
        ∃ trail trail',
          append trail
              (observed.event "runner.rollout.assignment.converged"
                "runner-rollout-converged:" input.runnerDeviceId
                input.databaseNow) =
            some trail')
  | rolledBack
      (was : observed.assignment.status = .converged)
      (notTarget : input.runnerVersion ≠ observed.release.version)
      (isBaseline :
        observed.assignment.baselineVersion = some input.runnerVersion)
      (rows :
        SameRows
          (reviewRows observed .assignmentRolledBack
            (observeRow observed .rolledBack input.runnerVersion db))
          db')
  | failed
      (was : observed.assignment.status = .converged)
      (notTarget : input.runnerVersion ≠ observed.release.version)
      (notBaseline :
        observed.assignment.baselineVersion ≠ some input.runnerVersion)
      (rows :
        SameRows
          (reviewRows observed .unexpectedVersionAfterConvergence
            (observeRow observed .failed input.runnerVersion db))
          db')

theorem observeRolloutAssignment_ok
    {input : Heartbeat}
    {observed : ObservedAssignment}
    {db db' : Database Trail}
    (answered :
      observeRolloutAssignment append observed input.runnerDeviceId
          input.runnerVersion input.databaseNow db =
        .ok db') :
    Observed append input observed db db' := by
  rw [observeRolloutAssignment] at answered
  cases was : observed.assignment.status with
  | targetAssigned =>
      simp only [was, observeAssignmentVersion] at answered
      by_cases isTarget : input.runnerVersion = observed.release.version
      · simp only [isTarget, if_true, reduceCtorEq, if_false, bind_eq_ok,
          pure_eq_ok] at answered
        obtain ⟨between, isAudited, rfl⟩ := answered
        obtain ⟨rows, trail, appended⟩ := audited_ok isAudited
        refine .converged was isTarget ?_ ⟨_, _, appended⟩
        rw [isTarget]
        exact rows.completeRows observed
      · simp only [isTarget, if_false, if_true, Except.ok.injEq] at answered
        exact .unchanged (by rw [was, answered]; exact SameRows.refl _)
  | converged =>
      simp only [was, observeAssignmentVersion] at answered
      by_cases isTarget : input.runnerVersion = observed.release.version
      · simp only [isTarget, if_true, Except.ok.injEq] at answered
        refine .unchanged ?_
        rw [was, isTarget, answered]
        exact SameRows.refl _
      · by_cases isBaseline :
          observed.assignment.baselineVersion = some input.runnerVersion
        · simp only [isTarget, isBaseline, if_true, if_false,
            reduceCtorEq] at answered
          exact .rolledBack was isTarget isBaseline (audited_ok answered).1
        · simp only [isTarget, isBaseline, if_false, reduceCtorEq,
            Except.ok.injEq] at answered
          refine .failed was isTarget isBaseline ?_
          rw [answered]
          exact SameRows.refl _
  | pending | rolledBack | failed | cancelled =>
      simp only [was, observeAssignmentVersion, if_true,
        Except.ok.injEq] at answered
      refine .unchanged ?_
      rw [was, answered]
      exact SameRows.refl _

/-- A heartbeat was taken from a device that authenticated. -/
structure HeartbeatTaken
    (append : Trail → JsValue → Option Trail)
    (input : Heartbeat)
    (device : RunnerDevice)
    (db db' : Database Trail) :
    Prop where
  isDevice : device ∈ db.runners
  isId : device.id = input.runnerDeviceId
  authenticated : input.authenticates device = true
  consistent : input.contradicts device = false
  rows :
    (desiredAssignment db device = none ∧
        SameRows (input.reportRows db) db') ∨
      ∃ observed reported,
        desiredAssignment db device = some observed ∧
          SameRows (input.reportRows db) reported ∧
          Observed append input observed reported db'

theorem heartbeat_ok
    {input : Heartbeat}
    {db db' : Database Trail}
    (answered : heartbeat append input db = .ok db') :
    ∃ device, HeartbeatTaken append input device db db' := by
  simp only [heartbeat, bind_eq_ok, orThrow_eq_ok, refuseIf_eq_ok] at answered
  obtain ⟨device, isDevice, -, authenticated, -, consistent, reported,
    isReported, answered⟩ := answered
  obtain ⟨listed, isId⟩ := mem_of_findUnique isDevice
  have rows := auditedAll_ok isReported
  refine ⟨device, listed, isId, by simpa using authenticated,
    by simpa using consistent, ?_⟩
  split at answered
  case h_1 none =>
    rw [pure_eq_ok] at answered
    exact Or.inl ⟨none, answered ▸ rows⟩
  case h_2 observed isObserved =>
    exact Or.inr
      ⟨observed, reported, isObserved, rows,
        observeRolloutAssignment_ok answered⟩

/-- The status of a release was changed. -/
structure ReleaseChanged
    (append : Trail → JsValue → Option Trail)
    (input : ChangeReleaseStatus)
    (release : RunnerRelease)
    (db db' : Database Trail) :
    Prop where
  isRelease : release ∈ db.releases
  permitted :
    permitsReleaseStatus release.status input.nextStatus input.reason = true
  rows :
    ∃ affected : List RunnerReleaseRollout,
      (∀ rollout ∈ affected,
        rollout ∈ db.rollouts ∧ rollout.status = .active) ∧
      (affected = [] ∨
        ∃ rollout trail trail',
          append trail (blockEvent input.now rollout) = some trail') ∧
      SameRows
        { db with
          releases :=
            updateMany (fun row => row.id = release.id)
              (fun row =>
                { row with
                  status := input.nextStatus
                  statusReasonCode := some input.reason })
              db.releases
          rollouts :=
            affected.foldl (fun rollouts rollout => blockRow rollout rollouts)
              db.rollouts
          stages :=
            affected.foldl (fun stages rollout => blockStages rollout stages)
              db.stages }
        db'

theorem blockRollouts_ok
    {now : TimeValue}
    {affected : List RunnerReleaseRollout}
    {db db' : Database Trail}
    (answered :
      affected.foldlM (fun db rollout => blockRollout append now rollout db)
          db =
        .ok db') :
    (affected = [] ∨
        ∃ rollout trail trail',
          append trail (blockEvent now rollout) = some trail') ∧
      SameRows
        { db with
          rollouts :=
            affected.foldl (fun rollouts rollout => blockRow rollout rollouts)
              db.rollouts
          stages :=
            affected.foldl (fun stages rollout => blockStages rollout stages)
              db.stages }
        db' := by
  induction affected generalizing db with
  | nil =>
      rw [List.foldlM_nil, pure_eq_ok] at answered
      exact ⟨Or.inl rfl, answered ▸ ⟨rfl, rfl, rfl, rfl, rfl⟩⟩
  | cons rollout affected inductionHypothesis =>
      rw [List.foldlM_cons, bind_eq_ok] at answered
      obtain ⟨between, isBlocked, answered⟩ := answered
      obtain ⟨rows, trail, appended⟩ := audited_ok isBlocked
      obtain ⟨-, rest⟩ := inductionHypothesis answered
      refine ⟨Or.inr ⟨_, _, _, appended⟩, ?_⟩
      rw [List.foldl_cons, List.foldl_cons]
      refine SameRows.trans ?_ rest
      exact ⟨rows.releases, rows.runners, by rw [rows.rollouts],
        by rw [rows.stages], rows.assignments⟩

theorem changeStatus_ok
    {input : ChangeReleaseStatus}
    {db db' : Database Trail}
    (answered : changeStatus append input db = .ok db') :
    db' = db ∨ ∃ release, ReleaseChanged append input release db db' := by
  simp only [changeStatus, bind_eq_ok, refuseIf_eq_ok,
    orThrow_eq_ok] at answered
  obtain ⟨-, -, release, isRelease, answered⟩ := answered
  split at answered
  case isTrue => exact Or.inl (pure_eq_ok.mp answered).symm
  case isFalse =>
    simp only [bind_eq_ok, refuseIf_eq_ok] at answered
    obtain ⟨-, permitted, answered⟩ := answered
    refine Or.inr ⟨release, ?_⟩
    constructor
    case isRelease => exact (mem_of_findUnique isRelease).1
    case permitted => simpa using permitted
    case rows =>
      split at answered
      case isTrue =>
        obtain ⟨isAudited, rows⟩ := blockRollouts_ok answered
        refine ⟨_, ?_, isAudited, rows⟩
        intro rollout listed
        obtain ⟨isRollout, affected⟩ := List.mem_filter.mp listed
        simp only [Bool.and_eq_true, decide_eq_true_eq] at affected
        exact ⟨isRollout, affected.2⟩
      case isFalse =>
        rw [pure_eq_ok] at answered
        exact ⟨[], by simp, Or.inl rfl, answered ▸ ⟨rfl, rfl, rfl, rfl, rfl⟩⟩

end TaskTwin.Rollout
