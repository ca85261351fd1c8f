import TaskTwin.Rollout.Changes

/-!
# The invariant of rollouts

A runner's desired assignment belongs to it and to a live rollout, whose target
the runner desires; an assignment whose target is assigned is the desire of its
runner.
-/

namespace TaskTwin.Rollout

open Text Store

variable {Trail : Type}

structure Keys (db : Database Trail) : Prop where
  releaseIds : (db.releases.map RunnerRelease.id).Nodup
  runnerIds : (db.runners.map RunnerDevice.id).Nodup
  rolloutIds : (db.rollouts.map RunnerReleaseRollout.id).Nodup
  stageIds : (db.stages.map RunnerReleaseRolloutStage.id).Nodup
  assignmentIds :
    (db.assignments.map RunnerReleaseRolloutAssignment.id).Nodup
  rolloutRelease :
    ∀ rollout ∈ db.rollouts,
      ∃ release ∈ db.releases, release.id = rollout.targetReleaseId
  stageRollout :
    ∀ stage ∈ db.stages,
      ∃ rollout ∈ db.rollouts, rollout.id = stage.rolloutId
  assignmentStage :
    ∀ assignment ∈ db.assignments,
      ∃ stage ∈ db.stages,
        stage.id = assignment.stageId ∧
          stage.rolloutId = assignment.rolloutId
  assignmentRunner :
    ∀ assignment ∈ db.assignments,
      ∃ runner ∈ db.runners, runner.id = assignment.runnerDeviceId
  onePerRunner :
    ∀ assignment ∈ db.assignments, ∀ other ∈ db.assignments,
      assignment.rolloutId = other.rolloutId →
      assignment.runnerDeviceId = other.runnerDeviceId →
      assignment.id = other.id
  stageNumbers :
    ∀ stage ∈ db.stages, ∀ other ∈ db.stages,
      stage.rolloutId = other.rolloutId →
      stage.stageNumber = other.stageNumber →
      stage.id = other.id

/-- What is made of every row. -/
structure RowChange where
  release : RunnerRelease → RunnerRelease
  runner : RunnerDevice → RunnerDevice
  rollout : RunnerReleaseRollout → RunnerReleaseRollout
  stage : RunnerReleaseRolloutStage → RunnerReleaseRolloutStage
  assignment :
    RunnerReleaseRolloutAssignment → RunnerReleaseRolloutAssignment

/-- A change that keeps the keys of rows and what they refer to. -/
structure RowChange.KeepsKeys (change : RowChange) : Prop where
  release : ∀ row, (change.release row).id = row.id
  runner : ∀ row, (change.runner row).id = row.id
  rollout : ∀ row, (change.rollout row).id = row.id
  target :
    ∀ row, (change.rollout row).targetReleaseId = row.targetReleaseId
  stage : ∀ row, (change.stage row).id = row.id
  stageRollout : ∀ row, (change.stage row).rolloutId = row.rolloutId
  stageNumber : ∀ row, (change.stage row).stageNumber = row.stageNumber
  assignment : ∀ row, (change.assignment row).id = row.id
  assignmentRollout :
    ∀ row, (change.assignment row).rolloutId = row.rolloutId
  assignmentStage : ∀ row, (change.assignment row).stageId = row.stageId
  assignmentRunner :
    ∀ row, (change.assignment row).runnerDeviceId = row.runnerDeviceId

structure ChangedBy (change : RowChange) (db db' : Database Trail) : Prop where
  releases : db'.releases = db.releases.map change.release
  runners : db'.runners = db.runners.map change.runner
  rollouts : db'.rollouts = db.rollouts.map change.rollout
  stages : db'.stages = db.stages.map change.stage
  assignments : db'.assignments = db.assignments.map change.assignment

theorem Keys.changedBy
    {change : RowChange}
    {db db' : Database Trail}
    (keys : Keys db)
    (keeps : change.KeepsKeys)
    (changed : ChangedBy change db db') :
    Keys db' := by
  constructor
  case releaseIds =>
    rw [changed.releases]
    exact nodup_map_of_keeps keeps.release keys.releaseIds
  case runnerIds =>
    rw [changed.runners]
    exact nodup_map_of_keeps keeps.runner keys.runnerIds
  case rolloutIds =>
    rw [changed.rollouts]
    exact nodup_map_of_keeps keeps.rollout keys.rolloutIds
  case stageIds =>
    rw [changed.stages]
    exact nodup_map_of_keeps keeps.stage keys.stageIds
  case assignmentIds =>
    rw [changed.assignments]
    exact nodup_map_of_keeps keeps.assignment keys.assignmentIds
  case rolloutRelease =>
    rw [changed.rollouts, changed.releases]
    simp only [List.forall_mem_map, exists_mem_map, keeps.release,
      keeps.target]
    exact keys.rolloutRelease
  case stageRollout =>
    rw [changed.rollouts, changed.stages]
    simp only [List.forall_mem_map, exists_mem_map, keeps.rollout,
      keeps.stageRollout]
    exact keys.stageRollout
  case assignmentStage =>
    rw [changed.assignments, changed.stages]
    simp only [List.forall_mem_map, exists_mem_map, keeps.stage,
      keeps.stageRollout, keeps.assignmentStage, keeps.assignmentRollout]
    exact keys.assignmentStage
  case assignmentRunner =>
    rw [changed.assignments, changed.runners]
    simp only [List.forall_mem_map, exists_mem_map, keeps.runner,
      keeps.assignmentRunner]
    exact keys.assignmentRunner
  case onePerRunner =>
    rw [changed.assignments]
    simp only [List.forall_mem_map, keeps.assignment,
      keeps.assignmentRollout, keeps.assignmentRunner]
    exact keys.onePerRunner
  case stageNumbers =>
    rw [changed.stages]
    simp only [List.forall_mem_map, keeps.stage, keeps.stageRollout,
      keeps.stageNumber]
    exact keys.stageNumbers

/-- The rollout of an assignment is the one of its stage. -/
theorem Keys.rollout_of_stage
    {db : Database Trail}
    (keys : Keys db)
    {assignment : RunnerReleaseRolloutAssignment}
    {stage : RunnerReleaseRolloutStage}
    (isAssignment : assignment ∈ db.assignments)
    (isStage : stage ∈ db.stages)
    (ofStage : assignment.stageId = stage.id) :
    assignment.rolloutId = stage.rolloutId := by
  obtain ⟨other, isOther, isId, sameRollout⟩ :=
    keys.assignmentStage assignment isAssignment
  obtain rfl :=
    eq_of_key keys.stageIds isOther isStage (isId.trans ofStage)
  exact sameRollout.symm

/-- Rollouts that are not over. -/
def RunnerRolloutStatus.IsLive (status : RunnerRolloutStatus) : Prop :=
  status ≠ .completed ∧ status ≠ .cancelled

structure Ownership (db : Database Trail) : Prop where
  desired :
    ∀ runner ∈ db.runners, ∀ assignmentId,
      runner.desiredRolloutAssignmentId = some assignmentId →
      ∃ assignment ∈ db.assignments,
        assignment.id = assignmentId ∧
          assignment.runnerDeviceId = runner.id ∧
          ∃ rollout ∈ db.rollouts,
            rollout.id = assignment.rolloutId ∧
              rollout.status.IsLive ∧
              runner.desiredReleaseId = some rollout.targetReleaseId
  assigned :
    ∀ assignment ∈ db.assignments,
      assignment.status = .targetAssigned →
      ∃ runner ∈ db.runners,
        runner.id = assignment.runnerDeviceId ∧
          runner.desiredRolloutAssignmentId = some assignment.id

structure Progress (db : Database Trail) : Prop where
  pending :
    ∀ stage ∈ db.stages, stage.status = .pending →
      ∀ assignment ∈ db.assignments,
        assignment.stageId = stage.id → assignment.status = .pending
  completed :
    ∀ stage ∈ db.stages, stage.status = .completed →
      ∀ assignment ∈ db.assignments,
        assignment.stageId = stage.id → assignment.status = .converged
  cancelled :
    ∀ stage ∈ db.stages, stage.status = .cancelled →
      ∀ rollout ∈ db.rollouts,
        rollout.id = stage.rolloutId → rollout.status = .cancelled
  reviewed :
    ∀ stage ∈ db.stages, stage.status = .failedReview →
      ∀ rollout ∈ db.rollouts,
        rollout.id = stage.rolloutId → rollout.reviewReason ≠ none
  unreviewed :
    ∀ rollout ∈ db.rollouts,
      rollout.status = .draft ∨ rollout.status = .active →
      rollout.reviewReason = none

structure Invariant (db : Database Trail) : Prop where
  keys : Keys db
  ownership : Ownership db
  progress : Progress db

theorem SameRows.invariant
    {db db' : Database Trail}
    (same : SameRows db db')
    (invariant : Invariant db) :
    Invariant db' := by
  obtain ⟨keys, ownership, progress⟩ := invariant
  constructor
  · obtain ⟨_, _, _, _, _, _, _, _, _, _, _⟩ := keys
    constructor <;>
      simpa only [same.releases, same.runners, same.rollouts, same.stages,
        same.assignments]
  · obtain ⟨_, _⟩ := ownership
    constructor <;>
      simpa only [same.runners, same.rollouts, same.assignments]
  · obtain ⟨_, _, _, _, _⟩ := progress
    constructor <;>
      simpa only [same.rollouts, same.stages, same.assignments]

end TaskTwin.Rollout

namespace TaskTwin.Rollout

open Text Store

variable {Trail : Type} {append : Trail → JsValue → Option Trail}

variable {input : CreateRollout}

/-- What a row of a created rollout is like. -/
theorem CreateRollout.mem_stages
    {stage : RunnerReleaseRolloutStage}
    (created : stage ∈ input.stages) :
    stage.rolloutId = input.newRolloutId ∧
      stage.status = .pending ∧
      stage.id = input.newStageId stage.stageNumber ∧
      stage.stageNumber ∈
        input.plan.stages.map RolloutStageDefinition.stageNumber := by
  obtain ⟨definition, isDefinition, rfl⟩ := List.mem_map.mp created
  exact ⟨rfl, rfl, rfl, List.mem_map.mpr ⟨definition, isDefinition, rfl⟩⟩

theorem CreateRollout.mem_assignments
    {assignment : RunnerReleaseRolloutAssignment}
    (created : assignment ∈ input.assignments) :
    assignment.rolloutId = input.newRolloutId ∧
      assignment.status = .pending ∧
      assignment.id = input.newAssignmentId assignment.runnerDeviceId ∧
      (∃ stage ∈ input.stages, stage.id = assignment.stageId) ∧
      assignment.runnerDeviceId ∈
        input.plan.stages.flatMap RolloutStageDefinition.runnerDeviceIds := by
  obtain ⟨definition, isDefinition, listed⟩ := List.mem_flatMap.mp created
  obtain ⟨runnerId, isRunner, rfl⟩ := List.mem_map.mp listed
  exact
    ⟨rfl, rfl, rfl,
      ⟨_, List.mem_map.mpr ⟨definition, isDefinition, rfl⟩, rfl⟩,
      List.mem_flatMap.mpr ⟨definition, isDefinition, isRunner⟩⟩

/-- Keys of created rows differ from those of the rows before. -/
theorem ne_of_created
    {α : Type}
    {key : α → JsString}
    {rows created : List α}
    (distinct : ((rows ++ created).map key).Nodup)
    {row other : α}
    (isRow : row ∈ rows)
    (isCreated : other ∈ created) :
    key row ≠ key other := by
  rw [List.map_append, List.nodup_append] at distinct
  exact distinct.2.2 (key row) (List.mem_map_of_mem isRow) (key other)
    (List.mem_map_of_mem isCreated)

theorem Created.keys
    {db db' : Database Trail}
    (created : Created input db db')
    (keys : Keys db) :
    Keys
      { db with
        rollouts := db.rollouts ++ [input.rollout]
        stages := db.stages ++ input.stages
        assignments := db.assignments ++ input.assignments } := by
  constructor
  case releaseIds => exact keys.releaseIds
  case runnerIds => exact keys.runnerIds
  case rolloutIds => exact created.freeRollout
  case stageIds => exact created.freeStages
  case assignmentIds => exact created.freeAssignments
  case rolloutRelease =>
    simp only [List.forall_mem_append, List.forall_mem_singleton]
    exact ⟨keys.rolloutRelease, created.release⟩
  case stageRollout =>
    intro stage listed
    rcases List.mem_append.mp listed with isOld | isNew
    · obtain ⟨rollout, isRollout, isId⟩ := keys.stageRollout stage isOld
      exact ⟨rollout, List.mem_append_left _ isRollout, isId⟩
    · exact ⟨input.rollout, by simp,
        (CreateRollout.mem_stages isNew).1.symm⟩
  case assignmentStage =>
    intro assignment listed
    rcases List.mem_append.mp listed with isOld | isNew
    · obtain ⟨stage, isStage, same⟩ := keys.assignmentStage assignment isOld
      exact ⟨stage, List.mem_append_left _ isStage, same⟩
    · obtain ⟨isRollout, -, -, ⟨stage, isStage, isId⟩, -⟩ :=
        CreateRollout.mem_assignments isNew
      exact ⟨stage, List.mem_append_right _ isStage, isId,
        (CreateRollout.mem_stages isStage).1.trans isRollout.symm⟩
  case assignmentRunner =>
    intro assignment listed
    rcases List.mem_append.mp listed with isOld | isNew
    · exact keys.assignmentRunner assignment isOld
    · exact created.runners _ (CreateRollout.mem_assignments isNew).2.2.2.2
  case onePerRunner =>
    have freshRollout
        {assignment : RunnerReleaseRolloutAssignment}
        (isOld : assignment ∈ db.assignments) :
        assignment.rolloutId ≠ input.newRolloutId := by
      obtain ⟨stage, isStage, -, ofRollout⟩ :=
        keys.assignmentStage assignment isOld
      obtain ⟨rollout, isRollout, isId⟩ := keys.stageRollout stage isStage
      rw [← ofRollout, ← isId]
      exact @ne_of_created _ _ _ _ created.freeRollout _ input.rollout isRollout
        (by simp)
    intro assignment listed other listed' sameRollout sameRunner
    rcases List.mem_append.mp listed with isOld | isNew <;>
      rcases List.mem_append.mp listed' with isOld' | isNew'
    · exact keys.onePerRunner _ isOld _ isOld' sameRollout sameRunner
    · exact absurd
        (sameRollout.trans (CreateRollout.mem_assignments isNew').1)
        (freshRollout isOld)
    · exact absurd
        (sameRollout.symm.trans (CreateRollout.mem_assignments isNew).1)
        (freshRollout isOld')
    · rw [(CreateRollout.mem_assignments isNew).2.2.1,
        (CreateRollout.mem_assignments isNew').2.2.1, sameRunner]
  case stageNumbers =>
    have freshRollout
        {stage : RunnerReleaseRolloutStage}
        (isOld : stage ∈ db.stages) :
        stage.rolloutId ≠ input.newRolloutId := by
      obtain ⟨rollout, isRollout, isId⟩ := keys.stageRollout stage isOld
      rw [← isId]
      exact @ne_of_created _ _ _ _ created.freeRollout _ input.rollout isRollout
        (by simp)
    intro stage listed other listed' sameRollout sameNumber
    rcases List.mem_append.mp listed with isOld | isNew <;>
      rcases List.mem_append.mp listed' with isOld' | isNew'
    · exact keys.stageNumbers _ isOld _ isOld' sameRollout sameNumber
    · exact absurd (sameRollout.trans (CreateRollout.mem_stages isNew').1)
        (freshRollout isOld)
    · exact absurd
        (sameRollout.symm.trans (CreateRollout.mem_stages isNew).1)
        (freshRollout isOld')
    · rw [(CreateRollout.mem_stages isNew).2.2.1,
        (CreateRollout.mem_stages isNew').2.2.1, sameNumber]

/-- Creating a rollout keeps the invariant. -/
theorem Created.invariant
    {db db' : Database Trail}
    (created : Created input db db')
    (invariant : Invariant db) :
    Invariant db' := by
  obtain ⟨keys, ownership, progress⟩ := invariant
  have keys' := created.keys keys
  refine created.rows.invariant ⟨keys', ?_, ?_⟩
  · constructor
    case desired =>
      intro runner isRunner assignmentId isDesired
      obtain ⟨assignment, isAssignment, isId, ofRunner, rollout, isRollout,
        owned⟩ := ownership.desired runner isRunner assignmentId isDesired
      exact ⟨assignment, List.mem_append_left _ isAssignment, isId, ofRunner,
        rollout, List.mem_append_left _ isRollout, owned⟩
    case assigned =>
      intro assignment listed isAssigned
      rcases List.mem_append.mp listed with isOld | isNew
      · exact ownership.assigned assignment isOld isAssigned
      · rw [(CreateRollout.mem_assignments isNew).2.1] at isAssigned
        cases isAssigned
  · have stageOf
        {stage : RunnerReleaseRolloutStage}
        {assignment : RunnerReleaseRolloutAssignment}
        (isOld : stage ∈ db.stages)
        (isNew : assignment ∈ input.assignments)
        (ofStage : assignment.stageId = stage.id) :
        False := by
      obtain ⟨other, isOther, isId⟩ :=
        (CreateRollout.mem_assignments isNew).2.2.2.1
      exact ne_of_created created.freeStages isOld isOther
        (ofStage.symm.trans isId.symm)
    have rolloutOf
        {stage : RunnerReleaseRolloutStage}
        {rollout : RunnerReleaseRollout}
        (isOld : stage ∈ db.stages)
        (listed : rollout ∈ db.rollouts ++ [input.rollout])
        (ofRollout : rollout.id = stage.rolloutId) :
        rollout ∈ db.rollouts := by
      rcases List.mem_append.mp listed with isOld' | isNew
      · exact isOld'
      · obtain ⟨other, isOther, isId⟩ := keys.stageRollout stage isOld
        exact absurd (isId.trans ofRollout.symm)
          (ne_of_created created.freeRollout isOther isNew)
    constructor
    case pending =>
      intro stage listed isPending assignment listed' ofStage
      rcases List.mem_append.mp listed' with isOld' | isNew'
      · rcases List.mem_append.mp listed with isOld | isNew
        · exact progress.pending stage isOld isPending assignment isOld'
            ofStage
        · obtain ⟨other, isOther, isId, -⟩ :=
            keys.assignmentStage assignment isOld'
          exact absurd (isId.trans ofStage)
            (ne_of_created created.freeStages isOther isNew)
      · exact (CreateRollout.mem_assignments isNew').2.1
    case completed =>
      intro stage listed isCompleted assignment listed' ofStage
      rcases List.mem_append.mp listed with isOld | isNew
      · rcases List.mem_append.mp listed' with isOld' | isNew'
        · exact progress.completed stage isOld isCompleted assignment isOld'
            ofStage
        · exact (stageOf isOld isNew' ofStage).elim
      · rw [(CreateRollout.mem_stages isNew).2.1] at isCompleted
        cases isCompleted
    case cancelled =>
      intro stage listed isCancelled rollout listed' ofRollout
      rcases List.mem_append.mp listed with isOld | isNew
      · exact progress.cancelled stage isOld isCancelled rollout
          (rolloutOf isOld listed' ofRollout) ofRollout
      · rw [(CreateRollout.mem_stages isNew).2.1] at isCancelled
        cases isCancelled
    case reviewed =>
      intro stage listed isReviewed rollout listed' ofRollout
      rcases List.mem_append.mp listed with isOld | isNew
      · exact progress.reviewed stage isOld isReviewed rollout
          (rolloutOf isOld listed' ofRollout) ofRollout
      · rw [(CreateRollout.mem_stages isNew).2.1] at isReviewed
        cases isReviewed
    case unreviewed =>
      intro rollout listed isOpen
      rcases List.mem_append.mp listed with isOld | isNew
      · exact progress.unreviewed rollout isOld isOpen
      · rw [List.mem_singleton.mp isNew]
        rfl

/-- The runners of the assignments of a stage. -/
theorem mem_assignedRunners
    {db : Database Trail}
    {stageId : JsString}
    {assigned : AssignedRunner}
    (listed : assigned ∈ assignedRunners db stageId) :
    assigned.assignment ∈ db.assignments ∧
      assigned.assignment.stageId = stageId ∧
      assigned.runner ∈ db.runners ∧
      assigned.runner.id = assigned.assignment.runnerDeviceId := by
  obtain ⟨assignment, isAssignment, isAssigned⟩ :=
    List.mem_filterMap.mp listed
  obtain ⟨runner, found, rfl⟩ := Option.map_eq_some_iff.mp isAssigned
  obtain ⟨isRow, ofStage⟩ := List.mem_filter.mp isAssignment
  obtain ⟨isRunner, isId⟩ := mem_of_findUnique found
  exact ⟨isRow, by simpa using ofStage, isRunner, isId⟩

/-- What is made of a runner when a stage is activated. -/
def assignRunner (rollout : RunnerReleaseRollout) :
    List AssignedRunner → RunnerDevice → RunnerDevice :=
  changeEach
    (fun assigned runner => runner.id = assigned.assignment.runnerDeviceId)
    fun assigned runner =>
      { runner with
        desiredReleaseId := some rollout.targetReleaseId
        desiredRolloutAssignmentId := some assigned.assignment.id }

def assignTarget :
    List AssignedRunner →
    RunnerReleaseRolloutAssignment →
    RunnerReleaseRolloutAssignment :=
  changeEach
    (fun assigned assignment => assignment.id = assigned.assignment.id)
    fun assigned assignment =>
      { assignment with
        status := .targetAssigned
        baselineVersion := some assigned.runner.runnerVersion
        lastObservedVersion := some assigned.runner.runnerVersion }

theorem assignRunner_cases
    (rollout : RunnerReleaseRollout)
    (assigned : List AssignedRunner)
    (runner : RunnerDevice) :
    ((∀ other ∈ assigned, runner.id ≠ other.assignment.runnerDeviceId) ∧
        assignRunner rollout assigned runner = runner) ∨
      ∃ other ∈ assigned,
        runner.id = other.assignment.runnerDeviceId ∧
          assignRunner rollout assigned runner =
            { runner with
              desiredReleaseId := some rollout.targetReleaseId
              desiredRolloutAssignmentId := some other.assignment.id } := by
  have cases :=
    changeEach_cases
      (fun assigned runner =>
        runner.id = assigned.assignment.runnerDeviceId)
      (fun assigned runner =>
        { runner with
          desiredReleaseId := some rollout.targetReleaseId
          desiredRolloutAssignmentId := some assigned.assignment.id })
      (fun _ _ _ _ again => again) (fun _ _ _ _ _ => rfl) assigned runner
  simp only [decide_eq_true_eq, decide_eq_false_iff_not] at cases
  exact cases

theorem assignTarget_cases
    (assigned : List AssignedRunner)
    (assignment : RunnerReleaseRolloutAssignment) :
    ((∀ other ∈ assigned, assignment.id ≠ other.assignment.id) ∧
        assignTarget assigned assignment = assignment) ∨
      ∃ other ∈ assigned,
        assignment.id = other.assignment.id ∧
          assignTarget assigned assignment =
            { assignment with
              status := .targetAssigned
              baselineVersion := some other.runner.runnerVersion
              lastObservedVersion := some other.runner.runnerVersion } := by
  have cases :=
    changeEach_cases
      (fun assigned assignment =>
        assignment.id = assigned.assignment.id)
      (fun assigned assignment =>
        { assignment with
          status := RunnerRolloutAssignmentStatus.targetAssigned
          baselineVersion := some assigned.runner.runnerVersion
          lastObservedVersion := some assigned.runner.runnerVersion })
      (fun _ _ _ _ again => again) (fun _ _ _ _ _ => rfl) assigned assignment
  simp only [decide_eq_true_eq, decide_eq_false_iff_not] at cases
  exact cases

def activateChange
    (rollout : RunnerReleaseRollout)
    (stage : RunnerReleaseRolloutStage)
    (assigned : List AssignedRunner) :
    RowChange where
  release row := row
  runner := assignRunner rollout assigned
  rollout row := row
  stage row := if row.id = stage.id then { row with status := .active } else row
  assignment := assignTarget assigned

theorem activateChange_keepsKeys
    (rollout : RunnerReleaseRollout)
    (stage : RunnerReleaseRolloutStage)
    (assigned : List AssignedRunner) :
    (activateChange rollout stage assigned).KeepsKeys := by
  constructor
  case release | rollout | target => exact fun _ => rfl
  case runner =>
    intro row
    simp only [activateChange]
    rcases assignRunner_cases rollout assigned row with
      ⟨_, isSame⟩ | ⟨_, _, _, isSame⟩ <;>
      rw [isSame]
  case assignment | assignmentRollout | assignmentStage | assignmentRunner =>
    intro row
    simp only [activateChange]
    rcases assignTarget_cases assigned row with
      ⟨_, isSame⟩ | ⟨_, _, _, isSame⟩ <;>
      rw [isSame]
  case stage | stageRollout | stageNumber =>
    intro row
    simp only [activateChange]
    split <;> rfl

theorem StageActivated.changedBy
    {rollout : RunnerReleaseRollout}
    {stage : RunnerReleaseRolloutStage}
    {db db' : Database Trail}
    (activated : StageActivated rollout stage db db') :
    ChangedBy
      (activateChange rollout stage (assignedRunners db stage.id)) db db' := by
  have rows := activated.rows
  constructor
  · rw [rows.releases]
    exact (List.map_id _).symm
  · rw [rows.runners]
    exact foldl_updateMany _ _ _ _
  · rw [rows.rollouts]
    exact (List.map_id _).symm
  · rw [rows.stages, updateMany]
    simp only [activateChange, decide_eq_true_eq]
  · rw [rows.assignments]
    exact foldl_updateMany _ _ _ _

/-- Activating a stage keeps the invariant. -/
theorem StageActivated.invariant
    {rollout : RunnerReleaseRollout}
    {stage : RunnerReleaseRolloutStage}
    {db db' : Database Trail}
    (activated : StageActivated rollout stage db db')
    (invariant : Invariant db) :
    Invariant db' := by
  obtain ⟨keys, ownership, progress⟩ := invariant
  have changed := activated.changedBy
  have keeps :=
    activateChange_keepsKeys rollout stage (assignedRunners db stage.id)
  -- An assigned runner's assignment is one of the stage and its rollout.
  have ofStage
      {assigned : AssignedRunner}
      (listed : assigned ∈ assignedRunners db stage.id) :
      assigned.assignment.rolloutId = rollout.id := by
    obtain ⟨isAssignment, ofStage, -, -⟩ := mem_assignedRunners listed
    rw [keys.rollout_of_stage isAssignment activated.isStage ofStage,
      activated.ofRollout]
  -- Assignments of other stages stay as they are.
  have otherAssignment
      {assignment : RunnerReleaseRolloutAssignment}
      (isAssignment : assignment ∈ db.assignments)
      (otherStage : assignment.stageId ≠ stage.id) :
      assignTarget (assignedRunners db stage.id) assignment = assignment := by
    rcases assignTarget_cases (assignedRunners db stage.id) assignment with
      ⟨-, unchanged⟩ | ⟨assigned, listed, sameId, -⟩
    · exact unchanged
    · obtain ⟨isAssigned, ofStage, -, -⟩ := mem_assignedRunners listed
      obtain rfl :=
        eq_of_key keys.assignmentIds isAssignment isAssigned sameId
      exact absurd ofStage otherStage
  refine ⟨keys.changedBy keeps changed, ?_, ?_⟩
  · constructor
    case desired =>
      rw [changed.runners, changed.assignments, changed.rollouts]
      simp only [List.forall_mem_map, exists_mem_map, keeps.assignment,
        keeps.assignmentRunner, keeps.assignmentRollout]
      intro runner isRunner assignmentId isDesired
      simp only [activateChange] at isDesired ⊢
      rcases assignRunner_cases rollout (assignedRunners db stage.id) runner with
        ⟨-, unchanged⟩ | ⟨assigned, listed, isId, isAssigned⟩
      · rw [unchanged] at isDesired ⊢
        exact ownership.desired runner isRunner assignmentId isDesired
      · rw [isAssigned] at isDesired ⊢
        obtain ⟨isAssignment, -, -, -⟩ := mem_assignedRunners listed
        refine ⟨assigned.assignment, isAssignment, Option.some.inj isDesired,
          isId.symm, rollout, activated.isRollout, (ofStage listed).symm, ?_,
          rfl⟩
        rw [activated.active]
        exact ⟨nofun, nofun⟩
    case assigned =>
      rw [changed.runners, changed.assignments]
      simp only [List.forall_mem_map, exists_mem_map, keeps.assignment,
        keeps.assignmentRunner, keeps.runner]
      intro assignment isAssignment isAssigned
      simp only [activateChange] at isAssigned ⊢
      rcases assignTarget_cases (assignedRunners db stage.id) assignment with
        ⟨notListed, unchanged⟩ | ⟨assigned, listed, sameId, -⟩
      · rw [unchanged] at isAssigned
        obtain ⟨runner, isRunner, isId, isDesired⟩ :=
          ownership.assigned assignment isAssignment isAssigned
        refine ⟨runner, isRunner, isId, ?_⟩
        rcases assignRunner_cases rollout (assignedRunners db stage.id)
            runner with
          ⟨-, unchangedRunner⟩ | ⟨assigned, listed, sameRunner, -⟩
        · rw [unchangedRunner]
          exact isDesired
        · -- The runner was free or had this assignment already.
          obtain ⟨-, -, isRunner', isId'⟩ := mem_assignedRunners listed
          obtain rfl :=
            eq_of_key keys.runnerIds isRunner isRunner'
              (sameRunner.trans isId'.symm)
          rcases activated.free assigned listed with isFree | isSame
          · rw [isFree] at isDesired
            cases isDesired
          · rw [isSame] at isDesired
            exact absurd (Option.some.inj isDesired).symm
              (notListed assigned listed)
      · obtain ⟨isAssigned', -, isRunner, isId⟩ := mem_assignedRunners listed
        obtain rfl :=
          eq_of_key keys.assignmentIds isAssignment isAssigned' sameId
        refine ⟨assigned.runner, isRunner, isId, ?_⟩
        rcases assignRunner_cases rollout (assignedRunners db stage.id)
            assigned.runner with
          ⟨notListed, -⟩ | ⟨other, listed', sameRunner, isChanged⟩
        · exact absurd isId (notListed assigned listed)
        · obtain ⟨isOther, -, -, -⟩ := mem_assignedRunners listed'
          rw [isChanged]
          exact congrArg some
            (keys.onePerRunner _ isOther _ isAssignment
              ((ofStage listed').trans (ofStage listed).symm)
              (sameRunner.symm.trans isId))
  · constructor
    case pending =>
      rw [changed.stages, changed.assignments]
      simp only [List.forall_mem_map, keeps.assignmentStage, keeps.stage]
      intro row isRow isPending assignment isAssignment ofRow
      simp only [activateChange] at isPending ⊢
      split at isPending
      case isTrue => cases isPending
      case isFalse other =>
        rw [otherAssignment isAssignment (ofRow ▸ other)]
        exact progress.pending row isRow isPending assignment isAssignment ofRow
    case completed =>
      rw [changed.stages, changed.assignments]
      simp only [List.forall_mem_map, keeps.assignmentStage, keeps.stage]
      intro row isRow isCompleted assignment isAssignment ofRow
      simp only [activateChange] at isCompleted ⊢
      split at isCompleted
      case isTrue => cases isCompleted
      case isFalse other =>
        rw [otherAssignment isAssignment (ofRow ▸ other)]
        exact progress.completed row isRow isCompleted assignment isAssignment
          ofRow
    case cancelled =>
      rw [changed.stages, changed.rollouts]
      simp only [List.forall_mem_map, keeps.stageRollout]
      intro row isRow isCancelled
      simp only [activateChange] at isCancelled ⊢
      split at isCancelled
      case isTrue => cases isCancelled
      case isFalse => exact progress.cancelled row isRow isCancelled
    case reviewed =>
      rw [changed.stages, changed.rollouts]
      simp only [List.forall_mem_map, keeps.stageRollout]
      intro row isRow isReviewed
      simp only [activateChange] at isReviewed ⊢
      split at isReviewed
      case isTrue => cases isReviewed
      case isFalse => exact progress.reviewed row isRow isReviewed
    case unreviewed =>
      rw [changed.rollouts]
      simp only [List.forall_mem_map, activateChange]
      exact progress.unreviewed

end TaskTwin.Rollout
