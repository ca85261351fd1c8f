import TaskTwin.Rollout.Withdrawal

/-!
# Heartbeats keep the invariant

A heartbeat reports the software of a runner and then observes the assignment
that the runner desires.
-/

namespace TaskTwin.Rollout

open Text Store

variable {Trail : Type} {append : Trail → JsValue → Option Trail}

def reportChange (input : Heartbeat) : RowChange where
  release row := row
  runner row :=
    if row.id = input.runnerDeviceId then input.report row else row
  rollout row := row
  stage row := row
  assignment row := row

theorem reportChange_keepsKeys (input : Heartbeat) :
    (reportChange input).KeepsKeys := by
  constructor <;> intro row <;> simp only [reportChange]
  split <;> rfl

variable (input : Heartbeat)

/-- A report leaves what the runner desires. -/
theorem reportChange_desired
    (runner : RunnerDevice) :
    ((reportChange input).runner runner).desiredRolloutAssignmentId =
        runner.desiredRolloutAssignmentId ∧
      ((reportChange input).runner runner).desiredReleaseId =
        runner.desiredReleaseId := by
  simp only [reportChange]
  split
  · exact ⟨rfl, rfl⟩
  · exact ⟨rfl, rfl⟩

theorem reportRows_changedBy
    (db : Database Trail) :
    ChangedBy (reportChange input) db (input.reportRows db) := by
  constructor
  case runners =>
    rw [Heartbeat.reportRows, updateMany]
    simp only [reportChange, decide_eq_true_eq]
  all_goals exact (List.map_id _).symm

theorem reportRows_invariant
    {db : Database Trail}
    (invariant : Invariant db) :
    Invariant (input.reportRows db) := by
  obtain ⟨keys, ownership, progress⟩ := invariant
  have changedBy := reportRows_changedBy input db
  have keeps := reportChange_keepsKeys input
  refine ⟨keys.changedBy keeps changedBy, ?_, ?_⟩
  · constructor
    case desired =>
      rw [changedBy.runners]
      simp only [List.forall_mem_map, reportChange_desired, keeps.runner]
      exact ownership.desired
    case assigned =>
      rw [changedBy.runners]
      simp only [exists_mem_map, reportChange_desired, keeps.runner]
      exact ownership.assigned
  · obtain ⟨_, _, _, _, _⟩ := progress
    constructor <;> assumption

/-- An assignment in the tables, with what it is of. -/
structure ObservedAssignment.In
    (observed : ObservedAssignment)
    (db : Database Trail) :
    Prop where
  isAssignment : observed.assignment ∈ db.assignments
  isStage : observed.stage ∈ db.stages
  isRollout : observed.rollout ∈ db.rollouts
  ofStage : observed.assignment.stageId = observed.stage.id
  stageOf : observed.stage.rolloutId = observed.rollout.id
  assignmentOf : observed.assignment.rolloutId = observed.rollout.id
  isLive : observed.rollout.status.IsLive

variable {observed : ObservedAssignment} {db : Database Trail}

theorem desiredAssignment_in
    (invariant : Invariant db)
    {device : RunnerDevice}
    (isDevice : device ∈ db.runners)
    {observed : ObservedAssignment}
    (isObserved : desiredAssignment db device = some observed) :
    observed.In db ∧
      device.desiredRolloutAssignmentId = some observed.assignment.id := by
  obtain ⟨keys, ownership, -⟩ := invariant
  simp only [desiredAssignment, Option.bind_eq_bind, Option.bind_eq_some_iff,
    Option.pure_def, Option.some.injEq] at isObserved
  obtain ⟨assignmentId, isDesired, assignment, isAssignment, stage, isStage,
    rollout, isRollout, release, -, rfl⟩ := isObserved
  obtain ⟨listed, rfl⟩ := mem_of_findUnique isAssignment
  obtain ⟨stageListed, stageId⟩ := mem_of_findUnique isStage
  obtain ⟨rolloutListed, rolloutId⟩ := mem_of_findUnique isRollout
  have assignmentOf : assignment.rolloutId = rollout.id :=
    (keys.rollout_of_stage listed stageListed stageId.symm).trans
      rolloutId.symm
  have isLive : rollout.status.IsLive := by
    obtain ⟨other, isOther, sameId, -, row, isRow, ofOther, isLive, -⟩ :=
      ownership.desired device isDevice _ isDesired
    obtain rfl := eq_of_key keys.assignmentIds isOther listed sameId
    obtain rfl :=
      eq_of_key keys.rolloutIds isRow rolloutListed
        (ofOther.trans assignmentOf)
    exact isLive
  exact
    ⟨⟨listed, stageListed, rolloutListed, stageId.symm, rolloutId.symm,
      assignmentOf, isLive⟩, isDesired⟩

/-- What an observation makes of an assignment. -/
def observeAssignment
    (observed : ObservedAssignment)
    (status : RunnerRolloutAssignmentStatus)
    (actualVersion : JsString)
    (row : RunnerReleaseRolloutAssignment) :
    RunnerReleaseRolloutAssignment :=
  if row.id = observed.assignment.id then
    { row with status, lastObservedVersion := some actualVersion }
  else
    row

theorem observeAssignment_keeps
    (observed : ObservedAssignment)
    (status : RunnerRolloutAssignmentStatus)
    (actualVersion : JsString)
    (row : RunnerReleaseRolloutAssignment) :
    (observeAssignment observed status actualVersion row).id = row.id ∧
      (observeAssignment observed status actualVersion row).rolloutId =
        row.rolloutId ∧
      (observeAssignment observed status actualVersion row).stageId =
        row.stageId ∧
      (observeAssignment observed status actualVersion row).runnerDeviceId =
        row.runnerDeviceId := by
  rw [observeAssignment]
  split
  · exact ⟨rfl, rfl, rfl, rfl⟩
  · exact ⟨rfl, rfl, rfl, rfl⟩

/-- The observed assignment gets the status; no other changes. -/
theorem observeAssignment_cases
    (keys : Keys db)
    (isAssignment : observed.assignment ∈ db.assignments)
    (status : RunnerRolloutAssignmentStatus)
    (actualVersion : JsString)
    {row : RunnerReleaseRolloutAssignment}
    (listed : row ∈ db.assignments) :
    (row = observed.assignment ∧
        (observeAssignment observed status actualVersion row).status =
          status) ∨
      (row.id ≠ observed.assignment.id ∧
        observeAssignment observed status actualVersion row = row) := by
  rw [observeAssignment]
  split
  case isTrue isId =>
    exact Or.inl
      ⟨eq_of_key keys.assignmentIds listed isAssignment isId, rfl⟩
  case isFalse notId => exact Or.inr ⟨notId, rfl⟩

def observeChange
    (observed : ObservedAssignment)
    (status : RunnerRolloutAssignmentStatus)
    (actualVersion : JsString) :
    RowChange where
  release row := row
  runner row := row
  rollout row := row
  stage row := row
  assignment := observeAssignment observed status actualVersion

theorem observeChange_keepsKeys
    (observed : ObservedAssignment)
    (status : RunnerRolloutAssignmentStatus)
    (actualVersion : JsString) :
    (observeChange observed status actualVersion).KeepsKeys := by
  have keeps := observeAssignment_keeps observed status actualVersion
  constructor
  case assignment => exact fun row => (keeps row).1
  case assignmentRollout => exact fun row => (keeps row).2.1
  case assignmentStage => exact fun row => (keeps row).2.2.1
  case assignmentRunner => exact fun row => (keeps row).2.2.2
  all_goals exact fun _ => rfl

theorem observeRow_changedBy
    (observed : ObservedAssignment)
    (status : RunnerRolloutAssignmentStatus)
    (actualVersion : JsString)
    (db : Database Trail) :
    ChangedBy (observeChange observed status actualVersion) db
      (observeRow observed status actualVersion db) := by
  constructor
  case assignments =>
    rw [observeRow, updateMany]
    simp only [decide_eq_true_eq]
    rfl
  all_goals exact (List.map_id _).symm

/-- A status that an observation may write: the one that was there, or one
that its stage allows. -/
def Observable
    (observed : ObservedAssignment)
    (status : RunnerRolloutAssignmentStatus)
    (db : Database Trail) :
    Prop :=
  status = observed.assignment.status ∨
    status ≠ .targetAssigned ∧
      ∀ stage ∈ db.stages,
        stage.id = observed.assignment.stageId →
          stage.status ≠ .pending ∧
            (stage.status = .completed → status = .converged)

theorem observeRow_invariant
    {status : RunnerRolloutAssignmentStatus}
    (actualVersion : JsString)
    {db : Database Trail}
    (isAssignment : observed.assignment ∈ db.assignments)
    (observable : Observable observed status db)
    (invariant : Invariant db) :
    Invariant (observeRow observed status actualVersion db) := by
  obtain ⟨keys, ownership, progress⟩ := invariant
  have changedBy := observeRow_changedBy observed status actualVersion db
  have keeps := observeChange_keepsKeys observed status actualVersion
  have cases
      {row : RunnerReleaseRolloutAssignment}
      (listed : row ∈ db.assignments) :=
    observeAssignment_cases keys isAssignment status actualVersion listed
  refine ⟨keys.changedBy keeps changedBy, ?_, ?_⟩
  · constructor
    case desired =>
      rw [changedBy.assignments]
      simp only [exists_mem_map, keeps.assignment, keeps.assignmentRollout,
        keeps.assignmentRunner]
      exact ownership.desired
    case assigned =>
      rw [changedBy.assignments]
      simp only [List.forall_mem_map, keeps.assignment,
        keeps.assignmentRunner]
      intro assignment listed isAssigned
      apply ownership.assigned assignment listed
      rcases cases listed with ⟨rfl, isStatus⟩ | ⟨-, unchanged⟩
      · rcases observable with same | ⟨notAssigned, -⟩
        · exact same.symm.trans (isStatus.symm.trans isAssigned)
        · exact absurd (isStatus.symm.trans isAssigned) notAssigned
      · exact unchanged ▸ isAssigned
  · constructor
    case pending =>
      rw [changedBy.assignments]
      simp only [List.forall_mem_map, keeps.assignmentStage]
      intro stage isStage isPending assignment listed ofStage
      have wasPending :=
        progress.pending stage isStage isPending assignment listed ofStage
      rcases cases listed with ⟨rfl, isStatus⟩ | ⟨-, unchanged⟩
      · rcases observable with same | ⟨-, allowed⟩
        · exact isStatus.trans (same.trans wasPending)
        · exact absurd isPending (allowed stage isStage ofStage.symm).1
      · exact (congrArg _ unchanged).trans wasPending
    case completed =>
      rw [changedBy.assignments]
      simp only [List.forall_mem_map, keeps.assignmentStage]
      intro stage isStage isCompleted assignment listed ofStage
      have wasConverged :=
        progress.completed stage isStage isCompleted assignment listed ofStage
      rcases cases listed with ⟨rfl, isStatus⟩ | ⟨-, unchanged⟩
      · rcases observable with same | ⟨-, allowed⟩
        · exact isStatus.trans (same.trans wasConverged)
        · exact isStatus.trans
            ((allowed stage isStage ofStage.symm).2 isCompleted)
      · exact (congrArg _ unchanged).trans wasConverged
    case cancelled => exact progress.cancelled
    case reviewed => exact progress.reviewed
    case unreviewed => exact progress.unreviewed

def reviewChange
    (observed : ObservedAssignment)
    (reason : RunnerRolloutReviewReason) :
    RowChange where
  release row := row
  runner row := row
  rollout row :=
    if row.id = observed.rollout.id then
      { row with status := .paused, reviewReason := some reason }
    else
      row
  stage row :=
    if row.id = observed.stage.id then
      { row with status := .failedReview, reviewReason := some reason }
    else
      row
  assignment row := row

theorem reviewChange_keepsKeys
    (observed : ObservedAssignment)
    (reason : RunnerRolloutReviewReason) :
    (reviewChange observed reason).KeepsKeys := by
  constructor <;> intro row <;> simp only [reviewChange] <;> split <;> rfl

theorem reviewRows_changedBy
    (observed : ObservedAssignment)
    (reason : RunnerRolloutReviewReason)
    (db : Database Trail) :
    ChangedBy (reviewChange observed reason) db
      (reviewRows observed reason db) := by
  constructor
  case rollouts | stages =>
    simp only [reviewRows, updateMany, reviewChange, decide_eq_true_eq]
  all_goals exact (List.map_id _).symm

/-- Sending the stage of a live rollout to review keeps the invariant. -/
theorem reviewRows_invariant
    {observed : ObservedAssignment}
    (reason : RunnerRolloutReviewReason)
    {db : Database Trail}
    (isIn : observed.In db)
    (invariant : Invariant db) :
    Invariant (reviewRows observed reason db) := by
  obtain ⟨keys, ownership, progress⟩ := invariant
  have changedBy := reviewRows_changedBy observed reason db
  have keeps := reviewChange_keepsKeys observed reason
  -- A stage with another status than `failed_review` was not the observed one.
  have stageWas
      {row : RunnerReleaseRolloutStage}
      (notReviewed :
        ((reviewChange observed reason).stage row).status ≠ .failedReview) :
      (reviewChange observed reason).stage row = row := by
    simp only [reviewChange] at notReviewed ⊢
    split
    case isTrue isId => simp [isId] at notReviewed
    case isFalse => rfl
  refine ⟨keys.changedBy keeps changedBy, ?_, ?_⟩
  · constructor
    case desired =>
      rw [changedBy.rollouts]
      simp only [exists_mem_map, keeps.rollout, keeps.target]
      intro runner isRunner assignmentId isDesired
      obtain ⟨assignment, isAssignment, isId, ofRunner, row, isRow, ofRow,
        wasLive, isTarget⟩ :=
        ownership.desired runner isRunner assignmentId isDesired
      refine ⟨assignment, isAssignment, isId, ofRunner, row, isRow, ofRow, ?_,
        isTarget⟩
      simp only [reviewChange]
      split
      · exact ⟨nofun, nofun⟩
      · exact wasLive
    case assigned => exact ownership.assigned
  · constructor
    case pending =>
      rw [changedBy.stages]
      simp only [List.forall_mem_map, keeps.stage]
      intro row isRow isPending
      rw [stageWas (by simp [isPending])] at isPending
      exact progress.pending row isRow isPending
    case completed =>
      rw [changedBy.stages]
      simp only [List.forall_mem_map, keeps.stage]
      intro row isRow isCompleted
      rw [stageWas (by simp [isCompleted])] at isCompleted
      exact progress.completed row isRow isCompleted
    case cancelled =>
      rw [changedBy.stages, changedBy.rollouts]
      simp only [List.forall_mem_map, keeps.stageRollout, keeps.rollout]
      intro row isRow isCancelled rollout isRollout ofRollout
      rw [stageWas (by simp [isCancelled])] at isCancelled
      have wasCancelled :=
        progress.cancelled row isRow isCancelled rollout isRollout ofRollout
      simp only [reviewChange]
      split
      case isTrue isId =>
        obtain rfl :=
          eq_of_key keys.rolloutIds isRollout isIn.isRollout isId
        exact absurd wasCancelled isIn.isLive.2
      case isFalse => exact wasCancelled
    case reviewed =>
      rw [changedBy.stages, changedBy.rollouts]
      simp only [List.forall_mem_map, keeps.stageRollout, keeps.rollout]
      intro row isRow isReviewed rollout isRollout ofRollout
      simp only [reviewChange]
      split
      case isTrue => exact nofun
      case isFalse notId =>
        simp only [reviewChange] at isReviewed
        split at isReviewed
        case isTrue isStage =>
          obtain rfl := eq_of_key keys.stageIds isRow isIn.isStage isStage
          exact absurd (ofRollout.trans isIn.stageOf) notId
        case isFalse =>
          exact progress.reviewed row isRow isReviewed rollout isRollout
            ofRollout
    case unreviewed =>
      rw [changedBy.rollouts]
      simp only [List.forall_mem_map]
      intro row isRow
      simp only [reviewChange]
      split
      · simp
      · exact progress.unreviewed row isRow

/-- A completed stage. -/
def completeStageRows
    (observed : ObservedAssignment)
    (db : Database Trail) :
    Database Trail :=
  { db with
    stages :=
      updateMany (fun row => row.id = observed.stage.id)
        (fun row => { row with status := .completed }) db.stages }

def completeStageChange (observed : ObservedAssignment) : RowChange where
  release row := row
  runner row := row
  rollout row := row
  stage row :=
    if row.id = observed.stage.id then { row with status := .completed }
    else row
  assignment row := row

/-- Completing a rollout takes it from all runners. -/
def completeRolloutRows
    (observed : ObservedAssignment)
    (db : Database Trail) :
    Database Trail :=
  { db with
    rollouts :=
      updateMany (fun row => row.id = observed.rollout.id)
        (fun row => { row with status := .completed }) db.rollouts
    runners :=
      updateMany
        (fun runner =>
          (db.assignments.filter fun assignment =>
              assignment.rolloutId = observed.rollout.id).any
            fun assignment =>
              runner.desiredRolloutAssignmentId = some assignment.id)
        (fun runner => { runner with desiredRolloutAssignmentId := none })
        db.runners }

/-- The rollout that a runner desires an assignment of. -/
def desiresOf
    (observed : ObservedAssignment)
    (assignments : List RunnerReleaseRolloutAssignment)
    (runner : RunnerDevice) :
    Prop :=
  ∃ assignment ∈ assignments,
    assignment.rolloutId = observed.rollout.id ∧
      runner.desiredRolloutAssignmentId = some assignment.id

instance
    (observed : ObservedAssignment)
    (assignments : List RunnerReleaseRolloutAssignment)
    (runner : RunnerDevice) :
    Decidable (desiresOf observed assignments runner) :=
  List.decidableBEx _ _

def completeRolloutChange
    (observed : ObservedAssignment)
    (assignments : List RunnerReleaseRolloutAssignment) :
    RowChange where
  release row := row
  runner row :=
    if desiresOf observed assignments row then
      { row with desiredRolloutAssignmentId := none }
    else
      row
  rollout row :=
    if row.id = observed.rollout.id then { row with status := .completed }
    else row
  stage row := row
  assignment row := row

theorem completeStageChange_keepsKeys (observed : ObservedAssignment) :
    (completeStageChange observed).KeepsKeys := by
  constructor <;> intro row <;> simp only [completeStageChange] <;> split <;>
    rfl

variable (observed : ObservedAssignment)

theorem completeRolloutChange_keepsKeys
    (assignments : List RunnerReleaseRolloutAssignment) :
    (completeRolloutChange observed assignments).KeepsKeys := by
  constructor <;> intro row <;> simp only [completeRolloutChange] <;> split <;>
    rfl

theorem completeStageRows_changedBy
    (db : Database Trail) :
    ChangedBy (completeStageChange observed) db
      (completeStageRows observed db) := by
  constructor
  case stages =>
    simp only [completeStageRows, updateMany, completeStageChange,
      decide_eq_true_eq]
  all_goals exact (List.map_id _).symm

theorem completeRolloutRows_changedBy
    (db : Database Trail) :
    ChangedBy (completeRolloutChange observed db.assignments) db
      (completeRolloutRows observed db) := by
  constructor
  case rollouts =>
    simp only [completeRolloutRows, updateMany, completeRolloutChange,
      decide_eq_true_eq]
  case runners =>
    simp only [completeRolloutRows, updateMany, completeRolloutChange,
      desiresOf, List.any_eq_true, List.mem_filter, decide_eq_true_eq,
      and_assoc]
  all_goals exact (List.map_id _).symm

/-- What is left to do after a convergence. -/
theorem completeRows_cases
    (db : Database Trail) :
    completeRows observed db = db ∨
      (∀ assignment ∈ db.assignments,
        assignment.stageId = observed.stage.id →
        assignment.status = .converged) ∧
        (completeRows observed db = completeStageRows observed db ∨
          (∀ stage ∈ (completeStageRows observed db).stages,
            stage.rolloutId = observed.rollout.id →
            stage.status = .completed) ∧
            completeRows observed db =
              completeRolloutRows observed (completeStageRows observed db)) := by
  rw [completeRows]
  split
  case isFalse => exact Or.inl rfl
  case isTrue allConverged =>
    refine Or.inr ⟨?_, ?_⟩
    · simpa using allConverged
    · dsimp only
      split
      case isFalse => exact Or.inl rfl
      case isTrue allCompleted =>
        refine Or.inr ⟨?_, rfl⟩
        simpa [completeStageRows] using allCompleted

theorem completeStageRows_invariant
    {observed : ObservedAssignment}
    {db : Database Trail}
    (allConverged :
      ∀ assignment ∈ db.assignments,
        assignment.stageId = observed.stage.id →
        assignment.status = .converged)
    (invariant : Invariant db) :
    Invariant (completeStageRows observed db) := by
  obtain ⟨keys, ownership, progress⟩ := invariant
  have changedBy := completeStageRows_changedBy observed db
  have keeps := completeStageChange_keepsKeys observed
  -- A stage with another status than `completed` was not the observed one.
  have stageWas
      {row : RunnerReleaseRolloutStage}
      (notCompleted :
        ((completeStageChange observed).stage row).status ≠ .completed) :
      (completeStageChange observed).stage row = row := by
    simp only [completeStageChange] at notCompleted ⊢
    split
    case isTrue isId => simp [isId] at notCompleted
    case isFalse => rfl
  refine ⟨keys.changedBy keeps changedBy, ?_, ?_⟩
  · exact ⟨ownership.desired, ownership.assigned⟩
  · constructor
    case pending =>
      rw [changedBy.stages]
      simp only [List.forall_mem_map, keeps.stage]
      intro row isRow isPending
      rw [stageWas (by simp [isPending])] at isPending
      exact progress.pending row isRow isPending
    case completed =>
      rw [changedBy.stages]
      simp only [List.forall_mem_map, keeps.stage]
      intro row isRow isCompleted
      by_cases isId : row.id = observed.stage.id
      · rw [isId]
        exact allConverged
      · simp only [completeStageChange, isId, if_false] at isCompleted
        exact progress.completed row isRow isCompleted
    case cancelled =>
      rw [changedBy.stages]
      simp only [List.forall_mem_map, keeps.stageRollout]
      intro row isRow isCancelled
      rw [stageWas (by simp [isCancelled])] at isCancelled
      exact progress.cancelled row isRow isCancelled
    case reviewed =>
      rw [changedBy.stages]
      simp only [List.forall_mem_map, keeps.stageRollout]
      intro row isRow isReviewed
      rw [stageWas (by simp [isReviewed])] at isReviewed
      exact progress.reviewed row isRow isReviewed
    case unreviewed => exact progress.unreviewed

/-- Completing a rollout all of whose stages are completed. -/
theorem completeRolloutRows_invariant
    {observed : ObservedAssignment}
    {db : Database Trail}
    (isRollout : observed.rollout ∈ db.rollouts)
    (isLive : observed.rollout.status.IsLive)
    (allCompleted :
      ∀ stage ∈ db.stages,
        stage.rolloutId = observed.rollout.id → stage.status = .completed)
    (invariant : Invariant db) :
    Invariant (completeRolloutRows observed db) := by
  obtain ⟨keys, ownership, progress⟩ := invariant
  have changedBy := completeRolloutRows_changedBy observed db
  have keeps := completeRolloutChange_keepsKeys observed db.assignments
  have rolloutWas
      {row : RunnerReleaseRollout}
      (notObserved : row.id ≠ observed.rollout.id) :
      (completeRolloutChange observed db.assignments).rollout row = row := by
    simp only [completeRolloutChange, notObserved, if_false]
  refine ⟨keys.changedBy keeps changedBy, ?_, ?_⟩
  · constructor
    case desired =>
      rw [changedBy.runners, changedBy.rollouts]
      simp only [List.forall_mem_map, exists_mem_map, keeps.runner,
        keeps.rollout, keeps.target]
      intro runner isRunner assignmentId isDesired
      simp only [completeRolloutChange] at isDesired ⊢
      split at isDesired
      case isTrue => cases isDesired
      case isFalse notOf =>
        obtain ⟨assignment, isAssignment, rfl, ofRunner, row, isRow, ofRow,
          wasLive, isTarget⟩ :=
          ownership.desired runner isRunner assignmentId isDesired
        have notObserved : row.id ≠ observed.rollout.id := by
          intro isObserved
          exact notOf
            ⟨assignment, isAssignment, ofRow.symm.trans isObserved, isDesired⟩
        refine ⟨assignment, isAssignment, rfl, ofRunner, row, isRow, ofRow, ?_,
          ?_⟩
        · rw [if_neg notObserved]
          exact wasLive
        · rw [if_neg notOf]
          exact isTarget
    case assigned =>
      rw [changedBy.runners]
      simp only [exists_mem_map, keeps.runner]
      intro assignment isAssignment isAssigned
      obtain ⟨runner, isRunner, isId, isDesired⟩ :=
        ownership.assigned assignment isAssignment isAssigned
      refine ⟨runner, isRunner, isId, ?_⟩
      simp only [completeRolloutChange]
      split
      case isFalse => exact isDesired
      case isTrue isOf =>
        -- An assigned target has not converged: its stage is not completed.
        obtain ⟨other, isOther, ofRollout, isDesired'⟩ := isOf
        have sameId : other.id = assignment.id :=
          Option.some.inj (isDesired'.symm.trans isDesired)
        obtain rfl :=
          eq_of_key keys.assignmentIds isOther isAssignment sameId
        obtain ⟨stage, isStage, isStageId, sameRollout⟩ :=
          keys.assignmentStage other isOther
        have isCompleted :=
          allCompleted stage isStage (sameRollout.trans ofRollout)
        have hasConverged :=
          progress.completed stage isStage isCompleted other isOther
            isStageId.symm
        rw [isAssigned] at hasConverged
        cases hasConverged
  · constructor
    case pending => exact progress.pending
    case completed => exact progress.completed
    case cancelled =>
      rw [changedBy.rollouts]
      simp only [List.forall_mem_map, keeps.rollout]
      intro stage isStage isCancelled row isRow ofRow
      have wasCancelled :=
        progress.cancelled stage isStage isCancelled row isRow ofRow
      by_cases isId : row.id = observed.rollout.id
      · obtain rfl := eq_of_key keys.rolloutIds isRow isRollout isId
        exact absurd wasCancelled isLive.2
      · rw [rolloutWas isId]
        exact wasCancelled
    case reviewed =>
      rw [changedBy.rollouts]
      simp only [List.forall_mem_map, keeps.rollout]
      intro stage isStage isReviewed row isRow ofRow
      have wasReviewed :=
        progress.reviewed stage isStage isReviewed row isRow ofRow
      simp only [completeRolloutChange]
      split
      · exact wasReviewed
      · exact wasReviewed
    case unreviewed =>
      rw [changedBy.rollouts]
      simp only [List.forall_mem_map]
      intro row isRow
      simp only [completeRolloutChange]
      split
      · simp
      · exact progress.unreviewed row isRow

theorem completeRows_invariant
    {observed : ObservedAssignment}
    {db : Database Trail}
    (isRollout : observed.rollout ∈ db.rollouts)
    (isLive : observed.rollout.status.IsLive)
    (invariant : Invariant db) :
    Invariant (completeRows observed db) := by
  rcases completeRows_cases observed db with
    same | ⟨allConverged, same | ⟨allCompleted, same⟩⟩
  · rw [same]
    exact invariant
  · rw [same]
    exact completeStageRows_invariant allConverged invariant
  · rw [same]
    exact completeRolloutRows_invariant isRollout isLive allCompleted
      (completeStageRows_invariant allConverged invariant)

variable {observed : ObservedAssignment} {input : Heartbeat}

theorem ObservedAssignment.In.observable
    {db : Database Trail}
    (isIn : observed.In db)
    (invariant : Invariant db)
    {status : RunnerRolloutAssignmentStatus}
    (notAssigned : status ≠ .targetAssigned)
    (notPending : observed.assignment.status ≠ .pending)
    (converges : observed.stage.status = .completed → status = .converged) :
    Observable observed status db := by
  refine Or.inr ⟨notAssigned, ?_⟩
  intro stage isStage isId
  obtain rfl :=
    eq_of_key invariant.keys.stageIds isStage isIn.isStage
      (isId.trans isIn.ofStage)
  refine ⟨?_, converges⟩
  intro isPending
  exact notPending
    (invariant.progress.pending _ isIn.isStage isPending _ isIn.isAssignment
      isIn.ofStage)

/-- What was observed is written while the stage is in review. -/
theorem review_invariant
    (reason : RunnerRolloutReviewReason)
    {status : RunnerRolloutAssignmentStatus}
    (actualVersion : JsString)
    {db : Database Trail}
    (isIn : observed.In db)
    (wasConverged : observed.assignment.status = .converged)
    (notAssigned : status ≠ .targetAssigned)
    (invariant : Invariant db) :
    Invariant
      (reviewRows observed reason
        (observeRow observed status actualVersion db)) := by
  have reviewed := reviewRows_invariant reason isIn invariant
  have inReview :
      Observable observed status (reviewRows observed reason db) := by
    refine Or.inr ⟨notAssigned, ?_⟩
    intro stage isStage isId
    refine ⟨?_, ?_⟩
    · intro isPending
      have wasPending :=
        reviewed.progress.pending stage isStage isPending _ isIn.isAssignment
          isId.symm
      rw [wasConverged] at wasPending
      cases wasPending
    · intro isCompleted
      rw [(reviewRows_changedBy observed reason db).stages] at isStage
      obtain ⟨row, isRow, rfl⟩ := List.mem_map.mp isStage
      rw [(reviewChange_keepsKeys observed reason).stage,
        isIn.ofStage] at isId
      simp [reviewChange, isId] at isCompleted
  exact
    @observeRow_invariant _ _ _ actualVersion (reviewRows observed reason db)
      isIn.isAssignment inReview reviewed

theorem Observed.invariant
    {observed : ObservedAssignment}
    {db db' : Database Trail}
    (taken : Observed append input observed db db')
    (isIn : observed.In db)
    (invariant : Invariant db) :
    Invariant db' := by
  cases taken with
  | unchanged rows =>
      exact rows.invariant
        (observeRow_invariant _ isIn.isAssignment (Or.inl rfl) invariant)
  | converged was isTarget rows isAudited =>
      have observable : Observable observed .converged db :=
        isIn.observable invariant nofun (by rw [was]; exact nofun)
          fun _ => rfl
      have converged :=
        observeRow_invariant input.runnerVersion isIn.isAssignment observable
          invariant
      exact rows.invariant
        (completeRows_invariant isIn.isRollout isIn.isLive converged)
  | rolledBack was notTarget isBaseline rows =>
      exact rows.invariant (review_invariant _ _ isIn was nofun invariant)
  | failed was notTarget notBaseline rows =>
      exact rows.invariant (review_invariant _ _ isIn was nofun invariant)

/-- A report changes no row that an assignment is of. -/
theorem ObservedAssignment.In.reported
    {db reported : Database Trail}
    (rows : SameRows (input.reportRows db) reported)
    (isIn : observed.In db) :
    observed.In reported := by
  obtain ⟨isAssignment, isStage, isRollout, ofStage, stageOf, assignmentOf,
    isLive⟩ := isIn
  exact
    ⟨rows.assignments ▸ isAssignment, rows.stages ▸ isStage,
      rows.rollouts ▸ isRollout, ofStage, stageOf, assignmentOf, isLive⟩

theorem HeartbeatTaken.invariant
    {device : RunnerDevice}
    {db db' : Database Trail}
    (taken : HeartbeatTaken append input device db db')
    (invariant : Invariant db) :
    Invariant db' := by
  have reportedInvariant := reportRows_invariant input invariant
  rcases taken.rows with
    ⟨-, rows⟩ | ⟨observed, reported, isObserved, rows, isTaken⟩
  · exact rows.invariant reportedInvariant
  · have isIn :=
      (desiredAssignment_in invariant taken.isDevice isObserved).1
    exact isTaken.invariant (isIn.reported rows)
      (rows.invariant reportedInvariant)

end TaskTwin.Rollout
