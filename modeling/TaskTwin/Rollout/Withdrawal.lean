import TaskTwin.Rollout.Preservation

/-!
# Pausing, cancelling and blocking keep the invariant
-/

namespace TaskTwin.Rollout

open Text Store

variable {Trail : Type} {append : Trail → JsValue → Option Trail}

/-- A rollout with a new status. -/
def statusChange
    (rollout : RunnerReleaseRollout)
    (status : RunnerRolloutStatus) :
    RowChange where
  release row := row
  runner row := row
  rollout row := if row.id = rollout.id then { row with status } else row
  stage row := row
  assignment row := row

theorem statusChange_keepsKeys
    (rollout : RunnerReleaseRollout)
    (status : RunnerRolloutStatus) :
    (statusChange rollout status).KeepsKeys := by
  constructor <;> intro row <;> simp only [statusChange] <;> split <;> rfl

theorem RolloutChanged.changedBy
    {action : RolloutAction}
    {rollout : RunnerReleaseRollout}
    {db db' : Database Trail}
    (changed : RolloutChanged append action rollout db db')
    (notCancel : action ≠ .cancel) :
    ChangedBy (statusChange rollout action.next) db db' := by
  have rows := changed.rows
  rw [if_neg notCancel] at rows
  constructor
  · rw [rows.releases]
    exact (List.map_id _).symm
  · rw [rows.runners]
    exact (List.map_id _).symm
  · rw [rows.rollouts, updateMany]
    simp only [statusChange, decide_eq_true_eq]
  · rw [rows.stages]
    exact (List.map_id _).symm
  · rw [rows.assignments]
    exact (List.map_id _).symm

/-- Activating or pausing a rollout keeps the invariant. -/
theorem RolloutChanged.invariant_of_notCancel
    {action : RolloutAction}
    {rollout : RunnerReleaseRollout}
    {db db' : Database Trail}
    (changed : RolloutChanged append action rollout db db')
    (notCancel : action ≠ .cancel)
    (invariant : Invariant db) :
    Invariant db' := by
  obtain ⟨keys, ownership, progress⟩ := invariant
  have changedBy := changed.changedBy notCancel
  have keeps := statusChange_keepsKeys rollout action.next
  have isLive : action.next.IsLive := by
    cases action
    case cancel => exact absurd rfl notCancel
    all_goals exact ⟨nofun, nofun⟩
  have eqRollout
      {row : RunnerReleaseRollout}
      (isRow : row ∈ db.rollouts)
      (isId : row.id = rollout.id) :
      row = rollout :=
    eq_of_key keys.rolloutIds isRow changed.isRollout isId
  refine ⟨keys.changedBy keeps changedBy, ?_, ?_⟩
  · constructor
    case desired =>
      rw [changedBy.runners, changedBy.assignments, changedBy.rollouts]
      simp only [List.forall_mem_map, exists_mem_map, keeps.rollout,
        keeps.target]
      intro runner isRunner assignmentId isDesired
      obtain ⟨assignment, isAssignment, isId, ofRunner, row, isRow, ofRow,
        wasLive, isTarget⟩ :=
        ownership.desired runner isRunner assignmentId isDesired
      refine ⟨assignment, isAssignment, isId, ofRunner, row, isRow, ofRow, ?_,
        isTarget⟩
      simp only [statusChange]
      split
      · exact isLive
      · exact wasLive
    case assigned =>
      rw [changedBy.runners, changedBy.assignments]
      simp only [List.forall_mem_map, exists_mem_map]
      exact ownership.assigned
  · constructor
    case pending =>
      rw [changedBy.stages, changedBy.assignments]
      simp only [List.forall_mem_map]
      exact progress.pending
    case completed =>
      rw [changedBy.stages, changedBy.assignments]
      simp only [List.forall_mem_map]
      exact progress.completed
    case cancelled =>
      rw [changedBy.stages, changedBy.rollouts]
      simp only [List.forall_mem_map, keeps.rollout]
      intro stage isStage isCancelled row isRow ofRow
      have wasCancelled :=
        progress.cancelled stage isStage isCancelled row isRow ofRow
      simp only [statusChange]
      split
      case isTrue isId =>
        have permitted := changed.permitted
        rw [← eqRollout isRow isId, wasCancelled] at permitted
        cases action
        case cancel => exact absurd rfl notCancel
        all_goals simp [permitsTransition, RolloutAction.next,
          rolloutTransitions] at permitted
      case isFalse => exact wasCancelled
    case reviewed =>
      rw [changedBy.stages, changedBy.rollouts]
      simp only [List.forall_mem_map, keeps.rollout]
      intro stage isStage isReviewed row isRow ofRow
      have wasReviewed :=
        progress.reviewed stage isStage isReviewed row isRow ofRow
      simp only [statusChange]
      split <;> exact wasReviewed
    case unreviewed =>
      rw [changedBy.rollouts]
      simp only [List.forall_mem_map]
      intro row isRow
      simp only [statusChange]
      split
      case isTrue isId =>
        intro isOpen
        cases action
        case cancel => exact absurd rfl notCancel
        case activate =>
          rw [eqRollout isRow isId]
          exact changed.unreviewed rfl
        case pause => simp [RolloutAction.next] at isOpen
      case isFalse => exact progress.unreviewed row isRow

/-- What the loops of a cancellation make of a runner. -/
def releaseRunner :
    List RunnerReleaseRolloutAssignment → RunnerDevice → RunnerDevice :=
  changeEach
    (fun assignment runner =>
      runner.id = assignment.runnerDeviceId &&
        runner.desiredRolloutAssignmentId = some assignment.id)
    fun assignment runner =>
      { runner with
        desiredRolloutAssignmentId := none
        desiredReleaseId :=
          if assignment.status = .converged then runner.desiredReleaseId
          else none }

/-- A runner is released of an assignment that it desires, or left alone. -/
theorem releaseRunner_cases
    (assignments : List RunnerReleaseRolloutAssignment)
    (runner : RunnerDevice) :
    ((∀ assignment ∈ assignments,
        runner.id = assignment.runnerDeviceId →
        runner.desiredRolloutAssignmentId ≠ some assignment.id) ∧
        releaseRunner assignments runner = runner) ∨
      ∃ assignment ∈ assignments,
        runner.desiredRolloutAssignmentId = some assignment.id ∧
          (releaseRunner assignments runner).id = runner.id ∧
          (releaseRunner assignments runner).desiredRolloutAssignmentId =
            none := by
  have cases :=
    changeEach_cases
      (fun
          (assignment : RunnerReleaseRolloutAssignment)
          (runner : RunnerDevice) =>
        runner.id = assignment.runnerDeviceId &&
          runner.desiredRolloutAssignmentId = some assignment.id)
      (fun assignment runner =>
        { runner with
          desiredRolloutAssignmentId := none
          desiredReleaseId :=
            if assignment.status = .converged then runner.desiredReleaseId
            else none })
      (by simp) (by simp) assignments runner
  rcases cases with ⟨none, unchanged⟩ | ⟨assignment, listed, applied, changed⟩
  · refine Or.inl ⟨?_, unchanged⟩
    intro assignment listed ofRunner isDesired
    have notApplied := none assignment listed
    simp [ofRunner, isDesired] at notApplied
  · refine Or.inr ⟨assignment, listed, ?_, ?_⟩
    · simp only [Bool.and_eq_true, decide_eq_true_eq] at applied
      exact applied.2
    · exact ⟨by rw [releaseRunner, changed], by rw [releaseRunner, changed]⟩

def cancelChange
    (rollout : RunnerReleaseRollout)
    (assignments : List RunnerReleaseRolloutAssignment) :
    RowChange where
  release row := row
  runner row :=
    releaseRunner (assignments.filter fun row => !isCancellable row)
      (releaseRunner (assignments.filter isCancellable) row)
  rollout row :=
    if row.id = rollout.id then { row with status := .cancelled } else row
  stage row :=
    if row.rolloutId = rollout.id &&
        (row.status = .pending || row.status = .active ||
          row.status = .failedReview) then
      { row with status := .cancelled }
    else
      row
  assignment row :=
    if row.rolloutId = rollout.id && isCancellable row then
      { row with status := .cancelled }
    else
      row

/-- A runner is released of an assignment of the rollout, or none of the
rollout's is its desire. -/
theorem cancelChange_runner
    (rollout : RunnerReleaseRollout)
    (assignments : List RunnerReleaseRolloutAssignment)
    (runner : RunnerDevice) :
    ((∀ assignment ∈ assignments,
        runner.id = assignment.runnerDeviceId →
        runner.desiredRolloutAssignmentId ≠ some assignment.id) ∧
        (cancelChange rollout assignments).runner runner = runner) ∨
      ((cancelChange rollout assignments).runner runner).id = runner.id ∧
        ((cancelChange rollout
          assignments).runner runner).desiredRolloutAssignmentId = none ∧
        ∃ assignment ∈ assignments,
          runner.desiredRolloutAssignmentId = some assignment.id := by
  simp only [cancelChange]
  rcases releaseRunner_cases (assignments.filter isCancellable) runner with
    ⟨noneCancellable, unchanged⟩ | ⟨assignment, listed, desired, isId, isFree⟩
  · rw [unchanged]
    rcases releaseRunner_cases
        (assignments.filter fun row => !isCancellable row) runner with
      ⟨noneOther, unchanged'⟩ | ⟨assignment, listed, desired, isId, isFree⟩
    · refine Or.inl ⟨?_, unchanged'⟩
      intro assignment listed
      cases isKind : isCancellable assignment with
      | true =>
          exact noneCancellable assignment
            (List.mem_filter.mpr ⟨listed, isKind⟩)
      | false =>
          exact noneOther assignment
            (List.mem_filter.mpr ⟨listed, by simp [isKind]⟩)
    · exact Or.inr
        ⟨isId, isFree, assignment, (List.mem_filter.mp listed).1, desired⟩
  · -- Once released, a runner desires nothing that could be taken again.
    have settled :
        releaseRunner (assignments.filter fun row => !isCancellable row)
            (releaseRunner (assignments.filter isCancellable) runner) =
          releaseRunner (assignments.filter isCancellable) runner := by
      rcases releaseRunner_cases
          (assignments.filter fun row => !isCancellable row)
          (releaseRunner (assignments.filter isCancellable) runner) with
        ⟨-, unchanged⟩ | ⟨other, -, desired', -⟩
      · exact unchanged
      · rw [isFree] at desired'
        cases desired'
    rw [settled]
    exact Or.inr
      ⟨isId, isFree, assignment, (List.mem_filter.mp listed).1, desired⟩

theorem cancelChange_keepsKeys
    (rollout : RunnerReleaseRollout)
    (assignments : List RunnerReleaseRolloutAssignment) :
    (cancelChange rollout assignments).KeepsKeys := by
  constructor
  case release => exact fun _ => rfl
  case runner =>
    intro runner
    rcases cancelChange_runner rollout assignments runner with
      ⟨-, unchanged⟩ | ⟨isId, -⟩
    · rw [unchanged]
    · exact isId
  all_goals
    intro row
    simp only [cancelChange]
    split <;> rfl

variable {rollout : RunnerReleaseRollout} {db db' : Database Trail}

theorem RolloutChanged.cancelledBy
    (changed : RolloutChanged append .cancel rollout db db') :
    ChangedBy
      (cancelChange rollout
        (db.assignments.filter fun row => row.rolloutId = rollout.id))
      db db' := by
  have rows := changed.rows
  rw [if_pos rfl] at rows
  constructor
  · rw [rows.releases]
    exact (List.map_id _).symm
  · rw [rows.runners]
    refine (foldl_updateMany _ _ _ _).trans ?_
    rw [show releaseRunners
          ((db.assignments.filter fun row => row.rolloutId = rollout.id).filter
            isCancellable)
          db.runners =
        db.runners.map
          (releaseRunner
            ((db.assignments.filter
              fun row => row.rolloutId = rollout.id).filter isCancellable))
      from foldl_updateMany _ _ _ _, List.map_map]
    rfl
  · rw [rows.rollouts, updateMany]
    simp only [cancelChange, decide_eq_true_eq, RolloutAction.next]
  · rw [rows.stages]
    rfl
  · rw [rows.assignments]
    rfl

/-- Cancelling a rollout keeps the invariant. -/
theorem RolloutChanged.invariant_of_cancel
    (changed : RolloutChanged append .cancel rollout db db')
    (invariant : Invariant db) :
    Invariant db' := by
  obtain ⟨keys, ownership, progress⟩ := invariant
  have changedBy := changed.cancelledBy
  have keeps :=
    cancelChange_keepsKeys rollout
      (db.assignments.filter fun row => row.rolloutId = rollout.id)
  have mem_ofRollout (row : RunnerReleaseRolloutAssignment) :
      row ∈ db.assignments.filter (fun row => row.rolloutId = rollout.id) ↔
        row ∈ db.assignments ∧ row.rolloutId = rollout.id := by
    simp
  generalize db.assignments.filter (fun row => row.rolloutId = rollout.id) =
    assignments at changedBy keeps mem_ofRollout
  refine ⟨keys.changedBy keeps changedBy, ?_, ?_⟩
  · constructor
    case desired =>
      rw [changedBy.runners, changedBy.assignments, changedBy.rollouts]
      simp only [List.forall_mem_map, exists_mem_map, keeps.assignment,
        keeps.assignmentRunner, keeps.assignmentRollout, keeps.rollout,
        keeps.target, keeps.runner]
      intro runner isRunner assignmentId isDesired
      rcases cancelChange_runner rollout assignments runner with
        ⟨noneDesired, unchanged⟩ | ⟨-, isFree, -⟩
      · rw [unchanged] at isDesired ⊢
        obtain ⟨assignment, isAssignment, isId, ofRunner, row, isRow, ofRow,
          wasLive, isTarget⟩ :=
          ownership.desired runner isRunner assignmentId isDesired
        refine ⟨assignment, isAssignment, isId, ofRunner, row, isRow, ofRow,
          ?_, isTarget⟩
        have otherRollout : row.id ≠ rollout.id := by
          intro isRollout
          exact noneDesired assignment
            ((mem_ofRollout assignment).mpr
              ⟨isAssignment, ofRow.symm.trans isRollout⟩)
            ofRunner.symm (isId ▸ isDesired)
        simpa only [cancelChange, otherRollout, if_false] using wasLive
      · rw [isFree] at isDesired
        cases isDesired
    case assigned =>
      rw [changedBy.runners, changedBy.assignments]
      simp only [List.forall_mem_map, exists_mem_map, keeps.assignment,
        keeps.assignmentRunner, keeps.runner]
      intro assignment isAssignment isAssigned
      simp only [cancelChange] at isAssigned
      split at isAssigned
      case isTrue => cases isAssigned
      case isFalse notCancelled =>
        have otherRollout : assignment.rolloutId ≠ rollout.id := by
          intro ofRollout
          simp [ofRollout, isCancellable, isAssigned] at notCancelled
        obtain ⟨runner, isRunner, isId, isDesired⟩ :=
          ownership.assigned assignment isAssignment isAssigned
        refine ⟨runner, isRunner, isId, ?_⟩
        rcases cancelChange_runner rollout assignments runner with
          ⟨-, unchanged⟩ | ⟨-, -, other, isOther, isDesired'⟩
        · rw [unchanged]
          exact isDesired
        · obtain ⟨isOther, ofRollout⟩ := (mem_ofRollout other).mp isOther
          have sameId : assignment.id = other.id :=
            Option.some.inj (isDesired.symm.trans isDesired')
          obtain rfl :=
            eq_of_key keys.assignmentIds isAssignment isOther sameId
          exact absurd ofRollout otherRollout
  · constructor
    case pending =>
      rw [changedBy.stages, changedBy.assignments]
      simp only [List.forall_mem_map, keeps.assignmentStage, keeps.stage]
      intro stage isStage isPending assignment isAssignment ofStage
      simp only [cancelChange] at isPending ⊢
      split at isPending
      case isTrue => cases isPending
      case isFalse notCancelled =>
        have otherRollout : assignment.rolloutId ≠ rollout.id := by
          intro ofRollout
          rw [keys.rollout_of_stage isAssignment isStage ofStage] at ofRollout
          simp [ofRollout, isPending] at notCancelled
        simp only [otherRollout, decide_false, Bool.false_and, if_false,
          Bool.false_eq_true]
        exact progress.pending stage isStage isPending assignment isAssignment
          ofStage
    case completed =>
      rw [changedBy.stages, changedBy.assignments]
      simp only [List.forall_mem_map, keeps.assignmentStage, keeps.stage]
      intro stage isStage isCompleted assignment isAssignment ofStage
      simp only [cancelChange] at isCompleted ⊢
      split at isCompleted
      case isTrue => cases isCompleted
      case isFalse =>
        have isConverged :=
          progress.completed stage isStage isCompleted assignment isAssignment
            ofStage
        simp [isCancellable, isConverged]
    case cancelled =>
      rw [changedBy.stages, changedBy.rollouts]
      simp only [List.forall_mem_map, keeps.rollout, keeps.stageRollout]
      intro stage isStage isCancelled row isRow ofRow
      simp only [cancelChange] at isCancelled ⊢
      split
      case isTrue => rfl
      case isFalse otherRollout =>
        split at isCancelled
        case isTrue ofCancelled =>
          simp only [Bool.and_eq_true, decide_eq_true_eq] at ofCancelled
          exact absurd (ofRow.trans ofCancelled.1) otherRollout
        case isFalse =>
          exact progress.cancelled stage isStage isCancelled row isRow ofRow
    case reviewed =>
      rw [changedBy.stages, changedBy.rollouts]
      simp only [List.forall_mem_map, keeps.rollout, keeps.stageRollout]
      intro stage isStage isReviewed row isRow ofRow
      simp only [cancelChange] at isReviewed ⊢
      split at isReviewed
      case isTrue => cases isReviewed
      case isFalse =>
        have wasReviewed :=
          progress.reviewed stage isStage isReviewed row isRow ofRow
        split <;> exact wasReviewed
    case unreviewed =>
      rw [changedBy.rollouts]
      simp only [List.forall_mem_map]
      intro row isRow
      simp only [cancelChange]
      split
      case isTrue => simp
      case isFalse => exact progress.unreviewed row isRow

theorem RolloutChanged.invariant
    {action : RolloutAction}
    {rollout : RunnerReleaseRollout}
    {db db' : Database Trail}
    (changed : RolloutChanged append action rollout db db')
    (invariant : Invariant db) :
    Invariant db' := by
  by_cases isCancel : action = .cancel
  · subst isCancel
    exact changed.invariant_of_cancel invariant
  · exact changed.invariant_of_notCancel isCancel invariant

def blockRolloutRow :
    List RunnerReleaseRollout → RunnerReleaseRollout → RunnerReleaseRollout :=
  changeEach (fun rollout row => row.id = rollout.id) fun _ row =>
    { row with status := .paused, reviewReason := some .targetReleaseBlocked }

def blockStageRow :
    List RunnerReleaseRollout →
    RunnerReleaseRolloutStage →
    RunnerReleaseRolloutStage :=
  changeEach
    (fun rollout stage =>
      stage.rolloutId = rollout.id && stage.status = .active)
    fun _ stage =>
      { stage with
        status := .failedReview
        reviewReason := some .targetReleaseBlocked }

theorem blockRolloutRow_cases
    (affected : List RunnerReleaseRollout)
    (row : RunnerReleaseRollout) :
    ((∀ rollout ∈ affected, row.id ≠ rollout.id) ∧
        blockRolloutRow affected row = row) ∨
      ∃ rollout ∈ affected,
        row.id = rollout.id ∧
          blockRolloutRow affected row =
            { row with
              status := .paused
              reviewReason := some .targetReleaseBlocked } := by
  have cases :=
    changeEach_cases
      (fun (rollout row : RunnerReleaseRollout) =>
        row.id = rollout.id)
      (fun _ row =>
        { row with
          status := RunnerRolloutStatus.paused
          reviewReason := some .targetReleaseBlocked })
      (fun _ _ _ _ again => again) (fun _ _ _ _ _ => rfl) affected row
  simp only [decide_eq_true_eq, decide_eq_false_iff_not] at cases
  exact cases

theorem blockStageRow_cases
    (affected : List RunnerReleaseRollout)
    (stage : RunnerReleaseRolloutStage) :
    blockStageRow affected stage = stage ∨
      ∃ rollout ∈ affected,
        stage.rolloutId = rollout.id ∧
          stage.status = .active ∧
          blockStageRow affected stage =
            { stage with
              status := .failedReview
              reviewReason := some .targetReleaseBlocked } := by
  have cases :=
    changeEach_cases
      (fun
          (rollout : RunnerReleaseRollout)
          (stage : RunnerReleaseRolloutStage) =>
        stage.rolloutId = rollout.id && stage.status = .active)
      (fun _ stage =>
        { stage with
          status := RunnerRolloutStageStatus.failedReview
          reviewReason := some .targetReleaseBlocked })
      (by simp) (by simp) affected stage
  simp only [Bool.and_eq_true, decide_eq_true_eq] at cases
  rcases cases with ⟨-, unchanged⟩ | ⟨rollout, listed, ⟨isId, isActive⟩, same⟩
  · exact Or.inl unchanged
  · exact Or.inr ⟨rollout, listed, isId, isActive, same⟩

def blockChange
    (input : ChangeReleaseStatus)
    (release : RunnerRelease)
    (affected : List RunnerReleaseRollout) :
    RowChange where
  release row :=
    if row.id = release.id then
      { row with
        status := input.nextStatus
        statusReasonCode := some input.reason }
    else
      row
  runner row := row
  rollout := blockRolloutRow affected
  stage := blockStageRow affected
  assignment row := row

theorem blockChange_keepsKeys
    (input : ChangeReleaseStatus)
    (release : RunnerRelease)
    (affected : List RunnerReleaseRollout) :
    (blockChange input release affected).KeepsKeys := by
  constructor
  case release =>
    intro row
    simp only [blockChange]
    split <;> rfl
  case rollout | target =>
    intro row
    simp only [blockChange]
    rcases blockRolloutRow_cases affected row with
      ⟨_, isSame⟩ | ⟨_, _, _, isSame⟩ <;>
      rw [isSame]
  case stage | stageRollout | stageNumber =>
    intro row
    simp only [blockChange]
    rcases blockStageRow_cases affected row with
      isSame | ⟨_, _, _, _, isSame⟩ <;>
      rw [isSame]
  all_goals exact fun _ => rfl

/-- The change of a release's status, with the rollouts that it affects. -/
theorem ReleaseChanged.changedBy
    {input : ChangeReleaseStatus}
    {release : RunnerRelease}
    {db db' : Database Trail}
    (changed : ReleaseChanged append input release db db') :
    ∃ affected,
      (∀ rollout ∈ affected,
        rollout ∈ db.rollouts ∧ rollout.status = .active) ∧
      ChangedBy (blockChange input release affected) db db' := by
  obtain ⟨affected, active, -, rows⟩ := changed.rows
  refine ⟨affected, active, ?_⟩
  constructor
  · rw [rows.releases, updateMany]
    simp only [blockChange, decide_eq_true_eq]
  · rw [rows.runners]
    exact (List.map_id _).symm
  · rw [rows.rollouts]
    exact foldl_updateMany _ _ _ _
  · rw [rows.stages]
    exact foldl_updateMany _ _ _ _
  · rw [rows.assignments]
    exact (List.map_id _).symm

/-- Changing the status of a release keeps the invariant. -/
theorem ReleaseChanged.invariant
    {input : ChangeReleaseStatus}
    {release : RunnerRelease}
    {db db' : Database Trail}
    (changed : ReleaseChanged append input release db db')
    (invariant : Invariant db) :
    Invariant db' := by
  obtain ⟨keys, ownership, progress⟩ := invariant
  obtain ⟨affected, active, changedBy⟩ := changed.changedBy
  have keeps := blockChange_keepsKeys input release affected
  -- A rollout that is paused was active before.
  have wasActive
      {row rollout : RunnerReleaseRollout}
      (isRow : row ∈ db.rollouts)
      (listed : rollout ∈ affected)
      (isId : row.id = rollout.id) :
      row.status = .active := by
    obtain ⟨isRollout, isActive⟩ := active rollout listed
    rw [eq_of_key keys.rolloutIds isRow isRollout isId]
    exact isActive
  refine ⟨keys.changedBy keeps changedBy, ?_, ?_⟩
  · constructor
    case desired =>
      rw [changedBy.runners, changedBy.assignments, changedBy.rollouts]
      simp only [List.forall_mem_map, exists_mem_map, keeps.rollout,
        keeps.target]
      intro runner isRunner assignmentId isDesired
      obtain ⟨assignment, isAssignment, isId, ofRunner, row, isRow, ofRow,
        wasLive, isTarget⟩ :=
        ownership.desired runner isRunner assignmentId isDesired
      refine ⟨assignment, isAssignment, isId, ofRunner, row, isRow, ofRow, ?_,
        isTarget⟩
      simp only [blockChange]
      rcases blockRolloutRow_cases affected row with
        ⟨_, isSame⟩ | ⟨_, _, _, isSame⟩
      · rw [isSame]
        exact wasLive
      · rw [isSame]
        exact ⟨nofun, nofun⟩
    case assigned =>
      rw [changedBy.runners, changedBy.assignments]
      simp only [List.forall_mem_map, exists_mem_map]
      exact ownership.assigned
  · constructor
    case pending =>
      rw [changedBy.stages, changedBy.assignments]
      simp only [List.forall_mem_map, keeps.stage]
      intro stage isStage
      simp only [blockChange]
      rcases blockStageRow_cases affected stage with
        isSame | ⟨_, _, _, _, isSame⟩
      · rw [isSame]
        exact progress.pending stage isStage
      · rw [isSame]
        nofun
    case completed =>
      rw [changedBy.stages, changedBy.assignments]
      simp only [List.forall_mem_map, keeps.stage]
      intro stage isStage
      simp only [blockChange]
      rcases blockStageRow_cases affected stage with
        isSame | ⟨_, _, _, _, isSame⟩
      · rw [isSame]
        exact progress.completed stage isStage
      · rw [isSame]
        nofun
    case cancelled =>
      rw [changedBy.stages, changedBy.rollouts]
      simp only [List.forall_mem_map, keeps.rollout, keeps.stageRollout]
      intro stage isStage isCancelled row isRow ofRow
      simp only [blockChange] at isCancelled ⊢
      rcases blockStageRow_cases affected stage with
        isSame | ⟨_, _, _, _, isSame⟩
      · rw [isSame] at isCancelled
        have wasCancelled :=
          progress.cancelled stage isStage isCancelled row isRow ofRow
        rcases blockRolloutRow_cases affected row with
          ⟨_, isSame'⟩ | ⟨rollout, listed, isId, -⟩
        · rw [isSame']
          exact wasCancelled
        · rw [wasActive isRow listed isId] at wasCancelled
          cases wasCancelled
      · rw [isSame] at isCancelled
        cases isCancelled
    case reviewed =>
      rw [changedBy.stages, changedBy.rollouts]
      simp only [List.forall_mem_map, keeps.rollout, keeps.stageRollout]
      intro stage isStage isReviewed row isRow ofRow
      simp only [blockChange] at isReviewed ⊢
      rcases blockRolloutRow_cases affected row with
        ⟨notAffected, isSame⟩ | ⟨_, _, _, isSame⟩
      · rw [isSame]
        rcases blockStageRow_cases affected stage with
          isSame' | ⟨rollout, listed, ofRollout, -, -⟩
        · rw [isSame'] at isReviewed
          exact progress.reviewed stage isStage isReviewed row isRow ofRow
        · exact absurd (ofRow.trans ofRollout) (notAffected rollout listed)
      · rw [isSame]
        nofun
    case unreviewed =>
      rw [changedBy.rollouts]
      simp only [List.forall_mem_map]
      intro row isRow
      simp only [blockChange]
      rcases blockRolloutRow_cases affected row with
        ⟨_, isSame⟩ | ⟨_, _, _, isSame⟩
      · rw [isSame]
        exact progress.unreviewed row isRow
      · rw [isSame]
        simp

end TaskTwin.Rollout
