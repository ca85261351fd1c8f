import TaskTwin.Rollout.Runs

/-!
# Changes of status

Most statuses are written without a look at the tables of transitions.  Which
changes the tables permit, of one operation and of a run.
-/

namespace TaskTwin.Rollout

open Text Audit Store

variable {Trail : Type} {append : Trail → JsValue → Option Trail}

/-- Every row of the tables before has a status after that its table permits;
no rollout in pause or in review is completed. -/
structure PermittedChanges (db db' : Database Trail) : Prop where
  rollout :
    ∀ before ∈ db.rollouts, ∀ after ∈ db'.rollouts,
      after.id = before.id →
      permitsTransition rolloutTransitions before.status after.status = true
  stage :
    ∀ before ∈ db.stages, ∀ after ∈ db'.stages,
      after.id = before.id →
      permitsTransition stageTransitions before.status after.status = true
  assignment :
    ∀ before ∈ db.assignments, ∀ after ∈ db'.assignments,
      after.id = before.id →
      permitsTransition assignmentTransitions before.status after.status =
        true
  review :
    ∀ before ∈ db.rollouts, ∀ after ∈ db'.rollouts,
      after.id = before.id →
      before.status = .paused ∨ before.reviewReason ≠ none →
      after.status = .completed →
      before.status = .completed

/-- A change that makes of each row in the tables a permitted one. -/
structure RowChange.Permitted
    (change : RowChange)
    (db : Database Trail) :
    Prop where
  rollout :
    ∀ row ∈ db.rollouts,
      permitsTransition rolloutTransitions row.status
        (change.rollout row).status =
        true
  stage :
    ∀ row ∈ db.stages,
      permitsTransition stageTransitions row.status (change.stage row).status =
        true
  assignment :
    ∀ row ∈ db.assignments,
      permitsTransition assignmentTransitions row.status
        (change.assignment row).status =
        true

theorem permitsTransition_refl
    {α : Type}
    [DecidableEq α]
    (transitions : α → List α)
    (status : α) :
    permitsTransition transitions status status = true := by
  simp [permitsTransition]

/-- A rollout in pause or in review is not active, so it is not completed. -/
theorem review_of_permitted
    {db : Database Trail}
    (progress : Progress db)
    {before : RunnerReleaseRollout}
    (isRollout : before ∈ db.rollouts)
    {after : RunnerRolloutStatus}
    (permitted :
      permitsTransition rolloutTransitions before.status after = true)
    (inReview : before.status = .paused ∨ before.reviewReason ≠ none)
    (isCompleted : after = .completed) :
    before.status = .completed := by
  subst isCompleted
  have unreviewed := progress.unreviewed before isRollout
  cases was : before.status with
  | completed => rfl
  | active =>
      rcases inReview with isPaused | reviewed
      · rw [was] at isPaused
        cases isPaused
      · exact absurd (unreviewed (Or.inr was)) reviewed
  | draft | paused | cancelled =>
      rw [was] at permitted
      simp [permitsTransition, rolloutTransitions] at permitted

theorem ChangedBy.permitted
    {change : RowChange}
    {db db' : Database Trail}
    (invariant : Invariant db)
    (keeps : change.KeepsKeys)
    (changed : ChangedBy change db db')
    (permitted : change.Permitted db) :
    PermittedChanges db db' := by
  obtain ⟨keys, -, progress⟩ := invariant
  have isRollout
      {before after : RunnerReleaseRollout}
      (isBefore : before ∈ db.rollouts)
      (isAfter : after ∈ db'.rollouts)
      (isId : after.id = before.id) :
      after = change.rollout before := by
    rw [changed.rollouts] at isAfter
    exact eq_change_of_key keeps.rollout keys.rolloutIds isBefore isAfter isId
  constructor
  case rollout =>
    intro before isBefore after isAfter isId
    rw [isRollout isBefore isAfter isId]
    exact permitted.rollout before isBefore
  case stage =>
    intro before isBefore after isAfter isId
    rw [changed.stages] at isAfter
    rw [eq_change_of_key keeps.stage keys.stageIds isBefore isAfter isId]
    exact permitted.stage before isBefore
  case assignment =>
    intro before isBefore after isAfter isId
    rw [changed.assignments] at isAfter
    rw [eq_change_of_key keeps.assignment keys.assignmentIds isBefore isAfter
      isId]
    exact permitted.assignment before isBefore
  case review =>
    intro before isBefore after isAfter isId inReview isCompleted
    rw [isRollout isBefore isAfter isId] at isCompleted
    exact
      review_of_permitted progress isBefore (permitted.rollout before isBefore)
        inReview isCompleted

def keepRows : RowChange where
  release row := row
  runner row := row
  rollout row := row
  stage row := row
  assignment row := row

theorem keepRows_permitted (db : Database Trail) :
    keepRows.Permitted db := by
  constructor <;> exact fun row _ => permitsTransition_refl _ row.status

theorem PermittedChanges.refl
    {db : Database Trail}
    (invariant : Invariant db) :
    PermittedChanges db db := by
  have keeps : keepRows.KeepsKeys := by
    constructor <;> exact fun _ => rfl
  have changed : ChangedBy keepRows db db := by
    constructor <;> exact (List.map_id _).symm
  exact changed.permitted invariant keeps (keepRows_permitted db)

/-- Rows that are as they were, and rows that are added. -/
theorem PermittedChanges.of_added
    {db db' : Database Trail}
    (invariant : Invariant db)
    (keys : Keys db')
    {rollouts : List RunnerReleaseRollout}
    {stages : List RunnerReleaseRolloutStage}
    {assignments : List RunnerReleaseRolloutAssignment}
    (isRollouts : db'.rollouts = db.rollouts ++ rollouts)
    (isStages : db'.stages = db.stages ++ stages)
    (isAssignments : db'.assignments = db.assignments ++ assignments) :
    PermittedChanges db db' := by
  have same := PermittedChanges.refl invariant
  have isRollout
      {before after : RunnerReleaseRollout}
      (isBefore : before ∈ db.rollouts)
      (isAfter : after ∈ db'.rollouts)
      (isId : after.id = before.id) :
      after = before := by
    refine eq_of_key keys.rolloutIds isAfter ?_ isId
    rw [isRollouts]
    exact List.mem_append_left _ isBefore
  constructor
  case rollout =>
    intro before isBefore after isAfter isId
    rw [isRollout isBefore isAfter isId]
    exact permitsTransition_refl _ _
  case stage =>
    intro before isBefore after isAfter isId
    have isBefore' : before ∈ db'.stages := by
      rw [isStages]
      exact List.mem_append_left _ isBefore
    rw [eq_of_key keys.stageIds isAfter isBefore' isId]
    exact permitsTransition_refl _ _
  case assignment =>
    intro before isBefore after isAfter isId
    have isBefore' : before ∈ db'.assignments := by
      rw [isAssignments]
      exact List.mem_append_left _ isBefore
    rw [eq_of_key keys.assignmentIds isAfter isBefore' isId]
    exact permitsTransition_refl _ _
  case review =>
    intro before isBefore after isAfter isId inReview isCompleted
    rw [isRollout isBefore isAfter isId] at isCompleted
    exact isCompleted

theorem StageActivated.permitted
    {rollout : RunnerReleaseRollout}
    {stage : RunnerReleaseRolloutStage}
    {db db' : Database Trail}
    (activated : StageActivated rollout stage db db')
    (invariant : Invariant db) :
    PermittedChanges db db' := by
  have keys := invariant.keys
  have progress := invariant.progress
  -- Neither a cancelled stage nor one in review is of an active rollout.
  have isPending : stage.status = .pending := by
    have ofRollout := activated.ofRollout.symm
    cases was : stage.status with
    | pending => rfl
    | active => exact absurd was activated.notActive
    | completed => exact absurd was activated.notCompleted
    | failedReview =>
        have reviewed :=
          progress.reviewed stage activated.isStage was rollout
            activated.isRollout ofRollout
        exact absurd
          (progress.unreviewed rollout activated.isRollout
            (Or.inr activated.active))
          reviewed
    | cancelled =>
        have isCancelled :=
          progress.cancelled stage activated.isStage was rollout
            activated.isRollout ofRollout
        rw [activated.active] at isCancelled
        cases isCancelled
  apply activated.changedBy.permitted invariant
    (activateChange_keepsKeys _ _ _)
  constructor
  case rollout => exact fun row _ => permitsTransition_refl _ row.status
  case stage =>
    intro row isRow
    simp only [activateChange]
    split
    case isTrue isId =>
      rw [eq_of_key keys.stageIds isRow activated.isStage isId, isPending]
      rfl
    case isFalse => exact permitsTransition_refl _ _
  case assignment =>
    intro row isRow
    simp only [activateChange]
    rcases assignTarget_cases (assignedRunners db stage.id) row with
      ⟨-, unchanged⟩ | ⟨assigned, listed, sameId, isAssigned⟩
    · rw [unchanged]
      exact permitsTransition_refl _ _
    · obtain ⟨isAssignment, ofStage, -, -⟩ := mem_assignedRunners listed
      obtain rfl := eq_of_key keys.assignmentIds isRow isAssignment sameId
      have wasPending :=
        progress.pending stage activated.isStage isPending _ isAssignment
          ofStage
      rw [isAssigned, wasPending]
      rfl

theorem RolloutChanged.permitted_of_notCancel
    {action : RolloutAction}
    {rollout : RunnerReleaseRollout}
    {db db' : Database Trail}
    (changed : RolloutChanged append action rollout db db')
    (notCancel : action ≠ .cancel)
    (invariant : Invariant db) :
    PermittedChanges db db' := by
  have changedBy := changed.changedBy notCancel
  apply changedBy.permitted invariant (statusChange_keepsKeys _ _)
  constructor
  case rollout =>
    intro row isRow
    simp only [statusChange]
    split
    case isTrue isId =>
      rw [eq_of_key invariant.keys.rolloutIds isRow changed.isRollout isId]
      exact changed.permitted
    case isFalse => exact permitsTransition_refl _ _
  all_goals exact fun row _ => permitsTransition_refl _ row.status

theorem RolloutChanged.permitted_of_cancel
    {rollout : RunnerReleaseRollout}
    {db db' : Database Trail}
    (changed : RolloutChanged append .cancel rollout db db')
    (invariant : Invariant db) :
    PermittedChanges db db' := by
  apply changed.cancelledBy.permitted invariant (cancelChange_keepsKeys _ _)
  constructor
  case rollout =>
    intro row isRow
    simp only [cancelChange]
    split
    case isTrue isId =>
      rw [eq_of_key invariant.keys.rolloutIds isRow changed.isRollout isId]
      exact changed.permitted
    case isFalse => exact permitsTransition_refl _ _
  case stage =>
    intro row isRow
    simp only [cancelChange]
    split
    case isTrue isOpen =>
      simp only [Bool.and_eq_true, Bool.or_eq_true,
        decide_eq_true_eq] at isOpen
      rcases isOpen.2 with (was | was) | was <;> rw [was] <;> rfl
    case isFalse => exact permitsTransition_refl _ _
  case assignment =>
    intro row isRow
    simp only [cancelChange]
    split
    case isTrue isOpen =>
      simp only [Bool.and_eq_true, isCancellable, Bool.or_eq_true,
        decide_eq_true_eq] at isOpen
      rcases isOpen.2 with was | was <;> rw [was] <;> rfl
    case isFalse => exact permitsTransition_refl _ _

theorem RolloutChanged.permittedChanges
    {action : RolloutAction}
    {rollout : RunnerReleaseRollout}
    {db db' : Database Trail}
    (changed : RolloutChanged append action rollout db db')
    (invariant : Invariant db) :
    PermittedChanges db db' := by
  by_cases isCancel : action = .cancel
  · subst isCancel
    exact changed.permitted_of_cancel invariant
  · exact changed.permitted_of_notCancel isCancel invariant

theorem ReleaseChanged.permittedChanges
    {input : ChangeReleaseStatus}
    {release : RunnerRelease}
    {db db' : Database Trail}
    (changed : ReleaseChanged append input release db db')
    (invariant : Invariant db) :
    PermittedChanges db db' := by
  obtain ⟨affected, active, changedBy⟩ := changed.changedBy
  apply changedBy.permitted invariant (blockChange_keepsKeys _ _ _)
  constructor
  case rollout =>
    intro row isRow
    simp only [blockChange]
    rcases blockRolloutRow_cases affected row with
      ⟨-, unchanged⟩ | ⟨rollout, listed, isId, blocked⟩
    · rw [unchanged]
      exact permitsTransition_refl _ _
    · obtain ⟨isRollout, isActive⟩ := active rollout listed
      obtain rfl := eq_of_key invariant.keys.rolloutIds isRow isRollout isId
      rw [blocked, isActive]
      rfl
  case stage =>
    intro row isRow
    simp only [blockChange]
    rcases blockStageRow_cases affected row with
      unchanged | ⟨rollout, listed, -, isActive, blocked⟩
    · rw [unchanged]
      exact permitsTransition_refl _ _
    · rw [blocked, isActive]
      rfl
  case assignment => exact fun row _ => permitsTransition_refl _ row.status

/-- An observation that changes the status of no assignment, or that finds the
stage and the rollout active and does not end in failure. -/
def ObservedAssignment.InOrder
    (observed : ObservedAssignment)
    (actualVersion : JsString) :
    Prop :=
  let next :=
    observeAssignmentVersion observed.assignment.status
      observed.release.version observed.assignment.baselineVersion
      actualVersion
  next = observed.assignment.status ∨
    next ≠ .failed ∧
      observed.stage.status = .active ∧
      observed.rollout.status = .active

def Operation.InOrder
    (db : Database Trail) :
    Operation → Prop
  | .heartbeat input =>
      ∀ device ∈ db.runners, device.id = input.runnerDeviceId →
        ∀ observed, desiredAssignment db device = some observed →
          observed.InOrder input.runnerVersion
  | _ => True

def RowChange.comp (later first : RowChange) : RowChange where
  release row := later.release (first.release row)
  runner row := later.runner (first.runner row)
  rollout row := later.rollout (first.rollout row)
  stage row := later.stage (first.stage row)
  assignment row := later.assignment (first.assignment row)

theorem ChangedBy.trans
    {first later : RowChange}
    {db between db' : Database Trail}
    (changed : ChangedBy first db between)
    (changed' : ChangedBy later between db') :
    ChangedBy (later.comp first) db db' := by
  constructor
  · rw [changed'.releases, changed.releases, List.map_map]
    rfl
  · rw [changed'.runners, changed.runners, List.map_map]
    rfl
  · rw [changed'.rollouts, changed.rollouts, List.map_map]
    rfl
  · rw [changed'.stages, changed.stages, List.map_map]
    rfl
  · rw [changed'.assignments, changed.assignments, List.map_map]
    rfl

theorem RowChange.KeepsKeys.comp
    {first later : RowChange}
    (keeps' : later.KeepsKeys)
    (keeps : first.KeepsKeys) :
    (later.comp first).KeepsKeys := by
  constructor
  · exact fun row => (keeps'.release _).trans (keeps.release row)
  · exact fun row => (keeps'.runner _).trans (keeps.runner row)
  · exact fun row => (keeps'.rollout _).trans (keeps.rollout row)
  · exact fun row => (keeps'.target _).trans (keeps.target row)
  · exact fun row => (keeps'.stage _).trans (keeps.stage row)
  · exact fun row => (keeps'.stageRollout _).trans (keeps.stageRollout row)
  · exact fun row => (keeps'.stageNumber _).trans (keeps.stageNumber row)
  · exact fun row => (keeps'.assignment _).trans (keeps.assignment row)
  · exact fun row =>
      (keeps'.assignmentRollout _).trans (keeps.assignmentRollout row)
  · exact fun row =>
      (keeps'.assignmentStage _).trans (keeps.assignmentStage row)
  · exact fun row =>
      (keeps'.assignmentRunner _).trans (keeps.assignmentRunner row)

/-- Rows that are as they were changed as permitted. -/
theorem SameRows.permitted_right
    {db between db' : Database Trail}
    (same : SameRows between db')
    (permitted : PermittedChanges db between) :
    PermittedChanges db db' := by
  obtain ⟨_, _, _, _⟩ := permitted
  constructor <;> simpa only [same.rollouts, same.stages, same.assignments]

variable {observed : ObservedAssignment}

theorem observeChange_permitted
    {status : RunnerRolloutAssignmentStatus}
    (actualVersion : JsString)
    {db : Database Trail}
    (keys : Keys db)
    (isIn : observed.In db)
    (permitted :
      permitsTransition assignmentTransitions observed.assignment.status
          status =
        true) :
    ∀ row ∈ db.assignments,
      permitsTransition assignmentTransitions row.status
          (observeAssignment observed status actualVersion row).status =
        true := by
  intro row isRow
  rcases observeAssignment_cases keys isIn.isAssignment status actualVersion
      isRow with
    ⟨rfl, isStatus⟩ | ⟨-, unchanged⟩
  · rw [isStatus]
    exact permitted
  · rw [unchanged]
    exact permitsTransition_refl _ _

/-- What an observation that converges or rolls back makes of the rows, when
what it makes of an active stage and an active rollout is permitted. -/
theorem permitted_of_observation
    {status : RunnerRolloutAssignmentStatus}
    {actualVersion : JsString}
    {later : RowChange}
    {db db' : Database Trail}
    (invariant : Invariant db)
    (isIn : observed.In db)
    (keeps : later.KeepsKeys)
    (changed :
      ChangedBy later (observeRow observed status actualVersion db) db')
    (ofAssignment :
      permitsTransition assignmentTransitions observed.assignment.status
          status =
        true)
    (keepsAssignments : ∀ row, later.assignment row = row)
    (ofStage :
      permitsTransition stageTransitions observed.stage.status
          (later.stage observed.stage).status =
        true)
    (otherStages : ∀ row, row.id ≠ observed.stage.id → later.stage row = row)
    (ofRollout :
      permitsTransition rolloutTransitions observed.rollout.status
          (later.rollout observed.rollout).status =
        true)
    (otherRollouts :
      ∀ row, row.id ≠ observed.rollout.id → later.rollout row = row) :
    PermittedChanges db db' := by
  have keys := invariant.keys
  have changedBy :=
    (observeRow_changedBy observed status actualVersion db).trans changed
  apply changedBy.permitted invariant
    (keeps.comp (observeChange_keepsKeys observed status actualVersion))
  constructor
  case rollout =>
    intro row isRow
    simp only [RowChange.comp, observeChange]
    by_cases isId : row.id = observed.rollout.id
    · rw [eq_of_key keys.rolloutIds isRow isIn.isRollout isId]
      exact ofRollout
    · rw [otherRollouts row isId]
      exact permitsTransition_refl _ _
  case stage =>
    intro row isRow
    simp only [RowChange.comp, observeChange]
    by_cases isId : row.id = observed.stage.id
    · rw [eq_of_key keys.stageIds isRow isIn.isStage isId]
      exact ofStage
    · rw [otherStages row isId]
      exact permitsTransition_refl _ _
  case assignment =>
    simp only [RowChange.comp, observeChange, keepsAssignments]
    exact observeChange_permitted actualVersion keys isIn ofAssignment

theorem keepRows_keepsKeys : keepRows.KeepsKeys := by
  constructor <;> exact fun _ => rfl

theorem keepRows_changedBy (db : Database Trail) :
    ChangedBy keepRows db db := by
  constructor <;> exact (List.map_id _).symm

theorem converged_permitted
    {actualVersion : JsString}
    {db : Database Trail}
    (invariant : Invariant db)
    (isIn : observed.In db)
    (was : observed.assignment.status = .targetAssigned)
    (stageActive : observed.stage.status = .active)
    (rolloutActive : observed.rollout.status = .active) :
    PermittedChanges db
      (completeRows observed
        (observeRow observed .converged actualVersion db)) := by
  have ofAssignment :
      permitsTransition assignmentTransitions observed.assignment.status
          .converged =
        true := by
    rw [was]
    rfl
  rcases completeRows_cases observed
      (observeRow observed .converged actualVersion db) with
    same | ⟨-, same | ⟨-, same⟩⟩
  · rw [same]
    apply permitted_of_observation invariant isIn keepRows_keepsKeys
      (keepRows_changedBy _) ofAssignment
    case ofStage => exact permitsTransition_refl _ _
    case ofRollout => exact permitsTransition_refl _ _
    all_goals exact fun _ => by simp [keepRows]
  · rw [same]
    apply permitted_of_observation invariant isIn
      (completeStageChange_keepsKeys observed)
      (completeStageRows_changedBy observed _) ofAssignment
    case ofStage =>
      rw [stageActive]
      simp [completeStageChange, permitsTransition, stageTransitions]
    case otherStages => exact fun row other => if_neg other
    case ofRollout => exact permitsTransition_refl _ _
    all_goals exact fun _ => by simp [completeStageChange]
  · rw [same]
    apply permitted_of_observation invariant isIn
      ((completeRolloutChange_keepsKeys observed _).comp
        (completeStageChange_keepsKeys observed))
      ((completeStageRows_changedBy observed _).trans
        (completeRolloutRows_changedBy observed _))
      ofAssignment
    case ofStage =>
      rw [stageActive]
      simp [RowChange.comp, completeRolloutChange, completeStageChange,
        permitsTransition, stageTransitions]
    case otherStages => exact fun row other => if_neg other
    case ofRollout =>
      rw [rolloutActive]
      simp [RowChange.comp, completeRolloutChange, completeStageChange,
        permitsTransition, rolloutTransitions]
    case otherRollouts => exact fun row other => if_neg other
    case keepsAssignments => exact fun _ => rfl

theorem review_permitted
    {reason : RunnerRolloutReviewReason}
    {actualVersion : JsString}
    {db : Database Trail}
    (invariant : Invariant db)
    (isIn : observed.In db)
    (was : observed.assignment.status = .converged)
    (stageActive : observed.stage.status = .active)
    (rolloutActive : observed.rollout.status = .active) :
    PermittedChanges db
      (reviewRows observed reason
        (observeRow observed .rolledBack actualVersion db)) := by
  apply permitted_of_observation invariant isIn
    (reviewChange_keepsKeys observed reason)
    (reviewRows_changedBy observed reason _)
  case ofAssignment =>
    rw [was]
    rfl
  case keepsAssignments => exact fun _ => rfl
  case ofStage =>
    rw [stageActive]
    simp [reviewChange, permitsTransition, stageTransitions]
  case otherStages => exact fun row other => if_neg other
  case ofRollout =>
    rw [rolloutActive]
    simp [reviewChange, permitsTransition, rolloutTransitions]
  case otherRollouts => exact fun row other => if_neg other

theorem Observed.permitted
    {input : Heartbeat}
    {observed : ObservedAssignment}
    {db db' : Database Trail}
    (taken : Observed append input observed db db')
    (isIn : observed.In db)
    (inOrder : observed.InOrder input.runnerVersion)
    (invariant : Invariant db) :
    PermittedChanges db db' := by
  cases taken with
  | unchanged rows =>
      refine rows.permitted_right ?_
      apply permitted_of_observation invariant isIn keepRows_keepsKeys
        (keepRows_changedBy _)
      case ofAssignment => exact permitsTransition_refl _ _
      case ofStage => exact permitsTransition_refl _ _
      case ofRollout => exact permitsTransition_refl _ _
      all_goals exact fun _ => by simp [keepRows]
  | converged was isTarget rows isAudited =>
      simp only [ObservedAssignment.InOrder, was, observeAssignmentVersion,
        isTarget, if_true, reduceCtorEq, false_or] at inOrder
      exact rows.permitted_right
        (converged_permitted invariant isIn was inOrder.2.1 inOrder.2.2)
  | rolledBack was notTarget isBaseline rows =>
      simp only [ObservedAssignment.InOrder, was, observeAssignmentVersion,
        notTarget, isBaseline, if_true, if_false, reduceCtorEq,
        false_or] at inOrder
      exact rows.permitted_right
        (review_permitted invariant isIn was inOrder.2.1 inOrder.2.2)
  | failed was notTarget notBaseline rows =>
      simp only [ObservedAssignment.InOrder, was, observeAssignmentVersion,
        notTarget, notBaseline, if_false, reduceCtorEq, false_or, ne_eq,
        not_true_eq_false, false_and] at inOrder

theorem HeartbeatTaken.permitted
    {input : Heartbeat}
    {device : RunnerDevice}
    {db db' : Database Trail}
    (taken : HeartbeatTaken append input device db db')
    (inOrder : Operation.InOrder db (.heartbeat input))
    (invariant : Invariant db) :
    PermittedChanges db db' := by
  have reports :
      PermittedChanges db (input.reportRows db) := by
    apply (reportRows_changedBy input db).permitted invariant
      (reportChange_keepsKeys input)
    constructor <;> exact fun row _ => permitsTransition_refl _ row.status
  rcases taken.rows with
    ⟨-, rows⟩ | ⟨observed, reported, isObserved, rows, isTaken⟩
  · exact rows.permitted_right reports
  · have isIn := (desiredAssignment_in invariant taken.isDevice isObserved).1
    have permitted :=
      isTaken.permitted (isIn.reported rows)
        (inOrder device taken.isDevice taken.isId observed isObserved)
        (rows.invariant (reportRows_invariant input invariant))
    obtain ⟨_, _, _, _⟩ := permitted
    rw [rows.rollouts, rows.stages, rows.assignments] at *
    constructor <;> assumption

theorem Performed.permitted
    {operation : Operation}
    {db db' : Database Trail}
    (performed : Performed append db db' operation)
    (inOrder : operation.InOrder db)
    (invariant : Invariant db) :
    PermittedChanges db db' := by
  cases performed with
  | nothing operation same =>
      subst same
      exact .refl invariant
  | created input created =>
      have invariant' := created.invariant invariant
      exact .of_added invariant invariant'.keys created.rows.rollouts
        created.rows.stages created.rows.assignments
  | changed input rollout changed => exact changed.permittedChanges invariant
  | activated input rollout stage activated =>
      exact activated.permitted invariant
  | taken input device taken => exact taken.permitted inOrder invariant
  | released input release changed =>
      exact changed.permittedChanges invariant

/-- Where no runner desires anything, every operation is in order. -/
theorem Dormant.inOrder
    {db : Database Trail}
    (dormant : Dormant db)
    (operation : Operation) :
    operation.InOrder db := by
  cases operation with
  | heartbeat input =>
      intro device isDevice isId observed isObserved
      simp [desiredAssignment, dormant.runners device isDevice] at isObserved
  | create | changeRolloutState | activateStage | changeStatus => trivial

/-- Every change of a status that an operation of a run commits is permitted.
The trail of the repository lets no rollout leave `draft`: the events of an
activation carry a date where their schema reads a text.  Whatever a trail
accepts, the changes of operations that are in order are permitted. -/
theorem statusChanges_permitted
    (parseOther : JsString → Option TimeValue)
    (hasher : AuditHasher)
    (newRow : AuditStore → NewRow) :
    (∀ (db : Database AuditStore), Initial db →
      ∀ (operations : List Operation) (operation : Operation),
        let append := appendAuditEventTransactional parseOther hasher newRow
        PermittedChanges (run append db operations)
          (step append (run append db operations) operation)) ∧
      ∀ (Trail : Type) (append : Trail → JsValue → Option Trail)
        (db : Database Trail),
        Initial db →
        ∀ (operations : List Operation) (operation : Operation),
          operation.InOrder (run append db operations) →
          PermittedChanges (run append db operations)
            (step append (run append db operations) operation) := by
  have inOrder
      (Trail : Type)
      (append : Trail → JsValue → Option Trail)
      (db : Database Trail)
      (initial : Initial db)
      (operations : List Operation)
      (operation : Operation)
      (inOrder : operation.InOrder (run append db operations)) :
      PermittedChanges (run append db operations)
        (step append (run append db operations) operation) := by
    have invariant : Invariant (run append db operations) :=
      run_invariant initial.invariant operations
    exact
      (step_performed invariant.keys.runnerIds operation).permitted inOrder
        invariant
  refine ⟨?_, inOrder⟩
  intro db initial operations operation
  exact inOrder _ _ db initial operations operation
    ((run_dormant initial operations).inOrder operation)

theorem statusChanges_permitted_activation :
    PermittedChanges
        (run exampleAppend (exampleDatabase AuditStore .empty)
          exampleOperations)
        (step exampleAppend
          (run exampleAppend (exampleDatabase AuditStore .empty)
            exampleOperations)
          exampleActivation) ∧
      PermittedChanges
        (run (fun _ _ => some ()) (exampleDatabase Unit ()) exampleOperations)
        (step (fun _ _ => some ())
          (run (fun _ _ => some ()) (exampleDatabase Unit ())
            exampleOperations)
          exampleActivation) :=
  ⟨(statusChanges_permitted (fun _ => none) constantHasher fun _ => emptyRow).1
      (exampleDatabase AuditStore .empty) (exampleDatabase_initial _ _)
      exampleOperations exampleActivation,
    (statusChanges_permitted (fun _ => none) constantHasher fun _ => emptyRow).2
      Unit (fun _ _ => some ()) (exampleDatabase Unit ())
      (exampleDatabase_initial _ _) exampleOperations exampleActivation
      trivial⟩

example :
    (step (fun _ _ => some ())
        (run (fun _ _ => some ()) (exampleDatabase Unit ()) exampleOperations)
        exampleActivation).stages.map RunnerReleaseRolloutStage.status =
      [.active] := by
  decide

end TaskTwin.Rollout
