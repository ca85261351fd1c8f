import TaskTwin.Rollout.Transitions

/-!
# Ownership of runners and the order of stages

Whom a runner's desired assignment belongs to, and which stages were completed
before a stage was activated.
-/

namespace TaskTwin.Rollout

open Text Audit Store

variable {Trail : Type} {append : Trail → JsValue → Option Trail}

/-- The desired assignment of a runner is its own and of a live rollout, whose
target the runner desires and which alone assigns the runner a target. -/
def Owned (db : Database Trail) : Prop :=
  ∀ runner ∈ db.runners, ∀ assignmentId,
    runner.desiredRolloutAssignmentId = some assignmentId →
    ∃ assignment ∈ db.assignments,
      assignment.id = assignmentId ∧
        assignment.runnerDeviceId = runner.id ∧
        (∃ rollout ∈ db.rollouts,
          rollout.id = assignment.rolloutId ∧
            rollout.status ≠ .completed ∧
            rollout.status ≠ .cancelled ∧
            runner.desiredReleaseId = some rollout.targetReleaseId) ∧
        ∀ other ∈ db.assignments,
          other.runnerDeviceId = runner.id →
          other.status = .targetAssigned →
          other.rolloutId = assignment.rolloutId

theorem Invariant.owned
    {db : Database Trail}
    (invariant : Invariant db) :
    Owned db := by
  obtain ⟨keys, ownership, -⟩ := invariant
  intro runner isRunner assignmentId isDesired
  obtain ⟨assignment, isAssignment, isId, ofRunner, rollout, isRollout,
    ofRollout, isLive, isTarget⟩ :=
    ownership.desired runner isRunner assignmentId isDesired
  refine
    ⟨assignment, isAssignment, isId, ofRunner,
      ⟨rollout, isRollout, ofRollout, isLive.1, isLive.2, isTarget⟩, ?_⟩
  intro other isOther ofRunner' isAssigned
  obtain ⟨owner, isOwner, isOwnerId, isDesired'⟩ :=
    ownership.assigned other isOther isAssigned
  obtain rfl :=
    eq_of_key keys.runnerIds isOwner isRunner (isOwnerId.trans ofRunner')
  have sameId : other.id = assignment.id := by
    rw [isId]
    exact Option.some.inj (isDesired'.symm.trans isDesired)
  rw [eq_of_key keys.assignmentIds isOther isAssignment sameId]

/-- A stage that was activated and not cancelled. -/
def RunnerReleaseRolloutStage.UnderWay
    (stage : RunnerReleaseRolloutStage) :
    Prop :=
  stage.status ≠ .pending ∧ stage.status ≠ .cancelled

/-- A row of the tables before that is the stage and was under way. -/
def WasUnderWay
    (db : Database Trail)
    (stage : RunnerReleaseRolloutStage) :
    Prop :=
  ∃ row ∈ db.stages,
    row.rolloutId = stage.rolloutId ∧
      row.stageNumber = stage.stageNumber ∧
      row.UnderWay

/-- The stage before one is completed. -/
def PreviousCompleted
    (db : Database Trail)
    (stage : RunnerReleaseRolloutStage) :
    Prop :=
  1 < stage.stageNumber →
    ∃ previous ∈ db.stages,
      previous.rolloutId = stage.rolloutId ∧
        previous.stageNumber + 1 = stage.stageNumber ∧
        previous.status = .completed

theorem wasUnderWay_of_unchanged
    {db : Database Trail}
    {stages : List RunnerReleaseRolloutStage}
    (unchanged : stages = db.stages)
    {stage : RunnerReleaseRolloutStage}
    (isStage : stage ∈ stages)
    (underWay : stage.UnderWay) :
    WasUnderWay db stage :=
  ⟨stage, unchanged ▸ isStage, rfl, rfl, underWay⟩

/-- A stage under way after a change that keeps the stages that are not. -/
theorem wasUnderWay_of_change
    {change : RowChange}
    {db db' : Database Trail}
    (keeps : change.KeepsKeys)
    (changed : ChangedBy change db db')
    (was :
      ∀ row ∈ db.stages, (change.stage row).UnderWay → row.UnderWay)
    {stage : RunnerReleaseRolloutStage}
    (isStage : stage ∈ db'.stages)
    (underWay : stage.UnderWay) :
    WasUnderWay db stage := by
  rw [changed.stages] at isStage
  obtain ⟨row, isRow, rfl⟩ := List.mem_map.mp isStage
  exact
    ⟨row, isRow, (keeps.stageRollout row).symm, (keeps.stageNumber row).symm,
      was row isRow underWay⟩

/-- The stage of an observed assignment that was not pending is under way. -/
theorem ObservedAssignment.In.underWay
    {observed : ObservedAssignment}
    {db : Database Trail}
    (invariant : Invariant db)
    (isIn : observed.In db)
    (notPending : observed.assignment.status ≠ .pending) :
    observed.stage.UnderWay := by
  constructor
  · intro isPending
    exact notPending
      (invariant.progress.pending _ isIn.isStage isPending _ isIn.isAssignment
        isIn.ofStage)
  · intro isCancelled
    exact isIn.isLive.2
      (invariant.progress.cancelled _ isIn.isStage isCancelled _
        isIn.isRollout isIn.stageOf.symm)

theorem Observed.wasUnderWay
    {input : Heartbeat}
    {observed : ObservedAssignment}
    {db db' : Database Trail}
    (taken : Observed append input observed db db')
    (isIn : observed.In db)
    (invariant : Invariant db)
    {stage : RunnerReleaseRolloutStage}
    (isStage : stage ∈ db'.stages)
    (underWay : stage.UnderWay) :
    WasUnderWay db stage := by
  -- Only the observed stage changes, and it is under way before.
  have ofRow
      (notPending : observed.assignment.status ≠ .pending)
      {row : RunnerReleaseRolloutStage}
      (isRow : row ∈ db.stages)
      (isId : row.id = observed.stage.id) :
      row.UnderWay := by
    rw [eq_of_key invariant.keys.stageIds isRow isIn.isStage isId]
    exact isIn.underWay invariant notPending
  cases taken with
  | unchanged rows =>
      exact wasUnderWay_of_unchanged rows.stages isStage underWay
  | converged was isTarget rows isAudited =>
      rw [rows.stages] at isStage
      have notPending : observed.assignment.status ≠ .pending := by
        simp [was]
      have completed :
          ∀ row ∈ db.stages,
            ((completeStageChange observed).stage row).UnderWay →
              row.UnderWay := by
        intro row isRow isUnderWay
        by_cases isId : row.id = observed.stage.id
        · exact ofRow notPending isRow isId
        · simpa only [completeStageChange, isId, if_false] using isUnderWay
      rcases completeRows_cases observed
          (observeRow observed .converged input.runnerVersion db) with
        same | ⟨-, same | ⟨-, same⟩⟩
      · rw [same] at isStage
        exact wasUnderWay_of_unchanged rfl isStage underWay
      · rw [same] at isStage
        exact wasUnderWay_of_change (completeStageChange_keepsKeys observed)
          (completeStageRows_changedBy observed db) completed isStage underWay
      · rw [same] at isStage
        exact wasUnderWay_of_change (completeStageChange_keepsKeys observed)
          (completeStageRows_changedBy observed db) completed isStage underWay
  | rolledBack was notTarget isBaseline rows
  | failed was notTarget notBaseline rows =>
      rw [rows.stages] at isStage
      refine
        wasUnderWay_of_change (reviewChange_keepsKeys observed _)
          (reviewRows_changedBy observed _ db) ?_ isStage underWay
      intro row isRow isUnderWay
      by_cases isId : row.id = observed.stage.id
      · exact ofRow (by simp [was]) isRow isId
      · simpa only [reviewChange, isId, if_false] using isUnderWay

/-- A stage that is under way was so before, or it was just activated after
the stage before it had been completed. -/
theorem Performed.underWay
    {operation : Operation}
    {db db' : Database Trail}
    (performed : Performed append db db' operation)
    (invariant : Invariant db)
    {stage : RunnerReleaseRolloutStage}
    (isStage : stage ∈ db'.stages)
    (underWay : stage.UnderWay) :
    WasUnderWay db stage ∨ PreviousCompleted db stage := by
  cases performed with
  | nothing operation same =>
      subst same
      exact Or.inl (wasUnderWay_of_unchanged rfl isStage underWay)
  | created input created =>
      rw [created.rows.stages] at isStage
      rcases List.mem_append.mp isStage with isOld | isNew
      · exact Or.inl (wasUnderWay_of_unchanged rfl isOld underWay)
      · exact absurd (CreateRollout.mem_stages isNew).2.1 underWay.1
  | changed input rollout changed =>
      by_cases isCancel : input.action = .cancel
      · rw [isCancel] at changed
        refine Or.inl
          (wasUnderWay_of_change (cancelChange_keepsKeys _ _)
            changed.cancelledBy ?_ isStage underWay)
        intro row isRow isUnderWay
        simp only [cancelChange] at isUnderWay
        split at isUnderWay
        · exact absurd rfl isUnderWay.2
        · exact isUnderWay
      · exact Or.inl
          (wasUnderWay_of_change (statusChange_keepsKeys _ _)
            (changed.changedBy isCancel) (fun _ _ same => same) isStage
            underWay)
  | activated input rollout activatedStage activated =>
      rw [activated.changedBy.stages] at isStage
      obtain ⟨row, isRow, rfl⟩ := List.mem_map.mp isStage
      by_cases isId : row.id = activatedStage.id
      · obtain rfl :=
          eq_of_key invariant.keys.stageIds isRow activated.isStage isId
        refine Or.inr ?_
        simp only [PreviousCompleted, activateChange, if_true,
          activated.ofRollout]
        exact activated.previous
      · simp only [activateChange, isId, if_false] at underWay ⊢
        exact Or.inl ⟨row, isRow, rfl, rfl, underWay⟩
  | taken input device taken =>
      refine Or.inl ?_
      rcases taken.rows with
        ⟨-, rows⟩ | ⟨observed, reported, isObserved, rows, isTaken⟩
      · exact wasUnderWay_of_unchanged rows.stages isStage underWay
      · have isIn :=
          (desiredAssignment_in invariant taken.isDevice isObserved).1
        obtain ⟨row, isRow, was⟩ :=
          isTaken.wasUnderWay (isIn.reported rows)
            (rows.invariant (reportRows_invariant input invariant)) isStage
            underWay
        rw [rows.stages] at isRow
        exact ⟨row, isRow, was⟩
  | released input release changed =>
      obtain ⟨affected, -, changedBy⟩ := changed.changedBy
      refine Or.inl
        (wasUnderWay_of_change (blockChange_keepsKeys _ _ _) changedBy ?_
          isStage underWay)
      intro row isRow isUnderWay
      simp only [blockChange] at isUnderWay
      rcases blockStageRow_cases affected row with
        unchanged | ⟨_, _, _, isActive, _⟩
      · exact unchanged ▸ isUnderWay
      · exact ⟨by simp [isActive], by simp [isActive]⟩

/-- A stage of a rollout was completed at some time of a run. -/
def HadCompleted
    (append : Trail → JsValue → Option Trail)
    (db : Database Trail)
    (operations : List Operation)
    (rolloutId : JsString)
    (stageNumber : Nat) :
    Prop :=
  ∃ earlier, earlier <+: operations ∧
    ∃ stage ∈ (run append db earlier).stages,
      stage.rolloutId = rolloutId ∧
        stage.stageNumber = stageNumber ∧
        stage.status = .completed

theorem HadCompleted.later
    {db : Database Trail}
    {operations : List Operation}
    {rolloutId : JsString}
    {stageNumber : Nat}
    (completed : HadCompleted append db operations rolloutId stageNumber)
    (operation : Operation) :
    HadCompleted append db (operations ++ [operation]) rolloutId
      stageNumber := by
  obtain ⟨earlier, isPrefix, isCompleted⟩ := completed
  exact ⟨earlier, isPrefix.trans (List.prefix_append _ _), isCompleted⟩

theorem run_append
    (db : Database Trail)
    (operations : List Operation)
    (operation : Operation) :
    run append db (operations ++ [operation]) =
      step append (run append db operations) operation := by
  rw [run, run, List.foldl_append, List.foldl_cons, List.foldl_nil]

/-- Before a stage is under way, all stages in front of it are completed. -/
theorem hadCompleted_of_underWay
    {db : Database Trail}
    (initial : Initial db)
    (operations : List Operation) :
    ∀ stage ∈ (run append db operations).stages,
      stage.UnderWay →
      ∀ number, 1 ≤ number → number < stage.stageNumber →
        HadCompleted append db operations stage.rolloutId number := by
  induction operations using List.reverseRecOn with
  | nil =>
      intro stage isStage
      simp [run, initial.noStages] at isStage
  | append_singleton operations operation inductionHypothesis =>
      have invariant : Invariant (run append db operations) :=
        run_invariant initial.invariant operations
      intro stage isStage underWay number isPositive isEarlier
      rw [run_append] at isStage
      have performed :=
        @step_performed _ append _ invariant.keys.runnerIds operation
      rcases performed.underWay invariant isStage underWay with
        ⟨row, isRow, sameRollout, sameNumber, wasUnderWay⟩ | previousCompleted
      · rw [← sameNumber] at isEarlier
        have completed :=
          inductionHypothesis row isRow wasUnderWay number isPositive isEarlier
        rw [sameRollout] at completed
        exact completed.later operation
      · obtain ⟨previous, isPrevious, sameRollout, isNext, isCompleted⟩ :=
          previousCompleted (by omega)
        by_cases isLast : number = previous.stageNumber
        · exact
            ⟨operations, List.prefix_append _ _, previous, isPrevious,
              sameRollout, isLast.symm, isCompleted⟩
        · have isUnderWay : previous.UnderWay := by
            constructor <;> simp [isCompleted]
          have completed :=
            inductionHypothesis previous isPrevious isUnderWay number
              isPositive (by omega)
          rw [sameRollout] at completed
          exact completed.later operation

/-- In every state that a run reaches, desires are owned and a stage has left
`pending` only after all stages in front of it had been completed.  With a
trail that accepts the events of activations a cancellation, too, takes a
stage out of `pending`; all else holds whatever the trail accepts. -/
theorem ownership_and_order
    (parseOther : JsString → Option TimeValue)
    (hasher : AuditHasher)
    (newRow : AuditStore → NewRow) :
    (∀ (db : Database AuditStore), Initial db →
      ∀ operations : List Operation,
        let append := appendAuditEventTransactional parseOther hasher newRow
        Owned (run append db operations) ∧
          ∀ stage ∈ (run append db operations).stages,
            stage.status ≠ .pending →
            ∀ number, 1 ≤ number → number < stage.stageNumber →
              HadCompleted append db operations stage.rolloutId number) ∧
      ∀ (Trail : Type) (append : Trail → JsValue → Option Trail)
        (db : Database Trail),
        Initial db →
        ∀ operations : List Operation,
          Owned (run append db operations) ∧
            ∀ stage ∈ (run append db operations).stages,
              stage.status ≠ .pending →
              stage.status ≠ .cancelled →
              ∀ number, 1 ≤ number → number < stage.stageNumber →
                HadCompleted append db operations stage.rolloutId number := by
  constructor
  · intro db initial operations
    refine ⟨(run_invariant initial.invariant operations).owned, ?_⟩
    intro stage isStage notPending
    exact absurd ((run_dormant initial operations).stages stage isStage)
      notPending
  · intro Trail append db initial operations
    refine ⟨(run_invariant initial.invariant operations).owned, ?_⟩
    intro stage isStage notPending notCancelled
    exact hadCompleted_of_underWay initial operations stage isStage
      ⟨notPending, notCancelled⟩

theorem ownership_and_order_activation :
    Owned
        (run exampleAppend (exampleDatabase AuditStore .empty)
          (exampleOperations ++ [exampleActivation])) ∧
      Owned
        (run (fun _ _ => some ()) (exampleDatabase Unit ())
          (exampleOperations ++ [exampleActivation])) ∧
      (run (fun _ _ => some ()) (exampleDatabase Unit ())
            (exampleOperations ++ [exampleActivation])).runners.map
          RunnerDevice.desiredRolloutAssignmentId =
        [some (js "00000000-0000-4000-8000-000000000005")] :=
  ⟨((ownership_and_order (fun _ => none) constantHasher fun _ => emptyRow).1
      (exampleDatabase AuditStore .empty) (exampleDatabase_initial _ _)
      _).1,
    ((ownership_and_order (fun _ => none) constantHasher fun _ => emptyRow).2
      Unit (fun _ _ => some ()) (exampleDatabase Unit ())
      (exampleDatabase_initial _ _) _).1,
    by decide⟩

end TaskTwin.Rollout
