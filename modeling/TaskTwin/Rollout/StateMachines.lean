import TaskTwin.Schema.Unknown

/-!
# State machines of rollouts

The statuses of releases, rollouts, stages and assignments, the transitions
that their tables permit, and the rules that plans and stages must meet.
-/

namespace TaskTwin.Rollout

open Text Schema

inductive RunnerReleaseCatalogStatus where
  | available
  | deprecated
  | blocked
  deriving DecidableEq, Repr

inductive RunnerReleaseStatusReason where
  | superseded
  | endOfSupport
  | securityIssue
  | integrityIssue
  | compatibilityIssue
  | operationalIssue
  deriving DecidableEq, Repr

inductive RunnerRolloutStatus where
  | draft
  | active
  | paused
  | completed
  | cancelled
  deriving DecidableEq, Repr

inductive RunnerRolloutStageStatus where
  | pending
  | active
  | completed
  | failedReview
  | cancelled
  deriving DecidableEq, Repr

inductive RunnerRolloutAssignmentStatus where
  | pending
  | targetAssigned
  | converged
  | rolledBack
  | failed
  | cancelled
  deriving DecidableEq, Repr

inductive RunnerRolloutReviewReason where
  | assignmentRolledBack
  | unexpectedVersionAfterConvergence
  | targetReleaseBlocked
  deriving DecidableEq, Repr

def rolloutTransitions : RunnerRolloutStatus → List RunnerRolloutStatus
  | .draft => [.active, .cancelled]
  | .active => [.paused, .completed, .cancelled]
  | .paused => [.active, .cancelled]
  | .completed => []
  | .cancelled => []

def stageTransitions :
    RunnerRolloutStageStatus → List RunnerRolloutStageStatus
  | .pending => [.active, .cancelled]
  | .active => [.completed, .failedReview, .cancelled]
  | .completed => []
  | .failedReview => [.cancelled]
  | .cancelled => []

def assignmentTransitions :
    RunnerRolloutAssignmentStatus → List RunnerRolloutAssignmentStatus
  | .pending => [.targetAssigned, .cancelled]
  | .targetAssigned => [.converged, .failed, .cancelled]
  | .converged => [.rolledBack]
  | .rolledBack => []
  | .failed => []
  | .cancelled => []

/-- Whether `assertTransition` returns. -/
def permitsTransition
    {α : Type}
    [DecidableEq α]
    (transitions : α → List α)
    (current next : α) :
    Bool :=
  current = next || (transitions current).contains next

/-- What the package of rollouts throws. -/
inductive RunnerRolloutErrorCode where
  | releaseNotAvailable
  | runnerDuplicateAssignment
  | runnerPlatformIncompatible
  | stageOutOfOrder
  | invalidStateTransition
  /-- A value that is not of its schema. -/
  | schema
  deriving DecidableEq, Repr

def releaseTransitions :
    RunnerReleaseCatalogStatus → List RunnerReleaseCatalogStatus
  | .available => [.deprecated, .blocked]
  | .deprecated => [.blocked]
  | .blocked => []

/-- `reasonsByStatus`; nothing becomes available again. -/
def reasonsByStatus :
    RunnerReleaseCatalogStatus → List RunnerReleaseStatusReason
  | .available => []
  | .deprecated => [.superseded, .endOfSupport]
  | .blocked =>
      [.securityIssue, .integrityIssue, .compatibilityIssue, .operationalIssue]

/-- `assertReleaseStatusTransition`: whether it returns. -/
def permitsReleaseStatus
    (current next : RunnerReleaseCatalogStatus)
    (reason : RunnerReleaseStatusReason) :
    Bool :=
  (releaseTransitions current).contains next &&
    (reasonsByStatus next).contains reason

def assertReleaseCanTargetRollout
    (status : RunnerReleaseCatalogStatus) :
    Except RunnerRolloutErrorCode Unit :=
  if status = .available then .ok () else .error .releaseNotAvailable

/-- `observeAssignmentVersion`: the status after an observed version. -/
def observeAssignmentVersion
    (assignmentStatus : RunnerRolloutAssignmentStatus)
    (targetVersion : JsString)
    (baselineVersion : Option JsString)
    (actualVersion : JsString) :
    RunnerRolloutAssignmentStatus :=
  match assignmentStatus with
  | .targetAssigned =>
      if actualVersion = targetVersion then .converged else .targetAssigned
  | .converged =>
      if actualVersion = targetVersion then .converged
      else if baselineVersion = some actualVersion then .rolledBack
      else .failed
  | status => status

structure RolloutStageDefinition where
  stageNumber : Nat
  runnerDeviceIds : List JsString
  deriving DecidableEq, Repr

structure RolloutPlan where
  workspaceId : JsString
  targetReleaseId : JsString
  stages : List RolloutStageDefinition
  deriving DecidableEq, Repr

/-- `RolloutPlanSchema`. -/
def RolloutPlan.parses (plan : RolloutPlan) : Bool :=
  isUuid plan.workspaceId && isUuid plan.targetReleaseId &&
    1 ≤ plan.stages.length && plan.stages.length ≤ 1000 &&
    plan.stages.all fun stage =>
      1 ≤ stage.stageNumber && stage.stageNumber ≤ 10000 &&
        1 ≤ stage.runnerDeviceIds.length &&
        stage.runnerDeviceIds.length ≤ 10000 &&
        stage.runnerDeviceIds.all isUuid

/-- The runners of a stage, none of which has been seen before. -/
def seeRunners :
    List JsString → List JsString → Except RunnerRolloutErrorCode (List JsString)
  | [], seen => .ok seen
  | runnerDeviceId :: rest, seen =>
      if runnerDeviceId ∈ seen then .error .runnerDuplicateAssignment
      else seeRunners rest (runnerDeviceId :: seen)

/-- The stages from an index on. -/
def validateStages :
    List RolloutStageDefinition →
    Nat →
    List JsString →
    Except RunnerRolloutErrorCode Unit
  | [], _, _ => .ok ()
  | stage :: rest, index, seen =>
      if stage.stageNumber ≠ index + 1 then .error .stageOutOfOrder
      else
        match seeRunners stage.runnerDeviceIds seen with
        | .error error => .error error
        | .ok seen => validateStages rest (index + 1) seen

def validateRolloutPlan
    (plan : RolloutPlan) :
    Except RunnerRolloutErrorCode RolloutPlan :=
  if plan.parses then
    (validateStages plan.stages 0 []).map fun _ => plan
  else
    .error .schema

inductive RunnerReleasePlatform where
  | windows
  | macos
  | linux
  deriving DecidableEq, Repr

inductive RunnerReleaseArchitecture where
  | x64
  | arm64
  deriving DecidableEq, Repr

def RunnerReleaseArchitecture.text : RunnerReleaseArchitecture → JsString
  | .x64 => js "x64"
  | .arm64 => js "arm64"

/-- A target that a release declares an artifact for. -/
structure ReleaseArtifactTarget where
  platform : RunnerReleasePlatform
  architecture : RunnerReleaseArchitecture
  deriving DecidableEq, Repr

structure ReleaseTarget where
  product : JsString
  version : JsString
  status : RunnerReleaseCatalogStatus
  targets : List ReleaseArtifactTarget
  deriving DecidableEq, Repr

/-- `ReleaseTargetSchema`. -/
def ReleaseTarget.parses (release : ReleaseTarget) : Bool :=
  hasLength 1 64 release.product && hasLength 1 32 release.version

def assertReleaseSupportsRunner
    (release : ReleaseTarget)
    (platform : RunnerReleasePlatform)
    (architecture : JsString) :
    Except RunnerRolloutErrorCode Unit := do
  if !release.parses then
    throw .schema
  assertReleaseCanTargetRollout release.status
  if release.targets.any fun target =>
      target.platform == platform &&
        target.architecture.text == architecture then
    return ()
  else
    throw .runnerPlatformIncompatible

def assertStageMayActivate
    (rolloutStatus : RunnerRolloutStatus)
    (targetStatus : RunnerReleaseCatalogStatus)
    (stageNumber : Nat)
    (previousStageStatus : Option RunnerRolloutStageStatus) :
    Except RunnerRolloutErrorCode Unit := do
  if rolloutStatus ≠ .active then
    throw .invalidStateTransition
  assertReleaseCanTargetRollout targetStatus
  if 1 < stageNumber ∧ previousStageStatus ≠ some .completed then
    throw .stageOutOfOrder

theorem seeRunners_spec
    {runners seen seen' : List JsString}
    (saw : seeRunners runners seen = .ok seen') :
    (∀ runner, runner ∈ seen' ↔ runner ∈ runners ∨ runner ∈ seen) ∧
      runners.Nodup ∧
      ∀ runner ∈ runners, runner ∉ seen := by
  induction runners generalizing seen with
  | nil =>
      rw [seeRunners, Except.ok.injEq] at saw
      simp [saw]
  | cons first rest inductionHypothesis =>
      rw [seeRunners] at saw
      split at saw
      case isTrue => simp at saw
      case isFalse unseen =>
        obtain ⟨members, distinct, apart⟩ := inductionHypothesis saw
        have firstApart : first ∉ rest := by
          intro listed
          exact apart first listed List.mem_cons_self
        refine ⟨?_, List.nodup_cons.mpr ⟨firstApart, distinct⟩, ?_⟩
        · intro runner
          rw [members, List.mem_cons, List.mem_cons]
          exact or_left_comm.trans or_assoc.symm
        · intro runner isRunner
          rcases List.mem_cons.mp isRunner with rfl | later
          · exact unseen
          · exact fun wasSeen =>
              apart runner later (List.mem_cons_of_mem _ wasSeen)

/-- Valid stages are numbered in order and share no runner. -/
theorem validateStages_spec
    {stages : List RolloutStageDefinition}
    {index : Nat}
    {seen : List JsString}
    (valid : validateStages stages index seen = .ok ()) :
    stages.map RolloutStageDefinition.stageNumber =
        List.range' (index + 1) stages.length ∧
      (stages.flatMap RolloutStageDefinition.runnerDeviceIds).Nodup ∧
      ∀ runner ∈ stages.flatMap RolloutStageDefinition.runnerDeviceIds,
        runner ∉ seen := by
  induction stages generalizing index seen with
  | nil => simp
  | cons stage rest inductionHypothesis =>
      rw [validateStages] at valid
      split at valid
      case isTrue => simp at valid
      case isFalse isNumber =>
        split at valid
        case h_1 => simp at valid
        case h_2 seen' saw =>
          obtain ⟨members, distinct, apart⟩ := seeRunners_spec saw
          obtain ⟨numbers, distinctRest, apartRest⟩ :=
            inductionHypothesis valid
          refine ⟨?_, ?_, ?_⟩
          · rw [List.map_cons, numbers, List.length_cons,
              List.range'_succ]
            simp only [not_not] at isNumber
            rw [isNumber]
          · rw [List.flatMap_cons, List.nodup_append]
            refine ⟨distinct, distinctRest, ?_⟩
            rintro runner isFirst other isLater rfl
            exact apartRest runner isLater ((members runner).mpr (Or.inl isFirst))
          · intro runner listed wasSeen
            rw [List.flatMap_cons, List.mem_append] at listed
            rcases listed with isFirst | later
            · exact apart runner isFirst wasSeen
            · exact apartRest runner later ((members runner).mpr (Or.inr wasSeen))

theorem validateRolloutPlan_spec
    {plan plan' : RolloutPlan}
    (valid : validateRolloutPlan plan = .ok plan') :
    plan' = plan ∧
      plan.stages.map RolloutStageDefinition.stageNumber =
        List.range' 1 plan.stages.length ∧
      (plan.stages.flatMap RolloutStageDefinition.runnerDeviceIds).Nodup := by
  rw [validateRolloutPlan] at valid
  split at valid
  case isFalse => simp at valid
  case isTrue =>
    cases validated : validateStages plan.stages 0 [] with
    | error error => simp [validated, Except.map] at valid
    | ok done =>
        rw [validated, Except.map, Except.ok.injEq] at valid
        obtain ⟨numbers, distinct, -⟩ := validateStages_spec validated
        exact ⟨valid.symm, numbers, distinct⟩

end TaskTwin.Rollout
