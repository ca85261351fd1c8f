import TaskTwin.Engine.RunConformance

/-!
# Histories of a run

What every update of the core adds to the history, and the parts of a history
that the protocol of a run is about.  The latest entry always comes first.
-/

namespace TaskTwin.Engine

open Effect Schema Workflow Recovery

namespace EngineCore

variable
    (core : EngineCore)
    (executionId : Uuid)
    (timestamp index : Nat)
    (step : WorkflowStep)

@[simp] theorem note_history (entry : HistoryEntry) :
    (core.note entry).history = entry :: core.history :=
  rfl

@[simp] theorem tell_history (kind : ProgressEventKind) :
    (core.tell executionId timestamp kind).history =
      .emitted { executionId, timestamp, kind } :: core.history :=
  rfl

@[simp] theorem tellRun_history
    (status : WorkflowEngineRunStatus)
    (error : Option SafeExecutionError) :
    (core.tellRun executionId timestamp status error).history =
      .emitted
          { executionId
            timestamp
            kind :=
              .runStatusChanged status (error.map SafeExecutionError.code) } ::
        core.history :=
  rfl

@[simp] theorem tellStep_history
    (status : WorkflowEngineStepStatus)
    (error : Option SafeExecutionError)
    (reason : Option SkippedStepReason) :
    (core.tellStep executionId timestamp index step status error
        reason).history =
      .emitted
          { executionId
            timestamp
            kind :=
              .stepStatusChanged step.id step.type status
                (error.map SafeExecutionError.code) reason } ::
        core.history :=
  rfl

@[simp] theorem tellApproval_history
    (binding : ApprovalBinding)
    (status : ApprovalRequestStatus)
    (decision : Option ApprovalDecision) :
    (core.tellApproval executionId timestamp binding status
        decision).history =
      .emitted
          { executionId
            timestamp
            kind :=
              .approvalStatusChanged binding.approvalStepId
                binding.gatedStepId binding.riskLevel status decision } ::
        core.history :=
  rfl

@[simp] theorem tellBegun_history (attempt : SafeStepAttempt) :
    (core.tellBegun executionId index step attempt).history =
      .emitted
          { executionId
            timestamp := attempt.startedAt
            kind :=
              .stepAttemptStatusChanged step.id attempt.attemptNumber
                attempt.trigger .running none .unknown false } ::
        core.history :=
  rfl

@[simp] theorem tellFinished_history
    (attempt : SafeStepAttempt)
    (status : StepAttemptStatus)
    (effectCertainty : ExecutionEffectCertainty)
    (retryAllowed : Bool)
    (error : Option SafeExecutionError) :
    (core.tellFinished executionId timestamp index step attempt status
        effectCertainty retryAllowed error).history =
      .emitted
          { executionId
            timestamp
            kind :=
              .stepAttemptStatusChanged step.id attempt.attemptNumber
                attempt.trigger status (error.map SafeExecutionError.code)
                effectCertainty retryAllowed } ::
        core.history :=
  rfl

@[simp] theorem tellRepair_history
    (attempt : SafeStepAttempt)
    (failure : AttemptFailure)
    (proposalOnly : Bool)
    (decision : RepairCoordinatorDecision) :
    (core.tellRepair executionId timestamp step attempt failure proposalOnly
        decision).history =
      .emitted
          { executionId
            timestamp
            kind :=
              .repairStatusChanged step.id attempt.attemptNumber
                decision.status failure.error.code failure.effectCertainty
                (!proposalOnly && decision == .retry) } ::
        core.history :=
  rfl

@[simp] theorem chosen_history (primary : PrimaryTermination) :
    (core.chosen primary).history =
      .terminationChosen primary :: core.history :=
  rfl

@[simp] theorem startRecord_history (startedAtMs : Nat) :
    (core.startRecord index startedAtMs).history = core.history :=
  rfl

@[simp] theorem finishRecord_history (finishedAtMs : Nat) :
    (core.finishRecord index finishedAtMs).history = core.history :=
  rfl

@[simp] theorem failRecord_history (error : SafeExecutionError) :
    (core.failRecord index error).history = core.history :=
  rfl

@[simp] theorem skipRecord_history
    (finishedAtMs : Nat)
    (reason : SkippedStepReason) :
    (core.skipRecord index finishedAtMs reason).history = core.history :=
  rfl

@[simp] theorem verifyRecord_history
    (verification : Option SafeVerificationResult) :
    (core.verifyRecord index verification).history = core.history := by
  cases verification <;> rfl

@[simp] theorem createSteps_history (workflow : Option WorkflowDefinition) :
    (core.createSteps workflow).history = core.history :=
  rfl

@[simp] theorem createOutputs_history (workflow : WorkflowDefinition) :
    (core.createOutputs workflow).history = core.history :=
  rfl

@[simp] theorem setOutputs_history (outputs : RuntimeOutputStore) :
    (core.setOutputs outputs).history = core.history :=
  rfl

end EngineCore

/-- The run status that an entry announces. -/
def HistoryEntry.runStatus : HistoryEntry → Option WorkflowEngineRunStatus
  | .emitted event =>
      match event.kind with
      | .runStatusChanged status _ => some status
      | _ => none
  | _ => none

def HistoryEntry.termination : HistoryEntry → Option PrimaryTermination
  | .terminationChosen primary => some primary
  | _ => none

def HistoryEntry.stop :
    HistoryEntry → Option (TerminationCause × Option SafeExecutionError)
  | .adapterStopped cause cleanupError => some (cause, cleanupError)
  | _ => none

def HistoryEntry.isStart : HistoryEntry → Bool
  | .adapterStarted => true
  | _ => false

def HistoryEntry.isRefusal : HistoryEntry → Bool
  | .transitionRefused _ => true
  | _ => false

/-- The run statuses that were announced. -/
def runStatuses (history : List HistoryEntry) : List WorkflowEngineRunStatus :=
  history.filterMap HistoryEntry.runStatus

/-- The terminations that were chosen. -/
def terminations (history : List HistoryEntry) : List PrimaryTermination :=
  history.filterMap HistoryEntry.termination

/-- The calls of `adapter.stop` with what they answered. -/
def adapterStops
    (history : List HistoryEntry) :
    List (TerminationCause × Option SafeExecutionError) :=
  history.filterMap HistoryEntry.stop

/-- How often `adapter.start` was called. -/
def adapterStarts (history : List HistoryEntry) : Nat :=
  history.countP HistoryEntry.isStart

section Parts

variable (entry : HistoryEntry) (history : List HistoryEntry)

@[simp] theorem runStatuses_cons :
    runStatuses (entry :: history) =
      entry.runStatus.toList ++ runStatuses history := by
  unfold runStatuses
  cases status : entry.runStatus <;> simp [status]

@[simp] theorem terminations_cons :
    terminations (entry :: history) =
      entry.termination.toList ++ terminations history := by
  unfold terminations
  cases termination : entry.termination <;> simp [termination]

@[simp] theorem adapterStops_cons :
    adapterStops (entry :: history) =
      entry.stop.toList ++ adapterStops history := by
  unfold adapterStops
  cases stop : entry.stop <;> simp [stop]

@[simp] theorem adapterStarts_cons :
    adapterStarts (entry :: history) =
      adapterStarts history + if entry.isStart then 1 else 0 := by
  unfold adapterStarts
  rw [List.countP_cons]

end Parts

end TaskTwin.Engine

/-! ## The protocol of a run -/

namespace TaskTwin.Engine

open Effect Effect.Program Schema Workflow Recovery

/-- A path of the transition table of runs, latest status first. -/
inductive StatusPath : List WorkflowEngineRunStatus → Prop where
  | start : StatusPath [.pending]
  | move
      {next current : WorkflowEngineRunStatus}
      {earlier : List WorkflowEngineRunStatus}
      (path : StatusPath (current :: earlier))
      (listed : next ∈ runTransitions current) :
      StatusPath (next :: current :: earlier)

theorem runTransitions_terminal
    {current next : WorkflowEngineRunStatus}
    (listed : next ∈ runTransitions current) :
    isTerminalRunStatus current = false := by
  cases current <;> simp [runTransitions] at listed <;> rfl

/-- Only the latest status of a path can be terminal. -/
theorem StatusPath.earlier_terminal
    {latest : WorkflowEngineRunStatus}
    {earlier : List WorkflowEngineRunStatus}
    (path : StatusPath (latest :: earlier)) :
    ∀ status ∈ earlier, isTerminalRunStatus status = false := by
  generalize statuses : latest :: earlier = all at path
  induction path generalizing latest earlier with
  | start =>
      cases statuses
      simp
  | @move next current before path listed inductionHypothesis =>
      cases statuses
      intro status isEarlier
      rcases List.mem_cons.mp isEarlier with rfl | isBefore
      · exact runTransitions_terminal listed
      · exact inductionHypothesis rfl status isBefore

/-- The announced statuses lead to the status of the run. -/
def Announced (core : EngineCore) : Prop :=
  ∃ earlier,
    runStatuses core.history = core.run :: earlier ∧
      StatusPath (core.run :: earlier)

variable {core core' : EngineCore}

theorem Announced.same
    (announced : Announced core)
    (sameRun : core'.run = core.run)
    (sameStatuses : runStatuses core'.history = runStatuses core.history) :
    Announced core' := by
  obtain ⟨earlier, statuses, path⟩ := announced
  exact ⟨earlier, by rw [sameStatuses, statuses, sameRun], sameRun ▸ path⟩

theorem Announced.moved
    {next : WorkflowEngineRunStatus}
    (announced : Announced core)
    (listed : next ∈ runTransitions core.run)
    (isRun : core'.run = next)
    (statuses :
      runStatuses core'.history = next :: runStatuses core.history) :
    Announced core' := by
  obtain ⟨earlier, before, path⟩ := announced
  exact ⟨core.run :: earlier, by rw [statuses, before, isRun],
    isRun ▸ path.move listed⟩

theorem Announced.movedFrom
    {current : WorkflowEngineRunStatus}
    (announced : Announced core)
    (wasRun : core.run = current)
    (next : WorkflowEngineRunStatus)
    (listed : next ∈ runTransitions current)
    (isRun : core'.run = next)
    (statuses :
      runStatuses core'.history = next :: runStatuses core.history) :
    Announced core' :=
  announced.moved (wasRun ▸ listed) isRun statuses

variable
    {dependencies : EngineDependencies}
    {executionId : Uuid}
    {plan : RunPlan dependencies}

/-- Nothing is announced before the run is. -/
def AnnouncedAt : RunState → Prop
  | ⟨.created, core⟩ => runStatuses core.history = [] ∧ core.run = .pending
  | ⟨_, core⟩ => Announced core

theorem announced_step
    {state state' : RunState}
    (shape : Shape plan state)
    (announced : AnnouncedAt state)
    (stepped : RunStep executionId plan state state') :
    AnnouncedAt state' := by
  cases stepped with
  | announced timestamp =>
      obtain ⟨statuses, isRun⟩ := announced
      refine ⟨[], ?_, ?_⟩
      · simp [HistoryEntry.runStatus, statuses]
        exact isRun.symm
      · rw [show (EngineCore.tell _ _ _ _).run = .pending from isRun]
        exact .start
  | validated timestamp =>
      exact announced.movedFrom shape.1 .validating (by decide) rfl rfl
  | cancelledEarly timestamp =>
      rcases shape.1 with isPending | isValidating
      · exact announced.movedFrom isPending .cancelling (by decide) rfl rfl
      · exact announced.movedFrom isValidating .cancelling (by decide) rfl rfl
  | started timestamp executed isValidating =>
      exact announced.movedFrom isValidating .starting (by decide) rfl rfl
  | ran timestamp =>
      exact announced.movedFrom shape.1.isRun .running (by decide) rfl
        rfl
  | approvalRequested startedAtMs openedAt begunAt waitsAt runWaitsAt askedAt
      request executed atIndex isApproval bound openedCore isAttempt =>
      subst openedCore
      exact announced.movedFrom shape.1.isRun .waitingForApproval (by decide) rfl
        rfl
  | approvalGranted approval ranAt finishedAtMs succeededAt attemptFinishedAt
      atIndex approved =>
      exact announced.movedFrom shape.1.isRun .running (by decide) rfl
        rfl
  | repairRequested request finishedAt waitsAt runWaitsAt executed atIndex
      decided repairs =>
      exact announced.movedFrom shape.1.isRun .waitingForRepair (by decide) rfl
        rfl
  | repairRetried repair ranAt steppedAt atIndex retry =>
      exact announced.movedFrom shape.1.isRun .running (by decide) rfl
        rfl
  | endedEarly timestamp nonePending =>
      exact announced.moved shape.2.1 rfl rfl
  | terminationAnnounced timestamp nonePending =>
      exact announced.moved shape.1 rfl rfl
  | @concludedCancelled core primary cleanupError warnedAt timestamp cancels =>
      have isCancelling : core.run = .cancelling := by
        rw [shape.2.1, announcedStatus, cancels]
        rfl
      have listed :
          WorkflowEngineRunStatus.cancelled ∈ runTransitions core.run := by
        rw [isCancelling]
        decide
      cases cleanupError <;> exact announced.moved listed rfl rfl
  | @concludedTerminated core primary cleanupError warnedAt terminal =>
      cases cleanupError <;> exact announced.same rfl rfl
  | concludedFailed warnedAt timestamp =>
      exact announced.movedFrom shape.2.1.isRun .failed (by decide) rfl
        rfl
  | concludedSucceeded timestamp =>
      exact announced.movedFrom shape.2.1.isRun .succeeded (by decide) rfl
        rfl
  | adapterThrew error =>
      exact announced.same (by simp [EngineCore.note]) (by simp; rfl)
  | outputRefused output refuses =>
      exact announced.same (by simp [EngineCore.note]) (by simp; rfl)
  | adapterAnswered output atIndex noOutput =>
      exact announced.same (by simp [EngineCore.note]) (by simp; rfl)
  | outputProduced output value timestamp atIndex defined stored =>
      refine announced.same ?_ ?_
      · exact EngineCore.verifyRecord_run _
      · simp
        rfl
  | _ => exact announced.same rfl rfl

theorem RunReaches.announced
    {state : RunState}
    (reaches : RunReaches executionId plan state) :
    Shape plan state ∧ AnnouncedAt state := by
  refine @Reachable.invariant _ _ _
    (fun state => Shape plan state ∧ AnnouncedAt state) ?_ ?_ _ reaches
  · intro start isStart
    rw [isStart]
    exact ⟨⟨rfl, rfl⟩, rfl, rfl⟩
  · intro before after kept stepped
    exact ⟨shape_step kept.1 stepped, announced_step kept.1 kept.2 stepped⟩

/-- The status that a run ends with for a cause. -/
def TerminationCause.status : TerminationCause → TerminalRunStatus
  | .completed => .succeeded
  | .preflightFailed => .failed
  | .adapterStartFailed => .failed
  | .stepFailed => .failed
  | .stepTimeout => .failed
  | .cleanupFailed => .failed
  | .runCancelled => .cancelled
  | .approvalRejected => .cancelled
  | .repairAborted => .cancelled
  | .totalTimeout => .timedOut
  | .approvalExpired => .timedOut
  | .repairExpired => .timedOut
  | .approvalInvalidated => .interrupted
  | .repairInvalidated => .interrupted

theorem terminalStatusFor_eq (cause : RacingTerminationCause) :
    terminalStatusFor cause = cause.terminationCause.status := by
  cases cause <;> rfl

/-- How often the adapter was started, and the stops with their answers. -/
structure Uses
    (core : EngineCore)
    (starts : Nat)
    (stops : List (TerminationCause × Option SafeExecutionError)) :
    Prop where
  starts : adapterStarts core.history = starts
  stops : adapterStops core.history = stops
  terminations : terminations core.history = core.primary.toList
  unrefused : core.history.any HistoryEntry.isRefusal = false

theorem Uses.same
    {core core' : EngineCore}
    {starts : Nat}
    {stops : List (TerminationCause × Option SafeExecutionError)}
    (uses : Uses core starts stops)
    (sameStarts : adapterStarts core'.history = adapterStarts core.history)
    (sameStops : adapterStops core'.history = adapterStops core.history)
    (sameTerminations :
      Engine.terminations core'.history = Engine.terminations core.history)
    (samePrimary : core'.primary = core.primary)
    (sameRefusals :
      core'.history.any HistoryEntry.isRefusal =
        core.history.any HistoryEntry.isRefusal) :
    Uses core' starts stops :=
  ⟨sameStarts.trans uses.starts, sameStops.trans uses.stops,
    by rw [sameTerminations, uses.terminations, samePrimary],
    sameRefusals.trans uses.unrefused⟩

theorem Uses.answered
    {core : EngineCore}
    {starts : Nat}
    {stops : List (TerminationCause × Option SafeExecutionError)}
    (uses : Uses core starts stops)
    (index : Nat)
    (answer : Except EngineError AdapterStepOutput)
    (verification : Option SafeVerificationResult) :
    Uses
      ((core.note (.stepAnswered index answer)).verifyRecord index verification)
      starts stops := by
  cases verification <;> exact uses.same rfl rfl rfl rfl rfl

/-- Choosing the end of a run that has not been ended. -/
theorem Uses.chosen
    {core : EngineCore}
    {starts : Nat}
    {stops : List (TerminationCause × Option SafeExecutionError)}
    (uses : Uses core starts stops)
    (unended : core.primary = none)
    (primary : PrimaryTermination) :
    Uses (core.chosen primary) starts stops := by
  have isEmpty := uses.terminations
  rw [unended] at isEmpty
  refine ⟨uses.starts, uses.stops, ?_, uses.unrefused⟩
  rw [EngineCore.chosen_history, terminations_cons, isEmpty]
  rfl

/-- A stop that fails can only spoil a run that completed. -/
def StopsAs
    (cause : TerminationCause)
    (cleanupError : Option SafeExecutionError)
    (ending : RunEnd) :
    Prop :=
  ending.cause = cause ∨
    cause = .completed ∧ cleanupError.isSome = true ∧
      ending.cause = .cleanupFailed

def stopCause : Option PrimaryTermination → TerminationCause
  | none => .completed
  | some primary => primary.cause.terminationCause

def UsesAt : RunState → Prop
  | ⟨.created, core⟩ => Uses core 0 [] ∧ core.outputs.values = []
  | ⟨.announced, core⟩ => Uses core 0 [] ∧ core.outputs.values = []
  | ⟨.validating, core⟩ => Uses core 0 [] ∧ core.outputs.values = []
  | ⟨.initializing _, core⟩ => Uses core 0 [] ∧ core.outputs.values = []
  | ⟨.skipping (.early status cause _), core⟩ =>
      Uses core 0 [] ∧ core.outputs.values = [] ∧ status = cause.status
  | ⟨.concluding primary cleanupError, core⟩ =>
      Uses core 1 [(stopCause primary, cleanupError)] ∧
        core.outputs.values = []
  | ⟨.finished ending, core⟩ =>
      ending.status = ending.cause.status ∧
        core.outputs.values = [] ∧
        (Uses core 0 [] ∨
          ∃ cause cleanupError,
            Uses core 1 [(cause, cleanupError)] ∧
              StopsAs cause cleanupError ending)
  | ⟨_, core⟩ => Uses core 1 []

theorem uses_step
    {state state' : RunState}
    (shape : Shape plan state)
    (uses : UsesAt state)
    (stepped : RunStep executionId plan state state') :
    UsesAt state' := by
  cases stepped with
  | announced timestamp => exact ⟨uses.1.same rfl rfl rfl rfl rfl, uses.2⟩
  | leftUnvalidated => exact ⟨uses.1.same rfl rfl rfl rfl rfl, uses.2⟩
  | validated timestamp => exact ⟨uses.1.same rfl rfl rfl rfl rfl, uses.2⟩
  | stepsCreated => exact ⟨uses.1.same rfl rfl rfl rfl rfl, uses.2⟩
  | initialized timestamp atNext =>
      exact ⟨uses.1.same rfl rfl rfl rfl rfl, uses.2⟩
  | cancelledEarly timestamp =>
      exact ⟨uses.1.same rfl rfl rfl rfl rfl, uses.2, rfl⟩
  | rejected error discarded isValidating errorParses =>
      exact ⟨uses.1, uses.2, rfl⟩
  | started timestamp executed isValidating =>
      obtain ⟨⟨starts, stops, terminations, unrefused⟩, _⟩ := uses
      refine ⟨?_, stops, terminations, unrefused⟩
      rw [EngineCore.note_history, adapterStarts_cons,
        EngineCore.tellRun_history, adapterStarts_cons,
        EngineCore.createOutputs_history, starts]
      rfl
  | endedAtStart ends => exact uses.chosen shape.1.unended _
  | endedBetweenSteps remains external => exact uses.chosen shape.1.unended _
  | endedBeforeAttempt external => exact uses.chosen shape.1.unended _
  | approvalRequested startedAtMs openedAt begunAt waitsAt runWaitsAt askedAt
      request executed atIndex isApproval bound openedCore isAttempt =>
      subst openedCore
      exact uses.same rfl rfl rfl rfl rfl
  | @approvalOverruled core index binding attempt primary approval approved
      external =>
      have told :
          Uses
            (core.approvalTold executionId index binding approval)
            1 [] :=
        uses.same rfl rfl rfl rfl rfl
      exact told.chosen shape.1.unended primary
  | @approvalRefusedLate core index step binding attempt refusal primary
      approval finishedAt atIndex refused external =>
      have told :
          Uses
            (core.approvalTold executionId index binding approval)
            1 [] :=
        uses.same rfl rfl rfl rfl rfl
      exact (told.chosen shape.1.unended primary).same rfl rfl rfl rfl rfl
  | @repairOverruled core index step attempt failure proposalOnly primary
      repair atIndex external =>
      have told :
          Uses
            (core.repairTold executionId index step attempt failure proposalOnly
              repair)
            1 [] :=
        uses.same rfl rfl rfl rfl rfl
      exact told.chosen shape.1.unended primary
  | @closedByChoice core index step closing primary finishedAtMs timestamp
      atIndex closes =>
      have unended : core.primary = none := by
        cases closes with
        | afterSuccess external => exact shape.1.unended
        | overruled external => exact shape.1.isPrimary
        | own primary => exact shape.1.isPrimary
      have before : Uses core 1 [] := by
        cases closes <;> exact uses
      exact (before.chosen unended primary).same rfl rfl rfl rfl rfl
  | adapterThrew error => exact Uses.answered uses _ _ _
  | outputRefused output refuses => exact Uses.answered uses _ _ _
  | adapterAnswered output atIndex noOutput => exact Uses.answered uses _ _ _
  | outputProduced output value timestamp atIndex defined stored =>
      exact (Uses.answered uses _ _ _).same rfl rfl rfl rfl rfl
  | @skipped core skipping index step finishedAtMs timestamp atIndex
      isPending =>
      cases skipping with
      | early status cause error =>
          obtain ⟨before, cleared, agrees⟩ := uses
          exact ⟨before.same rfl rfl rfl rfl rfl, cleared, agrees⟩
      | terminated primary => exact uses.same rfl rfl rfl rfl rfl
  | endedEarly timestamp nonePending =>
      obtain ⟨before, cleared, agrees⟩ := uses
      exact ⟨agrees, cleared, Or.inl (before.same rfl rfl rfl rfl rfl)⟩
  | @stopped core primary cause cleanupError isCause =>
      obtain ⟨starts, stops, terminations, unrefused⟩ := uses
      have sameCause : cause = stopCause primary := by
        cases primary <;> exact isCause
      refine ⟨⟨starts, ?_, terminations, unrefused⟩, rfl⟩
      rw [EngineCore.setOutputs_history, EngineCore.note_history,
        adapterStops_cons, stops, sameCause]
      rfl
  | @concludedCancelled core primary cleanupError warnedAt timestamp cancels =>
      obtain ⟨before, cleared⟩ := uses
      refine ⟨terminalStatusFor_eq _, ?_, Or.inr ⟨_, cleanupError, ?_, Or.inl rfl⟩⟩
      · cases cleanupError <;> exact cleared
      · cases cleanupError <;> exact before.same rfl rfl rfl rfl rfl
  | @concludedTerminated core primary cleanupError warnedAt terminal =>
      obtain ⟨before, cleared⟩ := uses
      refine ⟨terminalStatusFor_eq _, ?_, Or.inr ⟨_, cleanupError, ?_, Or.inl rfl⟩⟩
      · cases cleanupError <;> exact cleared
      · cases cleanupError <;> exact before.same rfl rfl rfl rfl rfl
  | concludedFailed warnedAt timestamp =>
      obtain ⟨before, cleared⟩ := uses
      exact ⟨rfl, cleared, Or.inr ⟨_, _, before.same rfl rfl rfl rfl rfl,
        Or.inr ⟨rfl, rfl, rfl⟩⟩⟩
  | concludedSucceeded timestamp =>
      obtain ⟨before, cleared⟩ := uses
      exact ⟨rfl, cleared, Or.inr ⟨_, _, before.same rfl rfl rfl rfl rfl,
        Or.inl rfl⟩⟩
  | _ => exact uses.same rfl rfl rfl rfl rfl

theorem RunReaches.uses
    {state : RunState}
    (reaches : RunReaches executionId plan state) :
    Shape plan state ∧ UsesAt state := by
  refine @Reachable.invariant _ _ _
    (fun state => Shape plan state ∧ UsesAt state) ?_ ?_ _ reaches
  · intro start isStart
    rw [isStart]
    exact ⟨⟨rfl, rfl⟩, ⟨rfl, rfl, rfl, rfl⟩, rfl⟩
  · intro before after kept stepped
    exact ⟨shape_step kept.1 stepped, uses_step kept.1 kept.2 stepped⟩

/-- What the caller and the dependencies see of a run as a whole. -/
structure FollowsProtocol
    (outcome : Outcome EngineError WorkflowExecutionResult)
    (world : EngineWorld) :
    Prop where
  /-- The announced statuses lead from `pending` to one terminal status. -/
  path :
    ∃ final earlier,
      runStatuses world.core.history = final :: earlier ∧
        StatusPath (final :: earlier) ∧
        isTerminalRunStatus final = true ∧
        (∀ status ∈ earlier, isTerminalRunStatus status = false) ∧
        ∀ result, outcome = .returned result → final = result.status.runStatus
  agrees :
    ∀ result,
      outcome = .returned result →
        result.status = result.terminationCause.status
  unrefused : ∀ code, HistoryEntry.transitionRefused code ∉ world.core.history
  stopped :
    adapterStarts world.core.history ≤ 1 ∧
      (adapterStops world.core.history).length =
        adapterStarts world.core.history
  cleared : world.core.outputs.values = []
  cleanup :
    ∀ result cause cleanupError,
      outcome = .returned result →
      HistoryEntry.adapterStopped cause cleanupError ∈ world.core.history →
      result.terminationCause = cause ∨
        cause = .completed ∧ cleanupError.isSome = true ∧
          result.terminationCause = .cleanupFailed

/-- A built result carries what it was built from. -/
theorem returned_of_builds
    {outcome : Outcome EngineError WorkflowExecutionResult}
    {final : FinalResultInput}
    {result : WorkflowExecutionResult}
    (isOutcome : outcome = resultOutcome (buildWorkflowExecutionResult final))
    (returned : outcome = .returned result) :
    ∃ steps,
      final.records.mapM stepResult = some steps ∧
        result = assembleResult final steps ∧
        result.parses = true := by
  rw [returned] at isOutcome
  cases built : buildWorkflowExecutionResult final with
  | none =>
      rw [built] at isOutcome
      cases isOutcome
  | some assembled =>
      rw [built] at isOutcome
      cases isOutcome
      unfold buildWorkflowExecutionResult at built
      cases mapped : final.records.mapM stepResult with
      | none => simp [mapped] at built
      | some steps =>
          simp only [mapped, Option.bind_eq_bind, Option.bind_some,
            Option.ite_none_right_eq_some, Option.some.injEq] at built
          obtain ⟨parses, isResult⟩ := built
          exact ⟨steps, rfl, isResult.symm, isResult ▸ parses⟩

theorem mem_adapterStops
    {history : List HistoryEntry}
    {cause : TerminationCause}
    {cleanupError : Option SafeExecutionError}
    (listed : .adapterStopped cause cleanupError ∈ history) :
    (cause, cleanupError) ∈ adapterStops history :=
  List.mem_filterMap.mpr ⟨_, listed, rfl⟩

theorem Builds.followsProtocol
    {outcome : Outcome EngineError WorkflowExecutionResult}
    {world : EngineWorld}
    (builds : Builds executionId plan outcome world) :
    FollowsProtocol outcome world := by
  obtain ⟨ending, final, reaches, resultOf, isOutcome⟩ := builds
  obtain ⟨shape, announced⟩ := reaches.announced
  obtain ⟨_, agrees, cleared, used⟩ := reaches.uses
  obtain ⟨isRun, _⟩ := shape
  obtain ⟨earlier, statuses, path⟩ := announced
  have endingOf
      {result : WorkflowExecutionResult}
      (returned : outcome = .returned result) :
      result.status = ending.status ∧
        result.terminationCause = ending.cause := by
    obtain ⟨steps, _, rfl, _⟩ := returned_of_builds isOutcome returned
    exact ⟨resultOf.status, resultOf.cause⟩
  constructor
  case path =>
    refine ⟨world.core.run, earlier, statuses, path, ?_,
      path.earlier_terminal, ?_⟩
    · rw [isRun]
      exact isTerminalRunStatus_runStatus ending.status
    · intro result returned
      rw [(endingOf returned).1, isRun]
  case agrees =>
    intro result returned
    rw [(endingOf returned).1, (endingOf returned).2, agrees]
  case unrefused =>
    intro code listed
    have unrefused :
        world.core.history.any HistoryEntry.isRefusal = false := by
      rcases used with uses | ⟨_, _, uses, _⟩
      · exact uses.unrefused
      · exact uses.unrefused
    rw [List.any_eq_false] at unrefused
    exact unrefused _ listed rfl
  case stopped =>
    rcases used with uses | ⟨cause, cleanupError, uses, _⟩
    · simp [uses.starts, uses.stops]
    · simp [uses.starts, uses.stops]
  case cleared => exact cleared
  case cleanup =>
    intro result cause cleanupError returned listed
    have stop := mem_adapterStops listed
    rw [(endingOf returned).2]
    rcases used with uses | ⟨_, _, uses, stopsAs⟩
    · rw [uses.stops] at stop
      cases stop
    · rw [uses.stops, List.mem_singleton] at stop
      cases stop
      exact stopsAs

/-- The preflight of an execution lets it run. -/
def passesPreflight
    (dependencies : EngineDependencies)
    (input : ExecutionInput) :
    Bool :=
  match preflightWorkflowExecution dependencies input with
  | some (.prepared _) => true
  | _ => false

/-- Every execution that gets past its preflight follows the protocol. -/
theorem execute_followsProtocol
    (executionId : Uuid)
    (dependencies : EngineDependencies)
    (input : ExecutionInput)
    (aborted : Bool)
    (passes : passesPreflight dependencies input = true) :
    (execute executionId dependencies input).Ensures FollowsProtocol
      (EngineWorld.initial aborted) := by
  refine (execute_concludes executionId dependencies input aborted).mono ?_
  intro outcome world concluded
  cases concluded with
  | preflightThrew answer reaches threw =>
      simp [passesPreflight, answer] at passes
  | built planned builds => exact builds.followsProtocol

def waitStep : WorkflowStep :=
  { id := ⟨"wait", by decide, by decide⟩
    name := ⟨"Wait", by decide, by decide⟩
    action := .wait ⟨10, by decide, by decide⟩
    refined := by decide }

def waitWorkflow : WorkflowDefinition :=
  { workflowId := ⟨"flow", by decide, by decide⟩
    version := 1
    versionPositive := by decide
    name := ⟨"Flow", by decide, by decide⟩
    description := none
    status := .published
    workflowVariables := []
    steps := [waitStep]
    stepsNonEmpty := List.cons_ne_nil _ _
    stepIdsUnique := List.nodup_singleton _
    variableNamesUnique := List.nodup_nil }

def waitInput : ExecutionInput :=
  { workflow := some waitWorkflow
    options :=
      some
        { totalTimeoutMs := ⟨1000, by decide, by decide⟩
          stepTimeoutMs := ⟨1000, by decide, by decide⟩
          recoveryMode := .automaticSafeOnly }
    verdicts :=
      { envelopeValid := true
        inputsValid := true
        inputsHaveBlockingIssues := false
        verificationsHaveIssues := false
        runtimeValues := none
        allowedOrigins := none
        stepSupport := none } }

def allDependencies : EngineDependencies :=
  { progressSink := true
    approvalCoordinator := true
    recoveryCoordinator := true }

theorem execute_followsProtocol_wait :
    (execute ⟨1⟩ allDependencies waitInput).Ensures FollowsProtocol
      (EngineWorld.initial false) :=
  execute_followsProtocol ⟨1⟩ allDependencies waitInput false (by decide)

end TaskTwin.Engine
