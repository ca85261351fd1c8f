import TaskTwin.Engine.RunModel

/-!
# Rules for engine programs

What the race can look like at every call, and one rule for each of the
engine's small programs in front of a continuation.  Every rule leaves the
race and the progress emitter open, since signals and the sink may have
changed them.
-/

namespace TaskTwin.Engine

open Effect Effect.Program Schema Workflow Recovery

/-- Whether the end of the run has been chosen. -/
inductive RaceStatus where
  /-- Not yet; the step may have recorded its own cause to end the run. -/
  | undecided (own : Option PrimaryTermination)
  | decided (primary : PrimaryTermination)

/-- What a candidate is while the end of the run is not chosen. -/
def Admissible
    (own : Option PrimaryTermination)
    (candidate : TerminationCandidate) :
    Prop :=
  External candidate.primary ∨ own = some candidate.primary

def Racing : RaceStatus → TerminationRace → Prop
  | .undecided own, race =>
      race.arbiter.locked = none ∧
        race.arbiter.All (Admissible own) ∧
        (own.isSome = true → race.arbiter.candidates ≠ [])
  | .decided primary, race =>
      race.arbiter.locked.map TerminationCandidate.primary = some primary

theorem Racing.start (aborted : Bool) :
    Racing (.undecided none) (EngineWorld.initial aborted).race :=
  ⟨rfl, TerminationArbiter.all_create _, by simp⟩

variable {status : RaceStatus} {race : TerminationRace}

/-- Changing anything but the arbiter. -/
theorem Racing.sameArbiter
    {race race' : TerminationRace}
    (racing : Racing status race)
    (same : race'.arbiter = race.arbiter) :
    Racing status race' := by
  cases status with
  | undecided own =>
      rw [Racing, same]
      exact racing
  | decided primary =>
      rw [Racing, same]
      exact racing

theorem TerminationArbiter.record_locked
    (arbiter : TerminationArbiter)
    (candidate : TerminationCandidate) :
    (arbiter.record candidate).locked = arbiter.locked := by
  cases isLocked : arbiter.locked <;>
    simp [TerminationArbiter.record, isLocked]

/-- A candidate that is recorded before the end is chosen stays recorded. -/
theorem TerminationArbiter.record_candidates
    {arbiter : TerminationArbiter}
    (isOpen : arbiter.locked = none)
    (candidate : TerminationCandidate) :
    (arbiter.record candidate).candidates ≠ [] := by
  simp [TerminationArbiter.record, isOpen]

theorem Racing.record
    (racing : Racing status race)
    {candidate : TerminationCandidate}
    (external : External candidate.primary) :
    Racing status (race.record candidate) := by
  cases status with
  | undecided own =>
      obtain ⟨isOpen, all, _⟩ := racing
      have stillOpen := race.arbiter.record_locked candidate
      exact ⟨stillOpen.trans isOpen, all.record (Or.inl external),
        fun _ => TerminationArbiter.record_candidates isOpen candidate⟩
  | decided primary =>
      rw [Racing, TerminationRace.record, TerminationArbiter.record_locked]
      exact racing

/-- The step records its own cause to end the run. -/
theorem Racing.recordOwn
    (racing : Racing (.undecided none) race)
    (candidate : TerminationCandidate) :
    Racing (.undecided (some candidate.primary)) (race.record candidate) := by
  obtain ⟨isOpen, ⟨recorded, locked⟩, _⟩ := racing
  have all : race.arbiter.All (Admissible (some candidate.primary)) := by
    refine ⟨?_, by simp [isOpen]⟩
    intro entry listed
    rcases recorded entry listed with external | own
    · exact Or.inl external
    · cases own
  have stillOpen := race.arbiter.record_locked candidate
  exact ⟨stillOpen.trans isOpen, all.record (Or.inr rfl),
    fun _ => TerminationArbiter.record_candidates isOpen candidate⟩

/-- Once the end is chosen, nothing that is recorded matters. -/
theorem Racing.recordLate
    {primary : PrimaryTermination}
    {race : TerminationRace}
    (racing : Racing (.decided primary) race)
    (candidate : TerminationCandidate) :
    Racing (.decided primary) (race.record candidate) := by
  rw [Racing, TerminationRace.record, TerminationArbiter.record_locked]
  exact racing

theorem Racing.signal
    (racing : Racing status race)
    (signal : EngineSignal) :
    Racing status (race.signal signal) := by
  cases signal with
  | aborted atMs =>
      simp only [TerminationRace.signal]
      split
      · exact racing
      · split
        · exact (@Racing.record _ _ racing (cancelCandidate atMs)
            .cancelled).sameArbiter rfl
        · exact racing.sameArbiter rfl
  | timerFired =>
      simp only [TerminationRace.signal]
      split
      · exact (@Racing.record _ _ racing (timeoutCandidate race.deadlineMs)
          .timedOut).sameArbiter rfl
      · exact racing

theorem Racing.signalled
    (racing : Racing status race)
    (signals : List EngineSignal) :
    Racing status (race.signalled signals) := by
  induction signals generalizing race with
  | nil => exact racing
  | cons signal rest inductionHypothesis =>
      exact inductionHypothesis (racing.signal signal)

/-- The end that the first look at the candidates chooses. -/
theorem Racing.lockWinner
    {own : Option PrimaryTermination}
    {race : TerminationRace}
    (racing : Racing (.undecided own) race) :
    (own = none ∧ race.arbiter.lockWinner = (race.arbiter, none)) ∨
      ∃ winner,
        race.arbiter.lockWinner.2 = some winner ∧
          race.arbiter.lockWinner.1.locked = some winner ∧
          Admissible own winner := by
  obtain ⟨isOpen, ⟨recorded, _⟩, nonEmpty⟩ := racing
  cases first : firstCandidate race.arbiter.candidates with
  | none =>
      have isEmpty := firstCandidate_eq_none.mp first
      left
      cases own with
      | none => simp [TerminationArbiter.lockWinner, isOpen, first]
      | some primary => exact absurd isEmpty (nonEmpty rfl)
  | some winner =>
      right
      refine ⟨winner.candidate, ?_, ?_,
        recorded winner (firstCandidate_mem first)⟩
      · simp [TerminationArbiter.lockWinner, isOpen, first]
      · simp [TerminationArbiter.lockWinner, isOpen, first]

theorem EngineCore.choose_unended
    {core : EngineCore}
    (unended : core.primary = none)
    (alreadyLocked : Bool) :
    core.choose none alreadyLocked = core := by
  obtain ⟨run, steps, records, outputs, primary, history⟩ := core
  cases unended
  rfl

theorem EngineCore.choose_again
    {core : EngineCore}
    {primary : PrimaryTermination}
    (isPrimary : core.primary = some primary) :
    core.choose (some primary) true = core := by
  obtain ⟨run, steps, records, outputs, primary', history⟩ := core
  cases isPrimary
  rfl

section Rules

variable
    {β : Type}
    {post : Outcome EngineError β → EngineWorld → Prop}
    {core : EngineCore}
    {race : TerminationRace}
    {progress : SafeProgressEmitter}
    {status : RaceStatus}
    {executionId : Uuid}
    {dependencies : EngineDependencies}

theorem environment_then
    {α : Type}
    {respond : EngineReply → EngineWorld → Outcome EngineError α × EngineWorld}
    {next : α → EngineProgram β}
    (racing : Racing status race)
    (continues :
      ∀ reply race',
        Racing status race' →
        andThen (fun value world' => (next value).Ensures post world') post
          (respond reply ⟨core, race', progress⟩).1
          (respond reply ⟨core, race', progress⟩).2) :
    (environment respond >>= next).Ensures post ⟨core, race, progress⟩ := by
  refine Ensures.bind (Ensures.call ?_)
  intro reply
  exact continues reply _ (racing.signalled reply.signals)

theorem nowMs_then
    {next : Nat → EngineProgram β}
    (racing : Racing status race)
    (continues :
      ∀ now race',
        Racing status race' → (next now).Ensures post ⟨core, race', progress⟩) :
    (nowMs >>= next).Ensures post ⟨core, race, progress⟩ :=
  environment_then racing fun reply => continues reply.nowMs

theorem updateCore_then
    {update : EngineCore → EngineCore}
    {next : Unit → EngineProgram β}
    (continues : (next ()).Ensures post ⟨update core, race, progress⟩) :
    (updateCore update >>= next).Ensures post ⟨core, race, progress⟩ :=
  Ensures.modifyThen continues

theorem updateRace_then
    {update : TerminationRace → TerminationRace}
    {next : Unit → EngineProgram β}
    (continues : (next ()).Ensures post ⟨core, update race, progress⟩) :
    (updateRace update >>= next).Ensures post ⟨core, race, progress⟩ :=
  Ensures.modifyThen continues

variable {next : Unit → EngineProgram β}

theorem emit_then
    {timestamp : Nat}
    {kind : ProgressEventKind}
    (racing : Racing status race)
    (continues :
      ∀ race' progress',
        Racing status race' →
        (next ()).Ensures post
          ⟨core.tell executionId timestamp kind, race', progress'⟩) :
    (emit executionId dependencies timestamp kind >>= next).Ensures post
      ⟨core, race, progress⟩ :=
  environment_then racing fun _ race' => continues race' _

theorem transitionRun_then
    {run : WorkflowEngineRunStatus}
    {error : Option SafeExecutionError}
    (racing : Racing status race)
    (listed : run ∈ runTransitions core.run)
    (continues :
      ∀ timestamp race' progress',
        Racing status race' →
        (next ()).Ensures post
          ⟨core.tellRun executionId timestamp run error, race', progress'⟩) :
    (transitionRun executionId dependencies run error >>= next).Ensures post
      ⟨core, race, progress⟩ := by
  unfold transitionRun emitRun
  refine Ensures.assoc (Ensures.getThen ?_)
  rw [if_pos listed]
  refine Ensures.assoc (updateCore_then (Ensures.assoc ?_))
  refine nowMs_then racing ?_
  intro timestamp race' racing'
  exact emit_then racing' (continues timestamp)

theorem transitionStep_then
    {index : Nat}
    {step : WorkflowStep}
    {stepStatus : WorkflowEngineStepStatus}
    {error : Option SafeExecutionError}
    {reason : Option SkippedStepReason}
    (racing : Racing status race)
    (allowed : core.steps.allows step.id stepStatus = true)
    (continues :
      ∀ timestamp race' progress',
        Racing status race' →
        (next ()).Ensures post
          ⟨core.tellStep executionId timestamp index step stepStatus error
              reason,
            race', progress'⟩) :
    (transitionStep executionId dependencies index step stepStatus error
        reason >>= next).Ensures post
      ⟨core, race, progress⟩ := by
  unfold transitionStep
  refine Ensures.assoc (Ensures.getThen ?_)
  rw [if_pos allowed]
  refine Ensures.assoc (updateCore_then (Ensures.assoc ?_))
  refine nowMs_then racing ?_
  intro timestamp race' racing'
  exact emit_then racing' (continues timestamp)

theorem recordDeadlineIfElapsed_then
    {next : Unit → EngineProgram β}
    (racing : Racing status race)
    (continues :
      ∀ race',
        Racing status race' → (next ()).Ensures post ⟨core, race', progress⟩) :
    (recordDeadlineIfElapsed >>= next).Ensures post
      ⟨core, race, progress⟩ := by
  unfold recordDeadlineIfElapsed recordTermination
  refine Ensures.assoc (nowMs_then racing ?_)
  intro now race' racing'
  refine Ensures.assoc (Ensures.getThen ?_)
  split
  · refine updateRace_then ?_
    exact continues _ (racing'.record .timedOut)
  · exact Ensures.pureThen (continues race' racing')

/-- The end of the run is chosen, or nothing asks for it. -/
theorem choosePrimary_then
    {own : Option PrimaryTermination}
    {next : Option PrimaryTermination → EngineProgram β}
    (racing : Racing (.undecided own) race)
    (unended : core.primary = none)
    (goesOn :
      own = none →
        (next none).Ensures post ⟨core, race, progress⟩)
    (ends :
      ∀ primary race',
        External primary ∨ own = some primary →
        Racing (.decided primary) race' →
        (next (some primary)).Ensures post
          ⟨core.chosen primary, race', progress⟩) :
    (choosePrimary >>= next).Ensures post ⟨core, race, progress⟩ := by
  have isOpen := racing.1
  unfold choosePrimary
  refine Ensures.assoc (Ensures.getThen (Ensures.assoc ?_))
  refine updateCore_then (Ensures.assoc (updateRace_then ?_))
  refine Ensures.pureThen ?_
  rcases racing.lockWinner with ⟨isNone, unlocked⟩ | ⟨winner, won, locked, allowed⟩
  · simp only [unlocked, Option.map_none, EngineCore.choose_unended unended]
    exact goesOn isNone
  · simp only [won, Option.map_some, isOpen, Option.isSome_none]
    refine ends winner.primary _ allowed ?_
    simp [Racing, locked]

/-- The end that was chosen is chosen again. -/
theorem choosePrimary_decided
    {primary : PrimaryTermination}
    {next : Option PrimaryTermination → EngineProgram β}
    (racing : Racing (.decided primary) race)
    (isPrimary : core.primary = some primary)
    (continues :
      ∀ race',
        Racing (.decided primary) race' →
        (next (some primary)).Ensures post ⟨core, race', progress⟩) :
    (choosePrimary >>= next).Ensures post ⟨core, race, progress⟩ := by
  obtain ⟨winner, locked, isWinner⟩ := Option.map_eq_some_iff.mp racing
  have won : race.arbiter.lockWinner = (race.arbiter, some winner) := by
    simp [TerminationArbiter.lockWinner, locked]
  unfold choosePrimary
  refine Ensures.assoc (Ensures.getThen (Ensures.assoc ?_))
  refine updateCore_then (Ensures.assoc (updateRace_then ?_))
  refine Ensures.pureThen ?_
  simp only [won, Option.map_some, isWinner, locked, Option.isSome_some,
    EngineCore.choose_again isPrimary]
  exact continues race racing

theorem beginAttempt_then
    {next : SafeStepAttempt → EngineProgram β}
    {index : Nat}
    {step : WorkflowStep}
    {trigger : RetryTrigger}
    {repairRequestId : Option Uuid}
    (racing : Racing status race)
    (continues :
      ∀ attempt startedAt race' progress',
        attempt = newAttempt core index trigger repairRequestId startedAt →
        Racing status race' →
        (next attempt).Ensures post
          ⟨core.tellBegun executionId index step attempt, race', progress'⟩) :
    (beginAttempt executionId dependencies index step trigger
        repairRequestId >>= next).Ensures post
      ⟨core, race, progress⟩ := by
  unfold beginAttempt
  refine Ensures.assoc (nowMs_then racing ?_)
  intro startedAt race' racing'
  refine Ensures.assoc (Ensures.getThen (Ensures.assoc (updateCore_then ?_)))
  refine Ensures.assoc (emit_then racing' ?_)
  intro race'' progress'' racing''
  refine Ensures.pureThen ?_
  exact continues _ startedAt race'' progress'' rfl racing''

theorem finishAttempt_then
    {next : Unit → EngineProgram β}
    {index : Nat}
    {step : WorkflowStep}
    {attempt : SafeStepAttempt}
    {attemptStatus : StepAttemptStatus}
    {effectCertainty : ExecutionEffectCertainty}
    {retryAllowed : Bool}
    {error : Option SafeExecutionError}
    (racing : Racing status race)
    (continues :
      ∀ finishedAt race' progress',
        Racing status race' →
        (next ()).Ensures post
          ⟨core.tellFinished executionId finishedAt index step attempt
              attemptStatus effectCertainty retryAllowed error,
            race', progress'⟩) :
    (finishAttempt executionId dependencies index step attempt attemptStatus
        effectCertainty retryAllowed error >>= next).Ensures post
      ⟨core, race, progress⟩ := by
  unfold finishAttempt
  refine Ensures.assoc (nowMs_then racing ?_)
  intro finishedAt race' racing'
  refine Ensures.assoc (updateCore_then ?_)
  exact emit_then racing' (continues finishedAt)

theorem recordVerification_then
    {next : Unit → EngineProgram β}
    {index : Nat}
    {verification : Option SafeVerificationResult}
    (continues :
      (next ()).Ensures post
        ⟨core.verifyRecord index verification, race, progress⟩) :
    (recordVerification index verification >>= next).Ensures post
      ⟨core, race, progress⟩ := by
  unfold recordVerification
  cases verification with
  | none => exact Ensures.pureThen continues
  | some result =>
      refine updateCore_then ?_
      exact continues

end Rules

end TaskTwin.Engine
