import TaskTwin.Engine.Contracts

/-!
# Run and step state machines

The transition tables of a run and of its steps, and the machine that keeps
at most one step running.
-/

namespace TaskTwin.Engine

open Schema Workflow

/-- The transition table of a run. -/
def runTransitions :
    WorkflowEngineRunStatus → List WorkflowEngineRunStatus
  | .pending => [.validating, .cancelling]
  | .validating => [.starting, .cancelling, .failed]
  | .starting => [.running, .cancelling, .failed, .timedOut]
  | .running =>
      [.waitingForApproval, .waitingForRepair, .cancelling, .succeeded,
        .failed, .timedOut, .interrupted]
  | .waitingForApproval =>
      [.running, .cancelling, .failed, .timedOut, .interrupted]
  | .waitingForRepair =>
      [.running, .cancelling, .failed, .timedOut, .interrupted]
  | .cancelling => [.cancelled]
  | .succeeded => []
  | .failed => []
  | .cancelled => []
  | .timedOut => []
  | .interrupted => []

/-- The transition table of a step. -/
def stepTransitions :
    WorkflowEngineStepStatus → List WorkflowEngineStepStatus
  | .pending => [.running, .skipped]
  | .running =>
      [.waitingForApproval, .waitingForRepair, .succeeded, .failed,
        .cancelled, .timedOut, .interrupted]
  | .waitingForApproval =>
      [.succeeded, .failed, .cancelled, .timedOut, .interrupted]
  | .waitingForRepair =>
      [.running, .failed, .cancelled, .timedOut, .interrupted]
  | .succeeded => []
  | .failed => []
  | .cancelled => []
  | .timedOut => []
  | .skipped => []
  | .interrupted => []

/-- `StepStateMachine`: the state of every step and the one that runs. -/
structure StepStateMachine where
  states : NonEmptyString → Option WorkflowEngineStepStatus
  runningStepId : Option NonEmptyString

/-- The machine of a list of steps, all of them pending. -/
def StepStateMachine.create (steps : List WorkflowStep) : StepStateMachine :=
  { states := fun stepId =>
      if stepId ∈ steps.map WorkflowStep.id then some .pending else none
    runningStepId := none }

/-- Whether `transition` accepts the move instead of throwing. -/
def StepStateMachine.allows
    (machine : StepStateMachine)
    (stepId : NonEmptyString)
    (next : WorkflowEngineStepStatus) :
    Bool :=
  match machine.states stepId with
  | none => false
  | some current =>
      (stepTransitions current).contains next &&
        !(next == .running &&
          machine.runningStepId.any fun running => running != stepId)

/-- The machine after an accepted move. -/
def StepStateMachine.moved
    (machine : StepStateMachine)
    (stepId : NonEmptyString)
    (next : WorkflowEngineStepStatus) :
    StepStateMachine :=
  { states := fun candidate =>
      if candidate = stepId then some next else machine.states candidate
    runningStepId :=
      if next = .running then some stepId
      else if machine.states stepId = some .running then none
      else machine.runningStepId }

@[simp] theorem StepStateMachine.moved_states_self
    (machine : StepStateMachine)
    (stepId : NonEmptyString)
    (next : WorkflowEngineStepStatus) :
    (machine.moved stepId next).states stepId = some next := by
  simp [StepStateMachine.moved]

@[simp] theorem StepStateMachine.moved_states_of_ne
    (machine : StepStateMachine)
    {stepId other : NonEmptyString}
    (next : WorkflowEngineStepStatus)
    (different : other ≠ stepId) :
    (machine.moved stepId next).states other = machine.states other := by
  simp [StepStateMachine.moved, different]

theorem StepStateMachine.allows_of_state
    {machine : StepStateMachine}
    {stepId : NonEmptyString}
    {current next : WorkflowEngineStepStatus}
    (atCurrent : machine.states stepId = some current)
    (listed : next ∈ stepTransitions current)
    (free :
      next = .running →
        machine.runningStepId = none ∨
          machine.runningStepId = some stepId) :
    machine.allows stepId next = true := by
  simp only [StepStateMachine.allows, atCurrent, Bool.and_eq_true,
    List.contains_iff_mem, listed, true_and, Bool.not_eq_true',
    Bool.and_eq_false_iff, beq_eq_false_iff_ne]
  by_cases starts : next = .running
  · right
    rcases free starts with isFree | isSame
    · simp [isFree]
    · simp [isSame]
  · exact Or.inl starts

end TaskTwin.Engine
