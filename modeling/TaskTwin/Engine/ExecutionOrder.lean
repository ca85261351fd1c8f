import TaskTwin.Engine.RunProtocol

/-!
# The order of adapter calls

Steps are executed in the order of the workflow and one at a time, each after
all of its predecessors succeeded, and a gated step only after its approval
was granted.
-/

namespace TaskTwin.Engine

open Effect Effect.Program Schema Workflow Recovery

/-- Every call of `executeStep` was allowed by what came before it. -/
def EveryCall (allowed : List HistoryEntry → AdapterStepContext → Prop) :
    List HistoryEntry → Prop
  | [] => True
  | .stepExecuted context :: past =>
      allowed past context ∧ EveryCall allowed past
  | _ :: past => EveryCall allowed past

theorem EveryCall.past
    {allowed : List HistoryEntry → AdapterStepContext → Prop}
    {entry : HistoryEntry}
    {past : List HistoryEntry}
    (every : EveryCall allowed (entry :: past)) :
    EveryCall allowed past := by
  cases entry with
  | stepExecuted context => exact every.2
  | _ => exact every

/-- The call at any place of the history. -/
theorem EveryCall.at
    {allowed : List HistoryEntry → AdapterStepContext → Prop}
    {history later past : List HistoryEntry}
    {context : AdapterStepContext}
    (every : EveryCall allowed history)
    (split : history = later ++ .stepExecuted context :: past) :
    allowed past context := by
  subst split
  induction later with
  | nil => exact every.1
  | cons entry rest inductionHypothesis =>
      exact inductionHypothesis every.past

/-- Whether the adapter has not answered its latest call. -/
def callOpen : List HistoryEntry → Bool
  | [] => false
  | .stepExecuted _ :: _ => true
  | .stepAnswered .. :: _ => false
  | _ :: past => callOpen past

def HistoryEntry.isCall : HistoryEntry → Bool
  | .stepExecuted _ => true
  | _ => false

/-- The entries that were added since are not calls. -/
def Grows (core core' : EngineCore) : Prop :=
  ∃ entries,
    core'.history = entries ++ core.history ∧
      ∀ entry ∈ entries, entry.isCall = false

theorem Grows.mem
    {core core' : EngineCore}
    (grows : Grows core core')
    {entry : HistoryEntry}
    (listed : entry ∈ core.history) :
    entry ∈ core'.history := by
  obtain ⟨entries, isHistory, _⟩ := grows
  rw [isHistory]
  exact List.mem_append_right _ listed

theorem Grows.call
    {core core' : EngineCore}
    (grows : Grows core core')
    {context : AdapterStepContext}
    (listed : .stepExecuted context ∈ core'.history) :
    .stepExecuted context ∈ core.history := by
  obtain ⟨entries, isHistory, noCalls⟩ := grows
  rw [isHistory] at listed
  rcases List.mem_append.mp listed with isNew | isOld
  · cases noCalls _ isNew
  · exact isOld

/-- The success of a step was announced. -/
def Succeeded
    (executionId : Uuid)
    (history : List HistoryEntry)
    (step : WorkflowStep) :
    Prop :=
  ∃ timestamp,
    HistoryEntry.emitted
        { executionId
          timestamp
          kind := .stepStatusChanged step.id step.type .succeeded none none } ∈
      history

/-- The coordinator granted the approval that the step at an index asks for. -/
def Granted (history : List HistoryEntry) (index : Nat) : Prop :=
  ∃ approval,
    HistoryEntry.approvalAnswered index (.ok approval) ∈ history ∧
      approval.decision = .approved

structure MayExecute
    (executionId : Uuid)
    (steps : List WorkflowStep)
    (past : List HistoryEntry)
    (context : AdapterStepContext) :
    Prop where
  isStep : steps[context.stepIndex]? = some context.step
  inOrder :
    ∀ earlier,
      .stepExecuted earlier ∈ past → earlier.stepIndex ≤ context.stepIndex
  alone : callOpen past = false
  afterSuccess :
    ∀ index step,
      index < context.stepIndex →
      steps[index]? = some step →
      Succeeded executionId past step
  unended : terminations past = []
  granted :
    ∀ index step,
      context.stepIndex = index + 1 →
      steps[index]? = some step →
      step.type = .approval →
      Granted past index

variable
    {dependencies : EngineDependencies}
    {executionId : Uuid}
    {plan : RunPlan dependencies}
    {core core' : EngineCore}
    {index : Nat}
    {step : WorkflowStep}

/-- How far a run has come. -/
structure Progressed
    (executionId : Uuid)
    (plan : RunPlan dependencies)
    (core : EngineCore)
    (index : Nat) :
    Prop where
  inOrder :
    ∀ context,
      .stepExecuted context ∈ core.history → context.stepIndex ≤ index
  afterSuccess :
    ∀ earlier step,
      earlier < index →
      plan.steps[earlier]? = some step →
      Succeeded executionId core.history step
  granted :
    ∀ earlier step,
      earlier < index →
      plan.steps[earlier]? = some step →
      step.type = .approval →
      Granted core.history earlier

theorem Progressed.grow
    (progressed : Progressed executionId plan core index)
    (grows : Grows core core') :
    Progressed executionId plan core' index := by
  constructor
  case inOrder =>
    intro context listed
    exact progressed.inOrder context (grows.call listed)
  case afterSuccess =>
    intro earlier step isEarlier atEarlier
    obtain ⟨timestamp, listed⟩ :=
      progressed.afterSuccess earlier step isEarlier atEarlier
    exact ⟨timestamp, grows.mem listed⟩
  case granted =>
    intro earlier step isEarlier atEarlier isApproval
    obtain ⟨approval, listed, approved⟩ :=
      progressed.granted earlier step isEarlier atEarlier isApproval
    exact ⟨approval, grows.mem listed, approved⟩

/-- Going on to the next step. -/
theorem Progressed.next
    (progressed : Progressed executionId plan core index)
    (grows : Grows core core')
    (atIndex : plan.steps[index]? = some step)
    (succeeded : Succeeded executionId core'.history step)
    (granted : step.type = .approval → Granted core'.history index) :
    Progressed executionId plan core' (index + 1) := by
  have grown := progressed.grow grows
  constructor
  case inOrder =>
    intro context listed
    exact Nat.le_succ_of_le (grown.inOrder context listed)
  case afterSuccess =>
    intro earlier other isEarlier atEarlier
    rcases Nat.lt_succ_iff_lt_or_eq.mp isEarlier with before | rfl
    · exact grown.afterSuccess earlier other before atEarlier
    · cases atIndex.symm.trans atEarlier
      exact succeeded
  case granted =>
    intro earlier other isEarlier atEarlier isApproval
    rcases Nat.lt_succ_iff_lt_or_eq.mp isEarlier with before | rfl
    · exact grown.granted earlier other before atEarlier isApproval
    · cases atIndex.symm.trans atEarlier
      exact granted isApproval

/-- The step at an index is one that the adapter executes. -/
def IsAction (plan : RunPlan dependencies) (index : Nat) : Prop :=
  ∀ step, plan.steps[index]? = some step → step.type ≠ .approval

def ProgressedAt
    (executionId : Uuid)
    (plan : RunPlan dependencies) :
    RunState → Prop
  | ⟨.created, core⟩ => core.history = []
  | ⟨.announced, core⟩ =>
      callOpen core.history = false ∧ Progressed executionId plan core 0
  | ⟨.validating, core⟩ =>
      callOpen core.history = false ∧ Progressed executionId plan core 0
  | ⟨.initializing _, core⟩ =>
      callOpen core.history = false ∧ Progressed executionId plan core 0
  | ⟨.starting, core⟩ =>
      callOpen core.history = false ∧ Progressed executionId plan core 0
  | ⟨.ready index, core⟩ =>
      callOpen core.history = false ∧ Progressed executionId plan core index
  | ⟨.awaitingApproval index _ _, core⟩ =>
      callOpen core.history = false ∧ Progressed executionId plan core index
  | ⟨.attempting index _ _, core⟩ =>
      callOpen core.history = false ∧ IsAction plan index ∧
        Progressed executionId plan core index
  | ⟨.executing index _, core⟩ =>
      IsAction plan index ∧ Progressed executionId plan core index
  | ⟨.judging index _ _, core⟩ =>
      callOpen core.history = false ∧ IsAction plan index ∧
        Progressed executionId plan core index
  | ⟨.awaitingRepair index _ _ _, core⟩ =>
      callOpen core.history = false ∧ IsAction plan index ∧
        Progressed executionId plan core index
  | ⟨.closing index .succeeded, core⟩ =>
      callOpen core.history = false ∧ IsAction plan index ∧
        Progressed executionId plan core index
  | _ => True

/-- The call of an attempt that was just announced. -/
theorem Progressed.call
    {context : AdapterStepContext}
    (progressed : Progressed executionId plan core index)
    (atIndex : context.stepIndex = index)
    (grows :
      ∃ entries,
        core'.history = .stepExecuted context :: (entries ++ core.history) ∧
          ∀ entry ∈ entries, entry.isCall = false) :
    Progressed executionId plan core' index := by
  obtain ⟨entries, isHistory, noCalls⟩ := grows
  have keeps {entry : HistoryEntry} (listed : entry ∈ core.history) :
      entry ∈ core'.history := by
    rw [isHistory]
    exact List.mem_cons_of_mem _ (List.mem_append_right _ listed)
  constructor
  case inOrder =>
    intro other listed
    rw [isHistory] at listed
    rcases List.mem_cons.mp listed with isNew | isOld
    · cases isNew
      exact Nat.le_of_eq atIndex
    · rcases List.mem_append.mp isOld with isEntry | isOld
      · cases noCalls _ isEntry
      · exact progressed.inOrder other isOld
  case afterSuccess =>
    intro earlier step isEarlier atEarlier
    obtain ⟨timestamp, listed⟩ :=
      progressed.afterSuccess earlier step isEarlier atEarlier
    exact ⟨timestamp, keeps listed⟩
  case granted =>
    intro earlier step isEarlier atEarlier isApproval
    obtain ⟨approval, listed, approved⟩ :=
      progressed.granted earlier step isEarlier atEarlier isApproval
    exact ⟨approval, keeps listed, approved⟩

theorem Grows.answered
    (core : EngineCore)
    (answer : Except EngineError AdapterStepOutput)
    (verification : Option SafeVerificationResult) :
    Grows core
      ((core.note (.stepAnswered index answer)).verifyRecord index
        verification) :=
  ⟨[.stepAnswered index answer], by simp, by simp [HistoryEntry.isCall]⟩

theorem callOpen_answered
    (core : EngineCore)
    (answer : Except EngineError AdapterStepOutput)
    (verification : Option SafeVerificationResult) :
    callOpen
        ((core.note (.stepAnswered index answer)).verifyRecord index
          verification).history =
      false := by
  simp [callOpen]

theorem progressed_step
    {state state' : RunState}
    (shape : Shape plan state)
    (progressed : ProgressedAt executionId plan state)
    (stepped : RunStep executionId plan state state') :
    ProgressedAt executionId plan state' := by
  cases stepped with
  | @announced core timestamp =>
      have isEmpty : core.history = [] := progressed
      have created :
          (core.tell executionId timestamp
              (.runStatusChanged .pending none)).history =
            [.emitted
              { executionId
                timestamp
                kind := .runStatusChanged .pending none }] := by
        simp [isEmpty]
      refine ⟨?_, ?_, by simp, by simp⟩
      · rw [created]
        rfl
      · intro context listed
        rw [created] at listed
        simp at listed
  | leftUnvalidated =>
      exact ⟨progressed.1, progressed.2.grow ⟨[], rfl, by simp⟩⟩
  | validated timestamp =>
      exact ⟨progressed.1,
        progressed.2.grow ⟨[_], rfl, by simp [HistoryEntry.isCall]⟩⟩
  | stepsCreated =>
      exact ⟨progressed.1, progressed.2.grow ⟨[], rfl, by simp⟩⟩
  | initialized timestamp atNext =>
      exact ⟨progressed.1,
        progressed.2.grow ⟨[_], rfl, by simp [HistoryEntry.isCall]⟩⟩
  | started timestamp executed isValidating =>
      exact ⟨progressed.1,
        progressed.2.grow ⟨[_, _], rfl, by simp [HistoryEntry.isCall]⟩⟩
  | ran timestamp =>
      exact ⟨progressed.1,
        progressed.2.grow ⟨[_], rfl, by simp [HistoryEntry.isCall]⟩⟩
  | opened startedAtMs timestamp atIndex isAction =>
      refine ⟨progressed.1, ?_,
        progressed.2.grow ⟨[_], rfl, by simp [HistoryEntry.isCall]⟩⟩
      intro step atStep
      cases atIndex.symm.trans atStep
      exact isAction
  | approvalRequested startedAtMs openedAt begunAt waitsAt runWaitsAt askedAt
      request executed atIndex isApproval bound openedCore isAttempt =>
      subst openedCore
      exact ⟨progressed.1,
        progressed.2.grow
          ⟨[_, _, _, _, _, _], rfl, by simp [HistoryEntry.isCall]⟩⟩
  | approvalGranted approval ranAt finishedAtMs succeededAt attemptFinishedAt
      atIndex approved =>
      refine ⟨progressed.1, progressed.2.next
        ⟨[_, _, _, _, _], rfl, by simp [HistoryEntry.isCall]⟩ atIndex ?_ ?_⟩
      · exact ⟨succeededAt, by simp⟩
      · intro _
        exact ⟨approval, by simp, approved⟩
  | attemptBegun context startedAt atIndex isAttempt ofStep ofAttempt =>
      obtain ⟨_, isAction, progressed⟩ := progressed
      exact ⟨isAction,
        progressed.call ofStep.1 ⟨[_], rfl, by simp [HistoryEntry.isCall]⟩⟩
  | adapterThrew error =>
      obtain ⟨isAction, progressed⟩ := progressed
      exact ⟨callOpen_answered _ _ _, isAction,
        progressed.grow (.answered _ _ _)⟩
  | outputRefused output refuses =>
      obtain ⟨isAction, progressed⟩ := progressed
      exact ⟨callOpen_answered _ _ _, isAction,
        progressed.grow (.answered _ _ _)⟩
  | adapterAnswered output atIndex noOutput =>
      obtain ⟨isAction, progressed⟩ := progressed
      exact ⟨callOpen_answered _ _ _, isAction,
        progressed.grow (.answered _ _ _)⟩
  | outputProduced output value timestamp atIndex defined stored =>
      obtain ⟨isAction, progressed⟩ := progressed
      exact ⟨callOpen_answered _ _ _, isAction,
        (progressed.grow (.answered _ _ _)).grow
          ⟨[_], rfl, by simp [HistoryEntry.isCall]⟩⟩
  | attemptSucceeded finishedAt atIndex =>
      obtain ⟨answered, isAction, progressed⟩ := progressed
      exact ⟨answered, isAction,
        progressed.grow ⟨[_], rfl, by simp [HistoryEntry.isCall]⟩⟩
  | attemptRetried finishedAt executed atIndex decided retries =>
      obtain ⟨answered, isAction, progressed⟩ := progressed
      exact ⟨answered, isAction,
        progressed.grow ⟨[_], rfl, by simp [HistoryEntry.isCall]⟩⟩
  | repairRequested request finishedAt waitsAt runWaitsAt executed atIndex
      decided repairs =>
      obtain ⟨answered, isAction, progressed⟩ := progressed
      exact ⟨answered, isAction,
        progressed.grow ⟨[_, _, _, _], rfl, by simp [HistoryEntry.isCall]⟩⟩
  | repairRetried repair ranAt steppedAt atIndex retry =>
      obtain ⟨answered, isAction, progressed⟩ := progressed
      exact ⟨answered, isAction,
        progressed.grow ⟨[_, _, _, _], rfl, by simp [HistoryEntry.isCall]⟩⟩
  | closedSucceeded finishedAtMs timestamp atIndex =>
      obtain ⟨answered, isAction, progressed⟩ := progressed
      refine ⟨answered, progressed.next
        ⟨[_], rfl, by simp [HistoryEntry.isCall]⟩ atIndex ?_ ?_⟩
      · exact ⟨timestamp, by simp⟩
      · intro isApproval
        exact absurd isApproval (isAction _ atIndex)
  | _ => trivial

/-- Every call so far was allowed. -/
theorem everyCall_step
    {state state' : RunState}
    (shape : Shape plan state)
    (uses : UsesAt state)
    (progressed : ProgressedAt executionId plan state)
    (every :
      EveryCall (MayExecute executionId plan.steps) state.core.history)
    (stepped : RunStep executionId plan state state') :
    EveryCall (MayExecute executionId plan.steps) state'.core.history := by
  cases stepped with
  | approvalRequested startedAtMs openedAt begunAt waitsAt runWaitsAt askedAt
      request executed atIndex isApproval bound openedCore isAttempt =>
      subst openedCore
      exact every
  | @attemptBegun core index step trigger repairRequestId attempt context
      startedAt atIndex isAttempt ofStep ofAttempt =>
      obtain ⟨answered, isAction, progressed⟩ := progressed
      have unended := uses.terminations
      rw [shape.1.unended] at unended
      have grown :
          Progressed executionId plan
            (core.tellBegun executionId index step attempt) index :=
        progressed.grow ⟨[_], rfl, by simp [HistoryEntry.isCall]⟩
      refine ⟨?_, every⟩
      exact
        { isStep := by rw [ofStep.1, ofStep.2, atIndex]
          inOrder := by
            rw [ofStep.1]
            exact grown.inOrder
          alone := answered
          afterSuccess := by
            rw [ofStep.1]
            exact grown.afterSuccess
          unended := unended
          granted := by
            intro earlier other isNext atEarlier isApproval
            rw [ofStep.1] at isNext
            exact grown.granted earlier other (by omega) atEarlier isApproval }
  | adapterThrew error => simpa [EveryCall] using every
  | outputRefused output refuses => simpa [EveryCall] using every
  | adapterAnswered output atIndex noOutput => simpa [EveryCall] using every
  | outputProduced output value timestamp atIndex defined stored =>
      simpa [EveryCall] using every
  | @concludedCancelled core primary cleanupError warnedAt timestamp cancels =>
      cases cleanupError <;> exact every
  | @concludedTerminated core primary cleanupError warnedAt terminal =>
      cases cleanupError <;> exact every
  | _ => exact every

/-- What holds of the calls in every reachable state. -/
structure OrderedAt
    (executionId : Uuid)
    (plan : RunPlan dependencies)
    (state : RunState) :
    Prop where
  shape : Shape plan state
  uses : UsesAt state
  progressed : ProgressedAt executionId plan state
  every : EveryCall (MayExecute executionId plan.steps) state.core.history

theorem RunReaches.ordered
    {state : RunState}
    (reaches : RunReaches executionId plan state) :
    OrderedAt executionId plan state := by
  refine Reachable.invariant ?_ ?_ reaches
  · intro start isStart
    rw [isStart]
    exact ⟨⟨rfl, rfl⟩, ⟨⟨rfl, rfl, rfl, rfl⟩, rfl⟩, rfl, trivial⟩
  · intro before after kept stepped
    obtain ⟨shape, uses, progressed, every⟩ := kept
    exact ⟨shape_step shape stepped, uses_step shape uses stepped,
      progressed_step shape progressed stepped,
      everyCall_step shape uses progressed every stepped⟩

/-- Steps that succeeded, perhaps one at which the run ended, skipped steps. -/
def StepsShape (statuses : List TerminalStepStatus) : Prop :=
  ∃ succeeded ended skipped,
    statuses = succeeded ++ ended ++ skipped ∧
      (∀ status ∈ succeeded, status = .succeeded) ∧
      ended.length ≤ 1 ∧
      (∀ status ∈ ended, status ≠ .succeeded ∧ status ≠ .skipped) ∧
      ∀ status ∈ skipped, status = .skipped

/-- A list that is cut at one position has the shape. -/
theorem StepsShape.cut
    {statuses : List TerminalStepStatus}
    {index : Nat}
    (before :
      ∀ earlier status,
        earlier < index → statuses[earlier]? = some status →
          status = .succeeded)
    (current :
      ∀ status, statuses[index]? = some status → status ≠ .succeeded)
    (after :
      ∀ later status,
        index < later → statuses[later]? = some status →
          status = .skipped) :
    StepsShape statuses := by
  have isBefore : ∀ status ∈ statuses.take index, status = .succeeded := by
    intro status listed
    obtain ⟨earlier, found⟩ := List.mem_iff_getElem?.mp listed
    rw [List.getElem?_take] at found
    split at found
    · exact before earlier status ‹_› found
    · cases found
  have isAfter : ∀ status ∈ statuses.drop (index + 1), status = .skipped := by
    intro status listed
    obtain ⟨offset, found⟩ := List.mem_iff_getElem?.mp listed
    rw [List.getElem?_drop] at found
    exact after _ status (by omega) found
  have split := List.take_append_drop index statuses
  cases atIndex : statuses[index]? with
  | none =>
      have ended : statuses.drop index = [] :=
        List.drop_eq_nil_iff.mpr (List.getElem?_eq_none_iff.mp atIndex)
      exact ⟨statuses.take index, [], [], by simpa [ended] using split.symm,
        isBefore, by simp, by simp, by simp⟩
  | some status =>
      have inside := (List.getElem?_eq_some_iff.mp atIndex).1
      have isStatus := (List.getElem?_eq_some_iff.mp atIndex).2
      rw [List.drop_eq_getElem_cons inside, isStatus] at split
      by_cases isSkipped : status = .skipped
      · refine ⟨statuses.take index, [], status :: statuses.drop (index + 1),
          by simpa using split.symm, isBefore, by simp, by simp, ?_⟩
        intro other listed
        rcases List.mem_cons.mp listed with rfl | later
        · exact isSkipped
        · exact isAfter other later
      · refine ⟨statuses.take index, [status], statuses.drop (index + 1),
          by simpa using split.symm, isBefore, by simp, ?_, isAfter⟩
        intro other listed
        rw [List.mem_singleton.mp listed]
        exact ⟨current status atIndex, isSkipped⟩

/-- What is known of one record of a run that is over. -/
theorem Leaving.recordStatus
    {steps : List WorkflowStep}
    {primary : Option PrimaryTermination}
    (leaving : Leaving steps core primary index)
    (nonePending : NonePending core) :
    (∀ earlier record,
        earlier < index → core.records[earlier]? = some record →
          record.status = .succeeded) ∧
      (∀ record,
        core.records[index]? = some record → record.status ≠ .succeeded) ∧
      ∀ later record,
        index < later → core.records[later]? = some record →
          record.status = .skipped := by
  refine ⟨?_, ?_, ?_⟩
  · intro earlier record isEarlier found
    exact (leaving.before earlier record isEarlier found).succeeded
  · intro record found
    rcases leaving.current record found with
      ⟨chosen, _, ended⟩ | untouched | skipped
    · rw [ended.ended]
      cases chosen.cause <;> simp [terminatedStepStatus]
    · rw [untouched]
      simp [ExecutionStepRecord.create]
    · rw [skipped.skipped]
      simp
  · intro later record isLater found
    rcases leaving.after later record isLater found with untouched | skipped
    · refine absurd ?_ (nonePending record (List.mem_of_getElem? found))
      rw [untouched]
      rfl
    · exact skipped.skipped

theorem stepsShape_of_finished
    {ending : RunEnd}
    {steps : List StepExecutionResult}
    (shape : Shape plan ⟨.finished ending, core⟩)
    (mapped : core.records.mapM stepResult = some steps) :
    StepsShape (steps.map StepExecutionResult.status) := by
  obtain ⟨_, nonePending, primary, index, leaving⟩ := shape
  obtain ⟨before, current, after⟩ := leaving.recordStatus nonePending
  have recordOf
      {position : Nat}
      {status : TerminalStepStatus}
      (found :
        (steps.map StepExecutionResult.status)[position]? = some status) :
      ∃ record,
        core.records[position]? = some record ∧
          TerminalStepStatus.parse record.status = some status := by
    rw [List.getElem?_map, Option.map_eq_some_iff] at found
    obtain ⟨step, atPosition, rfl⟩ := found
    rw [(stepResults_at mapped position).1, Option.bind_eq_some_iff]
      at atPosition
    obtain ⟨record, present, isResult⟩ := atPosition
    exact ⟨record, present, stepResult_status isResult⟩
  apply @StepsShape.cut _ index
  · intro earlier status isEarlier found
    obtain ⟨record, present, parsed⟩ := recordOf found
    rw [before earlier record isEarlier present] at parsed
    cases parsed
    rfl
  · intro status found isSucceeded
    obtain ⟨record, present, parsed⟩ := recordOf found
    apply current record present
    rw [isSucceeded] at parsed
    cases recordStatus : record.status <;>
      simp [recordStatus, TerminalStepStatus.parse] at parsed
    rfl
  · intro later status isLater found
    obtain ⟨record, present, parsed⟩ := recordOf found
    rw [after later record isLater present] at parsed
    cases parsed
    rfl

/-- The workflow of a plan is the one that was asked for. -/
theorem Planned.workflow
    {input : ExecutionInput}
    (planned : Planned input plan) :
    plan.workflow = input.workflow := by
  cases planned with
  | abortedBefore => rfl
  | failed answer => rfl
  | prepared answer =>
      exact (preflightWorkflowExecution_answers input _ answer).1

/-- What holds of the calls and of the result of an execution. -/
structure ExecutesInOrder
    (executionId : Uuid)
    (input : ExecutionInput)
    (outcome : Outcome EngineError WorkflowExecutionResult)
    (world : EngineWorld) :
    Prop where
  calls :
    ∀ later context past,
      world.core.history = later ++ .stepExecuted context :: past →
      MayExecute executionId (declaredSteps input.workflow) past context
  result :
    ∀ result,
      outcome = .returned result →
      StepsShape (result.steps.map StepExecutionResult.status)

/-- Every execution calls the adapter in order and reports a run in order. -/
theorem execute_executesInOrder
    (executionId : Uuid)
    (dependencies : EngineDependencies)
    (input : ExecutionInput)
    (aborted : Bool) :
    (execute executionId dependencies input).Ensures
      (ExecutesInOrder executionId input) (EngineWorld.initial aborted) := by
  refine (execute_concludes executionId dependencies input aborted).mono ?_
  intro outcome world concluded
  cases concluded with
  | preflightThrew answer reaches threw =>
      refine ⟨?_, by simp [threw]⟩
      intro later context past split
      exact reaches.ordered.every.at split
  | @built plan planned builds =>
      obtain ⟨ending, final, reaches, resultOf, isOutcome⟩ := builds
      constructor
      case calls =>
        intro later context past split
        have allowed := reaches.ordered.every.at split
        rwa [RunPlan.steps, planned.workflow] at allowed
      case result =>
        intro result returned
        obtain ⟨steps, mapped, rfl, _⟩ :=
          returned_of_builds isOutcome returned
        rw [resultOf.records] at mapped
        exact stepsShape_of_finished reaches.shape mapped

end TaskTwin.Engine
