import TaskTwin.JobWorker.Worker

/-!
# Quiescence

A worker that was drained or paused makes no further claim request, and a
waiter that was resolved since then can rely on it, exactly when the call did
not come while the loop was already on its way to its next request.
-/

namespace TaskTwin.JobWorker

/-- The claim that the loop awaits. -/
def Position.pendingClaim : Position → Option Nat
  | .claiming pendingClaim _ => some pendingClaim
  | _ => none

/-- The execution that the loop awaits. -/
def Position.active : Position → Option Nat
  | .executing active => some active
  | _ => none

namespace RunJobWorker

variable {worker worker' : RunJobWorker}

/-- What the loop may await when it has come to its head. -/
structure AtHead
    (worker : RunJobWorker)
    (position : Position) :
    Prop where
  noClaim : position.pendingClaim = none
  noExecution : position.active = none
  notRefreshing : position ≠ .refreshingAdmission
  returns :
    position = .waitReturned →
      worker.signalAborted = true ∨ worker.stopping = true ∨
        worker.acceptingJobs = true

theorem waitUntilAccepting_frame (worker : RunJobWorker) :
    ∃ position,
      worker.waitUntilAccepting = { worker with position } ∧
        worker.AtHead position := by
  unfold waitUntilAccepting
  split
  case isTrue waits =>
    exact ⟨_, rfl, rfl, rfl, Position.noConfusion, Position.noConfusion⟩
  case isFalse goesOn =>
    refine ⟨_, rfl, rfl, rfl, Position.noConfusion, fun _ => ?_⟩
    cases aborted : worker.signalAborted with
    | true => exact Or.inl rfl
    | false =>
        cases stops : worker.stopping with
        | true => exact Or.inr (Or.inl rfl)
        | false =>
            cases accepts : worker.acceptingJobs with
            | true => exact Or.inr (Or.inr rfl)
            | false => simp [aborted, stops, accepts] at goesOn

theorem continueLoop_frame (worker : RunJobWorker) :
    ∃ position,
      worker.continueLoop = { worker with position } ∧
        worker.AtHead position := by
  unfold continueLoop
  split
  case isTrue aborted =>
    exact ⟨_, rfl, rfl, rfl, Position.noConfusion, Position.noConfusion⟩
  case isFalse => exact waitUntilAccepting_frame worker

/-- The two nullable fields tell what the loop awaits. -/
structure TracksWork (worker : RunJobWorker) : Prop where
  claimInFlight : worker.claimInFlight = worker.position.pendingClaim
  activeRun : worker.activeRun = worker.position.active

/-- The methods that others call leave the work and the loop alone. -/
structure SameWork (worker worker' : RunJobWorker) : Prop where
  position : worker'.position = worker.position
  claimInFlight : worker'.claimInFlight = worker.claimInFlight
  activeRun : worker'.activeRun = worker.activeRun
  claimRequests : worker'.claimRequests = worker.claimRequests
  executions : worker'.executions = worker.executions

theorem pauseClaims_sameWork (worker : RunJobWorker) :
    SameWork worker worker.pauseClaims := by
  unfold pauseClaims
  split <;> exact ⟨rfl, rfl, rfl, rfl, rfl⟩

theorem beginDrain_sameWork (worker : RunJobWorker) :
    SameWork worker worker.beginDrain := by
  unfold beginDrain
  dsimp only
  split
  case isTrue =>
    have same := pauseClaims_sameWork { worker with stopping := true }
    exact ⟨same.position, same.claimInFlight, same.activeRun,
      same.claimRequests, same.executions⟩
  case isFalse => exact ⟨rfl, rfl, rfl, rfl, rfl⟩

theorem resumeClaims_sameWork (worker : RunJobWorker) :
    SameWork worker worker.resumeClaims := by
  unfold resumeClaims
  split <;> exact ⟨rfl, rfl, rfl, rfl, rfl⟩

theorem SameWork.tracksWork
    (same : SameWork worker worker')
    (tracks : worker.TracksWork) :
    worker'.TracksWork := by
  constructor
  · rw [same.claimInFlight, same.position]
    exact tracks.claimInFlight
  · rw [same.activeRun, same.position]
    exact tracks.activeRun

variable (requestParses : Bool) {event : Event} {waiter : Nat}

theorem workChanged_sameWork
    {cancelled : Bool}
    (changed : worker.workChanged waiter cancelled = some worker') :
    SameWork worker worker' := by
  unfold workChanged at changed
  split at changed
  case h_1 =>
    split at changed
    case isTrue =>
      cases changed
      exact ⟨rfl, rfl, rfl, rfl, rfl⟩
    case isFalse => cases changed
  case h_2 => cases changed

theorem waitCancelled_sameWork
    (cancelled : worker.waitCancelled waiter = some worker') :
    SameWork worker worker' := by
  unfold waitCancelled at cancelled
  split at cancelled
  case h_1 =>
    cases cancelled
    exact ⟨rfl, rfl, rfl, rfl, rfl⟩
  case h_2 => cases cancelled

/-- An event of the loop, not a call of another method. -/
def Event.isOfLoop : Event → Bool
  | .runLoop | .admissionChanged | .waitReturned _ | .admissionRefreshed _ _
  | .claimAnswered _ | .claimFailed | .slept | .executed _ => true
  | _ => false

theorem step_sameWork
    (notOfLoop : event.isOfLoop = false)
    (stepped : worker.step event = some worker') :
    SameWork worker worker' := by
  cases event with
  | signalAborted =>
      cases stepped
      exact ⟨rfl, rfl, rfl, rfl, rfl⟩
  | beginDrain =>
      cases stepped
      exact beginDrain_sameWork worker
  | pauseClaims =>
      cases stepped
      exact pauseClaims_sameWork worker
  | resumeClaims =>
      cases stepped
      exact resumeClaims_sameWork worker
  | waitForQuiescence cancelled =>
      cases stepped
      exact ⟨rfl, rfl, rfl, rfl, rfl⟩
  | workChanged waiter cancelled => exact workChanged_sameWork stepped
  | waitCancelled waiter => exact waitCancelled_sameWork stepped
  | _ => cases notOfLoop

/-- What the loop leaves alone on its way to its head; it may pause itself. -/
structure SameControl (worker worker' : RunJobWorker) : Prop where
  acceptingJobs :
    worker.acceptingJobs = false → worker'.acceptingJobs = false
  stopping : worker'.stopping = worker.stopping
  signalAborted : worker'.signalAborted = worker.signalAborted
  waiters : worker'.waiters = worker.waiters
  claimRequests : worker'.claimRequests = worker.claimRequests
  executions : worker'.executions = worker.executions

/-- What an event of the loop does. -/
inductive LoopStep (worker worker' : RunJobWorker) : Prop where
  /-- The loop comes to its head, or ends, or sleeps until it is there. -/
  | head
      (atHead : worker'.AtHead worker'.position)
      (noClaim : worker'.claimInFlight = none)
      (noRun : worker'.activeRun = none)
      (same : SameControl worker worker')
  | refresh
      (returned : worker.position = .waitReturned)
      (aborted : worker.signalAborted = false)
      (stopping : worker.stopping = false)
      (refreshes :
        worker' = { worker with position := .refreshingAdmission })
  | request
      (admitted :
        worker.position = .refreshingAdmission ∨
          worker.position = .waitReturned ∧ worker.signalAborted = false ∧
            worker.stopping = false)
      (requests : worker' = worker.requestClaim true)
  | retry
      (pendingClaim attempt : Nat)
      (claiming : worker.position = .claiming pendingClaim attempt)
      (retries :
        worker' =
          { worker with position := .claiming pendingClaim (attempt + 1) })
  | execute
      (pendingClaim attempt : Nat)
      (claiming : worker.position = .claiming pendingClaim attempt)
      (executes : worker' = worker.afterClaim pendingClaim .job)

theorem SameControl.refl (worker : RunJobWorker) : SameControl worker worker :=
  ⟨id, rfl, rfl, rfl, rfl, rfl⟩

/-- From a worker whose work is over the loop comes to its head. -/
theorem LoopStep.continueLoop
    {settled : RunJobWorker}
    (noClaim : settled.claimInFlight = none)
    (noRun : settled.activeRun = none)
    (same : SameControl worker settled) :
    LoopStep worker settled.continueLoop := by
  obtain ⟨position, isHead, atHead⟩ := continueLoop_frame settled
  rw [isHead]
  exact .head ⟨atHead.noClaim, atHead.noExecution, atHead.notRefreshing,
    atHead.returns⟩ noClaim noRun
    ⟨same.acceptingJobs, same.stopping, same.signalAborted, same.waiters,
      same.claimRequests, same.executions⟩

/-- From a worker whose work is over the loop ends. -/
theorem LoopStep.ended
    {settled : RunJobWorker}
    (noClaim : settled.claimInFlight = none)
    (noRun : settled.activeRun = none)
    (same : SameControl worker settled) :
    LoopStep worker { settled with position := .ended } :=
  .head ⟨rfl, rfl, Position.noConfusion, Position.noConfusion⟩ noClaim noRun
    ⟨same.acceptingJobs, same.stopping, same.signalAborted, same.waiters,
      same.claimRequests, same.executions⟩

theorem pauseClaims_sameControl (worker : RunJobWorker) :
    SameControl worker worker.pauseClaims := by
  unfold pauseClaims
  split
  case isTrue => exact ⟨fun _ => rfl, rfl, rfl, rfl, rfl, rfl⟩
  case isFalse => exact SameControl.refl worker

/-- A claim request is made, or the loop ends because it cannot be made. -/
theorem LoopStep.requestClaim
    (noClaim : worker.claimInFlight = none)
    (noRun : worker.activeRun = none)
    (admitted :
      worker.position = .refreshingAdmission ∨
        worker.position = .waitReturned ∧ worker.signalAborted = false ∧
          worker.stopping = false) :
    LoopStep worker (worker.requestClaim requestParses) := by
  cases requestParses with
  | true => exact .request admitted rfl
  | false => exact LoopStep.ended noClaim noRun (SameControl.refl worker)

theorem LoopStep.afterWait
    (noClaim : worker.claimInFlight = none)
    (noRun : worker.activeRun = none)
    (returned : worker.position = .waitReturned) :
    LoopStep worker (worker.afterWait requestParses) := by
  unfold RunJobWorker.afterWait
  split
  case isTrue => exact LoopStep.ended noClaim noRun (SameControl.refl worker)
  case isFalse goesOn =>
    simp only [Bool.or_eq_true, not_or, Bool.not_eq_true] at goesOn
    split
    case isTrue => exact .refresh returned goesOn.1 goesOn.2 rfl
    case isFalse =>
      exact LoopStep.requestClaim requestParses noClaim noRun
        (Or.inr ⟨returned, goesOn⟩)

theorem LoopStep.afterRefresh
    (admits : Option Bool)
    (requestParses : Bool)
    (noClaim : worker.claimInFlight = none)
    (noRun : worker.activeRun = none)
    (refreshing : worker.position = .refreshingAdmission) :
    LoopStep worker (worker.afterRefresh admits requestParses) := by
  cases admits with
  | none => exact LoopStep.ended noClaim noRun (SameControl.refl worker)
  | some admitted =>
      cases admitted with
      | true =>
          exact LoopStep.requestClaim requestParses noClaim noRun
            (Or.inl refreshing)
      | false =>
          have same := pauseClaims_sameWork worker
          exact LoopStep.continueLoop (same.claimInFlight.trans noClaim)
            (same.activeRun.trans noRun) (pauseClaims_sameControl worker)

theorem afterClaim_job
    {pendingClaim : Nat}
    (inFlight : worker.claimInFlight = some pendingClaim) :
    worker.afterClaim pendingClaim .job =
      { worker with
        claimInFlight := none
        executions := worker.executions + 1
        activeRun := some worker.executions
        position := .executing worker.executions
        workChange := worker.workChange + 1 } := by
  unfold RunJobWorker.afterClaim
  rw [if_pos inFlight]
  rfl

theorem LoopStep.afterClaim
    {pendingClaim attempt : Nat}
    (answer : ClaimAnswer)
    (inFlight : worker.claimInFlight = some pendingClaim)
    (noRun : worker.activeRun = none)
    (claiming : worker.position = .claiming pendingClaim attempt) :
    LoopStep worker (worker.afterClaim pendingClaim answer) := by
  cases answer with
  | job => exact .execute pendingClaim attempt claiming rfl
  | noJob =>
      unfold RunJobWorker.afterClaim
      rw [if_pos inFlight]
      dsimp only
      split
      case isTrue =>
        exact LoopStep.continueLoop rfl noRun
          ⟨id, rfl, rfl, rfl, rfl, rfl⟩
      case isFalse =>
        exact .head
          ⟨rfl, rfl, Position.noConfusion, Position.noConfusion⟩ rfl noRun
          ⟨id, rfl, rfl, rfl, rfl, rfl⟩

theorem LoopStep.claimFailed
    {pendingClaim attempt : Nat}
    (inFlight : worker.claimInFlight = some pendingClaim)
    (noRun : worker.activeRun = none)
    (claiming : worker.position = .claiming pendingClaim attempt) :
    LoopStep worker (worker.claimFailed pendingClaim attempt) := by
  unfold RunJobWorker.claimFailed
  by_cases retries : attempt + 1 < 3
  · rw [if_pos retries]
    exact .retry pendingClaim attempt claiming rfl
  · rw [if_neg retries, if_pos inFlight]
    exact .head ⟨rfl, rfl, Position.noConfusion, Position.noConfusion⟩ rfl
      noRun ⟨id, rfl, rfl, rfl, rfl, rfl⟩

theorem LoopStep.afterExecution
    {active : Nat}
    (failed : Bool)
    (noClaim : worker.claimInFlight = none)
    (isActive : worker.activeRun = some active) :
    LoopStep worker (worker.afterExecution active failed) := by
  unfold RunJobWorker.afterExecution
  rw [if_pos isActive]
  have same :
      SameControl worker { worker with activeRun := none }.notifyWorkChange :=
    ⟨id, rfl, rfl, rfl, rfl, rfl⟩
  dsimp only
  split
  case isTrue => exact LoopStep.ended noClaim rfl same
  case isFalse => exact LoopStep.continueLoop noClaim rfl same

/-- One case per event of the loop. -/
theorem step_loopStep
    (tracks : worker.TracksWork)
    (isOfLoop : event.isOfLoop = true)
    (stepped : worker.step event = some worker') :
    LoopStep worker worker' := by
  have same := SameControl.refl worker
  have inFlight := tracks.claimInFlight
  have isRun := tracks.activeRun
  cases event with
  | runLoop =>
      obtain ⟨position, isNext⟩ := Option.ite_none_right_eq_some.mp stepped
      rw [position] at inFlight isRun
      cases isNext
      exact LoopStep.continueLoop inFlight isRun same
  | slept =>
      obtain ⟨position, isNext⟩ := Option.ite_none_right_eq_some.mp stepped
      rw [position] at inFlight isRun
      cases isNext
      exact LoopStep.continueLoop inFlight isRun same
  | waitReturned requestParses =>
      obtain ⟨position, isNext⟩ := Option.ite_none_right_eq_some.mp stepped
      rw [position] at inFlight isRun
      cases isNext
      exact LoopStep.afterWait requestParses inFlight isRun position
  | admissionRefreshed admits requestParses =>
      obtain ⟨position, isNext⟩ := Option.ite_none_right_eq_some.mp stepped
      rw [position] at inFlight isRun
      cases isNext
      exact LoopStep.afterRefresh admits requestParses inFlight isRun position
  | admissionChanged =>
      dsimp only [step] at stepped
      split at stepped
      case h_2 => cases stepped
      case h_1 changed position =>
        rw [position] at inFlight isRun
        obtain ⟨-, isNext⟩ := Option.ite_none_right_eq_some.mp stepped
        cases isNext
        obtain ⟨position, isHead, atHead⟩ := waitUntilAccepting_frame worker
        rw [isHead]
        exact .head ⟨atHead.noClaim, atHead.noExecution, atHead.notRefreshing,
          atHead.returns⟩ inFlight isRun ⟨id, rfl, rfl, rfl, rfl, rfl⟩
  | claimAnswered answer =>
      dsimp only [step] at stepped
      split at stepped
      case h_2 => cases stepped
      case h_1 pendingClaim attempt position =>
        rw [position] at inFlight isRun
        cases stepped
        exact LoopStep.afterClaim answer inFlight isRun position
  | claimFailed =>
      dsimp only [step] at stepped
      split at stepped
      case h_2 => cases stepped
      case h_1 pendingClaim attempt position =>
        rw [position] at inFlight isRun
        cases stepped
        exact LoopStep.claimFailed inFlight isRun position
  | executed failed =>
      dsimp only [step] at stepped
      split at stepped
      case h_2 => cases stepped
      case h_1 active position =>
        rw [position] at inFlight isRun
        cases stepped
        exact LoopStep.afterExecution failed inFlight isRun
  | _ => cases isOfLoop

theorem LoopStep.tracksWork
    (tracks : worker.TracksWork)
    (loops : LoopStep worker worker') :
    worker'.TracksWork := by
  cases loops with
  | head atHead noClaim noRun same =>
      exact ⟨noClaim.trans atHead.noClaim.symm,
        noRun.trans atHead.noExecution.symm⟩
  | refresh returned aborted stopping refreshes =>
      rw [refreshes]
      have inFlight := tracks.claimInFlight
      have isRun := tracks.activeRun
      rw [returned] at inFlight isRun
      exact ⟨inFlight, isRun⟩
  | request admitted requests =>
      rw [requests]
      have isRun := tracks.activeRun
      rcases admitted with position | ⟨position, -, -⟩ <;>
        rw [position] at isRun <;> exact ⟨rfl, isRun⟩
  | retry pendingClaim attempt claiming retries =>
      rw [retries]
      have inFlight := tracks.claimInFlight
      have isRun := tracks.activeRun
      rw [claiming] at inFlight isRun
      exact ⟨inFlight, isRun⟩
  | execute pendingClaim attempt claiming executes =>
      have inFlight : worker.claimInFlight = some pendingClaim := by
        rw [tracks.claimInFlight, claiming]
        rfl
      rw [executes, afterClaim_job inFlight]
      exact ⟨rfl, rfl⟩

theorem step_tracksWork
    (tracks : worker.TracksWork)
    (stepped : worker.step event = some worker') :
    worker'.TracksWork := by
  cases isOfLoop : event.isOfLoop with
  | true => exact (step_loopStep tracks isOfLoop stepped).tracksWork tracks
  | false => exact (step_sameWork isOfLoop stepped).tracksWork tracks

/-- What every step keeps, a run keeps. -/
theorem run_keeps
    {allowed : Event → Prop}
    {holds : RunJobWorker → Prop}
    (keeps :
      ∀ worker event worker',
        holds worker → allowed event → worker.step event = some worker' →
        holds worker')
    {events : List Event}
    (allAllowed : ∀ event ∈ events, allowed event)
    (held : holds worker)
    (ran : worker.run events = some worker') :
    holds worker' := by
  induction events generalizing worker with
  | nil =>
      cases ran
      exact held
  | cons event events inductionHypothesis =>
      obtain ⟨next, stepped, ran'⟩ := Option.bind_eq_some_iff.mp ran
      have allowedHere := allAllowed event List.mem_cons_self
      have allowedLater : ∀ later ∈ events, allowed later :=
        fun later listed => allAllowed later (List.mem_cons_of_mem _ listed)
      exact inductionHypothesis allowedLater
        (keeps worker event next held allowedHere stepped) ran'

/-- Calls that leave a worker stopped which was stopped by `stop`. -/
def KeepsStopped (stop event : Event) : Prop :=
  stop = .beginDrain ∨ event ≠ .resumeClaims

/-- No more jobs are taken, and the loop is not on its way to a request. -/
structure Stopped (stop : Event) (worker : RunJobWorker) : Prop where
  tracks : worker.TracksWork
  pauses : worker.acceptingJobs = false
  drains : stop = .beginDrain → worker.stopping = true
  notRefreshing : worker.position ≠ .refreshingAdmission
  returns :
    worker.position = .waitReturned →
      worker.signalAborted = true ∨ worker.stopping = true

/-- What the methods of a stopped worker leave as it is. -/
structure StaysStopped (worker worker' : RunJobWorker) : Prop where
  pauses : worker.acceptingJobs = false → worker'.acceptingJobs = false
  drains : worker.stopping = true → worker'.stopping = true
  aborts : worker.signalAborted = true → worker'.signalAborted = true

theorem pauseClaims_staysStopped (worker : RunJobWorker) :
    StaysStopped worker worker.pauseClaims := by
  unfold pauseClaims
  split
  case isTrue => exact ⟨fun _ => rfl, id, id⟩
  case isFalse => exact ⟨id, id, id⟩

theorem beginDrain_staysStopped (worker : RunJobWorker) :
    StaysStopped worker worker.beginDrain := by
  unfold beginDrain
  dsimp only
  split
  case isTrue =>
    have stays := pauseClaims_staysStopped { worker with stopping := true }
    exact ⟨stays.pauses, fun _ => stays.drains rfl, stays.aborts⟩
  case isFalse => exact ⟨id, fun _ => rfl, id⟩

theorem resumeClaims_staysStopped
    (drains : worker.stopping = true) :
    StaysStopped worker worker.resumeClaims := by
  unfold resumeClaims
  rw [if_pos (by simp [drains])]
  exact ⟨id, id, id⟩

theorem workChanged_staysStopped
    {cancelled : Bool}
    (changed : worker.workChanged waiter cancelled = some worker') :
    StaysStopped worker worker' := by
  unfold workChanged at changed
  split at changed
  case h_1 =>
    split at changed
    case isTrue =>
      cases changed
      exact ⟨id, id, id⟩
    case isFalse => cases changed
  case h_2 => cases changed

theorem waitCancelled_staysStopped
    (cancelled : worker.waitCancelled waiter = some worker') :
    StaysStopped worker worker' := by
  unfold waitCancelled at cancelled
  split at cancelled
  case h_1 =>
    cases cancelled
    exact ⟨id, id, id⟩
  case h_2 => cases cancelled

variable {stop event : Event} {cancelled : Bool}

theorem step_staysStopped
    (stopped : Stopped stop worker)
    (allowed : KeepsStopped stop event)
    (notOfLoop : event.isOfLoop = false)
    (stepped : worker.step event = some worker') :
    StaysStopped worker worker' := by
  cases event with
  | signalAborted =>
      cases stepped
      exact ⟨id, id, fun _ => rfl⟩
  | beginDrain =>
      cases stepped
      exact beginDrain_staysStopped worker
  | pauseClaims =>
      cases stepped
      exact pauseClaims_staysStopped worker
  | resumeClaims =>
      cases stepped
      rcases allowed with isDrain | notResume
      · exact resumeClaims_staysStopped (stopped.drains isDrain)
      · exact absurd rfl notResume
  | waitForQuiescence cancelled =>
      cases stepped
      exact ⟨id, id, id⟩
  | workChanged waiter cancelled => exact workChanged_staysStopped stepped
  | waitCancelled waiter => exact waitCancelled_staysStopped stepped
  | _ => cases notOfLoop

theorem step_stopped
    (stopped : Stopped stop worker)
    (allowed : KeepsStopped stop event)
    (stepped : worker.step event = some worker') :
    Stopped stop worker' := by
  have tracks := step_tracksWork stopped.tracks stepped
  cases isOfLoop : event.isOfLoop with
  | false =>
      have same := step_sameWork isOfLoop stepped
      have stays := step_staysStopped stopped allowed isOfLoop stepped
      refine ⟨tracks, stays.pauses stopped.pauses,
        fun isDrain => stays.drains (stopped.drains isDrain), ?_, ?_⟩
      · rw [same.position]
        exact stopped.notRefreshing
      · intro returned
        rw [same.position] at returned
        exact (stopped.returns returned).imp stays.aborts stays.drains
  | true =>
      cases step_loopStep stopped.tracks isOfLoop stepped with
      | head atHead noClaim noRun same =>
          have pauses := same.acceptingJobs stopped.pauses
          refine ⟨tracks, pauses, ?_, atHead.notRefreshing, ?_⟩
          · intro isDrain
            rw [same.stopping]
            exact stopped.drains isDrain
          · intro returned
            rcases atHead.returns returned with aborted | stopping | accepting
            · exact Or.inl aborted
            · exact Or.inr stopping
            · rw [pauses] at accepting
              cases accepting
      | refresh returned aborted stopping refreshes =>
          have ends := stopped.returns returned
          simp [aborted, stopping] at ends
      | request admitted requests =>
          rcases admitted with refreshing | ⟨returned, aborted, stopping⟩
          · exact absurd refreshing stopped.notRefreshing
          · have ends := stopped.returns returned
            simp [aborted, stopping] at ends
      | retry pendingClaim attempt claiming retries =>
          rw [retries] at tracks ⊢
          exact ⟨tracks, stopped.pauses, stopped.drains,
            Position.noConfusion, Position.noConfusion⟩
      | execute pendingClaim attempt claiming executes =>
          have inFlight : worker.claimInFlight = some pendingClaim := by
            rw [stopped.tracks.claimInFlight, claiming]
            rfl
          rw [executes, afterClaim_job inFlight] at tracks ⊢
          exact ⟨tracks, stopped.pauses, stopped.drains,
            Position.noConfusion, Position.noConfusion⟩

/-- A stopped worker makes no claim request, and once its work is settled it
stays so. -/
structure SettledStep (worker worker' : RunJobWorker) : Prop where
  claimRequests : worker'.claimRequests = worker.claimRequests
  settled :
    worker.hasUnsettledWork = false →
      worker'.hasUnsettledWork = false ∧
        worker'.executions = worker.executions

theorem SameWork.settledStep
    (same : SameWork worker worker') :
    SettledStep worker worker' := by
  refine ⟨same.claimRequests, fun settled => ⟨?_, same.executions⟩⟩
  rw [hasUnsettledWork, same.claimInFlight, same.activeRun]
  exact settled

theorem step_settledStep
    (stopped : Stopped stop worker)
    (stepped : worker.step event = some worker') :
    SettledStep worker worker' := by
  cases isOfLoop : event.isOfLoop with
  | false => exact (step_sameWork isOfLoop stepped).settledStep
  | true =>
      cases step_loopStep stopped.tracks isOfLoop stepped with
      | head atHead noClaim noRun same =>
          refine ⟨same.claimRequests, fun _ => ⟨?_, same.executions⟩⟩
          rw [hasUnsettledWork, noClaim, noRun]
          rfl
      | refresh returned aborted stopping refreshes =>
          rw [refreshes]
          exact ⟨rfl, fun settled => ⟨settled, rfl⟩⟩
      | request admitted requests =>
          rcases admitted with refreshing | ⟨returned, aborted, stopping⟩
          · exact absurd refreshing stopped.notRefreshing
          · have ends := stopped.returns returned
            simp [aborted, stopping] at ends
      | retry pendingClaim attempt claiming retries =>
          rw [retries]
          exact ⟨rfl, fun settled => ⟨settled, rfl⟩⟩
      | execute pendingClaim attempt claiming executes =>
          have inFlight : worker.claimInFlight = some pendingClaim := by
            rw [stopped.tracks.claimInFlight, claiming]
            rfl
          rw [executes, afterClaim_job inFlight]
          refine ⟨rfl, fun settled => ?_⟩
          rw [hasUnsettledWork, inFlight] at settled
          cases settled

theorem quiescenceRound_resolved
    (resolved : worker.quiescenceRound cancelled = .resolved) :
    worker.hasUnsettledWork = false := by
  unfold quiescenceRound at resolved
  split at resolved
  case isTrue =>
    split at resolved <;> cases resolved
  case isFalse settled => simpa using settled

/-- A waiter is only resolved when no work is unsettled. -/
theorem workChanged_resolved
    {waiter index : Nat}
    {cancelled : Bool}
    (changed : worker.workChanged waiter cancelled = some worker')
    (resolved : worker'.waiters[index]? = some .resolved) :
    worker.waiters[index]? = some .resolved ∨
      worker.hasUnsettledWork = false := by
  unfold workChanged at changed
  split at changed
  case h_2 => cases changed
  case h_1 =>
    split at changed
    case isFalse => cases changed
    case isTrue =>
      cases changed
      rw [List.getElem?_set] at resolved
      split at resolved
      case isFalse => exact Or.inl resolved
      case isTrue =>
        split at resolved
        case isFalse => cases resolved
        case isTrue =>
          exact Or.inr (quiescenceRound_resolved (Option.some.inj resolved))

theorem waitCancelled_resolved
    {waiter index : Nat}
    (cancelled : worker.waitCancelled waiter = some worker')
    (resolved : worker'.waiters[index]? = some .resolved) :
    worker.waiters[index]? = some .resolved := by
  unfold waitCancelled at cancelled
  split at cancelled
  case h_2 => cases cancelled
  case h_1 =>
    cases cancelled
    rw [List.getElem?_set] at resolved
    split at resolved
    case isFalse => exact resolved
    case isTrue => split at resolved <;> cases resolved

theorem waitForQuiescence_resolved
    {index : Nat}
    (resolved :
      (worker.waitForQuiescence cancelled).waiters[index]? = some .resolved) :
    worker.waiters[index]? = some .resolved ∨
      worker.hasUnsettledWork = false := by
  rw [waitForQuiescence, List.getElem?_append] at resolved
  split at resolved
  case isTrue => exact Or.inl resolved
  case isFalse =>
    have listed := List.mem_of_getElem? resolved
    exact Or.inr
      (quiescenceRound_resolved (List.mem_singleton.mp listed).symm)

theorem pauseClaims_waiters (worker : RunJobWorker) :
    worker.pauseClaims.waiters = worker.waiters := by
  unfold pauseClaims
  split <;> rfl

theorem beginDrain_waiters (worker : RunJobWorker) :
    worker.beginDrain.waiters = worker.waiters := by
  unfold beginDrain
  dsimp only
  split
  case isTrue => exact pauseClaims_waiters _
  case isFalse => rfl

theorem resumeClaims_waiters (worker : RunJobWorker) :
    worker.resumeClaims.waiters = worker.waiters := by
  unfold resumeClaims
  split <;> rfl

theorem LoopStep.waiters
    (tracks : worker.TracksWork)
    (loops : LoopStep worker worker') :
    worker'.waiters = worker.waiters := by
  cases loops with
  | head atHead noClaim noRun same => exact same.waiters
  | refresh returned aborted stopping refreshes => rw [refreshes]
  | request admitted requests =>
      rw [requests]
      rfl
  | retry pendingClaim attempt claiming retries => rw [retries]
  | execute pendingClaim attempt claiming executes =>
      have inFlight : worker.claimInFlight = some pendingClaim := by
        rw [tracks.claimInFlight, claiming]
        rfl
      rw [executes, afterClaim_job inFlight]

theorem step_resolved
    {event : Event}
    {index : Nat}
    (tracks : worker.TracksWork)
    (stepped : worker.step event = some worker')
    (resolved : worker'.waiters[index]? = some .resolved) :
    worker.waiters[index]? = some .resolved ∨
      worker.hasUnsettledWork = false := by
  cases isOfLoop : event.isOfLoop with
  | true =>
      rw [(step_loopStep tracks isOfLoop stepped).waiters tracks] at resolved
      exact Or.inl resolved
  | false =>
      cases event with
      | signalAborted =>
          cases stepped
          exact Or.inl resolved
      | beginDrain =>
          cases stepped
          rw [beginDrain_waiters] at resolved
          exact Or.inl resolved
      | pauseClaims =>
          cases stepped
          rw [pauseClaims_waiters] at resolved
          exact Or.inl resolved
      | resumeClaims =>
          cases stepped
          rw [resumeClaims_waiters] at resolved
          exact Or.inl resolved
      | waitForQuiescence cancelled =>
          cases stepped
          exact waitForQuiescence_resolved resolved
      | workChanged waiter cancelled => exact workChanged_resolved stepped resolved
      | waitCancelled waiter =>
          exact Or.inl (waitCancelled_resolved stepped resolved)
      | _ => cases isOfLoop

/-- No claim is in flight, and no job is executed. -/
def IsQuiescent (worker : RunJobWorker) : Prop :=
  worker.position.pendingClaim = none ∧ worker.position.active = none

theorem TracksWork.isQuiescent_iff
    (tracks : worker.TracksWork) :
    worker.IsQuiescent ↔ worker.hasUnsettledWork = false := by
  rw [IsQuiescent, hasUnsettledWork, ← tracks.claimInFlight,
    ← tracks.activeRun]
  simp

/-- A later state of a worker that `stop` has stopped. -/
def Leads (stop : Event) (worker worker' : RunJobWorker) : Prop :=
  ∃ events,
    (∀ event ∈ events, KeepsStopped stop event) ∧
      worker.run events = some worker'

/-- What `stop` promises of the worker it leaves behind: no claim request is
made any more, and when a waiter that begins to wait from now on is resolved,
the worker is quiescent and stays so, without executing another job. -/
def StopLaw (stop : Event) (worker : RunJobWorker) : Prop :=
  ∀ worker', Leads stop worker worker' →
    worker'.claimRequests = worker.claimRequests ∧
      ∀ index, worker.waiters.length ≤ index →
        worker'.waiters[index]? = some .resolved →
        worker'.IsQuiescent ∧
          ∀ worker'', Leads stop worker' worker'' →
            worker''.IsQuiescent ∧ worker''.executions = worker'.executions

/-- What holds of every later state of a worker that was stopped. -/
structure StoppedSince
    (stop : Event)
    (first worker : RunJobWorker) :
    Prop where
  stopped : Stopped stop worker
  claimRequests : worker.claimRequests = first.claimRequests
  resolved :
    ∀ index, first.waiters.length ≤ index →
      worker.waiters[index]? = some .resolved →
      worker.hasUnsettledWork = false

theorem StoppedSince.step
    {stop event : Event}
    {first : RunJobWorker}
    (since : StoppedSince stop first worker)
    (allowed : KeepsStopped stop event)
    (stepped : worker.step event = some worker') :
    StoppedSince stop first worker' := by
  have settles := step_settledStep since.stopped stepped
  refine ⟨step_stopped since.stopped allowed stepped,
    settles.claimRequests.trans since.claimRequests, ?_⟩
  intro index isLater resolved
  rcases step_resolved since.stopped.tracks stepped resolved with
    before | settled
  · exact (settles.settled (since.resolved index isLater before)).1
  · exact (settles.settled settled).1

variable {stop : Event}

theorem Leads.stoppedSince
    {first : RunJobWorker}
    (since : StoppedSince stop first worker)
    (leads : Leads stop worker worker') :
    StoppedSince stop first worker' := by
  obtain ⟨events, allAllowed, ran⟩ := leads
  exact run_keeps (fun _ _ _ held allowed stepped => held.step allowed stepped)
    allAllowed since ran

/-- A worker that is stopped and settled executes nothing any more. -/
theorem Leads.staysQuiescent
    (stopped : Stopped stop worker)
    (settled : worker.hasUnsettledWork = false)
    (leads : Leads stop worker worker') :
    Stopped stop worker' ∧ worker'.hasUnsettledWork = false ∧
      worker'.executions = worker.executions := by
  obtain ⟨events, allAllowed, ran⟩ := leads
  refine @run_keeps _ _ (KeepsStopped stop)
    (fun later =>
      Stopped stop later ∧ later.hasUnsettledWork = false ∧
        later.executions = worker.executions)
    ?_ _ allAllowed ⟨stopped, settled, rfl⟩ ran
  rintro later event next ⟨stopped, settled, same⟩ allowed stepped
  obtain ⟨settled', same'⟩ :=
    (step_settledStep stopped stepped).settled settled
  exact ⟨step_stopped stopped allowed stepped, settled', same'.trans same⟩

theorem Stopped.stopLaw
    (stopped : Stopped stop worker) :
    StopLaw stop worker := by
  have since : StoppedSince stop worker worker := by
    refine ⟨stopped, rfl, fun index isLater resolved => ?_⟩
    rw [List.getElem?_eq_none isLater] at resolved
    cases resolved
  intro worker' leads
  have since' := leads.stoppedSince since
  refine ⟨since'.claimRequests, fun index isLater resolved => ?_⟩
  have settled := since'.resolved index isLater resolved
  refine ⟨since'.stopped.tracks.isQuiescent_iff.mpr settled, ?_⟩
  intro worker'' leads'
  obtain ⟨stopped'', settled'', same⟩ :=
    leads'.staysQuiescent since'.stopped settled
  exact ⟨stopped''.tracks.isQuiescent_iff.mpr settled'', same⟩

/-- The calls after which no more jobs are to be taken. -/
def Event.Stops (stop : Event) : Prop :=
  stop = .beginDrain ∨ stop = .pauseClaims

/-- The loop is on its way to a claim request that `stop` does not keep it
from: after its last look at `stopping` and, for a pause, at
`acceptingJobs`. -/
def CommittedToClaim (stop : Event) (worker : RunJobWorker) : Prop :=
  worker.position = .refreshingAdmission ∨
    worker.position = .waitReturned ∧ stop = .pauseClaims ∧
      worker.stopping = false ∧ worker.signalAborted = false

theorem pauseClaims_pauses (worker : RunJobWorker) :
    worker.pauseClaims.acceptingJobs = false := by
  unfold pauseClaims
  split
  case isTrue => rfl
  case isFalse refuses => simpa using refuses

theorem beginDrain_stops (worker : RunJobWorker) :
    worker.beginDrain.acceptingJobs = false ∧
      worker.beginDrain.stopping = true := by
  unfold beginDrain
  dsimp only
  split
  case isTrue =>
    exact ⟨pauseClaims_pauses _,
      (pauseClaims_staysStopped { worker with stopping := true }).drains rfl⟩
  case isFalse refuses => exact ⟨eq_false_of_ne_true refuses, rfl⟩

/-- A call that comes in time stops the worker. -/
theorem stopped_of_inTime
    (tracks : worker.TracksWork)
    (stops : stop.Stops)
    (inTime : ¬CommittedToClaim stop worker)
    (stepped : worker.step stop = some worker') :
    Stopped stop worker' := by
  have tracks' := step_tracksWork tracks stepped
  have notRefreshing : worker.position ≠ .refreshingAdmission :=
    fun refreshing => inTime (Or.inl refreshing)
  rcases stops with isDrain | isPause
  · rw [isDrain] at stepped ⊢
    cases stepped
    have same := beginDrain_sameWork worker
    obtain ⟨pauses, drains⟩ := beginDrain_stops worker
    refine ⟨tracks', pauses, fun _ => drains, ?_, fun _ => Or.inr drains⟩
    rw [same.position]
    exact notRefreshing
  · rw [isPause] at stepped inTime ⊢
    cases stepped
    have same := pauseClaims_sameWork worker
    have stays := pauseClaims_staysStopped worker
    refine ⟨tracks', pauseClaims_pauses worker, Event.noConfusion, ?_, ?_⟩
    · rw [same.position]
      exact notRefreshing
    · intro returned
      rw [same.position] at returned
      cases aborted : worker.signalAborted with
      | true => exact Or.inl (stays.aborts aborted)
      | false =>
          cases stopping : worker.stopping with
          | true => exact Or.inr (stays.drains stopping)
          | false =>
              exact absurd (Or.inr ⟨returned, rfl, stopping, aborted⟩) inTime

/-- While its admission is refreshed the loop can still make a request. -/
theorem leads_request_of_refreshing
    (refreshing : worker.position = .refreshingAdmission) :
    Leads stop worker (worker.requestClaim true) := by
  refine ⟨[.admissionRefreshed (some true) true], ?_, ?_⟩
  · intro event listed
    rw [List.mem_singleton.mp listed]
    exact Or.inr Event.noConfusion
  · simp [run, step, refreshing, afterRefresh]

/-- When `waitUntilAccepting` has returned, the loop can still make a
request, if it is neither drained nor aborted. -/
theorem leads_request_of_returned
    (returned : worker.position = .waitReturned)
    (goesOn : worker.stopping = false)
    (runs : worker.signalAborted = false) :
    ∃ worker',
      Leads stop worker worker' ∧
        worker'.claimRequests = worker.claimRequests + 1 := by
  refine ⟨if worker.refreshesClaimAdmission then
    { worker with position := .refreshingAdmission }.requestClaim true else
      worker.requestClaim true,
    ⟨if worker.refreshesClaimAdmission then
      [.waitReturned true, .admissionRefreshed (some true) true] else
        [.waitReturned true], ?_, ?_⟩, ?_⟩
  · intro event listed
    refine Or.inr ?_
    rintro rfl
    split at listed <;> simp at listed
  · cases refreshes : worker.refreshesClaimAdmission with
    | true =>
        simp [run, step, returned, afterWait, afterRefresh, goesOn, runs,
          refreshes]
    | false => simp [run, step, returned, afterWait, goesOn, runs, refreshes]
  · split <;> rfl

/-- A drain or a pause keeps its promise exactly when it comes in time. -/
theorem stopLaw_iff
    (refreshesClaimAdmission : Bool)
    (events : List Event)
    (worker worker' : RunJobWorker)
    (stop : Event)
    (reached : run { refreshesClaimAdmission } events = some worker)
    (stops : stop.Stops)
    (stepped : worker.step stop = some worker') :
    StopLaw stop worker' ↔ ¬CommittedToClaim stop worker := by
  have initially : TracksWork { refreshesClaimAdmission } := ⟨rfl, rfl⟩
  have tracks : worker.TracksWork :=
    run_keeps
      (fun _ _ _ held _ stepped => step_tracksWork held stepped)
      (fun _ _ => trivial) initially reached
  constructor
  · rintro law (refreshing | ⟨returned, isPause, goesOn, runs⟩)
    · have refreshing' : worker'.position = .refreshingAdmission := by
        rcases stops with isDrain | isPause
        · rw [isDrain] at stepped
          cases stepped
          exact (beginDrain_sameWork worker).position.trans refreshing
        · rw [isPause] at stepped
          cases stepped
          exact (pauseClaims_sameWork worker).position.trans refreshing
      have sameRequests :=
        (law _ (leads_request_of_refreshing refreshing')).1
      exact absurd sameRequests (Nat.succ_ne_self _)
    · rw [isPause] at stepped
      cases stepped
      have control := pauseClaims_sameControl worker
      obtain ⟨later, leads, another⟩ :=
        @leads_request_of_returned worker.pauseClaims stop
          ((pauseClaims_sameWork worker).position.trans returned)
          (control.stopping.trans goesOn)
          (control.signalAborted.trans runs)
      rw [(law later leads).1] at another
      exact absurd another.symm (Nat.succ_ne_self _)
  · intro inTime
    exact (stopped_of_inTime tracks stops inTime stepped).stopLaw

/-- The promise holds of a worker that is drained before it begins. -/
theorem stopLaw_iff_early :
    Event.beginDrain.Stops ∧
      (StopLaw .beginDrain
          (beginDrain { refreshesClaimAdmission := true }) ↔
        ¬CommittedToClaim .beginDrain { refreshesClaimAdmission := true }) :=
  ⟨Or.inl rfl,
    stopLaw_iff true [] _ _ .beginDrain rfl (Or.inl rfl) rfl⟩

/-- A drain while the admission is refreshed: its waiter is resolved at once,
and then a job is claimed and executed. -/
theorem drainWhileRefreshing_executes :
    (run { refreshesClaimAdmission := true }
        [.runLoop, .waitReturned true, .beginDrain, .waitForQuiescence false]).map
        (fun worker => (worker.waiters, worker.claimRequests)) =
      some ([.resolved], 0) ∧
    (run { refreshesClaimAdmission := true }
        [.runLoop, .waitReturned true, .beginDrain, .waitForQuiescence false,
          .admissionRefreshed (some true) true, .claimAnswered .job]).map
        (fun worker => (worker.claimRequests, worker.position)) =
      some (1, .executing 0) := by
  decide

end RunJobWorker

end TaskTwin.JobWorker
