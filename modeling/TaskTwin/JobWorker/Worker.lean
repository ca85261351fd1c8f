import Mathlib.Data.List.Basic

/-!
# The worker that claims and executes jobs

`runLoop` is one asynchronous function: it runs without interruption from one
`await` to the next.  A step of the model is one such stretch, or one call of
another method of the worker.

An `AbortController` that is replaced when it fires is the number of times it
has fired; a signal that was taken from it is the number it was taken at.
-/

namespace TaskTwin.JobWorker

/-- What `runLoop` awaits. -/
inductive Position where
  | notStarted
  /-- `waitUntilAccepting` awaits a change of `admissionChange`. -/
  | awaitingChange (changed : Nat)
  /-- `waitUntilAccepting` has returned, `runLoop` has not gone on yet. -/
  | waitReturned
  | refreshingAdmission
  | claiming (pendingClaim attempt : Nat)
  | sleeping
  | executing (active : Nat)
  | ended
  deriving DecidableEq, Repr

/-- One call of `waitForQuiescence`. -/
inductive Waiter where
  | waiting (changed : Nat)
  | resolved
  | rejected
  deriving DecidableEq, Repr

/-- The fields of the worker, and what its loop awaits. -/
structure RunJobWorker where
  /-- Whether there is a `refreshClaimAdmission`. -/
  refreshesClaimAdmission : Bool
  /-- The signal that `runLoop` was called with. -/
  signalAborted : Bool := false
  acceptingJobs : Bool := true
  stopping : Bool := false
  claimInFlight : Option Nat := none
  activeRun : Option Nat := none
  pollingAborted : Bool := false
  admissionChange : Nat := 0
  workChange : Nat := 0
  position : Position := .notStarted
  waiters : List Waiter := []
  /-- How many claim requests were made; a retry sends the same one again. -/
  claimRequests : Nat := 0
  /-- How many jobs were executed. -/
  executions : Nat := 0
  deriving DecidableEq, Repr

namespace RunJobWorker

def hasUnsettledWork (worker : RunJobWorker) : Bool :=
  worker.claimInFlight.isSome || worker.activeRun.isSome

def notifyAdmissionChange (worker : RunJobWorker) : RunJobWorker :=
  { worker with admissionChange := worker.admissionChange + 1 }

def notifyWorkChange (worker : RunJobWorker) : RunJobWorker :=
  { worker with workChange := worker.workChange + 1 }

def pauseClaims (worker : RunJobWorker) : RunJobWorker :=
  if worker.acceptingJobs then
    { worker with acceptingJobs := false, pollingAborted := true }.notifyAdmissionChange
  else
    worker

def beginDrain (worker : RunJobWorker) : RunJobWorker :=
  let worker := { worker with stopping := true }
  if worker.acceptingJobs then
    worker.pauseClaims
  else
    worker.notifyAdmissionChange

def resumeClaims (worker : RunJobWorker) : RunJobWorker :=
  if worker.acceptingJobs || worker.stopping then
    worker
  else
    { worker with acceptingJobs := true, pollingAborted := false }.notifyAdmissionChange

/-- One round of `waitForQuiescence`; `cancelled` tells of its signal. -/
def quiescenceRound
    (cancelled : Bool)
    (worker : RunJobWorker) :
    Waiter :=
  if worker.hasUnsettledWork then
    if cancelled then .rejected else .waiting worker.workChange
  else
    .resolved

def waitForQuiescence
    (cancelled : Bool)
    (worker : RunJobWorker) :
    RunJobWorker :=
  { worker with
    waiters := worker.waiters ++ [worker.quiescenceRound cancelled] }

/-- A waiter goes on when work has changed since it began to wait. -/
def workChanged
    (waiter : Nat)
    (cancelled : Bool)
    (worker : RunJobWorker) :
    Option RunJobWorker :=
  match worker.waiters[waiter]? with
  | some (.waiting changed) =>
      if changed < worker.workChange then
        some
          { worker with
            waiters :=
              worker.waiters.set waiter (worker.quiescenceRound cancelled) }
      else
        none
  | _ => none

/-- The signal of a waiter is aborted while it waits. -/
def waitCancelled
    (waiter : Nat)
    (worker : RunJobWorker) :
    Option RunJobWorker :=
  match worker.waiters[waiter]? with
  | some (.waiting _) =>
      some { worker with waiters := worker.waiters.set waiter .rejected }
  | _ => none

/-- One round of `waitUntilAccepting`. -/
def waitUntilAccepting (worker : RunJobWorker) : RunJobWorker :=
  if !worker.signalAborted && !worker.stopping && !worker.acceptingJobs then
    { worker with position := .awaitingChange worker.admissionChange }
  else
    { worker with position := .waitReturned }

/-- The head of the loop. -/
def continueLoop (worker : RunJobWorker) : RunJobWorker :=
  if worker.signalAborted then
    { worker with position := .ended }
  else
    worker.waitUntilAccepting

/-- A claim request is made and sent, unless it fails its own schema. -/
def requestClaim
    (requestParses : Bool)
    (worker : RunJobWorker) :
    RunJobWorker :=
  if requestParses then
    { worker with
      claimRequests := worker.claimRequests + 1
      claimInFlight := some worker.claimRequests
      position := .claiming worker.claimRequests 0 }.notifyWorkChange
  else
    { worker with position := .ended }

/-- The loop goes on after `waitUntilAccepting`. -/
def afterWait
    (requestParses : Bool)
    (worker : RunJobWorker) :
    RunJobWorker :=
  if worker.signalAborted || worker.stopping then
    { worker with position := .ended }
  else if worker.refreshesClaimAdmission then
    { worker with position := .refreshingAdmission }
  else
    worker.requestClaim requestParses

/-- The loop goes on after `refreshClaimAdmission`; `none` is a rejection. -/
def afterRefresh
    (admits : Option Bool)
    (requestParses : Bool)
    (worker : RunJobWorker) :
    RunJobWorker :=
  match admits with
  | some true => worker.requestClaim requestParses
  | some false => worker.pauseClaims.continueLoop
  | none => { worker with position := .ended }

/-- What the transport answers to a claim request. -/
inductive ClaimAnswer where
  | noJob
  | job
  deriving DecidableEq, Repr

/-- The loop goes on with an answer to its claim request. -/
def afterClaim
    (pendingClaim : Nat)
    (answer : ClaimAnswer)
    (worker : RunJobWorker) :
    RunJobWorker :=
  let worker :=
    if worker.claimInFlight = some pendingClaim then
      { worker with claimInFlight := none }
    else
      worker
  match answer with
  | .noJob =>
      let worker := worker.notifyWorkChange
      if !worker.acceptingJobs then
        worker.continueLoop
      else
        { worker with position := .sleeping }
  | .job =>
      { worker with
        executions := worker.executions + 1
        activeRun := some worker.executions
        position := .executing worker.executions }.notifyWorkChange

/-- `claimWithRetry` sends a request three times. -/
def claimFailed
    (pendingClaim attempt : Nat)
    (worker : RunJobWorker) :
    RunJobWorker :=
  if attempt + 1 < 3 then
    { worker with position := .claiming pendingClaim (attempt + 1) }
  else if worker.claimInFlight = some pendingClaim then
    { worker with
      claimInFlight := none
      position := .ended }.notifyWorkChange
  else
    { worker with position := .ended }

/-- The loop goes on when the job it executes has ended. -/
def afterExecution
    (active : Nat)
    (failed : Bool)
    (worker : RunJobWorker) :
    RunJobWorker :=
  let worker :=
    if worker.activeRun = some active then
      { worker with activeRun := none }.notifyWorkChange
    else
      worker
  if failed then
    { worker with position := .ended }
  else
    worker.continueLoop

/-- What happens next. -/
inductive Event where
  | runLoop
  | signalAborted
  | beginDrain
  | pauseClaims
  | resumeClaims
  | waitForQuiescence (cancelled : Bool)
  | workChanged (waiter : Nat) (cancelled : Bool)
  | waitCancelled (waiter : Nat)
  | admissionChanged
  | waitReturned (requestParses : Bool)
  | admissionRefreshed (admits : Option Bool) (requestParses : Bool)
  | claimAnswered (answer : ClaimAnswer)
  | claimFailed
  | slept
  | executed (failed : Bool)
  deriving DecidableEq, Repr

/-- The worker after an event, if the event is possible. -/
def step (worker : RunJobWorker) : Event → Option RunJobWorker
  | .runLoop =>
      if worker.position = .notStarted then some worker.continueLoop else none
  | .signalAborted => some { worker with signalAborted := true }
  | .beginDrain => some worker.beginDrain
  | .pauseClaims => some worker.pauseClaims
  | .resumeClaims => some worker.resumeClaims
  | .waitForQuiescence cancelled => some (worker.waitForQuiescence cancelled)
  | .workChanged waiter cancelled => worker.workChanged waiter cancelled
  | .waitCancelled waiter => worker.waitCancelled waiter
  | .admissionChanged =>
      match worker.position with
      | .awaitingChange changed =>
          if changed < worker.admissionChange || worker.signalAborted then
            some worker.waitUntilAccepting
          else
            none
      | _ => none
  | .waitReturned requestParses =>
      if worker.position = .waitReturned then
        some (worker.afterWait requestParses)
      else
        none
  | .admissionRefreshed admits requestParses =>
      if worker.position = .refreshingAdmission then
        some (worker.afterRefresh admits requestParses)
      else
        none
  | .claimAnswered answer =>
      match worker.position with
      | .claiming pendingClaim _ => some (worker.afterClaim pendingClaim answer)
      | _ => none
  | .claimFailed =>
      match worker.position with
      | .claiming pendingClaim attempt =>
          some (worker.claimFailed pendingClaim attempt)
      | _ => none
  | .slept =>
      if worker.position = .sleeping then some worker.continueLoop else none
  | .executed failed =>
      match worker.position with
      | .executing active => some (worker.afterExecution active failed)
      | _ => none

/-- The worker after a run of events. -/
def run (worker : RunJobWorker) : List Event → Option RunJobWorker
  | [] => some worker
  | event :: events => (worker.step event).bind fun next => next.run events

end RunJobWorker

end TaskTwin.JobWorker
