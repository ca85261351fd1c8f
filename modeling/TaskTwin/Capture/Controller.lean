import TaskTwin.Capture.Candidates
import TaskTwin.Collection.InsertionMap

/-!
# The recorder of a page

Clicks and changes are submitted at once.  Text inputs are kept until their
timer expires, their field loses the focus or the recorder is suspended.
-/

namespace TaskTwin.Capture

open Text Schema Privacy Collection
open TaskTwin.Locator (LocatorBundle parseLocatorBundle)

/-- An event of the page, with its element as it is then. -/
structure DomEvent (Id : Type) where
  trusted : Bool
  /-- For a click, `closest` with the selector of actionable elements. -/
  target : Option (Id × PageElement)
  /-- `clock.now()`. -/
  occurredAt : JsString
  /-- `locatorFactory.create`; none when it finds no locator or throws. -/
  locatorBundle : Option LocatorBundle

inductive CaptureEvent (Id : Type) where
  | configurePrivacy (settings : PrivacySettings)
  | start
  | stopWithoutFlush
  | suspendAndFlush
  /-- The target of a click may belong to a control that `change` is for. -/
  | click (isPrimary onChangeControl : Bool) (event : DomEvent Id)
  | input (isComposing : Bool) (event : DomEvent Id)
  | change (event : DomEvent Id)
  | blur (event : DomEvent Id)
  | expire (timer : Nat)

/--
A candidate, of which only itself is submitted.  Its element and the number of
its event say what it stands for.
-/
structure CapturedEvent (Id : Type) where
  element : Id
  action : Nat
  candidate : RecordingEventCandidate

structure PendingTextInput (Id : Type) where
  captured : CapturedEvent Id
  timer : Nat

structure CaptureTimer (Id : Type) where
  handle : Nat
  captured : CapturedEvent Id

/-- What is submitted, and the number of the event that it is submitted at. -/
structure Submission (Id : Type) where
  captured : CapturedEvent Id
  submittedAt : Nat

/-- `EventCaptureController`; what becomes of its submissions is left out. -/
structure CaptureState (Id : Type) where
  capturing : Bool
  privacySettings : PrivacySettings
  pendingInputs : List (Id × PendingTextInput Id)
  timers : List (CaptureTimer Id)
  nextTimer : Nat
  submitted : List (Submission Id)

def initialCapture (Id : Type) : CaptureState Id :=
  { capturing := false
    privacySettings := defaultPrivacySettings
    pendingInputs := []
    timers := []
    nextTimer := 0
    submitted := [] }

variable (unicode : Unicode)

/-- `RecordingEventCandidateSchema.parse`; none when it throws. -/
def parseRecordingEventCandidate
    (candidate : RecordingEventCandidate) :
    Option RecordingEventCandidate := do
  let issues ← candidateIssues unicode candidate
  guard issues.isEmpty
  let target ← parseTargetSnapshot candidate.target
  let locatorBundle ← parseLocatorBundle candidate.locatorBundle
  return { candidate with target, locatorBundle }

/-- The candidate of an event; none when the handler returns or throws. -/
def buildCandidate
    (settings : PrivacySettings)
    (event : PageEvent)
    (element : PageElement)
    (occurredAt : JsString)
    (locatorBundle : Option LocatorBundle) :
    Option RecordingEventCandidate := do
  let locatorBundle ← locatorBundle
  let candidate ←
    captureCandidate unicode event element occurredAt locatorBundle settings
  parseRecordingEventCandidate unicode candidate

/-- What a handler captures of an event on some element. -/
def captureEvent
    {Id : Type}
    (settings : PrivacySettings)
    (action : Nat)
    (kind : PageEvent)
    (event : DomEvent Id) :
    Option (CapturedEvent Id) := do
  let (id, element) ← event.target
  let candidate ←
    buildCandidate unicode settings kind element event.occurredAt
      event.locatorBundle
  return { element := id, action, candidate }

namespace CaptureState

variable {Id : Type}

def clearTimeout (state : CaptureState Id) (timer : Nat) : CaptureState Id :=
  { state with
    timers := state.timers.filter fun armed => armed.handle ≠ timer }

/-- `clearTimeout(previous.timer)`, if there is a previous one. -/
def clearPrevious
    (state : CaptureState Id)
    (previous : Option (PendingTextInput Id)) :
    CaptureState Id :=
  match previous with
  | none => state
  | some previous => state.clearTimeout previous.timer

def submit
    (state : CaptureState Id)
    (action : Nat)
    (captured : CapturedEvent Id) :
    CaptureState Id :=
  { state with
    submitted := state.submitted ++ [{ captured, submittedAt := action }] }

variable [DecidableEq Id]

/-- A text input is kept under its field, with a timer of its own. -/
def keep (state : CaptureState Id) (captured : CapturedEvent Id) :
    CaptureState Id :=
  { state with
    pendingInputs :=
      mapSet captured.element { captured, timer := state.nextTimer }
        state.pendingInputs
    timers := state.timers ++ [{ handle := state.nextTimer, captured }]
    nextTimer := state.nextTimer + 1 }

def forget (state : CaptureState Id) (element : Id) : CaptureState Id :=
  { state with pendingInputs := mapDelete element state.pendingInputs }

def flushInput (state : CaptureState Id) (action : Nat) (element : Id) :
    CaptureState Id :=
  match mapGet element state.pendingInputs with
  | none => state
  | some pending =>
      ((state.clearTimeout pending.timer).forget element).submit action
        pending.captured

/-- `handleClick` and `handleChange`. -/
def handleAtOnce
    (state : CaptureState Id)
    (action : Nat)
    (kind : PageEvent)
    (event : DomEvent Id) :
    CaptureState Id :=
  if !state.capturing || !event.trusted then state
  else
    match captureEvent unicode state.privacySettings action kind event with
    | none => state
    | some captured => state.submit action captured

/-- The field is a text input that the recorder supports. -/
def supportsInput (event : DomEvent Id) : Bool :=
  event.target.any fun target => isHandled unicode .input target.2

/-- The timer of the previous candidate is cleared before there is a new one. -/
def handleInput
    (state : CaptureState Id)
    (action : Nat)
    (isComposing : Bool)
    (event : DomEvent Id) :
    CaptureState Id :=
  if !state.capturing || !event.trusted || isComposing then state
  else if !supportsInput unicode event then state
  else
    let previous :=
      event.target.bind fun target => mapGet target.1 state.pendingInputs
    let state := state.clearPrevious previous
    match captureEvent unicode state.privacySettings action .input event with
    | none => state
    | some captured => state.keep captured

def handleBlur
    (state : CaptureState Id)
    (action : Nat)
    (event : DomEvent Id) :
    CaptureState Id :=
  if !state.capturing || !event.trusted then state
  else
    match event.target with
    | none => state
    | some (id, element) =>
        if element.isInput then state.flushInput action id else state

/-- The callback of a timer, if it is still armed. -/
def expireTimer
    (state : CaptureState Id)
    (action timer : Nat) :
    CaptureState Id :=
  match state.timers.find? fun armed => armed.handle = timer with
  | none => state
  | some armed =>
      ((state.clearTimeout timer).forget armed.captured.element).submit action
        armed.captured

def stopWithoutFlush (state : CaptureState Id) : CaptureState Id :=
  { state with
    capturing := false
    timers :=
      state.timers.filter fun armed =>
        state.pendingInputs.all fun entry => entry.2.timer ≠ armed.handle
    pendingInputs := [] }

/-- The text inputs are submitted in the order of the map. -/
def suspendAndFlush (state : CaptureState Id) (action : Nat) :
    CaptureState Id :=
  (state.pendingInputs.map Prod.fst).foldl
    (fun state element => state.flushInput action element)
    { state with capturing := false }

/-- What the recorder does at an event, which has a number. -/
def step
    (state : CaptureState Id)
    (action : Nat) :
    CaptureEvent Id → CaptureState Id
  | .configurePrivacy settings => { state with privacySettings := settings }
  | .start => { state with capturing := true }
  | .stopWithoutFlush => state.stopWithoutFlush
  | .suspendAndFlush => state.suspendAndFlush action
  | .click isPrimary onChangeControl event =>
      if isPrimary then
        state.handleAtOnce unicode action (.click onChangeControl) event
      else
        state
  | .input isComposing event =>
      state.handleInput unicode action isComposing event
  | .change event => state.handleAtOnce unicode action .change event
  | .blur event => state.handleBlur action event
  | .expire timer => state.expireTimer action timer

end CaptureState

/-- The state after some events, which are numbered from zero. -/
def runCapture
    {Id : Type}
    [DecidableEq Id]
    (events : List (CaptureEvent Id)) :
    CaptureState Id :=
  (events.zipIdx).foldl (fun state event => state.step unicode event.2 event.1)
    (initialCapture Id)

end TaskTwin.Capture
