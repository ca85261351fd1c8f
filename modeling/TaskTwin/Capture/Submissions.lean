import TaskTwin.Capture.CaptureLaw
import TaskTwin.Capture.Controller

/-!
# What a recorder submits

The law of its submissions, and what one event does to the text inputs that are
pending.
-/

namespace TaskTwin.Capture

open Text Schema Privacy Collection
open TaskTwin.Locator (LocatorBundle)

variable {Id : Type} [DecidableEq Id]

/-- The value of a field at a trusted input event on it. -/
def CaptureEvent.inputValue (element : Id) : CaptureEvent Id → Option JsString
  | .input _ event =>
      if event.trusted then
        event.target.bind fun target =>
          if target.1 = element then
            match target.2.interface with
            | .input _ value _ _ => some value
            | _ => none
          else none
      else none
  | _ => none

/-- The value of a field as of the last input event on it. -/
def lastValue (events : List (CaptureEvent Id)) (element : Id) :
    Option JsString :=
  (events.filterMap (CaptureEvent.inputValue element)).getLast?

/-- A text input carries a value as far as its policy allows. -/
def CarriesValue (value : JsString) (candidate : RecordingEventCandidate) :
    Prop :=
  candidate.payload =
    .textInput
      (sanitizeCapturedValue value candidate.privacyDecision
        maxInputValueLength)

def EventPayload.isTextInput : EventPayload → Bool
  | .textInput _ => true
  | _ => false

variable (unicode : Unicode)

/--
Text inputs are submitted with the value of the last input event before, and
candidates in the order of the events that they stand for; what is pending
when another element is clicked or changed is submitted first.
-/
structure SubmissionLaw (events : List (CaptureEvent Id)) : Prop where
  carriesLast :
    ∀ submission ∈ (runCapture unicode events).submitted,
      submission.captured.candidate.payload.isTextInput = true →
        ∃ value,
          lastValue (events.take submission.submittedAt)
              submission.captured.element =
            some value ∧
          CarriesValue value submission.captured.candidate
  inOrder :
    (runCapture unicode events).submitted.Pairwise fun earlier later =>
      earlier.captured.action < later.captured.action
  pendingFirst :
    ∀ before event after,
      events = before ++ event :: after →
        ∀ submission ∈ (runCapture unicode (before ++ [event])).submitted,
          submission.captured.action = before.length →
            ∀ entry ∈ (runCapture unicode before).pendingInputs,
              entry.1 ≠ submission.captured.element →
                entry.2.captured ∈
                  (runCapture unicode (before ++ [event])).submitted.map
                    Submission.captured

/-- The text input that the recorder takes at an event. -/
def CaptureState.takenInput
    (state : CaptureState Id)
    (action : Nat) :
    CaptureEvent Id → Option (CapturedEvent Id)
  | .input isComposing event =>
      if state.capturing && event.trusted && !isComposing then
        captureEvent unicode state.privacySettings action .input event
      else none
  | _ => none

/-- The click or the change that the recorder submits at an event. -/
def CaptureState.capturedAtOnce
    (state : CaptureState Id)
    (action : Nat) :
    CaptureEvent Id → Option (CapturedEvent Id)
  | .click isPrimary onChangeControl event =>
      if isPrimary && state.capturing && event.trusted then
        captureEvent unicode state.privacySettings action
          (.click onChangeControl) event
      else none
  | .change event =>
      if state.capturing && event.trusted then
        captureEvent unicode state.privacySettings action .change event
      else none
  | _ => none

/-- The text inputs that an event flushes, in their order. -/
def CaptureState.flushedInputs
    (state : CaptureState Id) :
    CaptureEvent Id → List (Id × PendingTextInput Id)
  | .suspendAndFlush => state.pendingInputs
  | .blur event =>
      match event.target with
      | none => []
      | some (id, element) =>
          if state.capturing && event.trusted && element.isInput then
            state.pendingInputs.filter fun entry => entry.1 = id
          else []
  | .expire timer =>
      match state.timers.find? fun armed => armed.handle = timer with
      | none => []
      | some armed =>
          state.pendingInputs.filter fun entry =>
            entry.1 = armed.captured.element
  | _ => []

/-- The last input event on a field is one that the recorder takes. -/
def IsTakenLast
    (events : List (CaptureEvent Id))
    (element : Id)
    (captured : CapturedEvent Id) :
    Prop :=
  captured.element = element ∧
    ∃ before event after,
      events = before ++ event :: after ∧
        (runCapture unicode before).takenInput unicode before.length event =
          some captured ∧
        ∀ later ∈ after, later.inputValue element = none

/--
What is flushed is of the last input event on its field and older than all that
is pending; nothing is pending at a click or a change that is submitted.
-/
structure FlushesInTime
    (events : List (CaptureEvent Id))
    (event : CaptureEvent Id) :
    Prop where
  takesLast :
    ∀ entry ∈ (runCapture unicode events).flushedInputs event,
      ∃ captured, IsTakenLast unicode events entry.1 captured
  isOldest :
    ∀ entry ∈ (runCapture unicode events).flushedInputs event,
      ∀ other ∈ (runCapture unicode events).pendingInputs,
        other ∉ (runCapture unicode events).flushedInputs event →
          entry.2.captured.action < other.2.captured.action
  ascending :
    ((runCapture unicode events).flushedInputs event).Pairwise
      fun earlier later =>
        earlier.2.captured.action < later.2.captured.action
  nonePending :
    ∀ captured,
      (runCapture unicode events).capturedAtOnce unicode events.length event =
          some captured →
        (runCapture unicode events).pendingInputs = []

variable {unicode} {events : List (CaptureEvent Id)} {event : CaptureEvent Id}

theorem runCapture_concat :
    runCapture unicode (events ++ [event]) =
      (runCapture unicode events).step unicode events.length event := by
  simp [runCapture, List.zipIdx_append]

omit [DecidableEq Id] in
/-- What is captured has the payload of its event. -/
theorem captureEvent_spec
    {settings : PrivacySettings}
    {action : Nat}
    {kind : PageEvent}
    {event : DomEvent Id}
    {captured : CapturedEvent Id}
    (isCaptured :
      captureEvent unicode settings action kind event = some captured) :
    captured.action = action ∧
      ∃ element,
        event.target = some (captured.element, element) ∧
          capturePayload unicode kind element
              captured.candidate.privacyDecision =
            some captured.candidate.payload := by
  simp only [captureEvent, buildCandidate, captureCandidate,
    parseRecordingEventCandidate, Option.pure_def, Option.bind_eq_bind,
    Option.bind_eq_some_iff] at isCaptured
  obtain ⟨⟨id, element⟩, isTarget, candidate, isBuilt, isSame⟩ := isCaptured
  obtain ⟨bundle, -, built, isCandidate, -, -, -, -, target, -, parsed, -,
    isParsed⟩ := isBuilt
  obtain ⟨decision, -, payload, isPayload, snapshot, -, isCandidate⟩ :=
    isCandidate
  obtain rfl := Option.some.inj isSame
  obtain rfl := Option.some.inj isParsed
  obtain rfl := Option.some.inj isCandidate
  exact ⟨rfl, element, isTarget, isPayload⟩

/-- A text input that is taken has the value of its event. -/
theorem takenInput_spec
    {state : CaptureState Id}
    {action : Nat}
    {captured : CapturedEvent Id}
    (isTaken : state.takenInput unicode action event = some captured) :
    captured.action = action ∧
      ∃ value,
        event.inputValue captured.element = some value ∧
          CarriesValue value captured.candidate := by
  cases event with
  | input isComposing event =>
      rw [CaptureState.takenInput] at isTaken
      split at isTaken
      case isFalse => cases isTaken
      case isTrue accepted =>
        obtain ⟨⟨-, trusted⟩, -⟩ :
            (state.capturing = true ∧ event.trusted = true) ∧
              isComposing = false := by
          simpa using accepted
        obtain ⟨isAction, element, isTarget, isPayload⟩ :=
          captureEvent_spec isTaken
        refine ⟨isAction, ?_⟩
        rw [capturePayload] at isPayload
        split at isPayload
        case h_2 => cases isPayload
        case h_1 type value _ _ isInterface =>
          split at isPayload
          case isFalse => cases isPayload
          case isTrue =>
            refine ⟨value, ?_, (Option.some.inj isPayload).symm⟩
            simp [CaptureEvent.inputValue, trusted, isTarget, isInterface]
  | _ => cases isTaken

omit [DecidableEq Id] in
/-- A click or a change that is submitted is no text input. -/
theorem capturedAtOnce_spec
    {state : CaptureState Id}
    {action : Nat}
    {captured : CapturedEvent Id}
    (isCaptured : state.capturedAtOnce unicode action event = some captured) :
    captured.action = action ∧
      captured.candidate.payload.isTextInput = false := by
  have notText
      {kind : PageEvent}
      {event : DomEvent Id}
      (notInput : kind ≠ .input)
      (isCaptured :
        captureEvent unicode state.privacySettings action kind event =
          some captured) :
      captured.action = action ∧
        captured.candidate.payload.isTextInput = false := by
    obtain ⟨isAction, element, -, isPayload⟩ := captureEvent_spec isCaptured
    refine ⟨isAction, ?_⟩
    cases kind with
    | input => exact absurd rfl notInput
    | click onChangeControl =>
        rw [capturePayload] at isPayload
        split at isPayload
        · cases isPayload
        · rw [← Option.some.inj isPayload]
          rfl
    | change =>
        rw [capturePayload] at isPayload
        split at isPayload
        · split at isPayload
          · cases isPayload
          · rw [← Option.some.inj isPayload]
            rfl
        · rw [← Option.some.inj isPayload]
          rfl
        · split at isPayload
          · rw [← Option.some.inj isPayload]
            rfl
          · cases isPayload
        · cases isPayload
  cases event with
  | click isPrimary onChangeControl event =>
      rw [CaptureState.capturedAtOnce] at isCaptured
      split at isCaptured
      · exact notText PageEvent.noConfusion isCaptured
      · cases isCaptured
  | change event =>
      rw [CaptureState.capturedAtOnce] at isCaptured
      split at isCaptured
      · exact notText PageEvent.noConfusion isCaptured
      · cases isCaptured
  | _ => cases isCaptured

/-- The last input that is taken, after one event more. -/
theorem isTakenLast_concat
    {element : Id}
    {captured : CapturedEvent Id}
    (isLast : IsTakenLast unicode (events ++ [event]) element captured) :
    (captured.element = element ∧
        (runCapture unicode events).takenInput unicode events.length event =
          some captured) ∨
      (event.inputValue element = none ∧
        IsTakenLast unicode events element captured) := by
  obtain ⟨isElement, before, taken, after, isSplit, isTaken, isOver⟩ := isLast
  rcases List.eq_nil_or_concat after with rfl | ⟨after, last, rfl⟩
  · obtain ⟨rfl, isEvent⟩ := List.append_inj' isSplit rfl
    obtain rfl := (List.cons.inj isEvent).1
    exact Or.inl ⟨isElement, isTaken⟩
  · have isSplit' :
        events ++ [event] = (before ++ taken :: after) ++ [last] := by
      simpa using isSplit
    obtain ⟨rfl, isEvent⟩ := List.append_inj' isSplit' rfl
    obtain rfl := (List.cons.inj isEvent).1
    exact Or.inr
      ⟨isOver event (by simp), isElement, before, taken, after, rfl, isTaken,
        fun later isLater => isOver later (by simp [isLater])⟩

/-- The value of an input that is taken last is the last value. -/
theorem lastValue_of_isTakenLast
    {element : Id}
    {captured : CapturedEvent Id}
    (isLast : IsTakenLast unicode events element captured) :
    ∃ value,
      lastValue events element = some value ∧
        CarriesValue value captured.candidate := by
  obtain ⟨rfl, before, event, after, rfl, isTaken, isOver⟩ := isLast
  obtain ⟨-, value, isValue, carries⟩ := takenInput_spec isTaken
  refine ⟨value, ?_, carries⟩
  have noneLater :
      after.filterMap (CaptureEvent.inputValue captured.element) = [] :=
    List.filterMap_eq_nil_iff.mpr isOver
  rw [lastValue, List.filterMap_append, List.filterMap_cons_some isValue,
    noneLater, List.getLast?_concat]

/-- Every timer that is armed belongs to a text input that is pending. -/
structure CaptureState.IsWired (state : CaptureState Id) : Prop where
  distinct : (state.pendingInputs.map Prod.fst).Nodup
  ofElement : ∀ entry ∈ state.pendingInputs, entry.2.captured.element = entry.1
  armed :
    ∀ timer ∈ state.timers,
      ∃ entry ∈ state.pendingInputs,
        entry.2.captured = timer.captured ∧ entry.2.timer = timer.handle

/-- A text input is submitted, and neither kept nor timed any longer. -/
def CaptureState.flush
    (state : CaptureState Id)
    (action : Nat)
    (entry : Id × PendingTextInput Id) :
    CaptureState Id :=
  ((state.clearTimeout entry.2.timer).forget entry.1).submit action
    entry.2.captured

variable {state : CaptureState Id} {action : Nat}

theorem CaptureState.IsWired.flush
    (wired : state.IsWired)
    {entry : Id × PendingTextInput Id}
    (listed : entry ∈ state.pendingInputs) :
    (state.flush action entry).IsWired := by
  refine { distinct := ?_, ofElement := ?_, armed := ?_ }
  · exact ((mapDelete_sublist entry.1 state.pendingInputs).map
      Prod.fst).nodup wired.distinct
  · intro other isOther
    exact wired.ofElement other (mem_mapDelete.mp isOther).1
  · intro timer isTimer
    obtain ⟨isArmed, isOther⟩ := List.mem_filter.mp isTimer
    obtain ⟨other, isPending, isCaptured, isHandle⟩ :=
      wired.armed timer isArmed
    refine ⟨other, mem_mapDelete.mpr ⟨isPending, fun sameKey => ?_⟩,
      isCaptured, isHandle⟩
    obtain rfl : other = entry :=
      List.inj_on_of_nodup_map wired.distinct isPending listed sameKey
    exact of_decide_eq_true isOther isHandle.symm

theorem CaptureState.IsWired.flushInput
    (wired : state.IsWired)
    {entry : Id × PendingTextInput Id}
    (listed : entry ∈ state.pendingInputs) :
    state.flushInput action entry.1 = state.flush action entry := by
  rw [CaptureState.flushInput, mapGet_of_mem wired.distinct listed]
  rfl

/-- All that is pending is flushed in its order. -/
theorem CaptureState.IsWired.suspendAndFlush
    (wired : state.IsWired) :
    (state.suspendAndFlush action).IsWired ∧
      (state.suspendAndFlush action).pendingInputs = [] ∧
      (state.suspendAndFlush action).submitted =
        state.submitted ++
          state.pendingInputs.map fun entry =>
            { captured := entry.2.captured, submittedAt := action } := by
  have flushed
      (entries : List (Id × PendingTextInput Id))
      {state : CaptureState Id}
      (wired : state.IsWired)
      (arePending : state.pendingInputs = entries) :
      ((entries.map Prod.fst).foldl
          (fun state element => state.flushInput action element)
          state).IsWired ∧
        ((entries.map Prod.fst).foldl
          (fun state element => state.flushInput action element)
          state).pendingInputs = [] ∧
        ((entries.map Prod.fst).foldl
          (fun state element => state.flushInput action element)
          state).submitted =
          state.submitted ++
            entries.map fun entry =>
              { captured := entry.2.captured, submittedAt := action } := by
    induction entries generalizing state with
    | nil => exact ⟨wired, arePending, by simp⟩
    | cons entry entries inductionHypothesis =>
        have listed : entry ∈ state.pendingInputs := by
          rw [arePending]
          exact List.mem_cons_self
        have distinct := wired.distinct
        rw [arePending, List.map_cons, List.nodup_cons] at distinct
        have areLeft : (state.flush action entry).pendingInputs = entries := by
          have isRest : mapDelete entry.1 (entry :: entries) = entries := by
            rw [mapDelete, List.filter_cons_of_neg (by simp)]
            refine List.filter_eq_self.mpr fun other isOther => ?_
            refine decide_eq_true fun sameKey => distinct.1 ?_
            rw [← sameKey]
            exact List.mem_map_of_mem isOther
          rw [← arePending] at isRest
          exact isRest
        obtain ⟨wiredLater, noneLater, isSubmitted⟩ :=
          inductionHypothesis (wired.flush listed) areLeft
        rw [List.map_cons, List.foldl_cons, wired.flushInput listed]
        refine ⟨wiredLater, noneLater, ?_⟩
        rw [isSubmitted]
        simp [CaptureState.flush, CaptureState.submit, CaptureState.forget,
          CaptureState.clearTimeout]
  exact @flushed state.pendingInputs { state with capturing := false }
    ⟨wired.distinct, wired.ofElement, wired.armed⟩ rfl

/-- What becomes of pending text inputs, and what is submitted. -/
structure CaptureState.Steps
    (unicode : Unicode)
    (state : CaptureState Id)
    (action : Nat)
    (event : CaptureEvent Id)
    (next : CaptureState Id) :
    Prop where
  wired : next.IsWired
  pending :
    ∀ entry ∈ next.pendingInputs,
      (entry ∈ state.pendingInputs ∧ entry ∉ state.flushedInputs event ∧
          ∀ captured,
            state.takenInput unicode action event = some captured →
              captured.element ≠ entry.1) ∨
        state.takenInput unicode action event = some entry.2.captured
  submitted :
    next.submitted =
      state.submitted ++
        ((state.flushedInputs event).map (fun entry => entry.2.captured) ++
            (state.capturedAtOnce unicode action event).toList).map
          fun captured => { captured, submittedAt := action }

/-- Nothing is flushed or taken, and at most a click or a change submitted. -/
theorem CaptureState.Steps.of_atOnce
    {next : CaptureState Id}
    (wired : next.IsWired)
    (fewer : ∀ entry ∈ next.pendingInputs, entry ∈ state.pendingInputs)
    (noneFlushed : state.flushedInputs event = [])
    (noneTaken : state.takenInput unicode action event = none)
    (isSubmitted :
      next.submitted =
        state.submitted ++
          (state.capturedAtOnce unicode action event).toList.map
            fun captured => { captured, submittedAt := action }) :
    CaptureState.Steps unicode state action event next := by
  refine { wired, pending := ?_, submitted := ?_ }
  · intro entry listed
    refine Or.inl ⟨fewer entry listed, ?_, fun captured isTaken => ?_⟩
    · rw [noneFlushed]
      exact List.not_mem_nil
    · rw [noneTaken] at isTaken
      cases isTaken
  · rw [isSubmitted, noneFlushed, List.map_nil, List.nil_append]

/-- One text input is flushed. -/
theorem CaptureState.Steps.of_flush
    (wired : state.IsWired)
    {entry : Id × PendingTextInput Id}
    (listed : entry ∈ state.pendingInputs)
    (isFlushed :
      state.flushedInputs event =
        state.pendingInputs.filter fun other => other.1 = entry.1)
    (noneTaken : state.takenInput unicode action event = none)
    (noneAtOnce : state.capturedAtOnce unicode action event = none) :
    CaptureState.Steps unicode state action event
      (state.flush action entry) := by
  rw [filter_key wired.distinct listed] at isFlushed
  refine { wired := wired.flush listed, pending := ?_, submitted := ?_ }
  · intro other isOther
    obtain ⟨isPending, otherKey⟩ := mem_mapDelete.mp isOther
    refine Or.inl ⟨isPending, ?_, fun captured isTaken => ?_⟩
    · rw [isFlushed, List.mem_singleton]
      rintro rfl
      exact otherKey rfl
    · rw [noneTaken] at isTaken
      cases isTaken
  · rw [isFlushed, noneAtOnce]
    rfl

theorem steps_handleAtOnce
    (wired : state.IsWired)
    {kind : PageEvent}
    {event : CaptureEvent Id}
    {dom : DomEvent Id}
    (noneFlushed : state.flushedInputs event = [])
    (noneTaken : state.takenInput unicode action event = none)
    (isAtOnce :
      state.capturedAtOnce unicode action event =
        if state.capturing && dom.trusted then
          captureEvent unicode state.privacySettings action kind dom
        else none) :
    CaptureState.Steps unicode state action event
      (state.handleAtOnce unicode action kind dom) := by
  rw [CaptureState.handleAtOnce]
  by_cases accepted : (state.capturing && dom.trusted) = true
  · rw [if_pos accepted] at isAtOnce
    rw [if_neg (by simpa using accepted)]
    cases isCaptured :
        captureEvent unicode state.privacySettings action kind dom with
    | none =>
        refine .of_atOnce wired (fun _ listed => listed) noneFlushed noneTaken ?_
        simp [isAtOnce, isCaptured]
    | some captured =>
        refine .of_atOnce ⟨wired.distinct, wired.ofElement, wired.armed⟩
          (fun _ listed => listed) noneFlushed noneTaken ?_
        simp [isAtOnce, isCaptured, CaptureState.submit]
  · rw [if_neg accepted] at isAtOnce
    have refused : (!state.capturing || !dom.trusted) = true := by
      rw [← Bool.not_and, Bool.eq_false_iff.mpr accepted]
      rfl
    rw [if_pos refused]
    refine .of_atOnce wired (fun _ listed => listed) noneFlushed noneTaken ?_
    simp [isAtOnce]

/-- No timer is left of a field whose timer has been cleared. -/
theorem CaptureState.IsWired.clearPrevious
    (wired : state.IsWired)
    (element : Id) :
    (state.clearPrevious (mapGet element state.pendingInputs)).IsWired ∧
      (state.clearPrevious
          (mapGet element state.pendingInputs)).pendingInputs =
        state.pendingInputs ∧
      ∀ timer ∈
          (state.clearPrevious
            (mapGet element state.pendingInputs)).timers,
        timer.captured.element ≠ element := by
  have ofTimer :
      ∀ timer ∈ state.timers,
        timer.captured.element = element →
          ∃ entry ∈ state.pendingInputs,
            entry.1 = element ∧ entry.2.timer = timer.handle := by
    intro timer isArmed isElement
    obtain ⟨entry, isPending, isCaptured, isHandle⟩ :=
      wired.armed timer isArmed
    refine ⟨entry, isPending, ?_, isHandle⟩
    rw [← wired.ofElement entry isPending, isCaptured, isElement]
  cases isRead : mapGet element state.pendingInputs with
  | none =>
      refine ⟨wired, rfl, fun timer isArmed isElement => ?_⟩
      obtain ⟨entry, isPending, isKey, -⟩ := ofTimer timer isArmed isElement
      exact mapGet_eq_none_iff.mp isRead entry isPending isKey
  | some previous =>
      refine ⟨⟨wired.distinct, wired.ofElement, ?_⟩, rfl, ?_⟩
      · intro timer isArmed
        exact wired.armed timer (List.mem_filter.mp isArmed).1
      · intro timer isArmed isElement
        obtain ⟨isTimer, isOther⟩ := List.mem_filter.mp isArmed
        obtain ⟨entry, isPending, isKey, isHandle⟩ :=
          ofTimer timer isTimer isElement
        have isPrevious : entry.2 = previous :=
          value_unique wired.distinct (isKey ▸ isPending)
            (mem_of_mapGet isRead)
        rw [isPrevious] at isHandle
        exact of_decide_eq_true isOther isHandle.symm

theorem steps_handleInput
    (wired : state.IsWired)
    {isComposing : Bool}
    {dom : DomEvent Id} :
    CaptureState.Steps unicode state action (.input isComposing dom)
      (state.handleInput unicode action isComposing dom) := by
  rw [CaptureState.handleInput]
  by_cases accepted :
      (state.capturing && dom.trusted && !isComposing) = true
  case neg =>
    have refused :
        (!state.capturing || !dom.trusted || isComposing) = true := by
      rw [← Bool.not_and, ← Bool.not_not isComposing, ← Bool.not_and,
        Bool.eq_false_iff.mpr accepted]
      rfl
    rw [if_pos refused]
    refine .of_atOnce wired (fun _ listed => listed) rfl ?_ (by
      simp [CaptureState.capturedAtOnce])
    rw [CaptureState.takenInput, if_neg accepted]
  case pos =>
    have isTaken :
        state.takenInput unicode action (.input isComposing dom) =
          captureEvent unicode state.privacySettings action .input dom := by
      rw [CaptureState.takenInput, if_pos accepted]
    have notRefused :
        ¬(!state.capturing || !dom.trusted || isComposing) = true := by
      rw [← Bool.not_and, ← Bool.not_not isComposing, ← Bool.not_and, accepted]
      exact Bool.false_ne_true
    rw [if_neg notRefused]
    by_cases supported : CaptureState.supportsInput unicode dom = true
    case neg =>
      rw [if_pos (by simpa using supported)]
      refine .of_atOnce wired (fun _ listed => listed) rfl ?_ (by
        simp [CaptureState.capturedAtOnce])
      rw [isTaken, Option.eq_none_iff_forall_ne_some]
      intro captured isCaptured
      apply supported
      simp only [captureEvent, buildCandidate, Option.pure_def,
        Option.bind_eq_bind, Option.bind_eq_some_iff] at isCaptured
      obtain ⟨⟨id, element⟩, isTarget, _, ⟨_, -, _, isBuilt, -⟩, -⟩ :=
        isCaptured
      rw [CaptureState.supportsInput, isTarget, Option.any_some]
      exact (handled_of_captureCandidate isBuilt).1
    case pos =>
      rw [if_neg (by simpa using supported)]
      obtain ⟨⟨id, element⟩, isTarget, -⟩ :=
        (Option.any_eq_true _ _).mp supported
      obtain ⟨wiredCleared, samePending, noTimer⟩ := wired.clearPrevious id
      simp only [isTarget, Option.bind_some]
      generalize isCleared :
        state.clearPrevious (mapGet id state.pendingInputs) = cleared at *
      have sameSettings :
          cleared.privacySettings = state.privacySettings := by
        rw [← isCleared]
        cases mapGet id state.pendingInputs with
        | none => rfl
        | some previous => rfl
      have sameSubmitted : cleared.submitted = state.submitted := by
        rw [← isCleared]
        cases mapGet id state.pendingInputs with
        | none => rfl
        | some previous => rfl
      rw [sameSettings]
      cases isCaptured :
          captureEvent unicode state.privacySettings action .input dom with
      | none =>
          refine .of_atOnce wiredCleared ?_ rfl (isTaken.trans isCaptured) ?_
          · rw [samePending]
            exact fun _ listed => listed
          · simp [CaptureState.capturedAtOnce, sameSubmitted]
      | some captured =>
          obtain ⟨-, _, isTarget', -⟩ := captureEvent_spec isCaptured
          obtain rfl : id = captured.element := by
            rw [isTarget] at isTarget'
            exact (Prod.mk.inj (Option.some.inj isTarget')).1
          refine { wired := ?_, pending := ?_, submitted := ?_ }
          · refine
              { distinct := nodup_keys_mapSet wiredCleared.distinct
                ofElement := ?_
                armed := ?_ }
            · intro entry listed
              rcases mem_mapSet wiredCleared.distinct listed with
                rfl | ⟨isOld, -⟩
              · rfl
              · exact wiredCleared.ofElement entry isOld
            · intro timer isArmed
              rcases List.mem_append.mp isArmed with isOld | isNew
              · obtain ⟨entry, isPending, isCaptured', isHandle⟩ :=
                  wiredCleared.armed timer isOld
                refine ⟨entry, mem_mapSet_of_ne isPending ?_, isCaptured',
                  isHandle⟩
                rw [← wiredCleared.ofElement entry isPending, isCaptured']
                exact noTimer timer isOld
              · obtain rfl := List.mem_singleton.mp isNew
                exact ⟨_, mem_mapSet_self _ _ _, rfl, rfl⟩
          · intro entry listed
            rcases mem_mapSet wiredCleared.distinct listed with
              rfl | ⟨isOld, differs⟩
            · exact Or.inr (isTaken.trans isCaptured)
            · refine Or.inl ⟨samePending ▸ isOld, List.not_mem_nil, ?_⟩
              intro other isOther
              rw [isTaken, isCaptured] at isOther
              rw [← Option.some.inj isOther]
              exact differs.symm
          · simp [CaptureState.keep, CaptureState.flushedInputs,
              CaptureState.capturedAtOnce, sameSubmitted]

/-- What one event does. -/
theorem steps_step
    (wired : state.IsWired)
    (event : CaptureEvent Id) :
    CaptureState.Steps unicode state action event
      (state.step unicode action event) := by
  cases event with
  | configurePrivacy settings =>
      exact .of_atOnce ⟨wired.distinct, wired.ofElement, wired.armed⟩
        (fun _ listed => listed) rfl rfl (by
          simp [CaptureState.step, CaptureState.capturedAtOnce])
  | start =>
      exact .of_atOnce ⟨wired.distinct, wired.ofElement, wired.armed⟩
        (fun _ listed => listed) rfl rfl (by
          simp [CaptureState.step, CaptureState.capturedAtOnce])
  | stopWithoutFlush =>
      refine .of_atOnce ⟨List.nodup_nil, ?_, ?_⟩ ?_ rfl rfl (by
        simp [CaptureState.step, CaptureState.stopWithoutFlush,
          CaptureState.capturedAtOnce])
      · intro entry listed
        cases listed
      · intro timer isLeft
        obtain ⟨isArmed, others⟩ := List.mem_filter.mp isLeft
        obtain ⟨entry, isPending, -, isHandle⟩ := wired.armed timer isArmed
        have differs := List.all_eq_true.mp others entry isPending
        exact absurd isHandle (of_decide_eq_true differs)
      · intro entry listed
        cases listed
  | suspendAndFlush =>
      obtain ⟨wiredAfter, noneLeft, isSubmitted⟩ :=
        @CaptureState.IsWired.suspendAndFlush _ _ _ action wired
      refine { wired := wiredAfter, pending := ?_, submitted := ?_ }
      · intro entry listed
        rw [CaptureState.step, noneLeft] at listed
        cases listed
      · rw [CaptureState.step, isSubmitted]
        simp [CaptureState.flushedInputs, CaptureState.capturedAtOnce]
  | click isPrimary onChangeControl dom =>
      cases isPrimary with
      | false =>
          exact .of_atOnce wired (fun _ listed => listed) rfl rfl (by
            simp [CaptureState.step, CaptureState.capturedAtOnce])
      | true => exact steps_handleAtOnce wired rfl rfl rfl
  | input isComposing dom => exact steps_handleInput wired
  | change dom => exact steps_handleAtOnce wired rfl rfl rfl
  | blur dom =>
      have unchanged
          (noneFlushed : state.flushedInputs (.blur dom) = []) :
          CaptureState.Steps unicode state action (.blur dom) state :=
        .of_atOnce wired (fun _ listed => listed) noneFlushed rfl (by
          simp [CaptureState.capturedAtOnce])
      rw [CaptureState.step, CaptureState.handleBlur]
      cases isTarget : dom.target with
      | none =>
          rw [ite_self]
          exact unchanged (by simp [CaptureState.flushedInputs, isTarget])
      | some target =>
          obtain ⟨id, element⟩ := target
          by_cases accepted :
              (state.capturing && dom.trusted && element.isInput) = true
          · obtain ⟨⟨capturing, trusted⟩, isInput⟩ :
                (state.capturing = true ∧ dom.trusted = true) ∧
                  element.isInput = true := by
              simpa using accepted
            simp only [capturing, trusted, isInput, Bool.not_true,
              Bool.or_false, Bool.false_eq_true, if_false, if_true]
            have isFlushed :
                state.flushedInputs (.blur dom) =
                  state.pendingInputs.filter fun entry => entry.1 = id := by
              simp only [CaptureState.flushedInputs, isTarget]
              rw [if_pos accepted]
            cases isRead : mapGet id state.pendingInputs with
            | none =>
                rw [CaptureState.flushInput, isRead]
                refine unchanged (isFlushed.trans ?_)
                refine List.filter_eq_nil_iff.mpr fun entry listed isKey => ?_
                exact mapGet_eq_none_iff.mp isRead entry listed
                  (of_decide_eq_true isKey)
            | some pending =>
                have listed := mem_of_mapGet isRead
                rw [show id = (id, pending).1 from rfl,
                  wired.flushInput listed]
                exact .of_flush wired listed isFlushed rfl rfl
          · have noneFlushed : state.flushedInputs (.blur dom) = [] := by
              simp only [CaptureState.flushedInputs, isTarget]
              rw [if_neg accepted]
            by_cases refused : (!state.capturing || !dom.trusted) = true
            · rw [if_pos refused]
              exact unchanged noneFlushed
            · rw [if_neg refused]
              have notInput : ¬element.isInput = true := by
                intro isInput
                apply accepted
                simpa [isInput] using refused
              simp only [if_neg notInput]
              exact unchanged noneFlushed
  | expire timer =>
      rw [CaptureState.step, CaptureState.expireTimer]
      cases isFound : state.timers.find? fun armed => armed.handle = timer with
      | none =>
          exact .of_atOnce wired (fun _ listed => listed)
            (by simp [CaptureState.flushedInputs, isFound]) rfl (by
              simp [CaptureState.capturedAtOnce])
      | some armed =>
          have isHandle : armed.handle = timer := by
            simpa using List.find?_some isFound
          obtain ⟨entry, isPending, isCaptured, isTimer⟩ :=
            wired.armed armed (List.mem_of_find?_eq_some isFound)
          have isElement : armed.captured.element = entry.1 := by
            rw [← isCaptured, wired.ofElement entry isPending]
          have isFlush :
              ((state.clearTimeout timer).forget armed.captured.element).submit
                  action armed.captured =
                state.flush action entry := by
            rw [CaptureState.flush, isCaptured, isTimer, isHandle, isElement]
          simp only [isFlush]
          refine .of_flush wired isPending ?_ rfl rfl
          simp [CaptureState.flushedInputs, isFound, isElement]

end TaskTwin.Capture
