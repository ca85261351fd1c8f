import TaskTwin.Capture.Submissions

/-!
# The order of submissions

A text input that is flushed is of the last input event that the recorder took.
Where later input events on its field went without a candidate, its value is
an earlier one; where a click is submitted meanwhile, it comes too late.
-/

namespace TaskTwin.Capture

open Text Schema Privacy Collection
open TaskTwin.Locator (LocatorBundle)

variable
  {Id : Type}
  [DecidableEq Id]
  {unicode : Unicode}
  {events : List (CaptureEvent Id)}
  {event : CaptureEvent Id}
  {state : CaptureState Id}
  {action : Nat}

/-- What is pending is of the last input that was taken. -/
structure IsTracked (unicode : Unicode) (events : List (CaptureEvent Id)) :
    Prop where
  wired : (runCapture unicode events).IsWired
  isEarlier :
    ∀ entry ∈ (runCapture unicode events).pendingInputs,
      entry.2.captured.action < events.length
  isLast :
    ∀ entry ∈ (runCapture unicode events).pendingInputs,
      ∀ captured,
        IsTakenLast unicode events entry.1 captured → captured = entry.2.captured

/-- This holds after every run. -/
theorem isTracked (unicode : Unicode) (events : List (CaptureEvent Id)) :
    IsTracked unicode events := by
  induction events using List.reverseRecOn with
  | nil =>
      refine { wired := ⟨List.nodup_nil, ?_, ?_⟩, isEarlier := ?_, isLast := ?_ }
      all_goals
        intro entry listed
        cases listed
  | append_singleton events event inductionHypothesis =>
      have steps :=
        @steps_step _ _ unicode _ events.length inductionHypothesis.wired event
      rw [← runCapture_concat] at steps
      refine { wired := steps.wired, isEarlier := ?_, isLast := ?_ }
      · intro entry listed
        rw [List.length_append, List.length_singleton]
        rcases steps.pending entry listed with ⟨isOld, -⟩ | isTaken
        · have := inductionHypothesis.isEarlier entry isOld
          omega
        · rw [(takenInput_spec isTaken).1]
          omega
      · intro entry listed captured isLast
        have isElement := steps.wired.ofElement entry listed
        rcases steps.pending entry listed with ⟨isOld, -, notTaken⟩ | isTaken
        · rcases isTakenLast_concat isLast with
            ⟨isEntry, isTaken⟩ | ⟨-, isLastBefore⟩
          · exact absurd isEntry (notTaken captured isTaken)
          · exact inductionHypothesis.isLast entry isOld captured isLastBefore
        · rcases isTakenLast_concat isLast with
            ⟨-, isTakenToo⟩ | ⟨noValue, -⟩
          · exact Option.some.inj (isTakenToo.symm.trans isTaken)
          · obtain ⟨-, value, isValue, -⟩ := takenInput_spec isTaken
            rw [isElement, noValue] at isValue
            cases isValue

/-- What has been submitted is of the last input events, and in order. -/
structure IsInOrder (unicode : Unicode) (events : List (CaptureEvent Id)) :
    Prop where
  carriesLast :
    ∀ submission ∈ (runCapture unicode events).submitted,
      submission.submittedAt ≤ events.length ∧
        (submission.captured.candidate.payload.isTextInput = true →
          ∃ value,
            lastValue (events.take submission.submittedAt)
                submission.captured.element =
              some value ∧
            CarriesValue value submission.captured.candidate)
  inOrder :
    (runCapture unicode events).submitted.Pairwise fun earlier later =>
      earlier.captured.action < later.captured.action
  isEarlier :
    ∀ submission ∈ (runCapture unicode events).submitted,
      submission.captured.action < events.length
  beforePending :
    ∀ submission ∈ (runCapture unicode events).submitted,
      ∀ entry ∈ (runCapture unicode events).pendingInputs,
        submission.captured.action < entry.2.captured.action

/-- What an event submits is flushed, or a click or a change. -/
theorem CaptureState.Steps.mem_submitted
    {next : CaptureState Id}
    (steps : CaptureState.Steps unicode state action event next)
    {submission : Submission Id}
    (listed : submission ∈ next.submitted) :
    submission ∈ state.submitted ∨
      submission.submittedAt = action ∧
        ((∃ entry ∈ state.flushedInputs event,
            entry.2.captured = submission.captured) ∨
          state.capturedAtOnce unicode action event =
            some submission.captured) := by
  rw [steps.submitted, List.mem_append, List.mem_map] at listed
  refine listed.imp_right ?_
  rintro ⟨captured, isCaptured, rfl⟩
  refine ⟨rfl, ?_⟩
  rw [List.mem_append, List.mem_map, Option.mem_toList] at isCaptured
  exact isCaptured

omit [DecidableEq Id] in
/-- No text input is taken when a click or a change is submitted. -/
theorem takenInput_of_atOnce
    {captured : CapturedEvent Id}
    (isCaptured : state.capturedAtOnce unicode action event = some captured) :
    state.takenInput unicode action event = none := by
  cases event with
  | input => cases isCaptured
  | _ => rfl

theorem mem_flushedInputs
    {entry : Id × PendingTextInput Id}
    (listed : entry ∈ state.flushedInputs event) :
    entry ∈ state.pendingInputs := by
  cases event with
  | suspendAndFlush => exact listed
  | blur dom =>
      rw [CaptureState.flushedInputs] at listed
      split at listed
      · cases listed
      · split at listed
        · exact (List.mem_filter.mp listed).1
        · cases listed
  | expire timer =>
      rw [CaptureState.flushedInputs] at listed
      split at listed
      · cases listed
      · exact (List.mem_filter.mp listed).1
  | _ => cases listed

/-- A step in which the recorder flushes in time. -/
theorem IsInOrder.concat
    (ordered : IsInOrder unicode events)
    (inTime : FlushesInTime unicode events event) :
    IsInOrder unicode (events ++ [event]) := by
  have tracked := isTracked unicode events
  have steps :=
    @steps_step _ _ unicode _ events.length tracked.wired event
  rw [← runCapture_concat] at steps
  have length : (events ++ [event]).length = events.length + 1 := by simp
  refine
    { carriesLast := ?_, inOrder := ?_, isEarlier := ?_, beforePending := ?_ }
  · intro submission listed
    rw [length]
    rcases steps.mem_submitted listed with isOld | ⟨isNow, isNew⟩
    · obtain ⟨notLater, carries⟩ := ordered.carriesLast submission isOld
      refine ⟨by omega, ?_⟩
      rwa [List.take_append_of_le_length notLater]
    · refine ⟨by omega, fun isText => ?_⟩
      rw [isNow, List.take_left]
      rcases isNew with ⟨entry, isFlushed, isCaptured⟩ | isCaptured
      · obtain ⟨captured, isLast⟩ := inTime.takesLast entry isFlushed
        have isPending := mem_flushedInputs isFlushed
        have isElement := tracked.wired.ofElement entry isPending
        rw [← isCaptured, isElement,
          ← tracked.isLast entry isPending captured isLast]
        exact lastValue_of_isTakenLast isLast
      · rw [(capturedAtOnce_spec isCaptured).2] at isText
        cases isText
  · have flushedBeforeAtOnce :
        ((((runCapture unicode events).flushedInputs event).map
            fun entry => entry.2.captured) ++
          ((runCapture unicode events).capturedAtOnce unicode events.length
            event).toList).Pairwise
          fun earlier later => earlier.action < later.action := by
      rw [List.pairwise_append, List.pairwise_map]
      refine ⟨inTime.ascending, ?_, ?_⟩
      · cases (runCapture unicode events).capturedAtOnce unicode
            events.length event with
        | none => exact List.Pairwise.nil
        | some captured => exact List.pairwise_singleton _ _
      · intro flushed isFlushed atOnce isAtOnce
        obtain ⟨entry, isEntry, rfl⟩ := List.mem_map.mp isFlushed
        rw [(capturedAtOnce_spec (Option.mem_toList.mp isAtOnce)).1]
        exact tracked.isEarlier entry (mem_flushedInputs isEntry)
    rw [steps.submitted, List.pairwise_append, List.pairwise_map]
    refine ⟨ordered.inOrder, flushedBeforeAtOnce, ?_⟩
    intro earlier isOld later isNew
    obtain ⟨captured, isCaptured, rfl⟩ := List.mem_map.mp isNew
    rcases List.mem_append.mp isCaptured with isFlushed | isAtOnce
    · obtain ⟨entry, isEntry, rfl⟩ := List.mem_map.mp isFlushed
      exact ordered.beforePending earlier isOld entry
        (mem_flushedInputs isEntry)
    · have isNow :=
        (capturedAtOnce_spec (Option.mem_toList.mp isAtOnce)).1
      simp only [isNow]
      exact ordered.isEarlier earlier isOld
  · intro submission listed
    rw [length]
    rcases steps.mem_submitted listed with isOld | ⟨-, isNew⟩
    · have := ordered.isEarlier submission isOld
      omega
    · rcases isNew with ⟨entry, isFlushed, isCaptured⟩ | isCaptured
      · have := tracked.isEarlier entry (mem_flushedInputs isFlushed)
        rw [← isCaptured]
        omega
      · rw [(capturedAtOnce_spec isCaptured).1]
        omega
  · intro submission listed entry isPending
    rcases steps.pending entry isPending with ⟨isOld, isLeft, -⟩ | isTaken
    · rcases steps.mem_submitted listed with isOldToo | ⟨-, isNew⟩
      · exact ordered.beforePending submission isOldToo entry isOld
      · rcases isNew with ⟨flushed, isFlushed, isCaptured⟩ | isCaptured
        · rw [← isCaptured]
          exact inTime.isOldest flushed isFlushed entry isOld isLeft
        · rw [inTime.nonePending _ isCaptured] at isOld
          cases isOld
    · rw [(takenInput_spec isTaken).1]
      rcases steps.mem_submitted listed with isOldToo | ⟨-, isNew⟩
      · exact ordered.isEarlier submission isOldToo
      · rcases isNew with ⟨flushed, isFlushed, isCaptured⟩ | isCaptured
        · rw [← isCaptured]
          exact tracked.isEarlier flushed (mem_flushedInputs isFlushed)
        · rw [takenInput_of_atOnce isCaptured] at isTaken
          cases isTaken

/-- A run in which the recorder flushes in time at every event. -/
theorem isInOrder_of_flushesInTime
    (inTime :
      ∀ before event after,
        events = before ++ event :: after →
          FlushesInTime unicode before event) :
    IsInOrder unicode events := by
  induction events using List.reverseRecOn with
  | nil =>
      refine
        { carriesLast := ?_
          inOrder := List.Pairwise.nil
          isEarlier := ?_
          beforePending := ?_ }
      all_goals
        intro submission listed
        cases listed
  | append_singleton events event inductionHypothesis =>
      have ordered : IsInOrder unicode events := by
        refine inductionHypothesis fun before earlier after isSplit => ?_
        refine inTime before earlier (after ++ [event]) ?_
        rw [isSplit, List.append_assoc, List.cons_append]
      exact ordered.concat (inTime events event [] rfl)

/--
Values and order are right in every run in which what is flushed is of the
last input event on its field and oldest, and nothing is passed over.
-/
theorem submissionLaw_of_flushesInTime
    (inTime :
      ∀ before event after,
        events = before ++ event :: after →
          FlushesInTime unicode before event) :
    SubmissionLaw unicode events := by
  have ordered := isInOrder_of_flushesInTime inTime
  refine
    { carriesLast := fun submission listed =>
        (ordered.carriesLast submission listed).2
      inOrder := ordered.inOrder
      pendingFirst := ?_ }
  intro before event after isSplit submission listed isNow entry isPending _
  have tracked := isTracked unicode before
  have steps :=
    @steps_step _ _ unicode _ before.length tracked.wired event
  rw [← runCapture_concat] at steps
  have orderedBefore : IsInOrder unicode before := by
    refine isInOrder_of_flushesInTime fun front earlier back isFront => ?_
    refine inTime front earlier (back ++ event :: after) ?_
    rw [isSplit, isFront, List.append_assoc, List.cons_append]
  rcases steps.mem_submitted listed with isOld | ⟨-, isNew⟩
  · have := orderedBefore.isEarlier submission isOld
    omega
  · rcases isNew with ⟨flushed, isFlushed, isCaptured⟩ | isCaptured
    · have := tracked.isEarlier flushed (mem_flushedInputs isFlushed)
      rw [isCaptured] at this
      omega
    · have nonePending :=
        (inTime before event after isSplit).nonePending _ isCaptured
      rw [nonePending] at isPending
      cases isPending

/-- `<input type="text">`. -/
def exampleField (value : JsString) : PageElement :=
  { interface := .input .text value false false
    tagName := js "INPUT"
    getAttribute := fun _ => none
    firstLabel := none
    closestLabel := none
    textContent := []
    elementText := fun _ => none }

/-- `<button>Save</button>`. -/
def exampleButton : PageElement :=
  { interface := .button false
    tagName := js "BUTTON"
    getAttribute := fun _ => none
    firstLabel := none
    closestLabel := none
    textContent := js "Save"
    elementText := fun _ => none }

def exampleBundle (selector : String) : LocatorBundle :=
  { primary :=
      { locator := .css (js selector)
        score := 50
        source := .css
        reasons := [.of .cssFallback, .of .uniqueMatch] }
    fallbacks := []
    confidence := .low
    generatedAt := js "2026-01-01T00:00:00Z" }

/-- An event on the field, which has a value. -/
def onField (value : String) (locatorBundle : Option LocatorBundle) :
    DomEvent Nat :=
  { trusted := true
    target := some (1, exampleField (js value))
    occurredAt := js "2026-01-01T00:00:00Z"
    locatorBundle }

def onButton : DomEvent Nat :=
  { trusted := true
    target := some (2, exampleButton)
    occurredAt := js "2026-01-01T00:00:00Z"
    locatorBundle := some (exampleBundle "button") }

def inputEvents : List (CaptureEvent Nat) :=
  [.start, .input false (onField "a" (some (exampleBundle "input")))]

/-- The later value has no locator. -/
def staleEvents : List (CaptureEvent Nat) :=
  inputEvents ++ [.input false (onField "ab" none), .blur (onField "ab" none)]

/-- The field keeps the focus when the button is clicked. -/
def passedOverEvents : List (CaptureEvent Nat) :=
  inputEvents ++ [.click true false onButton, .blur (onField "a" none)]

/-- What these events come to. -/
theorem exampleRuns :
    ((runCapture asciiUnicode [.start]).takenInput asciiUnicode 1
            (.input false (onField "a" (some (exampleBundle "input"))))).map
          CapturedEvent.element =
        some 1 ∧
      (runCapture asciiUnicode inputEvents).pendingInputs.map
          (fun entry => (entry.1, entry.2.captured.action)) =
        [(1, 1)] ∧
      (runCapture asciiUnicode staleEvents).submitted.map (fun submission =>
          (submission.captured.element, submission.submittedAt,
            submission.captured.candidate.payload)) =
        [(1, 3,
          .textInput (.allow { value := js "a", truncated := false }))] ∧
      (runCapture asciiUnicode passedOverEvents).submitted.map
          (fun submission => submission.captured.action) =
        [2, 1] := by
  decide +kernel

theorem isTakenLast_inputEvents :
    ∃ captured, IsTakenLast asciiUnicode inputEvents 1 captured := by
  have isTaken :
      ((runCapture asciiUnicode [.start]).takenInput asciiUnicode 1
          (.input false (onField "a" (some (exampleBundle "input"))))).map
          CapturedEvent.element =
        some 1 :=
    exampleRuns.1
  obtain ⟨captured, isCaptured, isElement⟩ := Option.map_eq_some_iff.mp isTaken
  exact ⟨captured, isElement, [.start], _, [], rfl, isCaptured, fun _ isLater =>
    (List.not_mem_nil isLater).elim⟩

/-- An event that flushes nothing and is neither a click nor a change. -/
theorem FlushesInTime.of_none
    (noneFlushed : (runCapture unicode events).flushedInputs event = [])
    (noneAtOnce :
      (runCapture unicode events).capturedAtOnce unicode events.length event =
        none) :
    FlushesInTime unicode events event := by
  refine
    { takesLast := ?_, isOldest := ?_, ascending := ?_, nonePending := ?_ }
  · rw [noneFlushed]
    exact fun _ isFlushed => (List.not_mem_nil isFlushed).elim
  · rw [noneFlushed]
    exact fun _ isFlushed => (List.not_mem_nil isFlushed).elim
  · rw [noneFlushed]
    exact List.Pairwise.nil
  · rw [noneAtOnce]
    exact fun _ isCaptured => by cases isCaptured

/-- All that is pending is flushed. -/
theorem FlushesInTime.of_onlyPending
    {entry : Id × PendingTextInput Id}
    (onlyEntry : (runCapture unicode events).pendingInputs = [entry])
    (isTakenLast : ∃ captured, IsTakenLast unicode events entry.1 captured) :
    FlushesInTime unicode events .suspendAndFlush := by
  refine
    { takesLast := ?_
      isOldest := fun _ _ other isOther notFlushed => absurd isOther notFlushed
      ascending := ?_
      nonePending := fun captured isCaptured => ?_ }
  · intro flushed isFlushed
    rw [CaptureState.flushedInputs, onlyEntry, List.mem_singleton] at isFlushed
    rwa [isFlushed]
  · rw [CaptureState.flushedInputs, onlyEntry]
    exact List.pairwise_singleton _ _
  · cases isCaptured

/-- A field is changed, and the recorder suspended. -/
theorem submissionLaw_inputEvents :
    SubmissionLaw asciiUnicode (inputEvents ++ [.suspendAndFlush]) := by
  apply submissionLaw_of_flushesInTime
  have isPending :
      (runCapture asciiUnicode inputEvents).pendingInputs.map
          (fun entry => (entry.1, entry.2.captured.action)) =
        [(1, 1)] :=
    exampleRuns.2.1
  intro before event after isSplit
  rcases List.eq_nil_or_concat after with rfl | ⟨after, last, rfl⟩
  · obtain ⟨rfl, isEvent⟩ := List.append_inj' isSplit rfl
    obtain rfl := (List.cons.inj isEvent).1
    obtain ⟨entry, onlyEntry, isEntry⟩ := List.map_eq_singleton_iff.mp isPending
    refine .of_onlyPending onlyEntry ?_
    rw [(Prod.mk.inj isEntry).1]
    exact isTakenLast_inputEvents
  · have isSplit' :
        inputEvents ++ [.suspendAndFlush] =
          (before ++ event :: after) ++ [last] := by
      simpa using isSplit
    obtain ⟨isInput, -⟩ := List.append_inj' isSplit' rfl
    have notFlushing :
        event = .start ∨ ∃ dom, event = .input false dom := by
      have listed : event ∈ inputEvents := by
        rw [isInput]
        simp
      rcases List.mem_cons.mp listed with isStart | later
      · exact Or.inl isStart
      · exact Or.inr ⟨_, List.mem_singleton.mp later⟩
    rcases notFlushing with rfl | ⟨dom, rfl⟩
    · exact .of_none rfl rfl
    · exact .of_none rfl rfl

/--
An earlier value is submitted when the later one has no locator, and a click is
submitted before the text that was entered before it.
-/
theorem not_submissionLaw :
    ¬SubmissionLaw asciiUnicode staleEvents ∧
      ¬SubmissionLaw asciiUnicode passedOverEvents := by
  constructor
  · intro holds
    have isSubmitted :
        (runCapture asciiUnicode staleEvents).submitted.map (fun submission =>
            (submission.captured.element, submission.submittedAt,
              submission.captured.candidate.payload)) =
          [(1, 3,
            .textInput (.allow { value := js "a", truncated := false }))] :=
      exampleRuns.2.2.1
    obtain ⟨submission, onlyOne, isSubmission⟩ :=
      List.map_eq_singleton_iff.mp isSubmitted
    obtain ⟨isElement, isRest⟩ := Prod.mk.inj isSubmission
    obtain ⟨isTime, isPayload⟩ := Prod.mk.inj isRest
    obtain ⟨value, isValue, carries⟩ :=
      holds.carriesLast submission
        (by
          rw [onlyOne]
          exact List.mem_singleton_self _)
        (by
          rw [isPayload]
          rfl)
    rw [isElement, isTime] at isValue
    have isLast :
        lastValue (staleEvents.take 3) 1 = some (js "ab") := by
      decide +kernel
    obtain rfl := Option.some.inj (isValue.symm.trans isLast)
    rw [CarriesValue, isPayload, sanitizeCapturedValue] at carries
    have isText := EventPayload.textInput.inj carries
    split at isText
    · cases isText
    · cases isText
    · have sameValue :=
        congrArg CapturedText.value (Captured.allow.inj isText)
      exact absurd sameValue (by decide +kernel)
  · intro holds
    have isSubmitted :
        (runCapture asciiUnicode passedOverEvents).submitted.map
            (fun submission => submission.captured.action) =
          [2, 1] :=
      exampleRuns.2.2.2
    have inOrder := List.pairwise_map.mpr holds.inOrder
    rw [isSubmitted] at inOrder
    revert inOrder
    decide

end TaskTwin.Capture
