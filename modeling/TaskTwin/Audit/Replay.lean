import TaskTwin.Audit.EventInput
import TaskTwin.Audit.TamperEvidence

/-!
# Appending an event again

An event that the trail holds is not appended again.  The trail goes on
holding it, whatever is appended; a source that is free becomes taken by an
event of that source only.
-/

namespace TaskTwin.Audit

open Text Schema

variable
    {parseOther : JsString → Option TimeValue}
    {hasher : AuditHasher}

/-- The trail has an event that matches an input. -/
structure HoldsEvent
    (parseOther : JsString → Option TimeValue)
    (hasher : AuditHasher)
    (store : AuditStore)
    (input : JsValue)
    (parsed : ParsedAuditEventInput)
    (payloadDigest : JsString)
    (event : StoredAuditEvent) :
    Prop where
  isParsed : parseAuditEventInput parseOther input = some parsed
  digested : digestPayload hasher parsed = .ok payloadDigest
  found :
    store.findEventBySourceId parsed.workspaceId parsed.sourceId = some event
  isMatch : sourceMatches event parsed payloadDigest = true

def Holds
    (parseOther : JsString → Option TimeValue)
    (hasher : AuditHasher)
    (store : AuditStore)
    (input : JsValue) :
    Prop :=
  ∃ parsed payloadDigest event,
    HoldsEvent parseOther hasher store input parsed payloadDigest event

/-- No event of the trail has a source. -/
def IsFree (store : AuditStore) (sourceId : JsString) : Prop :=
  ∀ event ∈ store.events, event.sourceId ≠ sourceId

variable {store : AuditStore} {call : AppendCall}

theorem HoldsEvent.appendAuditEvent_eq
    {parsed : ParsedAuditEventInput}
    {payloadDigest : JsString}
    {event : StoredAuditEvent}
    (holds :
      HoldsEvent parseOther hasher store call.input parsed payloadDigest
        event) :
    appendAuditEvent parseOther hasher store call =
      (store, .ok { event, idempotent := true }) := by
  unfold appendAuditEvent
  simp only [holds.isParsed, holds.digested, holds.found, holds.isMatch,
    if_true]

/-- The events before an append are the first events after it. -/
theorem events_after_append
    (store : AuditStore)
    (call : AppendCall) :
    (appendAuditEvent parseOther hasher store call).1.events =
        store.events ∨
      ∃ parsed event,
        parseAuditEventInput parseOther call.input = some parsed ∧
          event.sourceId = parsed.sourceId ∧
          (appendAuditEvent parseOther hasher store call).1.events =
            store.events ++ [event] := by
  rcases appendAuditEvent_cases parseOther hasher store call with
    ⟨unchanged, -⟩ | ⟨parsed, event, appended, -⟩
  · exact Or.inl (by rw [unchanged])
  · have isSource : event.sourceId = parsed.sourceId := by
      rw [appended.content]
      rfl
    refine Or.inr ⟨parsed, event, appended.isParsed, isSource, ?_⟩
    rw [appended.isStore]
    rfl

/-- The trail goes on holding an event. -/
theorem HoldsEvent.after_append
    {input : JsValue}
    {parsed : ParsedAuditEventInput}
    {payloadDigest : JsString}
    {event : StoredAuditEvent}
    (isHeld :
      HoldsEvent parseOther hasher store input parsed payloadDigest event)
    (call : AppendCall) :
    HoldsEvent parseOther hasher
      (appendAuditEvent parseOther hasher store call).1 input parsed
      payloadDigest event where
  isParsed := isHeld.isParsed
  digested := isHeld.digested
  found := by
    have found := isHeld.found
    unfold AuditStore.findEventBySourceId at found ⊢
    rcases @events_after_append parseOther hasher store call with
      unchanged | ⟨_, added, -, -, extended⟩
    · rwa [unchanged]
    · rw [extended, List.find?_append, found]
      rfl
  isMatch := isHeld.isMatch

theorem Holds.after_append
    {input : JsValue}
    (holds : Holds parseOther hasher store input)
    (call : AppendCall) :
    Holds parseOther hasher (appendAuditEvent parseOther hasher store call).1
      input := by
  obtain ⟨parsed, payloadDigest, event, isHeld⟩ := holds
  exact ⟨parsed, payloadDigest, event, isHeld.after_append call⟩

/-- An inserted event is found by its source, if no event was. -/
theorem find_inserted
    {workspaceId sourceId : JsString}
    {event : StoredAuditEvent}
    {head : AuditChainHead}
    (fresh : store.findEventBySourceId workspaceId sourceId = none)
    (inWorkspace : event.workspaceId = workspaceId)
    (isSource : event.sourceId = sourceId) :
    ((store.insertEvent event).updateChainHead workspaceId
        head).findEventBySourceId workspaceId sourceId =
      some event := by
  unfold AuditStore.findEventBySourceId at fresh ⊢
  simp only [AuditStore.insertEvent, AuditStore.updateChainHead]
  rw [List.find?_append, fresh]
  simp [inWorkspace, isSource]

/-- An append that is answered leaves its event in the trail. -/
theorem holdsEvent_of_appended
    {result : AppendAuditEventResult}
    (answered :
      (appendAuditEvent parseOther hasher store call).2 = .ok result) :
    ∃ parsed payloadDigest,
      HoldsEvent parseOther hasher
        (appendAuditEvent parseOther hasher store call).1 call.input parsed
        payloadDigest result.event := by
  unfold appendAuditEvent at answered ⊢
  split at answered
  case h_1 unparsed => cases answered
  case h_2 parsed isParsed =>
    split at answered
    case h_1 error refused => cases answered
    case h_2 payloadDigest digested =>
      dsimp only at answered ⊢
      split at answered
      case h_1 existing found =>
        split at answered
        case isFalse differs => cases answered
        case isTrue isMatch =>
          cases answered
          rw [if_pos isMatch]
          exact ⟨parsed, payloadDigest, { isParsed, digested, found, isMatch }⟩
      case h_2 fresh =>
        split at answered
        case h_1 error refused => cases answered
        case h_2 eventHash hashed =>
          cases answered
          refine ⟨parsed, payloadDigest,
            { isParsed
              digested
              found := find_inserted fresh rfl rfl
              isMatch := ?_ }⟩
          simp [sourceMatches, AuditHashContent.stored, nextHashContent]

theorem holds_of_appended
    {result : AppendAuditEventResult}
    (answered :
      (appendAuditEvent parseOther hasher store call).2 = .ok result) :
    Holds parseOther hasher (appendAuditEvent parseOther hasher store call).1
      call.input := by
  obtain ⟨parsed, payloadDigest, isHeld⟩ := holdsEvent_of_appended answered
  exact ⟨parsed, payloadDigest, result.event, isHeld⟩

theorem HoldsEvent.after_appendAll
    {input : JsValue}
    {parsed : ParsedAuditEventInput}
    {payloadDigest : JsString}
    {event : StoredAuditEvent}
    (isHeld :
      HoldsEvent parseOther hasher store input parsed payloadDigest event)
    (calls : List AppendCall) :
    HoldsEvent parseOther hasher (appendAll parseOther hasher store calls)
      input parsed payloadDigest event := by
  induction calls generalizing store with
  | nil => exact isHeld
  | cons call calls inductionHypothesis =>
      exact inductionHypothesis (isHeld.after_append call)

/-- What was answered once is answered the same, whatever was appended since. -/
theorem appendAuditEvent_replays
    {result : AppendAuditEventResult}
    (answered :
      (appendAuditEvent parseOther hasher store call).2 = .ok result)
    (later : List AppendCall)
    (row : NewRow) :
    let trail := appendAll parseOther hasher store (call :: later)
    appendAuditEvent parseOther hasher trail { call with row } =
      (trail, .ok { event := result.event, idempotent := true }) := by
  obtain ⟨parsed, payloadDigest, isHeld⟩ := holdsEvent_of_appended answered
  exact
    @HoldsEvent.appendAuditEvent_eq parseOther hasher _ { call with row } _ _ _
      (isHeld.after_appendAll later)

/-- A call that appends an event about the same workflow. -/
def exampleCall (sourceId : JsString) : AppendCall :=
  { row := { id := sourceId, createdAt := exampleTime.toISOString }
    input :=
      AuditEventInput.toJs
        { workspaceId := js "00000000-0000-4000-8000-000000000000"
          eventType := .workflowCreated
          actor := .system (js "scheduler")
          primaryEntity := { kind := js "workflow", id := js "w" }
          relatedEntities := []
          occurredAt := some exampleTime
          sourceId := some sourceId
          payload := [(js "workflowId", .string (js "w"))] } }

/-- A hasher with one digest. -/
def constantHasher : AuditHasher where
  sha256Hex _ := exampleDigest

/-- Between the calls another event is appended. -/
theorem appendAuditEvent_replays_example :
    let call := exampleCall (js "source:1")
    let trail :=
      appendAll (fun _ => none) constantHasher .empty
        [call, exampleCall (js "source:2")]
    ∃ event,
      appendAuditEvent (fun _ => none) constantHasher trail call =
        (trail, .ok { event, idempotent := true }) := by
  have isAnswered :
      (appendAuditEvent (fun _ => none) constantHasher .empty
          (exampleCall (js "source:1"))).2.toOption.isSome =
        true := by
    decide +kernel
  cases answered :
      (appendAuditEvent (fun _ => none) constantHasher .empty
        (exampleCall (js "source:1"))).2 with
  | error error =>
      rw [answered] at isAnswered
      cases isAnswered
  | ok result =>
      exact ⟨result.event,
        appendAuditEvent_replays answered [exampleCall (js "source:2")] _⟩
/-- A source stays free while other sources are appended. -/
theorem IsFree.after_append
    {sourceId : JsString}
    (isFree : IsFree store sourceId)
    {call : AppendCall}
    (other :
      ∀ parsed,
        parseAuditEventInput parseOther call.input = some parsed →
        parsed.sourceId ≠ sourceId) :
    IsFree (appendAuditEvent parseOther hasher store call).1 sourceId := by
  intro event listed
  rcases @events_after_append parseOther hasher store call with
    unchanged | ⟨parsed, added, isParsed, isSource, extended⟩
  · rw [unchanged] at listed
    exact isFree event listed
  · rw [extended] at listed
    rcases List.mem_append.mp listed with earlier | last
    · exact isFree event earlier
    · rw [List.mem_singleton.mp last, isSource]
      exact other parsed isParsed

theorem requireSha256Hex_error
    {value : JsString}
    {error : AuditError}
    (refused : requireSha256Hex value = .error error) :
    error = .trail .auditHashInvalid := by
  unfold requireSha256Hex at refused
  split at refused
  · cases refused
  · exact (Except.error.inj refused).symm

/-- A digest of a payload is refused for its own sake only. -/
theorem digestPayload_noConflict
    {parsed : ParsedAuditEventInput} :
    digestPayload hasher parsed ≠ .error (.trail .auditSourceConflict) := by
  intro refused
  unfold digestPayload at refused
  split at refused
  case h_1 noText => cases refused
  case h_2 canonicalPayload isText =>
    split at refused
    case isTrue isLong => cases refused
    case isFalse notLong =>
      rw [createAuditPayloadDigest, isText] at refused
      cases requireSha256Hex_error refused

theorem serializeAuditHashContent_noConflict
    {content : AuditHashContent} :
    serializeAuditHashContent parseOther content ≠
      .error (.trail .auditSourceConflict) := by
  intro refused
  unfold serializeAuditHashContent at refused
  split at refused
  case h_1 noTime => cases refused
  case h_2 occurredAt isTime =>
    cases isDigest : requireSha256Hex content.payloadDigest with
    | error error =>
        rw [isDigest] at refused
        obtain rfl := Except.error.inj refused
        cases requireSha256Hex_error isDigest
    | ok digest =>
        cases isPrevious : requireSha256Hex content.previousHash with
        | error error =>
            rw [isDigest, isPrevious] at refused
            obtain rfl := Except.error.inj refused
            cases requireSha256Hex_error isPrevious
        | ok previous =>
            rw [isDigest, isPrevious] at refused
            change ite _ _ _ = _ at refused
            split at refused <;> cases refused

theorem createAuditEventHash_noConflict
    {content : AuditHashContent} :
    createAuditEventHash parseOther hasher content ≠
      .error (.trail .auditSourceConflict) := by
  intro refused
  unfold createAuditEventHash at refused
  cases isText : serializeAuditHashContent parseOther content with
  | error error =>
      rw [isText] at refused
      obtain rfl := Except.error.inj refused
      exact serializeAuditHashContent_noConflict isText
  | ok text =>
      rw [isText] at refused
      cases requireSha256Hex_error refused

/-- A source that is free is in conflict with nothing. -/
theorem IsFree.noConflict
    (isFree :
      ∀ parsed,
        parseAuditEventInput parseOther call.input = some parsed →
        IsFree store parsed.sourceId) :
    (appendAuditEvent parseOther hasher store call).2 ≠
      .error (.trail .auditSourceConflict) := by
  intro conflict
  unfold appendAuditEvent at conflict
  split at conflict
  case h_1 unparsed => cases conflict
  case h_2 parsed isParsed =>
    split at conflict
    case h_1 error refused =>
      obtain rfl := Except.error.inj conflict
      exact digestPayload_noConflict refused
    case h_2 payloadDigest digested =>
      dsimp only at conflict
      split at conflict
      case h_1 existing found =>
        have listed := List.mem_of_find?_eq_some found
        have isSource := List.find?_some found
        simp only [decide_eq_true_eq] at isSource
        exact isFree parsed isParsed existing listed isSource.2
      case h_2 fresh =>
        split at conflict
        case h_1 error refused =>
          obtain rfl := Except.error.inj conflict
          exact createAuditEventHash_noConflict refused
        case h_2 eventHash hashed => cases conflict

/-- Two inputs that differ in none of what a source is matched by. -/
structure SameSubject
    (fields others : List (JsString × JsValue)) :
    Prop where
  workspaceId :
    JsValue.get fields (js "workspaceId") =
      JsValue.get others (js "workspaceId")
  eventType :
    JsValue.get fields (js "eventType") = JsValue.get others (js "eventType")
  primaryEntity :
    JsValue.get fields (js "primaryEntity") =
      JsValue.get others (js "primaryEntity")
  sourceId :
    JsValue.get fields (js "sourceId") = JsValue.get others (js "sourceId")
  payload : JsValue.get fields (js "payload") = JsValue.get others (js "payload")

theorem HoldsEvent.ofSame
    {store : AuditStore}
    {fields others : List (JsString × JsValue)}
    {parsed otherParsed : ParsedAuditEventInput}
    {payloadDigest : JsString}
    {event : StoredAuditEvent}
    (holds :
      HoldsEvent parseOther hasher store (.object fields) parsed payloadDigest
        event)
    (same : SameSubject fields others)
    (isParsed :
      parseAuditEventInput parseOther (.object others) = some otherParsed) :
    HoldsEvent parseOther hasher store (.object others) otherParsed
      payloadDigest event := by
  obtain ⟨isWorkspace, ⟨typeText, isText, isType⟩, isEntity, isSource,
    isPayload⟩ := parseAuditEventInput_properties holds.isParsed
  obtain ⟨isWorkspace', ⟨typeText', isText', isType'⟩, isEntity', isSource',
    isPayload'⟩ := parseAuditEventInput_properties isParsed
  have sameWorkspace : parsed.workspaceId = otherParsed.workspaceId :=
    JsValue.string.inj (isWorkspace ▸ same.workspaceId.trans isWorkspace')
  have sameSource : parsed.sourceId = otherParsed.sourceId :=
    JsValue.string.inj (isSource ▸ same.sourceId.trans isSource')
  obtain rfl : typeText = typeText' :=
    JsValue.string.inj (isText ▸ same.eventType.trans isText')
  have sameType : parsed.eventType = otherParsed.eventType :=
    Option.some.inj (isType.symm.trans isType')
  have sameEntity : parsed.primaryEntity = otherParsed.primaryEntity := by
    rw [same.primaryEntity, isEntity'] at isEntity
    exact (Option.some.inj isEntity).symm
  have samePayload : parsed.payload = otherParsed.payload := by
    rw [same.payload, sameType, isPayload'] at isPayload
    exact (Option.some.inj isPayload).symm
  constructor
  case isParsed => exact isParsed
  case digested =>
    have digested := holds.digested
    unfold digestPayload at digested ⊢
    rwa [samePayload] at digested
  case found =>
    rw [← sameWorkspace, ← sameSource]
    exact holds.found
  case isMatch =>
    have isMatch := holds.isMatch
    unfold sourceMatches at isMatch ⊢
    rwa [sameType, sameEntity] at isMatch

/-- An event that the trail holds is in conflict with none that is the same. -/
theorem Holds.again
    {store : AuditStore}
    {fields others : List (JsString × JsValue)}
    (holds : Holds parseOther hasher store (.object fields))
    (same : SameSubject fields others)
    (row : NewRow) :
    (appendAuditEvent parseOther hasher store
          { row, input := .object others }).1 =
        store ∧
      (appendAuditEvent parseOther hasher store
          { row, input := .object others }).2 ≠
        .error (.trail .auditSourceConflict) := by
  obtain ⟨parsed, payloadDigest, event, isHeld⟩ := holds
  cases isParsed : parseAuditEventInput parseOther (.object others) with
  | none => simp [appendAuditEvent, isParsed]
  | some otherParsed =>
      have isAnswered :=
        @HoldsEvent.appendAuditEvent_eq _ _ _
          { row, input := .object others } _ _ _
          (isHeld.ofSame same isParsed)
      simp [isAnswered]

end TaskTwin.Audit

namespace TaskTwin.Audit

open Text Schema

/-- A part of a source as JSON. -/
def SourcePart.toJson : SourcePart → Json
  | .text value => .string value
  | .number value => .integer value

theorem SourcePart.toJs_toJson (part : SourcePart) :
    part.toJs.toJson = some part.toJson := by
  cases part with
  | text value => rfl
  | number value =>
      have notNegative : decide ((value : Int) < 0) = false := by
        simp
      simp only [SourcePart.toJs, wholeNumberValue, JsValue.toJson,
        SourcePart.toJson, Json.integer, notNegative, Int.natAbs_natCast]

theorem SourcePart.itemsToJson (parts : List SourcePart) :
    JsValue.itemsToJson (parts.map SourcePart.toJs) =
      some (parts.map SourcePart.toJson) := by
  induction parts with
  | nil => rfl
  | cons part parts inductionHypothesis =>
      simp only [List.map_cons, JsValue.itemsToJson, part.toJs_toJson,
        inductionHypothesis]

theorem SourcePart.toJson_injective
    {first second : SourcePart}
    (same : Json.Same first.toJson second.toJson) :
    first = second := by
  cases first with
  | text value =>
      cases second with
      | text value' => rw [Json.sameString same]
      | number value' => cases same
  | number value =>
      cases second with
      | text value' => cases same
      | number value' =>
          rw [Int.ofNat_inj.mp (Json.integer_injective same)]

/-- The parts of a source are read off the text that is hashed for it. -/
theorem sourceText_injective
    {first second : List SourcePart}
    {text : JsString}
    (isFirst :
      serializeCanonicalJson (.array (first.map SourcePart.toJs)) = some text)
    (isSecond :
      serializeCanonicalJson (.array (second.map SourcePart.toJs)) =
        some text) :
    first = second := by
  obtain ⟨json, json', isJson, isJson', same⟩ :=
    serializeCanonicalJson_injective isFirst isSecond
  simp only [JsValue.toJson, SourcePart.itemsToJson, Option.map_some,
    Option.some.injEq] at isJson isJson'
  subst isJson
  subst isJson'
  cases same with
  | array same =>
      have parts :=
        List.forall₂_map_left_iff.mp (List.forall₂_map_right_iff.mp same)
      have equal := parts.imp fun _ _ same => SourcePart.toJson_injective same
      rwa [List.forall₂_eq_eq_eq] at equal

variable {hasher : AuditHasher}

/-- What a source that was created is made of. -/
theorem createAuditSourceId_eq_some
    {sourceName : String}
    {parts : List SourcePart}
    {sourceId : JsString}
    (created : createAuditSourceId hasher sourceName parts = some sourceId) :
    ∃ content hash,
      serializeCanonicalJson (.array (parts.map SourcePart.toJs)) =
          some content ∧
        hasher.sha256Hex content = hash ∧
        sourceId = js sourceName ++ unit ':' :: hash := by
  unfold createAuditSourceId at created
  split at created
  case isFalse invalid => cases created
  case isTrue valid =>
    split at created
    case h_1 noText => cases created
    case h_2 content isContent =>
      split at created
      case h_1 hash hashed =>
        exact ⟨content, hash, isContent, hashAuditContent_ok hashed,
          (Option.some.inj created).symm⟩
      case h_2 error refused => cases created

theorem createAuditSourceId_namespace
    {sourceName : String}
    {parts : List SourcePart}
    {sourceId : JsString}
    (noColon : (js sourceName).all (fun symbol => symbol ≠ unit ':') = true)
    (created : createAuditSourceId hasher sourceName parts = some sourceId) :
    sourceNamespace sourceId = js sourceName := by
  obtain ⟨content, hash, -, -, rfl⟩ := createAuditSourceId_eq_some created
  exact sourceNamespace_append noColon hash

/-- One namespace gives different sources to different parts. -/
theorem createAuditSourceId_injective
    (injective : Function.Injective hasher.sha256Hex)
    {sourceName : String}
    {first second : List SourcePart}
    {sourceId : JsString}
    (isFirst : createAuditSourceId hasher sourceName first = some sourceId)
    (isSecond :
      createAuditSourceId hasher sourceName second = some sourceId) :
    first = second := by
  obtain ⟨content, hash, isContent, isHash, isId⟩ :=
    createAuditSourceId_eq_some isFirst
  obtain ⟨content', hash', isContent', isHash', isId'⟩ :=
    createAuditSourceId_eq_some isSecond
  have sameRest := List.append_cancel_left (isId.symm.trans isId')
  have sameHash : hash = hash' := (List.cons.inj sameRest).2
  rw [← isHash, ← isHash'] at sameHash
  rw [injective sameHash] at isContent
  exact sourceText_injective isContent isContent'

variable {parseOther : JsString → Option TimeValue}

/-- A stored event that an input was appended as. -/
structure Tells (input : AuditEventInput) (event : StoredAuditEvent) : Prop where
  workspaceId : event.workspaceId = input.workspaceId
  eventType : event.eventType = js input.eventType.text
  primaryEntity : event.primaryEntity = input.primaryEntity
  sourceId : input.sourceId = some event.sourceId

/-- An input that is answered is appended, if no event has its source. -/
theorem appended_of_free
    {store store' : AuditStore}
    {row : NewRow}
    {input : AuditEventInput}
    {result : AppendAuditEventResult}
    (isFree :
      ∀ sourceId, input.sourceId = some sourceId → IsFree store sourceId)
    (answered :
      appendAuditEvent parseOther hasher store { row, input := input.toJs } =
        (store', .ok result)) :
    ∃ event, store'.events = store.events ++ [event] ∧ Tells input event := by
  rcases appendAuditEvent_cases parseOther hasher store
      { row, input := input.toJs } with
    ⟨unchanged, -⟩ | ⟨parsed, event, appended, -⟩
  case inl =>
    have isAnswered :
        (appendAuditEvent parseOther hasher store
          { row, input := input.toJs }).2 = .ok result := by
      rw [answered]
    obtain ⟨parsed, payloadDigest, event, holds⟩ :=
      holds_of_appended isAnswered
    rw [unchanged] at holds
    have isSource := (readBack_of_parsed holds.isParsed).sourceId
    have listed := List.mem_of_find?_eq_some holds.found
    have isFound := List.find?_some holds.found
    simp only [decide_eq_true_eq] at isFound
    exact absurd isFound.2 (isFree _ isSource event listed)
  case inr =>
    have isRead := readBack_of_parsed appended.isParsed
    have isStore := appended.isStore
    rw [answered] at isStore
    dsimp only at isStore
    refine ⟨event, ?_, ?_⟩
    · rw [isStore]
      rfl
    · constructor
      case workspaceId =>
        rw [appended.content, ← isRead.workspaceId]
        rfl
      case eventType =>
        rw [appended.content, ← isRead.eventType]
        rfl
      case primaryEntity =>
        rw [appended.content, ← isRead.primaryEntity]
        rfl
      case sourceId =>
        rw [isRead.sourceId, appended.content]
        rfl

end TaskTwin.Audit
