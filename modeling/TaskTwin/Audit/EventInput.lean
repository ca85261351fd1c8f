import TaskTwin.Audit.HashChain

/-!
# Building audit events

The inputs that the repositories build for the audit trail, and the identifiers
of their sources.  Where building an input throws, the input is one that the
trail refuses.
-/

namespace TaskTwin.Audit

open Text Schema

/-- A string or a number that a source is made of. -/
inductive SourcePart where
  | text (value : JsString)
  | number (value : Nat)
  deriving DecidableEq

def SourcePart.isValid : SourcePart → Bool
  | .text value => 0 < value.length && value.length ≤ 256
  | .number value => value ≤ maxSafeInteger

def wholeNumberValue (value : Nat) : JsValue :=
  .number (.finite false (Decimal.ofNat value))

def SourcePart.toJs : SourcePart → JsValue
  | .text value => .string value
  | .number value => wholeNumberValue value

/-- `createAuditSourceId`; `none` when it throws. -/
def createAuditSourceId
    (hasher : AuditHasher)
    (sourceNamespace : String)
    (parts : List SourcePart) :
    Option JsString :=
  if parts ≠ [] ∧ parts.length ≤ 8 ∧ parts.all SourcePart.isValid then
    match serializeCanonicalJson (.array (parts.map SourcePart.toJs)) with
    | none => none
    | some content =>
        match hashAuditContent hasher content with
        | .ok hash => some (js sourceNamespace ++ unit ':' :: hash)
        | .error _ => none
  else
    none

/-- The text before the first colon. -/
def sourceNamespace (sourceId : JsString) : JsString :=
  sourceId.takeWhile (· ≠ unit ':')

/-- A source tells the namespace that it begins with. -/
theorem sourceNamespace_append
    {name : String}
    (noColon : (js name).all (fun symbol => symbol ≠ unit ':') = true)
    (rest : JsString) :
    sourceNamespace (js name ++ unit ':' :: rest) = js name := by
  rw [sourceNamespace,
    List.takeWhile_append_of_pos (by simpa using noColon)]
  simp

/-- `AuditEventInput`. -/
structure AuditEventInput where
  workspaceId : JsString
  eventType : AuditEventType
  actor : AuditActor
  primaryEntity : AuditEntityRef
  relatedEntities : List AuditEntityRef
  occurredAt : Option TimeValue
  sourceId : Option JsString
  payload : List (JsString × JsValue)

def AuditActor.toJs : AuditActor → JsValue
  | .user userId =>
      .object [(js "type", .string (js "user")), (js "userId", .string userId)]
  | .runner runnerDeviceId =>
      .object
        [(js "type", .string (js "runner")),
          (js "runnerDeviceId", .string runnerDeviceId)]
  | .system reason =>
      .object
        [(js "type", .string (js "system")), (js "reason", .string reason)]

def AuditEntityRef.toJs (entity : AuditEntityRef) : JsValue :=
  .object [(js "kind", .string entity.kind), (js "id", .string entity.id)]

/-- The object that the trail is given. -/
def AuditEventInput.toJs (input : AuditEventInput) : JsValue :=
  .object
    [(js "workspaceId", .string input.workspaceId),
      (js "eventType", .string (js input.eventType.text)),
      (js "actor", input.actor.toJs),
      (js "primaryEntity", input.primaryEntity.toJs),
      (js "relatedEntities",
        .array (input.relatedEntities.map AuditEntityRef.toJs)),
      (js "occurredAt", .date input.occurredAt),
      (js "sourceId", input.sourceId.elim .undefined .string),
      (js "payload", .object input.payload)]

theorem AuditEventType.mem_all (eventType : AuditEventType) :
    eventType ∈ AuditEventType.all := by
  cases eventType <;> decide

theorem AuditEventType.texts_nodup :
    (AuditEventType.all.map fun eventType => js eventType.text).Nodup := by
  decide +kernel

theorem AuditEventType.parse_text (eventType : AuditEventType) :
    AuditEventType.parse (js eventType.text) = some eventType := by
  cases found : AuditEventType.parse (js eventType.text) with
  | none =>
      have notFound := List.find?_eq_none.mp found eventType eventType.mem_all
      simp at notFound
  | some other =>
      have sameText := List.find?_some found
      simp only [beq_iff_eq] at sameText
      rw [List.inj_on_of_nodup_map AuditEventType.texts_nodup
        (List.mem_of_find?_eq_some found) eventType.mem_all sameText]

theorem textWhere_eq_some
    {check : JsString → Bool}
    {value : JsValue}
    {text : JsString} :
    textWhere check value = some text ↔
      value = .string text ∧ check text = true := by
  cases value with
  | string other =>
      simp only [textWhere, Option.ite_none_right_eq_some, Option.some.injEq,
        JsValue.string.injEq]
      constructor
      · rintro ⟨holds, rfl⟩
        exact ⟨rfl, holds⟩
      · rintro ⟨rfl, holds⟩
        exact ⟨holds, rfl⟩
  | _ => simp [textWhere]

theorem strictFields_object
    {keys : List String}
    {fields fields' : List (JsString × JsValue)}
    (strict : strictFields keys (.object fields) = some fields') :
    fields' = fields := by
  simp only [strictFields, Option.ite_none_right_eq_some,
    Option.some.injEq] at strict
  exact strict.2.symm

theorem parseAuditEntityRef_toJs
    {entity parsed : AuditEntityRef}
    (isParsed : parseAuditEntityRef entity.toJs = some parsed) :
    parsed = entity := by
  simp only [parseAuditEntityRef, AuditEntityRef.toJs,
    Option.bind_eq_bind] at isParsed
  obtain ⟨fields, strict, isParsed⟩ := Option.bind_eq_some_iff.mp isParsed
  obtain rfl := strictFields_object strict
  obtain ⟨kind, isKind, isParsed⟩ := Option.bind_eq_some_iff.mp isParsed
  obtain ⟨id, isId, isParsed⟩ := Option.bind_eq_some_iff.mp isParsed
  obtain ⟨sameKind, -⟩ := textWhere_eq_some.mp isKind
  obtain ⟨sameId, -⟩ := textWhere_eq_some.mp isId
  obtain rfl : entity.kind = kind := JsValue.string.inj sameKind
  obtain rfl : entity.id = id := JsValue.string.inj sameId
  exact (Option.some.inj isParsed).symm

variable {parseOther : JsString → Option TimeValue}

/-- What is read back of an input that the trail accepts. -/
structure ReadBack
    (parseOther : JsString → Option TimeValue)
    (input : AuditEventInput)
    (parsed : ParsedAuditEventInput) :
    Prop where
  workspaceId : parsed.workspaceId = input.workspaceId
  eventType : parsed.eventType = input.eventType
  primaryEntity : parsed.primaryEntity = input.primaryEntity
  sourceId : input.sourceId = some parsed.sourceId
  payload :
    parseAuditPayload parseOther input.eventType (.object input.payload) =
      some parsed.payload

/-- The properties that the parts of a parsed input are read from. -/
theorem parseAuditEventInput_properties
    {fields : List (JsString × JsValue)}
    {parsed : ParsedAuditEventInput}
    (isParsed :
      parseAuditEventInput parseOther (.object fields) = some parsed) :
    JsValue.get fields (js "workspaceId") = .string parsed.workspaceId ∧
      (∃ typeText,
        JsValue.get fields (js "eventType") = .string typeText ∧
          AuditEventType.parse typeText = some parsed.eventType) ∧
      parseAuditEntityRef (JsValue.get fields (js "primaryEntity")) =
        some parsed.primaryEntity ∧
      JsValue.get fields (js "sourceId") = .string parsed.sourceId ∧
      parseAuditPayload parseOther parsed.eventType
          (JsValue.get fields (js "payload")) =
        some parsed.payload := by
  simp only [parseAuditEventInput, Option.bind_eq_bind] at isParsed
  obtain ⟨fields', strict, answer⟩ := Option.bind_eq_some_iff.mp isParsed
  rw [strictFields_object strict] at answer
  clear isParsed strict
  split at answer
  case isFalse notVersion => cases answer
  case isTrue isVersion =>
    obtain ⟨workspaceId, isWorkspace, answer⟩ :=
      Option.bind_eq_some_iff.mp answer
    obtain ⟨typeText, isText, answer⟩ := Option.bind_eq_some_iff.mp answer
    obtain ⟨eventType, isType, answer⟩ := Option.bind_eq_some_iff.mp answer
    obtain ⟨_, _, answer⟩ := Option.bind_eq_some_iff.mp answer
    obtain ⟨entity, isEntity, answer⟩ := Option.bind_eq_some_iff.mp answer
    obtain ⟨_, _, answer⟩ := Option.bind_eq_some_iff.mp answer
    obtain ⟨_, _, answer⟩ := Option.bind_eq_some_iff.mp answer
    obtain ⟨sourceId, isSource, answer⟩ :=
      Option.bind_eq_some_iff.mp answer
    obtain ⟨_, _, answer⟩ := Option.bind_eq_some_iff.mp answer
    obtain ⟨payload, isPayload, answer⟩ :=
      Option.bind_eq_some_iff.mp answer
    obtain rfl := Option.some.inj answer
    exact ⟨(textWhere_eq_some.mp isWorkspace).1,
      ⟨typeText, (textWhere_eq_some.mp isText).1, isType⟩, isEntity,
      (textWhere_eq_some.mp isSource).1, isPayload⟩

theorem readBack_of_parsed
    {input : AuditEventInput}
    {parsed : ParsedAuditEventInput}
    (isParsed : parseAuditEventInput parseOther input.toJs = some parsed) :
    ReadBack parseOther input parsed := by
  obtain ⟨isWorkspace, ⟨typeText, isText, isType⟩, isEntity, isSource,
    isPayload⟩ := parseAuditEventInput_properties isParsed
  obtain rfl : js input.eventType.text = typeText := JsValue.string.inj isText
  have sameType : input.eventType = parsed.eventType :=
    Option.some.inj ((AuditEventType.parse_text _).symm.trans isType)
  have sameSource :
      input.sourceId.elim JsValue.undefined JsValue.string =
        .string parsed.sourceId :=
    isSource
  exact
    { workspaceId := (JsValue.string.inj isWorkspace).symm
      eventType := sameType.symm
      primaryEntity := parseAuditEntityRef_toJs isEntity
      sourceId := by
        cases created : input.sourceId with
        | none => simp [created] at sameSource
        | some other => simpa [created] using sameSource
      payload := by rw [sameType]; exact isPayload }

end TaskTwin.Audit
