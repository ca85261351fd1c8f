import Mathlib.Logic.Equiv.Basic
import TaskTwin.Audit.Appender

/-!
# Tamper evidence

If different texts never have the same hash, the head of a verified chain
determines every hashed field of every event in it.
-/

namespace TaskTwin.Audit

open Text Schema Chain

theorem AuditEntityRef.toJson_injective
    {first second : AuditEntityRef}
    (same : first.toJson.Same second.toJson) :
    first = second := by
  have distinct : [js "kind", js "id"].Nodup := by decide
  have sameKind :=
    Json.sameField (js "kind") same (List.mem_cons_self)
      (List.mem_cons_self) distinct
  have sameId :=
    Json.sameField (js "id") same
      (List.mem_cons_of_mem _ List.mem_cons_self)
      (List.mem_cons_of_mem _ List.mem_cons_self) distinct
  cases first
  cases second
  exact AuditEntityRef.mk.injEq .. ▸
    ⟨Json.sameString sameKind, Json.sameString sameId⟩

theorem AuditActor.toJson_injective
    {first second : AuditActor}
    (same : first.toJson.Same second.toJson) :
    first = second := by
  have users : [js "type", js "userId"].Nodup := by decide
  have runners : [js "type", js "runnerDeviceId"].Nodup := by decide
  have systems : [js "type", js "reason"].Nodup := by decide
  -- The types are told apart by their names, the rest by the second field.
  cases first <;> cases second
  case user.user first second =>
    have sameId :=
      Json.sameField (js "userId") same
        (List.mem_cons_of_mem _ List.mem_cons_self)
        (List.mem_cons_of_mem _ List.mem_cons_self) users
    rw [Json.sameString sameId]
  case runner.runner first second =>
    have sameId :=
      Json.sameField (js "runnerDeviceId") same
        (List.mem_cons_of_mem _ List.mem_cons_self)
        (List.mem_cons_of_mem _ List.mem_cons_self) runners
    rw [Json.sameString sameId]
  case system.system first second =>
    have sameReason :=
      Json.sameField (js "reason") same
        (List.mem_cons_of_mem _ List.mem_cons_self)
        (List.mem_cons_of_mem _ List.mem_cons_self) systems
    rw [Json.sameString sameReason]
  all_goals
    have sameType :=
      Json.sameString
        (Json.sameField (js "type") same List.mem_cons_self
          List.mem_cons_self (by assumption))
    exact absurd sameType (by decide)

theorem relatedEntities_injective
    {first second : List AuditEntityRef}
    (same :
      Json.Same (.array (first.map AuditEntityRef.toJson))
        (.array (second.map AuditEntityRef.toJson))) :
    first = second := by
  cases same with
  | array same =>
      have related :=
        List.forall₂_map_left_iff.mp (List.forall₂_map_right_iff.mp same)
      have equal := related.imp fun _ _ same =>
        AuditEntityRef.toJson_injective same
      rwa [List.forall₂_eq_eq_eq] at equal

/-- JSON values that differ in key order and in signs of zeros only. -/
def SameValue (first second : JsValue) : Prop :=
  ∃ json json',
    first.toJson = some json ∧ second.toJson = some json' ∧ json.Same json'

/-- Values with the same canonical text are the same. -/
theorem serializeCanonicalJson_injective
    {first second : JsValue}
    {text : JsString}
    (isFirst : serializeCanonicalJson first = some text)
    (isSecond : serializeCanonicalJson second = some text) :
    SameValue first second := by
  obtain ⟨json, isJson, isText⟩ := Option.map_eq_some_iff.mp isFirst
  obtain ⟨json', isJson', isText'⟩ := Option.map_eq_some_iff.mp isSecond
  exact ⟨json, json', isJson, isJson',
    serialize_injective (isText.trans isText'.symm)⟩

/-- The hashed fields of two events agree. -/
structure SameEvent
    (parseOther : JsString → Option TimeValue)
    (first second : StoredAuditEvent) :
    Prop where
  workspaceId : first.workspaceId = second.workspaceId
  sequence : first.sequence = second.sequence
  sourceId : first.sourceId = second.sourceId
  eventType : first.eventType = second.eventType
  actor : first.actor = second.actor
  primaryEntity : first.primaryEntity = second.primaryEntity
  relatedEntities : first.relatedEntities = second.relatedEntities
  correlationId : first.correlationId = second.correlationId
  occurredAt :
    normalizeAuditTimestamp parseOther first.occurredAt =
      normalizeAuditTimestamp parseOther second.occurredAt
  payload : SameValue first.payload second.payload
  payloadDigest : first.payloadDigest = second.payloadDigest
  previousHash : first.previousHash = second.previousHash

variable
    {parseOther : JsString → Option TimeValue}
    {hasher : AuditHasher}

/-- What was hashed is the text that a digest comes from. -/
theorem hashAuditContent_ok
    {content hash : JsString}
    (hashed : hashAuditContent hasher content = .ok hash) :
    hasher.sha256Hex content = hash := by
  unfold hashAuditContent requireSha256Hex at hashed
  split at hashed
  · exact Except.ok.inj hashed
  · cases hashed

/-- The texts that are hashed for an event. -/
def hashedTexts
    (parseOther : JsString → Option TimeValue)
    (event : StoredAuditEvent) :
    List JsString :=
  (serializeCanonicalJson event.payload).toList ++
    ((normalizeAuditTimestamp parseOther event.occurredAt).map fun occurredAt =>
      serialize (event.toAuditHashContent.json occurredAt)).toList

/-- Different texts of two lists have different hashes. -/
def TellsApart
    (hasher : AuditHasher)
    (texts texts' : List JsString) :
    Prop :=
  ∀ text ∈ texts, ∀ text' ∈ texts',
    hasher.sha256Hex text = hasher.sha256Hex text' → text = text'

theorem tellsApart_of_injective
    (injective : Function.Injective hasher.sha256Hex)
    (texts texts' : List JsString) :
    TellsApart hasher texts texts' :=
  fun _ _ _ _ sameHash => injective sameHash

theorem createAuditPayloadDigest_injective
    {first second : JsValue}
    {digest : JsString}
    (apart :
      TellsApart hasher (serializeCanonicalJson first).toList
        (serializeCanonicalJson second).toList)
    (isFirst : createAuditPayloadDigest hasher first = .ok digest)
    (isSecond : createAuditPayloadDigest hasher second = .ok digest) :
    SameValue first second := by
  unfold createAuditPayloadDigest at isFirst isSecond
  split at isFirst
  case h_1 notJson => cases isFirst
  case h_2 text isText =>
    split at isSecond
    case h_1 notJson => cases isSecond
    case h_2 text' isText' =>
      have sameHash :=
        (hashAuditContent_ok isFirst).trans (hashAuditContent_ok isSecond).symm
      rw [← apart text (by simp [isText]) text' (by simp [isText'])
        sameHash] at isText'
      exact serializeCanonicalJson_injective isText isText'

/-- The content behind the hash of an event. -/
theorem createAuditEventHash_ok
    {input : AuditHashContent}
    {hash : JsString}
    (hashed : createAuditEventHash parseOther hasher input = .ok hash) :
    ∃ occurredAt,
      normalizeAuditTimestamp parseOther input.occurredAt = some occurredAt ∧
        hasher.sha256Hex (serialize (input.json occurredAt)) = hash := by
  unfold createAuditEventHash serializeAuditHashContent at hashed
  split at hashed
  case h_1 notTime => cases hashed
  case h_2 occurredAt isTime =>
    refine ⟨occurredAt, isTime, ?_⟩
    cases digest : requireSha256Hex input.payloadDigest with
    | error error => simp [digest, bind, Except.bind] at hashed
    | ok payloadDigest =>
        cases previous : requireSha256Hex input.previousHash with
        | error error => simp [digest, previous, bind, Except.bind] at hashed
        | ok previousHash =>
            simp only [digest, previous, bind, Except.bind] at hashed
            split at hashed
            case h_1 refused =>
              split at refused
              · cases refused
              · cases hashed
            case h_2 content accepted =>
              split at accepted
              · cases accepted
                exact hashAuditContent_ok hashed
              · cases accepted

theorem AuditHashContent.json_distinct
    (input : AuditHashContent)
    (occurredAt : JsString) :
    ∃ fields,
      input.json occurredAt = .object fields ∧
        (fields.map Prod.fst).Nodup := by
  refine ⟨_, rfl, ?_⟩
  have long :
      [js "actor", js "correlationId", js "eventType", js "occurredAt",
        js "payloadDigest", js "previousHash", js "primaryEntity",
        js "relatedEntities", js "schemaVersion", js "sequence",
        js "sourceId", js "workspaceId"].Nodup := by
    decide
  have short :
      [js "actor", js "eventType", js "occurredAt",
        js "payloadDigest", js "previousHash", js "primaryEntity",
        js "relatedEntities", js "schemaVersion", js "sequence",
        js "sourceId", js "workspaceId"].Nodup := by
    decide
  cases input.correlationId with
  | none => exact short
  | some correlationId => exact long

/-- Contents with the same JSON agree in every field. -/
theorem sameEvent_of_json
    {first second : StoredAuditEvent}
    {occurredAt occurredAt' : JsString}
    (same :
      Json.Same (first.toAuditHashContent.json occurredAt)
        (second.toAuditHashContent.json occurredAt'))
    (isTime :
      normalizeAuditTimestamp parseOther first.occurredAt = some occurredAt)
    (isTime' :
      normalizeAuditTimestamp parseOther second.occurredAt = some occurredAt')
    (payload : SameValue first.payload second.payload) :
    SameEvent parseOther first second := by
  obtain ⟨_, isObject, distinct⟩ :=
    second.toAuditHashContent.json_distinct occurredAt'
  cases isObject
  have field
      (key : String)
      {value value' : Json}
      (isField :
        ∃ fields,
          first.toAuditHashContent.json occurredAt = .object fields ∧
            (js key, value) ∈ fields)
      (isField' :
        ∃ fields,
          second.toAuditHashContent.json occurredAt' = .object fields ∧
            (js key, value') ∈ fields) :
      value.Same value' := by
    obtain ⟨_, isObject, listed⟩ := isField
    obtain ⟨_, isObject', listed'⟩ := isField'
    cases isObject
    cases isObject'
    exact Json.sameField _ same listed listed' distinct
  have sameCorrelation : first.correlationId = second.correlationId := by
    have sameCount := Json.sameFieldCount same
    cases isFirst : first.correlationId <;>
      cases isSecond : second.correlationId <;>
      simp only [isFirst, isSecond, List.cons_append, List.nil_append,
        List.length_cons, List.length_nil] at sameCount
    case none.none => rfl
    case some.some first' second' =>
      have sameText :=
        Json.sameString
          (@field "correlationId" (.string first')
            (.string second') ⟨_, rfl, by simp [isFirst]⟩
            ⟨_, rfl, by simp [isSecond]⟩)
      rw [sameText]
    all_goals cases sameCount
  have sameTime : occurredAt = occurredAt' :=
    Json.sameString
      (field "occurredAt" ⟨_, rfl, by simp⟩ ⟨_, rfl, by simp⟩)
  exact
    { workspaceId :=
        Json.sameString
          (field "workspaceId" ⟨_, rfl, by simp⟩ ⟨_, rfl, by simp⟩)
      sequence :=
        Json.integer_injective
          (field "sequence" ⟨_, rfl, by simp⟩ ⟨_, rfl, by simp⟩)
      sourceId :=
        Json.sameString
          (field "sourceId" ⟨_, rfl, by simp⟩ ⟨_, rfl, by simp⟩)
      eventType :=
        Json.sameString
          (field "eventType" ⟨_, rfl, by simp⟩ ⟨_, rfl, by simp⟩)
      actor :=
        AuditActor.toJson_injective
          (field "actor" ⟨_, rfl, by simp⟩ ⟨_, rfl, by simp⟩)
      primaryEntity :=
        AuditEntityRef.toJson_injective
          (field "primaryEntity" ⟨_, rfl, by simp⟩
            ⟨_, rfl, by simp⟩)
      relatedEntities :=
        relatedEntities_injective
          (field "relatedEntities" ⟨_, rfl, by simp⟩
            ⟨_, rfl, by simp⟩)
      correlationId := sameCorrelation
      occurredAt := by rw [isTime, isTime', sameTime]
      payload
      payloadDigest :=
        Json.sameString
          (field "payloadDigest" ⟨_, rfl, by simp⟩
            ⟨_, rfl, by simp⟩)
      previousHash :=
        Json.sameString
          (field "previousHash" ⟨_, rfl, by simp⟩
            ⟨_, rfl, by simp⟩) }

/-- The hash of an event determines its fields. -/
theorem eventHash_determines
    (first second : StoredAuditEvent)
    (apart :
      TellsApart hasher (hashedTexts parseOther first)
        (hashedTexts parseOther second))
    (sound : (auditLinks parseOther hasher).sound first)
    (sound' : (auditLinks parseOther hasher).sound second)
    (sameHash :
      (auditLinks parseOther hasher).mark first =
        (auditLinks parseOther hasher).mark second) :
    SameEvent parseOther first second ∧
      (auditLinks parseOther hasher).number first =
        (auditLinks parseOther hasher).number second ∧
      (auditLinks parseOther hasher).previous first =
        (auditLinks parseOther hasher).previous second := by
  obtain ⟨digested, hashed⟩ := sound
  obtain ⟨digested', hashed'⟩ := sound'
  obtain ⟨occurredAt, isTime, isHash⟩ := createAuditEventHash_ok hashed
  obtain ⟨occurredAt', isTime', isHash'⟩ := createAuditEventHash_ok hashed'
  have sameHash : first.eventHash = second.eventHash := sameHash
  have sameContent :=
    apart _ (List.mem_append_right _ (by simp [isTime]))
      _ (List.mem_append_right _ (by simp [isTime']))
      ((isHash.trans sameHash).trans isHash'.symm)
  have same := serialize_injective sameContent
  obtain ⟨_, isObject, distinct⟩ :=
    second.toAuditHashContent.json_distinct occurredAt'
  cases isObject
  have sameDigest : first.payloadDigest = second.payloadDigest :=
    Json.sameString
      (Json.sameField (js "payloadDigest") same (by simp) (by simp)
        distinct)
  rw [← sameDigest] at digested'
  have event :=
    sameEvent_of_json same isTime isTime'
      (createAuditPayloadDigest_injective
        (fun text listed text' listed' =>
          apart text (List.mem_append_left _ listed) text'
            (List.mem_append_left _ listed'))
        digested digested')
  exact ⟨event, event.sequence, event.previousHash⟩

/-- Verification of a whole chain against a head hash. -/
def fromGenesis (storedHeadHash : JsString) : AuditVerificationOptions :=
  { expectedFirstSequence := none
    expectedPreviousHash := none
    storedHeadHash
    requireHeadMatch := none }

/-- The head of a chain with events is a hash. -/
theorem headMark_isHash
    {first : Int}
    {previous : JsString}
    {events : List StoredAuditEvent}
    (linked : Linked (auditLinks parseOther hasher) first previous events)
    (nonEmpty : events ≠ []) :
    ∃ content,
      hasher.sha256Hex content =
        headMark (auditLinks parseOther hasher) previous events := by
  rcases List.eq_nil_or_concat' events with rfl | ⟨before, event, rfl⟩
  · exact absurd rfl nonEmpty
  · have sound :=
      linked.sound event (List.mem_append_right _ List.mem_cons_self)
    obtain ⟨occurredAt, _, isHash⟩ := createAuditEventHash_ok sound.2
    have isHead :
        headMark (auditLinks parseOther hasher) previous (before ++ [event]) =
          event.eventHash :=
      headMark_concat previous before event
    exact ⟨_, isHash.trans isHead.symm⟩

/--
Two chains that verify against the same head hash agree, where either both
have events or the hash function never yields the genesis hash.
-/
theorem verifiedChains_agree
    (parseOther : JsString → Option TimeValue)
    (hasher : AuditHasher)
    (injective : Function.Injective hasher.sha256Hex)
    (events others : List StoredAuditEvent)
    (storedHeadHash : JsString)
    (verified :
      Verifies parseOther hasher events (fromGenesis storedHeadHash))
    (verified' :
      Verifies parseOther hasher others (fromGenesis storedHeadHash))
    (comparable :
      (events = [] ↔ others = []) ∨
        ∀ content, hasher.sha256Hex content ≠ genesisPreviousHash) :
    events.length = others.length ∧
      List.Forall₂ (SameEvent parseOther) events others ∧
      ∀ first second text,
        serializeCanonicalJson first = some text →
        serializeCanonicalJson second = some text →
        SameValue first second := by
  obtain ⟨linked, isHead⟩ := verifies_iff.mp verified
  obtain ⟨linked', isHead'⟩ := verifies_iff.mp verified'
  have sameHead := (isHead rfl).trans (isHead' rfl).symm
  have bothEmpty : events = [] ↔ others = [] := by
    rcases comparable with bothEmpty | notGenesis
    · exact bothEmpty
    · constructor
      · intro isEmpty
        by_contra nonEmpty
        obtain ⟨content, isHash⟩ := headMark_isHash linked' nonEmpty
        rw [← sameHead, isEmpty, headMark_nil] at isHash
        exact notGenesis content isHash
      · intro isEmpty
        by_contra nonEmpty
        obtain ⟨content, isHash⟩ := headMark_isHash linked nonEmpty
        rw [sameHead, isEmpty, headMark_nil] at isHash
        exact notGenesis content isHash
  have agree :=
    linked.agree
      (fun first second =>
        eventHash_determines first second
          (tellsApart_of_injective injective _ _))
      linked' bothEmpty sameHead
  exact ⟨agree.length_eq, agree, fun _ _ _ isFirst isSecond =>
    serializeCanonicalJson_injective isFirst isSecond⟩

/-- A digest for the example. -/
def exampleDigest : JsString := List.replicate 64 (unit 'a')

def exampleTime : TimeValue :=
  { milliseconds := 1767225600000, inRange := by decide }

/-- The only event of a chain, with a hash of our choice. -/
def exampleEvent (id eventHash : JsString) : StoredAuditEvent :=
  { workspaceId := js "00000000-0000-0000-0000-000000000000"
    sequence := 1
    eventType := js "workflow.created"
    actor := .system (js "scheduler")
    primaryEntity := { kind := js "workflow", id := js "w" }
    relatedEntities := []
    occurredAt := exampleTime.toISOString
    sourceId := js "source"
    correlationId := none
    payloadDigest := exampleDigest
    previousHash := genesisPreviousHash
    id
    payload := .null
    eventHash
    createdAt := exampleTime.toISOString }

/-- What is hashed of the example. -/
def exampleContent : JsString :=
  serialize
    ((exampleEvent [] []).toAuditHashContent.json exampleTime.toISOString)

/-- Hashes that exchange two pairs of texts and keep all others. -/
def exampleHasher (eventHash : JsString) : AuditHasher where
  sha256Hex text :=
    Equiv.swap (js "null") exampleDigest
      (Equiv.swap exampleContent eventHash text)

theorem exampleHasher_injective (eventHash : JsString) :
    Function.Injective (exampleHasher eventHash).sha256Hex :=
  (Equiv.injective _).comp (Equiv.injective _)

/-- The content of the example begins with a brace. -/
theorem exampleContent_begins :
    exampleContent.head? = some (unit '{') :=
  rfl

theorem example_linked
    {id eventHash : JsString}
    (isHash : isSha256Hex eventHash = true)
    (notDigest : eventHash ≠ exampleDigest) :
    Linked (auditLinks parseOther (exampleHasher eventHash)) 1
      genesisPreviousHash [exampleEvent id eventHash] := by
  have digestIsHash : isSha256Hex exampleDigest = true := by decide
  have genesisIsHash : isSha256Hex genesisPreviousHash = true := by decide
  have notNull (text : JsString) (isText : isSha256Hex text = true) :
      text ≠ js "null" := by
    rintro rfl
    revert isText
    decide
  have contentNotNull : exampleContent ≠ js "null" := by
    intro same
    have begins := exampleContent_begins
    rw [same] at begins
    revert begins
    decide
  have contentNotDigest : exampleContent ≠ exampleDigest := by
    intro same
    have begins := exampleContent_begins
    rw [same] at begins
    revert begins
    decide
  refine ⟨rfl, rfl, ⟨?_, ?_⟩, trivial⟩
  · have hashes :
        (exampleHasher eventHash).sha256Hex (js "null") = exampleDigest := by
      simp [exampleHasher, Equiv.swap_apply_of_ne_of_ne contentNotNull.symm
        (notNull eventHash isHash).symm]
    have canonical :
        serializeCanonicalJson (exampleEvent id eventHash).payload =
          some (js "null") := by
      rw [serializeCanonicalJson]
      rfl
    rw [createAuditPayloadDigest, canonical]
    dsimp only
    rw [hashAuditContent, hashes, requireSha256Hex, if_pos digestIsHash]
    rfl
  · have hashes :
        (exampleHasher eventHash).sha256Hex exampleContent = eventHash := by
      simp [exampleHasher, Equiv.swap_apply_of_ne_of_ne
        (notNull eventHash isHash) notDigest]
    have normal :
        normalizeAuditTimestamp parseOther
            (exampleEvent id eventHash).occurredAt =
          some exampleTime.toISOString := by
      rw [normalizeAuditTimestamp, exampleEvent, dateParse_toISOString,
        Option.map_some]
    have isContent :
        serialize
            ((exampleEvent id eventHash).toAuditHashContent.json
              exampleTime.toISOString) =
          exampleContent :=
      rfl
    have digest :
        requireSha256Hex (exampleEvent id eventHash).payloadDigest =
          .ok exampleDigest := by
      exact if_pos digestIsHash
    have previous :
        requireSha256Hex (exampleEvent id eventHash).previousHash =
          .ok genesisPreviousHash := by
      exact if_pos genesisIsHash
    have numbered :
        1 ≤ (exampleEvent id eventHash).sequence ∧
          (exampleEvent id eventHash).sequence ≤ maxSafeInteger := by
      simp [exampleEvent, maxSafeInteger]
    have content :
        serializeAuditHashContent parseOther
            (exampleEvent id eventHash).toAuditHashContent =
          .ok exampleContent := by
      simp only [serializeAuditHashContent, normal, digest, previous, numbered,
        isContent, and_self, ↓reduceIte, bind, Except.bind]
    simp only [createAuditEventHash, content, bind, Except.bind]
    rw [hashAuditContent, hashes, requireSha256Hex, if_pos isHash]
    rfl

theorem verifiedChains_agree_example :
    SameEvent (fun _ => none)
      (exampleEvent (js "first") (List.replicate 64 (unit 'b')))
      (exampleEvent (js "second") (List.replicate 64 (unit 'b'))) := by
  have verified (id : JsString) :
      Verifies (fun _ => none)
        (exampleHasher (List.replicate 64 (unit 'b')))
        [exampleEvent id (List.replicate 64 (unit 'b'))]
        (fromGenesis (List.replicate 64 (unit 'b'))) :=
    verifies_iff.mpr
      ⟨example_linked (by decide) (by decide), fun _ => rfl⟩
  have agree :=
    verifiedChains_agree (fun _ => none) _ (exampleHasher_injective _)
      [exampleEvent (js "first") _] [exampleEvent (js "second") _] _
      (verified (js "first")) (verified (js "second")) (Or.inl (by simp))
  exact (List.forall₂_cons.mp agree.2.1).1

/-- Zero with a sign. -/
def zeroNumber (negative : Bool) : JsValue :=
  .number (.finite negative .zero)

/--
An empty chain and a chain whose only event hashes to the genesis hash verify
against the same head; and both zeros have the same text.
-/
theorem verifiedChains_differ :
    (∃ hasher : AuditHasher,
        Function.Injective hasher.sha256Hex ∧
          ∃ events others storedHeadHash,
            Verifies (fun _ => none) hasher events
                (fromGenesis storedHeadHash) ∧
              Verifies (fun _ => none) hasher others
                (fromGenesis storedHeadHash) ∧
              events.length ≠ others.length) ∧
      zeroNumber true ≠ zeroNumber false ∧
      serializeCanonicalJson (zeroNumber true) =
        serializeCanonicalJson (zeroNumber false) := by
  refine ⟨⟨exampleHasher genesisPreviousHash, exampleHasher_injective _,
    [], [exampleEvent (js "first") genesisPreviousHash],
    genesisPreviousHash, ?_, ?_, by simp⟩, ?_, ?_⟩
  · exact verifies_iff.mpr ⟨trivial, fun _ => rfl⟩
  · exact verifies_iff.mpr
      ⟨example_linked (by decide) (by decide), fun _ => rfl⟩
  · simp [zeroNumber]
  · simp [serializeCanonicalJson, zeroNumber, JsValue.toJson, serialize,
      finiteText, Decimal.zero]

end TaskTwin.Audit
