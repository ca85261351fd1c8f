import TaskTwin.Audit.HashChain

/-!
# Appending audit events

An event is appended to the chain of its workspace unless its source was
appended before.  Whatever is appended, refused or replayed, the chain of
every workspace verifies against its head.
-/

namespace TaskTwin.Audit

open Text Schema Chain

structure AuditChainHead where
  lastSequence : Nat
  lastEventHash : JsString
  deriving DecidableEq, Repr

/-- The stored events of all workspaces, and the heads of their chains. -/
structure AuditStore where
  events : List StoredAuditEvent
  heads : JsString → AuditChainHead

/-- A store without events; the head of a chain is created empty. -/
def AuditStore.empty : AuditStore :=
  { events := []
    heads := fun _ =>
      { lastSequence := 0, lastEventHash := genesisPreviousHash } }

/-- The chain of a workspace. -/
def AuditStore.chain
    (store : AuditStore)
    (workspaceId : JsString) :
    List StoredAuditEvent :=
  store.events.filter (·.workspaceId = workspaceId)

def AuditStore.findEventBySourceId
    (store : AuditStore)
    (workspaceId sourceId : JsString) :
    Option StoredAuditEvent :=
  store.events.find? fun event =>
    event.workspaceId = workspaceId ∧ event.sourceId = sourceId

def AuditStore.insertEvent
    (store : AuditStore)
    (event : StoredAuditEvent) :
    AuditStore :=
  { store with events := store.events ++ [event] }

def AuditStore.updateChainHead
    (store : AuditStore)
    (workspaceId : JsString)
    (head : AuditChainHead) :
    AuditStore :=
  { store with heads := Function.update store.heads workspaceId head }

/-- What the store adds to an event that it inserts. -/
structure NewRow where
  id : JsString
  createdAt : JsString

structure AppendAuditEventResult where
  event : StoredAuditEvent
  idempotent : Bool

/-- An append that was asked for. -/
structure AppendCall where
  row : NewRow
  input : JsValue

def sourceMatches
    (stored : StoredAuditEvent)
    (parsed : ParsedAuditEventInput)
    (payloadDigest : JsString) :
    Bool :=
  stored.eventType = js parsed.eventType.text &&
    stored.primaryEntity.kind = parsed.primaryEntity.kind &&
    stored.primaryEntity.id = parsed.primaryEntity.id &&
    stored.payloadDigest = payloadDigest

/-- The content of the next event of a chain. -/
def nextHashContent
    (head : AuditChainHead)
    (parsed : ParsedAuditEventInput)
    (payloadDigest : JsString) :
    AuditHashContent :=
  { workspaceId := parsed.workspaceId
    sequence := head.lastSequence + 1
    eventType := js parsed.eventType.text
    actor := parsed.actor
    primaryEntity := parsed.primaryEntity
    relatedEntities := parsed.relatedEntities
    occurredAt := parsed.occurredAt
    sourceId := parsed.sourceId
    correlationId := parsed.correlationId
    payloadDigest
    previousHash :=
      if head.lastSequence = 0 then genesisPreviousHash
      else head.lastEventHash }

variable
    (parseOther : JsString → Option TimeValue)
    (hasher : AuditHasher)

/-- The row of an event; its time is stored as a date and read back. -/
def AuditHashContent.stored
    (content : AuditHashContent)
    (row : NewRow)
    (payload : JsValue)
    (eventHash : JsString) :
    StoredAuditEvent :=
  { content with
    occurredAt :=
      (normalizeAuditTimestamp parseOther content.occurredAt).getD
        content.occurredAt
    id := row.id
    payload
    eventHash
    createdAt := row.createdAt }

/-- The payload of a parsed input is short enough, and has a digest. -/
def digestPayload
    (parsed : ParsedAuditEventInput) :
    Except AuditError JsString :=
  match serializeCanonicalJson parsed.payload with
  | none => .error .typeError
  | some canonicalPayload =>
      if canonicalPayload.length > 4096 then
        .error (.trail .auditPayloadTooLarge)
      else
        createAuditPayloadDigest hasher parsed.payload

def appendAuditEvent
    (store : AuditStore)
    (call : AppendCall) :
    AuditStore × Except AuditError AppendAuditEventResult :=
  match parseAuditEventInput parseOther call.input with
  | none => (store, .error (.trail .auditEventInvalid))
  | some parsed =>
      match digestPayload hasher parsed with
      | .error error => (store, .error error)
      | .ok payloadDigest =>
          let head := store.heads parsed.workspaceId
          match
              store.findEventBySourceId parsed.workspaceId parsed.sourceId with
          | some existing =>
              if sourceMatches existing parsed payloadDigest then
                (store, .ok { event := existing, idempotent := true })
              else
                (store, .error (.trail .auditSourceConflict))
          | none =>
              let content := nextHashContent head parsed payloadDigest
              match createAuditEventHash parseOther hasher content with
              | .error error => (store, .error error)
              | .ok eventHash =>
                  let event :=
                    content.stored parseOther call.row parsed.payload eventHash
                  ((store.insertEvent event).updateChainHead parsed.workspaceId
                      { lastSequence := head.lastSequence + 1
                        lastEventHash := eventHash },
                    .ok { event, idempotent := false })

/-- The store after a sequence of appends. -/
def appendAll
    (store : AuditStore)
    (calls : List AppendCall) :
    AuditStore :=
  calls.foldl
    (fun store call => (appendAuditEvent parseOther hasher store call).1) store

/-- The answer says that an event was added. -/
def isAppended :
    Except AuditError AppendAuditEventResult → Bool
  | .ok result => !result.idempotent
  | .error _ => false

/-- An append that adds an event. -/
structure Appended
    (store : AuditStore)
    (call : AppendCall)
    (store' : AuditStore)
    (parsed : ParsedAuditEventInput)
    (event : StoredAuditEvent) :
    Prop where
  isParsed : parseAuditEventInput parseOther call.input = some parsed
  fresh :
    store.findEventBySourceId parsed.workspaceId parsed.sourceId = none
  content :
    event.toAuditHashContent =
      nextHashContent (store.heads parsed.workspaceId) parsed
        event.payloadDigest
  sound : (auditLinks parseOther hasher).sound event
  isStore :
    store' =
      (store.insertEvent event).updateChainHead parsed.workspaceId
        { lastSequence := (store.heads parsed.workspaceId).lastSequence + 1
          lastEventHash := event.eventHash }

theorem digestPayload_ok
    {parsed : ParsedAuditEventInput}
    {payloadDigest : JsString}
    (digested : digestPayload hasher parsed = .ok payloadDigest) :
    createAuditPayloadDigest hasher parsed.payload = .ok payloadDigest := by
  unfold digestPayload at digested
  split at digested
  · cases digested
  · split at digested
    · cases digested
    · exact digested

/-- An append leaves the store as it was, or adds one event. -/
theorem appendAuditEvent_cases
    (store : AuditStore)
    (call : AppendCall) :
    ((appendAuditEvent parseOther hasher store call).1 = store ∧
        isAppended (appendAuditEvent parseOther hasher store call).2 =
          false) ∨
      ∃ parsed event,
        Appended parseOther hasher store call
            (appendAuditEvent parseOther hasher store call).1 parsed event ∧
          (appendAuditEvent parseOther hasher store call).2 =
            .ok { event, idempotent := false } := by
  unfold appendAuditEvent
  split
  case h_1 unparsed => exact Or.inl ⟨rfl, rfl⟩
  case h_2 parsed isParsed =>
    split
    case h_1 error refused => exact Or.inl ⟨rfl, rfl⟩
    case h_2 payloadDigest digested =>
      dsimp only
      split
      case h_1 existing found =>
        split <;> exact Or.inl ⟨rfl, rfl⟩
      case h_2 fresh =>
        split
        case h_1 error refused => exact Or.inl ⟨rfl, rfl⟩
        case h_2 eventHash hashed =>
          have normal := parseAuditEventInput_normal isParsed
          have content :
              ((nextHashContent (store.heads parsed.workspaceId) parsed
                  payloadDigest).stored parseOther call.row parsed.payload
                eventHash).toAuditHashContent =
                nextHashContent (store.heads parsed.workspaceId) parsed
                  payloadDigest := by
            simp [AuditHashContent.stored, nextHashContent, normal]
          refine Or.inr ⟨parsed, _,
            { isParsed
              fresh
              content
              sound := ⟨digestPayload_ok hasher digested, ?_⟩
              isStore := rfl }, rfl⟩
          rw [content]
          exact hashed

/-- A chain that fits its head, without repeated sources. -/
structure ChainInvariant
    (store : AuditStore)
    (workspaceId : JsString) :
    Prop where
  linked :
    Linked (auditLinks parseOther hasher) 1 genesisPreviousHash
      (store.chain workspaceId)
  length :
    (store.heads workspaceId).lastSequence = (store.chain workspaceId).length
  head :
    (store.heads workspaceId).lastEventHash =
      headMark (auditLinks parseOther hasher) genesisPreviousHash
        (store.chain workspaceId)
  sources : ((store.chain workspaceId).map (·.sourceId)).Nodup

theorem chainInvariant_empty (workspaceId : JsString) :
    ChainInvariant parseOther hasher .empty workspaceId :=
  { linked := trivial
    length := rfl
    head := rfl
    sources := List.nodup_nil }

variable {parseOther hasher}

variable {store : AuditStore} {workspaceId : JsString}

/-- The sources of a chain in which a source is not found. -/
theorem AuditStore.notMem_sources
    {workspaceId sourceId : JsString}
    (fresh : store.findEventBySourceId workspaceId sourceId = none) :
    sourceId ∉ (store.chain workspaceId).map (·.sourceId) := by
  intro listed
  obtain ⟨event, inChain, isSource⟩ := List.mem_map.mp listed
  obtain ⟨stored, inWorkspace⟩ := List.mem_filter.mp inChain
  have notFound := List.find?_eq_none.mp fresh event stored
  simp only [decide_eq_true_eq] at inWorkspace notFound
  exact notFound ⟨inWorkspace, isSource⟩

/-- The chains after an event was added. -/
theorem Appended.chain
    {store store' : AuditStore}
    {call : AppendCall}
    {parsed : ParsedAuditEventInput}
    {event : StoredAuditEvent}
    (appended : Appended parseOther hasher store call store' parsed event)
    (workspaceId : JsString) :
    store'.chain workspaceId =
      store.chain workspaceId ++
        if workspaceId = parsed.workspaceId then [event] else [] := by
  have isWorkspace : event.workspaceId = parsed.workspaceId := by
    rw [appended.content]
    rfl
  rw [appended.isStore]
  by_cases same : workspaceId = parsed.workspaceId
  · simp [AuditStore.chain, AuditStore.insertEvent,
      AuditStore.updateChainHead, isWorkspace, same]
  · have other : ¬parsed.workspaceId = workspaceId := fun isSame =>
      same isSame.symm
    simp [AuditStore.chain, AuditStore.insertEvent,
      AuditStore.updateChainHead, isWorkspace, same, other]

theorem Appended.chainInvariant
    {store store' : AuditStore}
    {call : AppendCall}
    {parsed : ParsedAuditEventInput}
    {event : StoredAuditEvent}
    {workspaceId : JsString}
    (appended : Appended parseOther hasher store call store' parsed event)
    (invariant : ChainInvariant parseOther hasher store workspaceId) :
    ChainInvariant parseOther hasher store' workspaceId := by
  have chain := appended.chain workspaceId
  by_cases same : workspaceId = parsed.workspaceId
  case neg =>
    have sameHead : store'.heads workspaceId = store.heads workspaceId := by
      rw [appended.isStore]
      exact Function.update_of_ne same _ _
    rw [if_neg same, List.append_nil] at chain
    obtain ⟨linked, length, head, sources⟩ := invariant
    exact
      { linked := by rwa [chain]
        length := by rwa [chain, sameHead]
        head := by rwa [chain, sameHead]
        sources := by rwa [chain] }
  subst same
  rw [if_pos rfl] at chain
  have isHead :
      store'.heads parsed.workspaceId =
        { lastSequence := (store.heads parsed.workspaceId).lastSequence + 1
          lastEventHash := event.eventHash } := by
    rw [appended.isStore]
    exact Function.update_self _ _ _
  have isSequence :
      event.sequence =
        1 + ((store.chain parsed.workspaceId).length : Int) := by
    rw [appended.content, nextHashContent, invariant.length]
    dsimp only
    omega
  have isPrevious :
      event.previousHash =
        headMark (auditLinks parseOther hasher) genesisPreviousHash
          (store.chain parsed.workspaceId) := by
    rw [appended.content, nextHashContent]
    dsimp only
    split
    case isTrue isFirst =>
      rw [invariant.length, List.length_eq_zero_iff] at isFirst
      rw [isFirst, headMark_nil]
    case isFalse notFirst => exact invariant.head
  have isSource : event.sourceId = parsed.sourceId := by
    rw [appended.content]
    rfl
  constructor
  case linked =>
    rw [chain]
    exact invariant.linked.concat isSequence isPrevious appended.sound
  case length =>
    rw [chain, isHead, List.length_append, List.length_singleton,
      invariant.length]
  case head =>
    rw [chain, isHead, headMark_concat]
    rfl
  case sources =>
    rw [chain, List.map_append, List.map_singleton, isSource]
    exact List.nodup_append.mpr ⟨invariant.sources, List.nodup_singleton _,
      by
        intro source listed other isOther
        rw [List.mem_singleton.mp isOther]
        rintro rfl
        exact AuditStore.notMem_sources appended.fresh listed⟩

theorem chainInvariant_append
    (invariant : ChainInvariant parseOther hasher store workspaceId)
    (call : AppendCall) :
    ChainInvariant parseOther hasher
      (appendAuditEvent parseOther hasher store call).1 workspaceId := by
  rcases appendAuditEvent_cases parseOther hasher store call with
    ⟨unchanged, _⟩ | ⟨parsed, event, appended, _⟩
  · rwa [unchanged]
  · exact appended.chainInvariant invariant

theorem chainInvariant_appendAll
    (invariant : ChainInvariant parseOther hasher store workspaceId)
    (calls : List AppendCall) :
    ChainInvariant parseOther hasher
      (appendAll parseOther hasher store calls) workspaceId := by
  induction calls generalizing store with
  | nil => exact invariant
  | cons call calls inductionHypothesis =>
      exact inductionHypothesis (chainInvariant_append invariant call)

/-- The events of a chain are numbered from one on. -/
theorem ChainInvariant.sequences
    {store : AuditStore}
    {workspaceId : JsString}
    (invariant : ChainInvariant parseOther hasher store workspaceId) :
    (store.chain workspaceId).map (·.sequence) =
      (List.range (store.chain workspaceId).length).map
        fun position : Nat => (position : Int) + 1 := by
  apply List.ext_getElem?
  intro position
  rw [List.getElem?_map, List.getElem?_map]
  cases atPosition : (store.chain workspaceId)[position]? with
  | none =>
      have outside := List.getElem?_eq_none_iff.mp atPosition
      rw [List.getElem?_eq_none (by rwa [List.length_range])]
      rfl
  | some event =>
      have isNumber := invariant.linked.number atPosition
      have inside := (List.getElem?_eq_some_iff.mp atPosition).1
      rw [List.getElem?_range inside, Option.map_some, Option.map_some,
        Int.add_comm]
      exact congrArg some isNumber

/-- What holds of the chain of a workspace after any appends. -/
structure ChainVerifies
    (parseOther : JsString → Option TimeValue)
    (hasher : AuditHasher)
    (store : AuditStore)
    (workspaceId : JsString) :
    Prop where
  sequences :
    (store.chain workspaceId).map (·.sequence) =
      (List.range (store.chain workspaceId).length).map
        fun position : Nat => (position : Int) + 1
  sources : ((store.chain workspaceId).map (·.sourceId)).Nodup
  verifies :
    Verifies parseOther hasher (store.chain workspaceId)
      { expectedFirstSequence := none
        expectedPreviousHash := none
        storedHeadHash := (store.heads workspaceId).lastEventHash
        requireHeadMatch := none }
  /-- Every part verifies behind the hash that it continues. -/
  parts :
    ∀ before part after,
      store.chain workspaceId = before ++ part ++ after →
      ∀ storedHeadHash requireHeadMatch,
        requireHeadMatch = some false ∨
            storedHeadHash =
              headMark (auditLinks parseOther hasher) genesisPreviousHash
                (before ++ part) →
        Verifies parseOther hasher part
          { expectedFirstSequence := some ((before.length : Int) + 1)
            expectedPreviousHash :=
              some
                (headMark (auditLinks parseOther hasher) genesisPreviousHash
                  before)
            storedHeadHash
            requireHeadMatch }

theorem ChainInvariant.verifies
    {store : AuditStore}
    {workspaceId : JsString}
    (invariant : ChainInvariant parseOther hasher store workspaceId) :
    ChainVerifies parseOther hasher store workspaceId := by
  constructor
  case sequences => exact invariant.sequences
  case sources => exact invariant.sources
  case verifies =>
    exact verifies_iff.mpr ⟨invariant.linked, fun _ => invariant.head.symm⟩
  case parts =>
    intro before part after isChain storedHeadHash requireHeadMatch matches_
    have linked := invariant.linked
    rw [isChain] at linked
    have isPart := linked.part
    rw [Int.add_comm] at isPart
    refine verifies_iff.mpr ⟨isPart, ?_⟩
    intro required
    rcases matches_ with rfl | rfl
    · cases required
    · simp [headMark, List.foldl_append]

/-- What a call answers, and what it changes, after any appends. -/
structure AppendAnswers
    (parseOther : JsString → Option TimeValue)
    (hasher : AuditHasher)
    (store : AuditStore)
    (call : AppendCall) :
    Prop where
  unchanged :
    isAppended (appendAuditEvent parseOther hasher store call).2 =
        false →
      (appendAuditEvent parseOther hasher store call).1 = store
  appended :
    ∀ event,
      (appendAuditEvent parseOther hasher store call).2 =
          .ok { event, idempotent := false } →
      (appendAuditEvent parseOther hasher store call).1.events =
        store.events ++ [event]

theorem appendAnswers
    (store : AuditStore)
    (call : AppendCall) :
    AppendAnswers parseOther hasher store call := by
  rcases appendAuditEvent_cases parseOther hasher store call with
    ⟨unchanged, notAppended⟩ | ⟨parsed, event, appended, answered⟩
  · refine ⟨fun _ => unchanged, ?_⟩
    intro event answered
    rw [answered] at notAppended
    cases notAppended
  · refine ⟨?_, ?_⟩
    · intro notAppended
      rw [answered] at notAppended
      cases notAppended
    · intro other isOther
      rw [answered] at isOther
      cases isOther
      rw [appended.isStore]
      rfl

/--
After any sequence of appends the chain of every workspace verifies, as does
every part of it, and a call that fails or replays changes nothing.
-/
theorem appendAuditEvent_verifies
    (parseOther : JsString → Option TimeValue)
    (hasher : AuditHasher)
    (calls : List AppendCall)
    (workspaceId : JsString) :
    ChainVerifies parseOther hasher
        (appendAll parseOther hasher .empty calls) workspaceId ∧
      ∀ call,
        AppendAnswers parseOther hasher
          (appendAll parseOther hasher .empty calls) call :=
  ⟨(chainInvariant_appendAll
      (chainInvariant_empty parseOther hasher workspaceId) calls).verifies,
    appendAnswers _⟩

end TaskTwin.Audit
