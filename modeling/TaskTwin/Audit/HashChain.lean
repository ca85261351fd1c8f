import TaskTwin.Audit.PayloadSchemas
import TaskTwin.Chain.Linked

/-!
# The audit hash chain

The hash of an event covers its fields, the digest of its payload and the hash
of the event before it.  A list of events verifies exactly when it is a chain
whose events carry their own hashes.
-/

namespace TaskTwin.Audit

open Text Schema Chain

inductive AuditErrorCode where
  | auditEventInvalid
  | auditHashInvalid
  | auditPayloadTooLarge
  | auditSourceConflict
  deriving DecidableEq, Repr

/-- What the functions of the audit trail throw. -/
inductive AuditError where
  | trail (code : AuditErrorCode)
  | typeError
  deriving DecidableEq, Repr

structure AuditHasher where
  sha256Hex : JsString → JsString

/-- `GENESIS_PREVIOUS_HASH`. -/
def genesisPreviousHash : JsString := List.replicate 64 (unit '0')

structure AuditHashContent where
  workspaceId : JsString
  sequence : Int
  eventType : JsString
  actor : AuditActor
  primaryEntity : AuditEntityRef
  relatedEntities : List AuditEntityRef
  occurredAt : JsString
  sourceId : JsString
  correlationId : Option JsString
  payloadDigest : JsString
  previousHash : JsString

structure StoredAuditEvent extends AuditHashContent where
  id : JsString
  payload : JsValue
  eventHash : JsString
  createdAt : JsString

def requireSha256Hex (value : JsString) : Except AuditError JsString :=
  if isSha256Hex value then .ok value
  else .error (.trail .auditHashInvalid)

def hashAuditContent
    (hasher : AuditHasher)
    (content : JsString) :
    Except AuditError JsString :=
  requireSha256Hex (hasher.sha256Hex content)

def createAuditPayloadDigest
    (hasher : AuditHasher)
    (payload : JsValue) :
    Except AuditError JsString :=
  match serializeCanonicalJson payload with
  | none => .error .typeError
  | some content => hashAuditContent hasher content

/-- The object whose text is hashed. -/
def AuditHashContent.json
    (input : AuditHashContent)
    (occurredAt : JsString) :
    Json :=
  .object
    ((js "actor", input.actor.toJson) ::
      (match input.correlationId with
        | none => []
        | some correlationId =>
            [(js "correlationId", Json.string correlationId)]) ++
      [(js "eventType", .string input.eventType),
        (js "occurredAt", .string occurredAt),
        (js "payloadDigest", .string input.payloadDigest),
        (js "previousHash", .string input.previousHash),
        (js "primaryEntity", input.primaryEntity.toJson),
        (js "relatedEntities",
          .array (input.relatedEntities.map AuditEntityRef.toJson)),
        (js "schemaVersion", .integer 1),
        (js "sequence", .integer input.sequence),
        (js "sourceId", .string input.sourceId),
        (js "workspaceId", .string input.workspaceId)])

variable (parseOther : JsString → Option TimeValue)

def serializeAuditHashContent
    (input : AuditHashContent) :
    Except AuditError JsString :=
  match normalizeAuditTimestamp parseOther input.occurredAt with
  | none => .error .typeError
  | some occurredAt => do
      let _ ← requireSha256Hex input.payloadDigest
      let _ ← requireSha256Hex input.previousHash
      if 1 ≤ input.sequence ∧ input.sequence ≤ maxSafeInteger then
        .ok (serialize (input.json occurredAt))
      else
        .error .typeError

def createAuditEventHash
    (hasher : AuditHasher)
    (input : AuditHashContent) :
    Except AuditError JsString := do
  let content ← serializeAuditHashContent parseOther input
  hashAuditContent hasher content

inductive AuditVerificationFailureCode where
  | sequenceGap
  | previousHashMismatch
  | payloadDigestMismatch
  | eventHashMismatch
  | headHashMismatch
  deriving DecidableEq, Repr

structure AuditVerificationResult where
  valid : Bool
  checkedCount : Nat
  firstSequence : Option Int
  lastSequence : Option Int
  computedHeadHash : JsString
  storedHeadHash : JsString
  failureSequence : Option Int
  failureCode : Option AuditVerificationFailureCode
  deriving DecidableEq, Repr

structure AuditVerificationOptions where
  expectedFirstSequence : Option Int
  expectedPreviousHash : Option JsString
  storedHeadHash : JsString
  requireHeadMatch : Option Bool

/-- What the loop of the verification carries on. -/
structure VerificationCursor where
  checkedCount : Nat
  expectedSequence : Int
  previousHash : JsString

variable (hasher : AuditHasher)

/-- The loop over the events, and the comparison with the head. -/
def verifyFrom
    (options : AuditVerificationOptions)
    (firstSequence : Option Int)
    (lastSequence : Option Int)
    (cursor : VerificationCursor) :
    List StoredAuditEvent → Except AuditError AuditVerificationResult
  | [] =>
      let base : AuditVerificationResult :=
        { valid := true
          checkedCount := cursor.checkedCount
          firstSequence
          lastSequence
          computedHeadHash := cursor.previousHash
          storedHeadHash := options.storedHeadHash
          failureSequence := none
          failureCode := none }
      if options.requireHeadMatch.getD true ∧
          cursor.previousHash ≠ options.storedHeadHash then
        .ok
          { base with
            valid := false
            failureCode := some .headHashMismatch
            failureSequence :=
              some
                (lastSequence.getD
                  (options.expectedFirstSequence.getD 1)) }
      else
        .ok base
  | event :: events => do
      let failure (code : AuditVerificationFailureCode) :
          Except AuditError AuditVerificationResult :=
        .ok
          { valid := false
            checkedCount := cursor.checkedCount
            firstSequence
            lastSequence :=
              if cursor.checkedCount = 0 then none
              else some (cursor.expectedSequence - 1)
            computedHeadHash := cursor.previousHash
            storedHeadHash := options.storedHeadHash
            failureSequence := some event.sequence
            failureCode := some code }
      if event.sequence ≠ cursor.expectedSequence then
        failure .sequenceGap
      else if event.previousHash ≠ cursor.previousHash then
        failure .previousHashMismatch
      else
        let payloadDigest ← createAuditPayloadDigest hasher event.payload
        if payloadDigest ≠ event.payloadDigest then
          failure .payloadDigestMismatch
        else
          let eventHash ←
            createAuditEventHash parseOther hasher event.toAuditHashContent
          if eventHash ≠ event.eventHash then
            failure .eventHashMismatch
          else
            verifyFrom options firstSequence lastSequence
              { checkedCount := cursor.checkedCount + 1
                expectedSequence := cursor.expectedSequence + 1
                previousHash := event.eventHash }
              events

def verifyAuditEventChain
    (events : List StoredAuditEvent)
    (options : AuditVerificationOptions) :
    Except AuditError AuditVerificationResult :=
  verifyFrom parseOther hasher options
    (events.head?.map (·.sequence))
    (events.getLast?.map (·.sequence))
    { checkedCount := 0
      expectedSequence := options.expectedFirstSequence.getD 1
      previousHash := options.expectedPreviousHash.getD genesisPreviousHash }
    events

/-- The verification of a list of events succeeds. -/
def Verifies
    (events : List StoredAuditEvent)
    (options : AuditVerificationOptions) :
    Prop :=
  ∃ result,
    verifyAuditEventChain parseOther hasher events options = .ok result ∧
      result.valid = true

/-- Audit events as entries of a chain. -/
def auditLinks : Links StoredAuditEvent JsString where
  number event := event.sequence
  previous event := event.previousHash
  mark event := event.eventHash
  sound event :=
    createAuditPayloadDigest hasher event.payload =
        .ok event.payloadDigest ∧
      createAuditEventHash parseOther hasher event.toAuditHashContent =
        .ok event.eventHash

variable {parseOther hasher}

/-- From a cursor on, exactly the chains with the right head succeed. -/
theorem verifyFrom_valid_iff
    {options : AuditVerificationOptions}
    {firstSequence lastSequence : Option Int}
    {cursor : VerificationCursor}
    {events : List StoredAuditEvent} :
    (∃ result,
        verifyFrom parseOther hasher options firstSequence lastSequence cursor
            events =
          .ok result ∧
          result.valid = true) ↔
      Linked (auditLinks parseOther hasher) cursor.expectedSequence
          cursor.previousHash events ∧
        (options.requireHeadMatch.getD true = true →
          headMark (auditLinks parseOther hasher) cursor.previousHash events =
            options.storedHeadHash) := by
  induction events generalizing cursor with
  | nil =>
      rw [verifyFrom]
      dsimp only
      split
      case isTrue mismatch =>
        simp only [Except.ok.injEq, exists_eq_left', Bool.false_eq_true,
          Linked, headMark_nil, true_and, false_iff]
        intro same
        exact mismatch.2 (same mismatch.1)
      case isFalse matched =>
        simp only [Except.ok.injEq, exists_eq_left', Linked, headMark_nil,
          true_and, true_iff]
        intro required
        by_contra differs
        exact matched ⟨required, differs⟩
  | cons event events inductionHypothesis =>
      rw [verifyFrom]
      simp only [Linked, headMark_cons]
      by_cases isNext : event.sequence = cursor.expectedSequence
      case neg =>
        have notNext :
            (auditLinks parseOther hasher).number event ≠
              cursor.expectedSequence :=
          isNext
        simp [isNext, notNext]
      by_cases isLinked : event.previousHash = cursor.previousHash
      case neg =>
        have notLinked :
            (auditLinks parseOther hasher).previous event ≠
              cursor.previousHash :=
          isLinked
        simp [isNext, isLinked, notLinked]
      have number :
          (auditLinks parseOther hasher).number event =
            cursor.expectedSequence :=
        isNext
      have previous :
          (auditLinks parseOther hasher).previous event =
            cursor.previousHash :=
        isLinked
      rw [if_neg (not_not.mpr isNext), if_neg (not_not.mpr isLinked)]
      have later :=
        @inductionHypothesis
          { checkedCount := cursor.checkedCount + 1
            expectedSequence := cursor.expectedSequence + 1
            previousHash := event.eventHash }
      cases payload : createAuditPayloadDigest hasher event.payload with
      | error error => simp [auditLinks, payload, bind, Except.bind]
      | ok payloadDigest =>
          by_cases sameDigest : payloadDigest = event.payloadDigest
          case neg =>
            simp [auditLinks, payload, bind, Except.bind, sameDigest]
          cases hash :
              createAuditEventHash parseOther hasher
                event.toAuditHashContent with
          | error error =>
              simp [auditLinks, payload, hash, bind, Except.bind, sameDigest]
          | ok eventHash =>
              by_cases sameHash : eventHash = event.eventHash
              case neg =>
                simp [auditLinks, payload, hash, bind, Except.bind, sameDigest,
                  sameHash]
              have sound : (auditLinks parseOther hasher).sound event :=
                ⟨by rw [payload, sameDigest], by rw [hash, sameHash]⟩
              simp only [bind, Except.bind, sameDigest, sameHash,
                ne_eq, not_true_eq_false, ↓reduceIte, number, previous, sound,
                true_and]
              exact later

/-- Exactly the chains with the right head verify. -/
theorem verifies_iff
    {events : List StoredAuditEvent}
    {options : AuditVerificationOptions} :
    Verifies parseOther hasher events options ↔
      Linked (auditLinks parseOther hasher)
          (options.expectedFirstSequence.getD 1)
          (options.expectedPreviousHash.getD genesisPreviousHash) events ∧
        (options.requireHeadMatch.getD true = true →
          headMark (auditLinks parseOther hasher)
              (options.expectedPreviousHash.getD genesisPreviousHash) events =
            options.storedHeadHash) :=
  verifyFrom_valid_iff

end TaskTwin.Audit
