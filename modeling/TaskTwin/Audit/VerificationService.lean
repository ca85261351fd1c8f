import TaskTwin.Audit.Replay
import TaskTwin.Schema.Text

/-!
# Verification of a stored chain

A request names a range of a chain and how many events are read of it.  A
failure is recorded together with an alert, unless it is only the head that
differs and the range ends before it.
-/

namespace TaskTwin.Audit

open Text Schema Chain

/-- A parsed `AuditVerifyRequestSchema` value. -/
structure AuditVerifyRequest where
  fromSequence : Option Nat
  toSequence : Option Nat
  sampleLimit : BoundedNat 1 200
  fromPositive : ∀ sequence ∈ fromSequence, 1 ≤ sequence
  toPositive : ∀ sequence ∈ toSequence, 1 ≤ sequence

structure WorkspaceAuditChainHeadRecord extends AuditChainHead where
  lastEventAt : Option JsString
  deriving DecidableEq, Repr

inductive OrganizationRole where
  | owner
  | admin
  | member
  | viewer
  deriving DecidableEq, Repr

inductive VerifyFailure where
  /-- `AUDIT_ACCESS_FORBIDDEN`. -/
  | forbidden
  /-- What the verification of the events throws. -/
  | verification (error : AuditError)
  deriving Repr

/-- The row that is upserted for a workspace. -/
structure AuditVerificationState where
  valid : Bool
  checkedEventCount : Nat
  firstSequence : Option Int
  lastSequence : Option Int
  failureSequence : Option Int
  safeFailureCode : Option AuditVerificationFailureCode
  verifiedByUserId : JsString
  deriving DecidableEq, Repr

/-- The alert about a failure. -/
structure AuditIntegrityFailed where
  failureKind : AuditVerificationFailureCode
  failureSequence : Int
  verifiedAt : JsString
  deriving DecidableEq, Repr

inductive VerifyStatus where
  | ok
  | tampered
  | sequenceGap
  deriving DecidableEq, Repr

structure AuditVerifyResponse where
  status : VerifyStatus
  checkedCount : Nat
  firstSequence : Option Int
  lastSequence : Option Int
  headHash : JsString
  firstFailure : Option (Int × AuditVerificationFailureCode)
  deriving DecidableEq, Repr

/-- What a verification stores and answers. -/
structure VerificationOutcome where
  upserted : Option AuditVerificationState
  alert : Option AuditIntegrityFailed
  response : AuditVerifyResponse
  deriving DecidableEq, Repr

/-- `clampSampleLimit`. -/
def clampSampleLimit (value : Nat) : Nat :=
  if value < 1 then 1 else if 100000 < value then 100000 else value

/-- The order in which events are read. -/
def readBefore (first second : StoredAuditEvent) : Bool :=
  first.sequence < second.sequence ||
    (first.sequence == second.sequence && decide (first.id ≤ second.id))

/-- `readRangeForVerification`, of the events of the workspace. -/
def readRangeForVerification
    (request : AuditVerifyRequest)
    (events : List StoredAuditEvent) :
    List StoredAuditEvent :=
  let fromSequence := request.fromSequence.getD 1
  let rows :=
    events.filter fun event =>
      (fromSequence : Int) ≤ event.sequence &&
        request.toSequence.all fun (toSequence : Nat) =>
          event.sequence ≤ (toSequence : Int)
  (rows.mergeSort readBefore).take (clampSampleLimit request.sampleLimit.value)

def verifyStatus (result : AuditVerificationResult) : VerifyStatus :=
  if result.valid then .ok
  else if result.failureCode = some .sequenceGap then .sequenceGap
  else .tampered

/-- `verifyResponse`. -/
def verifyResponse (result : AuditVerificationResult) : AuditVerifyResponse :=
  { status := verifyStatus result
    checkedCount := result.checkedCount
    firstSequence := result.firstSequence
    lastSequence := result.lastSequence
    headHash := result.computedHeadHash
    firstFailure :=
      result.failureCode.bind fun code =>
        result.failureSequence.map fun sequence => (sequence, code) }

/-- What the service hands to the verification of the events. -/
def verificationOptions
    (request : AuditVerifyRequest)
    (head : WorkspaceAuditChainHeadRecord) :
    AuditVerificationOptions :=
  { expectedFirstSequence := request.fromSequence.map Int.ofNat
    expectedPreviousHash := none
    storedHeadHash := head.lastEventHash
    requireHeadMatch := none }

/-- `completeVerification`. -/
def isCompleteVerification
    (request : AuditVerifyRequest)
    (head : WorkspaceAuditChainHeadRecord)
    (result : AuditVerificationResult) :
    Bool :=
  request.fromSequence.isNone && request.toSequence.isNone && result.valid &&
    result.checkedCount == head.lastSequence &&
    (head.lastSequence == 0 ||
      (result.firstSequence == some 1 &&
        result.lastSequence == some (head.lastSequence : Int)))

/-- The failure that is recorded, if `authoritativeFailure` holds. -/
def authoritativeFailure
    (head : WorkspaceAuditChainHeadRecord)
    (result : AuditVerificationResult) :
    Option (AuditVerificationFailureCode × Int) :=
  match result.failureCode, result.failureSequence with
  | some code, some sequence =>
      if !result.valid &&
          (code != .headHashMismatch ||
            result.lastSequence == some (head.lastSequence : Int)) then
        some (code, sequence)
      else
        none
  | _, _ => none

/-- When the failure is said to have happened. -/
def failureTime
    (head : WorkspaceAuditChainHeadRecord)
    (events : List StoredAuditEvent)
    (failureSequence : Int) :
    JsString :=
  (((events.find? fun event => event.sequence = failureSequence).map fun event =>
      event.occurredAt).or
    head.lastEventAt).getD (js "1970-01-01T00:00:00.000Z")

def verificationState
    (result : AuditVerificationResult)
    (actorUserId : JsString)
    (failure : Option (AuditVerificationFailureCode × Int)) :
    AuditVerificationState :=
  { valid := failure.isNone
    checkedEventCount := result.checkedCount
    firstSequence := result.firstSequence
    lastSequence := result.lastSequence
    failureSequence := failure.map Prod.snd
    safeFailureCode := failure.map Prod.fst
    verifiedByUserId := actorUserId }

/-- What is stored and answered after the events were verified. -/
def recordVerification
    (request : AuditVerifyRequest)
    (head : WorkspaceAuditChainHeadRecord)
    (actorUserId : JsString)
    (events : List StoredAuditEvent)
    (result : AuditVerificationResult) :
    VerificationOutcome :=
  match authoritativeFailure head result with
  | some (code, sequence) =>
      { upserted :=
          some (verificationState result actorUserId (some (code, sequence)))
        alert :=
          some
            { failureKind := code
              failureSequence := sequence
              verifiedAt := failureTime head events sequence }
        response := verifyResponse result }
  | none =>
      { upserted :=
          if isCompleteVerification request head result then
            some (verificationState result actorUserId none)
          else
            none
        alert := none
        response := verifyResponse result }

/-- `VERIFIER_ROLES`. -/
def OrganizationRole.isVerifier : OrganizationRole → Bool
  | .owner | .admin => true
  | _ => false

/-- `AuditTrailService.verifyChain`, of the stored events of a workspace. -/
def verifyChain
    (parseOther : JsString → Option TimeValue)
    (hasher : AuditHasher)
    (role : OrganizationRole)
    (actorUserId : JsString)
    (request : AuditVerifyRequest)
    (head : WorkspaceAuditChainHeadRecord)
    (stored : List StoredAuditEvent) :
    Except VerifyFailure VerificationOutcome :=
  if role.isVerifier then
    let events := readRangeForVerification request stored
    match
        verifyAuditEventChain parseOther hasher events
          (verificationOptions request head) with
    | .error error => .error (.verification error)
    | .ok result =>
        .ok (recordVerification request head actorUserId events result)
  else
    .error .forbidden

variable
  {parseOther : JsString → Option TimeValue}
  {hasher : AuditHasher}

/-- A row whose columns can be hashed: what the types of the columns promise,
and the range of the sequence numbers. -/
structure Hashable
    (parseOther : JsString → Option TimeValue)
    (event : StoredAuditEvent) : Prop where
  occurredAt : (normalizeAuditTimestamp parseOther event.occurredAt).isSome = true
  payload : (serializeCanonicalJson event.payload).isSome = true
  sequence : 1 ≤ event.sequence ∧ event.sequence ≤ maxSafeInteger

/-- What is told of a verification that does not throw. -/
structure Answers
    (lastSequence : Option Int)
    (result : AuditVerificationResult) : Prop where
  code : result.valid = false → result.failureCode.isSome = true
  sequence : result.valid = false → result.failureSequence.isSome = true
  head :
    result.failureCode = some .headHashMismatch →
      result.lastSequence = lastSequence
  valid : result.valid = true → result.failureCode = none

theorem Answers.failed
    {lastSequence : Option Int}
    {result : AuditVerificationResult}
    {code : AuditVerificationFailureCode}
    {sequence : Int}
    (invalid : result.valid = false)
    (isCode : result.failureCode = some code)
    (isSequence : result.failureSequence = some sequence)
    (head :
      code = .headHashMismatch → result.lastSequence = lastSequence) :
    Answers lastSequence result := by
  constructor
  · intro _
    rw [isCode]
    rfl
  · intro _
    rw [isSequence]
    rfl
  · intro isHead
    rw [isCode] at isHead
    exact head (Option.some.inj isHead)
  · intro valid
    rw [invalid] at valid
    cases valid

theorem Answers.succeeded
    {lastSequence : Option Int}
    {result : AuditVerificationResult}
    (valid : result.valid = true)
    (noCode : result.failureCode = none) :
    Answers lastSequence result := by
  constructor
  · simp [valid]
  · simp [valid]
  · simp [noCode]
  · intro _
    exact noCode

section Hex

variable
  (hex : ∀ content, isSha256Hex (hasher.sha256Hex content) = true)

include hex

theorem createAuditPayloadDigest_answers
    {payload : JsValue}
    (isJson : (serializeCanonicalJson payload).isSome = true) :
    ∃ digest,
      createAuditPayloadDigest hasher payload = .ok digest ∧
        isSha256Hex digest = true := by
  obtain ⟨text, isText⟩ := Option.isSome_iff_exists.mp isJson
  refine ⟨hasher.sha256Hex text, ?_, hex text⟩
  rw [createAuditPayloadDigest, isText]
  exact if_pos (hex text)

theorem createAuditEventHash_answers
    {event : StoredAuditEvent}
    (hashable : Hashable parseOther event)
    (digest : isSha256Hex event.payloadDigest = true)
    (previous : isSha256Hex event.previousHash = true) :
    ∃ hash,
      createAuditEventHash parseOther hasher event.toAuditHashContent =
          .ok hash ∧
        isSha256Hex hash = true := by
  obtain ⟨time, isTime⟩ := Option.isSome_iff_exists.mp hashable.occurredAt
  have isContent :
      serializeAuditHashContent parseOther event.toAuditHashContent =
        .ok (serialize (event.toAuditHashContent.json time)) := by
    simp only [serializeAuditHashContent, isTime, requireSha256Hex, digest,
      previous, if_true, bind, Except.bind, hashable.sequence, and_self]
  refine ⟨_, ?_, hex (serialize (event.toAuditHashContent.json time))⟩
  rw [createAuditEventHash, isContent]
  exact if_pos (hex _)

/-- The verification of rows that can be hashed does not throw. -/
theorem verifyFrom_answers
    {options : AuditVerificationOptions}
    {firstSequence lastSequence : Option Int}
    {cursor : VerificationCursor}
    {events : List StoredAuditEvent}
    (hashable : ∀ event ∈ events, Hashable parseOther event)
    (previous : isSha256Hex cursor.previousHash = true) :
    ∃ result,
      verifyFrom parseOther hasher options firstSequence lastSequence cursor
          events =
        .ok result ∧
        Answers lastSequence result := by
  induction events generalizing cursor with
  | nil =>
      rw [verifyFrom]
      dsimp only
      split
      case isTrue => exact ⟨_, rfl, .failed rfl rfl rfl fun _ => rfl⟩
      case isFalse => exact ⟨_, rfl, .succeeded rfl rfl⟩
  | cons event events inductionHypothesis =>
      have isHashable := hashable event List.mem_cons_self
      rw [verifyFrom]
      dsimp only
      split
      case isTrue =>
        exact ⟨_, rfl, .failed rfl rfl rfl (by simp)⟩
      case isFalse =>
        split
        case isTrue =>
          exact ⟨_, rfl, .failed rfl rfl rfl (by simp)⟩
        case isFalse isPrevious =>
          obtain ⟨digest, isDigest, digestHex⟩ :=
            createAuditPayloadDigest_answers hex isHashable.payload
          rw [isDigest]
          simp only [bind, Except.bind]
          split
          case isTrue =>
            exact ⟨_, rfl, .failed rfl rfl rfl (by simp)⟩
          case isFalse sameDigest =>
            rw [not_not] at sameDigest isPrevious
            obtain ⟨hash, isHash, hashHex⟩ :=
              createAuditEventHash_answers hex isHashable
                (sameDigest ▸ digestHex) (isPrevious.symm ▸ previous)
            rw [isHash]
            dsimp only
            split
            case isTrue =>
              exact ⟨_, rfl, .failed rfl rfl rfl (by simp)⟩
            case isFalse sameHash =>
              rw [not_not] at sameHash
              exact inductionHypothesis
                (fun later listed =>
                  hashable later (List.mem_cons_of_mem _ listed))
                (sameHash ▸ hashHex)

end Hex

/-- An event is in the range of a request. -/
def AuditVerifyRequest.contains
    (request : AuditVerifyRequest)
    (event : StoredAuditEvent) :
    Bool :=
  ((request.fromSequence.getD 1 : Nat) : Int) ≤ event.sequence &&
    request.toSequence.all fun (toSequence : Nat) =>
      event.sequence ≤ (toSequence : Int)

/-- Of rows in the order of their numbers the range is read in this order. -/
theorem readRangeForVerification_sorted
    {request : AuditVerifyRequest}
    {events : List StoredAuditEvent}
    (ordered :
      events.Pairwise fun first second => first.sequence < second.sequence) :
    readRangeForVerification request events =
      (events.filter request.contains).take
        (clampSampleLimit request.sampleLimit.value) := by
  have sorted :
      (events.filter request.contains).Pairwise fun first second =>
        readBefore first second = true := by
    refine (ordered.filter _).imp fun before => ?_
    rw [readBefore, decide_eq_true before, Bool.true_or]
  exact congrArg (List.take (clampSampleLimit request.sampleLimit.value))
    (List.mergeSort_of_pairwise sorted)

theorem Linked.sequences_ascend
    {first : Int}
    {previous : JsString}
    {events : List StoredAuditEvent}
    (linked : Linked (auditLinks parseOther hasher) first previous events) :
    events.Pairwise fun event later => event.sequence < later.sequence :=
  Linked.ascending linked

/-- What holds from some value on holds of an end of the list. -/
theorem filter_eq_end
    {α : Type}
    {holds : α → Bool}
    {values : List α}
    (stays :
      values.Pairwise fun value later => holds value = true → holds later = true) :
    ∃ before,
      values = before ++ values.filter holds ∧
        ∀ value ∈ before, holds value = false := by
  induction values with
  | nil => exact ⟨[], rfl, nofun⟩
  | cons value values inductionHypothesis =>
      obtain ⟨fromValue, later⟩ := List.pairwise_cons.mp stays
      cases isHolding : holds value with
      | true =>
          have all : ∀ other ∈ value :: values, holds other = true :=
            List.forall_mem_cons.mpr
              ⟨isHolding, fun other listed => fromValue other listed isHolding⟩
          exact ⟨[], by rw [List.filter_eq_self.mpr all, List.nil_append], nofun⟩
      | false =>
          obtain ⟨before, isSplit, notHolding⟩ := inductionHypothesis later
          refine ⟨value :: before, ?_, ?_⟩
          · rw [List.filter_cons_of_neg (by simp [isHolding]), List.cons_append,
              ← isSplit]
          · exact List.forall_mem_cons.mpr ⟨isHolding, notHolding⟩

/-- What holds up to some value holds of a beginning of the list. -/
theorem filter_eq_beginning
    {α : Type}
    {holds : α → Bool}
    {values : List α}
    (held :
      values.Pairwise fun value later => holds later = true → holds value = true) :
    ∃ after, values = values.filter holds ++ after := by
  induction values with
  | nil => exact ⟨[], rfl⟩
  | cons value values inductionHypothesis =>
      obtain ⟨fromLater, later⟩ := List.pairwise_cons.mp held
      cases isHolding : holds value with
      | true =>
          obtain ⟨after, isSplit⟩ := inductionHypothesis later
          refine ⟨after, ?_⟩
          rw [List.filter_cons_of_pos isHolding, List.cons_append, ← isSplit]
      | false =>
          have none : (value :: values).filter holds = [] := by
            rw [List.filter_eq_nil_iff]
            refine List.forall_mem_cons.mpr ⟨by simp [isHolding], ?_⟩
            intro other listed isOther
            rw [fromLater other listed isOther] at isHolding
            cases isHolding
          exact ⟨value :: values, by rw [none, List.nil_append]⟩

/-- What is read of a chain is a part of it, from the requested number on. -/
theorem readRangeForVerification_part
    {request : AuditVerifyRequest}
    {chain : List StoredAuditEvent}
    (linked :
      Linked (auditLinks parseOther hasher) 1 genesisPreviousHash chain) :
    ∃ before after,
      chain = before ++ readRangeForVerification request chain ++ after ∧
        (readRangeForVerification request chain ≠ [] →
          request.fromSequence.getD 1 = before.length + 1) := by
  have ascending := Linked.sequences_ascend linked
  let isLate (event : StoredAuditEvent) : Bool :=
    ((request.fromSequence.getD 1 : Nat) : Int) ≤ event.sequence
  let isEarly (event : StoredAuditEvent) : Bool :=
    request.toSequence.all fun (toSequence : Nat) =>
      event.sequence ≤ (toSequence : Int)
  have late :
      chain.Pairwise fun event later =>
        isLate event = true → isLate later = true := by
    refine ascending.imp fun before fromRequested => ?_
    simp only [isLate, decide_eq_true_eq] at fromRequested ⊢
    omega
  have early :
      (chain.filter isLate).Pairwise fun event later =>
        isEarly later = true → isEarly event = true := by
    refine (ascending.filter _).imp fun before toRequested => ?_
    simp only [isEarly, Option.all_eq_true, decide_eq_true_eq] at toRequested ⊢
    intro toSequence isTo
    exact Int.le_trans (Int.le_of_lt before) (toRequested toSequence isTo)
  obtain ⟨before, isChain, notLate⟩ := filter_eq_end late
  obtain ⟨after, isLateOnes⟩ := filter_eq_beginning early
  have isRange :
      chain.filter request.contains = (chain.filter isLate).filter isEarly := by
    rw [List.filter_filter]
    refine List.filter_congr fun event _ => ?_
    rw [Bool.and_comm]
    rfl
  have isRead := @readRangeForVerification_sorted request _ ascending
  rw [isRange] at isRead
  generalize isLimit : clampSampleLimit request.sampleLimit.value = limit
    at isRead
  refine ⟨before, ((chain.filter isLate).filter isEarly).drop limit ++ after,
    ?_, ?_⟩
  · rw [isRead, List.append_assoc, ← List.append_assoc (List.take _ _),
      List.take_append_drop, ← isLateOnes]
    exact isChain
  · intro nonEmpty
    have positive : 1 ≤ request.fromSequence.getD 1 := by
      cases isFrom : request.fromSequence with
      | none => exact Nat.le_refl 1
      | some sequence => exact request.fromPositive sequence isFrom
    -- The first event from the requested number on stands behind `before`.
    have lateOnes : chain.filter isLate ≠ [] := by
      intro isEmpty
      rw [isRead, isEmpty] at nonEmpty
      exact nonEmpty List.take_nil
    obtain ⟨event, events, isEvents⟩ := List.exists_cons_of_ne_nil lateOnes
    have atFirst : chain[before.length]? = some event := by
      rw [isChain, isEvents]
      simp
    have firstNumber : event.sequence = 1 + before.length :=
      linked.number atFirst
    have firstIsLate : isLate event = true := by
      have listed : event ∈ chain.filter isLate := by
        rw [isEvents]
        exact List.mem_cons_self
      exact (List.mem_filter.mp listed).2
    simp only [isLate, decide_eq_true_eq, firstNumber] at firstIsLate
    rcases List.eq_nil_or_concat' before with rfl | ⟨earlier, last, rfl⟩
    · simp only [List.length_nil] at firstIsLate ⊢
      omega
    · have atLast : chain[earlier.length]? = some last := by
        rw [isChain]
        simp
      have lastNumber : last.sequence = 1 + earlier.length :=
        linked.number atLast
      have lastNotLate := notLate last (by simp)
      simp only [isLate, decide_eq_false_iff_not, lastNumber] at lastNotLate
      simp only [List.length_append, List.length_singleton] at firstIsLate ⊢
      omega

/-- The rows of a chain after some of their columns were written again. -/
def Rewritten
    (parseOther : JsString → Option TimeValue)
    (chain stored : List StoredAuditEvent) :
    Prop :=
  List.Forall₂
    (fun written row =>
      row.sequence = written.sequence ∧ Hashable parseOther row)
    chain stored

/-- An event as it was written, in every field that its hash covers. -/
def AsWritten
    (parseOther : JsString → Option TimeValue)
    (written row : StoredAuditEvent) :
    Prop :=
  SameEvent parseOther written row ∧ row.eventHash = written.eventHash

/-- Some event is not as it was written. -/
def Altered
    (parseOther : JsString → Option TimeValue)
    (written read : List StoredAuditEvent) :
    Prop :=
  ¬List.Forall₂ (AsWritten parseOther) written read

theorem hashable_of_sound
    {event : StoredAuditEvent}
    (sound : (auditLinks parseOther hasher).sound event) :
    Hashable parseOther event := by
  obtain ⟨digested, hashed⟩ := sound
  have isJson : (serializeCanonicalJson event.payload).isSome = true := by
    unfold createAuditPayloadDigest at digested
    split at digested
    case h_1 => cases digested
    case h_2 text isText => rw [isText]; rfl
  unfold createAuditEventHash serializeAuditHashContent at hashed
  split at hashed
  case h_1 => cases hashed
  case h_2 time isTime =>
    refine ⟨by rw [isTime]; rfl, isJson, ?_⟩
    by_contra outside
    cases digest : requireSha256Hex event.payloadDigest with
    | error error => simp [digest, bind, Except.bind] at hashed
    | ok payloadDigest =>
        cases previous : requireSha256Hex event.previousHash with
        | error error => simp [digest, previous, bind, Except.bind] at hashed
        | ok previousHash =>
            simp [digest, previous, outside, bind, Except.bind] at hashed

theorem rewritten_refl
    {chain : List StoredAuditEvent}
    (sound : ∀ event ∈ chain, (auditLinks parseOther hasher).sound event) :
    Rewritten parseOther chain chain := by
  rw [Rewritten, List.forall₂_same]
  exact fun event listed => ⟨rfl, hashable_of_sound (sound event listed)⟩

theorem Rewritten.hashable
    {chain stored : List StoredAuditEvent}
    (rewritten : Rewritten parseOther chain stored) :
    ∀ event ∈ stored, Hashable parseOther event := by
  induction rewritten with
  | nil => simp
  | cons same _ inductionHypothesis =>
      exact List.forall_mem_cons.mpr ⟨same.2, inductionHypothesis⟩

theorem Rewritten.sequences
    {chain stored : List StoredAuditEvent}
    (rewritten : Rewritten parseOther chain stored) :
    stored.map (·.sequence) = chain.map (·.sequence) := by
  induction rewritten with
  | nil => rfl
  | cons same _ inductionHypothesis =>
      rw [List.map_cons, List.map_cons, same.1, inductionHypothesis]

/-- Rows are filtered by their numbers alone. -/
theorem forall₂_filter
    {α β : Type}
    {related : α → β → Prop}
    {holds : α → Bool}
    {holds' : β → Bool}
    (agree : ∀ first second, related first second → holds first = holds' second)
    {firsts : List α}
    {seconds : List β}
    (pairs : List.Forall₂ related firsts seconds) :
    List.Forall₂ related (firsts.filter holds) (seconds.filter holds') := by
  induction pairs with
  | nil => exact .nil
  | @cons first second _ _ isRelated _ inductionHypothesis =>
      have same := agree first second isRelated
      cases isHolding : holds first with
      | true =>
          rw [List.filter_cons_of_pos isHolding,
            List.filter_cons_of_pos (same ▸ isHolding)]
          exact .cons isRelated inductionHypothesis
      | false =>
          rw [List.filter_cons_of_neg (by simp [isHolding]),
            List.filter_cons_of_neg (by simp [← same, isHolding])]
          exact inductionHypothesis

section Rewriting

variable
  {chain stored : List StoredAuditEvent}
  (linked : Linked (auditLinks parseOther hasher) 1 genesisPreviousHash chain)
  (rewritten : Rewritten parseOther chain stored)

include linked rewritten

/-- Rewritten rows are read where the rows of the chain were read. -/
theorem readRangeForVerification_rewritten (request : AuditVerifyRequest) :
    Rewritten parseOther (readRangeForVerification request chain)
      (readRangeForVerification request stored) := by
  have ascending := Linked.sequences_ascend linked
  have ascending' :
      stored.Pairwise fun event later => event.sequence < later.sequence := by
    have ofNumbers := List.pairwise_map.mpr ascending
    rw [← rewritten.sequences] at ofNumbers
    exact List.pairwise_map.mp ofNumbers
  rw [readRangeForVerification_sorted ascending,
    readRangeForVerification_sorted ascending']
  refine List.forall₂_take _ (forall₂_filter ?_ rewritten)
  intro written row same
  rw [AuditVerifyRequest.contains, AuditVerifyRequest.contains, same.1]

end Rewriting

def VerificationOutcome.recordsFailure (outcome : VerificationOutcome) : Bool :=
  outcome.alert.isSome || outcome.upserted.any fun state => !state.valid

/-- What is claimed of a request about a chain, whatever was rewritten. -/
structure VerifiesFaithfully
    (parseOther : JsString → Option TimeValue)
    (hasher : AuditHasher)
    (role : OrganizationRole)
    (actorUserId : JsString)
    (request : AuditVerifyRequest)
    (head : WorkspaceAuditChainHeadRecord)
    (chain : List StoredAuditEvent) : Prop where
  intact :
    ∀ stored,
      Rewritten parseOther chain stored →
      stored.filter request.contains = chain.filter request.contains →
      ∃ outcome,
        verifyChain parseOther hasher role actorUserId request head stored =
            .ok outcome ∧
          outcome.response.status = .ok ∧
          outcome.recordsFailure = false
  altered :
    ∀ stored,
      Rewritten parseOther chain stored →
      TellsApart hasher ((chain ++ stored).flatMap (hashedTexts parseOther))
        ((chain ++ stored).flatMap (hashedTexts parseOther)) →
      Altered parseOther (readRangeForVerification request chain)
        (readRangeForVerification request stored) →
      ∃ outcome,
        verifyChain parseOther hasher role actorUserId request head stored =
            .ok outcome ∧
          outcome.response.status ≠ .ok ∧
          outcome.recordsFailure = true

/-- What is read begins at the genesis hash and ends at the head. -/
structure ReadsWholeChain
    (request : AuditVerifyRequest)
    (head : WorkspaceAuditChainHeadRecord)
    (chain : List StoredAuditEvent) : Prop where
  first :
    ∀ event ∈ (readRangeForVerification request chain).head?,
      event.previousHash = genesisPreviousHash
  last :
    ((readRangeForVerification request chain).getLast?.map (·.eventHash)).getD
        genesisPreviousHash =
      head.lastEventHash

theorem headMark_eq
    (previous : JsString)
    (events : List StoredAuditEvent) :
    headMark (auditLinks parseOther hasher) previous events =
      (events.getLast?.map (·.eventHash)).getD previous := by
  rcases List.eq_nil_or_concat' events with rfl | ⟨earlier, event, rfl⟩
  · rfl
  · rw [headMark_concat, List.getLast?_concat]
    rfl

theorem status_eq_ok_iff
    {result : AuditVerificationResult} :
    (verifyResponse result).status = .ok ↔ result.valid = true := by
  rw [verifyResponse, verifyStatus]
  cases result.valid with
  | true => simp
  | false =>
      simp only [Bool.false_eq_true, if_false, iff_false]
      split <;> nofun

theorem recordsFailure_recordVerification
    (request : AuditVerifyRequest)
    (head : WorkspaceAuditChainHeadRecord)
    (actorUserId : JsString)
    (events : List StoredAuditEvent)
    (result : AuditVerificationResult) :
    (recordVerification request head actorUserId events result).recordsFailure =
      (authoritativeFailure head result).isSome := by
  rw [recordVerification]
  split
  case h_1 found => rw [found]; rfl
  case h_2 notFound =>
    rw [notFound, VerificationOutcome.recordsFailure]
    dsimp only
    split <;> rfl

theorem recordVerification_response
    (request : AuditVerifyRequest)
    (head : WorkspaceAuditChainHeadRecord)
    (actorUserId : JsString)
    (events : List StoredAuditEvent)
    (result : AuditVerificationResult) :
    (recordVerification request head actorUserId events result).response =
      verifyResponse result := by
  rw [recordVerification]
  split <;> rfl

/-- A failure is recorded unless only the head differs, behind the range. -/
theorem authoritativeFailure_isSome
    {head : WorkspaceAuditChainHeadRecord}
    {lastSequence : Option Int}
    {result : AuditVerificationResult}
    (answers : Answers lastSequence result)
    (invalid : result.valid = false)
    (atHead : lastSequence = some (head.lastSequence : Int)) :
    (authoritativeFailure head result).isSome = true := by
  obtain ⟨code, isCode⟩ := Option.isSome_iff_exists.mp (answers.code invalid)
  obtain ⟨sequence, isSequence⟩ :=
    Option.isSome_iff_exists.mp (answers.sequence invalid)
  rw [authoritativeFailure, isCode, isSequence]
  dsimp only
  rw [if_pos]
  · rfl
  · by_cases isHead : code = .headHashMismatch
    · have isLast := answers.head (isHead ▸ isCode)
      simp [invalid, isLast, atHead]
    · simp [invalid, isHead]

theorem authoritativeFailure_of_valid
    {head : WorkspaceAuditChainHeadRecord}
    {result : AuditVerificationResult}
    (valid : result.valid = true) :
    authoritativeFailure head result = none := by
  rw [authoritativeFailure]
  split
  · rw [valid]
    rfl
  · rfl

section Verified

variable
  (hex : ∀ content, isSha256Hex (hasher.sha256Hex content) = true)
  {role : OrganizationRole}
  (verifier : role.isVerifier = true)
  (actorUserId : JsString)
  (request : AuditVerifyRequest)
  (head : WorkspaceAuditChainHeadRecord)

include hex verifier

/-- What is answered about rows that can be hashed. -/
theorem verifyChain_answers
    {stored : List StoredAuditEvent}
    (hashable :
      ∀ event ∈ readRangeForVerification request stored,
        Hashable parseOther event) :
    ∃ result,
      verifyChain parseOther hasher role actorUserId request head stored =
          .ok
            (recordVerification request head actorUserId
              (readRangeForVerification request stored) result) ∧
        Answers
          ((readRangeForVerification request stored).getLast?.map (·.sequence))
          result ∧
        (result.valid = true ↔
          Linked (auditLinks parseOther hasher)
              ((request.fromSequence.getD 1 : Nat) : Int) genesisPreviousHash
              (readRangeForVerification request stored) ∧
            headMark (auditLinks parseOther hasher) genesisPreviousHash
                (readRangeForVerification request stored) =
              head.lastEventHash) := by
  have genesisIsHash : isSha256Hex genesisPreviousHash = true := by decide
  obtain ⟨result, isResult, answers⟩ :=
    @verifyFrom_answers parseOther hasher hex
      (verificationOptions request head)
      ((readRangeForVerification request stored).head?.map (·.sequence))
      ((readRangeForVerification request stored).getLast?.map (·.sequence))
      { checkedCount := 0
        expectedSequence :=
          (verificationOptions request head).expectedFirstSequence.getD 1
        previousHash := genesisPreviousHash }
      _ hashable genesisIsHash
  refine ⟨result, ?_, answers, ?_⟩
  · rw [verifyChain, if_pos verifier]
    dsimp only
    rw [verifyAuditEventChain]
    simp only [verificationOptions] at isResult ⊢
    rw [Option.getD_none, isResult]
  · have isFirst :
        (verificationOptions request head).expectedFirstSequence.getD 1 =
          ((request.fromSequence.getD 1 : Nat) : Int) := by
      rw [verificationOptions]
      cases request.fromSequence <;> rfl
    have valid :=
      @verifies_iff parseOther hasher
        (readRangeForVerification request stored)
        (verificationOptions request head)
    rw [isFirst] at valid
    constructor
    · intro isValid
      obtain ⟨linked, isHead⟩ := valid.mp ⟨result, isResult, isValid⟩
      exact ⟨linked, isHead rfl⟩
    · rintro ⟨linked, isHead⟩
      obtain ⟨result', isResult', isValid⟩ :=
        valid.mpr ⟨linked, fun _ => isHead⟩
      obtain rfl := Except.ok.inj (isResult.symm.trans isResult')
      exact isValid

end Verified

section Whole

variable
  {store : AuditStore}
  {workspaceId : JsString}
  {request : AuditVerifyRequest}
  {head : WorkspaceAuditChainHeadRecord}
  (invariant : ChainInvariant parseOther hasher store workspaceId)
  (isHead : head.toAuditChainHead = store.heads workspaceId)
  (whole : ReadsWholeChain request head (store.chain workspaceId))

include invariant whole

/-- What begins at the genesis hash is a chain from the requested number on. -/
theorem ReadsWholeChain.linked :
    Linked (auditLinks parseOther hasher)
      ((request.fromSequence.getD 1 : Nat) : Int) genesisPreviousHash
      (readRangeForVerification request (store.chain workspaceId)) := by
  obtain ⟨before, after, isChain, isFrom⟩ :=
    @readRangeForVerification_part parseOther hasher request _ invariant.linked
  have chained := invariant.linked
  rw [isChain] at chained
  have part := chained.part
  cases isRead :
      readRangeForVerification request (store.chain workspaceId) with
  | nil => trivial
  | cons event events =>
      rw [isRead] at part isFrom
      have number := isFrom (List.cons_ne_nil _ _)
      have atGenesis : event.previousHash = genesisPreviousHash :=
        whole.first event (by rw [isRead]; rfl)
      obtain ⟨isNumber, isPrevious, sound, later⟩ := part
      have sameNumber :
          (1 : Int) + before.length =
            ((request.fromSequence.getD 1 : Nat) : Int) := by
        rw [number]
        push_cast
        omega
      exact ⟨isNumber.trans sameNumber, atGenesis, sound, sameNumber ▸ later⟩

omit invariant in
theorem ReadsWholeChain.headHash :
    headMark (auditLinks parseOther hasher) genesisPreviousHash
        (readRangeForVerification request (store.chain workspaceId)) =
      head.lastEventHash := by
  rw [headMark_eq]
  exact whole.last

variable
  {stored : List StoredAuditEvent}
  (apart :
    TellsApart hasher
      ((store.chain workspaceId ++ stored).flatMap (hashedTexts parseOther))
      ((store.chain workspaceId ++ stored).flatMap (hashedTexts parseOther)))

include apart

omit invariant whole in
/-- Events of the chain and of the rows with one hash are the same. -/
theorem asWritten_of_sameHash
    {first second : StoredAuditEvent}
    (listed : first ∈ store.chain workspaceId ++ stored)
    (listed' : second ∈ store.chain workspaceId ++ stored)
    (sound : (auditLinks parseOther hasher).sound first)
    (sound' : (auditLinks parseOther hasher).sound second)
    (sameHash : first.eventHash = second.eventHash) :
    AsWritten parseOther first second ∧
      first.sequence = second.sequence ∧
      first.previousHash = second.previousHash := by
  have texts
      {event : StoredAuditEvent}
      (isEvent : event ∈ store.chain workspaceId ++ stored)
      {text : JsString}
      (isText : text ∈ hashedTexts parseOther event) :
      text ∈
        (store.chain workspaceId ++ stored).flatMap (hashedTexts parseOther) :=
    List.mem_flatMap.mpr ⟨event, isEvent, isText⟩
  obtain ⟨event, number, previous⟩ :=
    eventHash_determines first second
      (fun text isText text' isText' =>
        apart text (texts listed isText) text' (texts listed' isText'))
      sound sound' sameHash
  exact ⟨⟨event, sameHash.symm⟩, number, previous⟩

include isHead

/-- What ends with the hash of the head ends with its number. -/
theorem ReadsWholeChain.lastSequence
    (nonEmpty :
      readRangeForVerification request (store.chain workspaceId) ≠ []) :
    (readRangeForVerification request (store.chain workspaceId)).getLast?.map
        (·.sequence) =
      some (head.lastSequence : Int) := by
  obtain ⟨before, after, isChain, -⟩ :=
    @readRangeForVerification_part parseOther hasher request _ invariant.linked
  have readLinked := whole.linked invariant
  have readHead := @ReadsWholeChain.headHash parseOther hasher _ _ _ _ whole
  have headHash : head.lastEventHash = (store.heads workspaceId).lastEventHash :=
    congrArg AuditChainHead.lastEventHash isHead
  have headNumber :
      head.lastSequence = (store.chain workspaceId).length :=
    (congrArg AuditChainHead.lastSequence isHead).trans invariant.length
  rcases List.eq_nil_or_concat'
      (readRangeForVerification request (store.chain workspaceId)) with
    isEmpty | ⟨earlier, event, isRead⟩
  · exact absurd isEmpty nonEmpty
  · rcases List.eq_nil_or_concat' (store.chain workspaceId) with
      noChain | ⟨front, last, isLast⟩
    · rw [isRead, noChain] at isChain
      simp at isChain
    · have eventListed : event ∈ store.chain workspaceId := by
        rw [isChain, isRead]
        simp
      have lastListed : last ∈ store.chain workspaceId := by
        rw [isLast]
        simp
      have sameHash : event.eventHash = last.eventHash := by
        rw [isRead, headMark_concat, headHash, invariant.head, isLast,
          headMark_concat] at readHead
        exact readHead
      have sameNumber :=
        (asWritten_of_sameHash apart
          (List.mem_append_left _ eventListed)
          (List.mem_append_left _ lastListed)
          (invariant.linked.sound event eventListed)
          (invariant.linked.sound last lastListed) sameHash).2.1
      have atLast : (store.chain workspaceId)[front.length]? = some last := by
        rw [isLast]
        simp
      have lastNumber : last.sequence = 1 + front.length :=
        invariant.linked.number atLast
      rw [isRead, List.getLast?_concat, Option.map_some, sameNumber, lastNumber,
        headNumber, isLast, List.length_append, List.length_singleton]
      push_cast
      rw [Int.add_comm]

omit isHead in
/-- Rows that verify against the head are as they were written. -/
theorem ReadsWholeChain.asWritten
    (rewritten : Rewritten parseOther (store.chain workspaceId) stored)
    (linked :
      Linked (auditLinks parseOther hasher)
        ((request.fromSequence.getD 1 : Nat) : Int) genesisPreviousHash
        (readRangeForVerification request stored))
    (sameHead :
      headMark (auditLinks parseOther hasher) genesisPreviousHash
          (readRangeForVerification request stored) =
        head.lastEventHash) :
    List.Forall₂ (AsWritten parseOther)
      (readRangeForVerification request (store.chain workspaceId))
      (readRangeForVerification request stored) := by
  let links : Links StoredAuditEvent JsString :=
    { auditLinks parseOther hasher with
      sound := fun event =>
        (auditLinks parseOther hasher).sound event ∧
          event ∈ store.chain workspaceId ++ stored }
  have chained := whole.linked invariant
  have sameHeads :=
    (@ReadsWholeChain.headHash parseOther hasher _ _ _ _ whole).trans
      sameHead.symm
  have pairs := readRangeForVerification_rewritten invariant.linked rewritten
    request
  have isRead :
      ∀ {events : List StoredAuditEvent} {event},
        event ∈ readRangeForVerification request events → event ∈ events := by
    intro events event listed
    have inRange := List.mem_of_mem_take listed
    exact (List.mem_filter.mp (List.mem_mergeSort.mp inRange)).1
  have chainSound :
      ∀ event ∈ readRangeForVerification request (store.chain workspaceId),
        links.sound event :=
    fun event listed =>
      ⟨chained.sound event listed, List.mem_append_left _ (isRead listed)⟩
  have storedSound :
      ∀ event ∈ readRangeForVerification request stored, links.sound event :=
    fun event listed =>
      ⟨linked.sound event listed, List.mem_append_right _ (isRead listed)⟩
  have determined :
      ∀ first second,
        links.sound first →
        links.sound second →
        links.mark first = links.mark second →
        AsWritten parseOther first second ∧
          links.number first = links.number second ∧
          links.previous first = links.previous second := by
    intro first second isSound isSound' sameMark
    obtain ⟨sound, listed⟩ := isSound
    obtain ⟨sound', listed'⟩ := isSound'
    exact asWritten_of_sameHash apart listed listed' sound sound' sameMark
  exact
    Linked.agree_of_length determined (chained.restrict chainSound)
      (linked.restrict storedSound) pairs.length_eq sameHeads

end Whole

def exampleWorkspace : JsString := js "00000000-0000-4000-8000-000000000000"

def exampleStore : AuditStore :=
  appendAll (fun _ => none) constantHasher .empty
    [exampleCall (js "source:1"), exampleCall (js "source:2")]

def exampleHead : WorkspaceAuditChainHeadRecord :=
  { exampleStore.heads exampleWorkspace with
    lastEventAt := some exampleTime.toISOString }

theorem exampleLimit : 1 ≤ 200 ∧ 200 ≤ 200 := by decide

theorem fromSecond_positive : ∀ sequence ∈ some 2, 1 ≤ sequence := by decide

theorem unbounded_positive : ∀ sequence ∈ (none : Option Nat), 1 ≤ sequence := by
  decide

/-- A request for the second event. -/
def fromSecond : AuditVerifyRequest :=
  { fromSequence := some 2
    toSequence := none
    sampleLimit := ⟨200, exampleLimit.1, exampleLimit.2⟩
    fromPositive := fromSecond_positive
    toPositive := unbounded_positive }

/-- A request for both events. -/
def fromFirst : AuditVerifyRequest :=
  { fromSequence := none
    toSequence := none
    sampleLimit := ⟨200, exampleLimit.1, exampleLimit.2⟩
    fromPositive := unbounded_positive
    toPositive := unbounded_positive }

/-- The second event, as it was written, is reported as tampered with. -/
theorem fromSecond_tampered :
    ((verifyChain (fun _ => none) constantHasher .owner (js "owner") fromSecond
          exampleHead (exampleStore.chain exampleWorkspace)).toOption.any
        fun outcome =>
          outcome.response.status = .tampered && outcome.recordsFailure) =
      true := by
  decide +kernel

theorem exampleStore_linked :
    Linked (auditLinks (fun _ => none) constantHasher) 1 genesisPreviousHash
      (exampleStore.chain exampleWorkspace) :=
  (chainInvariant_appendAll (chainInvariant_empty _ constantHasher _) _).linked

theorem fromFirst_readsWholeChain :
    ReadsWholeChain fromFirst exampleHead
      (exampleStore.chain exampleWorkspace) := by
  have isRead :=
    @readRangeForVerification_sorted fromFirst _
      (Linked.sequences_ascend exampleStore_linked)
  constructor
  · rw [isRead]
    decide +kernel
  · rw [isRead]
    decide +kernel

theorem constantHasher_hex (content : JsString) :
    isSha256Hex (constantHasher.sha256Hex content) = true := by
  have isHex : isSha256Hex exampleDigest = true := by decide
  exact isHex

end TaskTwin.Audit
