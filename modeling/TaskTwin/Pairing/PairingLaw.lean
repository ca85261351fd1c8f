import TaskTwin.Pairing.Sessions

/-!
# What pairing guarantees

Requests arrive in any order and at any times, and the members of the
organizations may be others at each of them.
-/

namespace TaskTwin.Pairing

open Text Store
open TaskTwin.Lifecycle (OrganizationRole)

inductive Call where
  | create (input : CreatePairingInput)
  | inspect (actorUserId userCodeDigest : JsString)
  | approve (actorUserId workspaceId userCodeDigest : JsString)
  | deny (actorUserId workspaceId userCodeDigest : JsString)
  | poll (deviceCodeHash runnerDeviceId credentialId credentialHash : JsString)
  deriving DecidableEq

/-- A call, its instant, and who is a member of what at that instant. -/
structure Request where
  now : Nat
  memberRole : MemberRole
  call : Call

inductive Answer where
  | record (record : RunnerPairingRecord)
  | inspected (record : Option RunnerPairingRecord)
  | polled (result : RunnerPollingResult)
  deriving DecidableEq

def perform
    (request : Request)
    (db : Database) :
    Except RunnerRepositoryErrorCode (Database × Answer) :=
  match request.call with
  | .create input => do
      let (db, record) ← createPairingSession input db
      .ok (db, .record record)
  | .inspect actorUserId userCodeDigest => do
      let (db, record) ←
        inspectPairing request.memberRole actorUserId userCodeDigest
          request.now db
      .ok (db, .inspected record)
  | .approve actorUserId workspaceId userCodeDigest => do
      let (db, record) ←
        approvePairing request.memberRole actorUserId workspaceId
          userCodeDigest request.now db
      .ok (db, .record record)
  | .deny actorUserId workspaceId userCodeDigest => do
      let (db, record) ←
        denyPairing request.memberRole actorUserId workspaceId
          userCodeDigest request.now db
      .ok (db, .record record)
  | .poll deviceCodeHash runnerDeviceId credentialId credentialHash => do
      let (db, result) ←
        pollPairing
          { deviceCodeHash, runnerDeviceId, credentialId, credentialHash
            now := request.now }
          db
      .ok (db, .polled result)

/-- The tables after a request; a request that throws is rolled back. -/
def next (db : Database) (request : Request) : Database :=
  (transact (perform request) db).1

def Database.empty : Database :=
  { pairingSessions := [], devices := [], credentials := [] }

/-- The tables after requests, the first of which found no session. -/
def stateAfter (requests : List Request) : Database :=
  requests.foldl next Database.empty

/-- What a request is answered, when others have come before it. -/
def answerAfter
    (earlier : List Request)
    (request : Request) :
    Except RunnerRepositoryErrorCode Answer :=
  (transact (perform request) (stateAfter earlier)).2

theorem stateAfter_concat
    (earlier : List Request)
    (request : Request) :
    stateAfter (earlier ++ [request]) = next (stateAfter earlier) request := by
  simp [stateAfter]

/-- The updates of one session that create no device. -/
inductive SessionMove (request : Request) (row : RunnerPairingSession) :
    (RunnerPairingSession → RunnerPairingSession) → Prop where
  | expires
      (isOverdue : row.isOverdue request.now = true) :
      SessionMove request row RunnerPairingSession.expire
  | approves
      {actorUserId workspaceId : JsString}
      (isCall :
        request.call = .approve actorUserId workspaceId row.userCodeDigest)
      (isManager :
        ∃ role ∈ request.memberRole actorUserId workspaceId,
          role ∈ managerRoles)
      (isPending : row.status = .pending) :
      SessionMove request row
        (RunnerPairingSession.approve actorUserId workspaceId request.now)
  | denies
      {actorUserId workspaceId : JsString}
      (isPending : row.status = .pending) :
      SessionMove request row
        (RunnerPairingSession.deny actorUserId workspaceId request.now)
  | slowsDown
      (waits : row.status = .pending ∨ row.status = .approved) :
      SessionMove request row (RunnerPairingSession.slowDown request.now)
  | polls
      (waits : row.status = .pending ∨ row.status = .approved) :
      SessionMove request row (RunnerPairingSession.poll request.now)

/-- The tables after the poll that creates the device of a session. -/
def Database.issue
    (db : Database)
    (input : PollPairingInput)
    (row : RunnerPairingSession)
    (workspaceId : JsString) :
    Database :=
  { pairingSessions :=
      updateMany (fun other => other.id = row.id)
        (RunnerPairingSession.consume input.now ∘
          RunnerPairingSession.poll input.now)
        db.pairingSessions
    devices := db.devices ++ [newDevice input row workspaceId]
    credentials := db.credentials ++ [input.credential] }

/-- An answer other than the one that names a device. -/
def Answer.namesNoDevice : Answer → Prop
  | .polled (.paired _ _ _) => False
  | _ => True

inductive Change (request : Request) (db : Database) :
    Database → Answer → Prop where
  | none {answer : Answer} (namesNoDevice : answer.namesNoDevice) :
      Change request db db answer
  | created
      {input : CreatePairingInput}
      {answer : Answer}
      (isFree : input.isTaken db = false)
      (namesNoDevice : answer.namesNoDevice) :
      Change request db
        { db with pairingSessions := db.pairingSessions ++ [input.row] }
        answer
  | moved
      {row : RunnerPairingSession}
      {change : RunnerPairingSession → RunnerPairingSession}
      {answer : Answer}
      (listed : row ∈ db.pairingSessions)
      (move : SessionMove request row change)
      (namesNoDevice : answer.namesNoDevice)
      (isRecord :
        ∀ actorUserId workspaceId userCodeDigest,
          request.call = .approve actorUserId workspaceId userCodeDigest →
            ∃ record, answer = .record record ∧ record.id = row.id) :
      Change request db (db.updatePairing row.id change) answer
  | issued
      {row : RunnerPairingSession}
      {input : PollPairingInput}
      {workspaceId : JsString}
      {intervalSeconds : Nat}
      (listed : row ∈ db.pairingSessions)
      (isCall :
        request.call =
          .poll row.deviceCodeHash input.runnerDeviceId input.credentialId
            input.credentialHash)
      (isNow : input.now = request.now)
      (isApproved : row.status = .approved)
      (isForWorkspace : row.workspaceId = some workspaceId)
      (inTime : request.now < row.expiresAt)
      (isFree :
        db.deviceCollides (newDevice input row workspaceId)
          input.credential = false) :
      Change request db (db.issue input row workspaceId)
        (.polled
          (.paired input.runnerDeviceId workspaceId intervalSeconds))
  | redelivered
      {row : RunnerPairingSession}
      {device : RunnerDevice}
      {intervalSeconds credentialDeliveryExpiresAt : Nat}
      {runnerDeviceId credentialId credentialHash : JsString}
      (listed : row ∈ db.pairingSessions)
      (isCall :
        request.call =
          .poll row.deviceCodeHash runnerDeviceId credentialId
            credentialHash)
      (isDevice : device ∈ db.devices)
      (ofSession : device.pairingSessionId = row.id)
      (isWindow :
        row.credentialDeliveryExpiresAt = some credentialDeliveryExpiresAt)
      (inWindow : request.now ≤ credentialDeliveryExpiresAt) :
      Change request db db
        (.polled (.paired device.id device.workspaceId intervalSeconds))

theorem lockPairing_eq_some
    {db : Database}
    {code : RunnerPairingSession → JsString}
    {digest : JsString}
    {row : RunnerPairingSession}
    (distinct : (db.pairingSessions.map RunnerPairingSession.id).Nodup)
    (found : db.lockPairing code digest = some row) :
    row ∈ db.pairingSessions ∧ code row = digest := by
  obtain ⟨other, isOther, isFound⟩ := Option.bind_eq_some_iff.mp found
  have listed := List.mem_of_find?_eq_some isOther
  rw [findUnique_of_mem distinct listed] at isFound
  rw [← Option.some.inj isFound]
  exact ⟨listed, by simpa using List.find?_some isOther⟩

/-- A session with the code is found. -/
theorem lockPairing_eq_none
    {db : Database}
    {code : RunnerPairingSession → JsString}
    {digest : JsString}
    (unknown : ∀ row ∈ db.pairingSessions, code row ≠ digest) :
    db.lockPairing code digest = none := by
  have notFound :
      (db.pairingSessions.find? fun row => code row = digest) = none := by
    rw [List.find?_eq_none]
    intro row listed
    simpa using unknown row listed
  rw [Database.lockPairing, notFound]
  rfl

theorem requireManager_eq_ok
    {memberRole : MemberRole}
    {userId workspaceId : JsString}
    (allowed : requireManager memberRole userId workspaceId = .ok ()) :
    ∃ role ∈ memberRole userId workspaceId, role ∈ managerRoles := by
  obtain ⟨role, isRole, notRefused⟩ := bind_eq_ok.mp allowed
  exact
    ⟨role, orThrow_eq_ok.mp isRole, not_not.mp (refuseIf_eq_ok.mp notRefused)⟩

theorem decidePairing_eq_ok
    {decide :
      JsString → JsString → Nat → RunnerPairingSession →
        RunnerPairingSession}
    {memberRole : MemberRole}
    {actorUserId workspaceId userCodeDigest : JsString}
    {now : Nat}
    {db db' : Database}
    {record : RunnerPairingRecord}
    (distinct : (db.pairingSessions.map RunnerPairingSession.id).Nodup)
    (answered :
      decidePairing decide memberRole actorUserId workspaceId userCodeDigest
          now db =
        .ok (db', record)) :
    (∃ role ∈ memberRole actorUserId workspaceId, role ∈ managerRoles) ∧
      ∃ row ∈ db.pairingSessions,
        row.userCodeDigest = userCodeDigest ∧ row.status = .pending ∧
          db' = db.updatePairing row.id (decide actorUserId workspaceId now) ∧
          record = toPairingRecord (decide actorUserId workspaceId now row) := by
  obtain ⟨⟨⟩, allowed, answered⟩ := bind_eq_ok.mp answered
  obtain ⟨row, isLocked, answered⟩ := bind_eq_ok.mp answered
  obtain ⟨listed, isCode⟩ :=
    lockPairing_eq_some distinct (orThrow_eq_ok.mp isLocked)
  refine ⟨requireManager_eq_ok allowed, row, listed, isCode, ?_⟩
  cases isOverdue : row.isOverdue now with
  | true =>
      -- An overdue session has just expired, and is not pending any more.
      simp [expireIfRequired, isOverdue, RunnerPairingSession.expire,
        refuseIf, bind, Except.bind] at answered
  | false =>
      simp only [expireIfRequired, isOverdue, Bool.false_eq_true,
        ↓reduceIte] at answered
      obtain ⟨⟨⟩, isPending, answered⟩ := bind_eq_ok.mp answered
      have isState := Except.ok.inj answered
      exact
        ⟨not_not.mp (refuseIf_eq_ok.mp isPending),
          (congrArg Prod.fst isState).symm, (congrArg Prod.snd isState).symm⟩

theorem inspectPairing_eq_ok
    {memberRole : MemberRole}
    {actorUserId userCodeDigest : JsString}
    {now : Nat}
    {db db' : Database}
    {record : Option RunnerPairingRecord}
    (distinct : (db.pairingSessions.map RunnerPairingSession.id).Nodup)
    (answered :
      inspectPairing memberRole actorUserId userCodeDigest now db =
        .ok (db', record)) :
    db' = db ∨
      ∃ row ∈ db.pairingSessions,
        row.isOverdue now = true ∧
          db' = db.updatePairing row.id RunnerPairingSession.expire := by
  rw [inspectPairing] at answered
  split at answered
  case h_1 =>
    exact Or.inl (congrArg Prod.fst (Except.ok.inj answered)).symm
  case h_2 row isLocked =>
    obtain ⟨listed, -⟩ := lockPairing_eq_some distinct isLocked
    have isState : db' = (expireIfRequired db row now).1 := by
      dsimp only at answered
      split at answered
      case h_1 => exact (congrArg Prod.fst (Except.ok.inj answered)).symm
      case h_2 =>
        split at answered
        case isTrue => exact (congrArg Prod.fst (Except.ok.inj answered)).symm
        case isFalse =>
          exact (congrArg Prod.fst (Except.ok.inj answered)).symm
    rw [isState]
    cases isOverdue : row.isOverdue now with
    | true => exact Or.inr ⟨row, listed, isOverdue, by simp [expireIfRequired, isOverdue]⟩
    | false => exact Or.inl (by simp [expireIfRequired, isOverdue])

/-- A session that was polled is consumed. -/
theorem updatePairing_updatePairing
    {db : Database}
    {id : JsString}
    {first second : RunnerPairingSession → RunnerPairingSession}
    (keepsId : ∀ row, (first row).id = row.id) :
    (db.updatePairing id first).updatePairing id second =
      db.updatePairing id (second ∘ first) := by
  simp only [Database.updatePairing, updateMany, List.map_map]
  congr 1
  apply List.map_congr_left
  intro row _
  by_cases isRow : row.id = id
  · simp [isRow, keepsId]
  · simp [isRow]

variable {request : Request} {db db' : Database}

theorem createDevice_eq_ok
    {device : RunnerDevice}
    {credential : RunnerCredential}
    (created : db.createDevice device credential = .ok db') :
    db.deviceCollides device credential = false ∧
      db' =
        { db with
          devices := db.devices ++ [device]
          credentials := db.credentials ++ [credential] } := by
  obtain ⟨⟨⟩, isFree, isState⟩ := bind_eq_ok.mp created
  exact
    ⟨Bool.eq_false_of_not_eq_true (refuseIf_eq_ok.mp isFree),
      (Except.ok.inj isState).symm⟩

theorem pollWaiting_change
    {input : PollPairingInput}
    {db db' : Database}
    {row : RunnerPairingSession}
    {result : RunnerPollingResult}
    (listed : row ∈ db.pairingSessions)
    (isCall :
      request.call =
        .poll row.deviceCodeHash input.runnerDeviceId input.credentialId
          input.credentialHash)
    (isNow : input.now = request.now)
    (waits : row.status = .pending ∨ row.status = .approved)
    (notOverdue : row.isOverdue request.now = false)
    (answered : pollWaiting input db row = .ok (db', result)) :
    Change request db db' (.polled result) := by
  have notApproval :
      ∀ actorUserId workspaceId userCodeDigest,
        request.call ≠ .approve actorUserId workspaceId userCodeDigest := by
    simp [isCall]
  rw [pollWaiting, isNow] at answered
  split at answered
  case isTrue =>
    obtain ⟨rfl, rfl⟩ := Prod.mk.inj (Except.ok.inj answered)
    exact
      .moved listed (.slowsDown waits) trivial fun _ _ _ isApproval =>
        absurd isApproval (notApproval _ _ _)
  case isFalse =>
    dsimp only at answered
    split at answered
    case isTrue =>
      obtain ⟨rfl, rfl⟩ := Prod.mk.inj (Except.ok.inj answered)
      exact
        .moved listed (.polls waits) trivial fun _ _ _ isApproval =>
          absurd isApproval (notApproval _ _ _)
    case isFalse notPending =>
      obtain ⟨workspaceId, isForWorkspace, answered⟩ :=
        bind_eq_ok.mp answered
      obtain ⟨other, created, answered⟩ := bind_eq_ok.mp answered
      obtain ⟨isFree, rfl⟩ := createDevice_eq_ok created
      obtain ⟨rfl, rfl⟩ := Prod.mk.inj (Except.ok.inj answered)
      have isApproved := waits.resolve_left notPending
      have inTime : request.now < row.expiresAt := by
        simpa [RunnerPairingSession.isOverdue, isApproved] using notOverdue
      have isState :
          ({ db.updatePairing row.id
                (RunnerPairingSession.poll request.now) with
              devices := db.devices ++ [newDevice input row workspaceId]
              credentials := db.credentials ++ [input.credential] } :
                Database).updatePairing row.id
              (RunnerPairingSession.consume request.now) =
            db.issue input row workspaceId := by
        rw [Database.issue, isNow]
        have isUpdate :=
          @updatePairing_updatePairing db row.id
            (RunnerPairingSession.poll request.now)
            (RunnerPairingSession.consume request.now) fun _ => rfl
        exact
          congrArg
            (fun updated : Database =>
              ({ updated with
                  devices := db.devices ++ [newDevice input row workspaceId]
                  credentials := db.credentials ++ [input.credential] } :
                Database))
            isUpdate
      have isChange :=
        @Change.issued request db row input workspaceId
          row.pollIntervalSeconds listed isCall isNow isApproved
          (orThrow_eq_ok.mp isForWorkspace) inTime isFree
      rw [← isState] at isChange
      exact isChange

/-- A consumed session answers with its device within the window. -/
theorem redeliver_change
    {db : Database}
    {row : RunnerPairingSession}
    {runnerDeviceId credentialId credentialHash : JsString}
    (listed : row ∈ db.pairingSessions)
    (isCall :
      request.call =
        .poll row.deviceCodeHash runnerDeviceId credentialId
          credentialHash) :
    Change request db db (.polled (redeliver db row request.now)) := by
  rw [redeliver]
  split
  case h_1 => exact .none trivial
  case h_2 credentialDeliveryExpiresAt isWindow =>
    split
    case isTrue => exact .none trivial
    case isFalse notOver =>
      split
      case h_1 => exact .none trivial
      case h_2 device found =>
        obtain ⟨isDevice, ofSession⟩ := mem_of_findUnique found
        exact
          .redelivered listed isCall isDevice ofSession isWindow
            (Nat.le_of_not_lt notOver)

theorem pollPairing_change
    {input : PollPairingInput}
    {db db' : Database}
    {result : RunnerPollingResult}
    (distinct : (db.pairingSessions.map RunnerPairingSession.id).Nodup)
    (isCall :
      request.call =
        .poll input.deviceCodeHash input.runnerDeviceId input.credentialId
          input.credentialHash)
    (isNow : input.now = request.now)
    (answered : pollPairing input db = .ok (db', result)) :
    Change request db db' (.polled result) := by
  rw [pollPairing] at answered
  split at answered
  case h_1 =>
    obtain ⟨rfl, rfl⟩ := Prod.mk.inj (Except.ok.inj answered)
    exact .none trivial
  case h_2 row isLocked =>
    obtain ⟨listed, isCode⟩ := lockPairing_eq_some distinct isLocked
    rw [← isCode] at isCall
    cases isOverdue : row.isOverdue input.now with
    | true =>
        simp only [expireIfRequired, isOverdue, ↓reduceIte,
          RunnerPairingSession.expire] at answered
        obtain ⟨rfl, rfl⟩ := Prod.mk.inj (Except.ok.inj answered)
        rw [isNow] at isOverdue
        exact
          .moved listed (.expires isOverdue) trivial fun _ _ _ isApproval =>
            by simp [isCall] at isApproval
    | false =>
        simp only [expireIfRequired, isOverdue, Bool.false_eq_true,
          ↓reduceIte] at answered
        rw [isNow] at isOverdue
        split at answered
        case h_1 =>
          obtain ⟨rfl, rfl⟩ := Prod.mk.inj (Except.ok.inj answered)
          exact .none trivial
        case h_2 =>
          obtain ⟨rfl, rfl⟩ := Prod.mk.inj (Except.ok.inj answered)
          exact .none trivial
        case h_3 =>
          obtain ⟨rfl, rfl⟩ := Prod.mk.inj (Except.ok.inj answered)
          rw [isNow]
          exact redeliver_change listed isCall
        case h_4 isPending =>
          exact
            pollWaiting_change listed isCall isNow (Or.inl isPending)
              isOverdue answered
        case h_5 isApproved =>
          exact
            pollWaiting_change listed isCall isNow (Or.inr isApproved)
              isOverdue answered

/-- Whatever a request that does not throw does is one of the changes. -/
theorem perform_change
    {answer : Answer}
    (distinct : (db.pairingSessions.map RunnerPairingSession.id).Nodup)
    (answered : perform request db = .ok (db', answer)) :
    Change request db db' answer := by
  rw [perform] at answered
  split at answered
  case h_1 input isCall =>
    obtain ⟨⟨other, record⟩, created, answered⟩ := bind_eq_ok.mp answered
    obtain ⟨⟨⟩, isFree, created⟩ := bind_eq_ok.mp created
    obtain ⟨rfl, -⟩ := Prod.mk.inj (Except.ok.inj created)
    obtain ⟨rfl, rfl⟩ := Prod.mk.inj (Except.ok.inj answered)
    exact
      .created (Bool.eq_false_of_not_eq_true (refuseIf_eq_ok.mp isFree))
        trivial
  case h_2 actorUserId userCodeDigest isCall =>
    obtain ⟨⟨other, record⟩, inspected, answered⟩ := bind_eq_ok.mp answered
    obtain ⟨rfl, rfl⟩ := Prod.mk.inj (Except.ok.inj answered)
    rcases inspectPairing_eq_ok distinct inspected with
      rfl | ⟨row, listed, isOverdue, rfl⟩
    · exact .none trivial
    · exact
        .moved listed (.expires isOverdue) trivial fun _ _ _ isApproval => by
          simp [isCall] at isApproval
  case h_3 actorUserId workspaceId userCodeDigest isCall =>
    obtain ⟨⟨other, record⟩, approved, answered⟩ := bind_eq_ok.mp answered
    obtain ⟨rfl, rfl⟩ := Prod.mk.inj (Except.ok.inj answered)
    obtain ⟨isManager, row, listed, isCode, isPending, rfl, rfl⟩ :=
      decidePairing_eq_ok distinct approved
    rw [← isCode] at isCall
    exact
      .moved listed (.approves isCall isManager isPending) trivial
        fun _ _ _ _ => ⟨_, rfl, rfl⟩
  case h_4 actorUserId workspaceId userCodeDigest isCall =>
    obtain ⟨⟨other, record⟩, denied, answered⟩ := bind_eq_ok.mp answered
    obtain ⟨rfl, rfl⟩ := Prod.mk.inj (Except.ok.inj answered)
    obtain ⟨-, row, listed, -, isPending, rfl, rfl⟩ :=
      decidePairing_eq_ok distinct denied
    exact
      .moved listed (.denies isPending) trivial fun _ _ _ isApproval => by
        simp [isCall] at isApproval
  case h_5 deviceCodeHash runnerDeviceId credentialId credentialHash isCall =>
    obtain ⟨⟨other, result⟩, polled, answered⟩ := bind_eq_ok.mp answered
    obtain ⟨rfl, rfl⟩ := Prod.mk.inj (Except.ok.inj answered)
    exact pollPairing_change distinct isCall rfl polled

/-- What no update of a session changes. -/
structure SameSession (row row' : RunnerPairingSession) : Prop where
  id : row'.id = row.id
  deviceCodeHash : row'.deviceCodeHash = row.deviceCodeHash
  userCodeDigest : row'.userCodeDigest = row.userCodeDigest
  expiresAt : row'.expiresAt = row.expiresAt

theorem SessionMove.sameSession
    {request : Request}
    {row : RunnerPairingSession}
    {change : RunnerPairingSession → RunnerPairingSession}
    (move : SessionMove request row change)
    (other : RunnerPairingSession) :
    SameSession other (change other) := by
  cases move <;> exact ⟨rfl, rfl, rfl, rfl⟩

/-- Only a session that waits is updated. -/
theorem SessionMove.waits
    {request : Request}
    {row : RunnerPairingSession}
    {change : RunnerPairingSession → RunnerPairingSession}
    (move : SessionMove request row change) :
    row.status = .pending ∨ row.status = .approved := by
  cases move with
  | expires isOverdue =>
      simp only [RunnerPairingSession.isOverdue, decide_eq_true_eq]
        at isOverdue
      exact isOverdue.1
  | approves _ _ isPending => exact Or.inl isPending
  | denies isPending => exact Or.inl isPending
  | slowsDown waits => exact waits
  | polls waits => exact waits

/-- The statuses that end a session. -/
def RunnerPairingStatus.isFinal : RunnerPairingStatus → Bool
  | .pending => false
  | .approved => false
  | .denied => true
  | .expired => true
  | .consumed => true

theorem isFinal_of_waits
    {status : RunnerPairingStatus}
    (waits : status = .pending ∨ status = .approved) :
    status.isFinal = false := by
  rcases waits with rfl | rfl <;> rfl

variable {rows : List RunnerPairingSession}

/-- The rows after an update are the updated one and the others. -/
theorem mem_updateMany_id
    {row row' : RunnerPairingSession}
    {change : RunnerPairingSession → RunnerPairingSession}
    (distinct : (rows.map RunnerPairingSession.id).Nodup)
    (listed : row ∈ rows)
    (isRow :
      row' ∈ updateMany (fun other => other.id = row.id) change rows) :
    row' = change row ∨ (row' ∈ rows ∧ row'.id ≠ row.id) := by
  obtain ⟨other, isOther, rfl⟩ := List.mem_map.mp isRow
  by_cases sameId : other.id = row.id
  · left
    rw [eq_of_key distinct isOther listed sameId]
    simp
  · right
    simpa [sameId] using isOther

theorem mem_updateMany_of_ne
    {row other : RunnerPairingSession}
    {change : RunnerPairingSession → RunnerPairingSession}
    (isOther : other ∈ rows)
    (different : other.id ≠ row.id) :
    other ∈ updateMany (fun other => other.id = row.id) change rows :=
  List.mem_map.mpr ⟨other, isOther, by simp [different]⟩

theorem mem_updateMany_self
    {row : RunnerPairingSession}
    {change : RunnerPairingSession → RunnerPairingSession}
    (listed : row ∈ rows) :
    change row ∈ updateMany (fun other => other.id = row.id) change rows :=
  List.mem_map.mpr ⟨row, listed, by simp⟩

/-- An update that keeps a field of every session keeps it in the table. -/
theorem map_updateMany
    {α : Type}
    {rows : List RunnerPairingSession}
    {applies : RunnerPairingSession → Bool}
    {change : RunnerPairingSession → RunnerPairingSession}
    {field : RunnerPairingSession → α}
    (keeps : ∀ row, field (change row) = field row) :
    (updateMany applies change rows).map field = rows.map field := by
  rw [updateMany, List.map_map]
  apply List.map_congr_left
  intro row _
  by_cases isRow : applies row = true
  · simp [isRow, keeps]
  · simp [isRow]

/-- A manager of the workspace approved the session. -/
def ApprovedIn
    (past : List Request)
    (session : RunnerPairingSession)
    (workspaceId : JsString) :
    Prop :=
  ∃ earlier approval later actorUserId record,
    past = earlier ++ approval :: later ∧
      approval.call =
        .approve actorUserId workspaceId session.userCodeDigest ∧
      (∃ role ∈ approval.memberRole actorUserId workspaceId,
        role ∈ managerRoles) ∧
      answerAfter earlier approval = .ok (.record record) ∧
      record.id = session.id

/-- A poll in time, after an approval, was given the device. -/
def IssuedAt
    (past : List Request)
    (session : RunnerPairingSession)
    (device : RunnerDevice)
    (instant : Nat) :
    Prop :=
  ∃ earlier poll later credentialId credentialHash intervalSeconds,
    past = earlier ++ poll :: later ∧
      poll.now = instant ∧
      poll.call =
        .poll session.deviceCodeHash device.id credentialId credentialHash ∧
      answerAfter earlier poll =
        .ok
          (.polled
            (.paired device.id device.workspaceId intervalSeconds)) ∧
      instant < session.expiresAt ∧
      ApprovedIn earlier session device.workspaceId

variable {past : List Request} {db : Database}

theorem ApprovedIn.later
    {session session' : RunnerPairingSession}
    {workspaceId : JsString}
    (approved : ApprovedIn past session workspaceId)
    (same : SameSession session session')
    (request : Request) :
    ApprovedIn (past ++ [request]) session' workspaceId := by
  obtain ⟨earlier, approval, later, actorUserId, record, rfl, isCall,
    isManager, isAnswer, isRecord⟩ := approved
  rw [← same.userCodeDigest] at isCall
  rw [← same.id] at isRecord
  exact
    ⟨earlier, approval, later ++ [request], actorUserId, record, by simp,
      isCall, isManager, isAnswer, isRecord⟩

theorem IssuedAt.later
    {session : RunnerPairingSession}
    {device : RunnerDevice}
    {instant : Nat}
    (issued : IssuedAt past session device instant)
    (request : Request) :
    IssuedAt (past ++ [request]) session device instant := by
  obtain ⟨earlier, poll, later, credentialId, credentialHash,
    intervalSeconds, rfl, facts⟩ := issued
  exact
    ⟨earlier, poll, later ++ [request], credentialId, credentialHash,
      intervalSeconds, by simp, facts⟩

/-- The invariant: the tables, and the requests that led to them. -/
structure Consistent (past : List Request) (db : Database) : Prop where
  sessionIds : (db.pairingSessions.map RunnerPairingSession.id).Nodup
  deviceCodes :
    (db.pairingSessions.map RunnerPairingSession.deviceCodeHash).Nodup
  oneDevice : (db.devices.map RunnerDevice.pairingSessionId).Nodup
  approved :
    ∀ session ∈ db.pairingSessions,
      session.status = .approved →
        ∃ workspaceId,
          session.workspaceId = some workspaceId ∧
            ApprovedIn past session workspaceId
  issued :
    ∀ device ∈ db.devices,
      ∃ session ∈ db.pairingSessions,
        session.id = device.pairingSessionId ∧
          session.status = .consumed ∧
          ∃ instant,
            session.credentialDeliveryExpiresAt =
                some (instant + credentialDeliveryWindowSeconds * 1000) ∧
              IssuedAt past session device instant

theorem consistent_empty : Consistent [] Database.empty :=
  { sessionIds := List.nodup_nil
    deviceCodes := List.nodup_nil
    oneDevice := List.nodup_nil
    approved := by simp [Database.empty]
    issued := by simp [Database.empty] }

/-- More requests change nothing about what has happened. -/
theorem Consistent.later
    (consistent : Consistent past db)
    (request : Request) :
    Consistent (past ++ [request]) db := by
  constructor
  case sessionIds => exact consistent.sessionIds
  case deviceCodes => exact consistent.deviceCodes
  case oneDevice => exact consistent.oneDevice
  case approved =>
    intro session listed isApproved
    obtain ⟨workspaceId, isForWorkspace, approvedIn⟩ :=
      consistent.approved session listed isApproved
    exact
      ⟨workspaceId, isForWorkspace,
        approvedIn.later ⟨rfl, rfl, rfl, rfl⟩ request⟩
  case issued =>
    intro device isDevice
    obtain ⟨session, listed, ofSession, isConsumed, instant, isWindow,
      issuedAt⟩ := consistent.issued device isDevice
    exact
      ⟨session, listed, ofSession, isConsumed, instant, isWindow,
        issuedAt.later request⟩

variable {db db' : Database} {request : Request} {row : RunnerPairingSession}

/-- A consumed session is not the one that is updated. -/
theorem Consistent.deviceSession_stays
    {change : RunnerPairingSession → RunnerPairingSession}
    (consistent : Consistent past db)
    (listed : row ∈ db.pairingSessions)
    (waits : row.status = .pending ∨ row.status = .approved)
    {session : RunnerPairingSession}
    (isSession : session ∈ db.pairingSessions)
    (isFinal : session.status.isFinal = true) :
    session ∈
      updateMany (fun other => other.id = row.id) change
        db.pairingSessions := by
  apply mem_updateMany_of_ne isSession
  intro sameId
  rw [eq_of_key consistent.sessionIds isSession listed sameId,
    isFinal_of_waits waits] at isFinal
  cases isFinal

theorem Consistent.created
    {input : CreatePairingInput}
    (consistent : Consistent past db)
    (isFree : input.isTaken db = false) :
    Consistent past
      { db with pairingSessions := db.pairingSessions ++ [input.row] } := by
  have isFree' :
      ∀ row ∈ db.pairingSessions,
        row.id ≠ input.id ∧ row.deviceCodeHash ≠ input.deviceCodeHash := by
    intro row listed
    have notTaken :=
      List.any_eq_false.mp isFree row listed
    simp only [decide_eq_true_eq, not_or] at notTaken
    exact ⟨notTaken.1, notTaken.2.1⟩
  constructor
  case sessionIds =>
    apply nodup_map_concat consistent.sessionIds
    intro row listed
    exact (isFree' row listed).1
  case deviceCodes =>
    apply nodup_map_concat consistent.deviceCodes
    intro row listed
    exact (isFree' row listed).2
  case oneDevice => exact consistent.oneDevice
  case approved =>
    intro session listed isApproved
    rcases List.mem_append.mp listed with isOld | isNew
    · exact consistent.approved session isOld isApproved
    · rw [List.mem_singleton.mp isNew] at isApproved
      cases isApproved
  case issued =>
    intro device isDevice
    obtain ⟨session, listed, facts⟩ := consistent.issued device isDevice
    exact ⟨session, List.mem_append_left _ listed, facts⟩

theorem Consistent.moved
    {answer : Answer}
    {row : RunnerPairingSession}
    {change : RunnerPairingSession → RunnerPairingSession}
    (consistent : Consistent past db)
    (isState : db = stateAfter past)
    (answered : perform request db = .ok (db', answer))
    (listed : row ∈ db.pairingSessions)
    (move : SessionMove request row change)
    (isRecord :
      ∀ actorUserId workspaceId userCodeDigest,
        request.call = .approve actorUserId workspaceId userCodeDigest →
          ∃ record, answer = .record record ∧ record.id = row.id) :
    Consistent (past ++ [request]) (db.updatePairing row.id change) := by
  constructor
  case sessionIds =>
    rw [Database.updatePairing,
      map_updateMany fun other => (move.sameSession other).id]
    exact consistent.sessionIds
  case deviceCodes =>
    rw [Database.updatePairing,
      map_updateMany fun other => (move.sameSession other).deviceCodeHash]
    exact consistent.deviceCodes
  case oneDevice => exact consistent.oneDevice
  case approved =>
    intro session isSession isApproved
    rcases mem_updateMany_id consistent.sessionIds listed isSession with
      rfl | ⟨isOld, -⟩
    · have same := move.sameSession row
      cases move with
      | expires => cases isApproved
      | @approves actorUserId workspaceId isCall isManager isPending =>
          obtain ⟨record, rfl, sameId⟩ := isRecord _ _ _ isCall
          refine ⟨workspaceId, rfl, ?_⟩
          refine
            ⟨past, request, [], actorUserId, record, rfl, isCall, isManager,
              ?_, sameId⟩
          rw [answerAfter, ← isState, transact_of_ok answered]
      | denies => cases isApproved
      | slowsDown =>
          obtain ⟨workspaceId, isForWorkspace, approvedIn⟩ :=
            consistent.approved row listed isApproved
          exact ⟨workspaceId, isForWorkspace, approvedIn.later same request⟩
      | polls =>
          obtain ⟨workspaceId, isForWorkspace, approvedIn⟩ :=
            consistent.approved row listed isApproved
          exact ⟨workspaceId, isForWorkspace, approvedIn.later same request⟩
    · obtain ⟨workspaceId, isForWorkspace, approvedIn⟩ :=
        consistent.approved session isOld isApproved
      exact
        ⟨workspaceId, isForWorkspace,
          approvedIn.later ⟨rfl, rfl, rfl, rfl⟩ request⟩
  case issued =>
    intro device isDevice
    obtain ⟨session, isSession, ofSession, isConsumed, instant, isWindow,
      issuedAt⟩ := consistent.issued device isDevice
    have isFinal : session.status.isFinal = true := by rw [isConsumed]; rfl
    exact
      ⟨session,
        consistent.deviceSession_stays listed move.waits isSession isFinal,
        ofSession, isConsumed, instant, isWindow, issuedAt.later request⟩

/-- The device that a poll creates was approved for its workspace. -/
theorem Consistent.issued_now
    {input : PollPairingInput}
    {workspaceId : JsString}
    {intervalSeconds : Nat}
    (consistent : Consistent past db)
    (isState : db = stateAfter past)
    (answered :
      perform request db =
        .ok
          (db',
            .polled
              (.paired input.runnerDeviceId workspaceId intervalSeconds)))
    (listed : row ∈ db.pairingSessions)
    (isCall :
      request.call =
        .poll row.deviceCodeHash input.runnerDeviceId input.credentialId
          input.credentialHash)
    (isApproved : row.status = .approved)
    (isForWorkspace : row.workspaceId = some workspaceId)
    (inTime : request.now < row.expiresAt) :
    IssuedAt (past ++ [request]) row (newDevice input row workspaceId)
      request.now := by
  obtain ⟨other, isOther, approvedIn⟩ :=
    consistent.approved row listed isApproved
  rw [isForWorkspace] at isOther
  cases isOther
  refine
    ⟨past, request, [], input.credentialId, input.credentialHash,
      intervalSeconds, rfl, rfl, isCall, ?_, inTime, approvedIn⟩
  rw [answerAfter, ← isState, transact_of_ok answered]
  rfl

theorem Consistent.afterIssue
    {input : PollPairingInput}
    {workspaceId : JsString}
    {intervalSeconds : Nat}
    (consistent : Consistent past db)
    (isState : db = stateAfter past)
    (answered :
      perform request db =
        .ok
          (db',
            .polled
              (.paired input.runnerDeviceId workspaceId intervalSeconds)))
    (listed : row ∈ db.pairingSessions)
    (isCall :
      request.call =
        .poll row.deviceCodeHash input.runnerDeviceId input.credentialId
          input.credentialHash)
    (isNow : input.now = request.now)
    (isApproved : row.status = .approved)
    (isForWorkspace : row.workspaceId = some workspaceId)
    (inTime : request.now < row.expiresAt)
    (isFree :
      db.deviceCollides (newDevice input row workspaceId)
        input.credential = false) :
    Consistent (past ++ [request]) (db.issue input row workspaceId) := by
  constructor
  case sessionIds =>
    have keepsId :
        ∀ other : RunnerPairingSession,
          ((RunnerPairingSession.consume input.now ∘
            RunnerPairingSession.poll input.now) other).id = other.id :=
      fun _ => rfl
    rw [Database.issue, map_updateMany keepsId]
    exact consistent.sessionIds
  case deviceCodes =>
    have keepsCode :
        ∀ other : RunnerPairingSession,
          ((RunnerPairingSession.consume input.now ∘
              RunnerPairingSession.poll input.now) other).deviceCodeHash =
            other.deviceCodeHash :=
      fun _ => rfl
    rw [Database.issue, map_updateMany keepsCode]
    exact consistent.deviceCodes
  case oneDevice =>
    apply nodup_map_concat consistent.oneDevice
    intro device isDevice sameSession
    have noCollision :=
      List.any_eq_false.mp (Bool.or_eq_false_iff.mp isFree).1 device isDevice
    simp only [decide_eq_true_eq, not_or] at noCollision
    exact noCollision.2.1 sameSession
  case approved =>
    intro session isSession isApproved'
    rcases mem_updateMany_id consistent.sessionIds listed isSession with
      rfl | ⟨isOld, -⟩
    · cases isApproved'
    · exact (consistent.later request).approved session isOld isApproved'
  case issued =>
    intro device isDevice
    rcases List.mem_append.mp isDevice with isOld | isNew
    · obtain ⟨session, isSession, ofSession, isConsumed, facts⟩ :=
        (consistent.later request).issued device isOld
      have isFinal : session.status.isFinal = true := by rw [isConsumed]; rfl
      exact
        ⟨session,
          consistent.deviceSession_stays listed (Or.inr isApproved)
            isSession isFinal,
          ofSession, isConsumed, facts⟩
    · rw [List.mem_singleton.mp isNew]
      have issuedAt :=
        consistent.issued_now isState answered listed isCall isApproved
          isForWorkspace inTime
      exact
        ⟨_, mem_updateMany_self listed, rfl, rfl, request.now,
          by simp [RunnerPairingSession.consume, isNow], issuedAt⟩

theorem Consistent.next
    (consistent : Consistent past (stateAfter past))
    (request : Request) :
    Consistent (past ++ [request]) (stateAfter (past ++ [request])) := by
  rw [stateAfter_concat, Pairing.next]
  cases outcome : perform request (stateAfter past) with
  | error failure =>
      rw [transact_of_error outcome]
      exact consistent.later request
  | ok result =>
      obtain ⟨db', answer⟩ := result
      rw [transact_of_ok outcome]
      cases perform_change consistent.sessionIds outcome with
      | none => exact consistent.later request
      | created isFree =>
          exact (consistent.created isFree).later request
      | moved listed move _ isRecord =>
          exact consistent.moved rfl outcome listed move isRecord
      | issued listed isCall isNow isApproved isForWorkspace inTime isFree =>
          exact
            consistent.afterIssue rfl outcome listed isCall isNow isApproved
              isForWorkspace inTime isFree
      | redelivered => exact consistent.later request

theorem consistent_stateAfter (past : List Request) :
    Consistent past (stateAfter past) := by
  induction past using List.reverseRecOn with
  | nil => exact consistent_empty
  | append_singleton past request inductionHypothesis =>
      exact inductionHypothesis.next request

/-- The code of a session that a call gives. -/
def Call.givesCodeOf (call : Call) (session : RunnerPairingSession) : Prop :=
  match call with
  | .create _ => True
  | .inspect _ userCodeDigest => session.userCodeDigest = userCodeDigest
  | .approve _ _ userCodeDigest => session.userCodeDigest = userCodeDigest
  | .deny _ _ userCodeDigest => session.userCodeDigest = userCodeDigest
  | .poll deviceCodeHash _ _ _ => session.deviceCodeHash = deviceCodeHash

/-- A call with a code, which no session has. -/
def Call.HasUnknownCode (call : Call) (db : Database) : Prop :=
  (∀ input, call ≠ .create input) ∧
    ∀ session ∈ db.pairingSessions, ¬call.givesCodeOf session

structure PairingLaw (past : List Request) : Prop where
  sessionIds :
    ((stateAfter past).pairingSessions.map RunnerPairingSession.id).Nodup
  deviceCodes :
    ((stateAfter past).pairingSessions.map
      RunnerPairingSession.deviceCodeHash).Nodup
  /-- No two devices come from one session. -/
  oneDevice :
    ∀ device ∈ (stateAfter past).devices,
      ∀ other ∈ (stateAfter past).devices,
        device.pairingSessionId = other.pairingSessionId → device = other
  /-- Every device was issued in time for the workspace of an approval. -/
  issued :
    ∀ device ∈ (stateAfter past).devices,
      ∃ session ∈ (stateAfter past).pairingSessions,
        session.id = device.pairingSessionId ∧
          ∃ instant, IssuedAt past session device instant
  /-- Denied, expired and consumed sessions, and all devices, stay. -/
  final :
    ∀ later,
      (∀ session ∈ (stateAfter past).pairingSessions,
          session.status.isFinal = true →
            session ∈ (stateAfter (past ++ later)).pairingSessions) ∧
        (stateAfter past).devices ⊆ (stateAfter (past ++ later)).devices
  /-- A paired poll names the device of its session, within the window. -/
  paired :
    ∀ request runnerDeviceId workspaceId intervalSeconds,
      answerAfter past request =
          .ok
            (.polled (.paired runnerDeviceId workspaceId intervalSeconds)) →
        ∃ session ∈ (stateAfter (past ++ [request])).pairingSessions,
          request.call.givesCodeOf session ∧
            ∃ device ∈ (stateAfter (past ++ [request])).devices,
              device.pairingSessionId = session.id ∧
                device.id = runnerDeviceId ∧
                device.workspaceId = workspaceId ∧
                ∃ instant,
                  IssuedAt (past ++ [request]) session device instant ∧
                    request.now ≤
                      instant + credentialDeliveryWindowSeconds * 1000
  /-- Failures and unknown codes change nothing. -/
  harmless :
    ∀ request,
      ((∃ failure, answerAfter past request = .error failure) ∨
          request.call.HasUnknownCode (stateAfter past)) →
        stateAfter (past ++ [request]) = stateAfter past

/-- A request leaves the ended sessions and the devices. -/
theorem Consistent.keeps
    {past : List Request}
    {db : Database}
    (consistent : Consistent past db)
    (request : Request) :
    (∀ session ∈ db.pairingSessions,
        session.status.isFinal = true →
          session ∈ (Pairing.next db request).pairingSessions) ∧
      db.devices ⊆ (Pairing.next db request).devices := by
  rw [Pairing.next]
  cases outcome : perform request db with
  | error failure =>
      rw [transact_of_error outcome]
      exact ⟨fun _ listed _ => listed, List.Subset.refl _⟩
  | ok result =>
      obtain ⟨db', answer⟩ := result
      rw [transact_of_ok outcome]
      cases perform_change consistent.sessionIds outcome with
      | none => exact ⟨fun _ listed _ => listed, List.Subset.refl _⟩
      | created =>
          exact
            ⟨fun _ listed _ => List.mem_append_left _ listed,
              List.Subset.refl _⟩
      | moved listed move =>
          exact
            ⟨fun _ isSession isFinal =>
                consistent.deviceSession_stays listed move.waits isSession
                  isFinal,
              List.Subset.refl _⟩
      | issued listed _ _ isApproved =>
          exact
            ⟨fun _ isSession isFinal =>
                consistent.deviceSession_stays listed (Or.inr isApproved)
                  isSession isFinal,
              List.subset_append_left _ _⟩
      | redelivered => exact ⟨fun _ listed _ => listed, List.Subset.refl _⟩

theorem stateAfter_keeps (past later : List Request) :
    (∀ session ∈ (stateAfter past).pairingSessions,
        session.status.isFinal = true →
          session ∈ (stateAfter (past ++ later)).pairingSessions) ∧
      (stateAfter past).devices ⊆ (stateAfter (past ++ later)).devices := by
  induction later using List.reverseRecOn with
  | nil =>
      rw [List.append_nil]
      exact ⟨fun _ listed _ => listed, List.Subset.refl _⟩
  | append_singleton later request inductionHypothesis =>
      have kept :=
        (consistent_stateAfter (past ++ later)).keeps request
      rw [← List.append_assoc, stateAfter_concat]
      constructor
      · intro session listed isFinal
        exact
          kept.1 session (inductionHypothesis.1 session listed isFinal)
            isFinal
      · exact List.Subset.trans inductionHypothesis.2 kept.2

/-- A poll that is answered with a device has just created it, or finds it. -/
theorem Consistent.paired
    {past : List Request}
    (consistent : Consistent past (stateAfter past))
    {request : Request}
    {runnerDeviceId workspaceId : JsString}
    {intervalSeconds : Nat}
    (isAnswer :
      answerAfter past request =
        .ok (.polled (.paired runnerDeviceId workspaceId intervalSeconds))) :
    ∃ session ∈ (stateAfter (past ++ [request])).pairingSessions,
      request.call.givesCodeOf session ∧
        ∃ device ∈ (stateAfter (past ++ [request])).devices,
          device.pairingSessionId = session.id ∧
            device.id = runnerDeviceId ∧
            device.workspaceId = workspaceId ∧
            ∃ instant,
              IssuedAt (past ++ [request]) session device instant ∧
                request.now ≤
                  instant + credentialDeliveryWindowSeconds * 1000 := by
  rw [stateAfter_concat, Pairing.next]
  rw [answerAfter] at isAnswer
  cases outcome : perform request (stateAfter past) with
  | error failure =>
      rw [transact_of_error outcome] at isAnswer
      cases isAnswer
  | ok result =>
      obtain ⟨db', answer⟩ := result
      rw [transact_of_ok outcome] at isAnswer ⊢
      cases Except.ok.inj isAnswer
      cases perform_change consistent.sessionIds outcome with
      | none namesNoDevice => exact namesNoDevice.elim
      | created _ namesNoDevice => exact namesNoDevice.elim
      | moved _ _ namesNoDevice => exact namesNoDevice.elim
      | @issued row input _ _ listed isCall isNow isApproved isForWorkspace
          inTime isFree =>
          have issuedAt :=
            consistent.issued_now rfl outcome listed isCall isApproved
              isForWorkspace inTime
          exact
            ⟨_, mem_updateMany_self listed,
              by rw [isCall]; exact rfl,
              newDevice input row workspaceId,
              List.mem_append_right _ (List.mem_singleton_self _), rfl, rfl,
              rfl, request.now, issuedAt, Nat.le_add_right _ _⟩
      | @redelivered row device _ credentialDeliveryExpiresAt _ _ _ listed
          isCall isDevice ofSession isWindow inWindow =>
          obtain ⟨session, isSession, isOf, -, instant, isWindow', issuedAt⟩ :=
            consistent.issued device isDevice
          have sameSession : session = row :=
            eq_of_key consistent.sessionIds isSession listed
              (isOf.trans ofSession)
          rw [sameSession] at issuedAt isWindow'
          rw [isWindow] at isWindow'
          cases isWindow'
          exact
            ⟨row, listed, by rw [isCall]; exact rfl, device, isDevice,
              ofSession, rfl, rfl, instant, issuedAt.later request, inWindow⟩

/-- A call with a code that no session has finds none. -/
theorem next_of_unknownCode
    {db : Database}
    {request : Request}
    (unknown : request.call.HasUnknownCode db) :
    Pairing.next db request = db := by
  obtain ⟨notCreate, noSession⟩ := unknown
  rw [Pairing.next]
  cases outcome : perform request db with
  | error failure => rw [transact_of_error outcome]
  | ok result =>
      obtain ⟨db', answer⟩ := result
      rw [transact_of_ok outcome]
      rw [perform] at outcome
      split at outcome
      case h_1 input isCall => exact absurd isCall (notCreate input)
      case h_2 actorUserId userCodeDigest isCall =>
        rw [isCall] at noSession
        rw [inspectPairing, Database.lockPairingByUserCode,
          lockPairing_eq_none noSession] at outcome
        exact (congrArg Prod.fst (Except.ok.inj outcome)).symm
      case h_3 actorUserId workspaceId userCodeDigest isCall =>
        rw [isCall] at noSession
        obtain ⟨_, approved, -⟩ := bind_eq_ok.mp outcome
        obtain ⟨_, -, approved⟩ := bind_eq_ok.mp approved
        rw [Database.lockPairingByUserCode,
          lockPairing_eq_none noSession] at approved
        cases approved
      case h_4 actorUserId workspaceId userCodeDigest isCall =>
        rw [isCall] at noSession
        obtain ⟨_, denied, -⟩ := bind_eq_ok.mp outcome
        obtain ⟨_, -, denied⟩ := bind_eq_ok.mp denied
        rw [Database.lockPairingByUserCode,
          lockPairing_eq_none noSession] at denied
        cases denied
      case h_5 deviceCodeHash _ _ _ isCall =>
        rw [isCall] at noSession
        rw [pollPairing, Database.lockPairingByDeviceCode,
          lockPairing_eq_none noSession] at outcome
        exact (congrArg Prod.fst (Except.ok.inj outcome)).symm

/--
Requests of any users and runners, in any order and at any times, keep the law
of pairing.
-/
theorem requests_pairingLaw (past : List Request) : PairingLaw past := by
  have consistent := consistent_stateAfter past
  constructor
  case sessionIds => exact consistent.sessionIds
  case deviceCodes => exact consistent.deviceCodes
  case oneDevice =>
    intro device isDevice other isOther sameSession
    exact eq_of_key consistent.oneDevice isDevice isOther sameSession
  case issued =>
    intro device isDevice
    obtain ⟨session, listed, ofSession, -, instant, -, issuedAt⟩ :=
      consistent.issued device isDevice
    exact ⟨session, listed, ofSession, instant, issuedAt⟩
  case final =>
    intro later
    exact stateAfter_keeps past later
  case paired =>
    intro request runnerDeviceId workspaceId intervalSeconds isAnswer
    exact consistent.paired isAnswer
  case harmless =>
    intro request isHarmless
    rw [stateAfter_concat]
    rcases isHarmless with ⟨failure, threw⟩ | unknown
    · rw [answerAfter] at threw
      rw [Pairing.next]
      cases outcome : perform request (stateAfter past) with
      | error failure => rw [transact_of_error outcome]
      | ok result =>
          rw [transact_of_ok outcome] at threw
          cases threw
    · exact next_of_unknownCode unknown

end TaskTwin.Pairing
