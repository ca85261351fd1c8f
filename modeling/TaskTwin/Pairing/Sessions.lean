import TaskTwin.Lifecycle.Rows

/-!
# Pairing sessions

A manager of a workspace approves or denies the session of a runner, and the
first poll after the approval creates the runner device with its credential.
Each method is one serializable transaction.
-/

namespace TaskTwin.Pairing

open Text Store
open TaskTwin.Lifecycle (OrganizationRole)

/-- `MAX_POLL_INTERVAL_SECONDS`. -/
def maxPollIntervalSeconds : Nat := 30

/-- `POLL_SLOW_DOWN_INCREMENT_SECONDS`. -/
def pollSlowDownIncrementSeconds : Nat := 5

/-- `CREDENTIAL_DELIVERY_WINDOW_SECONDS`. -/
def credentialDeliveryWindowSeconds : Nat := 120

/-- `MANAGER_ROLES`. -/
def managerRoles : List OrganizationRole := [.owner, .admin]

inductive RunnerPairingStatus where
  | pending
  | approved
  | denied
  | expired
  | consumed
  deriving DecidableEq, Repr

structure RunnerDeviceMetadata where
  displayName : JsString
  platform : JsString
  architecture : JsString
  runnerVersion : JsString
  installationId : JsString
  deriving DecidableEq

/-- Instants are milliseconds. -/
structure RunnerPairingSession where
  id : JsString
  deviceCodeHash : JsString
  userCodeDigest : JsString
  status : RunnerPairingStatus
  metadata : RunnerDeviceMetadata
  expiresAt : Nat
  pollIntervalSeconds : Nat
  lastPolledAt : Option Nat
  workspaceId : Option JsString
  approvedById : Option JsString
  approvedAt : Option Nat
  deniedById : Option JsString
  deniedAt : Option Nat
  consumedAt : Option Nat
  credentialDeliveryExpiresAt : Option Nat
  deriving DecidableEq

structure RunnerDevice where
  id : JsString
  workspaceId : JsString
  pairingSessionId : JsString
  metadata : RunnerDeviceMetadata
  deriving DecidableEq

/-- The unique index of the installations. -/
def RunnerDevice.installationId (device : RunnerDevice) : JsString :=
  device.metadata.installationId

structure RunnerCredential where
  id : JsString
  runnerDeviceId : JsString
  credentialHash : JsString
  deriving DecidableEq

structure Database where
  pairingSessions : List RunnerPairingSession
  devices : List RunnerDevice
  credentials : List RunnerCredential
  deriving DecidableEq

/-- The role of a user in the organization of a workspace. -/
abbrev MemberRole := JsString → JsString → Option OrganizationRole

inductive RunnerRepositoryErrorCode where
  | pairingUnavailable
  | pairingConflict
  | pairingCodeCollision
  | workspaceNotFound
  | runnerForbidden
  deriving DecidableEq, Repr

structure RunnerPairingRecord where
  id : JsString
  status : RunnerPairingStatus
  metadata : RunnerDeviceMetadata
  workspaceId : Option JsString
  expiresAt : Nat
  pollIntervalSeconds : Nat
  deriving DecidableEq

def toPairingRecord (row : RunnerPairingSession) : RunnerPairingRecord :=
  { id := row.id
    status := row.status
    metadata := row.metadata
    workspaceId := row.workspaceId
    expiresAt := row.expiresAt
    pollIntervalSeconds := row.pollIntervalSeconds }

inductive RunnerPollingResult where
  | authorizationPending (intervalSeconds : Nat)
  | slowDown (intervalSeconds : Nat)
  | accessDenied
  | expired
  | paired
      (runnerDeviceId workspaceId : JsString)
      (intervalSeconds : Nat)
  deriving DecidableEq

/-- `runnerPairingSession.update` of the session with an id. -/
def Database.updatePairing
    (db : Database)
    (id : JsString)
    (change : RunnerPairingSession → RunnerPairingSession) :
    Database :=
  { db with
    pairingSessions :=
      updateMany (fun row => row.id = id) change db.pairingSessions }

def RunnerPairingSession.expire
    (row : RunnerPairingSession) :
    RunnerPairingSession :=
  { row with status := .expired }

/-- The session waits for an answer or a poll, and its time is over. -/
def RunnerPairingSession.isOverdue
    (row : RunnerPairingSession)
    (now : Nat) :
    Bool :=
  (row.status = .pending ∨ row.status = .approved) ∧ row.expiresAt ≤ now

/-- The session after the lazy expiry, and the table that holds it. -/
def expireIfRequired
    (db : Database)
    (row : RunnerPairingSession)
    (now : Nat) :
    Database × RunnerPairingSession :=
  if row.isOverdue now then
    (db.updatePairing row.id RunnerPairingSession.expire, row.expire)
  else
    (db, row)

/-- The session that is locked by one of its codes, read again by its id. -/
def Database.lockPairing
    (db : Database)
    (code : RunnerPairingSession → JsString)
    (digest : JsString) :
    Option RunnerPairingSession :=
  (db.pairingSessions.find? fun row => code row = digest).bind fun row =>
    findUnique RunnerPairingSession.id row.id db.pairingSessions

def Database.lockPairingByUserCode
    (db : Database)
    (digest : JsString) :
    Option RunnerPairingSession :=
  db.lockPairing RunnerPairingSession.userCodeDigest digest

def Database.lockPairingByDeviceCode
    (db : Database)
    (digest : JsString) :
    Option RunnerPairingSession :=
  db.lockPairing RunnerPairingSession.deviceCodeHash digest

def requireManager
    (memberRole : MemberRole)
    (userId workspaceId : JsString) :
    Except RunnerRepositoryErrorCode Unit := do
  let role ← orThrow .workspaceNotFound (memberRole userId workspaceId)
  refuseIf (role ∉ managerRoles) .runnerForbidden

structure CreatePairingInput where
  id : JsString
  deviceCodeHash : JsString
  userCodeDigest : JsString
  metadata : RunnerDeviceMetadata
  expiresAt : Nat
  pollIntervalSeconds : Nat
  deriving DecidableEq

def CreatePairingInput.row
    (input : CreatePairingInput) :
    RunnerPairingSession :=
  { id := input.id
    deviceCodeHash := input.deviceCodeHash
    userCodeDigest := input.userCodeDigest
    status := .pending
    metadata := input.metadata
    expiresAt := input.expiresAt
    pollIntervalSeconds := input.pollIntervalSeconds
    lastPolledAt := none
    workspaceId := none
    approvedById := none
    approvedAt := none
    deniedById := none
    deniedAt := none
    consumedAt := none
    credentialDeliveryExpiresAt := none }

/-- A unique index of the sessions holds a value of the created one. -/
def CreatePairingInput.isTaken
    (input : CreatePairingInput)
    (db : Database) :
    Bool :=
  db.pairingSessions.any fun row =>
    row.id = input.id ∨
      row.deviceCodeHash = input.deviceCodeHash ∨
      row.userCodeDigest = input.userCodeDigest

def createPairingSession
    (input : CreatePairingInput)
    (db : Database) :
    Except RunnerRepositoryErrorCode (Database × RunnerPairingRecord) := do
  refuseIf (input.isTaken db) .pairingCodeCollision
  .ok
    ({ db with pairingSessions := db.pairingSessions ++ [input.row] },
      toPairingRecord input.row)

def inspectPairing
    (memberRole : MemberRole)
    (actorUserId userCodeDigest : JsString)
    (now : Nat)
    (db : Database) :
    Except RunnerRepositoryErrorCode
      (Database × Option RunnerPairingRecord) :=
  match db.lockPairingByUserCode userCodeDigest with
  | none => .ok (db, none)
  | some row =>
      let (db, current) := expireIfRequired db row now
      match current.workspaceId with
      | none => .ok (db, some (toPairingRecord current))
      | some workspaceId =>
          if memberRole actorUserId workspaceId = none then .ok (db, none)
          else .ok (db, some (toPairingRecord current))

def RunnerPairingSession.approve
    (actorUserId workspaceId : JsString)
    (now : Nat)
    (row : RunnerPairingSession) :
    RunnerPairingSession :=
  { row with
    status := .approved
    workspaceId := some workspaceId
    approvedById := some actorUserId
    approvedAt := some now }

def RunnerPairingSession.deny
    (actorUserId workspaceId : JsString)
    (now : Nat)
    (row : RunnerPairingSession) :
    RunnerPairingSession :=
  { row with
    status := .denied
    workspaceId := some workspaceId
    deniedById := some actorUserId
    deniedAt := some now }

/-- `approvePairing` and `denyPairing` differ in what they write. -/
def decidePairing
    (decide :
      JsString → JsString → Nat → RunnerPairingSession →
        RunnerPairingSession)
    (memberRole : MemberRole)
    (actorUserId workspaceId userCodeDigest : JsString)
    (now : Nat)
    (db : Database) :
    Except RunnerRepositoryErrorCode (Database × RunnerPairingRecord) := do
  requireManager memberRole actorUserId workspaceId
  let row ←
    orThrow .pairingUnavailable (db.lockPairingByUserCode userCodeDigest)
  let (db, current) := expireIfRequired db row now
  refuseIf (current.status ≠ .pending) .pairingConflict
  .ok
    (db.updatePairing current.id (decide actorUserId workspaceId now),
      toPairingRecord (decide actorUserId workspaceId now current))

def approvePairing :
    MemberRole → JsString → JsString → JsString → Nat → Database →
      Except RunnerRepositoryErrorCode (Database × RunnerPairingRecord) :=
  decidePairing RunnerPairingSession.approve

def denyPairing :
    MemberRole → JsString → JsString → JsString → Nat → Database →
      Except RunnerRepositoryErrorCode (Database × RunnerPairingRecord) :=
  decidePairing RunnerPairingSession.deny

structure PollPairingInput where
  deviceCodeHash : JsString
  runnerDeviceId : JsString
  credentialId : JsString
  credentialHash : JsString
  now : Nat
  deriving DecidableEq

/-- The last poll was less than the interval ago. -/
def RunnerPairingSession.polledTooSoon
    (row : RunnerPairingSession)
    (now : Nat) :
    Bool :=
  row.lastPolledAt.any fun lastPolledAt =>
    now < lastPolledAt + row.pollIntervalSeconds * 1000

def slowedInterval (pollIntervalSeconds : Nat) : Nat :=
  min maxPollIntervalSeconds
    (pollIntervalSeconds + pollSlowDownIncrementSeconds)

def RunnerPairingSession.slowDown
    (now : Nat)
    (row : RunnerPairingSession) :
    RunnerPairingSession :=
  { row with
    lastPolledAt := some now
    pollIntervalSeconds := slowedInterval row.pollIntervalSeconds }

def RunnerPairingSession.poll
    (now : Nat)
    (row : RunnerPairingSession) :
    RunnerPairingSession :=
  { row with lastPolledAt := some now }

def RunnerPairingSession.consume
    (now : Nat)
    (row : RunnerPairingSession) :
    RunnerPairingSession :=
  { row with
    status := .consumed
    consumedAt := some now
    credentialDeliveryExpiresAt :=
      some (now + credentialDeliveryWindowSeconds * 1000) }

/-- The answer about a session that has been consumed. -/
def redeliver
    (db : Database)
    (current : RunnerPairingSession)
    (now : Nat) :
    RunnerPollingResult :=
  match current.credentialDeliveryExpiresAt with
  | none => .expired
  | some credentialDeliveryExpiresAt =>
      if credentialDeliveryExpiresAt < now then .expired
      else
        match
          findUnique RunnerDevice.pairingSessionId current.id db.devices
        with
        | none => .expired
        | some device =>
            .paired device.id device.workspaceId current.pollIntervalSeconds

def newDevice
    (input : PollPairingInput)
    (session : RunnerPairingSession)
    (workspaceId : JsString) :
    RunnerDevice :=
  { id := input.runnerDeviceId
    workspaceId
    pairingSessionId := session.id
    metadata := session.metadata }

def PollPairingInput.credential
    (input : PollPairingInput) :
    RunnerCredential :=
  { id := input.credentialId
    runnerDeviceId := input.runnerDeviceId
    credentialHash := input.credentialHash }

/-- A unique index of the devices or of the credentials is violated. -/
def Database.deviceCollides
    (db : Database)
    (device : RunnerDevice)
    (credential : RunnerCredential) :
    Bool :=
  (db.devices.any fun other =>
      other.id = device.id ∨
        other.pairingSessionId = device.pairingSessionId ∨
        other.installationId = device.installationId) ||
    db.credentials.any fun other =>
      other.id = credential.id ∨
        other.runnerDeviceId = credential.runnerDeviceId ∨
        other.credentialHash = credential.credentialHash

/-- `runnerDevice.create` with its credential. -/
def Database.createDevice
    (db : Database)
    (device : RunnerDevice)
    (credential : RunnerCredential) :
    Except RunnerRepositoryErrorCode Database := do
  refuseIf (db.deviceCollides device credential) .pairingConflict
  .ok
    { db with
      devices := db.devices ++ [device]
      credentials := db.credentials ++ [credential] }

/-- The polls of a session that waits for its runner. -/
def pollWaiting
    (input : PollPairingInput)
    (db : Database)
    (current : RunnerPairingSession) :
    Except RunnerRepositoryErrorCode (Database × RunnerPollingResult) :=
  if current.polledTooSoon input.now then
    .ok
      (db.updatePairing current.id (RunnerPairingSession.slowDown input.now),
        .slowDown (slowedInterval current.pollIntervalSeconds))
  else do
    let db :=
      db.updatePairing current.id (RunnerPairingSession.poll input.now)
    if current.status = .pending then
      .ok (db, .authorizationPending current.pollIntervalSeconds)
    else
      let workspaceId ← orThrow .pairingConflict current.workspaceId
      let db ←
        db.createDevice (newDevice input current workspaceId)
          input.credential
      .ok
        (db.updatePairing current.id
            (RunnerPairingSession.consume input.now),
          .paired input.runnerDeviceId workspaceId
            current.pollIntervalSeconds)

def pollPairing
    (input : PollPairingInput)
    (db : Database) :
    Except RunnerRepositoryErrorCode (Database × RunnerPollingResult) :=
  match db.lockPairingByDeviceCode input.deviceCodeHash with
  | none => .ok (db, .expired)
  | some row =>
      let (db, current) := expireIfRequired db row input.now
      match current.status with
      | .denied => .ok (db, .accessDenied)
      | .expired => .ok (db, .expired)
      | .consumed => .ok (db, redeliver db current input.now)
      | .pending | .approved => pollWaiting input db current

end TaskTwin.Pairing
