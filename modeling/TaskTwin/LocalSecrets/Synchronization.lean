import TaskTwin.LocalSecrets.Vault
import TaskTwin.Store.Table
import TaskTwin.Store.Transaction

/-!
# Synchronizing secret inventories

A runner tells the server which secrets its vault holds, or only that the
vault cannot be read.  The server keeps one inventory for each runner, and
recomputes the digest of what it is told.
-/

namespace TaskTwin.LocalSecrets

open Text Schema Store

structure LocalSecretInventorySnapshot where
  vaultId : JsString
  vaultRevision : Nat
  inventoryDigest : JsString
  entries : List LocalSecretInventoryEntry
  deriving DecidableEq

/-- `LocalSecretInventorySnapshotSchema`. -/
def LocalSecretInventorySnapshot.parses
    (snapshot : LocalSecretInventorySnapshot) :
    Bool :=
  isUuid snapshot.vaultId && 1 ≤ snapshot.vaultRevision &&
    snapshot.vaultRevision ≤ maxVaultRevision &&
    isSha256Hex snapshot.inventoryDigest &&
    snapshot.entries.length ≤ maxLocalSecretRecords &&
    snapshot.entries.all LocalSecretInventoryEntry.parses &&
    (snapshot.entries.map LocalSecretInventoryEntry.secretAlias).Nodup &&
    (snapshot.entries.map LocalSecretInventoryEntry.secretVersionId).Nodup

def vaultSnapshot
    (collation : Collation)
    (vault : LocalSecretVault) :
    LocalSecretInventorySnapshot :=
  { vaultId := vault.vaultId
    vaultRevision := vault.revision
    inventoryDigest := vault.inventoryDigest
    entries := inventoryEntriesFromVault collation vault }

/-- `none` when the schema of snapshots throws. -/
def buildLocalSecretInventorySnapshot
    (collation : Collation)
    (vault : LocalSecretVault) :
    Option LocalSecretInventorySnapshot :=
  let snapshot := vaultSnapshot collation vault
  if snapshot.parses then some snapshot else none

inductive LocalSecretStoreStatus where
  | ready
  | locked
  | unavailable
  | corrupted
  deriving DecidableEq, Repr

inductive LocalSecretInventorySyncRequest where
  | snapshot (snapshot : LocalSecretInventorySnapshot)
  | statusReport (storeStatus : LocalSecretStoreStatus)
  deriving DecidableEq

/-- `LocalSecretInventorySyncRequestSchema`. -/
def LocalSecretInventorySyncRequest.parses :
    LocalSecretInventorySyncRequest → Bool
  | .snapshot sent => sent.parses
  | .statusReport storeStatus => storeStatus ≠ .ready

structure RunnerDevice where
  id : JsString
  workspaceId : JsString
  isRevoked : Bool
  deriving DecidableEq

/-- Instants are milliseconds. -/
structure RunnerSecretInventory where
  runnerDeviceId : JsString
  workspaceId : JsString
  vaultId : JsString
  vaultRevision : Nat
  storeStatus : LocalSecretStoreStatus
  inventoryDigest : JsString
  lastSynchronizedAt : Nat
  entries : List LocalSecretInventoryEntry
  deriving DecidableEq

/-- The inventories, of which each runner has at most one. -/
structure InventoryTable where
  rows : List RunnerSecretInventory
  keys : (rows.map RunnerSecretInventory.runnerDeviceId).Nodup

/-- `update`, of the inventory of a runner. -/
def InventoryTable.update
    (table : InventoryTable)
    (row : RunnerSecretInventory) :
    InventoryTable where
  rows :=
    updateMany (fun other => other.runnerDeviceId = row.runnerDeviceId)
      (fun _ => row) table.rows
  keys := by
    apply nodup_map_of_keeps _ table.keys
    intro other
    by_cases isRow : other.runnerDeviceId = row.runnerDeviceId
    · simp [isRow]
    · simp [isRow]

/-- `create`; `none` when the runner or the vault has an inventory. -/
def InventoryTable.create
    (table : InventoryTable)
    (row : RunnerSecretInventory) :
    Option InventoryTable :=
  if keys :
      ((table.rows ++ [row]).map RunnerSecretInventory.runnerDeviceId).Nodup
  then
    if ((table.rows ++ [row]).map RunnerSecretInventory.vaultId).Nodup then
      some { rows := table.rows ++ [row], keys }
    else none
  else none

/-- The event `runner.secret_inventory.updated`. -/
structure SecretInventoryUpdated where
  workspaceId : JsString
  runnerDeviceId : JsString
  occurredAt : Nat
  sourceId : JsString
  previousRevision : Nat
  newRevision : Nat
  configuredSecretCount : Nat
  inventoryDigest : JsString
  deriving DecidableEq

structure InventoryDatabase (Trail : Type) where
  devices : List RunnerDevice
  inventories : InventoryTable
  trail : Trail

inductive SynchronizeFailure where
  | runnerUnavailable
  | inventoryNotInitialized
  | inventoryInvalid
  | inventoryRevisionConflict
  | inventoryRollbackDetected
  | vaultIdentityConflict
  /-- The store refuses a key that is taken. -/
  | uniqueConstraint
  /-- The audit trail refuses an event. -/
  | audit
  deriving DecidableEq, Repr

/-- A call by a runner that has been authenticated. -/
structure SynchronizeCall where
  runnerDeviceId : JsString
  workspaceId : JsString
  request : LocalSecretInventorySyncRequest
  databaseNow : Nat
  /-- The locale of the server that answers. -/
  collation : Collation

structure RunnerSecretInventorySyncResult where
  inventory : RunnerSecretInventory
  idempotent : Bool
  deriving DecidableEq

/-- `toRecord`. -/
def toRecord
    (collation : Collation)
    (row : RunnerSecretInventory) :
    RunnerSecretInventory :=
  { row with
    entries :=
      collation.sort LocalSecretInventoryEntry.secretAlias row.entries }

/-- The inventory of a runner that sends its first snapshot. -/
def SynchronizeCall.createdRow
    (call : SynchronizeCall)
    (snapshot : LocalSecretInventorySnapshot) :
    RunnerSecretInventory :=
  { runnerDeviceId := call.runnerDeviceId
    workspaceId := call.workspaceId
    vaultId := snapshot.vaultId
    vaultRevision := snapshot.vaultRevision
    storeStatus := .ready
    inventoryDigest := snapshot.inventoryDigest
    lastSynchronizedAt := call.databaseNow
    entries := snapshot.entries }

/-- `updateInventory`. -/
def updateInventory
    (call : SynchronizeCall)
    (snapshot : LocalSecretInventorySnapshot)
    (existing : RunnerSecretInventory) :
    RunnerSecretInventory :=
  { existing with
    vaultRevision := snapshot.vaultRevision
    storeStatus := .ready
    inventoryDigest := snapshot.inventoryDigest
    lastSynchronizedAt := call.databaseNow
    entries := snapshot.entries }

/-- A row of which only the status is new. -/
def RunnerSecretInventory.reported
    (row : RunnerSecretInventory)
    (storeStatus : LocalSecretStoreStatus)
    (databaseNow : Nat) :
    RunnerSecretInventory :=
  { row with
    storeStatus
    lastSynchronizedAt := databaseNow }

def SynchronizeCall.event
    (call : SynchronizeCall)
    (snapshot : LocalSecretInventorySnapshot)
    (previousRevision : Nat) :
    SecretInventoryUpdated :=
  { workspaceId := call.workspaceId
    runnerDeviceId := call.runnerDeviceId
    occurredAt := call.databaseNow
    sourceId :=
      js "runner-secret-inventory:" ++ call.runnerDeviceId ++
        unit ':' :: decimalText snapshot.vaultRevision
    previousRevision
    newRevision := snapshot.vaultRevision
    configuredSecretCount := snapshot.entries.length
    inventoryDigest := snapshot.inventoryDigest }

/-- What the server takes a snapshot to be the inventory of. -/
def SynchronizeCall.inventory
    (call : SynchronizeCall)
    (snapshot : LocalSecretInventorySnapshot) :
    LocalSecretInventory :=
  { vaultId := snapshot.vaultId
    workspaceId := call.workspaceId
    runnerDeviceId := call.runnerDeviceId
    vaultRevision := snapshot.vaultRevision
    entries := snapshot.entries }

variable
  {Trail : Type}
  (append : Trail → SecretInventoryUpdated → Option Trail)
  (digests : LocalSecretDigestProvider)

/-- The branches of `synchronize` that create or change an inventory. -/
def storeSnapshot
    (call : SynchronizeCall)
    (snapshot : LocalSecretInventorySnapshot)
    (db : InventoryDatabase Trail) :
    Option RunnerSecretInventory →
      Except SynchronizeFailure
        (InventoryDatabase Trail × RunnerSecretInventorySyncResult)
  | none => do
      let row := call.createdRow snapshot
      let inventories ← orThrow .uniqueConstraint (db.inventories.create row)
      let trail ← orThrow .audit (append db.trail (call.event snapshot 0))
      .ok
        ({ db with inventories, trail },
          { inventory := toRecord call.collation row, idempotent := false })
  | some existing =>
      if snapshot.vaultRevision = existing.vaultRevision then
        let row := existing.reported .ready call.databaseNow
        .ok
          ({ db with inventories := db.inventories.update row },
            { inventory := toRecord call.collation row, idempotent := true })
      else do
        let row := updateInventory call snapshot existing
        let trail ←
          orThrow .audit
            (append db.trail (call.event snapshot existing.vaultRevision))
        .ok
          ({ db with inventories := db.inventories.update row, trail },
            { inventory := toRecord call.collation row, idempotent := false })

def synchronizeSnapshot
    (call : SynchronizeCall)
    (snapshot : LocalSecretInventorySnapshot)
    (existing : Option RunnerSecretInventory)
    (db : InventoryDatabase Trail) :
    Except SynchronizeFailure
      (InventoryDatabase Trail × RunnerSecretInventorySyncResult) := do
  let calculated :=
    createLocalSecretInventoryDigest call.collation digests
      (call.inventory snapshot)
  refuseIf (calculated ≠ snapshot.inventoryDigest) .inventoryInvalid
  refuseIf (∃ row ∈ existing, row.vaultId ≠ snapshot.vaultId)
    .vaultIdentityConflict
  refuseIf (∃ row ∈ existing, snapshot.vaultRevision < row.vaultRevision)
    .inventoryRollbackDetected
  refuseIf
    (∃ row ∈ existing,
      snapshot.vaultRevision = row.vaultRevision ∧
        snapshot.inventoryDigest ≠ row.inventoryDigest)
    .inventoryRevisionConflict
  storeSnapshot append call snapshot db existing

def reportStatus
    (call : SynchronizeCall)
    (storeStatus : LocalSecretStoreStatus)
    (existing : Option RunnerSecretInventory)
    (db : InventoryDatabase Trail) :
    Except SynchronizeFailure
      (InventoryDatabase Trail × RunnerSecretInventorySyncResult) := do
  let existing ← orThrow .inventoryNotInitialized existing
  let row := existing.reported storeStatus call.databaseNow
  .ok
    ({ db with inventories := db.inventories.update row },
      { inventory := toRecord call.collation row, idempotent := true })

def synchronize
    (call : SynchronizeCall)
    (db : InventoryDatabase Trail) :
    Except SynchronizeFailure
      (InventoryDatabase Trail × RunnerSecretInventorySyncResult) := do
  refuseIf (call.request.parses = false) .inventoryInvalid
  refuseIf
    (¬∃ device ∈ db.devices,
      device.id = call.runnerDeviceId ∧
        device.workspaceId = call.workspaceId ∧ device.isRevoked = false)
    .runnerUnavailable
  let existing :=
    findUnique RunnerSecretInventory.runnerDeviceId call.runnerDeviceId
      db.inventories.rows
  match call.request with
  | .statusReport storeStatus => reportStatus call storeStatus existing db
  | .snapshot snapshot =>
      synchronizeSnapshot append digests call snapshot existing db

/-- What happens to the inventories of a server. -/
inductive InventoryEvent where
  | synchronize (call : SynchronizeCall)
  /-- Runners are paired, moved or revoked. -/
  | changeDevices (devices : List RunnerDevice)

def stepInventory
    (db : InventoryDatabase Trail) :
    InventoryEvent → InventoryDatabase Trail
  | .synchronize call => (transact (synchronize append digests call) db).1
  | .changeDevices devices => { db with devices }

def runInventory
    (db : InventoryDatabase Trail)
    (events : List InventoryEvent) :
    InventoryDatabase Trail :=
  events.foldl (stepInventory append digests) db

/-- The mutations of a vault, with what they encrypt and protect. -/
inductive VaultChange where
  | setSecret
      (record : EncryptedLocalSecretRecord)
      (protection : LocalSecretMasterKeyProtection)
      (timestamp : JsString)
  | removeSecret
      (secretAlias : JsString)
      (protection : LocalSecretMasterKeyProtection)
      (timestamp : JsString)
  | migrateProtectorToNative
      (protectedKey : JsString)
      (timestamp : JsString)

/-- What a mutation asks of the vault that it changes. -/
def VaultChange.Allowed (current : LocalSecretVault) : VaultChange → Prop
  | .setSecret .. => True
  | .removeSecret secretAlias .. =>
      secretAlias ∈ current.records.map EncryptedLocalSecretRecord.secretAlias
  | .migrateProtectorToNative .. =>
      current.masterKeyProtection.profile = .passphrase

variable (collation : Collation)

/-- The revision that a mutation writes. -/
def VaultChange.next
    (current : LocalSecretVault) :
    VaultChange → LocalSecretVault
  | .setSecret record protection timestamp =>
      let records := setRecord collation current record
      nextVault collation digests current records
        (records.map EncryptedLocalSecretRecord.entry) protection timestamp
  | .removeSecret secretAlias protection timestamp =>
      let records := removeRecord current secretAlias
      nextVault collation digests current records
        (records.map EncryptedLocalSecretRecord.entry) protection timestamp
  | .migrateProtectorToNative protectedKey timestamp =>
      nextVault collation digests current current.records
        (inventoryEntriesFromVault collation current)
        (.windowsNative protectedKey) timestamp

/-- A vault written under one locale, with its earlier revisions. -/
inductive VaultHistory : LocalSecretVault → List LocalSecretVault → Prop where
  | create
      (vaultId workspaceId runnerDeviceId createdAt : JsString)
      (protection : LocalSecretMasterKeyProtection)
      (parses :
        (initialVault collation digests vaultId workspaceId runnerDeviceId
          createdAt protection).parses = true) :
      VaultHistory
        (initialVault collation digests vaultId workspaceId runnerDeviceId
          createdAt protection)
        []
  | change
      {current : LocalSecretVault}
      {past : List LocalSecretVault}
      (history : VaultHistory current past)
      (change : VaultChange)
      (asserted : assertInventoryDigest collation digests current = true)
      (allowed : change.Allowed current)
      (parses : (change.next digests collation current).parses = true) :
      VaultHistory (change.next digests collation current) (current :: past)

end TaskTwin.LocalSecrets
