import TaskTwin.Audit.CanonicalJson
import TaskTwin.Schema.Unknown
import TaskTwin.Text.Collation

/-!
# Local secret vaults

The vault of a runner holds encrypted secrets under aliases.  Its digest covers
the inventory: the aliases with the versions of their secrets, in the order of
the locale of whoever computes the digest.
-/

namespace TaskTwin.LocalSecrets

open Text Schema

/-- `MAX_SECRET_REFERENCE_NAME_LENGTH`. -/
def maxSecretReferenceNameLength : Nat := 80

/-- `MAX_LOCAL_SECRET_RECORDS`. -/
def maxLocalSecretRecords : Nat := 1000

/-- `MAX_NATIVE_PROTECTED_KEY_BYTES`. -/
def maxNativeProtectedKeyBytes : Nat := 16 * 1024

/-- The largest revision that the schemas accept. -/
def maxVaultRevision : Nat := 2147483647

def isLetter (symbol : CodeUnit) : Bool :=
  CodeUnit.isLower symbol || CodeUnit.isUpper symbol

/-- `[A-Za-z0-9_-]`. -/
def isTokenSymbol (symbol : CodeUnit) : Bool :=
  isAlphanumeric symbol || symbol == unit '_' || symbol == unit '-'

/-- `IdentifierSchema`, which trims the text that it checks. -/
def isIdentifier (text : JsString) : Bool :=
  let trimmed := trimText text
  trimmed.length ≤ 128 &&
    beginsAndContinues
      (fun symbol => isLetter symbol || symbol == unit '_')
      (fun symbol => isAlphanumeric symbol || symbol == unit '_')
      trimmed

/-- `[A-Za-z0-9_-]{12,}$`. -/
def isTokenRest (rest : JsString) : Bool :=
  12 ≤ rest.length && rest.all isTokenSymbol

/-- The prefixes of `KNOWN_TOKEN_PREFIX_PATTERN`. -/
def knownTokenPrefixes : List JsString :=
  ["ghp_", "gho_", "ghu_", "ghs_", "ghr_", "sk-", "xoxb-", "xoxa-", "xoxp-",
    "xoxr-", "xoxs-", "AKIA"].map js

/-- `KNOWN_TOKEN_PREFIX_PATTERN`. -/
def hasKnownTokenPrefix (value : JsString) : Bool :=
  knownTokenPrefixes.any fun start =>
    start.isPrefixOf value && isTokenRest (value.drop start.length)

/-- `LONG_TOKEN_PATTERN`. -/
def isLongToken (value : JsString) : Bool :=
  40 ≤ value.length &&
    value.all fun symbol =>
      isTokenSymbol symbol || symbol == unit '+' || symbol == unit '/' ||
        symbol == unit '='

/--
`isSafeSecretAlias`.  White space around an identifier is kept.  What trims to
an identifier has no `@`, `.`, `:` or `=`, so the patterns for addresses,
tokens with dots, assignments and credentials in URLs match none.
-/
def isSafeSecretAlias (value : JsString) : Bool :=
  value.length ≤ maxSecretReferenceNameLength && isIdentifier value &&
    !hasKnownTokenPrefix value && !isLongToken value

/-- `LocalSecretAliasSchema`. -/
def isLocalSecretAlias (value : JsString) : Bool :=
  hasLength 1 maxSecretReferenceNameLength value && isSafeSecretAlias value

/-- `LocalSecretBase64UrlSchema`, with a bound on the length. -/
def isBase64Url (maximum : Nat) (text : JsString) : Bool :=
  hasLength 1 maximum text && text.all isTokenSymbol

structure LocalSecretInventoryEntry where
  secretAlias : JsString
  secretVersionId : JsString
  deriving DecidableEq

def LocalSecretInventoryEntry.parses (entry : LocalSecretInventoryEntry) :
    Bool :=
  isLocalSecretAlias entry.secretAlias && isUuid entry.secretVersionId

inductive LocalSecretMasterKeyProtection where
  /-- `local_secret_master_key_wrap_v1`. -/
  | passphrase (salt iv ciphertext : JsString)
  /-- `windows_dpapi_ng_machine_v1`. -/
  | windowsNative (protectedKey : JsString)
  deriving DecidableEq

inductive ProtectorProfile where
  | passphrase
  | windowsNative
  deriving DecidableEq, Repr

def LocalSecretMasterKeyProtection.profile :
    LocalSecretMasterKeyProtection → ProtectorProfile
  | .passphrase .. => .passphrase
  | .windowsNative .. => .windowsNative

/-- `LocalSecretMasterKeyProtectionSchema`. -/
def LocalSecretMasterKeyProtection.parses :
    LocalSecretMasterKeyProtection → Bool
  | .passphrase salt iv ciphertext =>
      isBase64Url 128 salt && isBase64Url 64 iv && isBase64Url 256 ciphertext
  | .windowsNative protectedKey =>
      isBase64Url ((maxNativeProtectedKeyBytes * 4 + 2) / 3 + 4) protectedKey

structure EncryptedLocalSecretRecord where
  secretAlias : JsString
  recordId : JsString
  secretVersionId : JsString
  iv : JsString
  ciphertext : JsString
  createdAt : JsString
  updatedAt : JsString
  deriving DecidableEq

def EncryptedLocalSecretRecord.entry (record : EncryptedLocalSecretRecord) :
    LocalSecretInventoryEntry :=
  { secretAlias := record.secretAlias
    secretVersionId := record.secretVersionId }

def EncryptedLocalSecretRecord.parses (record : EncryptedLocalSecretRecord) :
    Bool :=
  isLocalSecretAlias record.secretAlias && isUuid record.recordId &&
    isUuid record.secretVersionId && isBase64Url 64 record.iv &&
    isBase64Url (32 * 1024) record.ciphertext &&
    isDateTime record.createdAt && isDateTime record.updatedAt

structure LocalSecretVault where
  vaultId : JsString
  workspaceId : JsString
  runnerDeviceId : JsString
  revision : Nat
  inventoryDigest : JsString
  masterKeyProtection : LocalSecretMasterKeyProtection
  records : List EncryptedLocalSecretRecord
  createdAt : JsString
  updatedAt : JsString
  deriving DecidableEq

/-- `LocalSecretVaultSchema`. -/
def LocalSecretVault.parses (vault : LocalSecretVault) : Bool :=
  isUuid vault.vaultId && isUuid vault.workspaceId &&
    isUuid vault.runnerDeviceId && 1 ≤ vault.revision &&
    vault.revision ≤ maxVaultRevision && isSha256Hex vault.inventoryDigest &&
    vault.masterKeyProtection.parses &&
    vault.records.length ≤ maxLocalSecretRecords &&
    vault.records.all EncryptedLocalSecretRecord.parses &&
    isDateTime vault.createdAt && isDateTime vault.updatedAt &&
    (vault.records.map EncryptedLocalSecretRecord.secretAlias).Nodup &&
    (vault.records.map EncryptedLocalSecretRecord.recordId).Nodup &&
    (vault.records.map EncryptedLocalSecretRecord.secretVersionId).Nodup

/-- What `LocalSecretVaultSchema` asks for. -/
structure LocalSecretVault.IsParsed (vault : LocalSecretVault) : Prop where
  isVaultId : isUuid vault.vaultId = true
  isWorkspaceId : isUuid vault.workspaceId = true
  isRunnerDeviceId : isUuid vault.runnerDeviceId = true
  positive : 1 ≤ vault.revision
  bounded : vault.revision ≤ maxVaultRevision
  isDigest : isSha256Hex vault.inventoryDigest = true
  protection : vault.masterKeyProtection.parses = true
  few : vault.records.length ≤ maxLocalSecretRecords
  records : vault.records.all EncryptedLocalSecretRecord.parses = true
  isCreatedAt : isDateTime vault.createdAt = true
  isUpdatedAt : isDateTime vault.updatedAt = true
  aliases :
    (vault.records.map EncryptedLocalSecretRecord.secretAlias).Nodup
  recordIds :
    (vault.records.map EncryptedLocalSecretRecord.recordId).Nodup
  versions :
    (vault.records.map EncryptedLocalSecretRecord.secretVersionId).Nodup

theorem LocalSecretVault.parses_iff {vault : LocalSecretVault} :
    vault.parses = true ↔ vault.IsParsed := by
  simp only [LocalSecretVault.parses, Bool.and_eq_true, decide_eq_true_eq]
  constructor
  · rintro ⟨⟨⟨⟨⟨⟨⟨⟨⟨⟨⟨⟨⟨isVaultId, isWorkspaceId⟩, isRunnerDeviceId⟩,
      positive⟩, bounded⟩, isDigest⟩, protection⟩, few⟩, records⟩,
      isCreatedAt⟩, isUpdatedAt⟩, aliases⟩, recordIds⟩, versions⟩
    exact
      ⟨isVaultId, isWorkspaceId, isRunnerDeviceId, positive, bounded,
        isDigest, protection, few, records, isCreatedAt, isUpdatedAt, aliases,
        recordIds, versions⟩
  · intro parsed
    exact
      ⟨⟨⟨⟨⟨⟨⟨⟨⟨⟨⟨⟨⟨parsed.isVaultId, parsed.isWorkspaceId⟩,
        parsed.isRunnerDeviceId⟩, parsed.positive⟩, parsed.bounded⟩,
        parsed.isDigest⟩, parsed.protection⟩, parsed.few⟩, parsed.records⟩,
        parsed.isCreatedAt⟩, parsed.isUpdatedAt⟩, parsed.aliases⟩,
        parsed.recordIds⟩, parsed.versions⟩

structure LocalSecretInventory where
  vaultId : JsString
  workspaceId : JsString
  runnerDeviceId : JsString
  vaultRevision : Nat
  entries : List LocalSecretInventoryEntry
  deriving DecidableEq

/-- `LocalSecretDigestProvider`, whose digests are hexadecimal. -/
structure LocalSecretDigestProvider where
  sha256Hex : JsString → JsString
  isHex : ∀ input, isSha256Hex (sha256Hex input) = true

def LocalSecretInventoryEntry.json (entry : LocalSecretInventoryEntry) : Json :=
  .object
    [(js "alias", .string entry.secretAlias),
      (js "secretVersionId", .string entry.secretVersionId)]

variable (collation : Collation)

/-- The inventory with its entries in the order of a locale. -/
def LocalSecretInventory.json (inventory : LocalSecretInventory) : Json :=
  .object
    [(js "schemaVersion", .integer 1),
      (js "profile", .string (js "local_secret_inventory_v1")),
      (js "vaultId", .string inventory.vaultId),
      (js "workspaceId", .string inventory.workspaceId),
      (js "runnerDeviceId", .string inventory.runnerDeviceId),
      (js "vaultRevision", .integer inventory.vaultRevision),
      (js "entries",
        .array
          ((collation.sort LocalSecretInventoryEntry.secretAlias
            inventory.entries).map LocalSecretInventoryEntry.json))]

/-- `serializeLocalSecretCanonicalJson` writes what the audit trail writes. -/
def canonicalizeLocalSecretInventory (inventory : LocalSecretInventory) :
    JsString :=
  Audit.serialize (inventory.json collation)

variable (digests : LocalSecretDigestProvider)

def createLocalSecretInventoryDigest (inventory : LocalSecretInventory) :
    JsString :=
  digests.sha256Hex (canonicalizeLocalSecretInventory collation inventory)

def inventoryEntriesFromVault (vault : LocalSecretVault) :
    List LocalSecretInventoryEntry :=
  collation.sort LocalSecretInventoryEntry.secretAlias
    (vault.records.map EncryptedLocalSecretRecord.entry)

def LocalSecretVault.inventory (vault : LocalSecretVault) :
    LocalSecretInventory :=
  { vaultId := vault.vaultId
    workspaceId := vault.workspaceId
    runnerDeviceId := vault.runnerDeviceId
    vaultRevision := vault.revision
    entries := inventoryEntriesFromVault collation vault }

/-- `assertInventoryDigest` does not throw. -/
def assertInventoryDigest (vault : LocalSecretVault) : Bool :=
  createLocalSecretInventoryDigest collation digests
      (vault.inventory collation) ==
    vault.inventoryDigest

/-- The first revision of a vault. -/
def initialVault
    (vaultId workspaceId runnerDeviceId createdAt : JsString)
    (protection : LocalSecretMasterKeyProtection) :
    LocalSecretVault :=
  { vaultId
    workspaceId
    runnerDeviceId
    revision := 1
    inventoryDigest :=
      createLocalSecretInventoryDigest collation digests
        { vaultId
          workspaceId
          runnerDeviceId
          vaultRevision := 1
          entries := [] }
    masterKeyProtection := protection
    records := []
    createdAt
    updatedAt := createdAt }

/-- The digest of the revision after a vault. -/
def nextInventoryDigest
    (current : LocalSecretVault)
    (entries : List LocalSecretInventoryEntry) :
    JsString :=
  createLocalSecretInventoryDigest collation digests
    { vaultId := current.vaultId
      workspaceId := current.workspaceId
      runnerDeviceId := current.runnerDeviceId
      vaultRevision := current.revision + 1
      entries }

/-- What `commitMutation` and the migration write after a vault. -/
def nextVault
    (current : LocalSecretVault)
    (records : List EncryptedLocalSecretRecord)
    (entries : List LocalSecretInventoryEntry)
    (protection : LocalSecretMasterKeyProtection)
    (timestamp : JsString) :
    LocalSecretVault :=
  { current with
    revision := current.revision + 1
    inventoryDigest := nextInventoryDigest collation digests current entries
    masterKeyProtection := protection
    records
    updatedAt := timestamp }

/-- The records after `setSecret`. -/
def setRecord
    (current : LocalSecretVault)
    (record : EncryptedLocalSecretRecord) :
    List EncryptedLocalSecretRecord :=
  collation.sort EncryptedLocalSecretRecord.secretAlias
    ((current.records.filter fun item => item.secretAlias ≠ record.secretAlias) ++
      [record])

/-- The records after `removeSecret`. -/
def removeRecord
    (current : LocalSecretVault)
    (secretAlias : JsString) :
    List EncryptedLocalSecretRecord :=
  current.records.filter fun record => record.secretAlias ≠ secretAlias

end TaskTwin.LocalSecrets
