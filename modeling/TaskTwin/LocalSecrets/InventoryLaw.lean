import TaskTwin.LocalSecrets.Synchronization

/-!
# One inventory for the runner and the server

The digest of a vault comes out the same when the locale of the reader puts
the aliases in the order in which the locale of the writer has stored them.
The server keeps one revision of the vault as a whole, and never goes back.
-/

namespace TaskTwin.LocalSecrets

open Text Schema Store

section Digests

variable {digests : LocalSecretDigestProvider}

theorem LocalSecretInventoryEntry.json_injective
    {first second : LocalSecretInventoryEntry}
    (same : first.json.Same second.json) :
    first = second := by
  have distinct : [js "alias", js "secretVersionId"].Nodup := by decide
  have sameAlias :=
    Json.sameField (js "alias") same List.mem_cons_self List.mem_cons_self
      distinct
  have sameVersion :=
    Json.sameField (js "secretVersionId") same
      (List.mem_cons_of_mem _ List.mem_cons_self)
      (List.mem_cons_of_mem _ List.mem_cons_self) distinct
  cases first
  cases second
  exact LocalSecretInventoryEntry.mk.injEq .. ▸
    ⟨Json.sameString sameAlias, Json.sameString sameVersion⟩

theorem entries_of_sameArray
    {entries entries' : List LocalSecretInventoryEntry}
    (same :
      Json.Same (.array (entries.map LocalSecretInventoryEntry.json))
        (.array (entries'.map LocalSecretInventoryEntry.json))) :
    entries = entries' := by
  cases same with
  | array same =>
      have related :=
        List.forall₂_map_left_iff.mp (List.forall₂_map_right_iff.mp same)
      have equal := related.imp fun _ _ same =>
        LocalSecretInventoryEntry.json_injective same
      rwa [List.forall₂_eq_eq_eq] at equal

def inventoryKeys : List JsString :=
  [js "schemaVersion", js "profile", js "vaultId", js "workspaceId",
    js "runnerDeviceId", js "vaultRevision", js "entries"]

/-- Texts that are the same list the same entries in the same order. -/
theorem sortedEntries_of_sameText
    {collation collation' : Collation}
    {inventory inventory' : LocalSecretInventory}
    (sameText :
      canonicalizeLocalSecretInventory collation inventory =
        canonicalizeLocalSecretInventory collation' inventory') :
    collation.sort LocalSecretInventoryEntry.secretAlias inventory.entries =
      collation'.sort LocalSecretInventoryEntry.secretAlias
        inventory'.entries := by
  have distinct : inventoryKeys.Nodup := by decide
  have same := Audit.serialize_injective sameText
  apply entries_of_sameArray
  refine Json.sameField (js "entries") same ?_ ?_ distinct
  · iterate 6 apply List.mem_cons_of_mem
    exact List.mem_cons_self
  · iterate 6 apply List.mem_cons_of_mem
    exact List.mem_cons_self

/-- The text depends on the entries only through their order. -/
theorem canonicalize_congr
    {collation collation' : Collation}
    {inventory : LocalSecretInventory}
    {entries : List LocalSecretInventoryEntry}
    (sameOrder :
      collation.sort LocalSecretInventoryEntry.secretAlias inventory.entries =
        collation'.sort LocalSecretInventoryEntry.secretAlias entries) :
    canonicalizeLocalSecretInventory collation inventory =
      canonicalizeLocalSecretInventory collation'
        { inventory with entries } := by
  unfold canonicalizeLocalSecretInventory LocalSecretInventory.json
  rw [sameOrder]

/-- The digest depends on the entries only through their order. -/
theorem createDigest_congr
    {collation : Collation}
    {inventory : LocalSecretInventory}
    {entries : List LocalSecretInventoryEntry}
    (sameOrder :
      collation.sort LocalSecretInventoryEntry.secretAlias inventory.entries =
        collation.sort LocalSecretInventoryEntry.secretAlias entries) :
    createLocalSecretInventoryDigest collation digests inventory =
      createLocalSecretInventoryDigest collation digests
        { inventory with entries } :=
  congrArg digests.sha256Hex (canonicalize_congr sameOrder)

end Digests

section Vaults

variable
  {written recomputed : Collation}
  {digests : LocalSecretDigestProvider}

/-- The entries of a vault, in the order of its records. -/
def LocalSecretVault.entries (vault : LocalSecretVault) :
    List LocalSecretInventoryEntry :=
  vault.records.map EncryptedLocalSecretRecord.entry

/-- The inventory of a vault, in the order of its records. -/
def LocalSecretVault.stored
    (written : Collation)
    (vault : LocalSecretVault) :
    LocalSecretInventory :=
  { vault.inventory written with entries := vault.entries }

theorem orders_entries_iff
    {collation : Collation}
    {vault : LocalSecretVault} :
    collation.Orders LocalSecretInventoryEntry.secretAlias vault.entries ↔
      collation.Orders EncryptedLocalSecretRecord.secretAlias vault.records :=
  Collation.orders_map

/-- What holds of every vault that a runner has written under a locale. -/
structure WrittenUnder
    (written : Collation)
    (digests : LocalSecretDigestProvider)
    (vault : LocalSecretVault) :
    Prop where
  parses : vault.parses = true
  ordered :
    written.Orders EncryptedLocalSecretRecord.secretAlias vault.records
  digest :
    vault.inventoryDigest =
      createLocalSecretInventoryDigest written digests
        (vault.stored written)

variable {vault : LocalSecretVault} {current : LocalSecretVault}

theorem WrittenUnder.ordered_entries
    (isWritten : WrittenUnder written digests vault) :
    written.Orders LocalSecretInventoryEntry.secretAlias vault.entries :=
  orders_entries_iff.mpr isWritten.ordered

theorem WrittenUnder.initialVault
    {vaultId workspaceId runnerDeviceId createdAt : JsString}
    {protection : LocalSecretMasterKeyProtection}
    (parses :
      (LocalSecrets.initialVault written digests vaultId workspaceId
        runnerDeviceId createdAt protection).parses = true) :
    WrittenUnder written digests
      (LocalSecrets.initialVault written digests vaultId workspaceId
        runnerDeviceId createdAt protection) where
  parses
  ordered := List.Pairwise.nil
  digest := rfl

/-- Records that are in order can follow those of a vault. -/
theorem WrittenUnder.nextVault
    {records : List EncryptedLocalSecretRecord}
    {entries : List LocalSecretInventoryEntry}
    {protection : LocalSecretMasterKeyProtection}
    {timestamp : JsString}
    (ordered :
      written.Orders EncryptedLocalSecretRecord.secretAlias records)
    (sameOrder :
      written.sort LocalSecretInventoryEntry.secretAlias entries =
        written.sort LocalSecretInventoryEntry.secretAlias
          (records.map EncryptedLocalSecretRecord.entry))
    (parses :
      (LocalSecrets.nextVault written digests current records entries
        protection timestamp).parses = true) :
    WrittenUnder written digests
      (LocalSecrets.nextVault written digests current records entries
        protection timestamp) where
  parses
  ordered
  digest := createDigest_congr sameOrder

/-- Every mutation writes a vault under the locale of the runner. -/
theorem WrittenUnder.next
    (isWritten : WrittenUnder written digests current)
    (change : VaultChange)
    (parses : (change.next digests written current).parses = true) :
    WrittenUnder written digests (change.next digests written current) := by
  cases change with
  | setSecret record protection timestamp =>
      apply WrittenUnder.nextVault _ rfl parses
      exact Collation.orders_sort _
  | removeSecret secretAlias protection timestamp =>
      apply WrittenUnder.nextVault _ rfl parses
      exact isWritten.ordered.sublist List.filter_sublist
  | migrateProtectorToNative protectedKey timestamp =>
      apply WrittenUnder.nextVault isWritten.ordered _ parses
      exact Collation.sort_sort _

theorem VaultHistory.isWritten
    {past : List LocalSecretVault}
    (history : VaultHistory digests written current past) :
    WrittenUnder written digests current := by
  induction history with
  | create vaultId workspaceId runnerDeviceId createdAt protection parses =>
      exact WrittenUnder.initialVault parses
  | change history change asserted allowed parses isWritten =>
      exact isWritten.next change parses

/-- The digests of two texts differ, unless the texts are the same. -/
def TellsApart
    (digests : LocalSecretDigestProvider)
    (first second : JsString) :
    Prop :=
  digests.sha256Hex first = digests.sha256Hex second → first = second

/-- Reader and writer of a vault do not meet a collision of the digest. -/
def NoCollision
    (written recomputed : Collation)
    (digests : LocalSecretDigestProvider)
    (vault : LocalSecretVault) :
    Prop :=
  TellsApart digests
    (canonicalizeLocalSecretInventory recomputed (vault.inventory recomputed))
    (canonicalizeLocalSecretInventory written (vault.inventory written))

/-- What the writer has hashed. -/
theorem WrittenUnder.digest_inventory
    (isWritten : WrittenUnder written digests vault) :
    vault.inventoryDigest =
      createLocalSecretInventoryDigest written digests
        (vault.inventory written) := by
  rw [isWritten.digest]
  apply createDigest_congr
  exact (Collation.sort_sort _).symm

/-- A locale that orders the records recomputes the digest of the writer. -/
theorem WrittenUnder.digest_of_orders
    (isWritten : WrittenUnder written digests vault)
    {entries : List LocalSecretInventoryEntry}
    (sameEntries :
      recomputed.sort LocalSecretInventoryEntry.secretAlias entries =
        vault.entries) :
    createLocalSecretInventoryDigest recomputed digests
        { vault.inventory written with entries } =
      vault.inventoryDigest := by
  rw [isWritten.digest]
  apply congrArg digests.sha256Hex
  apply canonicalize_congr
  rw [sameEntries]
  exact (Collation.sort_of_orders isWritten.ordered_entries).symm

/-- A vault is found intact by the locales that order it as it is stored. -/
theorem WrittenUnder.assertInventoryDigest_iff
    (isWritten : WrittenUnder written digests vault)
    (apart : NoCollision written recomputed digests vault) :
    assertInventoryDigest recomputed digests vault = true ↔
      recomputed.Orders EncryptedLocalSecretRecord.secretAlias
        vault.records := by
  unfold assertInventoryDigest
  rw [beq_iff_eq]
  constructor
  · intro sameDigest
    rw [isWritten.digest_inventory] at sameDigest
    have sameOrder := sortedEntries_of_sameText (apart sameDigest)
    dsimp only [LocalSecretVault.inventory, inventoryEntriesFromVault]
      at sameOrder
    rw [Collation.sort_sort, Collation.sort_sort] at sameOrder
    have stored := Collation.sort_of_orders isWritten.ordered_entries
    have orderedEntries :
        recomputed.Orders LocalSecretInventoryEntry.secretAlias
          vault.entries :=
      Collation.sort_eq_self_iff.mp (sameOrder.trans stored)
    exact orders_entries_iff.mp orderedEntries
  · intro ordered
    apply isWritten.digest_of_orders
    have orderedEntries :
        recomputed.Orders LocalSecretInventoryEntry.secretAlias
          vault.entries :=
      orders_entries_iff.mpr ordered
    unfold inventoryEntriesFromVault
    rw [Collation.sort_sort]
    exact Collation.sort_of_orders orderedEntries

end Vaults

section Snapshots

variable
  {collation : Collation}
  {digests : LocalSecretDigestProvider}

theorem EncryptedLocalSecretRecord.entry_parses
    {record : EncryptedLocalSecretRecord}
    (parses : record.parses = true) :
    record.entry.parses = true := by
  simp only [EncryptedLocalSecretRecord.parses, Bool.and_eq_true] at parses
  obtain ⟨⟨⟨⟨⟨⟨isAlias, -⟩, isVersion⟩, -⟩, -⟩, -⟩, -⟩ := parses
  simp only [LocalSecretInventoryEntry.parses, Bool.and_eq_true]
  exact ⟨isAlias, isVersion⟩

/-- What the schema of snapshots asks for. -/
structure LocalSecretInventorySnapshot.IsParsed
    (snapshot : LocalSecretInventorySnapshot) :
    Prop where
  isId : isUuid snapshot.vaultId = true
  positive : 1 ≤ snapshot.vaultRevision
  bounded : snapshot.vaultRevision ≤ maxVaultRevision
  isDigest : isSha256Hex snapshot.inventoryDigest = true
  few : snapshot.entries.length ≤ maxLocalSecretRecords
  entries :
    snapshot.entries.all LocalSecretInventoryEntry.parses = true
  aliases :
    (snapshot.entries.map LocalSecretInventoryEntry.secretAlias).Nodup
  versions :
    (snapshot.entries.map LocalSecretInventoryEntry.secretVersionId).Nodup

theorem LocalSecretInventorySnapshot.IsParsed.parses
    {snapshot : LocalSecretInventorySnapshot}
    (isParsed : snapshot.IsParsed) :
    snapshot.parses = true := by
  simp [LocalSecretInventorySnapshot.parses, isParsed.isId, isParsed.positive,
    isParsed.bounded, isParsed.isDigest, isParsed.few, isParsed.entries,
    isParsed.aliases, isParsed.versions]

/-- What a parsed vault holds makes a snapshot that parses. -/
theorem vaultSnapshot_parses
    {vault : LocalSecretVault}
    (parses : vault.parses = true) :
    (vaultSnapshot collation vault).parses = true := by
  have parsed := LocalSecretVault.parses_iff.mp parses
  have listed :
      (inventoryEntriesFromVault collation vault).Perm vault.entries :=
    Collation.sort_perm _
  apply LocalSecretInventorySnapshot.IsParsed.parses
  constructor
  case isId => exact parsed.isVaultId
  case positive => exact parsed.positive
  case bounded => exact parsed.bounded
  case isDigest => exact parsed.isDigest
  case few =>
    refine listed.length_eq.trans_le ?_
    rw [LocalSecretVault.entries, List.length_map]
    exact parsed.few
  case entries =>
    have records := List.all_eq_true.mp parsed.records
    rw [List.all_eq_true]
    intro entry isListed
    obtain ⟨record, isRecord, rfl⟩ :=
      List.mem_map.mp (listed.mem_iff.mp isListed)
    exact EncryptedLocalSecretRecord.entry_parses (records record isRecord)
  case aliases =>
    apply (listed.map _).nodup_iff.mpr
    rw [LocalSecretVault.entries, List.map_map]
    exact parsed.aliases
  case versions =>
    apply (listed.map _).nodup_iff.mpr
    rw [LocalSecretVault.entries, List.map_map]
    exact parsed.versions

theorem buildSnapshot_eq_some_iff
    {vault : LocalSecretVault}
    {snapshot : LocalSecretInventorySnapshot} :
    buildLocalSecretInventorySnapshot collation vault = some snapshot ↔
      (vaultSnapshot collation vault).parses = true ∧
        snapshot = vaultSnapshot collation vault := by
  rw [buildLocalSecretInventorySnapshot]
  by_cases parses : (vaultSnapshot collation vault).parses = true
  · simp [parses, eq_comm]
  · simp [parses]

end Snapshots

section Calls

variable
  {Trail : Type}
  {append : Trail → SecretInventoryUpdated → Option Trail}
  {digests : LocalSecretDigestProvider}

/-- The row of the runner that calls. -/
def SynchronizeCall.existing
    (call : SynchronizeCall)
    (db : InventoryDatabase Trail) :
    Option RunnerSecretInventory :=
  findUnique RunnerSecretInventory.runnerDeviceId call.runnerDeviceId
    db.inventories.rows

/-- What `synchronize` does when it does not throw. -/
inductive Synchronizes
    (call : SynchronizeCall)
    (db db' : InventoryDatabase Trail) :
    Prop where
  /-- Nothing but the status is new. -/
  | again
      (row : RunnerSecretInventory)
      (found : call.existing db = some row)
      (same :
        ∀ snapshot,
          call.request = .snapshot snapshot →
          row.vaultId = snapshot.vaultId ∧
            row.vaultRevision = snapshot.vaultRevision)
      (storeStatus : LocalSecretStoreStatus)
      (updated :
        db'.inventories =
          db.inventories.update (row.reported storeStatus call.databaseNow))
      (sameTrail : db'.trail = db.trail)
  | first
      (snapshot : LocalSecretInventorySnapshot)
      (requested : call.request = .snapshot snapshot)
      (absent : call.existing db = none)
      (created :
        db.inventories.create (call.createdRow snapshot) =
          some db'.inventories)
  | newer
      (snapshot : LocalSecretInventorySnapshot)
      (requested : call.request = .snapshot snapshot)
      (row : RunnerSecretInventory)
      (found : call.existing db = some row)
      (sameVault : row.vaultId = snapshot.vaultId)
      (isNewer : row.vaultRevision < snapshot.vaultRevision)
      (updated :
        db'.inventories =
          db.inventories.update (updateInventory call snapshot row))

theorem synchronizes_of_ok
    {call : SynchronizeCall}
    {db db' : InventoryDatabase Trail}
    {result : RunnerSecretInventorySyncResult}
    (answered : synchronize append digests call db = .ok (db', result)) :
    Synchronizes call db db' := by
  unfold synchronize at answered
  obtain ⟨-, -, answered⟩ := bind_eq_ok.mp answered
  obtain ⟨-, -, answered⟩ := bind_eq_ok.mp answered
  cases requested : call.request with
  | statusReport storeStatus =>
      rw [requested] at answered
      obtain ⟨row, isRow, answered⟩ := bind_eq_ok.mp answered
      obtain ⟨rfl, -⟩ := Prod.mk.inj (Except.ok.inj answered)
      refine .again row (orThrow_eq_ok.mp isRow) ?_ storeStatus rfl rfl
      intro snapshot isSnapshot
      rw [requested] at isSnapshot
      cases isSnapshot
  | snapshot snapshot =>
      rw [requested] at answered
      obtain ⟨-, -, answered⟩ := bind_eq_ok.mp answered
      obtain ⟨_, sameVault, answered⟩ := bind_eq_ok.mp answered
      obtain ⟨_, notOlder, answered⟩ := bind_eq_ok.mp answered
      obtain ⟨-, -, answered⟩ := bind_eq_ok.mp answered
      rw [refuseIf_eq_ok] at sameVault notOlder
      cases found : call.existing db with
      | none =>
          unfold SynchronizeCall.existing at found
          rw [found] at answered
          obtain ⟨inventories, created, answered⟩ := bind_eq_ok.mp answered
          obtain ⟨trail, -, answered⟩ := bind_eq_ok.mp answered
          obtain ⟨rfl, -⟩ := Prod.mk.inj (Except.ok.inj answered)
          exact .first snapshot requested found (orThrow_eq_ok.mp created)
      | some row =>
          unfold SynchronizeCall.existing at found
          rw [found] at answered sameVault notOlder
          have isSame : row.vaultId = snapshot.vaultId := by
            by_contra differs
            exact sameVault ⟨row, rfl, differs⟩
          have atLeast : row.vaultRevision ≤ snapshot.vaultRevision := by
            by_contra isOlder
            exact notOlder ⟨row, rfl, Nat.lt_of_not_le isOlder⟩
          by_cases isEqual : snapshot.vaultRevision = row.vaultRevision
          · simp only [storeSnapshot, isEqual, if_true] at answered
            obtain ⟨rfl, -⟩ := Prod.mk.inj (Except.ok.inj answered)
            refine .again row found ?_ .ready rfl rfl
            intro other isOther
            rw [requested] at isOther
            cases isOther
            exact ⟨isSame, isEqual.symm⟩
          · simp only [storeSnapshot, isEqual, if_false] at answered
            obtain ⟨trail, -, answered⟩ := bind_eq_ok.mp answered
            obtain ⟨rfl, -⟩ := Prod.mk.inj (Except.ok.inj answered)
            exact .newer snapshot requested row found isSame
              (lt_of_le_of_ne atLeast (Ne.symm isEqual)) rfl

/-- A call leaves everything as it is, or has synchronized. -/
theorem stepInventory_cases
    (db : InventoryDatabase Trail)
    (call : SynchronizeCall) :
    stepInventory append digests db (.synchronize call) = db ∨
      Synchronizes call db
        (stepInventory append digests db (.synchronize call)) := by
  unfold stepInventory
  dsimp only
  cases answered : synchronize append digests call db with
  | error failure =>
      left
      rw [transact_of_error answered]
  | ok answer =>
      obtain ⟨db', result⟩ := answer
      right
      rw [transact_of_ok answered]
      exact synchronizes_of_ok answered

end Calls

section Server

variable
  {Trail : Type}
  {append : Trail → SecretInventoryUpdated → Option Trail}
  {digests : LocalSecretDigestProvider}

/-- A row without its status and the time of its synchronization. -/
def RunnerSecretInventory.content (row : RunnerSecretInventory) :
    RunnerSecretInventory :=
  row.reported .ready 0

/-- Neither the audit chain nor what is known of any vault has changed. -/
structure KeepsInventories (db db' : InventoryDatabase Trail) : Prop where
  rows :
    db'.inventories.rows.map RunnerSecretInventory.content =
      db.inventories.rows.map RunnerSecretInventory.content
  trail : db'.trail = db.trail

theorem KeepsInventories.refl (db : InventoryDatabase Trail) :
    KeepsInventories db db :=
  ⟨rfl, rfl⟩

theorem mem_update_cases
    {table : InventoryTable}
    {row other : RunnerSecretInventory}
    (listed : other ∈ (table.update row).rows) :
    other = row ∨ other ∈ table.rows := by
  obtain ⟨earlier, wasListed, rfl⟩ := List.mem_map.mp listed
  by_cases isRow : earlier.runnerDeviceId = row.runnerDeviceId
  · left
    simp [isRow]
  · right
    simpa [isRow] using wasListed

theorem mem_create_cases
    {table table' : InventoryTable}
    {row other : RunnerSecretInventory}
    (created : table.create row = some table') :
    other ∈ table'.rows ↔ other ∈ table.rows ∨ other = row := by
  unfold InventoryTable.create at created
  split at created
  case isFalse taken => cases created
  case isTrue keys =>
    split at created
    case isFalse taken => cases created
    case isTrue vaults =>
      cases created
      simp

variable {db : InventoryDatabase Trail} {call : SynchronizeCall}

/-- The row of the runner is the only one with its key. -/
theorem eq_existing
    {row other : RunnerSecretInventory}
    (found : call.existing db = some row)
    (listed : other ∈ db.inventories.rows)
    (sameRunner : other.runnerDeviceId = row.runnerDeviceId) :
    other = row :=
  eq_of_key db.inventories.keys listed (mem_of_findUnique found).1 sameRunner

/-- A status that is reported is all that changes. -/
theorem content_update_reported
    {row : RunnerSecretInventory}
    (found : call.existing db = some row)
    (storeStatus : LocalSecretStoreStatus)
    (databaseNow : Nat) :
    (db.inventories.update (row.reported storeStatus databaseNow)).rows.map
        RunnerSecretInventory.content =
      db.inventories.rows.map RunnerSecretInventory.content := by
  unfold InventoryTable.update updateMany
  rw [List.map_map]
  apply List.map_congr_left
  intro other listed
  by_cases isRow : other.runnerDeviceId = row.runnerDeviceId
  · obtain rfl := eq_existing found listed isRow
    simp [RunnerSecretInventory.reported, RunnerSecretInventory.content]
  · have isOther :
        other.runnerDeviceId ≠
          (row.reported storeStatus databaseNow).runnerDeviceId :=
      isRow
    simp [isOther]

/-- What a call leaves of a row: its vault, and no earlier revision. -/
structure Follows (row row' : RunnerSecretInventory) : Prop where
  sameRunner : row'.runnerDeviceId = row.runnerDeviceId
  sameVault : row'.vaultId = row.vaultId
  notOlder : row.vaultRevision ≤ row'.vaultRevision

theorem Follows.refl (row : RunnerSecretInventory) : Follows row row :=
  ⟨rfl, rfl, le_rfl⟩

theorem Follows.trans
    {first second third : RunnerSecretInventory}
    (earlier : Follows first second)
    (later : Follows second third) :
    Follows first third where
  sameRunner := later.sameRunner.trans earlier.sameRunner
  sameVault := later.sameVault.trans earlier.sameVault
  notOlder := earlier.notOlder.trans later.notOlder

/-- Updating the row of a runner by one that follows it. -/
theorem exists_follows_update
    {row updated other : RunnerSecretInventory}
    (found : call.existing db = some row)
    (follows : Follows row updated)
    (listed : other ∈ db.inventories.rows) :
    ∃ other' ∈ (db.inventories.update updated).rows, Follows other other' := by
  by_cases isRow : other.runnerDeviceId = updated.runnerDeviceId
  · obtain rfl :=
      eq_existing found listed (isRow.trans follows.sameRunner)
    refine ⟨updated, List.mem_map.mpr ⟨other, listed, ?_⟩, follows⟩
    simp [isRow]
  · refine ⟨other, List.mem_map.mpr ⟨other, listed, ?_⟩, Follows.refl other⟩
    simp [isRow]

variable (append digests) in
/-- No event takes a row away or makes it older. -/
theorem exists_follows_step
    (db : InventoryDatabase Trail)
    (event : InventoryEvent)
    {row : RunnerSecretInventory}
    (listed : row ∈ db.inventories.rows) :
    ∃ row' ∈ (stepInventory append digests db event).inventories.rows,
      Follows row row' := by
  cases event with
  | changeDevices devices => exact ⟨row, listed, Follows.refl row⟩
  | synchronize call =>
      rcases stepInventory_cases db call with unchanged | synchronized
      · rw [unchanged]
        exact ⟨row, listed, Follows.refl row⟩
      cases synchronized with
      | again existing found same storeStatus updated sameTrail =>
          rw [updated]
          exact exists_follows_update found ⟨rfl, rfl, le_rfl⟩ listed
      | first snapshot requested absent created =>
          have kept := (mem_create_cases created).mpr (Or.inl listed)
          exact ⟨row, kept, Follows.refl row⟩
      | newer snapshot requested existing found sameVault isNewer updated =>
          rw [updated]
          exact exists_follows_update found ⟨rfl, rfl, isNewer.le⟩ listed

variable (append digests) in
theorem exists_follows_run
    (events : List InventoryEvent)
    (db : InventoryDatabase Trail)
    {row : RunnerSecretInventory}
    (listed : row ∈ db.inventories.rows) :
    ∃ row' ∈ (runInventory append digests db events).inventories.rows,
      Follows row row' := by
  induction events generalizing db row with
  | nil => exact ⟨row, listed, Follows.refl row⟩
  | cons event events inductionHypothesis =>
      obtain ⟨next, isNext, follows⟩ :=
        exists_follows_step append digests db event listed
      obtain ⟨last, isLast, later⟩ :=
        inductionHypothesis (stepInventory append digests db event) isNext
      exact ⟨last, isLast, follows.trans later⟩

/-- A status report changes the status of a vault only. -/
theorem keeps_of_statusReport
    (db : InventoryDatabase Trail)
    {call : SynchronizeCall}
    {storeStatus : LocalSecretStoreStatus}
    (reports : call.request = .statusReport storeStatus) :
    KeepsInventories db
      (stepInventory append digests db (.synchronize call)) := by
  rcases stepInventory_cases db call with unchanged | synchronized
  · rw [unchanged]
    exact KeepsInventories.refl db
  cases synchronized with
  | again row found same storeStatus updated sameTrail =>
      refine ⟨?_, sameTrail⟩
      rw [updated]
      exact content_update_reported found _ _
  | first snapshot requested absent created =>
      rw [reports] at requested
      cases requested
  | newer snapshot requested row found sameVault isNewer updated =>
      rw [reports] at requested
      cases requested

/-- The inventory of a runner is as new as the snapshot that was accepted. -/
theorem exists_accepted
    {call : SynchronizeCall}
    {snapshot : LocalSecretInventorySnapshot}
    {db db' : InventoryDatabase Trail}
    {result : RunnerSecretInventorySyncResult}
    (requested : call.request = .snapshot snapshot)
    (accepted : synchronize append digests call db = .ok (db', result)) :
    ∃ row ∈ db'.inventories.rows,
      row.runnerDeviceId = call.runnerDeviceId ∧
        snapshot.vaultRevision ≤ row.vaultRevision := by
  have updatedRow
      {row updated : RunnerSecretInventory}
      (found : call.existing db = some row)
      (sameRunner : updated.runnerDeviceId = row.runnerDeviceId) :
      updated ∈ (db.inventories.update updated).rows ∧
        updated.runnerDeviceId = call.runnerDeviceId := by
    obtain ⟨listed, isRunner⟩ := mem_of_findUnique found
    refine ⟨List.mem_map.mpr ⟨row, listed, ?_⟩, sameRunner.trans isRunner⟩
    simp [sameRunner]
  cases synchronizes_of_ok accepted with
  | again row found same storeStatus updated sameTrail =>
      obtain ⟨listed, isRunner⟩ :=
        @updatedRow row (row.reported storeStatus call.databaseNow) found rfl
      refine ⟨_, updated ▸ listed, isRunner, ?_⟩
      exact (same snapshot requested).2.ge
  | first other requested' absent created =>
      rw [requested] at requested'
      cases requested'
      exact ⟨_, (mem_create_cases created).mpr (Or.inr rfl), rfl, le_rfl⟩
  | newer other requested' row found sameVault isNewer updated =>
      rw [requested] at requested'
      cases requested'
      obtain ⟨listed, isRunner⟩ :=
        @updatedRow row (updateInventory call snapshot row) found rfl
      exact ⟨_, updated ▸ listed, isRunner, le_rfl⟩

/-- A snapshot that was accepted once changes nothing any more. -/
theorem keeps_of_replay
    {call replayed : SynchronizeCall}
    {snapshot : LocalSecretInventorySnapshot}
    {db db' : InventoryDatabase Trail}
    {result : RunnerSecretInventorySyncResult}
    (requested : call.request = .snapshot snapshot)
    (accepted : synchronize append digests call db = .ok (db', result))
    (sameRunner : replayed.runnerDeviceId = call.runnerDeviceId)
    (sameRequest : replayed.request = call.request)
    (events : List InventoryEvent) :
    KeepsInventories (runInventory append digests db' events)
      (stepInventory append digests (runInventory append digests db' events)
        (.synchronize replayed)) := by
  obtain ⟨row, listed, isRunner, notOlder⟩ :=
    exists_accepted requested accepted
  obtain ⟨held, isHeld, follows⟩ :=
    exists_follows_run append digests events db' listed
  have isExisting :
      replayed.existing (runInventory append digests db' events) =
        some held := by
    unfold SynchronizeCall.existing
    rw [sameRunner, ← isRunner, ← follows.sameRunner]
    exact findUnique_of_mem (InventoryTable.keys _) isHeld
  rcases stepInventory_cases (runInventory append digests db' events)
      replayed with unchanged | synchronized
  · rw [unchanged]
    exact KeepsInventories.refl _
  cases synchronized with
  | again existing found same storeStatus updated sameTrail =>
      refine ⟨?_, sameTrail⟩
      rw [updated]
      exact content_update_reported found _ _
  | first other requested' absent created =>
      rw [isExisting] at absent
      cases absent
  | newer other requested' existing found sameVault isNewer updated =>
      rw [isExisting] at found
      cases found
      rw [sameRequest, requested] at requested'
      cases requested'
      have atLeast := notOlder.trans follows.notOlder
      omega

/-- A request that a runner builds from one of some vaults. -/
def BuiltFrom
    (vaults : List LocalSecretVault)
    (request : LocalSecretInventorySyncRequest) :
    Prop :=
  (∃ storeStatus, request = .statusReport storeStatus) ∨
    ∃ vault ∈ vaults, ∃ collation snapshot,
      buildLocalSecretInventorySnapshot collation vault = some snapshot ∧
        request = .snapshot snapshot

/-- Calls with requests from some vaults; runners may come and go. -/
def InventoryEvent.IsFrom (vaults : List LocalSecretVault) :
    InventoryEvent → Prop
  | .synchronize call => BuiltFrom vaults call.request
  | .changeDevices _ => True

/-- Revision, digest and entries of a row are those of a vault. -/
structure BelongsTo
    (row : RunnerSecretInventory)
    (vault : LocalSecretVault) :
    Prop where
  sameVault : row.vaultId = vault.vaultId
  sameRevision : row.vaultRevision = vault.revision
  sameDigest : row.inventoryDigest = vault.inventoryDigest
  sameEntries : row.entries.Perm vault.entries

/-- A row of a vault holds one of its revisions. -/
def HoldsRevision
    (vaultId : JsString)
    (vaults : List LocalSecretVault)
    (row : RunnerSecretInventory) :
    Prop :=
  row.vaultId = vaultId → ∃ vault ∈ vaults, BelongsTo row vault

theorem belongsTo_of_built
    {vaults : List LocalSecretVault}
    {call : SynchronizeCall}
    {snapshot : LocalSecretInventorySnapshot}
    {row : RunnerSecretInventory}
    (built : BuiltFrom vaults call.request)
    (requested : call.request = .snapshot snapshot)
    (sameVault : row.vaultId = snapshot.vaultId)
    (sameRevision : row.vaultRevision = snapshot.vaultRevision)
    (sameDigest : row.inventoryDigest = snapshot.inventoryDigest)
    (sameEntries : row.entries = snapshot.entries) :
    ∃ vault ∈ vaults, BelongsTo row vault := by
  rcases built with ⟨storeStatus, reports⟩ | ⟨vault, listed, collation, other,
    isBuilt, sends⟩
  · rw [requested] at reports
    cases reports
  · rw [requested] at sends
    cases sends
    obtain ⟨-, rfl⟩ := buildSnapshot_eq_some_iff.mp isBuilt
    refine ⟨vault, listed, sameVault, sameRevision, sameDigest, ?_⟩
    rw [sameEntries]
    exact Collation.sort_perm _

theorem holdsRevision_step
    {vaultId : JsString}
    {vaults : List LocalSecretVault}
    {db : InventoryDatabase Trail}
    {event : InventoryEvent}
    (isFrom : event.IsFrom vaults)
    (holds :
      ∀ row ∈ db.inventories.rows, HoldsRevision vaultId vaults row) :
    ∀ row ∈ (stepInventory append digests db event).inventories.rows,
      HoldsRevision vaultId vaults row := by
  cases event with
  | changeDevices devices => exact holds
  | synchronize call =>
      rcases stepInventory_cases db call with unchanged | synchronized
      · rw [unchanged]
        exact holds
      intro row listed isVault
      cases synchronized with
      | again existing found same storeStatus updated sameTrail =>
          rw [updated] at listed
          rcases mem_update_cases listed with rfl | wasListed
          · obtain ⟨vault, isListed, belongs⟩ :=
              holds existing (mem_of_findUnique found).1 isVault
            exact ⟨vault, isListed, belongs.sameVault, belongs.sameRevision,
              belongs.sameDigest, belongs.sameEntries⟩
          · exact holds row wasListed isVault
      | first snapshot requested absent created =>
          rcases (mem_create_cases created).mp listed with wasListed | rfl
          · exact holds row wasListed isVault
          · exact belongsTo_of_built isFrom requested rfl rfl rfl rfl
      | newer snapshot requested existing found sameVault isNewer updated =>
          rw [updated] at listed
          rcases mem_update_cases listed with rfl | wasListed
          · exact belongsTo_of_built isFrom requested sameVault rfl rfl rfl
          · exact holds row wasListed isVault

theorem holdsRevision_run
    {vaultId : JsString}
    {vaults : List LocalSecretVault}
    (events : List InventoryEvent)
    (areFrom : ∀ event ∈ events, event.IsFrom vaults)
    (db : InventoryDatabase Trail)
    (holds :
      ∀ row ∈ db.inventories.rows, HoldsRevision vaultId vaults row) :
    ∀ row ∈ (runInventory append digests db events).inventories.rows,
      HoldsRevision vaultId vaults row := by
  induction events generalizing db with
  | nil => exact holds
  | cons event events inductionHypothesis =>
      obtain ⟨isFrom, areFrom⟩ := List.forall_mem_cons.mp areFrom
      exact inductionHypothesis areFrom _ (holdsRevision_step isFrom holds)

end Server

section Law

variable
  {Trail : Type}
  {append : Trail → SecretInventoryUpdated → Option Trail}
  {digests : LocalSecretDigestProvider}
  {written recomputed : Collation}

theorem storeSnapshot_ne_invalid
    {call : SynchronizeCall}
    {snapshot : LocalSecretInventorySnapshot}
    {db : InventoryDatabase Trail}
    {existing : Option RunnerSecretInventory}
    {failure : SynchronizeFailure}
    (throws :
      storeSnapshot append call snapshot db existing = .error failure) :
    failure ≠ .inventoryInvalid := by
  cases existing with
  | none =>
      rcases bind_eq_error throws with taken | ⟨inventories, -, throws⟩
      · rw [(orThrow_eq_error taken).2]
        exact SynchronizeFailure.noConfusion
      rcases bind_eq_error throws with refused | ⟨trail, -, throws⟩
      · rw [(orThrow_eq_error refused).2]
        exact SynchronizeFailure.noConfusion
      · cases throws
  | some row =>
      by_cases isEqual : snapshot.vaultRevision = row.vaultRevision
      · simp [storeSnapshot, isEqual] at throws
      · simp only [storeSnapshot, isEqual, if_false] at throws
        rcases bind_eq_error throws with refused | ⟨trail, -, throws⟩
        · rw [(orThrow_eq_error refused).2]
          exact SynchronizeFailure.noConfusion
        · cases throws

/-- A snapshot that parses and has its own digest is not invalid. -/
theorem synchronize_ne_invalid
    {call : SynchronizeCall}
    {snapshot : LocalSecretInventorySnapshot}
    (requested : call.request = .snapshot snapshot)
    (parses : snapshot.parses = true)
    (isDigest :
      createLocalSecretInventoryDigest call.collation digests
          (call.inventory snapshot) =
        snapshot.inventoryDigest)
    (db : InventoryDatabase Trail) :
    synchronize append digests call db ≠ .error .inventoryInvalid := by
  intro throws
  unfold synchronize at throws
  rw [requested] at throws
  rcases bind_eq_error throws with notParsed | ⟨_, -, throws⟩
  · have parsed : LocalSecretInventorySyncRequest.parses (.snapshot snapshot) =
        true :=
      parses
    rw [(refuseIf_eq_error notParsed).1] at parsed
    cases parsed
  rcases bind_eq_error throws with unavailable | ⟨_, -, throws⟩
  · cases (refuseIf_eq_error unavailable).2
  rcases bind_eq_error throws with differs | ⟨_, -, throws⟩
  · exact (refuseIf_eq_error differs).1 isDigest
  rcases bind_eq_error throws with conflict | ⟨_, -, throws⟩
  · cases (refuseIf_eq_error conflict).2
  rcases bind_eq_error throws with older | ⟨_, -, throws⟩
  · cases (refuseIf_eq_error older).2
  rcases bind_eq_error throws with conflict | ⟨_, -, throws⟩
  · cases (refuseIf_eq_error conflict).2
  · exact storeSnapshot_ne_invalid throws rfl

/-- The snapshot of a vault, sent by its own runner. -/
def snapshotCall
    (written recomputed : Collation)
    (vault : LocalSecretVault)
    (databaseNow : Nat) :
    SynchronizeCall :=
  { runnerDeviceId := vault.runnerDeviceId
    workspaceId := vault.workspaceId
    request := .snapshot (vaultSnapshot written vault)
    databaseNow
    collation := recomputed }

/--
A vault that was written under one locale is intact, and its snapshot valid,
under another one; and the server follows the revisions of the vault.
-/
structure LocalSecretInventoryLaw
    (append : Trail → SecretInventoryUpdated → Option Trail)
    (digests : LocalSecretDigestProvider)
    (written recomputed : Collation)
    (current : LocalSecretVault)
    (past : List LocalSecretVault) :
    Prop where
  intact : assertInventoryDigest recomputed digests current = true
  built :
    buildLocalSecretInventorySnapshot written current =
      some (vaultSnapshot written current)
  valid :
    ∀ db databaseNow,
      synchronize append digests
          (snapshotCall written recomputed current databaseNow) db ≠
        .error .inventoryInvalid
  oneRevision :
    ∀ start : InventoryDatabase Trail,
      (∀ row ∈ start.inventories.rows, row.vaultId ≠ current.vaultId) →
      ∀ events : List InventoryEvent,
        (∀ event ∈ events, event.IsFrom (current :: past)) →
        ∀ row ∈ (runInventory append digests start events).inventories.rows,
          row.vaultId = current.vaultId →
          ∃ vault ∈ current :: past, BelongsTo row vault
  neverDecreases :
    ∀ (db : InventoryDatabase Trail) (event : InventoryEvent),
      ∀ row ∈ db.inventories.rows,
        ∃ row' ∈ (stepInventory append digests db event).inventories.rows,
          Follows row row'
  replay :
    ∀ (call replayed : SynchronizeCall)
      (snapshot : LocalSecretInventorySnapshot)
      (db db' : InventoryDatabase Trail)
      (result : RunnerSecretInventorySyncResult)
      (events : List InventoryEvent),
      call.request = .snapshot snapshot →
      synchronize append digests call db = .ok (db', result) →
      replayed.runnerDeviceId = call.runnerDeviceId →
      replayed.request = call.request →
      KeepsInventories (runInventory append digests db' events)
        (stepInventory append digests (runInventory append digests db' events)
          (.synchronize replayed))
  statusReport :
    ∀ (call : SynchronizeCall)
      (storeStatus : LocalSecretStoreStatus)
      (db : InventoryDatabase Trail),
      call.request = .statusReport storeStatus →
      KeepsInventories db
        (stepInventory append digests db (.synchronize call))

/-- The server recomputes the digest if it orders the aliases alike. -/
theorem WrittenUnder.snapshot_valid
    {vault : LocalSecretVault}
    (isWritten : WrittenUnder written digests vault)
    (ordered :
      recomputed.Orders EncryptedLocalSecretRecord.secretAlias vault.records)
    (db : InventoryDatabase Trail)
    (databaseNow : Nat) :
    synchronize append digests
        (snapshotCall written recomputed vault databaseNow) db ≠
      .error .inventoryInvalid := by
  apply synchronize_ne_invalid rfl (vaultSnapshot_parses isWritten.parses)
  have stored : inventoryEntriesFromVault written vault = vault.entries :=
    Collation.sort_of_orders isWritten.ordered_entries
  have recomputes :
      recomputed.sort LocalSecretInventoryEntry.secretAlias
          (inventoryEntriesFromVault written vault) =
        vault.entries := by
    rw [stored]
    exact Collation.sort_of_orders (orders_entries_iff.mpr ordered)
  exact isWritten.digest_of_orders recomputes

theorem localSecretInventoryLaw_iff
    (append : Trail → SecretInventoryUpdated → Option Trail)
    (digests : LocalSecretDigestProvider)
    (written recomputed : Collation)
    (current : LocalSecretVault)
    (past : List LocalSecretVault)
    (history : VaultHistory digests written current past)
    (apart : NoCollision written recomputed digests current) :
    LocalSecretInventoryLaw append digests written recomputed current past ↔
      recomputed.Orders EncryptedLocalSecretRecord.secretAlias
        current.records := by
  have isWritten := history.isWritten
  constructor
  · intro law
    exact (isWritten.assertInventoryDigest_iff apart).mp law.intact
  · intro ordered
    constructor
    case intact => exact (isWritten.assertInventoryDigest_iff apart).mpr ordered
    case built =>
      exact buildSnapshot_eq_some_iff.mpr
        ⟨vaultSnapshot_parses isWritten.parses, rfl⟩
    case valid => exact isWritten.snapshot_valid ordered
    case oneRevision =>
      intro start absent events areFrom
      apply holdsRevision_run events areFrom start
      intro row listed isVault
      exact absurd isVault (absent row listed)
    case neverDecreases =>
      intro db event row listed
      exact exists_follows_step append digests db event listed
    case replay =>
      intro call replayed snapshot db db' result events requested accepted
        sameRunner sameRequest
      exact keeps_of_replay requested accepted sameRunner sameRequest events
    case statusReport =>
      intro call storeStatus db reports
      exact keeps_of_statusReport db reports

end Law

section Example

def english : Collation :=
  .ofAlphabet (js "abcdefghijklmnopqrstuvwxyz")

def estonian : Collation :=
  .ofAlphabet (js "abcdefghijklmnopqrsztuvwxy")

def exampleUuid (last : Char) : JsString :=
  js "00000000-0000-4000-8000-00000000000" ++ [unit last]

def exampleTime : JsString := js "2026-01-01T00:00:00.000Z"

def exampleProtection : LocalSecretMasterKeyProtection :=
  .passphrase (js "c2FsdA") (js "aXY") (js "a2V5")

def exampleRecord
    (secretAlias : String)
    (recordId secretVersionId : Char) :
    EncryptedLocalSecretRecord :=
  { secretAlias := js secretAlias
    recordId := exampleUuid recordId
    secretVersionId := exampleUuid secretVersionId
    iv := js "aXY"
    ciphertext := js "c2VjcmV0"
    createdAt := exampleTime
    updatedAt := exampleTime }

/-- The inventory that the runner writes in English. -/
def exampleInventory : LocalSecretInventory :=
  { vaultId := exampleUuid 'a'
    workspaceId := exampleUuid 'b'
    runnerDeviceId := exampleUuid 'c'
    vaultRevision := 3
    entries :=
      [(exampleRecord "tax" '1' '2').entry,
        (exampleRecord "zip" '3' '4').entry] }

/-- Digests that tell the text of the English inventory from all others. -/
def exampleDigests : LocalSecretDigestProvider where
  sha256Hex input :=
    if input = canonicalizeLocalSecretInventory english exampleInventory then
      List.replicate 64 (unit 'a')
    else List.replicate 64 (unit 'b')
  isHex input := by
    by_cases isEnglish :
        input = canonicalizeLocalSecretInventory english exampleInventory
    · rw [if_pos isEnglish]
      decide
    · rw [if_neg isEnglish]
      decide

def exampleInitialVault : LocalSecretVault :=
  initialVault english exampleDigests (exampleUuid 'a') (exampleUuid 'b')
    (exampleUuid 'c') exampleTime exampleProtection

def exampleSet
    (secretAlias : String)
    (recordId secretVersionId : Char) :
    VaultChange :=
  .setSecret (exampleRecord secretAlias recordId secretVersionId)
    exampleProtection exampleTime

def exampleFirstVault : LocalSecretVault :=
  (exampleSet "tax" '1' '2').next exampleDigests english exampleInitialVault

def exampleVault : LocalSecretVault :=
  (exampleSet "zip" '3' '4').next exampleDigests english exampleFirstVault

theorem exampleInitialVault_parses :
    exampleInitialVault.parses = true := by
  apply LocalSecretVault.parses_iff.mpr
  constructor
  case isDigest => exact exampleDigests.isHex _
  all_goals decide

theorem exampleFirstVault_records :
    exampleFirstVault.records = [exampleRecord "tax" '1' '2'] := by
  have ordered :
      english.Orders EncryptedLocalSecretRecord.secretAlias
        [exampleRecord "tax" '1' '2'] := by
    decide
  exact Collation.sort_of_orders ordered

theorem exampleVault_records :
    exampleVault.records =
      [exampleRecord "tax" '1' '2', exampleRecord "zip" '3' '4'] := by
  have ordered :
      english.Orders EncryptedLocalSecretRecord.secretAlias
        [exampleRecord "tax" '1' '2', exampleRecord "zip" '3' '4'] := by
    decide
  have appended :
      (exampleFirstVault.records.filter fun item =>
          item.secretAlias ≠ (exampleRecord "zip" '3' '4').secretAlias) ++
          [exampleRecord "zip" '3' '4'] =
        [exampleRecord "tax" '1' '2', exampleRecord "zip" '3' '4'] := by
    rw [exampleFirstVault_records]
    decide
  calc
    exampleVault.records
        = setRecord english exampleFirstVault (exampleRecord "zip" '3' '4') :=
      rfl
    _ = _ := by
      rw [setRecord, appended]
      exact Collation.sort_of_orders ordered

theorem exampleFirstVault_parses : exampleFirstVault.parses = true := by
  apply LocalSecretVault.parses_iff.mpr
  constructor
  case isDigest => exact exampleDigests.isHex _
  all_goals first | decide | (rw [exampleFirstVault_records]; decide)

theorem exampleVault_parses : exampleVault.parses = true := by
  apply LocalSecretVault.parses_iff.mpr
  constructor
  case isDigest => exact exampleDigests.isHex _
  all_goals first | decide | (rw [exampleVault_records]; decide)

theorem exampleHistory :
    VaultHistory exampleDigests english exampleVault
      [exampleFirstVault, exampleInitialVault] := by
  have created :
      VaultHistory exampleDigests english exampleInitialVault [] :=
    .create _ _ _ _ _ exampleInitialVault_parses
  have intact
      {vault : LocalSecretVault}
      {past : List LocalSecretVault}
      (history : VaultHistory exampleDigests english vault past) :
      assertInventoryDigest english exampleDigests vault = true :=
    beq_iff_eq.mpr history.isWritten.digest_inventory.symm
  have first :=
    created.change (exampleSet "tax" '1' '2') (intact created) trivial
      exampleFirstVault_parses
  exact
    first.change (exampleSet "zip" '3' '4') (intact first) trivial
      exampleVault_parses

theorem exampleVault_inventory :
    exampleVault.inventory english = exampleInventory := by
  have ordered :
      english.Orders LocalSecretInventoryEntry.secretAlias
        exampleInventory.entries := by
    decide
  have entries :
      inventoryEntriesFromVault english exampleVault =
        exampleInventory.entries := by
    rw [inventoryEntriesFromVault, exampleVault_records]
    exact Collation.sort_of_orders ordered
  rw [LocalSecretVault.inventory, entries]
  rfl

theorem exampleVault_noCollision :
    NoCollision english estonian exampleDigests exampleVault := by
  intro sameDigest
  rw [exampleVault_inventory] at sameDigest ⊢
  by_contra differ
  simp only [exampleDigests, differ, if_false, if_true] at sameDigest
  revert sameDigest
  decide

theorem estonian_not_orders :
    ¬estonian.Orders EncryptedLocalSecretRecord.secretAlias
      exampleVault.records := by
  rw [exampleVault_records]
  decide

theorem exampleVault_law_iff :
    LocalSecretInventoryLaw (fun (_ : Unit) _ => some ()) exampleDigests
        english estonian exampleVault
        [exampleFirstVault, exampleInitialVault] ↔
      estonian.Orders EncryptedLocalSecretRecord.secretAlias
        exampleVault.records :=
  localSecretInventoryLaw_iff _ _ _ _ _ _ exampleHistory
    exampleVault_noCollision

/-- A vault that was written in English is corrupted in Estonian. -/
theorem not_localSecretInventoryLaw_estonian :
    ¬LocalSecretInventoryLaw (fun (_ : Unit) _ => some ()) exampleDigests
      english estonian exampleVault
      [exampleFirstVault, exampleInitialVault] := by
  intro law
  have ordered :=
    (exampleHistory.isWritten.assertInventoryDigest_iff
      exampleVault_noCollision).mp law.intact
  exact estonian_not_orders ordered

end Example

end TaskTwin.LocalSecrets
