import Mathlib.Data.List.Sort
import TaskTwin.Text.CodeUnit

/-!
# Preflight of an update

What a release declares that it reads and writes, and whether one release can
take over from another.  An update is planned when the target can take over the
installed state and the source could take it back.
-/

namespace TaskTwin.RunnerUpdate.Preflight

open Text

inductive RunnerReleasePlatform where
  | windows
  | macos
  | linux
  deriving DecidableEq, Repr

inductive RunnerReleaseArchitecture where
  | x64
  | arm64
  deriving DecidableEq, Repr

/-- `PersistedSchemaCompatibilitySchema`. -/
structure PersistedSchemaCompatibility where
  readableSchemas : List Nat
  writableSchema : Nat
  positive : ∀ schema ∈ readableSchemas, 0 < schema
  ascending : readableSchemas.Pairwise (· < ·)
  readsWritable : writableSchema ∈ readableSchemas
  deriving DecidableEq

/-- `LocalSecretVaultCompatibilitySchema`; the profiles are sorted, too. -/
structure LocalSecretVaultCompatibility extends
    PersistedSchemaCompatibility where
  readableProtectionProfiles : List JsString
  hasProfile : readableProtectionProfiles ≠ []
  distinctProfiles : readableProtectionProfiles.Nodup
  deriving DecidableEq

structure ReleaseCompatibilityDeclaration where
  localState : PersistedSchemaCompatibility
  localSecretVault : LocalSecretVaultCompatibility
  deriving DecidableEq

structure ReleaseArtifactDescriptor where
  platform : RunnerReleasePlatform
  architecture : RunnerReleaseArchitecture
  deriving DecidableEq

/-- What the preflight reads of a manifest; targets are unique. -/
structure ReleaseManifest where
  version : JsString
  compatibility : ReleaseCompatibilityDeclaration
  artifacts : List ReleaseArtifactDescriptor
  distinctTargets : artifacts.Nodup
  deriving DecidableEq

structure InstalledLocalSecretVaultState where
  schemaVersion : Nat
  protectionProfile : JsString
  deriving DecidableEq

inductive UpgradePreflightDecision where
  | compatible
  | migrationRequired
  | unsupported
  | downgradeBlocked
  deriving DecidableEq, Repr

inductive UpgradePreflightReason where
  | targetArtifactMissing
  | localStateSchemaUnreadable
  | localSecretVaultSchemaUnreadable
  | localSecretVaultProfileUnreadable
  | localStateMigrationRequired
  | localSecretVaultMigrationRequired
  | persistedSchemaDowngradeBlocked
  deriving DecidableEq, Repr

structure UpgradePreflightInput where
  currentVersion : JsString
  targetRelease : ReleaseManifest
  currentLocalStateSchemaVersion : Nat
  currentLocalSecretVault : Option InstalledLocalSecretVaultState
  platform : RunnerReleasePlatform
  architecture : RunnerReleaseArchitecture
  deriving DecidableEq

structure UpgradePreflightResult where
  decision : UpgradePreflightDecision
  reasons : List UpgradePreflightReason
  currentVersion : JsString
  targetVersion : JsString
  deriving DecidableEq

section

-- `semver.compare`, of versions that were parsed
variable (compareProductVersions : JsString → JsString → Int)

def unreadableReasons
    (target : ReleaseManifest)
    (localState : Nat)
    (vault : Option InstalledLocalSecretVaultState) :
    List UpgradePreflightReason :=
  (if localState ∈ target.compatibility.localState.readableSchemas then []
    else [.localStateSchemaUnreadable]) ++
  match vault with
  | none => []
  | some vault =>
      (if vault.schemaVersion ∈
          target.compatibility.localSecretVault.readableSchemas then []
        else [.localSecretVaultSchemaUnreadable]) ++
      (if vault.protectionProfile ∈
          target.compatibility.localSecretVault.readableProtectionProfiles then
        []
      else
        [.localSecretVaultProfileUnreadable])

def persistedSchemaDowngrade
    (target : ReleaseManifest)
    (localState : Nat)
    (vault : Option InstalledLocalSecretVaultState) :
    Bool :=
  target.compatibility.localState.writableSchema < localState ||
    vault.any fun vault =>
      target.compatibility.localSecretVault.writableSchema < vault.schemaVersion

def migrationReasons
    (target : ReleaseManifest)
    (localState : Nat)
    (vault : Option InstalledLocalSecretVaultState) :
    List UpgradePreflightReason :=
  (if localState < target.compatibility.localState.writableSchema then
    [.localStateMigrationRequired]
  else
    []) ++
  (if vault.any fun vault =>
      vault.schemaVersion <
        target.compatibility.localSecretVault.writableSchema then
    [.localSecretVaultMigrationRequired]
  else
    [])

def evaluateUpgradePreflight (input : UpgradePreflightInput) :
    UpgradePreflightResult :=
  let target := input.targetRelease
  let isProductDowngrade :=
    compareProductVersions target.version input.currentVersion < 0
  let artifact :=
    target.artifacts.find? fun candidate =>
      candidate.platform = input.platform ∧
        candidate.architecture = input.architecture
  let result
      (decision : UpgradePreflightDecision)
      (reasons : List UpgradePreflightReason) :
      UpgradePreflightResult :=
    { decision
      reasons
      currentVersion := input.currentVersion
      targetVersion := target.version }
  let unreadable :=
    unreadableReasons target input.currentLocalStateSchemaVersion
      input.currentLocalSecretVault
  let migrations :=
    migrationReasons target input.currentLocalStateSchemaVersion
      input.currentLocalSecretVault
  if artifact = none then result .unsupported [.targetArtifactMissing]
  else if unreadable ≠ [] then
    result (if isProductDowngrade then .downgradeBlocked else .unsupported)
      unreadable
  else if persistedSchemaDowngrade target input.currentLocalStateSchemaVersion
      input.currentLocalSecretVault then
    result .downgradeBlocked [.persistedSchemaDowngradeBlocked]
  else if migrations ≠ [] then result .migrationRequired migrations
  else result .compatible []

inductive RunnerUpdatePreflightDecision where
  | allowed
  | blocked
  deriving DecidableEq, Repr

inductive RunnerUpdatePreflightReason where
  | targetVersionNotNewer
  | forwardCompatibilityUnsupported
  | forwardMigrationRequired
  | forwardDowngradeBlocked
  | rollbackCompatibilityUnsupported
  | rollbackMigrationRequired
  | rollbackDowngradeBlocked
  deriving DecidableEq, Repr

structure RunnerUpdatePreflightInput where
  currentRelease : ReleaseManifest
  targetRelease : ReleaseManifest
  currentLocalStateSchemaVersion : Nat
  currentLocalSecretVault : Option InstalledLocalSecretVaultState
  platform : RunnerReleasePlatform
  architecture : RunnerReleaseArchitecture
  deriving DecidableEq

structure RunnerUpdatePreflightResult where
  decision : RunnerUpdatePreflightDecision
  reasons : List RunnerUpdatePreflightReason
  currentVersion : JsString
  targetVersion : JsString
  forward : UpgradePreflightResult
  rollback : UpgradePreflightResult
  deriving DecidableEq

def forwardReason (result : UpgradePreflightResult) :
    Option RunnerUpdatePreflightReason :=
  match result.decision with
  | .compatible => none
  | .migrationRequired => some .forwardMigrationRequired
  | .unsupported => some .forwardCompatibilityUnsupported
  | .downgradeBlocked => some .forwardDowngradeBlocked

def rollbackReason (result : UpgradePreflightResult) :
    Option RunnerUpdatePreflightReason :=
  match result.decision with
  | .compatible => none
  | .migrationRequired => some .rollbackMigrationRequired
  | .unsupported => some .rollbackCompatibilityUnsupported
  | .downgradeBlocked => some .rollbackDowngradeBlocked

/-- The vault that the target is taken to leave behind. -/
def prospectiveVault (input : RunnerUpdatePreflightInput) :
    Option InstalledLocalSecretVaultState :=
  input.currentLocalSecretVault.map fun vault =>
    { schemaVersion :=
        input.targetRelease.compatibility.localSecretVault.writableSchema
      protectionProfile := vault.protectionProfile }

def evaluateRunnerUpdatePreflight (input : RunnerUpdatePreflightInput) :
    RunnerUpdatePreflightResult :=
  let forward :=
    evaluateUpgradePreflight compareProductVersions
      { currentVersion := input.currentRelease.version
        targetRelease := input.targetRelease
        currentLocalStateSchemaVersion := input.currentLocalStateSchemaVersion
        currentLocalSecretVault := input.currentLocalSecretVault
        platform := input.platform
        architecture := input.architecture }
  let rollback :=
    evaluateUpgradePreflight compareProductVersions
      { currentVersion := input.targetRelease.version
        targetRelease := input.currentRelease
        currentLocalStateSchemaVersion :=
          input.targetRelease.compatibility.localState.writableSchema
        currentLocalSecretVault := prospectiveVault input
        platform := input.platform
        architecture := input.architecture }
  let reasons :=
    (if compareProductVersions input.targetRelease.version
        input.currentRelease.version ≤ 0 then
      [.targetVersionNotNewer]
    else
      []) ++
    (forwardReason forward).toList ++ (rollbackReason rollback).toList
  { decision := if reasons = [] then .allowed else .blocked
    reasons
    currentVersion := input.currentRelease.version
    targetVersion := input.targetRelease.version
    forward
    rollback }

inductive RunnerRollbackCompatibilityDecision where
  | safe
  | notSafe
  deriving DecidableEq, Repr

structure RunnerRollbackCompatibilityInput where
  currentVersion : JsString
  rollbackRelease : ReleaseManifest
  currentLocalStateSchemaVersion : Nat
  currentLocalSecretVault : Option InstalledLocalSecretVaultState
  platform : RunnerReleasePlatform
  architecture : RunnerReleaseArchitecture
  deriving DecidableEq

structure RunnerRollbackCompatibilityResult where
  decision : RunnerRollbackCompatibilityDecision
  preflight : UpgradePreflightResult
  deriving DecidableEq

def evaluateRunnerRollbackCompatibility
    (input : RunnerRollbackCompatibilityInput) :
    RunnerRollbackCompatibilityResult :=
  let preflight :=
    evaluateUpgradePreflight compareProductVersions
      { currentVersion := input.currentVersion
        targetRelease := input.rollbackRelease
        currentLocalStateSchemaVersion := input.currentLocalStateSchemaVersion
        currentLocalSecretVault := input.currentLocalSecretVault
        platform := input.platform
        architecture := input.architecture }
  { decision :=
      if preflight.decision = .compatible then .safe else .notSafe
    preflight }

end

variable {compareProductVersions : JsString → JsString → Int}

/-- A release takes over a vault as it is. -/
structure TakesOverVault
    (target : ReleaseManifest)
    (vault : InstalledLocalSecretVaultState) :
    Prop where
  readsProfile :
    vault.protectionProfile ∈
      target.compatibility.localSecretVault.readableProtectionProfiles
  writesSchema :
    target.compatibility.localSecretVault.writableSchema = vault.schemaVersion

/-- A release takes over what is installed, without a migration. -/
structure TakesOver
    (target : ReleaseManifest)
    (platform : RunnerReleasePlatform)
    (architecture : RunnerReleaseArchitecture)
    (localState : Nat)
    (vault : Option InstalledLocalSecretVaultState) :
    Prop where
  hasArtifact :
    ∃ artifact ∈ target.artifacts,
      artifact.platform = platform ∧ artifact.architecture = architecture
  writesLocalState :
    target.compatibility.localState.writableSchema = localState
  takesOverVault : ∀ installed ∈ vault, TakesOverVault target installed

variable {target : ReleaseManifest} {localState : Nat}

theorem unreadableReasons_eq_nil
    {vault : Option InstalledLocalSecretVaultState} :
    unreadableReasons target localState vault = [] ↔
      localState ∈ target.compatibility.localState.readableSchemas ∧
        ∀ installed ∈ vault,
          installed.schemaVersion ∈
              target.compatibility.localSecretVault.readableSchemas ∧
            installed.protectionProfile ∈
              target.compatibility.localSecretVault.readableProtectionProfiles
    := by
  cases vault with
  | none => simp [unreadableReasons]
  | some vault => simp [unreadableReasons]

theorem persistedSchemaDowngrade_eq_false
    {vault : Option InstalledLocalSecretVaultState} :
    persistedSchemaDowngrade target localState vault = false ↔
      localState ≤ target.compatibility.localState.writableSchema ∧
        ∀ installed ∈ vault,
          installed.schemaVersion ≤
            target.compatibility.localSecretVault.writableSchema := by
  cases vault with
  | none => simp [persistedSchemaDowngrade]
  | some vault => simp [persistedSchemaDowngrade]

theorem migrationReasons_eq_nil
    {vault : Option InstalledLocalSecretVaultState} :
    migrationReasons target localState vault = [] ↔
      target.compatibility.localState.writableSchema ≤ localState ∧
        ∀ installed ∈ vault,
          target.compatibility.localSecretVault.writableSchema ≤
            installed.schemaVersion := by
  cases vault with
  | none => simp [migrationReasons]
  | some vault => simp [migrationReasons]

/-- The preflight answers whether the target takes over what is installed. -/
theorem evaluateUpgradePreflight_compatible
    {input : UpgradePreflightInput} :
    (evaluateUpgradePreflight compareProductVersions input).decision =
        .compatible ↔
      TakesOver input.targetRelease input.platform input.architecture
        input.currentLocalStateSchemaVersion
        input.currentLocalSecretVault := by
  simp only [evaluateUpgradePreflight]
  constructor
  · intro compatible
    split at compatible
    · cases compatible
    rename_i hasArtifact
    split at compatible
    · split at compatible <;> cases compatible
    rename_i readable
    split at compatible
    · cases compatible
    rename_i noDowngrade
    split at compatible
    · cases compatible
    rename_i noMigration
    obtain ⟨artifact, found⟩ := Option.ne_none_iff_exists'.mp hasArtifact
    have isTarget := List.find?_some found
    obtain ⟨-, readsVault⟩ := unreadableReasons_eq_nil.mp (not_not.mp readable)
    obtain ⟨notOlder, vaultNotOlder⟩ :=
      persistedSchemaDowngrade_eq_false.mp (by simpa using noDowngrade)
    obtain ⟨notNewer, vaultNotNewer⟩ :=
      migrationReasons_eq_nil.mp (not_not.mp noMigration)
    exact
      { hasArtifact :=
          ⟨artifact, List.mem_of_find?_eq_some found, by simpa using isTarget⟩
        writesLocalState := le_antisymm notNewer notOlder
        takesOverVault := fun installed isInstalled =>
          { readsProfile := (readsVault installed isInstalled).2
            writesSchema :=
              le_antisymm (vaultNotNewer installed isInstalled)
                (vaultNotOlder installed isInstalled) } }
  · intro takesOver
    obtain ⟨artifact, listed, isTarget⟩ := takesOver.hasArtifact
    have hasArtifact :
        (input.targetRelease.artifacts.find? fun candidate =>
            candidate.platform = input.platform ∧
              candidate.architecture = input.architecture) ≠
          none := by
      rw [Ne, List.find?_eq_none]
      intro missing
      exact missing artifact listed (decide_eq_true isTarget)
    have readable :
        unreadableReasons input.targetRelease
            input.currentLocalStateSchemaVersion
            input.currentLocalSecretVault =
          [] := by
      refine unreadableReasons_eq_nil.mpr ⟨?_, fun installed isInstalled => ?_⟩
      · rw [← takesOver.writesLocalState]
        exact input.targetRelease.compatibility.localState.readsWritable
      · have takesVault := takesOver.takesOverVault installed isInstalled
        refine ⟨?_, takesVault.readsProfile⟩
        rw [← takesVault.writesSchema]
        exact input.targetRelease.compatibility.localSecretVault.readsWritable
    have noDowngrade :
        persistedSchemaDowngrade input.targetRelease
            input.currentLocalStateSchemaVersion
            input.currentLocalSecretVault =
          false :=
      persistedSchemaDowngrade_eq_false.mpr
        ⟨takesOver.writesLocalState.ge, fun installed isInstalled =>
          (takesOver.takesOverVault installed isInstalled).writesSchema.ge⟩
    have noMigration :
        migrationReasons input.targetRelease
            input.currentLocalStateSchemaVersion
            input.currentLocalSecretVault =
          [] :=
      migrationReasons_eq_nil.mpr
        ⟨takesOver.writesLocalState.le, fun installed isInstalled =>
          (takesOver.takesOverVault installed isInstalled).writesSchema.le⟩
    rw [if_neg hasArtifact, readable, noDowngrade, noMigration]
    rfl

theorem forwardReason_eq_none
    {result : UpgradePreflightResult} :
    forwardReason result = none ↔ result.decision = .compatible := by
  rw [forwardReason]
  cases result.decision <;> simp

theorem rollbackReason_eq_none
    {result : UpgradePreflightResult} :
    rollbackReason result = none ↔ result.decision = .compatible := by
  rw [rollbackReason]
  cases result.decision <;> simp

/-- An update is allowed when both releases can take over from the other. -/
theorem evaluateRunnerUpdatePreflight_allowed
    {input : RunnerUpdatePreflightInput} :
    (evaluateRunnerUpdatePreflight compareProductVersions input).decision =
        .allowed ↔
      0 <
          compareProductVersions input.targetRelease.version
            input.currentRelease.version ∧
        TakesOver input.targetRelease input.platform input.architecture
            input.currentLocalStateSchemaVersion
            input.currentLocalSecretVault ∧
          TakesOver input.currentRelease input.platform input.architecture
            input.targetRelease.compatibility.localState.writableSchema
            (prospectiveVault input) := by
  simp only [evaluateRunnerUpdatePreflight, ite_eq_left_iff,
    List.append_eq_nil_iff, Option.toList_eq_nil_iff, forwardReason_eq_none,
    rollbackReason_eq_none, evaluateUpgradePreflight_compatible, reduceCtorEq,
    imp_false, not_not, ite_eq_right_iff, not_le, and_assoc]

theorem evaluateRunnerRollbackCompatibility_safe
    {input : RunnerRollbackCompatibilityInput} :
    (evaluateRunnerRollbackCompatibility compareProductVersions
        input).decision =
        .safe ↔
      TakesOver input.rollbackRelease input.platform input.architecture
        input.currentLocalStateSchemaVersion
        input.currentLocalSecretVault := by
  simp [evaluateRunnerRollbackCompatibility,
    evaluateUpgradePreflight_compatible]

/-- What the target may make of the local state. -/
inductive LeavesLocalState
    (target : ReleaseManifest)
    (localState : Nat) :
    Nat → Prop where
  | unchanged : LeavesLocalState target localState localState
  | rewritten :
      LeavesLocalState target localState
        target.compatibility.localState.writableSchema

/-- A profile that both releases read. -/
def IsShared (source target : ReleaseManifest) (profile : JsString) : Prop :=
  profile ∈ source.compatibility.localSecretVault.readableProtectionProfiles ∧
    profile ∈ target.compatibility.localSecretVault.readableProtectionProfiles

/-- What the target may make of the vault. -/
inductive LeavesVault (source target : ReleaseManifest) :
    Option InstalledLocalSecretVaultState →
      Option InstalledLocalSecretVaultState → Prop where
  | unchanged (vault : Option InstalledLocalSecretVaultState) :
      LeavesVault source target vault vault
  | rewritten (vault : InstalledLocalSecretVaultState) :
      LeavesVault source target (some vault)
        (some
          { schemaVersion :=
              target.compatibility.localSecretVault.writableSchema
            protectionProfile := vault.protectionProfile })
  | created
      (profile : JsString)
      (isShared : IsShared source target profile) :
      LeavesVault source target none
        (some
          { schemaVersion :=
              target.compatibility.localSecretVault.writableSchema
            protectionProfile := profile })

/-- The target is newer, and the source can take back what it leaves behind. -/
structure RollbackLaw
    (compareProductVersions : JsString → JsString → Int)
    (input : RunnerUpdatePreflightInput) :
    Prop where
  isNewer :
    0 <
      compareProductVersions input.targetRelease.version
        input.currentRelease.version
  isSafe :
    ∀ localState vault,
      LeavesLocalState input.targetRelease
          input.currentLocalStateSchemaVersion localState →
        LeavesVault input.currentRelease input.targetRelease
            input.currentLocalSecretVault vault →
          (evaluateRunnerRollbackCompatibility compareProductVersions
              { currentVersion := input.targetRelease.version
                rollbackRelease := input.currentRelease
                currentLocalStateSchemaVersion := localState
                currentLocalSecretVault := vault
                platform := input.platform
                architecture := input.architecture }).decision =
            .safe

/-- There is a vault, or both releases would create the same. -/
def CreatesSameVault (input : RunnerUpdatePreflightInput) : Prop :=
  input.currentLocalSecretVault ≠ none ∨
    input.currentRelease.compatibility.localSecretVault.writableSchema =
        input.targetRelease.compatibility.localSecretVault.writableSchema ∨
      ∀ profile, ¬IsShared input.currentRelease input.targetRelease profile

/-- Of the local state it does not matter whether it was rewritten. -/
theorem LeavesLocalState.eq
    {input : RunnerUpdatePreflightInput}
    {localState : Nat}
    (takesOver :
      TakesOver input.targetRelease input.platform input.architecture
        input.currentLocalStateSchemaVersion input.currentLocalSecretVault)
    (leaves :
      LeavesLocalState input.targetRelease
        input.currentLocalStateSchemaVersion localState) :
    localState =
      input.targetRelease.compatibility.localState.writableSchema := by
  cases leaves with
  | unchanged => exact takesOver.writesLocalState.symm
  | rewritten => rfl

/-- A vault that was there is taken back, rewritten or not. -/
theorem takesBack_vault
    {input : RunnerUpdatePreflightInput}
    {vault : InstalledLocalSecretVaultState}
    {left : Option InstalledLocalSecretVaultState}
    (isVault : input.currentLocalSecretVault = some vault)
    (takesOver :
      TakesOver input.targetRelease input.platform input.architecture
        input.currentLocalStateSchemaVersion input.currentLocalSecretVault)
    (takesBack :
      TakesOver input.currentRelease input.platform input.architecture
        input.targetRelease.compatibility.localState.writableSchema
        (prospectiveVault input))
    (leaves :
      LeavesVault input.currentRelease input.targetRelease
        input.currentLocalSecretVault left) :
    ∀ installed ∈ left, TakesOverVault input.currentRelease installed := by
  have rewritten :
      TakesOverVault input.currentRelease
        { schemaVersion :=
            input.targetRelease.compatibility.localSecretVault.writableSchema
          protectionProfile := vault.protectionProfile } :=
    takesBack.takesOverVault _ (by simp [prospectiveVault, isVault])
  rw [isVault] at takesOver leaves
  have forward := takesOver.takesOverVault vault rfl
  cases leaves with
  | unchanged =>
      intro installed isInstalled
      obtain rfl := Option.some.inj isInstalled
      exact
        { readsProfile := rewritten.readsProfile
          writesSchema := rewritten.writesSchema.trans forward.writesSchema }
  | rewritten =>
      intro installed isInstalled
      obtain rfl := Option.some.inj isInstalled
      exact rewritten

/--
An update that is allowed can be gone back from exactly if there is a vault
already, or none that only the target can write would be created.
-/
theorem rollbackLaw_iff
    {input : RunnerUpdatePreflightInput}
    (allowed :
      (evaluateRunnerUpdatePreflight compareProductVersions input).decision =
        .allowed) :
    RollbackLaw compareProductVersions input ↔ CreatesSameVault input := by
  obtain ⟨isNewer, takesOver, takesBack⟩ :=
    evaluateRunnerUpdatePreflight_allowed.mp allowed
  constructor
  · intro law
    by_contra differs
    simp only [CreatesSameVault, not_or, not_not, not_forall] at differs
    obtain ⟨noVault, otherSchema, profile, isShared⟩ := differs
    have created := LeavesVault.created profile isShared
    rw [← noVault] at created
    have isSafe := law.isSafe _ _ .rewritten created
    rw [evaluateRunnerRollbackCompatibility_safe] at isSafe
    exact otherSchema (isSafe.takesOverVault _ rfl).writesSchema
  · intro same
    refine { isNewer, isSafe := fun localState left leavesState leaves => ?_ }
    rw [evaluateRunnerRollbackCompatibility_safe]
    refine
      { hasArtifact := takesBack.hasArtifact
        writesLocalState := by
          rw [leavesState.eq takesOver]
          exact takesBack.writesLocalState
        takesOverVault := ?_ }
    cases isVault : input.currentLocalSecretVault with
    | some vault => exact takesBack_vault isVault takesOver takesBack leaves
    | none =>
        have same := same.resolve_left (not_not.mpr isVault)
        rw [isVault] at leaves
        cases leaves with
        | unchanged => intro installed isInstalled; cases isInstalled
        | created profile isShared =>
            intro installed isInstalled
            obtain rfl := Option.some.inj isInstalled
            exact
              { readsProfile := isShared.1
                writesSchema :=
                  same.resolve_right fun none => none profile isShared }

def exampleVaultSchemas (writableSchema : Nat) (isPositive : 0 < writableSchema) :
    LocalSecretVaultCompatibility :=
  { readableSchemas := [writableSchema]
    writableSchema
    positive := by simpa using isPositive
    ascending := List.pairwise_singleton _ _
    readsWritable := List.mem_singleton_self _
    readableProtectionProfiles := [js "passphrase_v1"]
    hasProfile := List.cons_ne_nil _ _
    distinctProfiles := List.nodup_singleton _ }

def exampleRelease
    (version : JsString)
    (vaultSchema : Nat)
    (isPositive : 0 < vaultSchema) :
    ReleaseManifest :=
  { version
    compatibility :=
      { localState :=
          { readableSchemas := [1]
            writableSchema := 1
            positive := by decide
            ascending := List.pairwise_singleton _ _
            readsWritable := by decide }
        localSecretVault := exampleVaultSchemas vaultSchema isPositive }
    artifacts := [{ platform := .windows, architecture := .x64 }]
    distinctTargets := List.nodup_singleton _ }

/-- Nothing is stored in a vault when the update is planned. -/
def exampleInput (vaultSchema : Nat) (isPositive : 0 < vaultSchema) :
    RunnerUpdatePreflightInput :=
  { currentRelease := exampleRelease (js "1.0.0") 1 Nat.one_pos
    targetRelease := exampleRelease (js "1.1.0") vaultSchema isPositive
    currentLocalStateSchemaVersion := 1
    currentLocalSecretVault := none
    platform := .windows
    architecture := .x64 }

/-- The order of these versions. -/
def exampleCompare (left right : JsString) : Int :=
  if left = right then 0 else if left = js "1.1.0" then 1 else -1

theorem exampleInput_allowed (vaultSchema : Nat) (isPositive : 0 < vaultSchema) :
    (evaluateRunnerUpdatePreflight exampleCompare
        (exampleInput vaultSchema isPositive)).decision =
      .allowed := by
  have isNewer : 0 < exampleCompare (js "1.1.0") (js "1.0.0") := by decide
  rw [evaluateRunnerUpdatePreflight_allowed]
  refine ⟨isNewer, ⟨⟨_, List.mem_cons_self, rfl, rfl⟩, rfl, ?_⟩,
    ⟨⟨_, List.mem_cons_self, rfl, rfl⟩, rfl, ?_⟩⟩
  · intro installed isInstalled
    cases isInstalled
  · intro installed isInstalled
    cases isInstalled

theorem exampleRelease_writableSchema
    (version : JsString)
    (vaultSchema : Nat)
    (isPositive : 0 < vaultSchema) :
    (exampleRelease version vaultSchema
        isPositive).compatibility.localSecretVault.writableSchema =
      vaultSchema :=
  rfl

theorem rollbackLaw_iff_exampleInput :
    RollbackLaw exampleCompare (exampleInput 1 (by decide)) := by
  refine
    (rollbackLaw_iff (exampleInput_allowed 1 (by decide))).mpr
      (Or.inr (Or.inl ?_))
  dsimp only [exampleInput]
  rw [exampleRelease_writableSchema, exampleRelease_writableSchema]

/-- The update is allowed, and its first secret makes it final. -/
theorem exampleInput_notRollbackLaw :
    (evaluateRunnerUpdatePreflight exampleCompare
          (exampleInput 2 (by decide))).decision =
        .allowed ∧
      ¬RollbackLaw exampleCompare (exampleInput 2 (by decide)) := by
  refine ⟨exampleInput_allowed 2 (by decide), ?_⟩
  intro law
  have isShared :
      IsShared (exampleInput 2 (by decide)).currentRelease
        (exampleInput 2 (by decide)).targetRelease (js "passphrase_v1") :=
    ⟨List.mem_singleton_self _, List.mem_singleton_self _⟩
  have isSafe := law.isSafe _ _ .rewritten (.created _ isShared)
  rw [evaluateRunnerRollbackCompatibility_safe] at isSafe
  have writesSchema := (isSafe.takesOverVault _ rfl).writesSchema
  revert writesSchema
  decide

end TaskTwin.RunnerUpdate.Preflight
