import Mathlib.Data.List.Basic
import Mathlib.Data.List.Sort

/-!
# Runner update states

The states of one update of the installed runner, as the journal records it,
and the releases that it may still need.
-/

namespace TaskTwin.RunnerUpdate

/-- The states of the update journal. -/
inductive RunnerUpdateState where
  | idle
  | preparing
  | draining
  | staging
  | readyToSwitch
  | switching
  | startingTarget
  | verifyingTarget
  | succeeded
  | failedBeforeSwitch
  | rollingBack
  | rolledBack
  | manualRecoveryRequired
  deriving Repr, DecidableEq

namespace RunnerUpdateState

/-- The states of an update that has not touched the service binding. -/
def isPreSwitch : RunnerUpdateState → Bool
  | preparing => true
  | draining => true
  | staging => true
  | readyToSwitch => true
  | _ => false

/-- The states between the switch and the verdict on the target. -/
def isTargetStart : RunnerUpdateState → Bool
  | switching => true
  | startingTarget => true
  | verifyingTarget => true
  | _ => false

end RunnerUpdateState

end TaskTwin.RunnerUpdate

/-!
## Persisted update records

A timestamp is its number of milliseconds, and a SHA-256 digest is the 256-bit
word that its 64 lowercase hexadecimal digits spell.
-/

namespace TaskTwin.RunnerUpdate

abbrev Sha256 := BitVec 256

/-- The release identifier is the prefixed manifest digest. -/
structure RunnerReleaseId where
  manifestSha256 : Sha256
  deriving Repr, DecidableEq

/-- The update identifier is a prefixed digest of the update material. -/
structure RunnerUpdateId where
  digest : Sha256
  deriving Repr, DecidableEq

abbrev RunnerActivationId := String

inductive RunnerUpdateOperation where
  | apply
  | manualRollback
  | recover
  deriving Repr, DecidableEq

/-- `RUNNER_UPDATE_ERROR_CODES`. -/
inductive RunnerUpdateErrorCode where
  | inputInvalid
  | idInvalid
  | stateTransitionInvalid
  | alreadyInProgress
  | currentReleaseUnverified
  | targetReleaseUnverified
  | targetVersionNotNewer
  | forwardCompatibilityFailed
  | migrationRequired
  | rollbackUnproven
  | leaseFailed
  | drainTimeout
  | archiveUnsafe
  | stagingFailed
  | journalInvalid
  | journalWriteFailed
  | serviceSwitchFailed
  | targetHealthFailed
  | previousReleaseUnverified
  | rollbackCompatibilityFailed
  | rollbackFailed
  | recoveryAmbiguous
  | manualRecoveryRequired
  | retentionInvalid
  deriving Repr, DecidableEq

/-- An error that a controller call can end with. -/
inductive UpdateFailure where
  /-- A `RunnerUpdateError` with its stable code. -/
  | updateError (code : RunnerUpdateErrorCode) (message : String)
  /-- Any other error: a schema error or one raised by a dependency. -/
  | otherError (message : String)
  deriving Repr, DecidableEq

def maxRevision : Nat := 2147483647

/-- The fields of the journal file, before the schema is applied. -/
structure JournalFields where
  revision : Nat
  operation : RunnerUpdateOperation
  updateId : RunnerUpdateId
  state : RunnerUpdateState
  sourceReleaseId : RunnerReleaseId
  targetReleaseId : RunnerReleaseId
  fromVersion : String
  targetVersion : String
  sourceManifestSha256 : Sha256
  targetManifestSha256 : Sha256
  sourceArtifactSha256 : Sha256
  targetArtifactSha256 : Sha256
  startedAt : Nat
  updatedAt : Nat
  failureCode : Option RunnerUpdateErrorCode
  deriving Repr, DecidableEq

/-- States whose journal must carry a failure code. -/
def requiresFailureCode : RunnerUpdateState → Bool
  | .failedBeforeSwitch => true
  | .manualRecoveryRequired => true
  | _ => false

/-- `STATES_ALLOWING_FAILURE_CODE`. -/
def allowsFailureCode : RunnerUpdateState → Bool
  | .rollingBack => true
  | .rolledBack => true
  | .failedBeforeSwitch => true
  | .manualRecoveryRequired => true
  | _ => false

/-- The checks of `RunnerUpdateJournalSchema`. -/
def JournalFields.isValid (fields : JournalFields) : Bool :=
  0 < fields.revision &&
  fields.revision ≤ maxRevision &&
  fields.sourceReleaseId != fields.targetReleaseId &&
  fields.startedAt ≤ fields.updatedAt &&
  (!requiresFailureCode fields.state || fields.failureCode.isSome) &&
  (fields.failureCode.isNone || allowsFailureCode fields.state)

/-- A journal that satisfies its schema. -/
structure RunnerUpdateJournal extends JournalFields where
  valid : toJournalFields.isValid = true
  deriving Repr, DecidableEq

/-- `ActiveReleaseRecordSchema`: the current and previous releases differ. -/
structure ActiveReleaseRecord where
  generation : Nat
  currentReleaseId : RunnerReleaseId
  previousReleaseId : Option RunnerReleaseId
  currentActivationId : RunnerActivationId
  activatedAt : Nat
  previousDiffers : previousReleaseId ≠ some currentReleaseId
  deriving Repr, DecidableEq

def defaultRetainedRunnerReleases : Nat := 2

/-- Whether a journal state keeps both releases of its update mandatory. -/
def isNonterminal (state : RunnerUpdateState) : Bool :=
  state.isPreSwitch || state.isTargetStart || state == .rollingBack

/-- The releases that retention may never remove. -/
def mandatoryReleases
    (active : ActiveReleaseRecord)
    (journal : Option RunnerUpdateJournal) :
    List RunnerReleaseId :=
  [active.currentReleaseId] ++
  active.previousReleaseId.toList ++
  match journal with
  | none => []
  | some journal =>
      if isNonterminal journal.state then
        [journal.sourceReleaseId, journal.targetReleaseId]
      else
        []

end TaskTwin.RunnerUpdate
