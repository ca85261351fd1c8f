import Mathlib.Data.List.Dedup
import TaskTwin.Collection.FillUp
import TaskTwin.RunnerUpdate.Records
import TaskTwin.Text.Collation
import TaskTwin.Text.Quotation
import TaskTwin.Text.Timestamp

/-!
# Retention of installed releases

Which of the installed releases are kept and which are removed.  The releases
that an update may still go back to are kept in any case; what room is left is
filled with the newest ones.
-/

namespace TaskTwin.RunnerUpdate.Retention

open Text Collection

/--
`RunnerUpdateTimestampSchema`: normalized, and in a year of four digits.
-/
structure RunnerUpdateTimestamp where
  time : TimeValue
  inYears :
    -62167219200000 ≤ time.milliseconds ∧ time.milliseconds ≤ 253402300799999
  deriving DecidableEq

def RunnerUpdateTimestamp.text (timestamp : RunnerUpdateTimestamp) :
    JsString :=
  timestamp.time.toISOString

/--
The order of `localeCompare`.  Normalized timestamps differ in their digits
only, and every locale orders digits by their values.
-/
structure Locale extends Collation where
  notAfter_timestamps :
    ∀ first second : RunnerUpdateTimestamp,
      notAfter first.text second.text = true ↔
        first.time.milliseconds ≤ second.time.milliseconds

/-- `RUNNER_RELEASE_ID_PREFIX` and the digest of the manifest. -/
def releaseIdText (releaseId : RunnerReleaseId) : JsString :=
  js "rr1_" ++
    (List.range 64).map fun place =>
      hexUnit (releaseId.manifestSha256.toNat / 16 ^ (63 - place) % 16)

/-- What retention reads of an installed release. -/
structure InstalledReleaseRecord where
  releaseId : RunnerReleaseId
  installedAt : RunnerUpdateTimestamp
  deriving DecidableEq

structure RunnerReleaseRetentionInput where
  installedReleases : List InstalledReleaseRecord
  activeRelease : ActiveReleaseRecord
  journal : Option RunnerUpdateJournal
  maxRetainedReleases : Option Nat

def maxRetainedRunnerReleases : Nat := 10

/-- `RunnerReleaseRetentionInputSchema`, of records that were parsed. -/
def RunnerReleaseRetentionInput.parses
    (input : RunnerReleaseRetentionInput) :
    Bool :=
  input.maxRetainedReleases.all fun limit =>
    defaultRetainedRunnerReleases ≤ limit && limit ≤ maxRetainedRunnerReleases

structure RunnerReleaseRetentionDecision where
  keepReleaseIds : List RunnerReleaseId
  removeReleaseIds : List RunnerReleaseId
  deriving DecidableEq

/-- `.sort()`, which compares code units. -/
def sortReleaseIds (releaseIds : List RunnerReleaseId) :
    List RunnerReleaseId :=
  releaseIds.mergeSort fun first second =>
    wordNotAfter Fin.val (releaseIdText first) (releaseIdText second)

/-- The comparison of `newestFirst` is not positive. -/
def newerNotAfter
    (locale : Locale)
    (left right : InstalledReleaseRecord) :
    Bool :=
  locale.notAfter right.installedAt.text left.installedAt.text &&
    (!locale.notAfter left.installedAt.text right.installedAt.text ||
      locale.notAfter (releaseIdText left.releaseId)
        (releaseIdText right.releaseId))

def newestFirst
    (locale : Locale)
    (installed : List InstalledReleaseRecord) :
    List InstalledReleaseRecord :=
  installed.mergeSort (newerNotAfter locale)

def RunnerReleaseRetentionInput.maxRetained
    (input : RunnerReleaseRetentionInput) :
    Nat :=
  input.maxRetainedReleases.getD defaultRetainedRunnerReleases

def RunnerReleaseRetentionInput.releaseIds
    (input : RunnerReleaseRetentionInput) :
    List RunnerReleaseId :=
  input.installedReleases.map InstalledReleaseRecord.releaseId

/-- The set of the mandatory releases. -/
def RunnerReleaseRetentionInput.mandatory
    (input : RunnerReleaseRetentionInput) :
    List RunnerReleaseId :=
  (mandatoryReleases input.activeRelease input.journal).dedup

/-- The set of the releases to keep. -/
def RunnerReleaseRetentionInput.keep
    (locale : Locale)
    (input : RunnerReleaseRetentionInput) :
    List RunnerReleaseId :=
  fillUp input.maxRetained input.mandatory
    ((newestFirst locale input.installedReleases).map
      InstalledReleaseRecord.releaseId)

def decideReleaseRetention
    (locale : Locale)
    (input : RunnerReleaseRetentionInput) :
    Except UpdateFailure RunnerReleaseRetentionDecision :=
  let releaseIds := input.releaseIds
  if !input.parses then
    .error (.otherError "The limit of retained releases is out of range.")
  else if ¬releaseIds.Nodup then
    .error (.updateError .retentionInvalid
      "Installed release records must have unique release IDs.")
  else if input.activeRelease.currentReleaseId ∉ releaseIds then
    .error (.updateError .retentionInvalid
      "The active release is not present in installed releases.")
  else if !input.activeRelease.previousReleaseId.all (· ∈ releaseIds) then
    .error (.updateError .retentionInvalid
      "The previous release is not present in installed releases.")
  else if input.journal.any (·.state == .manualRecoveryRequired) then
    .ok
      { keepReleaseIds := sortReleaseIds releaseIds
        removeReleaseIds := [] }
  else
    .ok
      { keepReleaseIds :=
          sortReleaseIds (releaseIds.filter (· ∈ input.keep locale))
        removeReleaseIds :=
          sortReleaseIds (releaseIds.filter (· ∉ input.keep locale)) }

/-- Recovery is left to an operator. -/
def RunnerReleaseRetentionInput.NeedsManualRecovery
    (input : RunnerReleaseRetentionInput) :
    Prop :=
  ∃ journal, input.journal = some journal ∧
    journal.state = .manualRecoveryRequired

/-- What an accepted input has passed. -/
structure IsAccepted (input : RunnerReleaseRetentionInput) : Prop where
  parses : input.parses = true
  distinct : input.releaseIds.Nodup
  currentInstalled : input.activeRelease.currentReleaseId ∈ input.releaseIds
  previousInstalled :
    ∀ previous,
      input.activeRelease.previousReleaseId = some previous →
        previous ∈ input.releaseIds

variable
  {locale : Locale}
  {input : RunnerReleaseRetentionInput}
  {decision : RunnerReleaseRetentionDecision}

theorem needsManualRecovery_iff :
    input.journal.any (·.state == .manualRecoveryRequired) = true ↔
      input.NeedsManualRecovery := by
  rw [RunnerReleaseRetentionInput.NeedsManualRecovery]
  cases input.journal with
  | none => simp
  | some journal => simp

/-- An accepted input keeps all releases, or those of the set. -/
theorem decideReleaseRetention_eq_ok
    (decided : decideReleaseRetention locale input = .ok decision) :
    IsAccepted input ∧
      ((input.NeedsManualRecovery ∧
          decision =
            { keepReleaseIds := sortReleaseIds input.releaseIds
              removeReleaseIds := [] }) ∨
        (¬input.NeedsManualRecovery ∧
          decision =
            { keepReleaseIds :=
                sortReleaseIds
                  (input.releaseIds.filter (· ∈ input.keep locale))
              removeReleaseIds :=
                sortReleaseIds
                  (input.releaseIds.filter (· ∉ input.keep locale)) })) := by
  simp only [decideReleaseRetention] at decided
  split at decided
  · cases decided
  rename_i parses
  split at decided
  · cases decided
  rename_i distinct
  split at decided
  · cases decided
  rename_i currentInstalled
  split at decided
  · cases decided
  rename_i previousInstalled
  have accepted : IsAccepted input :=
    { parses := by simpa using parses
      distinct := not_not.mp distinct
      currentInstalled := not_not.mp currentInstalled
      previousInstalled := by
        intro previous isPrevious
        simpa [isPrevious] using previousInstalled }
  refine ⟨accepted, ?_⟩
  split at decided
  case isTrue needsRecovery =>
    exact Or.inl ⟨needsManualRecovery_iff.mp needsRecovery,
      (Except.ok.inj decided).symm⟩
  case isFalse normal =>
    exact Or.inr ⟨fun needs => normal (needsManualRecovery_iff.mpr needs),
      (Except.ok.inj decided).symm⟩

/-- An accepted input is decided. -/
theorem IsAccepted.isDecided
    (accepted : IsAccepted input) :
    ∃ decision, decideReleaseRetention locale input = .ok decision := by
  have previousInstalled :
      input.activeRelease.previousReleaseId.all (· ∈ input.releaseIds) =
        true := by
    rw [Option.all_eq_true]
    intro previous isPrevious
    exact decide_eq_true (accepted.previousInstalled previous isPrevious)
  simp only [decideReleaseRetention, accepted.parses, accepted.distinct,
    accepted.currentInstalled, previousInstalled, not_true, Bool.not_true,
    Bool.false_eq_true, if_false]
  split
  · exact ⟨_, rfl⟩
  · exact ⟨_, rfl⟩

theorem sortReleaseIds_perm (releaseIds : List RunnerReleaseId) :
    (sortReleaseIds releaseIds).Perm releaseIds :=
  List.mergeSort_perm releaseIds _

@[simp] theorem mem_sortReleaseIds
    {releaseIds : List RunnerReleaseId}
    {releaseId : RunnerReleaseId} :
    releaseId ∈ sortReleaseIds releaseIds ↔ releaseId ∈ releaseIds :=
  (sortReleaseIds_perm releaseIds).mem_iff

@[simp] theorem length_sortReleaseIds (releaseIds : List RunnerReleaseId) :
    (sortReleaseIds releaseIds).length = releaseIds.length :=
  (sortReleaseIds_perm releaseIds).length_eq

theorem newerNotAfter_iff
    {left right : InstalledReleaseRecord} :
    newerNotAfter locale left right = true ↔
      right.installedAt.time.milliseconds < left.installedAt.time.milliseconds ∨
        left.installedAt.time.milliseconds =
            right.installedAt.time.milliseconds ∧
          locale.notAfter (releaseIdText left.releaseId)
              (releaseIdText right.releaseId) =
            true := by
  rw [newerNotAfter, Bool.and_eq_true, Bool.or_eq_true, Bool.not_eq_true',
    ← Bool.not_eq_true, locale.notAfter_timestamps, locale.notAfter_timestamps,
    not_le]
  constructor
  · rintro ⟨notNewer, older | before⟩
    · exact Or.inl older
    · rcases notNewer.lt_or_eq with older | same
      · exact Or.inl older
      · exact Or.inr ⟨same.symm, before⟩
  · rintro (older | ⟨same, before⟩)
    · exact ⟨older.le, Or.inl older⟩
    · exact ⟨same.ge, Or.inr before⟩

theorem newerNotAfter_trans
    (first second third : InstalledReleaseRecord)
    (before : newerNotAfter locale first second = true)
    (after : newerNotAfter locale second third = true) :
    newerNotAfter locale first third = true := by
  rw [newerNotAfter_iff] at before after ⊢
  rcases before with older | ⟨same, before⟩
  · rcases after with older' | ⟨same', -⟩
    · exact Or.inl (older'.trans older)
    · exact Or.inl (same' ▸ older)
  · rcases after with older' | ⟨same', after⟩
    · exact Or.inl (same ▸ older')
    · exact Or.inr
        ⟨same.trans same', locale.notAfter_trans _ _ _ before after⟩

theorem newerNotAfter_total (first second : InstalledReleaseRecord) :
    (newerNotAfter locale first second || newerNotAfter locale second first) =
      true := by
  rw [Bool.or_eq_true, newerNotAfter_iff, newerNotAfter_iff]
  rcases lt_trichotomy first.installedAt.time.milliseconds
    second.installedAt.time.milliseconds with older | same | newer
  · exact Or.inr (Or.inl older)
  · have ordered :=
      locale.notAfter_total (releaseIdText first.releaseId)
        (releaseIdText second.releaseId)
    rw [Bool.or_eq_true] at ordered
    rcases ordered with before | after
    · exact Or.inl (Or.inr ⟨same, before⟩)
    · exact Or.inr (Or.inr ⟨same.symm, after⟩)
  · exact Or.inl (Or.inl newer)

theorem newestFirst_perm (installed : List InstalledReleaseRecord) :
    (newestFirst locale installed).Perm installed :=
  List.mergeSort_perm installed _

/-- No release stands before one that was installed later. -/
theorem newestFirst_pairwise (installed : List InstalledReleaseRecord) :
    (newestFirst locale installed).Pairwise fun first second =>
      second.installedAt.time.milliseconds ≤
        first.installedAt.time.milliseconds := by
  have sorted :=
    List.pairwise_mergeSort (@newerNotAfter_trans locale)
      (@newerNotAfter_total locale) installed
  refine sorted.imp ?_
  intro first second before
  rcases newerNotAfter_iff.mp before with older | ⟨same, -⟩
  · exact older.le
  · exact same.ge

/-- The mandatory releases that are installed. -/
def RunnerReleaseRetentionInput.mandatoryInstalled
    (input : RunnerReleaseRetentionInput) :
    List RunnerReleaseId :=
  input.mandatory.filter (· ∈ input.releaseIds)

/-- Every release is kept or removed, and what must stay is kept. -/
structure Retains
    (input : RunnerReleaseRetentionInput)
    (decision : RunnerReleaseRetentionDecision) :
    Prop where
  partition :
    (decision.keepReleaseIds ++ decision.removeReleaseIds).Perm input.releaseIds
  noDuplicates :
    (decision.keepReleaseIds ++ decision.removeReleaseIds).Nodup
  keepsCurrent : input.activeRelease.currentReleaseId ∈ decision.keepReleaseIds
  keepsPrevious :
    ∀ previous,
      input.activeRelease.previousReleaseId = some previous →
        previous ∈ decision.keepReleaseIds
  keepsJournal :
    ∀ journal,
      input.journal = some journal →
        isNonterminal journal.state = true →
          ∀ releaseId,
            releaseId = journal.sourceReleaseId ∨
                releaseId = journal.targetReleaseId →
              releaseId ∈ input.releaseIds →
                releaseId ∈ decision.keepReleaseIds
  keepsNewest :
    ∀ kept ∈ input.installedReleases,
      ∀ removed ∈ input.installedReleases,
        kept.releaseId ∈ decision.keepReleaseIds →
          kept.releaseId ∉ input.mandatory →
            removed.releaseId ∈ decision.removeReleaseIds →
              removed.installedAt.time.milliseconds ≤
                kept.installedAt.time.milliseconds
  leavesRecovery :
    input.NeedsManualRecovery → decision.removeReleaseIds = []

/-- No more are kept than the limit says, or than are mandatory. -/
def IsBounded
    (input : RunnerReleaseRetentionInput)
    (decision : RunnerReleaseRetentionDecision) :
    Prop :=
  decision.keepReleaseIds.length ≤
    max input.maxRetained input.mandatoryInstalled.length

/-- As many are kept as the limit says, or all. -/
def IsFilled
    (input : RunnerReleaseRetentionInput)
    (decision : RunnerReleaseRetentionDecision) :
    Prop :=
  decision.keepReleaseIds.length =
    min input.maxRetained input.installedReleases.length

theorem newestFirst_releaseIds_perm :
    ((newestFirst locale input.installedReleases).map
        InstalledReleaseRecord.releaseId).Perm
      input.releaseIds :=
  (newestFirst_perm _).map _

theorem IsAccepted.distinctNewest
    (accepted : IsAccepted input) :
    ((newestFirst locale input.installedReleases).map
        InstalledReleaseRecord.releaseId).Nodup :=
  newestFirst_releaseIds_perm.nodup_iff.mpr accepted.distinct

theorem IsAccepted.distinctKeep
    (accepted : IsAccepted input) :
    (input.keep locale).Nodup :=
  nodup_fillUp (List.nodup_dedup _) accepted.distinctNewest

/-- What is mandatory is kept. -/
theorem IsAccepted.keepsMandatory
    (accepted : IsAccepted input)
    {releaseId : RunnerReleaseId}
    (isMandatory :
      releaseId ∈ mandatoryReleases input.activeRelease input.journal) :
    releaseId ∈ input.keep locale := by
  rw [RunnerReleaseRetentionInput.keep, fillUp_eq accepted.distinctNewest]
  exact List.mem_append_left _ (List.mem_dedup.mpr isMandatory)

theorem IsAccepted.eq_of_releaseId
    (accepted : IsAccepted input)
    {first second : InstalledReleaseRecord}
    (isFirst : first ∈ input.installedReleases)
    (isSecond : second ∈ input.installedReleases)
    (same : first.releaseId = second.releaseId) :
    first = second :=
  List.inj_on_of_nodup_map accepted.distinct isFirst isSecond same

/-- Only older releases are left behind. -/
theorem IsAccepted.keepsNewest
    (accepted : IsAccepted input)
    {kept removed : InstalledReleaseRecord}
    (isKept : kept ∈ input.installedReleases)
    (isRemoved : removed ∈ input.installedReleases)
    (keeps : kept.releaseId ∈ input.keep locale)
    (notMandatory : kept.releaseId ∉ input.mandatory)
    (removes : removed.releaseId ∉ input.keep locale) :
    removed.installedAt.time.milliseconds ≤
      kept.installedAt.time.milliseconds := by
  have ordered :
      ((newestFirst locale input.installedReleases).map
          InstalledReleaseRecord.releaseId).Pairwise fun first second =>
        ∀ newer ∈ input.installedReleases,
          ∀ older ∈ input.installedReleases,
            newer.releaseId = first → older.releaseId = second →
              older.installedAt.time.milliseconds ≤
                newer.installedAt.time.milliseconds := by
    rw [List.pairwise_map]
    refine (newestFirst_pairwise input.installedReleases).imp_of_mem ?_
    intro first second isFirst isSecond notNewer newer isNewer older isOlder
      sameFirst sameSecond
    obtain rfl :=
      accepted.eq_of_releaseId isNewer
        ((newestFirst_perm _).mem_iff.mp isFirst) sameFirst
    obtain rfl :=
      accepted.eq_of_releaseId isOlder
        ((newestFirst_perm _).mem_iff.mp isSecond) sameSecond
    exact notNewer
  have listed :
      removed.releaseId ∈
        (newestFirst locale input.installedReleases).map
          InstalledReleaseRecord.releaseId :=
    newestFirst_releaseIds_perm.mem_iff.mpr (List.mem_map_of_mem isRemoved)
  exact pairwise_fillUp accepted.distinctNewest ordered keeps notMandatory
    removes listed kept isKept removed isRemoved rfl rfl

/-- The elements that two lists have in common, in either order. -/
theorem filter_mem_perm
    {α : Type*}
    [DecidableEq α]
    {first second : List α}
    (distinctFirst : first.Nodup)
    (distinctSecond : second.Nodup) :
    (first.filter (· ∈ second)).Perm (second.filter (· ∈ first)) := by
  rw [List.perm_ext_iff_of_nodup (distinctFirst.filter _)
    (distinctSecond.filter _)]
  intro item
  simp [and_comm]

/-- The mandatory releases that are installed, and what there is room for. -/
theorem IsAccepted.length_kept
    (accepted : IsAccepted input) :
    (input.releaseIds.filter (· ∈ input.keep locale)).length =
      input.mandatoryInstalled.length +
        min (input.maxRetained - input.mandatory.length)
          (input.installedReleases.length -
            input.mandatoryInstalled.length) := by
  have distinctMandatory : input.mandatory.Nodup := List.nodup_dedup _
  have others :
      (newItems input.mandatory
          ((newestFirst locale input.installedReleases).map
            InstalledReleaseRecord.releaseId)).length =
        input.installedReleases.length - input.mandatoryInstalled.length := by
    have sameItems :
        (newItems input.mandatory
            ((newestFirst locale input.installedReleases).map
              InstalledReleaseRecord.releaseId)).length =
          (input.releaseIds.filter (· ∉ input.mandatory)).length :=
      (newestFirst_releaseIds_perm.filter _).length_eq
    have halves :=
      input.releaseIds.length_eq_length_filter_add (· ∈ input.mandatory)
    have mandatoryHalf :=
      (filter_mem_perm accepted.distinct distinctMandatory).length_eq
    rw [RunnerReleaseRetentionInput.releaseIds, List.length_map] at halves
    rw [sameItems, RunnerReleaseRetentionInput.mandatoryInstalled,
      ← mandatoryHalf]
    simp only [RunnerReleaseRetentionInput.releaseIds, decide_not] at halves ⊢
    omega
  have installedNew :
      ∀ releaseId ∈
        (newItems input.mandatory
            ((newestFirst locale input.installedReleases).map
              InstalledReleaseRecord.releaseId)).take
          (input.maxRetained - input.mandatory.length),
        decide (releaseId ∈ input.releaseIds) = true := by
    intro releaseId taken
    have isNew := mem_newItems.mp (List.mem_of_mem_take taken)
    exact decide_eq_true (newestFirst_releaseIds_perm.mem_iff.mp isNew.1)
  rw [(filter_mem_perm accepted.distinct accepted.distinctKeep).length_eq,
    RunnerReleaseRetentionInput.keep, fillUp_eq accepted.distinctNewest,
    List.filter_append, List.length_append,
    List.filter_eq_self.mpr installedNew, List.length_take, others]
  rfl

theorem IsAccepted.mandatoryInstalled_le
    (accepted : IsAccepted input) :
    input.mandatoryInstalled.length ≤ input.mandatory.length ∧
      input.mandatoryInstalled.length ≤ input.installedReleases.length := by
  have distinctMandatory : input.mandatory.Nodup := List.nodup_dedup _
  refine ⟨List.length_filter_le _ _, ?_⟩
  rw [RunnerReleaseRetentionInput.mandatoryInstalled,
    ← (filter_mem_perm accepted.distinct distinctMandatory).length_eq]
  refine (List.length_filter_le _ _).trans ?_
  rw [RunnerReleaseRetentionInput.releaseIds, List.length_map]

theorem IsAccepted.retains_all
    (accepted : IsAccepted input) :
    Retains input
      { keepReleaseIds := sortReleaseIds input.releaseIds
        removeReleaseIds := [] } where
  partition := by
    rw [List.append_nil]
    exact sortReleaseIds_perm _
  noDuplicates := by
    rw [List.append_nil]
    exact (sortReleaseIds_perm _).nodup_iff.mpr accepted.distinct
  keepsCurrent := mem_sortReleaseIds.mpr accepted.currentInstalled
  keepsPrevious previous isPrevious :=
    mem_sortReleaseIds.mpr (accepted.previousInstalled previous isPrevious)
  keepsJournal journal isJournal nonterminal releaseId named isInstalled :=
    mem_sortReleaseIds.mpr isInstalled
  keepsNewest kept isKept removed isRemoved keeps notMandatory removes := by
    cases removes
  leavesRecovery needs := rfl

theorem IsAccepted.retains_keep
    (accepted : IsAccepted input)
    (normal : ¬input.NeedsManualRecovery) :
    Retains input
      { keepReleaseIds :=
          sortReleaseIds (input.releaseIds.filter (· ∈ input.keep locale))
        removeReleaseIds :=
          sortReleaseIds (input.releaseIds.filter (· ∉ input.keep locale)) } := by
  have parts :
      (sortReleaseIds (input.releaseIds.filter (· ∈ input.keep locale)) ++
          sortReleaseIds
            (input.releaseIds.filter (· ∉ input.keep locale))).Perm
        input.releaseIds := by
    refine
      ((sortReleaseIds_perm _).append (sortReleaseIds_perm _)).trans ?_
    simp only [decide_not]
    exact List.filter_append_perm _ input.releaseIds
  exact
    { partition := parts
      noDuplicates := parts.nodup_iff.mpr accepted.distinct
      keepsCurrent := by
        have isMandatory :
            input.activeRelease.currentReleaseId ∈
              mandatoryReleases input.activeRelease input.journal := by
          simp [mandatoryReleases]
        simp [accepted.currentInstalled, accepted.keepsMandatory isMandatory]
      keepsPrevious := by
        intro previous isPrevious
        have isMandatory :
            previous ∈
              mandatoryReleases input.activeRelease input.journal := by
          simp [mandatoryReleases, isPrevious]
        simp [accepted.previousInstalled previous isPrevious,
          accepted.keepsMandatory isMandatory]
      keepsJournal := by
        intro journal isJournal nonterminal releaseId named isInstalled
        have isMandatory :
            releaseId ∈
              mandatoryReleases input.activeRelease input.journal := by
          simp [mandatoryReleases, isJournal, nonterminal, named]
        simp [isInstalled, accepted.keepsMandatory isMandatory]
      keepsNewest := by
        intro kept isKept removed isRemoved keeps notMandatory removes
        rw [mem_sortReleaseIds, List.mem_filter, decide_eq_true_eq]
          at keeps removes
        exact accepted.keepsNewest isKept isRemoved keeps.2 notMandatory
          removes.2
      leavesRecovery := fun needs => absurd needs normal }

/--
Except in manual recovery no more are kept than the limit says or than are
mandatory, and as many as the limit says if what is mandatory is installed.
-/
theorem decideReleaseRetention_retains
    (decided : decideReleaseRetention locale input = .ok decision) :
    Retains input decision ∧
      (¬input.NeedsManualRecovery →
        IsBounded input decision ∧
          ((∀ releaseId ∈ input.mandatory, releaseId ∈ input.releaseIds) →
            input.mandatoryInstalled.length ≤ input.maxRetained →
              IsFilled input decision)) := by
  obtain ⟨accepted, ⟨needs, rfl⟩ | ⟨normal, rfl⟩⟩ :=
    decideReleaseRetention_eq_ok decided
  · exact ⟨accepted.retains_all, fun normal => absurd needs normal⟩
  refine ⟨accepted.retains_keep normal, fun _ => ?_⟩
  obtain ⟨fewer, installed⟩ := accepted.mandatoryInstalled_le
  constructor
  · rw [IsBounded, length_sortReleaseIds, accepted.length_kept]
    omega
  · intro allInstalled withinLimit
    have same : input.mandatoryInstalled = input.mandatory :=
      List.filter_eq_self.mpr fun releaseId isMandatory =>
        decide_eq_true (allInstalled releaseId isMandatory)
    rw [IsFilled, length_sortReleaseIds, accepted.length_kept]
    rw [same] at withinLimit installed ⊢
    omega

/-- The bounds without an exception. -/
def RetentionLaw
    (locale : Locale)
    (input : RunnerReleaseRetentionInput) :
    Prop :=
  ∀ decision,
    decideReleaseRetention locale input = .ok decision →
      Retains input decision ∧ IsBounded input decision ∧
        (input.mandatoryInstalled.length ≤ input.maxRetained →
          IsFilled input decision)

/-- What the digits of a timestamp say; no other text is told apart. -/
def exampleRank (text : JsString) : Int :=
  ((dateParse (fun _ => none) text).map TimeValue.milliseconds).getD (-maxTime)

def exampleLocale : Locale where
  notAfter first second := exampleRank first ≤ exampleRank second
  notAfter_trans first second third before after := by
    simp only [decide_eq_true_eq] at before after ⊢
    exact before.trans after
  notAfter_total first second := by
    simpa using le_total (exampleRank first) (exampleRank second)
  notAfter_timestamps first second := by
    simp [exampleRank, RunnerUpdateTimestamp.text, dateParse_toISOString]

def exampleRelease (digest : Sha256) (milliseconds : Fin 1000) :
    InstalledReleaseRecord :=
  { releaseId := ⟨digest⟩
    installedAt :=
      { time := ⟨milliseconds.val, by rw [maxTime]; omega⟩
        inYears := by simp only; omega } }

def exampleActive : ActiveReleaseRecord :=
  { generation := 3
    currentReleaseId := ⟨3⟩
    previousReleaseId := some ⟨2⟩
    currentActivationId := "activation-c"
    activatedAt := 3
    previousDiffers := by decide }

/-- A journal of an update of the current release to another one. -/
def exampleJournal
    (state : RunnerUpdateState)
    (failureCode : Option RunnerUpdateErrorCode)
    (valid :
      ((!requiresFailureCode state || failureCode.isSome) &&
          (failureCode.isNone || allowsFailureCode state)) =
        true) :
    RunnerUpdateJournal :=
  { revision := 1
    operation := .apply
    updateId := ⟨0⟩
    state
    sourceReleaseId := ⟨3⟩
    targetReleaseId := ⟨4⟩
    fromVersion := "1.2.0"
    targetVersion := "1.3.0"
    sourceManifestSha256 := 3
    targetManifestSha256 := 4
    sourceArtifactSha256 := 3
    targetArtifactSha256 := 4
    startedAt := 400
    updatedAt := 400
    failureCode
    valid := by
      rw [Bool.and_eq_true] at valid
      simp only [JournalFields.isValid, maxRevision, valid, Bool.and_true]
      rfl }

def exampleInput
    (journal : Option RunnerUpdateJournal)
    (maxRetainedReleases : Option Nat) :
    RunnerReleaseRetentionInput :=
  { installedReleases :=
      [exampleRelease 1 100, exampleRelease 2 200, exampleRelease 3 300]
    activeRelease := exampleActive
    journal
    maxRetainedReleases }

theorem exampleInput_releaseIds
    (journal : Option RunnerUpdateJournal)
    (maxRetainedReleases : Option Nat) :
    (exampleInput journal maxRetainedReleases).releaseIds =
      [⟨1⟩, ⟨2⟩, ⟨3⟩] :=
  rfl

theorem exampleInput_accepted
    (journal : Option RunnerUpdateJournal)
    {maxRetainedReleases : Option Nat}
    (parses :
      (exampleInput journal maxRetainedReleases).parses = true) :
    IsAccepted (exampleInput journal maxRetainedReleases) where
  parses := parses
  distinct := by
    rw [exampleInput_releaseIds]
    decide
  currentInstalled := List.mem_of_getLast? rfl
  previousInstalled previous isPrevious := by
    rw [exampleInput_releaseIds, ← Option.some.inj isPrevious]
    decide

def exampleRecovery : RunnerReleaseRetentionInput :=
  exampleInput
    (some
      (exampleJournal .manualRecoveryRequired (some .recoveryAmbiguous)
        (by decide)))
    none

/-- The target is mandatory before it is installed. -/
def exampleStaging : RunnerReleaseRetentionInput :=
  exampleInput (some (exampleJournal .staging none (by decide))) (some 3)

theorem decideReleaseRetention_retains_exampleInput :
    ∃ decision,
      decideReleaseRetention exampleLocale (exampleInput none none) =
          .ok decision ∧
        Retains (exampleInput none none) decision := by
  have accepted : IsAccepted (exampleInput none none) :=
    exampleInput_accepted none rfl
  obtain ⟨decision, decided⟩ := @IsAccepted.isDecided exampleLocale _ accepted
  exact ⟨decision, decided, (decideReleaseRetention_retains decided).1⟩

/-- Manual recovery keeps more, and a target to come takes up room. -/
theorem not_retentionLaw :
    ¬RetentionLaw exampleLocale exampleRecovery ∧
      ¬RetentionLaw exampleLocale exampleStaging := by
  constructor
  · intro law
    have accepted : IsAccepted exampleRecovery := exampleInput_accepted _ rfl
    obtain ⟨decision, decided⟩ := @IsAccepted.isDecided exampleLocale _ accepted
    obtain ⟨-, bounded, -⟩ := law decision decided
    obtain ⟨-, ⟨-, rfl⟩ | ⟨normal, -⟩⟩ := decideReleaseRetention_eq_ok decided
    · rw [IsBounded, length_sortReleaseIds] at bounded
      revert bounded
      decide
    · exact normal ⟨_, rfl, rfl⟩
  · intro law
    have accepted : IsAccepted exampleStaging := exampleInput_accepted _ rfl
    obtain ⟨decision, decided⟩ := @IsAccepted.isDecided exampleLocale _ accepted
    obtain ⟨-, -, filled⟩ := law decision decided
    obtain ⟨-, ⟨⟨journal, isJournal, needs⟩, -⟩ | ⟨normal, rfl⟩⟩ :=
      decideReleaseRetention_eq_ok decided
    · obtain rfl := Option.some.inj isJournal
      cases needs
    · have few : exampleStaging.mandatoryInstalled.length ≤
          exampleStaging.maxRetained := by
        decide
      have isFilled := filled few
      rw [IsFilled, length_sortReleaseIds, accepted.length_kept] at isFilled
      revert isFilled
      decide

end TaskTwin.RunnerUpdate.Retention
