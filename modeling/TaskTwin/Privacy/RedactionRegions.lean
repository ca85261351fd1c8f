import Mathlib.Algebra.Order.Floor.Ring
import Mathlib.Data.Rat.Floor
import TaskTwin.Geometry.Merging
import TaskTwin.Privacy.Classification
import TaskTwin.Text.Collation

/-!
# Redaction plans

The regions of a viewport that are painted over before a screenshot is stored.
Coordinates are exact, and rounded to thousandths of a pixel where the code
rounds them.
-/

namespace TaskTwin.Privacy

open Text Schema Collection Geometry

def maxRedactionRegions : Nat := 200

def maxRedactionCoordinate : ℚ := 100000

def maxDevicePixelRatio : ℚ := 8

def maxPrivacyReasons : Nat := 16

/-- `SIGNIFICANT_OVERLAP_RATIO`. -/
def significantOverlapRatio : ℚ := 1 / 2

structure RedactionViewport where
  width : ℚ
  height : ℚ
  devicePixelRatio : ℚ
  deriving DecidableEq, Repr

/-- `RedactionViewportSchema`. -/
def RedactionViewport.parses (viewport : RedactionViewport) : Bool :=
  0 < viewport.width && viewport.width ≤ maxRedactionCoordinate &&
    0 < viewport.height && viewport.height ≤ maxRedactionCoordinate &&
    0 < viewport.devicePixelRatio &&
    viewport.devicePixelRatio ≤ maxDevicePixelRatio

structure RedactionRegionCandidate where
  id : JsString
  x : ℚ
  y : ℚ
  width : ℚ
  height : ℚ
  sensitivity : Sensitivity
  reasons : List PrivacyRuleId
  deriving DecidableEq, Repr

/-- `FiniteCoordinateSchema`. -/
def isCoordinate (value : ℚ) : Bool :=
  -maxRedactionCoordinate ≤ value && value ≤ maxRedactionCoordinate

def hasReasons (reasons : List PrivacyRuleId) : Bool :=
  1 ≤ reasons.length && reasons.length ≤ maxPrivacyReasons

/-- `RedactionRegionCandidateSchema`. -/
def parseRedactionRegionCandidate
    (candidate : RedactionRegionCandidate) :
    Option RedactionRegionCandidate :=
  if hasLength 1 80 (trimText candidate.id) && isCoordinate candidate.x &&
      isCoordinate candidate.y && isCoordinate candidate.width &&
      isCoordinate candidate.height && hasReasons candidate.reasons then
    some { candidate with id := trimText candidate.id }
  else none

/-- The mode of a region is always solid. -/
structure RedactionRegion where
  /-- The number in `privacy-region-${number}`. -/
  number : Nat
  rectangle : Rectangle ℚ
  sensitivity : Sensitivity
  reasons : List PrivacyRuleId
  deriving DecidableEq, Repr

/-- `RedactionRegionSchema`, but for the text of the identifier. -/
def RedactionRegion.parses (region : RedactionRegion) : Bool :=
  0 ≤ region.rectangle.x && region.rectangle.x ≤ maxRedactionCoordinate &&
    0 ≤ region.rectangle.y && region.rectangle.y ≤ maxRedactionCoordinate &&
    0 < region.rectangle.width &&
    region.rectangle.width ≤ maxRedactionCoordinate &&
    0 < region.rectangle.height &&
    region.rectangle.height ≤ maxRedactionCoordinate &&
    hasReasons region.reasons

structure RedactionPlan where
  viewport : RedactionViewport
  generatedAt : JsString
  regions : List RedactionRegion
  deriving DecidableEq, Repr

inductive RedactionError where
  /-- A schema rejects its input. -/
  | rejected
  | tooManyRegions
  | noVisibleArea
  /-- The regions with this path are not inside the viewport. -/
  | outsideViewport (indexes : List Nat)
  deriving DecidableEq, Repr

def RedactionError.message : RedactionError → Option String
  | .rejected => none
  | .tooManyRegions => some "Redaction region count exceeds 200."
  | .noVisibleArea => some "Redaction regions must have visible non-zero area."
  | .outsideViewport _ =>
      some "Redaction region must remain inside the viewport."

def RedactionViewport.hasInside
    (viewport : RedactionViewport)
    (rectangle : Rectangle ℚ) :
    Bool :=
  rectangle.x + rectangle.width ≤ viewport.width &&
    rectangle.y + rectangle.height ≤ viewport.height

/-- `RedactionPlanSchema`. -/
def parseRedactionPlan
    (plan : RedactionPlan) :
    Except RedactionError RedactionPlan :=
  if !(plan.viewport.parses && isDateTime plan.generatedAt &&
      plan.regions.all RedactionRegion.parses &&
      plan.regions.length ≤ maxRedactionRegions) then
    .error .rejected
  else
    let outside :=
      plan.regions.zipIdx.filter fun region =>
        !plan.viewport.hasInside region.1.rectangle
    if outside = [] then .ok plan
    else .error (.outsideViewport (outside.map Prod.snd))

structure NormalizedRegion extends Rectangle ℚ where
  sourceIds : List JsString
  sensitivity : Sensitivity
  reasons : List PrivacyRuleId
  deriving DecidableEq, Repr

/-- `Math.round(value * 1_000) / 1_000`. -/
def canonicalNumber (value : ℚ) : ℚ := ⌊value * 1000 + 1 / 2⌋ / 1000

def clamp (value maximum : ℚ) : ℚ := min (max value 0) maximum

/-- `[...new Set(values)].sort()`, by the texts of the values. -/
def sortedSet
    {α : Type}
    [DecidableEq α]
    (text : α → JsString)
    (values : List α) :
    List α :=
  ((mapOf (fun value => value) values).map Prod.snd).mergeSort
    fun first second => decide (text first ≤ text second)

def PrivacyRuleId.text : PrivacyRuleId → String
  | .authPasswordType => "AUTH_PASSWORD_TYPE"
  | .authAutocomplete => "AUTH_AUTOCOMPLETE"
  | .authMetadata => "AUTH_METADATA"
  | .financialAutocomplete => "FINANCIAL_AUTOCOMPLETE"
  | .financialMetadata => "FINANCIAL_METADATA"
  | .identityMetadata => "IDENTITY_METADATA"
  | .healthMetadata => "HEALTH_METADATA"
  | .personalInputType => "PERSONAL_INPUT_TYPE"
  | .personalAutocomplete => "PERSONAL_AUTOCOMPLETE"
  | .personalMetadata => "PERSONAL_METADATA"
  | .unknownSensitiveMetadata => "UNKNOWN_SENSITIVE_METADATA"
  | .sensitiveMetadataLiteral => "SENSITIVE_METADATA_LITERAL"
  | .publicSemanticElement => "PUBLIC_SEMANTIC_ELEMENT"
  | .generalNoSensitiveSignal => "GENERAL_NO_SENSITIVE_SIGNAL"

def sortedReasons (reasons : List PrivacyRuleId) : List PrivacyRuleId :=
  sortedSet (fun reason => js reason.text) reasons

/-- The part of a candidate that is in the viewport, before it is rounded. -/
def visibleRectangle
    (candidate : RedactionRegionCandidate)
    (viewport : RedactionViewport) :
    Rectangle ℚ :=
  let initialRight := candidate.x + candidate.width
  let initialBottom := candidate.y + candidate.height
  let left := clamp (min candidate.x initialRight) viewport.width
  let right := clamp (max candidate.x initialRight) viewport.width
  let top := clamp (min candidate.y initialBottom) viewport.height
  let bottom := clamp (max candidate.y initialBottom) viewport.height
  { x := left, y := top, width := right - left, height := bottom - top }

def canonicalRectangle (rectangle : Rectangle ℚ) : Rectangle ℚ :=
  { x := canonicalNumber rectangle.x
    y := canonicalNumber rectangle.y
    width := canonicalNumber rectangle.width
    height := canonicalNumber rectangle.height }

def normalizeRegion
    (candidate : RedactionRegionCandidate)
    (viewport : RedactionViewport) :
    Except RedactionError NormalizedRegion :=
  let region := canonicalRectangle (visibleRectangle candidate viewport)
  if region.width ≤ 0 || region.height ≤ 0 then .error .noVisibleArea
  else
    .ok
      { region with
        sourceIds := [candidate.id]
        sensitivity := candidate.sensitivity
        reasons := sortedReasons candidate.reasons }

def area (region : NormalizedRegion) : ℚ := region.width * region.height

def intersectionArea (left right : NormalizedRegion) : ℚ :=
  let width :=
    max 0
      (min (left.x + left.width) (right.x + right.width) - max left.x right.x)
  let height :=
    max 0
      (min (left.y + left.height) (right.y + right.height) -
        max left.y right.y)
  width * height

def significantlyOverlaps (left right : NormalizedRegion) : Bool :=
  let intersection := intersectionArea left right
  0 < intersection &&
    significantOverlapRatio ≤ intersection / min (area left) (area right)

/-- `SENSITIVITY_PRIORITY.indexOf(sensitivity)`. -/
def sensitivityRank (sensitivity : Sensitivity) : Nat :=
  sensitivityPriority.idxOf sensitivity

def strongerSensitivity (left right : Sensitivity) : Sensitivity :=
  if sensitivityRank left ≤ sensitivityRank right then left else right

def merge (left right : NormalizedRegion) : NormalizedRegion :=
  let x := min left.x right.x
  let y := min left.y right.y
  let farRight := max (left.x + left.width) (right.x + right.width)
  let bottom := max (left.y + left.height) (right.y + right.height)
  { sourceIds := sortedSet (fun id => id) (left.sourceIds ++ right.sourceIds)
    x := canonicalNumber x
    y := canonicalNumber y
    width := canonicalNumber (farRight - x)
    height := canonicalNumber (bottom - y)
    sensitivity := strongerSensitivity left.sensitivity right.sensitivity
    reasons := sortedReasons (left.reasons ++ right.reasons) }

variable (collation : Collation)

/-- `compareRegions(left, right) <= 0`. -/
def regionNotAfter (left right : NormalizedRegion) : Bool :=
  if left.y ≠ right.y then left.y < right.y
  else if left.x ≠ right.x then left.x < right.x
  else if left.width ≠ right.width then left.width < right.width
  else if left.height ≠ right.height then left.height < right.height
  else if sensitivityRank left.sensitivity ≠ sensitivityRank right.sensitivity
    then
      sensitivityRank left.sensitivity < sensitivityRank right.sensitivity
  else
    collation.notAfter ((js ":").intercalate left.sourceIds)
      ((js ":").intercalate right.sourceIds)

def sortRegions (regions : List NormalizedRegion) : List NormalizedRegion :=
  regions.mergeSort (regionNotAfter collation)

/-- The first two regions that overlap are merged, if any do. -/
def mergeFirstPair : List NormalizedRegion → Option (List NormalizedRegion)
  | [] => none
  | left :: rest =>
      match rest.find? (significantlyOverlaps left) with
      | some right =>
          some (merge left right :: rest.eraseP (significantlyOverlaps left))
      | none => (mergeFirstPair rest).map (left :: ·)

/-- The loop of `mergeRegions`, for at most a number of merges. -/
def mergeWhileChanged :
    Nat → List NormalizedRegion → List NormalizedRegion
  | 0, remaining => remaining
  | fuel + 1, remaining =>
      match mergeFirstPair remaining with
      | none => remaining
      | some merged => mergeWhileChanged fuel (sortRegions collation merged)

/-- Every merge leaves one region less. -/
def mergeRegions (regions : List NormalizedRegion) : List NormalizedRegion :=
  sortRegions collation
    (mergeWhileChanged collation regions.length (sortRegions collation regions))

def redactionRegions (merged : List NormalizedRegion) : List RedactionRegion :=
  merged.zipIdx.map fun (region, index) =>
    { number := index + 1
      rectangle := region.toRectangle
      sensitivity := region.sensitivity
      reasons := region.reasons }

def buildRedactionPlan
    (viewport : RedactionViewport)
    (generatedAt : JsString)
    (candidates : List RedactionRegionCandidate) :
    Except RedactionError RedactionPlan :=
  if !viewport.parses then .error .rejected
  else if maxRedactionRegions < candidates.length then .error .tooManyRegions
  else
    match candidates.mapM parseRedactionRegionCandidate with
    | none => .error .rejected
    | some candidates => do
        let regions ←
          candidates.mapM fun candidate => normalizeRegion candidate viewport
        parseRedactionPlan
          { viewport
            generatedAt
            regions := redactionRegions (mergeRegions collation regions) }

end TaskTwin.Privacy

/-!
## Regions that are merged

Normalized regions lie on a grid, where merging two of them rounds nothing.
-/

namespace TaskTwin.Privacy

open Text Collection Geometry

/-- A whole number of thousandths. -/
def IsCanonical (value : ℚ) : Prop := ∃ thousandths : ℤ, value = thousandths / 1000

theorem canonicalNumber_isCanonical (value : ℚ) :
    IsCanonical (canonicalNumber value) :=
  ⟨_, rfl⟩

theorem canonicalNumber_of_isCanonical
    {value : ℚ}
    (isCanonical : IsCanonical value) :
    canonicalNumber value = value := by
  obtain ⟨thousandths, rfl⟩ := isCanonical
  have isFloor :
      ⌊(thousandths : ℚ) / 1000 * 1000 + 1 / 2⌋ = thousandths := by
    rw [Int.floor_eq_iff]
    constructor
    · linarith
    · linarith
  rw [canonicalNumber, isFloor]

theorem canonicalNumber_near (value : ℚ) :
    value - 1 / 2000 ≤ canonicalNumber value ∧
      canonicalNumber value ≤ value + 1 / 2000 := by
  have notMore := Int.floor_le (value * 1000 + 1 / 2)
  have notLess := Int.lt_floor_add_one (value * 1000 + 1 / 2)
  rw [canonicalNumber]
  constructor
  · linarith
  · linarith

variable {value other : ℚ}

theorem canonicalNumber_mono
    (notMore : value ≤ other) :
    canonicalNumber value ≤ canonicalNumber other := by
  have floors : ⌊value * 1000 + 1 / 2⌋ ≤ ⌊other * 1000 + 1 / 2⌋ :=
    Int.floor_le_floor (by linarith)
  have floors' :
      (⌊value * 1000 + 1 / 2⌋ : ℚ) ≤ (⌊other * 1000 + 1 / 2⌋ : ℚ) := by
    exact_mod_cast floors
  rw [canonicalNumber, canonicalNumber]
  linarith

theorem canonicalNumber_pos
    {value : ℚ}
    (isVisible : 1 / 1000 < value) :
    0 < canonicalNumber value := by
  have near := (canonicalNumber_near value).1
  linarith

theorem canonicalNumber_nonneg
    {value : ℚ}
    (notNegative : 0 ≤ value) :
    0 ≤ canonicalNumber value := by
  have isZero : canonicalNumber 0 = 0 :=
    canonicalNumber_of_isCanonical ⟨0, by simp⟩
  rw [← isZero]
  exact canonicalNumber_mono notNegative

theorem IsCanonical.add
    (isCanonical : IsCanonical value)
    (isCanonicalToo : IsCanonical other) :
    IsCanonical (value + other) := by
  obtain ⟨thousandths, rfl⟩ := isCanonical
  obtain ⟨thousandths', rfl⟩ := isCanonicalToo
  exact ⟨thousandths + thousandths', by push_cast; ring⟩

theorem IsCanonical.sub
    (isCanonical : IsCanonical value)
    (isCanonicalToo : IsCanonical other) :
    IsCanonical (value - other) := by
  obtain ⟨thousandths, rfl⟩ := isCanonical
  obtain ⟨thousandths', rfl⟩ := isCanonicalToo
  exact ⟨thousandths - thousandths', by push_cast; ring⟩

theorem IsCanonical.min
    (isCanonical : IsCanonical value)
    (isCanonicalToo : IsCanonical other) :
    IsCanonical (min value other) := by
  rcases min_choice value other with isMin | isMin
  · rwa [isMin]
  · rwa [isMin]

theorem IsCanonical.max
    (isCanonical : IsCanonical value)
    (isCanonicalToo : IsCanonical other) :
    IsCanonical (max value other) := by
  rcases max_choice value other with isMax | isMax
  · rwa [isMax]
  · rwa [isMax]

theorem sortedSet_canonical
    {α : Type}
    [DecidableEq α]
    (text : α → JsString)
    (values : List α) :
    Canonical (fun first second => decide (text first ≤ text second)) values
      (sortedSet text values) := by
  obtain ⟨distinct, same⟩ :=
    @mapOf_values _ _ _ (fun value : α => value) values
      fun _ _ _ _ isSame => isSame
  refine Canonical.mergeSort ?_ ?_ distinct same
  · intro first second third notAfter notAfterToo
    simp only [decide_eq_true_eq] at notAfter notAfterToo ⊢
    exact notAfter.trans notAfterToo
  · intro first second
    simpa using le_total (text first) (text second)

@[simp]
theorem mem_sortedReasons
    {reason : PrivacyRuleId}
    {reasons : List PrivacyRuleId} :
    reason ∈ sortedReasons reasons ↔ reason ∈ reasons :=
  (sortedSet_canonical _ reasons).same reason

theorem sortedReasons_eq
    {reasons others : List PrivacyRuleId}
    (same : SameElements reasons others) :
    sortedReasons reasons = sortedReasons others := by
  apply
    (sortedSet_canonical _ reasons).unique (sortedSet_canonical _ others) same
  intro first _ second _ notAfter notAfterToo
  simp only [decide_eq_true_eq] at notAfter notAfterToo
  have sameText := le_antisymm notAfter notAfterToo
  revert sameText
  cases first <;> cases second <;> decide +kernel

/-- The number of distinct reasons is within its bounds. -/
theorem hasReasons_sortedReasons
    {reasons : List PrivacyRuleId}
    (nonempty : reasons ≠ []) :
    hasReasons (sortedReasons reasons) = true := by
  have distinct : (sortedReasons reasons).Nodup :=
    (sortedSet_canonical _ reasons).distinct
  have notMore : (sortedReasons reasons).length ≤ 14 := by
    have every :
        ∀ reason : PrivacyRuleId,
          reason ∈
            [PrivacyRuleId.authPasswordType, .authAutocomplete, .authMetadata,
              .financialAutocomplete, .financialMetadata, .identityMetadata,
              .healthMetadata, .personalInputType, .personalAutocomplete,
              .personalMetadata, .unknownSensitiveMetadata,
              .sensitiveMetadataLiteral, .publicSemanticElement,
              .generalNoSensitiveSignal] := by
      intro reason
      cases reason <;> decide
    exact (List.subperm_of_subset distinct fun reason _ => every reason).length_le
  have notEmpty : sortedReasons reasons ≠ [] := by
    obtain ⟨reason, listed⟩ := List.exists_mem_of_ne_nil _ nonempty
    exact List.ne_nil_of_mem (mem_sortedReasons.mpr listed)
  have positive := List.length_pos_iff.mpr notEmpty
  rw [hasReasons, Bool.and_eq_true, decide_eq_true_eq, decide_eq_true_eq]
  exact ⟨positive, notMore.trans (by decide)⟩

/-- What is known of every normalized region. -/
structure NormalizedRegion.IsNormal (region : NormalizedRegion) : Prop where
  x : IsCanonical region.x
  y : IsCanonical region.y
  width : IsCanonical region.width
  height : IsCanonical region.height
  isPositive : region.toRectangle.IsPositive
  xNonneg : 0 ≤ region.x
  yNonneg : 0 ≤ region.y
  isSorted : sortedReasons region.reasons = region.reasons
  hasReason : region.reasons ≠ []

variable {left right : NormalizedRegion}

theorem significantlyOverlaps_iff :
    significantlyOverlaps left right = true ↔
      left.toRectangle.Overlaps right.toRectangle := by
  simp only [significantlyOverlaps, Bool.and_eq_true, decide_eq_true_eq]
  rfl

/-- Merging rounds nothing on the grid. -/
theorem merge_toRectangle
    (isNormal : left.IsNormal)
    (isNormalToo : right.IsNormal) :
    (merge left right).toRectangle =
      left.toRectangle.hull right.toRectangle := by
  have x := isNormal.x.min isNormalToo.x
  have y := isNormal.y.min isNormalToo.y
  have farRight :=
    (isNormal.x.add isNormal.width).max (isNormalToo.x.add isNormalToo.width)
  have bottom :=
    (isNormal.y.add isNormal.height).max
      (isNormalToo.y.add isNormalToo.height)
  simp only [merge, canonicalNumber_of_isCanonical x,
    canonicalNumber_of_isCanonical y,
    canonicalNumber_of_isCanonical (farRight.sub x),
    canonicalNumber_of_isCanonical (bottom.sub y)]
  rfl

theorem sortedReasons_sortedReasons (reasons : List PrivacyRuleId) :
    sortedReasons (sortedReasons reasons) = sortedReasons reasons :=
  sortedReasons_eq fun _ => mem_sortedReasons

theorem IsNormal.merge
    (isNormal : left.IsNormal)
    (isNormalToo : right.IsNormal) :
    (merge left right).IsNormal where
  x := canonicalNumber_isCanonical _
  y := canonicalNumber_isCanonical _
  width := canonicalNumber_isCanonical _
  height := canonicalNumber_isCanonical _
  isPositive := by
    rw [merge_toRectangle isNormal isNormalToo]
    exact Rectangle.hull_isPositive isNormal.isPositive
  xNonneg := canonicalNumber_nonneg (le_min isNormal.xNonneg isNormalToo.xNonneg)
  yNonneg := canonicalNumber_nonneg (le_min isNormal.yNonneg isNormalToo.yNonneg)
  isSorted := sortedReasons_sortedReasons _
  hasReason := by
    obtain ⟨reason, listed⟩ := List.exists_mem_of_ne_nil _ isNormal.hasReason
    exact List.ne_nil_of_mem
      (mem_sortedReasons.mpr (List.mem_append_left _ listed))

/-- A region is as sensitive as a sensitivity, or has a reason. -/
def NormalizedRegion.Has
    (region : NormalizedRegion) :
    Sensitivity ⊕ PrivacyRuleId → Prop
  | .inl sensitivity =>
      sensitivityRank region.sensitivity ≤ sensitivityRank sensitivity
  | .inr reason => reason ∈ region.reasons

theorem has_merge (fact : Sensitivity ⊕ PrivacyRuleId) :
    (merge left right).Has fact ↔ left.Has fact ∨ right.Has fact := by
  cases fact with
  | inl sensitivity =>
      simp only [NormalizedRegion.Has, merge, strongerSensitivity]
      split
      · omega
      · omega
  | inr reason =>
      simp only [NormalizedRegion.Has, merge, mem_sortedReasons,
        List.mem_append]

theorem sensitivityRank_inj
    {sensitivity other : Sensitivity}
    (same : sensitivityRank sensitivity = sensitivityRank other) :
    sensitivity = other := by
  revert same
  cases sensitivity <;> cases other <;> decide

/-- Regions with the same facts have the same sensitivity and reasons. -/
theorem eq_of_has
    (isNormal : left.IsNormal)
    (isNormalToo : right.IsNormal)
    (sameFacts : ∀ fact, left.Has fact ↔ right.Has fact) :
    left.sensitivity = right.sensitivity ∧ left.reasons = right.reasons := by
  constructor
  · apply sensitivityRank_inj
    apply le_antisymm
    · exact (sameFacts (.inl right.sensitivity)).mpr le_rfl
    · exact (sameFacts (.inl left.sensitivity)).mp le_rfl
  · rw [← isNormal.isSorted, ← isNormalToo.isSorted]
    exact sortedReasons_eq fun reason => sameFacts (.inr reason)

end TaskTwin.Privacy
