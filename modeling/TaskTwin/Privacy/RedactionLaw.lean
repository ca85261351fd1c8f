import TaskTwin.Privacy.RedactionMerging

/-!
# The regions of a plan

A plan covers what its candidates show, within a thousandth of a pixel at each
edge, with regions that do not overlap much.  It is built in every order of the
candidates or in none: where rounding moves no candidate out of the viewport.
-/

namespace TaskTwin.Privacy

open Text Schema Collection Geometry

/-- A candidate shows more than a thousandth of a pixel in both directions. -/
structure IsVisible
    (viewport : RedactionViewport)
    (candidate : RedactionRegionCandidate) :
    Prop where
  width : 1 / 1000 < (visibleRectangle candidate viewport).width
  height : 1 / 1000 < (visibleRectangle candidate viewport).height

/-- A point of a rectangle, or one that is not far from it. -/
def IsNear (distance : ℚ) (rectangle : Rectangle ℚ) (x y : ℚ) : Prop :=
  rectangle.x - distance ≤ x ∧ x ≤ rectangle.right + distance ∧
    rectangle.y - distance ≤ y ∧ y ≤ rectangle.bottom + distance

/-- A region covers a candidate and is at least as sensitive. -/
structure CoversCandidate
    (viewport : RedactionViewport)
    (candidate : RedactionRegionCandidate)
    (region : RedactionRegion) :
    Prop where
  points :
    ∀ x y,
      IsNear 0 (visibleRectangle candidate viewport) x y →
        IsNear (1 / 1000) region.rectangle x y
  sensitivity :
    sensitivityRank region.sensitivity ≤ sensitivityRank candidate.sensitivity
  reasons : ∀ reason ∈ candidate.reasons, reason ∈ region.reasons

/-- What a plan should be, and how it should depend on its candidates. -/
structure IsRedactionPlan
    (collation : Collation)
    (viewport : RedactionViewport)
    (generatedAt : JsString)
    (candidates : List RedactionRegionCandidate)
    (plan : RedactionPlan) :
    Prop where
  isBuilt :
    buildRedactionPlan collation viewport generatedAt candidates = .ok plan
  covers :
    ∀ candidate ∈ candidates,
      ∃ region ∈ plan.regions, CoversCandidate viewport candidate region
  isInside :
    ∀ region ∈ plan.regions,
      0 ≤ region.rectangle.x ∧ region.rectangle.right ≤ viewport.width ∧
        0 ≤ region.rectangle.y ∧ region.rectangle.bottom ≤ viewport.height
  separate :
    plan.regions.Pairwise fun first second =>
      ¬first.rectangle.Overlaps second.rectangle
  inAnyOrder :
    ∀ others,
      candidates.Perm others →
        buildRedactionPlan collation viewport generatedAt others = .ok plan

/-- After rounding, a candidate is still inside the viewport. -/
structure StaysInside
    (viewport : RedactionViewport)
    (candidate : RedactionRegionCandidate) :
    Prop where
  width :
    canonicalNumber (visibleRectangle candidate viewport).x +
        canonicalNumber (visibleRectangle candidate viewport).width ≤
      viewport.width
  height :
    canonicalNumber (visibleRectangle candidate viewport).y +
        canonicalNumber (visibleRectangle candidate viewport).height ≤
      viewport.height

/-- The input that a plan is built from. -/
structure IsRedactionInput
    (viewport : RedactionViewport)
    (generatedAt : JsString)
    (candidates : List RedactionRegionCandidate) :
    Prop where
  isViewport : viewport.parses = true
  isDated : isDateTime generatedAt = true
  notMany : candidates.length ≤ maxRedactionRegions
  areCandidates :
    ∀ candidate ∈ candidates,
      (parseRedactionRegionCandidate candidate).isSome = true
  areVisible : ∀ candidate ∈ candidates, IsVisible viewport candidate

variable
  {collation : Collation}
  {viewport : RedactionViewport}
  {generatedAt : JsString}
  {candidate : RedactionRegionCandidate}
  {candidates others : List RedactionRegionCandidate}

/-- The region of a candidate that is visible. -/
def normalizedRegion
    (viewport : RedactionViewport)
    (candidate : RedactionRegionCandidate) :
    NormalizedRegion :=
  { canonicalRectangle (visibleRectangle candidate viewport) with
    sourceIds := [trimText candidate.id]
    sensitivity := candidate.sensitivity
    reasons := sortedReasons candidate.reasons }

theorem RedactionViewport.positive
    (parses : viewport.parses = true) :
    (0 < viewport.width ∧ viewport.width ≤ maxRedactionCoordinate) ∧
      0 < viewport.height ∧ viewport.height ≤ maxRedactionCoordinate := by
  simp only [RedactionViewport.parses, Bool.and_eq_true, decide_eq_true_eq]
    at parses
  obtain ⟨⟨⟨⟨⟨width, notWide⟩, height⟩, notHigh⟩, -⟩, -⟩ := parses
  exact ⟨⟨width, notWide⟩, height, notHigh⟩

theorem clamp_nonneg
    {value maximum : ℚ}
    (notNegative : 0 ≤ maximum) :
    0 ≤ clamp value maximum :=
  le_min (le_max_right _ _) notNegative

theorem normalizeRegion_eq
    (isVisible : IsVisible viewport candidate) :
    normalizeRegion { candidate with id := trimText candidate.id } viewport =
      .ok (normalizedRegion viewport candidate) := by
  have width := canonicalNumber_pos isVisible.width
  have height := canonicalNumber_pos isVisible.height
  have isShown :
      ¬(decide
            ((canonicalRectangle
                (visibleRectangle candidate viewport)).width ≤ 0) ||
          decide
            ((canonicalRectangle
                (visibleRectangle candidate viewport)).height ≤ 0)) =
          true := by
    rw [Bool.or_eq_true, decide_eq_true_eq, decide_eq_true_eq]
    exact not_or.mpr ⟨not_le.mpr width, not_le.mpr height⟩
  exact if_neg isShown

theorem normalizedRegion_isNormal
    (parses : viewport.parses = true)
    (isCandidate : (parseRedactionRegionCandidate candidate).isSome = true)
    (isVisible : IsVisible viewport candidate) :
    (normalizedRegion viewport candidate).IsNormal where
  x := canonicalNumber_isCanonical _
  y := canonicalNumber_isCanonical _
  width := canonicalNumber_isCanonical _
  height := canonicalNumber_isCanonical _
  isPositive :=
    ⟨canonicalNumber_pos isVisible.width, canonicalNumber_pos isVisible.height⟩
  xNonneg :=
    canonicalNumber_nonneg
      (clamp_nonneg (RedactionViewport.positive parses).1.1.le)
  yNonneg :=
    canonicalNumber_nonneg
      (clamp_nonneg (RedactionViewport.positive parses).2.1.le)
  isSorted := sortedReasons_sortedReasons _
  hasReason := by
    have hasReasons : hasReasons candidate.reasons = true := by
      rw [parseRedactionRegionCandidate] at isCandidate
      split at isCandidate
      case isTrue accepted =>
        simp only [Bool.and_eq_true] at accepted
        exact accepted.2
      case isFalse => cases isCandidate
    rw [Privacy.hasReasons, Bool.and_eq_true, decide_eq_true_eq] at hasReasons
    obtain ⟨reason, listed⟩ :=
      List.exists_mem_of_ne_nil _ (List.length_pos_iff.mp hasReasons.1)
    exact List.ne_nil_of_mem (mem_sortedReasons.mpr listed)

/-- Rounding moves an edge by no more than a thousandth of a pixel. -/
theorem isNear_normalizedRegion
    {x y : ℚ}
    (isPoint : IsNear 0 (visibleRectangle candidate viewport) x y) :
    IsNear (1 / 1000) (normalizedRegion viewport candidate).toRectangle x y := by
  obtain ⟨left, right, top, bottom⟩ := isPoint
  have nearX := canonicalNumber_near (visibleRectangle candidate viewport).x
  have nearY := canonicalNumber_near (visibleRectangle candidate viewport).y
  have nearWidth :=
    canonicalNumber_near (visibleRectangle candidate viewport).width
  have nearHeight :=
    canonicalNumber_near (visibleRectangle candidate viewport).height
  simp only [IsNear, Rectangle.right, Rectangle.bottom, normalizedRegion,
    canonicalRectangle] at *
  refine ⟨?_, ?_, ?_, ?_⟩
  all_goals linarith

theorem IsNear.of_contains
    {distance x y : ℚ}
    {rectangle outer : Rectangle ℚ}
    (contains : outer.Contains rectangle)
    (isNear : IsNear distance rectangle x y) :
    IsNear distance outer x y := by
  obtain ⟨left, right, top, bottom⟩ := isNear
  have ⟨x, y, farRight, farBottom⟩ := contains
  refine ⟨?_, ?_, ?_, ?_⟩
  all_goals linarith

theorem mapM_ok_of_forall
    {ε α β : Type}
    {change : α → Except ε β}
    {result : α → β}
    {values : List α}
    (succeeds : ∀ value ∈ values, change value = .ok (result value)) :
    values.mapM change = .ok (values.map result) := by
  induction values with
  | nil => rfl
  | cons value values inductionHypothesis =>
      rw [List.mapM_cons, succeeds value List.mem_cons_self,
        inductionHypothesis fun other listed =>
          succeeds other (List.mem_cons_of_mem _ listed)]
      rfl

theorem mapM_parseRedactionRegionCandidate
    (areCandidates :
      ∀ candidate ∈ candidates,
        (parseRedactionRegionCandidate candidate).isSome = true) :
    candidates.mapM parseRedactionRegionCandidate =
      some
        (candidates.map fun candidate =>
          { candidate with id := trimText candidate.id }) := by
  rw [mapM_eq_some_iff, List.forall₂_map_right_iff, List.forall₂_same]
  intro candidate listed
  have isSome := areCandidates candidate listed
  rw [parseRedactionRegionCandidate] at isSome ⊢
  split at isSome
  case isTrue accepted => rw [if_pos accepted]
  case isFalse => cases isSome

/-- The regions that are merged from the candidates. -/
def mergedRegions
    (collation : Collation)
    (viewport : RedactionViewport)
    (candidates : List RedactionRegionCandidate) :
    List NormalizedRegion :=
  mergeRegions collation (candidates.map (normalizedRegion viewport))

/-- The plan of the regions that are merged, which the schema may reject. -/
theorem buildRedactionPlan_eq
    (isInput : IsRedactionInput viewport generatedAt candidates) :
    buildRedactionPlan collation viewport generatedAt candidates =
      parseRedactionPlan
        { viewport
          generatedAt
          regions :=
            redactionRegions (mergedRegions collation viewport candidates) } := by
  have notMany : ¬maxRedactionRegions < candidates.length :=
    not_lt.mpr isInput.notMany
  have areNormalized :
      (candidates.map fun candidate =>
          { candidate with id := trimText candidate.id }).mapM
          (fun candidate => normalizeRegion candidate viewport) =
        .ok (candidates.map (normalizedRegion viewport)) := by
    rw [List.mapM_map]
    exact mapM_ok_of_forall fun candidate listed =>
      normalizeRegion_eq (isInput.areVisible candidate listed)
  simp only [buildRedactionPlan, isInput.isViewport, Bool.not_true,
    Bool.false_eq_true, if_false, if_neg notMany,
    mapM_parseRedactionRegionCandidate isInput.areCandidates, areNormalized]
  rfl

theorem areNormal_of_isRedactionInput
    (isInput : IsRedactionInput viewport generatedAt candidates) :
    ∀ region ∈ candidates.map (normalizedRegion viewport), region.IsNormal := by
  intro region listed
  obtain ⟨candidate, isCandidate, rfl⟩ := List.mem_map.mp listed
  exact normalizedRegion_isNormal isInput.isViewport
    (isInput.areCandidates candidate isCandidate)
    (isInput.areVisible candidate isCandidate)

theorem mem_redactionRegions
    {merged : List NormalizedRegion}
    {region : RedactionRegion} :
    region ∈ redactionRegions merged ↔
      ∃ normalized index,
        (normalized, index) ∈ merged.zipIdx ∧
          region =
            { number := index + 1
              rectangle := normalized.toRectangle
              sensitivity := normalized.sensitivity
              reasons := normalized.reasons } := by
  simp [redactionRegions, eq_comm]

theorem map_rectangle_redactionRegions (merged : List NormalizedRegion) :
    (redactionRegions merged).map RedactionRegion.rectangle =
      merged.map NormalizedRegion.toRectangle := by
  rw [redactionRegions, List.map_map]
  conv_rhs => rw [← List.zipIdx_map_fst 0 merged, List.map_map]
  rfl

/-- Regions of the same content give the same plan. -/
theorem redactionRegions_congr
    {merged merged' : List NormalizedRegion}
    (same : merged.map regionContent = merged'.map regionContent) :
    redactionRegions merged = redactionRegions merged' := by
  have ofContent (merged : List NormalizedRegion) :
      redactionRegions merged =
        (merged.map regionContent).zipIdx.map fun content =>
          { number := content.2 + 1
            rectangle := content.1.1
            sensitivity := content.1.2.1
            reasons := content.1.2.2 } := by
    rw [redactionRegions, List.zipIdx_map, List.map_map]
    rfl
  rw [ofContent, ofContent, same]

theorem IsRedactionInput.perm
    (isInput : IsRedactionInput viewport generatedAt candidates)
    (isPerm : candidates.Perm others) :
    IsRedactionInput viewport generatedAt others where
  isViewport := isInput.isViewport
  isDated := isInput.isDated
  notMany := isPerm.length_eq ▸ isInput.notMany
  areCandidates candidate listed :=
    isInput.areCandidates candidate (isPerm.mem_iff.mpr listed)
  areVisible candidate listed :=
    isInput.areVisible candidate (isPerm.mem_iff.mpr listed)

/-- The whole viewport. -/
def RedactionViewport.rectangle (viewport : RedactionViewport) : Rectangle ℚ :=
  { x := 0, y := 0, width := viewport.width, height := viewport.height }

theorem hasInside_iff
    {region : NormalizedRegion}
    (isNormal : region.IsNormal) :
    viewport.hasInside region.toRectangle = true ↔
      viewport.rectangle.Contains region.toRectangle := by
  rw [RedactionViewport.hasInside, Bool.and_eq_true, decide_eq_true_eq,
    decide_eq_true_eq]
  constructor
  · rintro ⟨right, bottom⟩
    refine ⟨isNormal.xNonneg, isNormal.yNonneg, ?_, ?_⟩
    · exact right.trans_eq (zero_add _).symm
    · exact bottom.trans_eq (zero_add _).symm
  · rintro ⟨-, -, right, bottom⟩
    exact ⟨right.trans_eq (zero_add _), bottom.trans_eq (zero_add _)⟩

theorem staysInside_iff :
    StaysInside viewport candidate ↔
      viewport.hasInside (normalizedRegion viewport candidate).toRectangle =
        true := by
  rw [RedactionViewport.hasInside, Bool.and_eq_true, decide_eq_true_eq,
    decide_eq_true_eq]
  exact ⟨fun inside => ⟨inside.width, inside.height⟩,
    fun inside => ⟨inside.1, inside.2⟩⟩

/-- A normal region inside the viewport is accepted by the schema. -/
theorem parses_of_contains
    {region : NormalizedRegion}
    (parses : viewport.parses = true)
    (isNormal : region.IsNormal)
    (contains : viewport.rectangle.Contains region.toRectangle)
    (number : Nat) :
    RedactionRegion.parses
        { number
          rectangle := region.toRectangle
          sensitivity := region.sensitivity
          reasons := region.reasons } =
      true := by
  obtain ⟨⟨-, notWide⟩, -, notHigh⟩ := RedactionViewport.positive parses
  have width := isNormal.isPositive.width
  have height := isNormal.isPositive.height
  have x := isNormal.xNonneg
  have y := isNormal.yNonneg
  have reasons := hasReasons_sortedReasons isNormal.hasReason
  rw [isNormal.isSorted] at reasons
  obtain ⟨-, -, right, bottom⟩ := contains
  simp only [Rectangle.right, Rectangle.bottom, RedactionViewport.rectangle]
    at right bottom
  simp only [RedactionRegion.parses, reasons, Bool.and_eq_true,
    decide_eq_true_eq, and_true]
  refine ⟨⟨⟨⟨⟨⟨⟨x, ?_⟩, y⟩, ?_⟩, width⟩, ?_⟩, height⟩, ?_⟩
  all_goals linarith

theorem parseRedactionPlan_eq_ok
    {plan result : RedactionPlan}
    (isParsed : parseRedactionPlan plan = .ok result) :
    result = plan ∧
      ∀ region ∈ plan.regions, plan.viewport.hasInside region.rectangle = true := by
  rw [parseRedactionPlan] at isParsed
  split at isParsed
  case isTrue => cases isParsed
  case isFalse =>
    simp only at isParsed
    split at isParsed
    case isFalse => cases isParsed
    case isTrue noneOutside =>
      refine ⟨(Except.ok.inj isParsed).symm, fun region listed => ?_⟩
      obtain ⟨index, inBounds, isRegion⟩ := List.mem_iff_getElem.mp listed
      have isAt : (region, index) ∈ plan.regions.zipIdx := by
        rw [List.mem_zipIdx_iff_getElem?, ← isRegion]
        exact List.getElem?_eq_getElem inBounds
      simpa using List.filter_eq_nil_iff.mp noneOutside _ isAt

theorem parseRedactionPlan_of_inside
    {plan : RedactionPlan}
    (isViewport : plan.viewport.parses = true)
    (isDated : isDateTime plan.generatedAt = true)
    (areRegions : ∀ region ∈ plan.regions, region.parses = true)
    (notMany : plan.regions.length ≤ maxRedactionRegions)
    (areInside :
      ∀ region ∈ plan.regions,
        plan.viewport.hasInside region.rectangle = true) :
    parseRedactionPlan plan = .ok plan := by
  have accepted :
      (plan.viewport.parses && isDateTime plan.generatedAt &&
          plan.regions.all RedactionRegion.parses &&
          decide (plan.regions.length ≤ maxRedactionRegions)) =
        true := by
    simp only [isViewport, isDated, List.all_eq_true.mpr areRegions, notMany,
      decide_true, Bool.and_true]
  have noneOutside :
      (plan.regions.zipIdx.filter fun region =>
          !plan.viewport.hasInside region.1.rectangle) =
        [] := by
    refine List.filter_eq_nil_iff.mpr fun region isAt => ?_
    rw [areInside region.1 (List.fst_mem_of_mem_zipIdx isAt)]
    exact Bool.false_ne_true
  rw [parseRedactionPlan, accepted, noneOutside]
  rfl

section Merged

variable (collation)
variable (isInput : IsRedactionInput viewport generatedAt candidates)

include isInput

/-- What the regions of a plan are merged from. -/
theorem mergesAll_mergedRegions :
    (∀ region ∈ mergedRegions collation viewport candidates,
        region.IsNormal) ∧
      MergesAll NormalizedRegion.toRectangle NormalizedRegion.Has
        (sortRegions collation (candidates.map (normalizedRegion viewport)))
        (mergedRegions collation viewport candidates) := by
  obtain ⟨areNormal, -, mergesAll⟩ :=
    @mergesAll_mergeRegions collation _ (areNormal_of_isRedactionInput isInput)
  exact ⟨areNormal, mergesAll⟩

/-- Every candidate is part of a region with all of its facts. -/
theorem covers_mergedRegions
    (listed : candidate ∈ candidates) :
    ∃ region ∈ mergedRegions collation viewport candidates,
      region.toRectangle.Contains
          (normalizedRegion viewport candidate).toRectangle ∧
        ∀ fact,
          (normalizedRegion viewport candidate).Has fact → region.Has fact :=
  (mergesAll_mergedRegions collation isInput).2.covers
    ((sortRegions_perm _).mem_iff.mpr (List.mem_map_of_mem listed))

/-- The regions are inside the viewport when the candidates are. -/
theorem contains_mergedRegions
    (areInside :
      ∀ candidate ∈ candidates, StaysInside viewport candidate) :
    ∀ region ∈ mergedRegions collation viewport candidates,
      viewport.rectangle.Contains region.toRectangle := by
  refine (mergesAll_mergedRegions collation isInput).2.isInside ?_
  intro region listed
  have isRegion := (sortRegions_perm _).mem_iff.mp listed
  have isNormal := areNormal_of_isRedactionInput isInput region isRegion
  obtain ⟨candidate, isCandidate, rfl⟩ := List.mem_map.mp isRegion
  exact (hasInside_iff isNormal).mp
    (staysInside_iff.mp (areInside candidate isCandidate))

theorem buildRedactionPlan_of_inside
    (areInside :
      ∀ candidate ∈ candidates, StaysInside viewport candidate) :
    buildRedactionPlan collation viewport generatedAt candidates =
      .ok
        { viewport
          generatedAt
          regions :=
            redactionRegions (mergedRegions collation viewport candidates) } := by
  obtain ⟨areNormal, mergesAll⟩ := mergesAll_mergedRegions collation isInput
  have contains := contains_mergedRegions collation isInput areInside
  rw [buildRedactionPlan_eq isInput]
  apply parseRedactionPlan_of_inside
  · exact isInput.isViewport
  · exact isInput.isDated
  · intro region listed
    obtain ⟨normalized, index, isAt, rfl⟩ := mem_redactionRegions.mp listed
    have isRegion := List.fst_mem_of_mem_zipIdx isAt
    exact parses_of_contains isInput.isViewport (areNormal _ isRegion)
      (contains _ isRegion) _
  · have fewer := mergesAll.length_le
    rw [(sortRegions_perm _).length_eq, List.length_map] at fewer
    rw [redactionRegions, List.length_map, List.length_zipIdx]
    exact fewer.trans isInput.notMany
  · intro region listed
    obtain ⟨normalized, index, isAt, rfl⟩ := mem_redactionRegions.mp listed
    have isRegion := List.fst_mem_of_mem_zipIdx isAt
    exact (hasInside_iff (areNormal _ isRegion)).mpr (contains _ isRegion)

/--
A plan is as it should be, in every order of the candidates, exactly if each
candidate is still inside the viewport after rounding.
-/
theorem exists_isRedactionPlan_iff :
    (∃ plan,
        IsRedactionPlan collation viewport generatedAt candidates plan) ↔
      ∀ candidate ∈ candidates, StaysInside viewport candidate := by
  obtain ⟨areNormal, mergesAll⟩ := mergesAll_mergedRegions collation isInput
  constructor
  · rintro ⟨plan, isPlan⟩ candidate listed
    have isBuilt := isPlan.isBuilt
    rw [buildRedactionPlan_eq isInput] at isBuilt
    obtain ⟨-, areInside⟩ := parseRedactionPlan_eq_ok isBuilt
    obtain ⟨region, isRegion, contains, -⟩ :=
      covers_mergedRegions collation isInput listed
    obtain ⟨index, inBounds, isAt⟩ := List.mem_iff_getElem.mp isRegion
    have isInside :=
      areInside _
        (mem_redactionRegions.mpr
          ⟨region, index, List.mem_zipIdx_iff_getElem?.mpr
            (isAt ▸ List.getElem?_eq_getElem inBounds), rfl⟩)
    have isNormalCandidate :=
      areNormal_of_isRedactionInput isInput _ (List.mem_map_of_mem listed)
    exact staysInside_iff.mpr
      ((hasInside_iff isNormalCandidate).mpr
        (((hasInside_iff (areNormal region isRegion)).mp isInside).trans
          contains))
  · intro areInside
    refine
      ⟨{ viewport
         generatedAt
         regions :=
           redactionRegions (mergedRegions collation viewport candidates) },
        ?_⟩
    have contains := contains_mergedRegions collation isInput areInside
    refine
      { isBuilt := buildRedactionPlan_of_inside collation isInput areInside
        covers := ?_
        isInside := ?_
        separate := ?_
        inAnyOrder := ?_ }
    · intro candidate listed
      obtain ⟨region, isRegion, containsRegion, hasFacts⟩ :=
        covers_mergedRegions collation isInput listed
      obtain ⟨index, inBounds, isAt⟩ := List.mem_iff_getElem.mp isRegion
      refine ⟨_, mem_redactionRegions.mpr
        ⟨region, index, List.mem_zipIdx_iff_getElem?.mpr
          (isAt ▸ List.getElem?_eq_getElem inBounds), rfl⟩, ?_⟩
      exact
        { points := fun x y isPoint =>
            (isNear_normalizedRegion isPoint).of_contains containsRegion
          sensitivity := hasFacts (.inl candidate.sensitivity) le_rfl
          reasons := fun reason isReason =>
            hasFacts (.inr reason) (mem_sortedReasons.mpr isReason) }
    · intro region listed
      obtain ⟨normalized, index, isAt, rfl⟩ := mem_redactionRegions.mp listed
      obtain ⟨x, y, right, bottom⟩ :=
        contains normalized (List.fst_mem_of_mem_zipIdx isAt)
      exact ⟨x, right.trans_eq (zero_add _), y, bottom.trans_eq (zero_add _)⟩
    · have separate :
          ((redactionRegions
              (mergedRegions collation viewport candidates)).map
              RedactionRegion.rectangle).Pairwise
            fun first second => ¬first.Overlaps second := by
        rw [map_rectangle_redactionRegions]
        exact pairwise_of_twoOf fun _ _ => mergesAll.noneOverlap
      exact List.pairwise_map.mp separate
    · intro others isPerm
      rw [buildRedactionPlan_of_inside collation (isInput.perm isPerm)
        fun candidate listed =>
          areInside candidate (isPerm.mem_iff.mpr listed)]
      have sameRegions :
          redactionRegions (mergedRegions collation viewport others) =
            redactionRegions (mergedRegions collation viewport candidates) :=
        (redactionRegions_congr
          (mergeRegions_perm (areNormal_of_isRedactionInput isInput)
            (isPerm.map (normalizedRegion viewport)))).symm
      rw [sameRegions]

end Merged

def exampleCollation : Collation :=
  Collation.ofAlphabet (js "0123456789abcdefghijklmnopqrstuvwxyz")

def exampleViewport : RedactionViewport :=
  { width := 800, height := 600, devicePixelRatio := 2 }

/-- A field with a left edge and a width. -/
def fieldAt (x width : ℚ) (sensitivity : Sensitivity) (reason : PrivacyRuleId) :
    RedactionRegionCandidate :=
  { id := js "field"
    x
    y := 20
    width
    height := 40
    sensitivity
    reasons := [reason] }

def overlappingFields : List RedactionRegionCandidate :=
  [fieldAt 20 200 .personal .personalInputType,
    fieldAt 10 200 .financial .financialMetadata]

theorem overlappingFields_isRedactionInput :
    IsRedactionInput exampleViewport (js "2026-07-29T10:00:00.000Z")
      overlappingFields where
  isViewport := by decide +kernel
  isDated := by decide +kernel
  notMany := by decide
  areCandidates := by decide +kernel
  areVisible candidate listed := by
    rcases List.mem_cons.mp listed with rfl | listed
    · exact ⟨by decide +kernel, by decide +kernel⟩
    · obtain rfl := List.mem_singleton.mp listed
      exact ⟨by decide +kernel, by decide +kernel⟩

/-- Two fields that overlap are covered by one plan, in either order. -/
theorem exists_isRedactionPlan_overlappingFields :
    ∃ plan,
      IsRedactionPlan exampleCollation exampleViewport
        (js "2026-07-29T10:00:00.000Z") overlappingFields plan := by
  refine (exists_isRedactionPlan_iff exampleCollation
    overlappingFields_isRedactionInput).mpr ?_
  intro candidate listed
  rcases List.mem_cons.mp listed with rfl | listed
  · exact ⟨by decide +kernel, by decide +kernel⟩
  · obtain rfl := List.mem_singleton.mp listed
    exact ⟨by decide +kernel, by decide +kernel⟩

/-- A sixteenth of a pixel from the grid, and over the right edge. -/
def edgeField : RedactionRegionCandidate :=
  fieldAt (790 + 1 / 16) 30 .personal .personalInputType

theorem edgeField_isRedactionInput :
    IsRedactionInput exampleViewport (js "2026-07-29T10:00:00.000Z")
      [edgeField] where
  isViewport := by decide +kernel
  isDated := by decide +kernel
  notMany := by decide
  areCandidates := by decide +kernel
  areVisible candidate listed := by
    obtain rfl := List.mem_singleton.mp listed
    exact ⟨by decide +kernel, by decide +kernel⟩

theorem mergeRegions_singleton (region : NormalizedRegion) :
    mergeRegions collation [region] = [region] := by
  have isSorted : sortRegions collation [region] = [region] :=
    List.mergeSort_singleton region
  have isStable : mergeFirstPair [region] = none := rfl
  simp only [mergeRegions, List.length_singleton, isSorted, mergeWhileChanged,
    isStable]

/-- Its left edge and its width are both rounded up, so there is no plan. -/
theorem not_exists_isRedactionPlan :
    ¬∃ plan,
      IsRedactionPlan exampleCollation exampleViewport
        (js "2026-07-29T10:00:00.000Z") [edgeField] plan := by
  rintro ⟨plan, isPlan⟩
  have isBuilt := isPlan.isBuilt
  rw [buildRedactionPlan_eq edgeField_isRedactionInput, mergedRegions,
    List.map_singleton, mergeRegions_singleton] at isBuilt
  obtain ⟨-, areInside⟩ := parseRedactionPlan_eq_ok isBuilt
  have isInside := areInside _ List.mem_cons_self
  revert isInside
  decide +kernel

end TaskTwin.Privacy
