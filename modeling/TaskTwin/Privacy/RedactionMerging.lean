import TaskTwin.Privacy.RedactionRegions

/-!
# The loop that merges regions

Regions are sorted from above to below before the first two that overlap are
merged, so the loop merges until none overlap, in an order in which only equal
rectangles can change places.
-/

namespace TaskTwin.Privacy

open Text Collection Geometry

variable {collation : Collation} {left right : NormalizedRegion}

/-- What regions are sorted by before their sources are compared. -/
def regionKey (region : NormalizedRegion) : (ℚ ×ₗ ℚ ×ₗ ℚ ×ₗ ℚ) ×ₗ Nat :=
  toLex (region.toRectangle.place, sensitivityRank region.sensitivity)

def sourceKey (region : NormalizedRegion) : JsString :=
  (js ":").intercalate region.sourceIds

theorem regionNotAfter_iff :
    regionNotAfter collation left right = true ↔
      regionKey left < regionKey right ∨
        regionKey left = regionKey right ∧
          collation.notAfter (sourceKey left) (sourceKey right) = true := by
  simp only [regionKey, Rectangle.place, EmbeddingLike.apply_eq_iff_eq,
    Prod.mk.injEq, Prod.Lex.toLex_lt_toLex, regionNotAfter, sourceKey]
  by_cases y : left.y = right.y
  case neg => simp [y]
  by_cases x : left.x = right.x
  case neg => simp [y, x]
  by_cases width : left.width = right.width
  case neg => simp [y, x, width]
  by_cases height : left.height = right.height
  case neg => simp [y, x, width, height]
  by_cases rank :
      sensitivityRank left.sensitivity = sensitivityRank right.sensitivity
  · simp [y, x, width, height, rank]
  · simp [y, x, width, height, rank]

theorem regionNotAfter_trans
    (first second third : NormalizedRegion)
    (notAfter : regionNotAfter collation first second = true)
    (notAfterToo : regionNotAfter collation second third = true) :
    regionNotAfter collation first third = true := by
  rw [regionNotAfter_iff] at *
  rcases notAfter with earlier | ⟨same, notAfter⟩
  · rcases notAfterToo with earlierToo | ⟨sameToo, -⟩
    · exact Or.inl (earlier.trans earlierToo)
    · exact Or.inl (sameToo ▸ earlier)
  · rw [same]
    exact notAfterToo.imp_right fun ⟨sameToo, notAfterToo⟩ =>
      ⟨sameToo, collation.notAfter_trans _ _ _ notAfter notAfterToo⟩

theorem regionNotAfter_total (first second : NormalizedRegion) :
    (regionNotAfter collation first second ||
      regionNotAfter collation second first) = true := by
  rw [Bool.or_eq_true, regionNotAfter_iff, regionNotAfter_iff]
  rcases lt_trichotomy (regionKey first) (regionKey second) with
    earlier | same | later
  · exact Or.inl (Or.inl earlier)
  · have total :=
      collation.notAfter_total (sourceKey first) (sourceKey second)
    rw [Bool.or_eq_true] at total
    exact total.imp (fun notAfter => Or.inr ⟨same, notAfter⟩)
      fun notAfter => Or.inr ⟨same.symm, notAfter⟩
  · exact Or.inr (Or.inl later)

/-- Regions stand from above to below. -/
def AreOrdered (regions : List NormalizedRegion) : Prop :=
  regions.Pairwise fun first second =>
    first.toRectangle.place ≤ second.toRectangle.place

theorem sortRegions_perm (regions : List NormalizedRegion) :
    (sortRegions collation regions).Perm regions :=
  List.mergeSort_perm regions _

theorem areOrdered_sortRegions (regions : List NormalizedRegion) :
    AreOrdered (sortRegions collation regions) := by
  have sorted :=
    @List.pairwise_mergeSort _ (regionNotAfter collation) regionNotAfter_trans
      regionNotAfter_total regions
  refine sorted.imp ?_
  intro first second notAfter
  rcases regionNotAfter_iff.mp notAfter with earlier | ⟨same, -⟩
  · rcases Prod.Lex.toLex_lt_toLex.mp earlier with above | ⟨same, -⟩
    · exact above.le
    · exact same.le
  · exact (Prod.mk.inj (toLex_inj.mp same)).1.le

/-- Rectangles of which none overlaps a later one. -/
theorem not_overlaps_of_pairwise
    {rectangles : List (Rectangle ℚ)}
    (noneOverlap :
      rectangles.Pairwise fun first second => ¬first.Overlaps second)
    {rectangle other : Rectangle ℚ}
    (two : TwoOf rectangle other rectangles) :
    ¬rectangle.Overlaps other := by
  obtain ⟨others, isPerm⟩ := two
  have pairwise :=
    (isPerm.pairwise_iff fun disjoint overlaps =>
      disjoint overlaps.symm).mp noneOverlap
  exact (List.pairwise_cons.mp pairwise).1 other List.mem_cons_self

theorem pairwise_of_mergeFirstPair_eq_none
    {regions : List NormalizedRegion}
    (isStable : mergeFirstPair regions = none) :
    (regions.map NormalizedRegion.toRectangle).Pairwise
      fun first second => ¬first.Overlaps second := by
  induction regions with
  | nil => exact List.Pairwise.nil
  | cons left rest inductionHypothesis =>
      rw [mergeFirstPair] at isStable
      cases isFound : rest.find? (significantlyOverlaps left) with
      | some right =>
          rw [isFound] at isStable
          cases isStable
      | none =>
          rw [isFound] at isStable
          rw [List.map_cons, List.pairwise_cons]
          refine ⟨?_, inductionHypothesis (Option.map_eq_none_iff.mp isStable)⟩
          intro rectangle listed overlaps
          obtain ⟨right, isRight, rfl⟩ := List.mem_map.mp listed
          exact List.find?_eq_none.mp isFound right isRight
            (significantlyOverlaps_iff.mpr overlaps)

/-- What a sorted list has merged is its first pair. -/
theorem mergesFirst_of_mergeFirstPair
    {regions merged : List NormalizedRegion}
    (areNormal : ∀ region ∈ regions, region.IsNormal)
    (areOrdered : AreOrdered regions)
    (isMerged : mergeFirstPair regions = some merged) :
    ∃ left right,
      left ∈ regions ∧ right ∈ regions ∧
        MergesFirst NormalizedRegion.toRectangle NormalizedRegion.Has regions
          merged left right (merge left right) := by
  induction regions generalizing merged with
  | nil => cases isMerged
  | cons left rest inductionHypothesis =>
      obtain ⟨notBefore, areOrderedRest⟩ := List.pairwise_cons.mp areOrdered
      rw [mergeFirstPair] at isMerged
      cases isFound : rest.find? (significantlyOverlaps left) with
      | some right =>
          rw [isFound] at isMerged
          obtain rfl := Option.some.inj isMerged
          obtain ⟨isPair, before, after, rfl, noneBefore⟩ :=
            List.find?_eq_some_iff_append.mp isFound
          have isRight : right ∈ before ++ right :: after := by simp
          refine ⟨left, right, List.mem_cons_self,
            List.mem_cons_of_mem _ isRight, ?_⟩
          have isErased :
              (before ++ right :: after).eraseP (significantlyOverlaps left) =
                before ++ after := by
            rw [List.eraseP_append_right _ fun region listed => by
              simpa using noneBefore region listed, List.eraseP_cons_of_pos isPair]
          rw [isErased]
          refine
            { removes := ⟨before ++ after, ?_, List.Perm.refl _⟩
              isPair := ?_
              isHull := merge_toRectangle
                (areNormal left List.mem_cons_self)
                (areNormal right (List.mem_cons_of_mem _ isRight))
              hasBoth := has_merge }
          · exact List.perm_middle.cons left
          · refine
              { overlaps := significantlyOverlaps_iff.mp isPair
                isOrdered := notBefore right isRight
                isFirst := ?_
                isSecond := ?_ }
            · intro rectangle other two _
              obtain ⟨region, listed, rfl⟩ := List.mem_map.mp two.mem
              rcases List.mem_cons.mp listed with rfl | isRest
              · exact le_rfl
              · exact notBefore region isRest
            · intro other two overlaps _
              have isRest :
                  other ∈
                    (before ++ right :: after).map
                      NormalizedRegion.toRectangle := by
                rcases two.of_cons with inRest | ⟨-, listed⟩ | ⟨rfl, listed⟩
                · exact inRest.symm.mem
                · exact listed
                · exact listed
              obtain ⟨region, listed, rfl⟩ := List.mem_map.mp isRest
              have notSkipped : region ∈ right :: after := by
                refine (List.mem_append.mp listed).resolve_left fun early => ?_
                have skipped := noneBefore region early
                rw [significantlyOverlaps_iff.mpr overlaps] at skipped
                cases skipped
              rcases List.mem_cons.mp notSkipped with rfl | isAfter
              · exact le_rfl
              · exact (List.pairwise_cons.mp
                  (List.pairwise_append.mp areOrderedRest).2.1).1 region isAfter
      | none =>
          rw [isFound] at isMerged
          obtain ⟨mergedRest, isMergedRest, rfl⟩ :=
            Option.map_eq_some_iff.mp isMerged
          obtain ⟨first, second, isFirst, isSecond, mergesFirst⟩ :=
            inductionHypothesis
              (fun region listed =>
                areNormal region (List.mem_cons_of_mem _ listed))
              areOrderedRest isMergedRest
          have leftOverlaps :
              ∀ rectangle ∈ rest.map NormalizedRegion.toRectangle,
                ¬left.toRectangle.Overlaps rectangle := by
            intro rectangle listed overlaps
            obtain ⟨region, isRegion, rfl⟩ := List.mem_map.mp listed
            exact List.find?_eq_none.mp isFound region isRegion
              (significantlyOverlaps_iff.mpr overlaps)
          have inRest :
              ∀ rectangle other,
                TwoOf rectangle other
                    ((left :: rest).map NormalizedRegion.toRectangle) →
                  rectangle.Overlaps other →
                    TwoOf rectangle other
                      (rest.map NormalizedRegion.toRectangle) := by
            intro rectangle other two overlaps
            rcases two.of_cons with inRest | ⟨rfl, listed⟩ | ⟨rfl, listed⟩
            · exact inRest
            · exact absurd overlaps (leftOverlaps other listed)
            · exact absurd overlaps.symm (leftOverlaps rectangle listed)
          refine ⟨first, second, List.mem_cons_of_mem _ isFirst,
            List.mem_cons_of_mem _ isSecond, ?_⟩
          obtain ⟨others, isBefore, isAfter⟩ := mergesFirst.removes
          refine
            { removes := ⟨left :: others, ?_, ?_⟩
              isPair := ?_
              isHull := mergesFirst.isHull
              hasBoth := mergesFirst.hasBoth }
          · exact (isBefore.cons left).trans
              ((List.Perm.swap first left _).trans
                ((List.Perm.swap second left others).cons first))
          · exact (isAfter.cons left).trans (List.Perm.swap _ left others)
          · exact
              { overlaps := mergesFirst.isPair.overlaps
                isOrdered := mergesFirst.isPair.isOrdered
                isFirst := fun rectangle other two overlaps =>
                  mergesFirst.isPair.isFirst rectangle other
                    (inRest rectangle other two overlaps) overlaps
                isSecond := fun other two overlaps =>
                  mergesFirst.isPair.isSecond other
                    (inRest _ other two overlaps) overlaps }

/-- One merge leaves normal regions, one less. -/
theorem mergeFirstPair_spec
    {regions merged : List NormalizedRegion}
    (areNormal : ∀ region ∈ regions, region.IsNormal)
    (areOrdered : AreOrdered regions)
    (isMerged : mergeFirstPair regions = some merged) :
    (∀ region ∈ merged, region.IsNormal) ∧
      merged.length + 1 = regions.length := by
  obtain ⟨left, right, isLeft, isRight, mergesFirst⟩ :=
    mergesFirst_of_mergeFirstPair areNormal areOrdered isMerged
  constructor
  · intro region listed
    rcases mergesFirst.mem listed with rfl | isOld
    · exact IsNormal.merge (areNormal left isLeft) (areNormal right isRight)
    · exact areNormal region isOld
  · obtain ⟨rest, isBefore, isAfter⟩ := mergesFirst.removes
    rw [isBefore.length_eq, isAfter.length_eq]
    rfl

/-- With enough fuel the loop merges until none overlap. -/
theorem mergesAll_mergeWhileChanged
    {fuel : Nat}
    {regions : List NormalizedRegion}
    (enough : regions.length ≤ fuel)
    (areNormal : ∀ region ∈ regions, region.IsNormal)
    (areOrdered : AreOrdered regions) :
    (∀ region ∈ mergeWhileChanged collation fuel regions, region.IsNormal) ∧
      MergesAll NormalizedRegion.toRectangle NormalizedRegion.Has regions
        (mergeWhileChanged collation fuel regions) := by
  induction fuel generalizing regions with
  | zero =>
      obtain rfl := List.length_eq_zero_iff.mp (Nat.le_zero.mp enough)
      refine ⟨areNormal, .done (List.Perm.refl _) fun rectangle other two => ?_⟩
      exact absurd two.mem List.not_mem_nil
  | succ fuel inductionHypothesis =>
      rw [mergeWhileChanged]
      cases isMerged : mergeFirstPair regions with
      | none =>
          refine ⟨areNormal, .done (List.Perm.refl _) fun _ _ two => ?_⟩
          exact not_overlaps_of_pairwise
            (pairwise_of_mergeFirstPair_eq_none isMerged) two
      | some merged =>
          obtain ⟨left, right, -, -, mergesFirst⟩ :=
            mergesFirst_of_mergeFirstPair areNormal areOrdered isMerged
          obtain ⟨areNormalMerged, shorter⟩ :=
            mergeFirstPair_spec areNormal areOrdered isMerged
          have isSorted := @sortRegions_perm collation merged
          obtain ⟨areNormalLater, mergesLater⟩ :=
            @inductionHypothesis (sortRegions collation merged)
              (by rw [isSorted.length_eq]; omega)
              (fun region listed =>
                areNormalMerged region (isSorted.mem_iff.mp listed))
              (areOrdered_sortRegions merged)
          obtain ⟨rest, isBefore, isAfter⟩ := mergesFirst.removes
          have mergesSorted :
              MergesFirst NormalizedRegion.toRectangle NormalizedRegion.Has
                regions (sortRegions collation merged) left right
                (merge left right) :=
            { removes := ⟨rest, isBefore, isSorted.trans isAfter⟩
              isPair := mergesFirst.isPair
              isHull := mergesFirst.isHull
              hasBoth := mergesFirst.hasBoth }
          exact ⟨areNormalLater, .step mergesSorted mergesLater⟩

/-- The regions of a plan are merged from the candidates, and in order. -/
theorem mergesAll_mergeRegions
    {regions : List NormalizedRegion}
    (areNormal : ∀ region ∈ regions, region.IsNormal) :
    (∀ region ∈ mergeRegions collation regions, region.IsNormal) ∧
      AreOrdered (mergeRegions collation regions) ∧
      MergesAll NormalizedRegion.toRectangle NormalizedRegion.Has
        (sortRegions collation regions) (mergeRegions collation regions) := by
  have isSorted := @sortRegions_perm collation regions
  obtain ⟨areNormalMerged, mergesAll⟩ :=
    @mergesAll_mergeWhileChanged collation regions.length
      (sortRegions collation regions) isSorted.length_eq.le
      (fun region listed => areNormal region (isSorted.mem_iff.mp listed))
      (areOrdered_sortRegions regions)
  refine ⟨?_, areOrdered_sortRegions _,
    mergesAll.perm_right (sortRegions_perm _).symm⟩
  intro region listed
  exact areNormalMerged region ((sortRegions_perm _).mem_iff.mp listed)

/-- What a plan has of a region. -/
def regionContent (region : NormalizedRegion) :
    Rectangle ℚ × Sensitivity × List PrivacyRuleId :=
  (region.toRectangle, region.sensitivity, region.reasons)

/-- Of regions that do not overlap, each has its rectangle for itself. -/
theorem eq_of_toRectangle_eq
    {regions : List NormalizedRegion}
    (areNormal : ∀ region ∈ regions, region.IsNormal)
    (noneOverlap :
      ∀ rectangle other,
        TwoOf rectangle other (regions.map NormalizedRegion.toRectangle) →
          ¬rectangle.Overlaps other)
    {region other : NormalizedRegion}
    (listed : region ∈ regions)
    (listedToo : other ∈ regions)
    (same : region.toRectangle = other.toRectangle) :
    region = other := by
  by_contra differ
  obtain ⟨rest, isPerm⟩ := twoOf_of_ne listed listedToo differ
  refine noneOverlap _ _
    ⟨rest.map NormalizedRegion.toRectangle,
      isPerm.map NormalizedRegion.toRectangle⟩ ?_
  rw [← same]
  exact Rectangle.overlaps_self (areNormal region listed).isPositive

/-- The same regions in another order are merged into the same ones. -/
theorem mergeRegions_perm
    {regions others : List NormalizedRegion}
    (areNormal : ∀ region ∈ regions, region.IsNormal)
    (isPerm : regions.Perm others) :
    (mergeRegions collation regions).map regionContent =
      (mergeRegions collation others).map regionContent := by
  have areNormalToo : ∀ region ∈ others, region.IsNormal := fun region listed =>
    areNormal region (isPerm.mem_iff.mpr listed)
  obtain ⟨areNormalMerged, areOrdered, mergesAll⟩ :=
    @mergesAll_mergeRegions collation regions areNormal
  obtain ⟨areNormalMerged', areOrdered', mergesAll'⟩ :=
    @mergesAll_mergeRegions collation others areNormalToo
  have isSorted : (sortRegions collation regions).Perm
      (sortRegions collation others) :=
    (sortRegions_perm regions).trans
      (isPerm.trans (sortRegions_perm others).symm)
  have alike :
      MergesAlike NormalizedRegion.toRectangle NormalizedRegion.Has
        (sortRegions collation regions) (sortRegions collation others) :=
    { sameRectangles := isSorted.map _
      arePositive := by
        intro rectangle listed
        obtain ⟨region, isRegion, rfl⟩ := List.mem_map.mp listed
        exact (areNormal region
          ((sortRegions_perm regions).mem_iff.mp isRegion)).isPositive
      agree := Or.inl fun rectangle fact => hasWhere_perm isSorted _ fact }
  obtain ⟨sameRectangles, agree⟩ := mergesAll.agree mergesAll' alike
  have sameOrder :
      (mergeRegions collation regions).map NormalizedRegion.toRectangle =
        (mergeRegions collation others).map NormalizedRegion.toRectangle := by
    have placesOf
        {regions : List NormalizedRegion}
        (areOrdered : AreOrdered regions) :
        (regions.map NormalizedRegion.toRectangle).Pairwise
          fun first second => first.place ≤ second.place :=
      List.pairwise_map.mpr areOrdered
    refine sameRectangles.eq_of_pairwise ?_ (placesOf areOrdered)
      (placesOf areOrdered')
    intro first second _ _ notAfter notAfterToo
    exact Rectangle.place_inj (notAfter.antisymm notAfterToo)
  have sameContent :
      ∀ region ∈ mergeRegions collation regions,
        ∀ other ∈ mergeRegions collation others,
          region.toRectangle = other.toRectangle →
            regionContent region = regionContent other := by
    intro region listed other listedToo same
    have factsOf
        {regions : List NormalizedRegion}
        (areNormal : ∀ region ∈ regions, region.IsNormal)
        (noneOverlap :
          ∀ rectangle other,
            TwoOf rectangle other (regions.map NormalizedRegion.toRectangle) →
              ¬rectangle.Overlaps other)
        {region : NormalizedRegion}
        (listed : region ∈ regions)
        (fact : Sensitivity ⊕ PrivacyRuleId) :
        region.Has fact ↔
          HasWhere NormalizedRegion.toRectangle NormalizedRegion.Has regions
            (· = region.toRectangle) fact := by
      constructor
      · exact fun hasFact => ⟨region, listed, rfl, hasFact⟩
      · rintro ⟨item, isItem, sameRectangle, hasFact⟩
        rwa [← eq_of_toRectangle_eq areNormal noneOverlap isItem listed
          sameRectangle]
    have sameFacts : ∀ fact, region.Has fact ↔ other.Has fact := by
      intro fact
      rw [factsOf areNormalMerged (fun _ _ => mergesAll.noneOverlap) listed,
        factsOf areNormalMerged' (fun _ _ => mergesAll'.noneOverlap) listedToo,
        agree, same]
    obtain ⟨sameSensitivity, sameReasons⟩ :=
      eq_of_has (areNormalMerged region listed)
        (areNormalMerged' other listedToo) sameFacts
    rw [regionContent, regionContent, same, sameSensitivity, sameReasons]
  generalize mergeRegions collation regions = first at *
  generalize mergeRegions collation others = second at *
  clear * - sameOrder sameContent
  induction first generalizing second with
  | nil =>
      cases second with
      | nil => rfl
      | cons other second => cases sameOrder
  | cons region first inductionHypothesis =>
      cases second with
      | nil => cases sameOrder
      | cons other second =>
          rw [List.map_cons, List.map_cons, List.cons.injEq] at sameOrder ⊢
          refine ⟨sameContent region List.mem_cons_self other
            List.mem_cons_self sameOrder.1, ?_⟩
          exact inductionHypothesis second sameOrder.2
            fun region listed other listedToo =>
              sameContent region (List.mem_cons_of_mem _ listed) other
                (List.mem_cons_of_mem _ listedToo)

end TaskTwin.Privacy
