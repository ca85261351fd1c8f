import Mathlib.Data.List.Perm.Basic
import TaskTwin.Geometry.Rectangle

/-!
# Merging overlapping rectangles

The first two rectangles that overlap are merged, until none overlap.  Which of
several equal rectangles comes first does not matter: what has been merged into
a rectangle absorbs the others before anything else can.
-/

namespace TaskTwin.Geometry

open Rectangle

section TwoOf

variable {α : Type*} {first second item : α} {items others : List α}

/-- Two elements at different places of a list. -/
def TwoOf (first second : α) (items : List α) : Prop :=
  ∃ others, items.Perm (first :: second :: others)

theorem exists_perm_cons (listed : item ∈ items) :
    ∃ rest, items.Perm (item :: rest) := by
  obtain ⟨before, after, rfl⟩ := List.append_of_mem listed
  exact ⟨before ++ after, List.perm_middle⟩

theorem TwoOf.symm (two : TwoOf first second items) :
    TwoOf second first items := by
  obtain ⟨others, isPerm⟩ := two
  exact ⟨others, isPerm.trans (List.Perm.swap second first others)⟩

theorem TwoOf.mem (two : TwoOf first second items) : first ∈ items := by
  obtain ⟨others, isPerm⟩ := two
  exact isPerm.mem_iff.mpr List.mem_cons_self

theorem TwoOf.of_perm
    (two : TwoOf first second items)
    (isPerm : items.Perm others) :
    TwoOf first second others := by
  obtain ⟨rest, isTwo⟩ := two
  exact ⟨rest, isPerm.symm.trans isTwo⟩

theorem TwoOf.cons (two : TwoOf first second items) (item : α) :
    TwoOf first second (item :: items) := by
  obtain ⟨rest, isPerm⟩ := two
  refine ⟨item :: rest, ((isPerm.cons item).trans ?_)⟩
  exact (List.Perm.swap first item _).trans
    ((List.Perm.swap second item rest).cons first)

theorem twoOf_head (listed : item ∈ items) : TwoOf first item (first :: items) := by
  obtain ⟨rest, isPerm⟩ := exists_perm_cons listed
  exact ⟨rest, isPerm.cons first⟩

theorem twoOf_of_ne
    (listed : first ∈ items)
    (listedToo : second ∈ items)
    (differ : first ≠ second) :
    TwoOf first second items := by
  obtain ⟨rest, isPerm⟩ := exists_perm_cons listed
  have isRest : second ∈ rest :=
    (List.mem_cons.mp (isPerm.mem_iff.mp listedToo)).resolve_left differ.symm
  exact (twoOf_head isRest).of_perm isPerm.symm

/-- Two elements of a list are two of its tail, or one of them is its head. -/
theorem TwoOf.of_cons
    [DecidableEq α]
    (two : TwoOf first second (item :: items)) :
    TwoOf first second items ∨ first = item ∧ second ∈ items ∨
      second = item ∧ first ∈ items := by
  obtain ⟨rest, isPerm⟩ := two
  by_cases isFirst : first = item
  · subst isFirst
    have isPerm' := List.Perm.cons_inv isPerm
    exact Or.inr (Or.inl ⟨rfl, isPerm'.mem_iff.mpr List.mem_cons_self⟩)
  by_cases isSecond : second = item
  · subst isSecond
    have isPerm' :=
      List.Perm.cons_inv (isPerm.trans (List.Perm.swap second first rest))
    exact Or.inr (Or.inr ⟨rfl, isPerm'.mem_iff.mpr List.mem_cons_self⟩)
  · have listed : item ∈ first :: second :: rest :=
      isPerm.mem_iff.mp List.mem_cons_self
    have isRest : item ∈ rest := by
      simpa [Ne.symm isFirst, Ne.symm isSecond] using listed
    obtain ⟨left, isLeft⟩ := exists_perm_cons isRest
    refine Or.inl ⟨left, List.Perm.cons_inv (isPerm.trans ?_)⟩
    have moved :
        (first :: second :: item :: left).Perm
          (item :: first :: second :: left) :=
      ((List.Perm.swap item second left).cons first).trans
        (List.Perm.swap item first (second :: left))
    exact ((isLeft.cons second).cons first).trans moved

/-- What holds of any two elements holds of all later ones. -/
theorem pairwise_of_twoOf
    {relation : α → α → Prop}
    (related :
      ∀ first second, TwoOf first second items → relation first second) :
    items.Pairwise relation := by
  induction items with
  | nil => exact List.Pairwise.nil
  | cons item items inductionHypothesis =>
      refine List.pairwise_cons.mpr ⟨fun later isLater => ?_, ?_⟩
      · exact related item later (twoOf_head isLater)
      · exact inductionHypothesis fun first second two =>
          related first second (two.cons item)

end TwoOf

variable {K : Type*} [Field K] [LinearOrder K]

structure IsFirstPair
    (rectangles : List (Rectangle K))
    (first second : Rectangle K) :
    Prop where
  overlaps : first.Overlaps second
  isOrdered : first.place ≤ second.place
  isFirst :
    ∀ rectangle other,
      TwoOf rectangle other rectangles →
        rectangle.Overlaps other →
          first.place ≤ rectangle.place
  isSecond :
    ∀ other,
      TwoOf first other rectangles →
        first.Overlaps other →
          first.place ≤ other.place → second.place ≤ other.place

theorem IsFirstPair.unique
    {rectangles others : List (Rectangle K)}
    {first second first' second' : Rectangle K}
    (isPair : IsFirstPair rectangles first second)
    (isPairToo : IsFirstPair others first' second')
    (isPerm : rectangles.Perm others)
    (two : TwoOf first second rectangles)
    (twoToo : TwoOf first' second' others) :
    first' = first ∧ second' = second := by
  have isTwo := two.of_perm isPerm
  have isTwoToo := twoToo.of_perm isPerm.symm
  have sameFirst : first' = first :=
    place_inj
      ((isPairToo.isFirst first second isTwo isPair.overlaps).antisymm
        (isPair.isFirst first' second' isTwoToo isPairToo.overlaps))
  subst sameFirst
  refine ⟨rfl, place_inj ?_⟩
  exact
    (isPairToo.isSecond second isTwo isPair.overlaps isPair.isOrdered).antisymm
      (isPair.isSecond second' isTwoToo isPairToo.overlaps
        isPairToo.isOrdered)

/--
What comes before a rectangle that has grown is part of it, or overlaps nothing
else.
-/
structure IsGrown
    (rectangles : List (Rectangle K))
    (grown : Rectangle K) :
    Prop where
  listed : grown ∈ rectangles
  isolated :
    ∀ rectangle other,
      TwoOf rectangle other rectangles →
        rectangle.place < grown.place →
          ¬grown.Contains rectangle →
            rectangle.Overlaps other → other = grown

section OfPerm

variable {rectangles others : List (Rectangle K)}

theorem IsFirstPair.of_perm
    {first second : Rectangle K}
    (isPair : IsFirstPair rectangles first second)
    (isPerm : rectangles.Perm others) :
    IsFirstPair others first second where
  overlaps := isPair.overlaps
  isOrdered := isPair.isOrdered
  isFirst rectangle other two :=
    isPair.isFirst rectangle other (two.of_perm isPerm.symm)
  isSecond other two := isPair.isSecond other (two.of_perm isPerm.symm)

theorem IsGrown.of_perm
    {grown : Rectangle K}
    (isGrown : IsGrown rectangles grown)
    (isPerm : rectangles.Perm others) :
    IsGrown others grown where
  listed := isPerm.mem_iff.mp isGrown.listed
  isolated rectangle other two :=
    isGrown.isolated rectangle other (two.of_perm isPerm.symm)

end OfPerm

variable [IsStrictOrderedRing K]

def ArePositive (rectangles : List (Rectangle K)) : Prop :=
  ∀ rectangle ∈ rectangles, rectangle.IsPositive

section Growing

variable
  {rectangles rest : List (Rectangle K)}
  {first second grown : Rectangle K}

/-- The rectangle that two are merged into has grown. -/
theorem isGrown_hull
    (arePositive : ArePositive (first :: second :: rest))
    (isPair : IsFirstPair (first :: second :: rest) first second) :
    IsGrown (first.hull second :: rest) (first.hull second) := by
  refine { listed := List.mem_cons_self, isolated := ?_ }
  intro rectangle other two isEarlier notContained overlaps
  rcases two.of_cons with inRest | ⟨isHull, -⟩ | ⟨isHull, -⟩
  · exfalso
    have isLater :=
      isPair.isFirst rectangle other ((inRest.cons second).cons first) overlaps
    obtain ⟨overlapsFirst, notLater⟩ :=
      overlaps_of_between (arePositive first List.mem_cons_self) isLater
        isEarlier notContained
    exact notLater
      (isPair.isSecond rectangle
        (twoOf_head (List.mem_cons_of_mem _ inRest.mem)) overlapsFirst isLater)
  · rw [isHull] at isEarlier
    exact absurd isEarlier (lt_irrefl _)
  · exact isHull

/-- All that is part of a rectangle before the first pair is the rectangle. -/
theorem eq_of_contains
    (arePositive : ArePositive rectangles)
    (listed : grown ∈ rectangles)
    (isPair : IsFirstPair rectangles first second)
    (isEarlier : grown.place < first.place)
    {rectangle : Rectangle K}
    (isListed : rectangle ∈ rectangles)
    (contains : grown.Contains rectangle) :
    rectangle = grown := by
  by_contra differs
  exact absurd isEarlier
    (not_lt.mpr
      (isPair.isFirst grown rectangle
        (twoOf_of_ne listed isListed (Ne.symm differs))
        (contains.overlaps (arePositive rectangle isListed))))

/--
Two rectangles are merged: what has grown becomes part of their hull, or they
are part of it.
-/
theorem IsGrown.merge
    (isGrown : IsGrown (first :: second :: rest) grown)
    (arePositive : ArePositive (first :: second :: rest))
    (isPair : IsFirstPair (first :: second :: rest) first second)
    (notEarlier : ¬grown.place < first.place) :
    (first.hull second).Contains grown ∨
      grown.Contains first ∧ grown.Contains second ∧
        IsGrown (first.hull second :: rest) grown := by
  have isTwo : TwoOf first second (first :: second :: rest) :=
    twoOf_head List.mem_cons_self
  have isPositive := arePositive first List.mem_cons_self
  by_cases isFirst : first = grown
  · left
    rw [← isFirst]
    exact hull_contains_left first second
  by_cases isSecond : second = grown
  · left
    rw [← isSecond]
    exact hull_contains_right first second
  right
  have isEarlier : first.place < grown.place :=
    lt_of_le_of_ne (not_lt.mp notEarlier) fun same => isFirst (place_inj same)
  have containsFirst : grown.Contains first := by
    by_contra notContained
    exact isSecond
      (isGrown.isolated first second isTwo isEarlier notContained
        isPair.overlaps)
  have grownRest : grown ∈ rest := by
    simpa [Ne.symm isFirst, Ne.symm isSecond] using isGrown.listed
  have isEarlierToo : second.place < grown.place := by
    have notLater :=
      isPair.isSecond grown
        (twoOf_head (List.mem_cons_of_mem _ grownRest))
        (containsFirst.overlaps isPositive).symm isEarlier.le
    exact lt_of_le_of_ne notLater fun same => isSecond (place_inj same)
  have containsSecond : grown.Contains second := by
    by_contra notContained
    exact isFirst
      (isGrown.isolated second first isTwo.symm isEarlierToo notContained
        isPair.overlaps.symm)
  refine ⟨containsFirst, containsSecond, ?_⟩
  have containsHull := containsFirst.hull containsSecond
  refine { listed := List.mem_cons_of_mem _ grownRest, isolated := ?_ }
  intro rectangle other two before notContained overlaps
  rcases two.of_cons with inRest | ⟨isHull, -⟩ | ⟨isHull, isRest⟩
  · exact isGrown.isolated rectangle other ((inRest.cons second).cons first)
      before notContained overlaps
  · rw [isHull] at notContained
    exact absurd containsHull notContained
  exfalso
  subst isHull
  have isPositiveRectangle :=
    arePositive rectangle
      (List.mem_cons_of_mem _ (List.mem_cons_of_mem _ isRest))
  have twoFirst : TwoOf rectangle first (first :: second :: rest) :=
    (twoOf_head (List.mem_cons_of_mem _ isRest)).symm
  have twoSecond : TwoOf rectangle second (first :: second :: rest) :=
    ((twoOf_head isRest).symm).cons first
  have notFirst : ¬rectangle.Overlaps first := fun overlaps =>
    isFirst
      (isGrown.isolated rectangle first twoFirst before notContained overlaps)
  have notSecond : ¬rectangle.Overlaps second := fun overlaps =>
    isSecond
      (isGrown.isolated rectangle second twoSecond before notContained overlaps)
  have cornerFirst := containsFirst.sameCorner isEarlier.le
  have cornerSecond := containsSecond.sameCorner isEarlierToo.le
  have sameCorner : first.SameCorner second :=
    ⟨cornerFirst.x.trans cornerSecond.x.symm,
      cornerFirst.y.trans cornerSecond.y.symm⟩
  -- later than the first one, it would contain and so overlap it
  have isEarliest : rectangle.place < first.place := by
    by_contra notBefore
    have isLater := not_lt.mp notBefore
    have between := cornerFirst.between isLater before.le
    have higher :=
      between.height_lt_of_not_contains (between.width_le before.le)
        notContained
    have cornerToo : first.SameCorner rectangle :=
      ⟨cornerFirst.x.trans between.x.symm, cornerFirst.y.trans between.y.symm⟩
    have cornerBack : rectangle.SameCorner first :=
      ⟨cornerToo.x.symm, cornerToo.y.symm⟩
    exact notFirst
      ((cornerBack.contains (cornerToo.width_le isLater)
        (containsFirst.extent.2.trans higher.le)).overlaps isPositive)
  have notGrown : ¬rectangle.Overlaps grown := by
    intro overlapsGrown
    have differs : rectangle ≠ grown := by
      rintro rfl
      exact lt_irrefl _ before
    exact absurd isEarliest
      (not_lt.mpr
        (isPair.isFirst rectangle grown
          (((twoOf_of_ne isRest grownRest differs).cons second).cons first)
          overlapsGrown))
  have isAbove : rectangle.y ≤ second.y := by
    rcases place_lt_iff.mp isEarliest with above | ⟨sameY, -⟩
    · rw [← sameCorner.y]
      exact above.le
    · rw [← sameCorner.y]
      exact sameY.le
  rcases overlaps_of_overlaps_hull isPositiveRectangle isPositive
      (arePositive second (List.mem_cons_of_mem _ List.mem_cons_self))
      sameCorner (sameCorner.width_le isPair.isOrdered) containsHull isAbove
      overlaps with overlapsGrown | overlapsSecond
  · exact notGrown overlapsGrown
  · exact notSecond overlapsSecond

end Growing

end TaskTwin.Geometry

/-!
## What has been merged
-/

namespace TaskTwin.Geometry

open Rectangle

variable {K α φ : Type*} (rect : α → Rectangle K) (has : α → φ → Prop)

/-- Some item with a rectangle of a kind has a fact. -/
def HasWhere
    (items : List α)
    (isKind : Rectangle K → Prop)
    (fact : φ) :
    Prop :=
  ∃ item ∈ items, isKind (rect item) ∧ has item fact

variable {rect has} {items others : List α}

theorem hasWhere_perm
    (isPerm : items.Perm others)
    (isKind : Rectangle K → Prop)
    (fact : φ) :
    HasWhere rect has items isKind fact ↔
      HasWhere rect has others isKind fact := by
  constructor
  · rintro ⟨item, listed, isItem⟩
    exact ⟨item, isPerm.mem_iff.mp listed, isItem⟩
  · rintro ⟨item, listed, isItem⟩
    exact ⟨item, isPerm.mem_iff.mpr listed, isItem⟩

/-- Facts of a kind are facts of one rectangle of the kind. -/
theorem hasWhere_iff_exists
    {isKind : Rectangle K → Prop}
    {fact : φ} :
    HasWhere rect has items isKind fact ↔
      ∃ rectangle,
        isKind rectangle ∧ HasWhere rect has items (· = rectangle) fact := by
  constructor
  · rintro ⟨item, listed, isItem, hasFact⟩
    exact ⟨rect item, isItem, item, listed, rfl, hasFact⟩
  · rintro ⟨_, isItem, item, listed, rfl, hasFact⟩
    exact ⟨item, listed, isItem, hasFact⟩

variable [Field K] [LinearOrder K]

variable (rect has)

/-- The first two items that overlap are merged. -/
structure MergesFirst (before after : List α) (left right merged : α) : Prop where
  removes :
    ∃ rest, before.Perm (left :: right :: rest) ∧ after.Perm (merged :: rest)
  isPair : IsFirstPair (before.map rect) (rect left) (rect right)
  isHull : rect merged = (rect left).hull (rect right)
  hasBoth : ∀ fact, has merged fact ↔ has left fact ∨ has right fact

/-- Items are merged until none overlap. -/
inductive MergesAll : List α → List α → Prop
  | done
      {items merged : List α}
      (isPerm : items.Perm merged)
      (noneOverlap :
        ∀ rectangle other,
          TwoOf rectangle other (items.map rect) → ¬rectangle.Overlaps other) :
      MergesAll items merged
  | step
      {items others merged : List α}
      {left right both : α}
      (isFirst : MergesFirst rect has items others left right both)
      (isRest : MergesAll others merged) :
      MergesAll items merged

/-- Rectangle by rectangle, the items have the same facts. -/
def Agree (items others : List α) : Prop :=
  ∀ rectangle fact,
    HasWhere rect has items (· = rectangle) fact ↔
      HasWhere rect has others (· = rectangle) fact

/-- The items have the same facts, within a rectangle and outside. -/
structure AgreeOutside (grown : Rectangle K) (items others : List α) : Prop where
  outside :
    ∀ rectangle,
      ¬grown.Contains rectangle →
        ∀ fact,
          HasWhere rect has items (· = rectangle) fact ↔
            HasWhere rect has others (· = rectangle) fact
  inside :
    ∀ fact,
      HasWhere rect has items grown.Contains fact ↔
        HasWhere rect has others grown.Contains fact

variable {rect has} {items others : List α}

theorem Agree.agreeOutside
    (agree : Agree rect has items others)
    (grown : Rectangle K) :
    AgreeOutside rect has grown items others := by
  refine { outside := fun rectangle _ => agree rectangle, inside := ?_ }
  intro fact
  rw [hasWhere_iff_exists, hasWhere_iff_exists]
  exact exists_congr fun rectangle =>
    and_congr_right fun _ => agree rectangle fact

/-- What agrees outside of a rectangle agrees outside of a greater one. -/
theorem AgreeOutside.mono
    {grown greater : Rectangle K}
    (agree : AgreeOutside rect has grown items others)
    (contains : greater.Contains grown) :
    AgreeOutside rect has greater items others := by
  have split
      {items : List α}
      {fact : φ} :
      HasWhere rect has items greater.Contains fact ↔
        HasWhere rect has items grown.Contains fact ∨
          ∃ rectangle,
            (greater.Contains rectangle ∧ ¬grown.Contains rectangle) ∧
              HasWhere rect has items (· = rectangle) fact := by
    constructor
    · rintro ⟨item, listed, isPart, hasFact⟩
      by_cases isInside : grown.Contains (rect item)
      · exact Or.inl ⟨item, listed, isInside, hasFact⟩
      · exact Or.inr
          ⟨rect item, ⟨isPart, isInside⟩, item, listed, rfl, hasFact⟩
    · rintro (⟨item, listed, isInside, hasFact⟩ |
        ⟨_, ⟨isPart, -⟩, item, listed, rfl, hasFact⟩)
      · exact ⟨item, listed, contains.trans isInside, hasFact⟩
      · exact ⟨item, listed, isPart, hasFact⟩
  constructor
  · intro rectangle notContained
    exact agree.outside rectangle fun isInside =>
      notContained (contains.trans isInside)
  · intro fact
    rw [split, split, agree.inside fact]
    refine or_congr_right (exists_congr fun rectangle => ?_)
    exact and_congr_right fun isOutside =>
      agree.outside rectangle isOutside.2 fact

/-- A rectangle that contains no others has its facts by itself. -/
theorem AgreeOutside.agree
    {grown : Rectangle K}
    (agree : AgreeOutside rect has grown items others)
    (sameRectangles : (items.map rect).Perm (others.map rect))
    (isAlone :
      ∀ rectangle ∈ items.map rect,
        grown.Contains rectangle → rectangle = grown) :
    Agree rect has items others := by
  have insideIff
      {items : List α}
      (isAlone :
        ∀ rectangle ∈ items.map rect,
          grown.Contains rectangle → rectangle = grown)
      (fact : φ) :
      HasWhere rect has items (· = grown) fact ↔
        HasWhere rect has items grown.Contains fact := by
    constructor
    · rintro ⟨item, listed, isGrown, hasFact⟩
      exact ⟨item, listed, isGrown ▸ Contains.refl grown, hasFact⟩
    · rintro ⟨item, listed, isInside, hasFact⟩
      exact
        ⟨item, listed, isAlone _ (List.mem_map_of_mem listed) isInside, hasFact⟩
  intro rectangle fact
  by_cases isInside : grown.Contains rectangle
  · by_cases isGrown : rectangle = grown
    · rw [isGrown, insideIff isAlone, agree.inside, insideIff]
      intro rectangle listed
      exact isAlone rectangle (sameRectangles.mem_iff.mpr listed)
    · constructor
      · rintro ⟨item, listed, rfl, -⟩
        exact absurd (isAlone _ (List.mem_map_of_mem listed) isInside) isGrown
      · rintro ⟨item, listed, rfl, -⟩
        exact absurd
          (isAlone _ (sameRectangles.mem_iff.mpr (List.mem_map_of_mem listed))
            isInside)
          isGrown
  · exact agree.outside rectangle isInside fact

/-- Merging within a rectangle changes no facts. -/
theorem MergesFirst.hasWhere_iff
    {left right merged : α}
    (isFirst : MergesFirst rect has items others left right merged)
    {isKind : Rectangle K → Prop}
    (sameKind :
      (isKind (rect left) ↔ isKind (rect merged)) ∧
        (isKind (rect right) ↔ isKind (rect merged)))
    (fact : φ) :
    HasWhere rect has others isKind fact ↔
      HasWhere rect has items isKind fact := by
  obtain ⟨rest, isBefore, isAfter⟩ := isFirst.removes
  rw [hasWhere_perm isBefore, hasWhere_perm isAfter]
  simp only [HasWhere, List.exists_mem_cons_iff, isFirst.hasBoth, sameKind.1,
    sameKind.2, and_or_left, or_assoc]

theorem AgreeOutside.step
    {grown : Rectangle K}
    {items' others' : List α}
    {left right merged left' right' merged' : α}
    (agree : AgreeOutside rect has grown items others)
    (isFirst : MergesFirst rect has items items' left right merged)
    (isFirstToo : MergesFirst rect has others others' left' right' merged')
    (areInside : grown.Contains (rect left) ∧ grown.Contains (rect right))
    (sameLeft : rect left' = rect left)
    (sameRight : rect right' = rect right) :
    AgreeOutside rect has grown items' others' := by
  have isInside : grown.Contains (rect merged) := by
    rw [isFirst.isHull]
    exact areInside.1.hull areInside.2
  have sameMerged : rect merged' = rect merged := by
    rw [isFirst.isHull, isFirstToo.isHull, sameLeft, sameRight]
  constructor
  · intro rectangle notContained fact
    have notInside {inside : Rectangle K} (isPart : grown.Contains inside) :
        ¬inside = rectangle := by
      rintro rfl
      exact notContained isPart
    rw [isFirst.hasWhere_iff, isFirstToo.hasWhere_iff]
    · exact agree.outside rectangle notContained fact
    · rw [sameLeft, sameRight, sameMerged]
      simp only [notInside areInside.1, notInside areInside.2,
        notInside isInside, and_self]
    · simp only [notInside areInside.1, notInside areInside.2,
        notInside isInside, and_self]
  · intro fact
    rw [isFirst.hasWhere_iff, isFirstToo.hasWhere_iff]
    · exact agree.inside fact
    · rw [sameLeft, sameRight, sameMerged]
      simp only [areInside.1, areInside.2, isInside, and_self]
    · simp only [areInside.1, areInside.2, isInside, and_self]

theorem MergesFirst.mem
    {left right merged item : α}
    (isFirst : MergesFirst rect has items others left right merged)
    (listed : item ∈ others) :
    item = merged ∨ item ∈ items := by
  obtain ⟨rest, isBefore, isAfter⟩ := isFirst.removes
  rcases List.mem_cons.mp (isAfter.mem_iff.mp listed) with isMerged | isRest
  · exact Or.inl isMerged
  · exact Or.inr
      (isBefore.mem_iff.mpr
        (List.mem_cons_of_mem _ (List.mem_cons_of_mem _ isRest)))

/-- An item stays or becomes part of one with all of its facts. -/
theorem MergesFirst.covers
    {left right merged item : α}
    (isFirst : MergesFirst rect has items others left right merged)
    (listed : item ∈ items) :
    ∃ other ∈ others,
      (rect other).Contains (rect item) ∧
        ∀ fact, has item fact → has other fact := by
  obtain ⟨rest, isBefore, isAfter⟩ := isFirst.removes
  have isMerged : merged ∈ others := isAfter.mem_iff.mpr List.mem_cons_self
  rcases List.mem_cons.mp (isBefore.mem_iff.mp listed) with rfl | later
  · refine ⟨merged, isMerged, ?_, fun fact hasFact => ?_⟩
    · rw [isFirst.isHull]
      exact hull_contains_left _ _
    · exact (isFirst.hasBoth fact).mpr (Or.inl hasFact)
  · rcases List.mem_cons.mp later with rfl | isRest
    · refine ⟨merged, isMerged, ?_, fun fact hasFact => ?_⟩
      · rw [isFirst.isHull]
        exact hull_contains_right _ _
      · exact (isFirst.hasBoth fact).mpr (Or.inr hasFact)
    · exact ⟨item, isAfter.mem_iff.mpr (List.mem_cons_of_mem _ isRest),
        Contains.refl _, fun _ hasFact => hasFact⟩

variable {merged : List α}

/-- Every item is part of one that remains, with all of its facts. -/
theorem MergesAll.covers
    (isMerged : MergesAll rect has items merged)
    {item : α}
    (listed : item ∈ items) :
    ∃ other ∈ merged,
      (rect other).Contains (rect item) ∧
        ∀ fact, has item fact → has other fact := by
  induction isMerged generalizing item with
  | done isPerm =>
      exact ⟨item, isPerm.mem_iff.mp listed, Contains.refl _,
        fun _ hasFact => hasFact⟩
  | step isFirst isRest inductionHypothesis =>
      obtain ⟨other, isOther, contains, hasFacts⟩ := isFirst.covers listed
      obtain ⟨last, isLast, containsToo, hasFactsToo⟩ :=
        inductionHypothesis isOther
      exact ⟨last, isLast, containsToo.trans contains,
        fun fact hasFact => hasFactsToo fact (hasFacts fact hasFact)⟩

/-- What contains all items contains all that remain. -/
theorem MergesAll.isInside
    {outer : Rectangle K}
    (isMerged : MergesAll rect has items merged)
    (areInside : ∀ item ∈ items, outer.Contains (rect item)) :
    ∀ item ∈ merged, outer.Contains (rect item) := by
  induction isMerged with
  | done isPerm =>
      exact fun item listed => areInside item (isPerm.mem_iff.mpr listed)
  | step isFirst isRest inductionHypothesis =>
      refine inductionHypothesis fun item listed => ?_
      rcases isFirst.mem listed with rfl | isOld
      · obtain ⟨rest, isBefore, -⟩ := isFirst.removes
        rw [isFirst.isHull]
        exact
          (areInside _ (isBefore.mem_iff.mpr List.mem_cons_self)).hull
            (areInside _
              (isBefore.mem_iff.mpr
                (List.mem_cons_of_mem _ List.mem_cons_self)))
      · exact areInside item isOld

/-- Merging leaves no more items. -/
theorem MergesAll.length_le
    (isMerged : MergesAll rect has items merged) :
    merged.length ≤ items.length := by
  induction isMerged with
  | done isPerm => exact isPerm.length_eq.ge
  | step isFirst isRest inductionHypothesis =>
      obtain ⟨rest, isBefore, isAfter⟩ := isFirst.removes
      rw [isAfter.length_eq] at inductionHypothesis
      rw [isBefore.length_eq]
      exact inductionHypothesis.trans (Nat.le_succ _)

theorem MergesAll.noneOverlap
    (isMerged : MergesAll rect has items merged)
    {rectangle other : Rectangle K}
    (two : TwoOf rectangle other (merged.map rect)) :
    ¬rectangle.Overlaps other := by
  induction isMerged with
  | done isPerm noneOverlap =>
      exact noneOverlap rectangle other (two.of_perm (isPerm.map rect).symm)
  | step isFirst isRest inductionHypothesis => exact inductionHypothesis two

theorem MergesAll.perm_right
    {merged merged' : List α}
    (isMerged : MergesAll rect has items merged)
    (isPerm : merged.Perm merged') :
    MergesAll rect has items merged' := by
  induction isMerged with
  | done isPermToo noneOverlap =>
      exact .done (isPermToo.trans isPerm) noneOverlap
  | step isFirst isRest inductionHypothesis =>
      exact .step isFirst (inductionHypothesis isPerm)

variable (rect has)

/-- Items with the same rectangles, which agree now or will when merged. -/
structure MergesAlike (items others : List α) : Prop where
  sameRectangles : (items.map rect).Perm (others.map rect)
  arePositive : ArePositive (items.map rect)
  agree :
    Agree rect has items others ∨
      ∃ grown,
        IsGrown (items.map rect) grown ∧
          AgreeOutside rect has grown items others

variable {rect has}

theorem MergesFirst.map_perm
    {left right merged : α}
    (isFirst : MergesFirst rect has items others left right merged) :
    ∃ rest,
      (items.map rect).Perm (rect left :: rect right :: rest) ∧
        (others.map rect).Perm ((rect left).hull (rect right) :: rest) := by
  obtain ⟨rest, isBefore, isAfter⟩ := isFirst.removes
  refine ⟨rest.map rect, isBefore.map rect, ?_⟩
  rw [← isFirst.isHull]
  exact isAfter.map rect

theorem MergesFirst.twoOf
    {left right merged : α}
    (isFirst : MergesFirst rect has items others left right merged) :
    TwoOf (rect left) (rect right) (items.map rect) := by
  obtain ⟨rest, isBefore, -⟩ := isFirst.map_perm
  exact ⟨rest, isBefore⟩

variable [IsStrictOrderedRing K]

/-- The same rectangles are merged in both. -/
theorem MergesAlike.step
    {items' others' : List α}
    {left right merged left' right' merged' : α}
    (alike : MergesAlike rect has items others)
    (isFirst : MergesFirst rect has items items' left right merged)
    (isFirstToo : MergesFirst rect has others others' left' right' merged') :
    MergesAlike rect has items' others' := by
  obtain ⟨sameLeft, sameRight⟩ :=
    isFirst.isPair.unique isFirstToo.isPair alike.sameRectangles isFirst.twoOf
      isFirstToo.twoOf
  obtain ⟨rest, isBefore, isAfter⟩ := isFirst.map_perm
  obtain ⟨rest', isBefore', isAfter'⟩ := isFirstToo.map_perm
  rw [sameLeft, sameRight] at isBefore' isAfter'
  have sameRest : rest.Perm rest' :=
    List.Perm.cons_inv
      (List.Perm.cons_inv
        (isBefore.symm.trans (alike.sameRectangles.trans isBefore')))
  have arePositive : ArePositive (rect left :: rect right :: rest) := by
    intro rectangle listed
    exact alike.arePositive rectangle (isBefore.mem_iff.mpr listed)
  have isPair := isFirst.isPair.of_perm isBefore
  have hullGrown :=
    (isGrown_hull arePositive isPair).of_perm isAfter.symm
  have containsLeft := hull_contains_left (rect left) (rect right)
  have containsRight := hull_contains_right (rect left) (rect right)
  refine { sameRectangles := ?_, arePositive := ?_, agree := Or.inr ?_ }
  · exact isAfter.trans ((sameRest.cons _).trans isAfter'.symm)
  · intro rectangle listed
    rcases List.mem_cons.mp (isAfter.mem_iff.mp listed) with rfl | isRest
    · exact hull_isPositive (arePositive _ List.mem_cons_self)
    · exact arePositive rectangle
        (List.mem_cons_of_mem _ (List.mem_cons_of_mem _ isRest))
  · have ofAgree (agree : Agree rect has items others) :
        ∃ grown,
          IsGrown (items'.map rect) grown ∧
            AgreeOutside rect has grown items' others' :=
      ⟨_, hullGrown,
        (agree.agreeOutside _).step isFirst isFirstToo
          ⟨containsLeft, containsRight⟩ sameLeft sameRight⟩
    rcases alike.agree with agree | ⟨grown, isGrown, agree⟩
    · exact ofAgree agree
    · by_cases isEarlier : grown.place < (rect left).place
      · refine ofAgree (agree.agree alike.sameRectangles ?_)
        intro rectangle listed contains
        exact eq_of_contains alike.arePositive isGrown.listed isFirst.isPair
          isEarlier listed contains
      · rcases (isGrown.of_perm isBefore).merge arePositive isPair isEarlier with
          contains | ⟨containsLeft', containsRight', isStillGrown⟩
        · exact ⟨_, hullGrown,
            (agree.mono contains).step isFirst isFirstToo
              ⟨containsLeft, containsRight⟩ sameLeft sameRight⟩
        · exact ⟨grown, isStillGrown.of_perm isAfter.symm,
            agree.step isFirst isFirstToo ⟨containsLeft', containsRight'⟩
              sameLeft sameRight⟩

/-- Where none overlap, the items agree. -/
theorem MergesAlike.agree_of_noneOverlap
    (alike : MergesAlike rect has items others)
    (noneOverlap :
      ∀ rectangle other,
        TwoOf rectangle other (items.map rect) → ¬rectangle.Overlaps other) :
    Agree rect has items others := by
  rcases alike.agree with agree | ⟨grown, isGrown, agree⟩
  · exact agree
  · refine agree.agree alike.sameRectangles ?_
    intro rectangle listed contains
    by_contra differs
    exact noneOverlap grown rectangle
      (twoOf_of_ne isGrown.listed listed (Ne.symm differs))
      (contains.overlaps (alike.arePositive rectangle listed))

/-- What is merged from items that agree agrees. -/
theorem MergesAll.agree
    {merged merged' : List α}
    (isMerged : MergesAll rect has items merged)
    (isMergedToo : MergesAll rect has others merged')
    (alike : MergesAlike rect has items others) :
    (merged.map rect).Perm (merged'.map rect) ∧
      Agree rect has merged merged' := by
  induction isMerged generalizing others with
  | done isPerm noneOverlap =>
      cases isMergedToo with
      | done isPermToo noneOverlapToo =>
          constructor
          · exact (isPerm.map rect).symm.trans
              (alike.sameRectangles.trans (isPermToo.map rect))
          · intro rectangle fact
            rw [← hasWhere_perm isPerm, ← hasWhere_perm isPermToo]
            exact alike.agree_of_noneOverlap noneOverlap rectangle fact
      | step isFirst =>
          exact absurd isFirst.isPair.overlaps
            (noneOverlap _ _
              (isFirst.twoOf.of_perm alike.sameRectangles.symm))
  | step isFirst isRest inductionHypothesis =>
      cases isMergedToo with
      | done isPermToo noneOverlapToo =>
          exact absurd isFirst.isPair.overlaps
            (noneOverlapToo _ _ (isFirst.twoOf.of_perm alike.sameRectangles))
      | step isFirstToo isRestToo =>
          exact inductionHypothesis isRestToo (alike.step isFirst isFirstToo)

end TaskTwin.Geometry
