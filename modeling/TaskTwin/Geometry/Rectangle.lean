import Mathlib.Algebra.Order.Field.Basic
import Mathlib.Algebra.Order.Group.MinMax
import Mathlib.Data.Prod.Lex
import Mathlib.Tactic.Linarith
import Mathlib.Tactic.Ring

/-!
# Rectangles

Rectangles over an ordered field: their order, the least rectangle that
contains two of them, and which of them overlap by half of the smaller.
-/

namespace TaskTwin.Geometry

variable {K : Type*}

structure Rectangle (K : Type*) where
  x : K
  y : K
  width : K
  height : K
  deriving DecidableEq, Repr

namespace Rectangle

/-- From above to below, and from left to right. -/
def place (rectangle : Rectangle K) : K ×ₗ K ×ₗ K ×ₗ K :=
  toLex (rectangle.y,
    toLex (rectangle.x, toLex (rectangle.width, rectangle.height)))

theorem place_inj
    {rectangle other : Rectangle K}
    (same : rectangle.place = other.place) :
    rectangle = other := by
  cases rectangle
  cases other
  simp only [place, EmbeddingLike.apply_eq_iff_eq, Prod.mk.injEq] at same
  obtain ⟨rfl, rfl, rfl, rfl⟩ := same
  rfl

section Order

variable [LinearOrder K]

theorem place_lt_iff {rectangle other : Rectangle K} :
    rectangle.place < other.place ↔
      rectangle.y < other.y ∨ rectangle.y = other.y ∧
        (rectangle.x < other.x ∨ rectangle.x = other.x ∧
          (rectangle.width < other.width ∨ rectangle.width = other.width ∧
            rectangle.height < other.height)) := by
  simp only [place, Prod.Lex.toLex_lt_toLex]

theorem place_le_iff {rectangle other : Rectangle K} :
    rectangle.place ≤ other.place ↔
      rectangle.y < other.y ∨ rectangle.y = other.y ∧
        (rectangle.x < other.x ∨ rectangle.x = other.x ∧
          (rectangle.width < other.width ∨ rectangle.width = other.width ∧
            rectangle.height ≤ other.height)) := by
  simp only [place, Prod.Lex.toLex_le_toLex]

end Order

variable [Field K] [LinearOrder K]

def right (rectangle : Rectangle K) : K := rectangle.x + rectangle.width

def bottom (rectangle : Rectangle K) : K := rectangle.y + rectangle.height

def area (rectangle : Rectangle K) : K := rectangle.width * rectangle.height

def intersectionArea (rectangle other : Rectangle K) : K :=
  max 0
      (min rectangle.right other.right - max rectangle.x other.x) *
    max 0 (min rectangle.bottom other.bottom - max rectangle.y other.y)

/-- Half of the smaller one, or more, is part of the other. -/
def Overlaps (rectangle other : Rectangle K) : Prop :=
  0 < rectangle.intersectionArea other ∧
    1 / 2 ≤
      rectangle.intersectionArea other / min rectangle.area other.area

/-- A part of the plane. -/
structure IsPositive (rectangle : Rectangle K) : Prop where
  width : 0 < rectangle.width
  height : 0 < rectangle.height

structure Contains (rectangle other : Rectangle K) : Prop where
  x : rectangle.x ≤ other.x
  y : rectangle.y ≤ other.y
  right : other.right ≤ rectangle.right
  bottom : other.bottom ≤ rectangle.bottom

/-- The least rectangle that contains both. -/
def hull (rectangle other : Rectangle K) : Rectangle K where
  x := min rectangle.x other.x
  y := min rectangle.y other.y
  width := max rectangle.right other.right - min rectangle.x other.x
  height := max rectangle.bottom other.bottom - min rectangle.y other.y

variable {rectangle other third : Rectangle K}

theorem Contains.refl (rectangle : Rectangle K) :
    rectangle.Contains rectangle :=
  ⟨le_rfl, le_rfl, le_rfl, le_rfl⟩

theorem Contains.trans
    (contains : rectangle.Contains other)
    (containsToo : other.Contains third) :
    rectangle.Contains third :=
  ⟨contains.x.trans containsToo.x, contains.y.trans containsToo.y,
    containsToo.right.trans contains.right,
    containsToo.bottom.trans contains.bottom⟩

theorem Contains.antisymm
    (contains : rectangle.Contains other)
    (containsToo : other.Contains rectangle) :
    rectangle = other := by
  have sameX := contains.x.antisymm containsToo.x
  have sameY := contains.y.antisymm containsToo.y
  have sameRight := containsToo.right.antisymm contains.right
  have sameBottom := containsToo.bottom.antisymm contains.bottom
  cases rectangle
  cases other
  simp only [Rectangle.right, Rectangle.bottom] at *
  subst sameX sameY
  simpa using And.intro sameRight sameBottom

theorem hull_right (rectangle other : Rectangle K) :
    (rectangle.hull other).right = max rectangle.right other.right := by
  simp [right, hull]

theorem hull_bottom (rectangle other : Rectangle K) :
    (rectangle.hull other).bottom = max rectangle.bottom other.bottom := by
  simp [bottom, hull]

theorem hull_contains_left (rectangle other : Rectangle K) :
    (rectangle.hull other).Contains rectangle :=
  ⟨min_le_left _ _, min_le_left _ _,
    (le_max_left _ _).trans_eq (hull_right _ _).symm,
    (le_max_left _ _).trans_eq (hull_bottom _ _).symm⟩

theorem hull_contains_right (rectangle other : Rectangle K) :
    (rectangle.hull other).Contains other :=
  ⟨min_le_right _ _, min_le_right _ _,
    (le_max_right _ _).trans_eq (hull_right _ _).symm,
    (le_max_right _ _).trans_eq (hull_bottom _ _).symm⟩

theorem Contains.hull
    (contains : third.Contains rectangle)
    (containsToo : third.Contains other) :
    third.Contains (rectangle.hull other) :=
  ⟨le_min contains.x containsToo.x, le_min contains.y containsToo.y,
    (hull_right rectangle other).trans_le
      (max_le contains.right containsToo.right),
    (hull_bottom rectangle other).trans_le
      (max_le contains.bottom containsToo.bottom)⟩

theorem intersectionArea_comm (rectangle other : Rectangle K) :
    rectangle.intersectionArea other = other.intersectionArea rectangle := by
  rw [intersectionArea, intersectionArea, min_comm rectangle.right,
    max_comm rectangle.x, min_comm rectangle.bottom, max_comm rectangle.y]

theorem Overlaps.symm (overlaps : rectangle.Overlaps other) :
    other.Overlaps rectangle := by
  rw [Overlaps, intersectionArea_comm, min_comm]
  exact overlaps

theorem intersectionArea_of_contains
    (contains : rectangle.Contains other)
    (isPositive : other.IsPositive) :
    rectangle.intersectionArea other = other.area := by
  obtain ⟨width, height⟩ := isPositive
  rw [intersectionArea, min_eq_right contains.right, max_eq_right contains.x,
    min_eq_right contains.bottom, max_eq_right contains.y, right, bottom,
    add_sub_cancel_left, add_sub_cancel_left, max_eq_right width.le,
    max_eq_right height.le, area]

variable [IsStrictOrderedRing K]

/-- A part of the plane that is contained is no wider and no higher. -/
theorem Contains.extent
    (contains : rectangle.Contains other) :
    other.width ≤ rectangle.width ∧ other.height ≤ rectangle.height := by
  obtain ⟨x, y, right, bottom⟩ := contains
  simp only [Rectangle.right, Rectangle.bottom] at right bottom
  constructor
  · linarith
  · linarith

theorem hull_isPositive
    (isPositive : rectangle.IsPositive) :
    (rectangle.hull other).IsPositive := by
  obtain ⟨width, height⟩ := (hull_contains_left rectangle other).extent
  exact ⟨isPositive.width.trans_le width, isPositive.height.trans_le height⟩

theorem IsPositive.area (isPositive : rectangle.IsPositive) :
    0 < rectangle.area :=
  mul_pos isPositive.width isPositive.height

theorem overlaps_iff
    (isPositive : rectangle.IsPositive)
    (isPositiveToo : other.IsPositive) :
    rectangle.Overlaps other ↔
      min rectangle.area other.area ≤
        2 * rectangle.intersectionArea other := by
  have smaller : 0 < min rectangle.area other.area :=
    lt_min isPositive.area isPositiveToo.area
  rw [Overlaps, le_div_iff₀ smaller]
  constructor
  · rintro ⟨-, half⟩
    linarith
  · intro half
    constructor
    · linarith
    · linarith

/-- What contains a part of the plane overlaps it. -/
theorem Contains.overlaps
    (contains : rectangle.Contains other)
    (isPositive : other.IsPositive) :
    rectangle.Overlaps other := by
  obtain ⟨width, height⟩ := contains.extent
  have isPositiveToo : rectangle.IsPositive :=
    ⟨isPositive.width.trans_le width, isPositive.height.trans_le height⟩
  rw [overlaps_iff isPositiveToo isPositive,
    intersectionArea_of_contains contains isPositive]
  have area := isPositive.area
  exact (min_le_right _ _).trans (by linarith)

theorem overlaps_self (isPositive : rectangle.IsPositive) :
    rectangle.Overlaps rectangle :=
  (Contains.refl rectangle).overlaps isPositive

end Rectangle

end TaskTwin.Geometry

/-!
## Rectangles with a common corner
-/

namespace TaskTwin.Geometry.Rectangle

variable {K : Type*}

/-- Two rectangles begin at the same point. -/
structure SameCorner (rectangle other : Rectangle K) : Prop where
  x : rectangle.x = other.x
  y : rectangle.y = other.y

variable {rectangle other third outer : Rectangle K}

variable [LinearOrder K]

/-- What lies between two rectangles with the same corner has that corner. -/
theorem SameCorner.between
    (same : rectangle.SameCorner outer)
    (isLater : rectangle.place ≤ other.place)
    (isEarlier : other.place ≤ outer.place) :
    other.SameCorner outer := by
  obtain ⟨sameX, sameY⟩ := same
  rcases place_le_iff.mp isLater with below | ⟨sameY', isLater⟩
  · rcases place_le_iff.mp isEarlier with above | ⟨sameY'', -⟩
    · exact absurd (below.trans above) (by rw [sameY]; exact lt_irrefl _)
    · exact absurd below (by rw [sameY, sameY'']; exact lt_irrefl _)
  · rcases place_le_iff.mp isEarlier with above | ⟨sameY'', isEarlier⟩
    · exact absurd above (by rw [← sameY', sameY]; exact lt_irrefl _)
    · rcases isLater with after | ⟨sameX', -⟩
      · rcases isEarlier with before | ⟨sameX'', -⟩
        · exact absurd (after.trans before) (by rw [sameX]; exact lt_irrefl _)
        · exact absurd after (by rw [sameX, sameX'']; exact lt_irrefl _)
      · exact ⟨sameX'.symm.trans sameX, sameY''⟩

/-- Of two rectangles with the same corner, the first one is no wider. -/
theorem SameCorner.width_le
    (same : rectangle.SameCorner other)
    (isEarlier : rectangle.place ≤ other.place) :
    rectangle.width ≤ other.width := by
  obtain ⟨sameX, sameY⟩ := same
  rcases place_le_iff.mp isEarlier with above | ⟨-, before | ⟨-, isEarlier⟩⟩
  · exact absurd above (by rw [sameY]; exact lt_irrefl _)
  · exact absurd before (by rw [sameX]; exact lt_irrefl _)
  · rcases isEarlier with narrower | ⟨sameWidth, -⟩
    · exact narrower.le
    · exact sameWidth.le

theorem SameCorner.height_lt
    (same : rectangle.SameCorner other)
    (sameWidth : rectangle.width = other.width)
    (isEarlier : rectangle.place < other.place) :
    rectangle.height < other.height := by
  obtain ⟨sameX, sameY⟩ := same
  rcases place_lt_iff.mp isEarlier with above | ⟨-, before | ⟨-, isEarlier⟩⟩
  · exact absurd above (by rw [sameY]; exact lt_irrefl _)
  · exact absurd before (by rw [sameX]; exact lt_irrefl _)
  · rcases isEarlier with narrower | ⟨-, lower⟩
    · exact absurd narrower (by rw [sameWidth]; exact lt_irrefl _)
    · exact lower

variable [Field K]

/-- What is contained but comes first has the same corner. -/
theorem Contains.sameCorner
    (contains : outer.Contains rectangle)
    (isEarlier : rectangle.place ≤ outer.place) :
    rectangle.SameCorner outer := by
  rcases place_le_iff.mp isEarlier with above | ⟨sameY, isEarlier⟩
  · exact absurd contains.y (not_le.mpr above)
  · rcases isEarlier with before | ⟨sameX, -⟩
    · exact absurd contains.x (not_le.mpr before)
    · exact ⟨sameX, sameY⟩

variable [IsStrictOrderedRing K]

theorem SameCorner.contains
    (same : rectangle.SameCorner other)
    (width : other.width ≤ rectangle.width)
    (height : other.height ≤ rectangle.height) :
    rectangle.Contains other := by
  obtain ⟨sameX, sameY⟩ := same
  refine ⟨sameX.le, sameY.le, ?_, ?_⟩
  · rw [right, right, sameX]
    linarith
  · rw [bottom, bottom, sameY]
    linarith

/-- With the same corner but not contained, a narrower rectangle is higher. -/
theorem SameCorner.height_lt_of_not_contains
    (same : rectangle.SameCorner outer)
    (width : rectangle.width ≤ outer.width)
    (notContained : ¬outer.Contains rectangle) :
    outer.height < rectangle.height := by
  by_contra lower
  have sameToo : outer.SameCorner rectangle := ⟨same.x.symm, same.y.symm⟩
  exact notContained (sameToo.contains width (not_lt.mp lower))

/-- The hull of two rectangles with a common corner. -/
theorem SameCorner.hull
    (same : rectangle.SameCorner other) :
    (rectangle.hull other).SameCorner other ∧
      (rectangle.hull other).width = max rectangle.width other.width ∧
      (rectangle.hull other).height = max rectangle.height other.height := by
  obtain ⟨sameX, sameY⟩ := same
  refine ⟨⟨?_, ?_⟩, ?_, ?_⟩
  · rw [Rectangle.hull, sameX, min_self]
  · rw [Rectangle.hull, sameY, min_self]
  · simp only [Rectangle.hull, right]
    rw [sameX, min_self, max_add_add_left, add_sub_cancel_left]
  · simp only [Rectangle.hull, bottom]
    rw [sameY, min_self, max_add_add_left, add_sub_cancel_left]

/--
What comes between a rectangle and its hull with another one, but is not
contained in the hull, overlaps the rectangle and comes before the other one.
-/
theorem overlaps_of_between
    (isPositive : rectangle.IsPositive)
    (isLater : rectangle.place ≤ third.place)
    (isEarlier : third.place < (rectangle.hull other).place)
    (notContained : ¬(rectangle.hull other).Contains third) :
    rectangle.Overlaps third ∧ ¬other.place ≤ third.place := by
  have sameCorner :=
    (hull_contains_left rectangle other).sameCorner
      (isLater.trans isEarlier.le)
  have between := sameCorner.between isLater isEarlier.le
  have narrower := between.width_le isEarlier.le
  have higher := between.height_lt_of_not_contains narrower notContained
  have extent := (hull_contains_left rectangle other).extent
  have sameAsFirst : third.SameCorner rectangle :=
    ⟨between.x.trans sameCorner.x.symm, between.y.trans sameCorner.y.symm⟩
  have wider : rectangle.width ≤ third.width := by
    have sameToo : rectangle.SameCorner third :=
      ⟨sameAsFirst.x.symm, sameAsFirst.y.symm⟩
    exact sameToo.width_le isLater
  constructor
  · exact ((sameAsFirst.contains wider
      (extent.2.trans higher.le)).overlaps isPositive).symm
  · intro isBefore
    have otherCorner :=
      (hull_contains_right rectangle other).sameCorner
        (isBefore.trans isEarlier.le)
    have otherSame : other.SameCorner third :=
      ⟨otherCorner.x.trans between.x.symm, otherCorner.y.trans between.y.symm⟩
    have otherNarrower := otherSame.width_le isBefore
    have firstSame : rectangle.SameCorner other :=
      ⟨sameCorner.x.trans otherCorner.x.symm,
        sameCorner.y.trans otherCorner.y.symm⟩
    have sameWidth : third.width = (rectangle.hull other).width := by
      refine narrower.antisymm ?_
      rw [firstSame.hull.2.1]
      exact max_le wider otherNarrower
    exact absurd (between.height_lt sameWidth isEarlier)
      (not_lt.mpr higher.le)

/-- More of a rectangle is part of what contains another one. -/
theorem intersectionArea_mono
    (contains : outer.Contains other) :
    rectangle.intersectionArea other ≤ rectangle.intersectionArea outer := by
  rw [intersectionArea, intersectionArea]
  apply mul_le_mul
  · exact max_le_max le_rfl
      (sub_le_sub (min_le_min le_rfl contains.right)
        (max_le_max le_rfl contains.x))
  · exact max_le_max le_rfl
      (sub_le_sub (min_le_min le_rfl contains.bottom)
        (max_le_max le_rfl contains.y))
  · exact le_max_left _ _
  · exact le_max_left _ _

/--
What begins above a corner and overlaps the hull of two rectangles there
overlaps the wider one, the higher one or all that contains them.
-/
theorem overlaps_of_overlaps_hull
    {narrow wide : Rectangle K}
    (isPositive : rectangle.IsPositive)
    (isPositiveNarrow : narrow.IsPositive)
    (isPositiveWide : wide.IsPositive)
    (same : narrow.SameCorner wide)
    (narrower : narrow.width ≤ wide.width)
    (containsHull : outer.Contains (narrow.hull wide))
    (isAbove : rectangle.y ≤ wide.y)
    (overlaps : rectangle.Overlaps (narrow.hull wide)) :
    rectangle.Overlaps outer ∨ rectangle.Overlaps wide := by
  obtain ⟨sameHull, hullWidth, hullHeight⟩ := same.hull
  rw [max_eq_right narrower] at hullWidth
  have isPositiveHull : (narrow.hull wide).IsPositive :=
    hull_isPositive isPositiveNarrow
  have isPositiveOuter : outer.IsPositive := by
    obtain ⟨width, height⟩ := containsHull.extent
    exact ⟨isPositiveHull.width.trans_le width,
      isPositiveHull.height.trans_le height⟩
  by_cases lower : narrow.height ≤ wide.height
  · -- the wider one is the hull
    right
    have sameToo : wide.SameCorner narrow := ⟨same.x.symm, same.y.symm⟩
    have isHull : narrow.hull wide = wide :=
      (hull_contains_right narrow wide).antisymm
        ((sameToo.contains narrower lower).hull (Contains.refl wide))
    rwa [isHull] at overlaps
  rw [max_eq_left (not_le.mp lower).le] at hullHeight
  rw [overlaps_iff isPositive isPositiveHull] at overlaps
  by_cases smaller : rectangle.area ≤ (narrow.hull wide).area
  · left
    have more :
        rectangle.intersectionArea (narrow.hull wide) ≤
          rectangle.intersectionArea outer :=
      intersectionArea_mono containsHull
    rw [overlaps_iff isPositive isPositiveOuter]
    rw [min_eq_left smaller] at overlaps
    exact (min_le_left _ _).trans (by linarith)
  · right
    rw [min_eq_right (not_le.mp smaller).le] at overlaps
    rw [overlaps_iff isPositive isPositiveWide]
    refine (min_le_right _ _).trans ?_
    have isRight : (narrow.hull wide).right = wide.right := by
      rw [Rectangle.right, Rectangle.right, sameHull.x, hullWidth]
    have isBottom :
        (narrow.hull wide).bottom = wide.y + narrow.height := by
      rw [Rectangle.bottom, sameHull.y, hullHeight]
    rw [area, hullWidth, hullHeight, intersectionArea, isRight, isBottom,
      sameHull.x, sameHull.y, max_eq_right isAbove] at overlaps
    have isWideBottom : wide.bottom = wide.y + wide.height := rfl
    rw [area, intersectionArea, max_eq_right isAbove, isWideBottom]
    generalize isAcross :
      max 0 (min rectangle.right wide.right - max rectangle.x wide.x) = across
      at *
    have notNegative : 0 ≤ across := by
      rw [← isAcross]
      exact le_max_left _ _
    have depth :
        ∀ height,
          min rectangle.bottom (wide.y + height) - wide.y =
            min (rectangle.bottom - wide.y) height := by
      intro height
      rw [← min_sub_sub_right, add_sub_cancel_left]
    rw [depth] at overlaps ⊢
    generalize rectangle.bottom - wide.y = reach at *
    have width := isPositiveWide.width
    have height := isPositiveWide.height
    have higher := not_le.mp lower
    have isReaching : 0 < reach := by
      by_contra none
      have noDepth : max 0 (min reach narrow.height) = 0 :=
        max_eq_left ((min_le_left _ _).trans (not_lt.mp none))
      rw [noDepth, mul_zero, mul_zero] at overlaps
      exact absurd overlaps
        (not_le.mpr (mul_pos width isPositiveNarrow.height))
    rw [max_eq_right (le_min isReaching.le isPositiveNarrow.height.le)]
      at overlaps
    rw [max_eq_right (le_min isReaching.le height.le)]
    by_cases reaches : wide.height ≤ reach
    · rw [min_eq_right reaches]
      have half : wide.width ≤ 2 * across := by
        have notDeeper : min reach narrow.height ≤ narrow.height :=
          min_le_right _ _
        have bound :
            wide.width * narrow.height ≤ 2 * across * narrow.height := by
          calc
            wide.width * narrow.height ≤
                2 * (across * min reach narrow.height) := overlaps
            _ = 2 * across * min reach narrow.height := by ring
            _ ≤ 2 * across * narrow.height :=
              mul_le_mul_of_nonneg_left notDeeper (by linarith)
        exact le_of_mul_le_mul_right bound isPositiveNarrow.height
      calc
        wide.width * wide.height ≤ 2 * across * wide.height :=
          mul_le_mul_of_nonneg_right half height.le
        _ = 2 * (across * wide.height) := by ring
    · have shorter := not_le.mp reaches
      rw [min_eq_left shorter.le]
      rw [min_eq_left (shorter.trans higher).le] at overlaps
      exact (mul_le_mul_of_nonneg_left higher.le width.le).trans overlaps

end TaskTwin.Geometry.Rectangle
