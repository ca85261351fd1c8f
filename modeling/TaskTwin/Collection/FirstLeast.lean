import Mathlib.Data.List.Basic
import Mathlib.Order.Lattice

/-!
# The first of the least items

Among the items of a list whose key is least, the one that stands first.  It
depends on the items of each key and their order alone, not on how the items
of different keys are interleaved.
-/

namespace TaskTwin.Collection

variable {α κ : Type} [LinearOrder κ]

/-- What stands before an item is greater, and what stands behind is not less. -/
def IsFirstLeast (key : α → κ) (items : List α) (item : α) : Prop :=
  ∃ earlier later,
    items = earlier ++ item :: later ∧
      (∀ other ∈ earlier, key item < key other) ∧
      ∀ other ∈ later, key item ≤ key other

/-- Two lists hold the same items of every key, in the same order. -/
def AlikeByKey (key : α → κ) (items others : List α) : Prop :=
  ∀ value,
    (items.filter fun item => decide (key item = value)) =
      others.filter fun item => decide (key item = value)

variable {key : α → κ} {items others rest : List α} {item other : α}

namespace IsFirstLeast

theorem mem
    (first : IsFirstLeast key items item) :
    item ∈ items := by
  obtain ⟨earlier, later, rfl, -, -⟩ := first
  simp

theorem le
    (first : IsFirstLeast key items item)
    (listed : other ∈ items) :
    key item ≤ key other := by
  obtain ⟨earlier, later, rfl, before, behind⟩ := first
  rcases List.mem_append.mp listed with isEarlier | isLater
  · exact (before other isEarlier).le
  · rcases List.mem_cons.mp isLater with rfl | isLater
    · exact le_refl _
    · exact behind other isLater

/-- The first item of the least key. -/
theorem head
    (first : IsFirstLeast key items item) :
    (items.filter fun other => decide (key other = key item)).head? =
      some item := by
  obtain ⟨earlier, later, rfl, before, -⟩ := first
  have noEarlier :
      (earlier.filter fun other => decide (key other = key item)) = [] := by
    apply List.filter_eq_nil_iff.mpr
    intro other listed
    simpa using (before other listed).ne'
  simp [noEarlier]

theorem unique
    (first : IsFirstLeast key items item)
    (second : IsFirstLeast key items other) :
    item = other := by
  have sameKey : key item = key other :=
    le_antisymm (first.le second.mem) (second.le first.mem)
  have isFirst := first.head
  rw [sameKey, second.head] at isFirst
  exact (Option.some.inj isFirst).symm

theorem singleton : IsFirstLeast key [item] item :=
  ⟨[], [], rfl, by simp, by simp⟩

/-- A smaller item behind the head comes first. -/
theorem behind
    (first : IsFirstLeast key rest item)
    (smaller : key item < key other) :
    IsFirstLeast key (other :: rest) item := by
  obtain ⟨earlier, later, rfl, before, behind⟩ := first
  refine ⟨other :: earlier, later, rfl, ?_, behind⟩
  intro candidate listed
  rcases List.mem_cons.mp listed with rfl | isEarlier
  · exact smaller
  · exact before candidate isEarlier

/-- The head comes first when nothing behind it is smaller. -/
theorem ahead
    (first : IsFirstLeast key rest item)
    (notSmaller : key other ≤ key item) :
    IsFirstLeast key (other :: rest) other :=
  ⟨[], rest, rfl, by simp, fun _ listed => notSmaller.trans (first.le listed)⟩

/-- Interleaving items of different keys otherwise makes no difference. -/
theorem of_alike
    (first : IsFirstLeast key items item)
    (alike : AlikeByKey key items others) :
    IsFirstLeast key others item := by
  have isHead := first.head
  rw [alike (key item)] at isHead
  obtain ⟨rest, isRest⟩ := List.head?_eq_some_iff.mp isHead
  obtain ⟨earlier, later, rfl, noEarlier, -, -⟩ :=
    List.filter_eq_cons_iff.mp isRest
  have least : ∀ other ∈ earlier ++ item :: later, key item ≤ key other := by
    intro other listed
    have ofItsKey :
        other ∈ items.filter fun candidate =>
          decide (key candidate = key other) := by
      rw [alike (key other)]
      simpa using listed
    exact first.le (List.mem_filter.mp ofItsKey).1
  refine ⟨earlier, later, rfl, ?_, ?_⟩
  · intro other listed
    refine lt_of_le_of_ne (least other (by simp [listed])) ?_
    intro sameKey
    exact noEarlier other listed (by simpa using sameKey.symm)
  · intro other listed
    exact least other (by simp [listed])

end IsFirstLeast

end TaskTwin.Collection
