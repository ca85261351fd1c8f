import Mathlib.Data.List.Sort
import TaskTwin.Text.CodeUnit

/-!
# Collations

How a locale orders strings.  A collation need not tell all strings apart, so
sorting by it is only determined because the sort is stable.
-/

namespace TaskTwin.Text

/-- An order that `localeCompare` may have. -/
structure Collation where
  /-- `left.localeCompare(right) <= 0`. -/
  notAfter : JsString → JsString → Bool
  notAfter_trans :
    ∀ first second third,
      notAfter first second = true →
      notAfter second third = true →
      notAfter first third = true
  notAfter_total :
    ∀ first second, (notAfter first second || notAfter second first) = true

variable {α β : Type*}

/-- The items stand in the order of a collation. -/
def Collation.Orders
    (collation : Collation)
    (key : α → JsString)
    (items : List α) :
    Prop :=
  items.Pairwise fun first second =>
    collation.notAfter (key first) (key second) = true

instance
    (collation : Collation)
    (key : α → JsString)
    (items : List α) :
    Decidable (collation.Orders key items) :=
  inferInstanceAs (Decidable (List.Pairwise _ items))

/-- `items.sort((left, right) => left.key.localeCompare(right.key))`. -/
def Collation.sort
    (collation : Collation)
    (key : α → JsString)
    (items : List α) :
    List α :=
  items.mergeSort fun first second =>
    collation.notAfter (key first) (key second)

section Sorting

variable
  {collation : Collation}
  {key : α → JsString}

theorem Collation.sort_perm (items : List α) :
    (collation.sort key items).Perm items :=
  List.mergeSort_perm items _

theorem Collation.orders_sort (items : List α) :
    collation.Orders key (collation.sort key items) := by
  apply List.pairwise_mergeSort
  · intro first second third
    exact collation.notAfter_trans _ _ _
  · intro first second
    exact collation.notAfter_total _ _

/-- Sorting changes nothing exactly when there is nothing to sort. -/
theorem Collation.sort_eq_self_iff {items : List α} :
    collation.sort key items = items ↔ collation.Orders key items := by
  constructor
  · intro unchanged
    rw [← unchanged]
    exact orders_sort items
  · intro ordered
    exact List.mergeSort_of_pairwise ordered

theorem Collation.sort_of_orders
    {items : List α}
    (ordered : collation.Orders key items) :
    collation.sort key items = items :=
  sort_eq_self_iff.mpr ordered

theorem Collation.sort_sort (items : List α) :
    collation.sort key (collation.sort key items) =
      collation.sort key items :=
  sort_of_orders (orders_sort items)

theorem Collation.orders_map
    {project : β → α}
    {items : List β} :
    collation.Orders key (items.map project) ↔
      collation.Orders (fun item => key (project item)) items :=
  List.pairwise_map

theorem Collation.Orders.sublist
    {items kept : List α}
    (ordered : collation.Orders key items)
    (isKept : kept.Sublist items) :
    collation.Orders key kept :=
  List.Pairwise.sublist isKept ordered

end Sorting

/-- Words in the order of a dictionary whose letters have ranks. -/
def wordNotAfter (rank : CodeUnit → Nat) : JsString → JsString → Bool
  | [], _ => true
  | _ :: _, [] => false
  | first :: word, second :: other =>
      rank first < rank second ||
        (rank first == rank second && wordNotAfter rank word other)

variable (rank : CodeUnit → Nat)

theorem wordNotAfter_total (word other : JsString) :
    (wordNotAfter rank word other || wordNotAfter rank other word) = true := by
  induction word generalizing other with
  | nil => rfl
  | cons first word inductionHypothesis =>
      cases other with
      | nil => rfl
      | cons second other =>
          have later := inductionHypothesis other
          rw [Bool.or_eq_true] at later
          simp only [wordNotAfter, Bool.or_eq_true, Bool.and_eq_true,
            decide_eq_true_eq, beq_iff_eq]
          rcases Nat.lt_trichotomy (rank first) (rank second) with
            before | same | behind
          · exact Or.inl (Or.inl before)
          · rcases later with forward | backward
            · exact Or.inl (Or.inr ⟨same, forward⟩)
            · exact Or.inr (Or.inr ⟨same.symm, backward⟩)
          · exact Or.inr (Or.inl behind)

theorem wordNotAfter_trans
    (first second third : JsString)
    (before : wordNotAfter rank first second = true)
    (after : wordNotAfter rank second third = true) :
    wordNotAfter rank first third = true := by
  induction first generalizing second third with
  | nil => rfl
  | cons letter word inductionHypothesis =>
      cases second with
      | nil => cases before
      | cons letter' word' =>
          cases third with
          | nil => cases after
          | cons letter'' word'' =>
              simp only [wordNotAfter, Bool.or_eq_true, Bool.and_eq_true,
                decide_eq_true_eq, beq_iff_eq] at before after ⊢
              rcases before with less | ⟨same, before⟩
              · rcases after with less' | ⟨same', _⟩
                · exact Or.inl (less.trans less')
                · exact Or.inl (same' ▸ less)
              · rcases after with less' | ⟨same', after⟩
                · exact Or.inl (same ▸ less')
                · exact Or.inr
                    ⟨same.trans same',
                      inductionHypothesis word' word'' before after⟩

/-- The collation of a dictionary with these letters in this order. -/
def Collation.ofAlphabet (alphabet : JsString) : Collation where
  notAfter := wordNotAfter fun letter => alphabet.idxOf letter
  notAfter_trans := wordNotAfter_trans _
  notAfter_total := wordNotAfter_total _

end TaskTwin.Text
