import Mathlib.Data.List.Nodup

/-!
# Filling up to a limit

Items are added in their order for as long as fewer are kept than a limit
allows.  The new ones that are kept come before all the others in that order.
-/

namespace TaskTwin.Collection

variable {α : Type*} [DecidableEq α]

/-- `keep.add(item)`. -/
def addNew (keep : List α) (item : α) : List α :=
  if item ∈ keep then keep else keep ++ [item]

/-- `items.forEach(item => { if (keep.size < limit) keep.add(item) })`. -/
def fillUp (limit : Nat) : List α → List α → List α
  | keep, [] => keep
  | keep, item :: rest =>
      fillUp limit (if keep.length < limit then addNew keep item else keep) rest

variable {limit : Nat} {keep items : List α}

/-- The items that are not kept already. -/
def newItems (keep items : List α) : List α :=
  items.filter fun item => item ∉ keep

theorem mem_newItems {item : α} :
    item ∈ newItems keep items ↔ item ∈ items ∧ item ∉ keep := by
  simp [newItems]

theorem newItems_cons_kept
    {item : α}
    (kept : item ∈ keep) :
    newItems keep (item :: items) = newItems keep items := by
  simp [newItems, kept]

theorem newItems_cons_new
    {item : α}
    (isNew : item ∉ keep) :
    newItems keep (item :: items) = item :: newItems keep items := by
  simp [newItems, isNew]

/-- An item that does not come again is new for the rest or it is not. -/
theorem newItems_concat
    {item : α}
    (onlyOnce : item ∉ items) :
    newItems (keep ++ [item]) items = newItems keep items := by
  apply List.filter_congr
  intro other listed
  have differs : other ≠ item := fun same => onlyOnce (same ▸ listed)
  simp [differs]

/-- What is added are the first new items, as many as there is room for. -/
theorem fillUp_eq
    (distinct : items.Nodup) :
    fillUp limit keep items =
      keep ++ (newItems keep items).take (limit - keep.length) := by
  induction items generalizing keep with
  | nil => simp [fillUp, newItems]
  | cons item rest inductionHypothesis =>
      obtain ⟨onlyOnce, distinctRest⟩ := List.nodup_cons.mp distinct
      rw [fillUp, inductionHypothesis distinctRest]
      by_cases kept : item ∈ keep
      · rw [newItems_cons_kept kept]
        simp [addNew, kept]
      · rw [newItems_cons_new kept]
        by_cases hasRoom : keep.length < limit
        · have room : limit - keep.length = limit - (keep.length + 1) + 1 := by
            omega
          simp only [hasRoom, if_true, addNew, kept, if_false,
            newItems_concat onlyOnce, List.length_append, List.length_singleton,
            room, List.take_succ_cons, List.append_assoc, List.singleton_append]
        · have noRoom : limit - keep.length = 0 := by omega
          simp [hasRoom, noRoom]

theorem nodup_fillUp
    (distinctKept : keep.Nodup)
    (distinct : items.Nodup) :
    (fillUp limit keep items).Nodup := by
  rw [fillUp_eq distinct, List.nodup_append']
  refine ⟨distinctKept, (distinct.filter _).sublist (List.take_sublist _ _), ?_⟩
  intro item kept added
  exact (mem_newItems.mp (List.mem_of_mem_take added)).2 kept

/-- The new items that are kept come before those that are not. -/
theorem pairwise_fillUp
    {before : α → α → Prop}
    (distinct : items.Nodup)
    (ordered : items.Pairwise before)
    {added dropped : α}
    (isAdded : added ∈ fillUp limit keep items)
    (isNew : added ∉ keep)
    (isDropped : dropped ∉ fillUp limit keep items)
    (listed : dropped ∈ items) :
    before added dropped := by
  rw [fillUp_eq distinct, List.mem_append] at isAdded isDropped
  push Not at isDropped
  obtain ⟨notKept, notTaken⟩ := isDropped
  have isTaken := isAdded.resolve_left isNew
  have isLeft :
      dropped ∈ (newItems keep items).drop (limit - keep.length) := by
    have isItem := mem_newItems.mpr ⟨listed, notKept⟩
    rw [← List.take_append_drop (limit - keep.length) (newItems keep items),
      List.mem_append] at isItem
    exact isItem.resolve_left notTaken
  have orderedNew : (newItems keep items).Pairwise before :=
    ordered.sublist List.filter_sublist
  rw [← List.take_append_drop (limit - keep.length) (newItems keep items),
    List.pairwise_append] at orderedNew
  exact orderedNew.2.2 added isTaken dropped isLeft

end TaskTwin.Collection
