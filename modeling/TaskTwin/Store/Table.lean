import Mathlib.Data.List.Nodup
import Mathlib.Data.List.Pairwise

/-!
# Tables

A table is the list of its rows.  Rows are found by a key, changed in place
where a condition holds, and inserted under keys that are not taken.
-/

namespace TaskTwin.Store

variable {α κ ι : Type*}

/-- The row with a key. -/
def findUnique
    [DecidableEq κ]
    (key : α → κ)
    (wanted : κ)
    (rows : List α) :
    Option α :=
  rows.find? fun row => key row = wanted

/-- Changing the rows that a condition holds of. -/
def updateMany
    (applies : α → Bool)
    (change : α → α)
    (rows : List α) :
    List α :=
  rows.map fun row => if applies row then change row else row

/-- Inserting rows; `none` when a key is taken. -/
def createMany
    [DecidableEq κ]
    (key : α → κ)
    (created rows : List α) :
    Option (List α) :=
  if ((rows ++ created).map key).Nodup then some (rows ++ created) else none

/-- Inserting the rows that no row is in the way of. -/
def createManySkipDuplicates
    (conflicts : α → α → Bool)
    (created rows : List α) :
    List α :=
  created.foldl
    (fun rows row =>
      if rows.any (conflicts row) then rows else rows ++ [row])
    rows

theorem mem_of_findUnique
    [DecidableEq κ]
    {key : α → κ}
    {wanted : κ}
    {rows : List α}
    {row : α}
    (found : findUnique key wanted rows = some row) :
    row ∈ rows ∧ key row = wanted := by
  constructor
  · exact List.mem_of_find?_eq_some found
  · simpa using List.find?_some found

/-- Keys tell the rows of a table apart. -/
theorem eq_of_key
    {key : α → κ}
    {rows : List α}
    (distinct : (rows.map key).Nodup)
    {row other : α}
    (listed : row ∈ rows)
    (listed' : other ∈ rows)
    (sameKey : key row = key other) :
    row = other :=
  List.inj_on_of_nodup_map distinct listed listed' sameKey

theorem findUnique_of_mem
    [DecidableEq κ]
    {key : α → κ}
    {rows : List α}
    (distinct : (rows.map key).Nodup)
    {row : α}
    (listed : row ∈ rows) :
    findUnique key (key row) rows = some row := by
  cases found : findUnique key (key row) rows with
  | none =>
      have notFound := List.find?_eq_none.mp found row listed
      simp at notFound
  | some other =>
      obtain ⟨listed', sameKey⟩ := mem_of_findUnique found
      rw [eq_of_key distinct listed' listed sameKey]

theorem exists_mem_map
    {β : Type*}
    {change : α → β}
    {rows : List α}
    {holds : β → Prop} :
    (∃ row ∈ rows.map change, holds row) ↔
      ∃ row ∈ rows, holds (change row) := by
  simp

/-- A change that keeps the keys keeps them distinct. -/
theorem nodup_map_of_keeps
    {key : α → κ}
    {change : α → α}
    (keeps : ∀ row, key (change row) = key row)
    {rows : List α}
    (distinct : (rows.map key).Nodup) :
    ((rows.map change).map key).Nodup := by
  have sameKeys : (rows.map change).map key = rows.map key := by
    rw [List.map_map]
    exact List.map_congr_left fun row _ => keeps row
  rwa [sameKeys]

/-- A row after a change that keeps the keys, by its key. -/
theorem eq_change_of_key
    {key : α → κ}
    {change : α → α}
    (keeps : ∀ row, key (change row) = key row)
    {rows : List α}
    (distinct : (rows.map key).Nodup)
    {row row' : α}
    (listed : row ∈ rows)
    (listed' : row' ∈ rows.map change)
    (sameKey : key row' = key row) :
    row' = change row := by
  obtain ⟨other, isOther, rfl⟩ := List.mem_map.mp listed'
  rw [keeps] at sameKey
  rw [eq_of_key distinct isOther listed sameKey]

/-- What a sequence of changes makes of one row. -/
def changeEach
    (applies : ι → α → Bool)
    (change : ι → α → α)
    (causes : List ι)
    (row : α) :
    α :=
  causes.foldl
    (fun row cause => if applies cause row then change cause row else row) row

/-- Changing a table again and again changes every row so. -/
theorem foldl_updateMany
    (applies : ι → α → Bool)
    (change : ι → α → α)
    (causes : List ι)
    (rows : List α) :
    causes.foldl
        (fun rows cause => updateMany (applies cause) (change cause) rows)
        rows =
      rows.map (changeEach applies change causes) := by
  induction causes generalizing rows with
  | nil => exact (List.map_id rows).symm
  | cons cause causes inductionHypothesis =>
      rw [List.foldl_cons, inductionHypothesis, updateMany, List.map_map]
      rfl

/-- The last change of a row wins, when changes overwrite each other. -/
theorem changeEach_cases
    (applies : ι → α → Bool)
    (change : ι → α → α)
    (back :
      ∀ cause other row,
        applies other row = true →
        applies cause (change other row) = true →
        applies cause row = true)
    (wins :
      ∀ cause other row,
        applies other row = true →
        applies cause (change other row) = true →
        change cause (change other row) = change cause row)
    (causes : List ι)
    (row : α) :
    ((∀ cause ∈ causes, applies cause row = false) ∧
        changeEach applies change causes row = row) ∨
      ∃ cause ∈ causes,
        applies cause row = true ∧
          changeEach applies change causes row = change cause row := by
  induction causes generalizing row with
  | nil => exact Or.inl ⟨by simp, rfl⟩
  | cons first causes inductionHypothesis =>
      rw [changeEach, List.foldl_cons]
      cases isApplied : applies first row with
      | false =>
          rcases inductionHypothesis row with
            ⟨noneApplies, unchanged⟩ | ⟨cause, isCause, applied, changed⟩
          · exact Or.inl
              ⟨List.forall_mem_cons.mpr ⟨isApplied, noneApplies⟩, unchanged⟩
          · exact Or.inr
              ⟨cause, List.mem_cons_of_mem _ isCause, applied, changed⟩
      | true =>
          rcases inductionHypothesis (change first row) with
            ⟨-, unchanged⟩ | ⟨cause, isCause, applied, changed⟩
          · exact Or.inr
              ⟨first, List.mem_cons_self, isApplied, unchanged⟩
          · exact Or.inr
              ⟨cause, List.mem_cons_of_mem _ isCause,
                back cause first row isApplied applied,
                changed.trans (wins cause first row isApplied applied)⟩

theorem createMany_eq_some_iff
    [DecidableEq κ]
    {key : α → κ}
    {created rows rows' : List α} :
    createMany key created rows = some rows' ↔
      ((rows ++ created).map key).Nodup ∧ rows' = rows ++ created := by
  rw [createMany, Option.ite_none_right_eq_some, Option.some.injEq, eq_comm]

variable {conflicts : α → α → Bool}

/-- The rows that were there come first, and the others were created. -/
theorem createManySkipDuplicates_cases
    (created rows : List α) :
    ∃ inserted,
      createManySkipDuplicates conflicts created rows = rows ++ inserted ∧
        inserted ⊆ created := by
  induction created generalizing rows with
  | nil => exact ⟨[], (List.append_nil rows).symm, List.Subset.refl _⟩
  | cons row created inductionHypothesis =>
      rw [createManySkipDuplicates, List.foldl_cons]
      by_cases isThere : rows.any (conflicts row) = true
      · rw [if_pos isThere]
        obtain ⟨inserted, isResult, among⟩ := inductionHypothesis rows
        exact ⟨inserted, isResult, List.subset_cons_of_subset row among⟩
      · rw [if_neg isThere]
        obtain ⟨inserted, isResult, among⟩ :=
          inductionHypothesis (rows ++ [row])
        exact ⟨row :: inserted, isResult.trans (by simp),
          List.cons_subset_cons row among⟩

theorem subset_createManySkipDuplicates
    (created rows : List α) :
    rows ⊆ createManySkipDuplicates conflicts created rows := by
  obtain ⟨inserted, isResult, -⟩ :=
    @createManySkipDuplicates_cases _ conflicts created rows
  rw [isResult]
  exact List.subset_append_left rows inserted

/-- Rows that are all in the way of others are not inserted. -/
theorem createManySkipDuplicates_of_there
    {created rows : List α}
    (there : ∀ row ∈ created, rows.any (conflicts row) = true) :
    createManySkipDuplicates conflicts created rows = rows := by
  induction created with
  | nil => rfl
  | cons row created inductionHypothesis =>
      obtain ⟨isThere, others⟩ := List.forall_mem_cons.mp there
      rw [createManySkipDuplicates, List.foldl_cons, if_pos isThere]
      exact inductionHypothesis others

/-- Whatever was to be inserted is there afterwards. -/
theorem there_of_created
    (reflexive : ∀ row, conflicts row row = true)
    {created rows : List α}
    {row : α}
    (listed : row ∈ created) :
    (createManySkipDuplicates conflicts created rows).any (conflicts row) =
      true := by
  induction created generalizing rows with
  | nil => cases listed
  | cons first created inductionHypothesis =>
      rw [createManySkipDuplicates, List.foldl_cons]
      rcases List.mem_cons.mp listed with rfl | later
      · by_cases isThere : rows.any (conflicts row) = true
        · rw [if_pos isThere]
          obtain ⟨other, isOther, inTheWay⟩ := List.any_eq_true.mp isThere
          exact List.any_eq_true.mpr
            ⟨other, subset_createManySkipDuplicates created rows isOther,
              inTheWay⟩
        · rw [if_neg isThere]
          exact List.any_eq_true.mpr
            ⟨row,
              subset_createManySkipDuplicates created (rows ++ [row])
                (by simp),
              reflexive row⟩
      · exact inductionHypothesis later

/-- A row with a free key keeps the keys distinct. -/
theorem nodup_map_concat
    {key : α → κ}
    {rows : List α}
    {row : α}
    (distinct : (rows.map key).Nodup)
    (isFree : ∀ other ∈ rows, key other ≠ key row) :
    ((rows ++ [row]).map key).Nodup := by
  rw [List.map_append]
  apply List.Nodup.append distinct (List.nodup_singleton _)
  intro taken isTaken isKey
  obtain ⟨other, isOther, rfl⟩ := List.mem_map.mp isTaken
  exact isFree other isOther (List.mem_singleton.mp isKey)

/-- A key whose repetition is in the way stays unique. -/
theorem nodup_createManySkipDuplicates
    {key : α → κ}
    (inTheWay : ∀ row other, key row = key other → conflicts row other = true)
    {created rows : List α}
    (distinct : (rows.map key).Nodup) :
    ((createManySkipDuplicates conflicts created rows).map key).Nodup := by
  induction created generalizing rows with
  | nil => exact distinct
  | cons row created inductionHypothesis =>
      rw [createManySkipDuplicates, List.foldl_cons]
      apply inductionHypothesis
      by_cases isThere : rows.any (conflicts row) = true
      · rw [if_pos isThere]
        exact distinct
      · rw [if_neg isThere]
        apply nodup_map_concat distinct
        intro other isOther sameKey
        exact isThere
          (List.any_eq_true.mpr
            ⟨other, isOther, inTheWay row other sameKey.symm⟩)

end TaskTwin.Store

/-!
## Unique indexes
-/

namespace TaskTwin.Store

variable {α : Type*} {conflicts : α → α → Bool}

/-- Inserting a row that no row is in the way of. -/
def insertUnique
    (conflicts : α → α → Bool)
    (created : α)
    (rows : List α) :
    Option (List α) :=
  if rows.any (conflicts created) then none else some (rows ++ [created])

/-- No two rows conflict. -/
def AreUnique (conflicts : α → α → Bool) (rows : List α) : Prop :=
  rows.Pairwise fun row other => conflicts row other = false

theorem insertUnique_eq_some
    {created : α}
    {rows rows' : List α} :
    insertUnique conflicts created rows = some rows' ↔
      (∀ row ∈ rows, conflicts created row = false) ∧
        rows' = rows ++ [created] := by
  rw [insertUnique]
  split
  case isTrue taken =>
    obtain ⟨row, listed, conflicting⟩ := List.any_eq_true.mp taken
    simp only [reduceCtorEq, false_iff, not_and]
    intro free
    exact absurd conflicting (by simp [free row listed])
  case isFalse free =>
    have isFree : ∀ row ∈ rows, conflicts created row = false := by
      simpa using free
    simp only [Option.some.injEq]
    exact ⟨fun same => ⟨isFree, same.symm⟩, fun same => same.2.symm⟩

section Symmetric

variable
  (symmetric :
    ∀ first second, conflicts first second = conflicts second first)

include symmetric

/-- A row that was inserted conflicts with none of the others. -/
theorem AreUnique.concat
    {rows : List α}
    {row : α}
    (unique : AreUnique conflicts rows)
    (free : ∀ other ∈ rows, conflicts row other = false) :
    AreUnique conflicts (rows ++ [row]) := by
  rw [AreUnique, List.pairwise_append]
  refine ⟨unique, List.pairwise_singleton _ _, ?_⟩
  intro other listed last isLast
  rw [List.mem_singleton.mp isLast, symmetric]
  exact free other listed

/-- Rows that conflict are one row. -/
theorem AreUnique.eq_of_conflict
    {rows : List α}
    {first second : α}
    (unique : AreUnique conflicts rows)
    (isFirst : first ∈ rows)
    (isSecond : second ∈ rows)
    (conflicting : conflicts first second = true) :
    first = second := by
  by_contra different
  have isSymmetric :
      Std.Symm fun row other => conflicts row other = false :=
    { symm := fun row other free => (symmetric other row).trans free }
  have free := unique.forall isFirst isSecond different
  rw [conflicting] at free
  cases free

end Symmetric

/-- A change that keeps what conflicts keeps the rows apart. -/
theorem AreUnique.map
    {change : α → α}
    (keeps :
      ∀ row other,
        conflicts (change row) (change other) = conflicts row other)
    {rows : List α}
    (unique : AreUnique conflicts rows) :
    AreUnique conflicts (rows.map change) := by
  rw [AreUnique, List.pairwise_map]
  exact unique.imp fun free => (keeps _ _).trans free

end TaskTwin.Store
