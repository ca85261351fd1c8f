import Mathlib.Data.List.Forall2
import Mathlib.Data.List.Nodup

/-!
# Canonical lists

A list is canonical for some values when it lists each of them once and in
order.  There is one such list only, so what is computed from it depends on
neither the order nor the multiplicity of the values.
-/

namespace TaskTwin.Collection

variable {α β κ : Type*}

/-- Two lists with the same elements, in any order and multiplicity. -/
def SameElements (values others : List α) : Prop :=
  ∀ value, value ∈ values ↔ value ∈ others

theorem SameElements.symm
    {values others : List α}
    (same : SameElements values others) :
    SameElements others values :=
  fun value => (same value).symm

variable {change : α → Option β} {values : List α}

/-- What a computation of all elements yields, element by element. -/
theorem mapM_eq_some_iff
    {results : List β} :
    values.mapM change = some results ↔
      List.Forall₂ (fun value result => change value = some result) values
        results := by
  induction values generalizing results with
  | nil => cases results <;> simp
  | cons value values inductionHypothesis =>
      rw [List.mapM_cons]
      cases isResult : change value with
      | none => cases results <;> simp [isResult]
      | some result =>
          cases isResults : values.mapM change with
          | none =>
              cases results with
              | nil => simp
              | cons other others =>
                  have noResults :
                      ¬List.Forall₂
                        (fun value result => change value = some result)
                        values others := by
                    rw [← inductionHypothesis, isResults]
                    simp
                  simp [noResults]
          | some rest =>
              cases results with
              | nil => simp
              | cons other others =>
                  rw [List.forall₂_cons, ← inductionHypothesis, isResults]
                  simp [isResult]

/-- The results of a computation of all elements. -/
theorem mem_of_mapM
    {results : List β}
    (computed : values.mapM change = some results)
    (result : β) :
    result ∈ results ↔ ∃ value ∈ values, change value = some result := by
  rw [mapM_eq_some_iff] at computed
  induction computed with
  | nil => simp
  | cons isResult computed inductionHypothesis =>
      simp [inductionHypothesis, isResult, eq_comm]

theorem mapM_isSome_iff
    {values : List α} :
    (values.mapM change).isSome = true ↔
      ∀ value ∈ values, (change value).isSome = true := by
  induction values with
  | nil => simp
  | cons value values inductionHypothesis =>
      rw [List.mapM_cons, List.forall_mem_cons, ← inductionHypothesis]
      cases change value <;> cases values.mapM change <;> simp

/-- Every value has its counterpart on the other side. -/
structure SameUpTo
    (same : α → β → Prop)
    (values : List α)
    (others : List β) :
    Prop where
  forth : ∀ value ∈ values, ∃ other ∈ others, same value other
  back : ∀ other ∈ others, ∃ value ∈ values, same value other

theorem SameElements.sameUpTo
    {values others : List α}
    (same : SameElements values others) :
    SameUpTo Eq values others :=
  ⟨fun value isValue => ⟨value, (same value).mp isValue, rfl⟩,
    fun other isOther => ⟨other, (same other).mpr isOther, rfl⟩⟩

theorem SameUpTo.of_forall₂
    {same : α → β → Prop}
    {values arranged : List α}
    {others : List β}
    (isPerm : values.Perm arranged)
    (pairs : List.Forall₂ same arranged others) :
    SameUpTo same values others := by
  have arrangedSame : SameUpTo same arranged others := by
    clear isPerm
    induction pairs with
    | nil => constructor <;> simp
    | cons isSame _ inductionHypothesis =>
        constructor
        · intro value isValue
          rcases List.mem_cons.mp isValue with rfl | later
          · exact ⟨_, List.mem_cons_self, isSame⟩
          · obtain ⟨other, isOther, same⟩ :=
              inductionHypothesis.forth value later
            exact ⟨other, List.mem_cons_of_mem _ isOther, same⟩
        · intro other isOther
          rcases List.mem_cons.mp isOther with rfl | later
          · exact ⟨_, List.mem_cons_self, isSame⟩
          · obtain ⟨value, isValue, same⟩ :=
              inductionHypothesis.back other later
            exact ⟨value, List.mem_cons_of_mem _ isValue, same⟩
  constructor
  · intro value isValue
    exact arrangedSame.forth value (isPerm.mem_iff.mp isValue)
  · intro other isOther
    obtain ⟨value, isValue, same⟩ := arrangedSame.back other isOther
    exact ⟨value, isPerm.mem_iff.mpr isValue, same⟩

/-- Computing values that are the same yields the same results. -/
theorem SameUpTo.mapM
    {γ : Type*}
    {same : α → β → Prop}
    {change : α → Option γ}
    {change' : β → Option γ}
    {values : List α}
    {others : List β}
    (agree : ∀ value other, same value other → change value = change' other)
    (sameValues : SameUpTo same values others) :
    Option.Rel SameElements (values.mapM change) (others.mapM change') := by
  have sameSuccess :
      (values.mapM change).isSome = (others.mapM change').isSome := by
    rw [Bool.eq_iff_iff, mapM_isSome_iff, mapM_isSome_iff]
    constructor
    · intro succeed other isOther
      obtain ⟨value, isValue, isSame⟩ := sameValues.back other isOther
      exact agree value other isSame ▸ succeed value isValue
    · intro succeed value isValue
      obtain ⟨other, isOther, isSame⟩ := sameValues.forth value isValue
      exact agree value other isSame ▸ succeed other isOther
  cases first : values.mapM change with
  | none =>
      cases second : others.mapM change' with
      | none => exact .none
      | some results => simp [first, second] at sameSuccess
  | some results =>
      cases second : others.mapM change' with
      | none => simp [first, second] at sameSuccess
      | some results' =>
          refine .some ?_
          intro result
          rw [mem_of_mapM first, mem_of_mapM second]
          constructor
          · rintro ⟨value, isValue, isResult⟩
            obtain ⟨other, isOther, isSame⟩ := sameValues.forth value isValue
            exact ⟨other, isOther, agree value other isSame ▸ isResult⟩
          · rintro ⟨other, isOther, isResult⟩
            obtain ⟨value, isValue, isSame⟩ := sameValues.back other isOther
            exact ⟨value, isValue, agree value other isSame ▸ isResult⟩

/-- Computing elements that are the same yields results that are the same. -/
theorem SameElements.mapM
    {values others : List α}
    (same : SameElements values others)
    (change : α → Option β) :
    Option.Rel SameElements (values.mapM change) (others.mapM change) :=
  same.sameUpTo.mapM fun _ _ isSame => congrArg change isSame

/-- A computation that keeps every element keeps the list. -/
theorem mapM_of_fixed
    {change : α → Option α}
    {values : List α}
    (fixed : ∀ value ∈ values, change value = some value) :
    values.mapM change = some values := by
  rw [mapM_eq_some_iff, List.forall₂_same]
  exact fixed

/-- The list of some values, each once and in order. -/
structure Canonical
    (notAfter : α → α → Bool)
    (values result : List α) :
    Prop where
  distinct : result.Nodup
  ordered : result.Pairwise fun first second => notAfter first second = true
  same : SameElements result values

variable {notAfter : α → α → Bool}

/-- Values that are not after each other are equal. -/
def Antisymmetric (notAfter : α → α → Bool) (values : List α) : Prop :=
  ∀ first ∈ values, ∀ second ∈ values,
    notAfter first second = true → notAfter second first = true →
      first = second

theorem Canonical.unique
    {values others result result' : List α}
    (canonical : Canonical notAfter values result)
    (canonical' : Canonical notAfter others result')
    (same : SameElements values others)
    (antisymmetric : Antisymmetric notAfter values) :
    result = result' := by
  have sameResults (value : α) : value ∈ result ↔ value ∈ result' := by
    rw [canonical.same, same, canonical'.same]
  have isPerm : result.Perm result' :=
    (List.perm_ext_iff_of_nodup canonical.distinct canonical'.distinct).mpr
      sameResults
  refine isPerm.eq_of_pairwise ?_ canonical.ordered canonical'.ordered
  intro first second isFirst isSecond
  exact antisymmetric first ((canonical.same first).mp isFirst) second
    ((same second).mpr ((canonical'.same second).mp isSecond))

/-- A canonical list is the canonical list of its elements. -/
theorem Canonical.self
    {values result : List α}
    (canonical : Canonical notAfter values result) :
    Canonical notAfter result result :=
  ⟨canonical.distinct, canonical.ordered, fun _ => Iff.rfl⟩

section Sorting

variable
    (transitive :
      ∀ first second third,
        notAfter first second = true → notAfter second third = true →
          notAfter first third = true)
    (total :
      ∀ first second, (notAfter first second || notAfter second first) = true)

include transitive total

/-- Sorting distinct values. -/
theorem Canonical.mergeSort
    {values distinct : List α}
    (isDistinct : distinct.Nodup)
    (same : SameElements distinct values) :
    Canonical notAfter values (distinct.mergeSort notAfter) :=
  { distinct :=
      (List.mergeSort_perm distinct notAfter).nodup_iff.mpr isDistinct
    ordered := List.pairwise_mergeSort transitive total distinct
    same := fun value => List.mem_mergeSort.trans (same value) }

end Sorting

variable [DecidableEq κ]

/-- `Map.prototype.set`. -/
def mapSet (key : κ) (value : α) : List (κ × α) → List (κ × α)
  | [] => [(key, value)]
  | entry :: entries =>
      if entry.1 = key then (key, value) :: entries
      else entry :: mapSet key value entries

/-- A map into which values are put one after another. -/
def mapOf (key : α → κ) (values : List α) : List (κ × α) :=
  values.foldl (fun entries value => mapSet (key value) value entries) []

/-- The keys of a map with one key more. -/
theorem mem_keys_mapSet
    (key other : κ)
    (value : α)
    (entries : List (κ × α)) :
    other ∈ (mapSet key value entries).map Prod.fst ↔
      other = key ∨ other ∈ entries.map Prod.fst := by
  induction entries with
  | nil => simp [mapSet]
  | cons entry entries inductionHypothesis =>
      rw [mapSet]
      split
      case isTrue isKey => simp [isKey]
      case isFalse notKey =>
        rw [List.map_cons, List.mem_cons, inductionHypothesis, List.map_cons,
          List.mem_cons]
        exact or_left_comm

theorem nodup_keys_mapSet
    {key : κ}
    {value : α}
    {entries : List (κ × α)}
    (distinct : (entries.map Prod.fst).Nodup) :
    ((mapSet key value entries).map Prod.fst).Nodup := by
  induction entries with
  | nil => simp [mapSet]
  | cons first entries inductionHypothesis =>
      rw [List.map_cons, List.nodup_cons] at distinct
      rw [mapSet]
      split
      case isTrue isKey =>
        rw [List.map_cons, List.nodup_cons]
        exact ⟨isKey ▸ distinct.1, distinct.2⟩
      case isFalse notKey =>
        rw [List.map_cons, List.nodup_cons, mem_keys_mapSet]
        refine ⟨?_, inductionHypothesis distinct.2⟩
        rintro (isKey | listed)
        · exact notKey isKey
        · exact distinct.1 listed

/-- An entry of the map is the new one or one under another key. -/
theorem mem_mapSet
    {key : κ}
    {value : α}
    {entries : List (κ × α)}
    {entry : κ × α}
    (distinct : (entries.map Prod.fst).Nodup)
    (listed : entry ∈ mapSet key value entries) :
    entry = (key, value) ∨ entry ∈ entries ∧ entry.1 ≠ key := by
  induction entries with
  | nil => exact Or.inl (by simpa [mapSet] using listed)
  | cons first entries inductionHypothesis =>
      rw [List.map_cons, List.nodup_cons] at distinct
      rw [mapSet] at listed
      split at listed
      case isTrue isKey =>
        rcases List.mem_cons.mp listed with isNew | isOld
        · exact Or.inl isNew
        · refine Or.inr ⟨List.mem_cons_of_mem _ isOld, fun sameKey => ?_⟩
          apply distinct.1
          rw [isKey, ← sameKey]
          exact List.mem_map_of_mem isOld
      case isFalse notKey =>
        rcases List.mem_cons.mp listed with rfl | later
        · exact Or.inr ⟨List.mem_cons_self, notKey⟩
        · exact (inductionHypothesis distinct.2 later).imp_right fun isOld =>
            ⟨List.mem_cons_of_mem _ isOld.1, isOld.2⟩

/-- A map with distinct keys that belong to its values. -/
structure IsMapOf
    (key : α → κ)
    (values : List α)
    (entries : List (κ × α)) :
    Prop where
  distinct : (entries.map Prod.fst).Nodup
  keys : ∀ entry ∈ entries, entry.1 = key entry.2
  sound : ∀ entry ∈ entries, entry.2 ∈ values
  complete : ∀ value ∈ values, key value ∈ entries.map Prod.fst

theorem IsMapOf.set
    {key : α → κ}
    {values : List α}
    {entries : List (κ × α)}
    (isMap : IsMapOf key values entries)
    (value : α) :
    IsMapOf key (values ++ [value]) (mapSet (key value) value entries) := by
  constructor
  case distinct => exact nodup_keys_mapSet isMap.distinct
  case keys =>
    intro entry listed
    rcases mem_mapSet isMap.distinct listed with rfl | ⟨isOld, -⟩
    · rfl
    · exact isMap.keys entry isOld
  case sound =>
    intro entry listed
    rcases mem_mapSet isMap.distinct listed with rfl | ⟨isOld, -⟩
    · exact List.mem_append_right _ List.mem_cons_self
    · exact List.mem_append_left _ (isMap.sound entry isOld)
  case complete =>
    intro other listed
    rw [mem_keys_mapSet]
    rcases List.mem_append.mp listed with isOld | isNew
    · exact Or.inr (isMap.complete other isOld)
    · exact Or.inl (by rw [List.mem_singleton.mp isNew])

theorem isMapOf_mapOf
    (key : α → κ)
    (values : List α) :
    IsMapOf key values (mapOf key values) := by
  have folded
      (later : List α)
      {earlier : List α}
      {entries : List (κ × α)}
      (isMap : IsMapOf key earlier entries) :
      IsMapOf key (earlier ++ later)
        (later.foldl (fun entries value => mapSet (key value) value entries)
          entries) := by
    induction later generalizing earlier entries with
    | nil => rwa [List.append_nil]
    | cons value later inductionHypothesis =>
        have next := inductionHypothesis (isMap.set value)
        rwa [List.append_assoc, List.singleton_append] at next
  exact @folded values [] _
    ⟨List.nodup_nil, by simp, by simp, by simp⟩

/-- The values of a map are its distinct values when keys tell them apart. -/
theorem mapOf_values
    {key : α → κ}
    {values : List α}
    (injective :
      ∀ first ∈ values, ∀ second ∈ values,
        key first = key second → first = second) :
    ((mapOf key values).map Prod.snd).Nodup ∧
      SameElements ((mapOf key values).map Prod.snd) values := by
  have isMap := isMapOf_mapOf key values
  have sameKeys :
      (mapOf key values).map Prod.fst =
        ((mapOf key values).map Prod.snd).map key := by
    rw [List.map_map]
    exact List.map_congr_left isMap.keys
  constructor
  · have distinct := isMap.distinct
    rw [sameKeys] at distinct
    exact distinct.of_map key
  · intro value
    constructor
    · intro listed
      obtain ⟨entry, isEntry, rfl⟩ := List.mem_map.mp listed
      exact isMap.sound entry isEntry
    · intro listed
      obtain ⟨entry, isEntry, isKey⟩ :=
        List.mem_map.mp (isMap.complete value listed)
      have sameKey : key entry.2 = key value := by
        rw [← isMap.keys entry isEntry, isKey]
      have same :=
        injective entry.2 (isMap.sound entry isEntry) value listed sameKey
      exact List.mem_map.mpr ⟨entry, isEntry, same⟩

end TaskTwin.Collection
