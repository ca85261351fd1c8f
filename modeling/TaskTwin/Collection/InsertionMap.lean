import TaskTwin.Collection.Canonical

/-!
# Maps in the order of insertion

Reading and deleting the entries of a map.  Each entry is read under its key,
and an entry that is set again keeps its place.
-/

namespace TaskTwin.Collection

variable {κ α : Type*} [DecidableEq κ]

/-- `Map.prototype.get`. -/
def mapGet (key : κ) (entries : List (κ × α)) : Option α :=
  (entries.find? fun entry => entry.1 = key).map Prod.snd

/-- `Map.prototype.delete`. -/
def mapDelete (key : κ) (entries : List (κ × α)) : List (κ × α) :=
  entries.filter fun entry => entry.1 ≠ key

variable {key : κ} {value : α} {entries : List (κ × α)} {entry : κ × α}

theorem mem_of_mapGet
    (isRead : mapGet key entries = some value) :
    (key, value) ∈ entries := by
  obtain ⟨entry, isFound, rfl⟩ := Option.map_eq_some_iff.mp isRead
  have isKey : entry.1 = key := by
    simpa using List.find?_some isFound
  rw [← isKey]
  exact List.mem_of_find?_eq_some isFound

theorem mapGet_eq_none_iff :
    mapGet key entries = none ↔ ∀ entry ∈ entries, entry.1 ≠ key := by
  simp [mapGet, List.find?_eq_none]

theorem mem_mapDelete :
    entry ∈ mapDelete key entries ↔ entry ∈ entries ∧ entry.1 ≠ key := by
  simp [mapDelete]

theorem mapDelete_sublist (key : κ) (entries : List (κ × α)) :
    (mapDelete key entries).Sublist entries :=
  List.filter_sublist

theorem mem_mapSet_self (key : κ) (value : α) (entries : List (κ × α)) :
    (key, value) ∈ mapSet key value entries := by
  induction entries with
  | nil => exact List.mem_singleton_self _
  | cons first entries inductionHypothesis =>
      rw [mapSet]
      split
      · exact List.mem_cons_self
      · exact List.mem_cons_of_mem _ inductionHypothesis

/-- Entries under other keys stay in the map. -/
theorem mem_mapSet_of_ne
    (listed : entry ∈ entries)
    (differs : entry.1 ≠ key) :
    entry ∈ mapSet key value entries := by
  induction entries with
  | nil => cases listed
  | cons first entries inductionHypothesis =>
      rw [mapSet]
      split
      case isTrue isKey =>
        refine List.mem_cons_of_mem _ ((List.mem_cons.mp listed).resolve_left ?_)
        rintro rfl
        exact differs isKey
      case isFalse =>
        rcases List.mem_cons.mp listed with rfl | later
        · exact List.mem_cons_self
        · exact List.mem_cons_of_mem _ (inductionHypothesis later)

omit [DecidableEq κ] in
/-- A key of a map has one value. -/
theorem value_unique
    {other : α}
    (distinct : (entries.map Prod.fst).Nodup)
    (listed : (key, value) ∈ entries)
    (listedToo : (key, other) ∈ entries) :
    value = other :=
  (Prod.mk.inj
    (List.inj_on_of_nodup_map distinct listed listedToo rfl)).2

/-- One entry is under the key of an entry. -/
theorem filter_key
    (distinct : (entries.map Prod.fst).Nodup)
    (listed : entry ∈ entries) :
    (entries.filter fun other => other.1 = entry.1) = [entry] := by
  induction entries with
  | nil => cases listed
  | cons first entries inductionHypothesis =>
      rw [List.map_cons, List.nodup_cons] at distinct
      rcases List.mem_cons.mp listed with rfl | later
      · have noneLater :
            (entries.filter fun other => other.1 = entry.1) = [] := by
          refine List.filter_eq_nil_iff.mpr fun other isOther sameKey => ?_
          apply distinct.1
          rw [← of_decide_eq_true sameKey]
          exact List.mem_map_of_mem isOther
        rw [List.filter_cons_of_pos (by simp), noneLater]
      · have differs : first.1 ≠ entry.1 := by
          intro sameKey
          apply distinct.1
          rw [sameKey]
          exact List.mem_map_of_mem later
        rw [List.filter_cons_of_neg (by simpa using differs),
          inductionHypothesis distinct.2 later]

theorem mapGet_of_mem
    (distinct : (entries.map Prod.fst).Nodup)
    (listed : entry ∈ entries) :
    mapGet entry.1 entries = some entry.2 := by
  cases isRead : mapGet entry.1 entries with
  | none => exact absurd rfl (mapGet_eq_none_iff.mp isRead entry listed)
  | some value =>
      rw [value_unique distinct (mem_of_mapGet isRead) listed]

end TaskTwin.Collection
