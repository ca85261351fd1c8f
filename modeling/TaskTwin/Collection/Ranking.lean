import Mathlib.Data.List.Dedup
import Mathlib.Data.List.Sort
import TaskTwin.Collection.Canonical

/-!
# The best item of each key

A list is gone through once, and of the items with one key the best is kept, at
the place of the first.
-/

namespace TaskTwin.Collection

variable {α κ : Type} [DecidableEq κ]

section

variable (key : α → κ) (better : α → α → Bool)

def keepBetter (kept : List α) (item : α) : List α :=
  match kept.find? fun existing => key existing == key item with
  | none => kept ++ [item]
  | some existing =>
      if better item existing then
        kept.map fun other => if key other = key item then item else other
      else
        kept

def bestByKey (items : List α) : List α :=
  items.foldl (keepBetter key better) []

end

variable {key : α → κ} {better : α → α → Bool}

variable {kept : List α} {item : α}

theorem keepBetter_new
    (isNew : key item ∉ kept.map key) :
    keepBetter key better kept item = kept ++ [item] := by
  have notFound :
      (kept.find? fun existing => key existing == key item) = none := by
    apply List.find?_eq_none.mpr
    intro existing listed sameKey
    apply isNew
    rw [← beq_iff_eq.mp sameKey]
    exact List.mem_map_of_mem listed
  rw [keepBetter, notFound]

theorem keys_keepBetter
    (isKept : key item ∈ kept.map key) :
    (keepBetter key better kept item).map key = kept.map key := by
  rw [keepBetter]
  split
  case h_1 notFound =>
    obtain ⟨existing, listed, sameKey⟩ := List.mem_map.mp isKept
    have differs := List.find?_eq_none.mp notFound existing listed
    simp [sameKey] at differs
  case h_2 existing found =>
    split
    case isTrue isBetter =>
      rw [List.map_map]
      apply List.map_congr_left
      intro other listed
      by_cases sameKey : key other = key item
      · simp [sameKey]
      · simp [sameKey]
    case isFalse notBetter => rfl

theorem nodup_keepBetter
    (distinct : (kept.map key).Nodup)
    (item : α) :
    ((keepBetter key better kept item).map key).Nodup := by
  by_cases isKept : key item ∈ kept.map key
  · rw [keys_keepBetter isKept]
    exact distinct
  · rw [keepBetter_new isKept, List.map_append, List.map_singleton]
    apply List.nodup_append.mpr
    refine ⟨distinct, List.nodup_singleton _, ?_⟩
    intro first listed second isSecond
    rw [List.mem_singleton.mp isSecond]
    intro sameKey
    exact isKept (sameKey ▸ listed)

theorem mem_keepBetter
    {item other : α}
    (listed : other ∈ keepBetter key better kept item) :
    other ∈ kept ∨ other = item := by
  rw [keepBetter] at listed
  split at listed
  case h_1 notFound =>
    rcases List.mem_append.mp listed with inKept | isItem
    · exact .inl inKept
    · exact .inr (List.mem_singleton.mp isItem)
  case h_2 existing found =>
    split at listed
    case isTrue isBetter =>
      obtain ⟨before, inKept, isOther⟩ := List.mem_map.mp listed
      by_cases sameKey : key before = key item
      · rw [if_pos sameKey] at isOther
        exact .inr isOther.symm
      · rw [if_neg sameKey] at isOther
        exact .inl (isOther ▸ inKept)
    case isFalse notBetter => exact .inl listed

/-- Every key keeps an item. -/
theorem key_mem_keepBetter
    {wanted : κ}
    (isKey : wanted ∈ kept.map key ∨ wanted = key item) :
    wanted ∈ (keepBetter key better kept item).map key := by
  by_cases isKept : key item ∈ kept.map key
  · rw [keys_keepBetter isKept]
    rcases isKey with listed | rfl
    · exact listed
    · exact isKept
  · rw [keepBetter_new isKept, List.map_append, List.map_singleton]
    rcases isKey with listed | rfl
    · exact List.mem_append_left _ listed
    · exact List.mem_append_right _ (List.mem_singleton_self _)

end TaskTwin.Collection

/-! ## Rankings -/

namespace TaskTwin.Collection

variable {α β κ ρ : Type} [LinearOrder ρ]

/-- Of the items with one key, one that no other goes before. -/
structure IsBestOfEach
    (key : α → κ)
    (rank : α → ρ)
    (items kept : List α) : Prop where
  listed : ∀ item ∈ kept, item ∈ items
  complete : ∀ item ∈ items, key item ∈ kept.map key
  best : ∀ item ∈ kept, ∀ other ∈ items,
    key other = key item → rank item ≤ rank other
  distinct : (kept.map key).Nodup

structure IsRanking
    (key : α → κ)
    (rank : α → ρ)
    (items ranked : List α) : Prop
    extends IsBestOfEach key rank items ranked where
  ordered : ranked.Pairwise fun first second => rank first ≤ rank second

/-- The number of keys with an item that goes before this one. -/
def outranking
    [DecidableEq κ]
    (key : α → κ)
    (rank : α → ρ)
    (items : List α)
    (item : α) :
    Nat :=
  ((items.filter fun other => rank other < rank item).map key).dedup.length

/--
Best items of one key and one rank look the same, where fewer than `count` keys
go before them.
-/
def TiesAgree
    [DecidableEq κ]
    (key : α → κ)
    (rank : α → ρ)
    (view : α → β)
    (count : Nat)
    (items : List α) :
    Prop :=
  ∀ first ∈ items, ∀ second ∈ items,
    key first = key second → rank first = rank second →
    (∀ other ∈ items, key other = key first → rank first ≤ rank other) →
    outranking key rank items first < count →
    view first = view second

variable {key : α → κ} {rank : α → ρ} {items others kept : List α}

section Choosing

variable [DecidableEq κ] {better : α → α → Bool} {item existing : α}

theorem keepBetter_found
    (distinct : (kept.map key).Nodup)
    (isKept : existing ∈ kept)
    (sameKey : key existing = key item) :
    keepBetter key better kept item =
      if better item existing then
        kept.map fun other => if key other = key item then item else other
      else
        kept := by
  have found :
      (kept.find? fun other => key other == key item) = some existing := by
    cases search : kept.find? fun other => key other == key item with
    | none =>
        have differs := List.find?_eq_none.mp search existing isKept
        exact absurd (beq_iff_eq.mpr sameKey) differs
    | some other =>
        have otherKept := List.mem_of_find?_eq_some search
        have otherKey : key other = key item := by
          simpa using List.find?_some search
        have same :=
          List.inj_on_of_nodup_map distinct otherKept isKept
            (otherKey.trans sameKey.symm)
        rw [same]
  rw [keepBetter, found]

variable
  (better_iff : ∀ item other, better item other ↔ rank item < rank other)
include better_iff

theorem isBestOfEach_keepBetter
    (bestOfEach : IsBestOfEach key rank items kept)
    (item : α) :
    IsBestOfEach key rank (items ++ [item])
      (keepBetter key better kept item) where
  listed := by
    intro other isKept
    rcases mem_keepBetter isKept with wasKept | isItem
    · exact List.mem_append_left _ (bestOfEach.listed other wasKept)
    · exact List.mem_append_right _ (List.mem_singleton.mpr isItem)
  complete := by
    intro other listed
    apply key_mem_keepBetter
    rcases List.mem_append.mp listed with wasListed | isItem
    · exact .inl (bestOfEach.complete other wasListed)
    · exact .inr (congrArg key (List.mem_singleton.mp isItem))
  distinct := nodup_keepBetter bestOfEach.distinct item
  best := by
    intro chosen isKept other listed sameKey
    by_cases keyKept : key item ∈ kept.map key
    · obtain ⟨existing, wasKept, existingKey⟩ := List.mem_map.mp keyKept
      rw [keepBetter_found bestOfEach.distinct wasKept existingKey] at isKept
      by_cases isBetter : better item existing
      · rw [if_pos isBetter] at isKept
        have before := (better_iff item existing).mp isBetter
        obtain ⟨replaced, wasThere, isChosen⟩ := List.mem_map.mp isKept
        by_cases replacedKey : key replaced = key item
        · rw [if_pos replacedKey] at isChosen
          subst isChosen
          rcases List.mem_append.mp listed with wasListed | isItem
          · have notAfter :=
              bestOfEach.best existing wasKept other wasListed
                (sameKey.trans existingKey.symm)
            exact before.le.trans notAfter
          · rw [List.mem_singleton.mp isItem]
        · rw [if_neg replacedKey] at isChosen
          subst isChosen
          rcases List.mem_append.mp listed with wasListed | isItem
          · exact bestOfEach.best replaced wasThere other wasListed sameKey
          · rw [List.mem_singleton.mp isItem] at sameKey
            exact absurd sameKey.symm replacedKey
      · rw [if_neg isBetter] at isKept
        have notBefore := mt (better_iff item existing).mpr isBetter
        rcases List.mem_append.mp listed with wasListed | isItem
        · exact bestOfEach.best chosen isKept other wasListed sameKey
        · rw [List.mem_singleton.mp isItem] at sameKey ⊢
          have same :=
            List.inj_on_of_nodup_map bestOfEach.distinct wasKept isKept
              (existingKey.trans sameKey)
          exact same ▸ not_lt.mp notBefore
    · rw [keepBetter_new keyKept] at isKept
      rcases List.mem_append.mp isKept with wasKept | isChosen
      · rcases List.mem_append.mp listed with wasListed | isItem
        · exact bestOfEach.best chosen wasKept other wasListed sameKey
        · rw [List.mem_singleton.mp isItem] at sameKey
          exact absurd (sameKey ▸ List.mem_map_of_mem wasKept) keyKept
      · rw [List.mem_singleton.mp isChosen] at sameKey ⊢
        rcases List.mem_append.mp listed with wasListed | isItem
        · exact absurd (sameKey ▸ bestOfEach.complete other wasListed) keyKept
        · rw [List.mem_singleton.mp isItem]

theorem isBestOfEach_foldl
    (bestOfEach : IsBestOfEach key rank items kept)
    (later : List α) :
    IsBestOfEach key rank (items ++ later)
      (later.foldl (keepBetter key better) kept) := by
  induction later generalizing items kept with
  | nil => rwa [List.append_nil]
  | cons item later inductionHypothesis =>
      have step := isBestOfEach_keepBetter better_iff bestOfEach item
      have run := inductionHypothesis step
      rwa [List.append_assoc, List.singleton_append] at run

theorem isBestOfEach_bestByKey (items : List α) :
    IsBestOfEach key rank items (bestByKey key better items) := by
  have none : IsBestOfEach key rank [] [] :=
    { listed := by simp, complete := by simp, best := by simp,
      distinct := List.nodup_nil }
  exact isBestOfEach_foldl better_iff none items

/-- What is kept stays, until something goes before it. -/
theorem mem_keepBetter_of_mem
    {chosen : α}
    (distinct : (kept.map key).Nodup)
    (isKept : chosen ∈ kept)
    (notAfter : key item = key chosen → rank chosen ≤ rank item) :
    chosen ∈ keepBetter key better kept item := by
  by_cases sameKey : key chosen = key item
  · have notBefore : ¬better item chosen := by
      rw [better_iff]
      exact not_lt.mpr (notAfter sameKey.symm)
    rw [keepBetter_found distinct isKept sameKey, if_neg notBefore]
    exact isKept
  · by_cases keyKept : key item ∈ kept.map key
    · obtain ⟨existing, wasKept, existingKey⟩ := List.mem_map.mp keyKept
      rw [keepBetter_found distinct wasKept existingKey]
      split
      case isTrue isBetter =>
        exact List.mem_map.mpr ⟨chosen, isKept, if_neg sameKey⟩
      case isFalse notBetter => exact isKept
    · rw [keepBetter_new keyKept]
      exact List.mem_append_left _ isKept

theorem mem_foldl_keepBetter_of_mem
    {chosen : α}
    {later : List α}
    (distinct : (kept.map key).Nodup)
    (isKept : chosen ∈ kept)
    (notAfter : ∀ item ∈ later,
      key item = key chosen → rank chosen ≤ rank item) :
    chosen ∈ later.foldl (keepBetter key better) kept := by
  induction later generalizing kept with
  | nil => exact isKept
  | cons item later inductionHypothesis =>
      have stays :=
        mem_keepBetter_of_mem better_iff distinct isKept
          (notAfter item List.mem_cons_self)
      exact inductionHypothesis (nodup_keepBetter distinct item) stays
        fun other listed => notAfter other (List.mem_cons_of_mem _ listed)

/-- Of the best items of a key, the first one is kept. -/
theorem first_mem_bestByKey
    {first : α}
    (notAfter : ∀ item ∈ items,
      key item = key first → rank first ≤ rank item) :
    first ∈ bestByKey key better (first :: items) := by
  have start : keepBetter key better [] first = [first] := rfl
  rw [bestByKey, List.foldl_cons, start]
  exact
    mem_foldl_keepBetter_of_mem better_iff (List.nodup_singleton _)
      List.mem_cons_self notAfter

end Choosing

theorem outranking_of_perm
    [DecidableEq κ]
    (permuted : items.Perm others)
    (item : α) :
    outranking key rank items item = outranking key rank others item :=
  ((permuted.filter _).map key).dedup.length_eq

namespace IsRanking

variable {ranked reranked : List α} {item other : α}

/-- Items in another order have the same best ones. -/
theorem of_perm
    (bestOfEach : IsBestOfEach key rank items kept)
    (permuted : ranked.Perm kept)
    (ordered :
      ranked.Pairwise fun first second => rank first ≤ rank second) :
    IsRanking key rank items ranked where
  listed item listed := bestOfEach.listed item (permuted.mem_iff.mp listed)
  complete item listed :=
    (permuted.map key).mem_iff.mpr (bestOfEach.complete item listed)
  best item listed := bestOfEach.best item (permuted.mem_iff.mp listed)
  distinct := (permuted.map key).nodup_iff.mpr bestOfEach.distinct
  ordered := ordered

section Ranks

variable
  (determined : ∀ item other, rank item = rank other → key item = key other)
include determined

theorem increasing (ranking : IsRanking key rank items ranked) :
    (ranked.map rank).Pairwise (· < ·) := by
  have differ := List.pairwise_map.mp ranking.distinct
  have both := ranking.ordered.and differ
  refine List.pairwise_map.mpr (both.imp ?_)
  rintro first second ⟨notAfter, keysDiffer⟩
  exact
    lt_of_le_of_ne notAfter fun same => keysDiffer (determined _ _ same)

omit determined in
theorem rank_mem
    (ranking : IsRanking key rank items ranked)
    (reranking : IsRanking key rank others reranked)
    (same : SameElements items others)
    (isRanked : item ∈ ranked) :
    rank item ∈ reranked.map rank := by
  have listed := (same item).mp (ranking.listed item isRanked)
  obtain ⟨other, otherRanked, sameKey⟩ :=
    List.mem_map.mp (reranking.complete item listed)
  have otherListed := (same other).mpr (reranking.listed other otherRanked)
  have notAfter := ranking.best item isRanked other otherListed sameKey
  have notBefore :=
    reranking.best other otherRanked item listed sameKey.symm
  exact List.mem_map.mpr ⟨other, otherRanked, le_antisymm notBefore notAfter⟩

theorem ranks_eq
    (ranking : IsRanking key rank items ranked)
    (reranking : IsRanking key rank others reranked)
    (same : SameElements items others) :
    ranked.map rank = reranked.map rank := by
  apply
    (ranking.increasing determined).eq_of_mem_iff
      (reranking.increasing determined)
  intro value
  constructor
  · intro listed
    obtain ⟨item, isRanked, rfl⟩ := List.mem_map.mp listed
    exact ranking.rank_mem reranking same isRanked
  · intro listed
    obtain ⟨item, isRanked, rfl⟩ := List.mem_map.mp listed
    exact reranking.rank_mem ranking same.symm isRanked

end Ranks

section Taking

variable [DecidableEq κ]

/-- The keys that go before an item stand before it. -/
theorem outranking_eq
    (ranking : IsRanking key rank items ranked)
    (item : α) :
    outranking key rank items item =
      (ranked.filter fun other => rank other < rank item).length := by
  have distinctBefore :
      ((ranked.filter fun other => rank other < rank item).map key).Nodup :=
    ranking.distinct.sublist (List.filter_sublist.map key)
  have sameKeys :
      ((items.filter fun other => rank other < rank item).map key).dedup.Perm
        ((ranked.filter fun other => rank other < rank item).map key) := by
    apply
      (List.perm_ext_iff_of_nodup (List.nodup_dedup _) distinctBefore).mpr
    intro value
    rw [List.mem_dedup]
    constructor
    · intro listed
      obtain ⟨other, otherListed, rfl⟩ := List.mem_map.mp listed
      obtain ⟨isItem, before⟩ := List.mem_filter.mp otherListed
      obtain ⟨chosen, isRanked, sameKey⟩ :=
        List.mem_map.mp (ranking.complete other isItem)
      have notAfter := ranking.best chosen isRanked other isItem sameKey.symm
      have chosenBefore := notAfter.trans_lt (of_decide_eq_true before)
      have inFilter :
          chosen ∈ ranked.filter fun other => rank other < rank item :=
        List.mem_filter.mpr ⟨isRanked, decide_eq_true chosenBefore⟩
      exact sameKey ▸ List.mem_map_of_mem inFilter
    · intro listed
      obtain ⟨other, otherListed, rfl⟩ := List.mem_map.mp listed
      obtain ⟨isRanked, before⟩ := List.mem_filter.mp otherListed
      have inFilter :
          other ∈ items.filter fun other => rank other < rank item :=
        List.mem_filter.mpr ⟨ranking.listed other isRanked, before⟩
      exact List.mem_map_of_mem inFilter
  rw [outranking, sameKeys.length_eq, List.length_map]

omit [DecidableEq κ] in
theorem mem_take_iff_filter
    {count : Nat}
    (increasing : (ranked.map rank).Pairwise (· < ·))
    (isRanked : item ∈ ranked) :
    item ∈ ranked.take count ↔
      (ranked.filter fun other => rank other < rank item).length < count := by
  induction ranked generalizing count with
  | nil => cases isRanked
  | cons first rest inductionHypothesis =>
      obtain ⟨before, restIncreasing⟩ := List.pairwise_cons.mp increasing
      cases count with
      | zero => simp
      | succ count =>
          rcases List.mem_cons.mp isRanked with isFirst | inRest
          · have noneBefore :
                (rest.filter fun other => rank other < rank item) = [] := by
              apply List.filter_eq_nil_iff.mpr
              intro other listed
              have after := before _ (List.mem_map_of_mem listed)
              rw [isFirst]
              simpa using after.le
            subst isFirst
            rw [List.filter_cons_of_neg (by simp), noneBefore]
            simp
          · have firstBefore := before _ (List.mem_map_of_mem inRest)
            have differs : item ≠ first := by
              rintro rfl
              exact firstBefore.false
            rw [List.filter_cons_of_pos (by simpa using firstBefore),
              List.take_succ_cons, List.mem_cons, List.length_cons,
              Nat.add_lt_add_iff_right,
              ← inductionHypothesis restIncreasing inRest]
            simp [differs]

theorem mem_take_iff
    {count : Nat}
    (determined : ∀ item other, rank item = rank other → key item = key other)
    (ranking : IsRanking key rank items ranked)
    (isRanked : item ∈ ranked) :
    item ∈ ranked.take count ↔ outranking key rank items item < count := by
  rw [ranking.outranking_eq]
  exact mem_take_iff_filter (ranking.increasing determined) isRanked

/-- Where ties agree, the items settle how the first ones look. -/
theorem view_take_eq
    {view : α → β}
    {count : Nat}
    (determined : ∀ item other, rank item = rank other → key item = key other)
    (ranking : IsRanking key rank items ranked)
    (reranking : IsRanking key rank others reranked)
    (same : SameElements items others)
    (tiesAgree : TiesAgree key rank view count items) :
    (ranked.take count).map view = (reranked.take count).map view := by
  have ranks := ranking.ranks_eq determined reranking same
  have sameLength : ranked.length = reranked.length := by
    simpa using congrArg List.length ranks
  apply List.ext_getElem
  · simp [sameLength]
  intro index bound boundToo
  rw [List.length_map, List.length_take, Nat.lt_min] at bound boundToo
  rw [List.getElem_map, List.getElem_map, List.getElem_take,
    List.getElem_take]
  have isRanked := List.getElem_mem bound.2
  have otherRanked := List.getElem_mem boundToo.2
  have sameRank : rank ranked[index] = rank reranked[index] := by
    have atIndex := List.getElem_of_eq ranks (by simpa using bound.2)
    simpa using atIndex
  have inTake : ranked[index] ∈ ranked.take count := by
    apply List.mem_take_iff_getElem.mpr
    exact ⟨index, Nat.lt_min.mpr bound, rfl⟩
  exact
    tiesAgree _ (ranking.listed _ isRanked) _
      ((same _).mpr (reranking.listed _ otherRanked))
      (determined _ _ sameRank) sameRank (ranking.best _ isRanked)
      ((ranking.mem_take_iff determined isRanked).mp inTake)

end Taking

end IsRanking

end TaskTwin.Collection
