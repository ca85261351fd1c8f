import Mathlib.Data.List.Nodup
import Mathlib.Data.List.Sort
import Mathlib.Order.Basic

/-!
# Keyset pagination

A listing answers every cursor with a page and perhaps the cursor of the next
one.  A page holds the first rows behind the cursor; one row more is read to
see whether another page follows.
-/

namespace TaskTwin.Collection

variable {α β γ κ ρ : Type}

/-- The responses of a listing whose cursors are followed to the end. -/
inductive Follows
    (list : Option γ → Option ρ)
    (nextCursor : ρ → Option γ) :
    Option γ → List ρ → Prop where
  | last
      {cursor : Option γ}
      {response : ρ}
      (answered : list cursor = some response)
      (ends : nextCursor response = none) :
      Follows list nextCursor cursor [response]
  | more
      {cursor : Option γ}
      {response : ρ}
      {following : γ}
      {responses : List ρ}
      (answered : list cursor = some response)
      (goesOn : nextCursor response = some following)
      (rest : Follows list nextCursor (some following) responses) :
      Follows list nextCursor cursor (response :: responses)

/-- Following the cursors ends, and shows each of some rows once, in order. -/
def ShowsAll
    (list : Option γ → Option ρ)
    (nextCursor : ρ → Option γ)
    (items : ρ → List β)
    (toRecord : α → β)
    (inOrder : α → α → Prop)
    (rows : List α) :
    Prop :=
  ∃ (responses : List ρ) (shown : List α),
    Follows list nextCursor none responses ∧
      shown.Perm rows ∧
      shown.Pairwise inOrder ∧
      responses.flatMap items = shown.map toRecord

section

variable (order : α → α → Prop) [DecidableRel order]

/-- The first rows that match behind a cursor, one more than the limit. -/
def readPage
    (isMatch : α → Bool)
    (isBehind : γ → α → Bool)
    (limit : Nat)
    (table : List α)
    (cursor : Option γ) :
    List α :=
  ((table.filter fun row =>
      isMatch row && cursor.all fun cursor =>
        isBehind cursor row).insertionSort order).take (limit + 1)

/-- The cursor of the last row of a page, when more rows have been read. -/
def cursorBehind (cursorOf : α → γ) (limit : Nat) (read : List α) : Option γ :=
  if limit < read.length then (read.take limit).getLast?.map cursorOf else none

end

variable
  [LinearOrder κ]
  {order : α → α → Prop} [DecidableRel order]
  {key : α → κ}
  {rows : List α}

theorem insertionSort_ascends
    (orders : ∀ first second, order first second ↔ key first ≤ key second)
    (distinct : (rows.map key).Nodup) :
    (rows.insertionSort order).Pairwise fun first second =>
      key first < key second := by
  have total : Std.Total order :=
    ⟨fun first second => by simpa only [orders] using le_total _ _⟩
  have transitive : IsTrans α order :=
    ⟨fun first second third => by simpa only [orders] using le_trans⟩
  have sorted := List.pairwise_insertionSort order rows
  have stillDistinct :
      ((rows.insertionSort order).map key).Nodup :=
    ((List.perm_insertionSort order rows).map key).nodup_iff.mpr distinct
  refine (sorted.and (List.pairwise_map.mp stillDistinct)).imp ?_
  rintro first second ⟨isBefore, otherKey⟩
  exact lt_of_le_of_ne ((orders first second).mp isBefore) otherKey

/-- Rows in order that have the same rows sorted are these. -/
theorem insertionSort_eq
    (orders : ∀ first second, order first second ↔ key first ≤ key second)
    {sorted : List α}
    (ascends :
      sorted.Pairwise fun first second => key first < key second)
    (sameRows : sorted.Perm rows) :
    rows.insertionSort order = sorted := by
  have distinct : (rows.map key).Nodup :=
    ((sameRows.map key).nodup_iff).mp
      (List.pairwise_map.mpr (ascends.imp fun isLess => isLess.ne))
  refine
    List.Perm.eq_of_pairwise ?_ (insertionSort_ascends orders distinct) ascends
      ((List.perm_insertionSort order rows).trans sameRows.symm)
  intro first second _ _ isLess isGreater
  exact absurd isLess isGreater.not_gt

/-- What stands behind a row in ascending order. -/
theorem filter_behind
    {done rest : List α}
    {row : α}
    (ascends :
      (done ++ row :: rest).Pairwise fun first second =>
        key first < key second) :
    ((done ++ row :: rest).filter fun other => decide (key row < key other)) =
      rest := by
  obtain ⟨-, later, before⟩ := List.pairwise_append.mp ascends
  have behind := (List.pairwise_cons.mp later).1
  have noneDone :
      (done.filter fun other => decide (key row < key other)) = [] := by
    apply List.filter_eq_nil_iff.mpr
    intro other isDone
    simpa using (before other isDone row List.mem_cons_self).le
  have allRest :
      (rest.filter fun other => decide (key row < key other)) = rest := by
    apply List.filter_eq_self.mpr
    intro other isRest
    simpa using behind other isRest
  simp [noneDone, allRest]

section

variable
  {cursorOf : α → γ}
  {isMatch : α → Bool}
  {isBehind : γ → α → Bool}
  {limit : Nat}
  {list : Option γ → Option ρ}
  {nextCursor : ρ → Option γ}
  {items : ρ → List β}
  {toRecord : α → β}

/-- A listing answers a cursor with the rows that have been read for it. -/
def AnswersPage
    (cursorOf : α → γ)
    (limit : Nat)
    (list : Option γ → Option ρ)
    (nextCursor : ρ → Option γ)
    (items : ρ → List β)
    (toRecord : α → β)
    (cursor : Option γ)
    (read : List α) :
    Prop :=
  ∃ response,
    list cursor = some response ∧
      items response = (read.take limit).map toRecord ∧
      nextCursor response = cursorBehind cursorOf limit read

/-- The pages show what is left, when every page does so for its cursor. -/
theorem follows_left
    (positive : 0 < limit)
    (sorted : List α)
    (answers :
      ∀ done left,
        sorted = done ++ left →
        AnswersPage cursorOf limit list nextCursor items toRecord
          (done.getLast?.map cursorOf) (left.take (limit + 1)))
    (done left : List α)
    (isSorted : sorted = done ++ left) :
    ∃ responses,
      Follows list nextCursor (done.getLast?.map cursorOf) responses ∧
        responses.flatMap items = left.map toRecord := by
  induction size : left.length using Nat.strong_induction_on
    generalizing done left with
  | _ size inductionHypothesis =>
      obtain ⟨response, answered, shows, behind⟩ := answers done left isSorted
      rw [List.take_take, Nat.min_eq_left (Nat.le_succ limit)] at shows
      unfold cursorBehind at behind
      rw [List.length_take, List.take_take,
        Nat.min_eq_left (Nat.le_succ limit)] at behind
      by_cases isMore : limit < left.length
      case pos =>
        have isNonEmpty : left.take limit ≠ [] := by
          apply List.ne_nil_of_length_pos
          rw [List.length_take]
          omega
        have isLast :
            (done ++ left.take limit).getLast? =
              (left.take limit).getLast? := by
          rw [List.getLast?_append_of_ne_nil _ isNonEmpty]
        obtain ⟨last, isLastRow⟩ :=
          Option.isSome_iff_exists.mp
            (List.getLast?_isSome.mpr isNonEmpty)
        have whole :
            sorted = (done ++ left.take limit) ++ left.drop limit := by
          rw [List.append_assoc, List.take_append_drop, isSorted]
        obtain ⟨responses, follows, showsRest⟩ :=
          inductionHypothesis (left.drop limit).length
            (by rw [List.length_drop]; omega)
            (done ++ left.take limit) (left.drop limit) whole rfl
        rw [isLast, isLastRow] at follows
        have goesOn : nextCursor response = some (cursorOf last) := by
          rw [behind, if_pos (by omega), isLastRow, Option.map_some]
        refine ⟨response :: responses, .more answered goesOn follows, ?_⟩
        rw [List.flatMap_cons, shows, showsRest, ← List.map_append,
          List.take_append_drop]
      case neg =>
        have ends : nextCursor response = none := by
          rw [behind, if_neg (by omega)]
        refine ⟨[response], .last answered ends, ?_⟩
        rw [List.flatMap_singleton, shows,
          List.take_of_length_le (Nat.le_of_not_lt isMore)]

/-- A listing by key shows every row that matches once, in order. -/
theorem showsAll_of_pages
    (orders : ∀ first second, order first second ↔ key first ≤ key second)
    (behindIff :
      ∀ row other, isBehind (cursorOf row) other = decide (key row < key other))
    (distinct : (rows.map key).Nodup)
    (positive : 0 < limit)
    (answers :
      ∀ cursor,
        AnswersPage cursorOf limit list nextCursor items toRecord cursor
          (readPage order isMatch isBehind limit rows cursor)) :
    ShowsAll list nextCursor items toRecord
      (fun first second => key first < key second) (rows.filter isMatch) := by
  have distinctMatches : ((rows.filter isMatch).map key).Nodup :=
    distinct.sublist (List.filter_sublist.map key)
  have ascends := insertionSort_ascends orders distinctMatches
  have sameRows := List.perm_insertionSort order (rows.filter isMatch)
  have pages :
      ∀ done left,
        (rows.filter isMatch).insertionSort order = done ++ left →
        AnswersPage cursorOf limit list nextCursor items toRecord
          (done.getLast?.map cursorOf) (left.take (limit + 1)) := by
    intro done left isSorted
    have isLeft :
        (rows.filter fun row =>
            isMatch row && (done.getLast?.map cursorOf).all fun cursor =>
              isBehind cursor row).insertionSort order =
          left := by
      rw [isSorted] at ascends sameRows
      refine
        insertionSort_eq orders (List.pairwise_append.mp ascends).2.1 ?_
      simp only [Bool.and_comm (isMatch _)]
      rw [← List.filter_filter]
      refine List.Perm.trans ?_ (sameRows.filter _)
      rcases List.eq_nil_or_concat done with rfl | ⟨earlier, row, rfl⟩
      · simp
      · rw [List.concat_append] at ascends ⊢
        simp only [List.concat_eq_append, List.getLast?_append,
          List.getLast?_singleton, Option.some_or, Option.map_some,
          Option.all_some, behindIff]
        rw [filter_behind ascends]
    have answered := answers (done.getLast?.map cursorOf)
    unfold readPage at answered
    rw [isLeft] at answered
    exact answered
  obtain ⟨responses, follows, shows⟩ :=
    follows_left positive ((rows.filter isMatch).insertionSort order) pages []
      _ rfl
  exact ⟨responses, _, follows, sameRows, ascends, shows⟩

end

end TaskTwin.Collection
