import Mathlib.Data.List.Basic
import Mathlib.Data.List.Chain
import Mathlib.Data.List.Infix

/-!
# Patterns

Regular expressions with assertions, over any alphabet.  A pattern is tried at
a position of a text, and the ends of its matches are listed in the order of
preference of a backtracking matcher: what is repeated is repeated as often as
possible first.
-/

namespace TaskTwin.Text

inductive Pattern (Symbol : Type) where
  | nothing
  | symbol (accepts : Symbol → Bool)
  | followed (first second : Pattern Symbol)
  | either (first second : Pattern Symbol)
  /-- At least `minimum` times and, if there is one, at most `maximum`. -/
  | repeated
      (minimum : Nat)
      (maximum : Option Nat)
      (body : Pattern Symbol)
  /-- The text begins here. -/
  | atStart
  /-- The text ends here. -/
  | atEnd
  /-- One of the symbols on the two sides belongs to a word. -/
  | atBoundary (inWord : Symbol → Bool)
  /-- A match of the body begins here. -/
  | ahead (body : Pattern Symbol)

namespace Pattern

variable {Symbol : Type}

/-- One after the other. -/
def sequence : List (Pattern Symbol) → Pattern Symbol
  | [] => .nothing
  | [pattern] => pattern
  | pattern :: rest => .followed pattern (sequence rest)

/-- The first that matches. -/
def oneOf : List (Pattern Symbol) → Pattern Symbol
  | [] => .symbol fun _ => false
  | [pattern] => pattern
  | pattern :: rest => .either pattern (oneOf rest)

def optional (body : Pattern Symbol) : Pattern Symbol :=
  .repeated 0 (some 1) body

def exactly (count : Nat) (body : Pattern Symbol) : Pattern Symbol :=
  .repeated count (some count) body

def atLeast (count : Nat) (body : Pattern Symbol) : Pattern Symbol :=
  .repeated count none body

/-- Between two numbers of times. -/
def between
    (minimum maximum : Nat)
    (body : Pattern Symbol) :
    Pattern Symbol :=
  .repeated minimum (some maximum) body

/--
The ends of repetitions from a position, where `step` lists the ends of one
turn.  A turn that is not demanded has to advance.
-/
def repeatedEnds
    (step : Nat → List Nat) :
    (fuel minimum : Nat) → Option Nat → Nat → List Nat
  | 0, minimum, _, position => if minimum = 0 then [position] else []
  | fuel + 1, minimum, maximum, position =>
      if maximum = some 0 then [position]
      else
        let after :=
          (step position).flatMap fun stop =>
            if minimum = 0 ∧ stop = position then []
            else
              repeatedEnds step fuel (minimum - 1) (maximum.map (· - 1)) stop
        if minimum = 0 then after ++ [position] else after

/-- The ends of the matches that begin at a position. -/
def ends (text : List Symbol) : Pattern Symbol → Nat → List Nat
  | .nothing, position => [position]
  | .symbol accepts, position =>
      if text[position]?.any accepts then [position + 1] else []
  | .followed first second, position =>
      (ends text first position).flatMap (ends text second)
  | .either first second, position =>
      ends text first position ++ ends text second position
  | .repeated minimum maximum body, position =>
      repeatedEnds (ends text body) (minimum + text.length + 1) minimum
        maximum position
  | .atStart, position => if position = 0 then [position] else []
  | .atEnd, position => if position = text.length then [position] else []
  | .atBoundary inWord, position =>
      let before := position ≠ 0 && text[position - 1]?.any inWord
      if before != text[position]?.any inWord then [position] else []
  | .ahead body, position =>
      if (ends text body position).isEmpty then [] else [position]

/-- `pattern.test(text)`. -/
def test (pattern : Pattern Symbol) (text : List Symbol) : Bool :=
  (List.range (text.length + 1)).any fun position =>
    !(ends text pattern position).isEmpty

/-- The first match from a position on, with its end. -/
def find
    (pattern : Pattern Symbol)
    (text : List Symbol)
    (position : Nat) :
    Option (Nat × Nat) :=
  (List.range' position (text.length + 1 - position)).findSome? fun start =>
    (ends text pattern start).head?.map (start, ·)

/-- The matches of a global search, none of which overlap. -/
def occurrencesFrom
    (pattern : Pattern Symbol)
    (text : List Symbol) :
    Nat → Nat → List (Nat × Nat)
  | 0, _ => []
  | fuel + 1, position =>
      match find pattern text position with
      | none => []
      | some occurrence =>
          occurrence ::
            occurrencesFrom pattern text fuel
              (if occurrence.2 = occurrence.1 then occurrence.2 + 1
              else occurrence.2)

def occurrences
    (pattern : Pattern Symbol)
    (text : List Symbol) :
    List (Nat × Nat) :=
  occurrencesFrom pattern text (text.length + 1) 0

def slice (text : List Symbol) (start stop : Nat) : List Symbol :=
  (text.drop start).take (stop - start)

/-- `text.match(pattern)` with a global pattern. -/
def matched
    (pattern : Pattern Symbol)
    (text : List Symbol) :
    List (List Symbol) :=
  (occurrences pattern text).map fun occurrence =>
    slice text occurrence.1 occurrence.2

/-- The text with what stands at the given places replaced. -/
def replaceAt
    (replace : List Symbol → List Symbol)
    (text : List Symbol) :
    Nat → List (Nat × Nat) → List Symbol
  | position, [] => text.drop position
  | position, occurrence :: rest =>
      slice text position occurrence.1 ++
        replace (slice text occurrence.1 occurrence.2) ++
        replaceAt replace text occurrence.2 rest

/-- `text.replace(pattern, replace)` with a global pattern. -/
def replaceAll
    (pattern : Pattern Symbol)
    (replace : List Symbol → List Symbol)
    (text : List Symbol) :
    List Symbol :=
  replaceAt replace text 0 (occurrences pattern text)

/-- What stands between the places of a separator. -/
def splitAt
    (text : List Symbol) :
    Nat → List (Nat × Nat) → List (List Symbol)
  | position, [] => [text.drop position]
  | position, occurrence :: rest =>
      slice text position occurrence.1 ::
        splitAt text occurrence.2 rest

/-- `text.split(pattern)`, for a pattern without empty matches. -/
def split
    (pattern : Pattern Symbol)
    (text : List Symbol) :
    List (List Symbol) :=
  splitAt text 0 (occurrences pattern text)

end Pattern

end TaskTwin.Text

/-!
## Runs of symbols
-/

namespace TaskTwin.Text

variable {α : Type} (isGap : α → Bool) (gap : α)

/-- The rest of a text with single gaps, which may be inside a run. -/
def collapseRunsFrom : Bool → List α → List α
  | _, [] => []
  | inRun, symbol :: rest =>
      if isGap symbol then
        if inRun then collapseRunsFrom true rest
        else gap :: collapseRunsFrom true rest
      else symbol :: collapseRunsFrom false rest

/-- The text with a single gap for every run of gaps. -/
def collapseRuns (text : List α) : List α :=
  collapseRunsFrom isGap gap false text

/-- Every gap of a text is the same and stands alone. -/
structure Collapsed (text : List α) : Prop where
  single : ∀ symbol ∈ text, isGap symbol = true → symbol = gap
  apart :
    text.IsChain fun first second => ¬(isGap first = true ∧ isGap second = true)

variable {isGap gap}

theorem Collapsed.of_part
    {part text : List α}
    (collapsed : Collapsed isGap gap text)
    (isPart : part <:+: text) :
    Collapsed isGap gap part where
  single symbol isThere := collapsed.single symbol (isPart.subset isThere)
  apart := collapsed.apart.infix isPart

/-- Nothing changes where every gap stands alone. -/
theorem collapseRuns_of_collapsed
    {text : List α}
    (collapsed : Collapsed isGap gap text) :
    collapseRuns isGap gap text = text := by
  have continues (inRun : Bool) (rest : List α)
      (isCollapsed : Collapsed isGap gap rest)
      (isFree : inRun = true → ∀ symbol ∈ rest.head?, isGap symbol = false) :
      collapseRunsFrom isGap gap inRun rest = rest := by
    induction rest generalizing inRun with
    | nil => rfl
    | cons symbol rest inductionHypothesis =>
        have isRest : Collapsed isGap gap rest :=
          isCollapsed.of_part (List.infix_cons (List.infix_refl rest))
        rw [collapseRunsFrom]
        by_cases isGapHere : isGap symbol = true
        · have notInRun : inRun = false := by
            cases inRun with
            | false => rfl
            | true =>
                have notGap := isFree rfl symbol rfl
                rw [isGapHere] at notGap
                cases notGap
          have isFreeNext : ∀ next ∈ rest.head?, isGap next = false := by
            intro next isNext
            obtain ⟨later, rfl⟩ := List.head?_eq_some_iff.mp isNext
            have alone := (List.isChain_cons_cons.mp isCollapsed.apart).1
            by_contra isGapNext
            exact alone ⟨isGapHere, by simpa using isGapNext⟩
          rw [if_pos isGapHere, notInRun, if_neg Bool.false_ne_true,
            inductionHypothesis true isRest fun _ => isFreeNext,
            isCollapsed.single symbol List.mem_cons_self isGapHere]
        · rw [if_neg isGapHere, inductionHypothesis false isRest]
          intro inRun'
          cases inRun'
  exact continues false text collapsed fun inRun => by cases inRun

theorem collapsed_collapseRuns (text : List α) :
    Collapsed isGap gap (collapseRuns isGap gap text) := by
  have continues (inRun : Bool) (rest : List α) :
      Collapsed isGap gap (collapseRunsFrom isGap gap inRun rest) ∧
        (inRun = true →
          ∀ symbol ∈ (collapseRunsFrom isGap gap inRun rest).head?,
            isGap symbol = false) := by
    induction rest generalizing inRun with
    | nil =>
        constructor
        · exact ⟨fun _ isThere => (List.not_mem_nil isThere).elim, .nil⟩
        · intro _ symbol isHead
          cases isHead
    | cons symbol rest inductionHypothesis =>
        rw [collapseRunsFrom]
        by_cases isGapHere : isGap symbol = true
        · obtain ⟨isRest, isFree⟩ := inductionHypothesis true
          cases inRun with
          | true =>
              rw [if_pos isGapHere, if_pos rfl]
              exact ⟨isRest, isFree⟩
          | false =>
              rw [if_pos isGapHere, if_neg Bool.false_ne_true]
              refine ⟨⟨?_, ?_⟩, fun inRun => by cases inRun⟩
              · intro other isThere isGapThere
                rcases List.mem_cons.mp isThere with same | isLater
                · exact same
                · exact isRest.single other isLater isGapThere
              · rw [List.isChain_cons]
                refine ⟨?_, isRest.apart⟩
                rintro next isNext ⟨-, isGapNext⟩
                rw [isFree rfl next isNext] at isGapNext
                cases isGapNext
        · obtain ⟨isRest, -⟩ := inductionHypothesis false
          rw [if_neg isGapHere]
          refine ⟨⟨?_, ?_⟩, ?_⟩
          · intro other isThere isGapThere
            rcases List.mem_cons.mp isThere with same | isLater
            · exact absurd (same ▸ isGapThere) isGapHere
            · exact isRest.single other isLater isGapThere
          · rw [List.isChain_cons]
            exact ⟨fun next _ both => isGapHere both.1, isRest.apart⟩
          · intro _ first isFirst
            obtain rfl := Option.some.inj isFirst
            simpa using isGapHere
  exact (continues false text).1

/-- A part of a text with single gaps has single gaps. -/
theorem collapseRuns_part
    {text part : List α}
    (isPart : part <:+: collapseRuns isGap gap text) :
    collapseRuns isGap gap part = part :=
  collapseRuns_of_collapsed
    ((collapsed_collapseRuns text).of_part isPart)

namespace Pattern

variable {accepts : α → Bool} {text : List α}

/-- How many symbols of a kind stand from a position on. -/
def runLength (accepts : α → Bool) (text : List α) (position : Nat) : Nat :=
  ((text.drop position).takeWhile accepts).length

variable {position : Nat}

theorem runLength_of_accepts
    (isAccepted : text[position]?.any accepts = true) :
    runLength accepts text position =
      runLength accepts text (position + 1) + 1 := by
  obtain ⟨symbol, isSymbol, accepted⟩ := (Option.any_eq_true _ _).mp isAccepted
  obtain ⟨inside, rfl⟩ := List.getElem?_eq_some_iff.mp isSymbol
  rw [runLength, List.drop_eq_getElem_cons inside,
    List.takeWhile_cons_of_pos accepted]
  rfl

theorem runLength_of_not_accepts
    (notAccepted : text[position]?.any accepts = false) :
    runLength accepts text position = 0 := by
  rw [runLength]
  cases isRest : text.drop position with
  | nil => rfl
  | cons symbol rest =>
      have isSymbol : text[position]? = some symbol := by
        rw [← List.head?_drop, isRest]
        rfl
      rw [isSymbol, Option.any_some] at notAccepted
      rw [List.takeWhile_cons_of_neg (by simp [notAccepted])]
      rfl

theorem ends_of_accepts
    (isAccepted : text[position]?.any accepts = true) :
    ends text (.symbol accepts) position = [position + 1] := by
  rw [ends, isAccepted]
  rfl

theorem ends_of_not_accepts
    (notAccepted : text[position]?.any accepts = false) :
    ends text (.symbol accepts) position = [] := by
  rw [ends, notAccepted]
  rfl

variable (accepts text) in
/-- A greedy repetition goes to the end of the run. -/
theorem head?_repeatedEnds
    (fuel position : Nat)
    (enough : runLength accepts text position ≤ fuel) :
    (repeatedEnds (ends text (.symbol accepts)) fuel 0 none position).head? =
      some (position + runLength accepts text position) := by
  induction fuel generalizing position with
  | zero =>
      have none : runLength accepts text position = 0 := Nat.le_zero.mp enough
      rw [none]
      rfl
  | succ fuel inductionHypothesis =>
      cases isAccepted : text[position]?.any accepts with
      | true =>
          have longer := runLength_of_accepts isAccepted
          have later :=
            inductionHypothesis (position + 1) (by omega)
          simp only [repeatedEnds, ends_of_accepts isAccepted, reduceCtorEq,
            if_false, if_true, Nat.add_eq_left, Nat.one_ne_zero, and_false,
            List.flatMap_cons, List.flatMap_nil, List.append_nil,
            List.head?_append, Option.map_none, Nat.zero_sub, later,
            Option.some_or, longer]
          congr 1
          omega
      | false =>
          simp only [repeatedEnds, ends_of_not_accepts isAccepted, reduceCtorEq,
            if_false, if_true, List.flatMap_nil, List.nil_append,
            List.head?_cons, runLength_of_not_accepts isAccepted, Nat.add_zero]

theorem runLength_le (position : Nat) :
    runLength accepts text position ≤ text.length - position := by
  rw [← List.length_drop]
  exact (List.takeWhile_prefix accepts).length_le

variable {position : Nat}

theorem head?_ends_of_accepts
    (isAccepted : text[position]?.any accepts = true) :
    (ends text (atLeast 1 (.symbol accepts)) position).head? =
      some (position + runLength accepts text position) := by
  have longer := runLength_of_accepts isAccepted
  have short : runLength accepts text position ≤ text.length - position :=
    runLength_le position
  have later :=
    head?_repeatedEnds accepts text (1 + text.length) (position + 1) (by omega)
  rw [atLeast, ends, repeatedEnds]
  simp only [ends_of_accepts isAccepted, reduceCtorEq, if_false,
    Nat.one_ne_zero, false_and, List.flatMap_cons, List.flatMap_nil,
    List.append_nil, Nat.sub_self, Option.map_none, later, longer]
  congr 1
  omega

theorem ends_atLeast_of_not_accepts
    (notAccepted : text[position]?.any accepts = false) :
    ends text (atLeast 1 (.symbol accepts)) position = [] := by
  rw [atLeast, ends, repeatedEnds]
  simp only [ends_of_not_accepts notAccepted, reduceCtorEq, if_false,
    Nat.one_ne_zero, List.flatMap_nil]

theorem find_of_accepts
    (isAccepted : text[position]?.any accepts = true) :
    find (atLeast 1 (.symbol accepts)) text position =
      some (position, position + runLength accepts text position) := by
  obtain ⟨symbol, isSymbol, -⟩ := (Option.any_eq_true _ _).mp isAccepted
  obtain ⟨inside, -⟩ := List.getElem?_eq_some_iff.mp isSymbol
  obtain ⟨count, isCount⟩ :=
    Nat.exists_eq_add_one_of_ne_zero
      (show text.length + 1 - position ≠ 0 by omega)
  rw [find, isCount, List.range'_succ, List.findSome?_cons,
    head?_ends_of_accepts isAccepted]
  rfl

/-- Where no run begins, the search goes on. -/
theorem find_of_not_accepts
    (inside : position < text.length)
    (notAccepted : text[position]?.any accepts = false) :
    find (atLeast 1 (.symbol accepts)) text position =
      find (atLeast 1 (.symbol accepts)) text (position + 1) := by
  have isCount :
      text.length + 1 - position = text.length + 1 - (position + 1) + 1 := by
    omega
  rw [find, isCount, List.range'_succ, List.findSome?_cons,
    ends_atLeast_of_not_accepts notAccepted]
  rfl

theorem find_at_end :
    find (atLeast 1 (.symbol accepts)) text text.length = none := by
  have notAccepted : text[text.length]?.any accepts = false := by
    rw [List.getElem?_eq_none (Nat.le_refl _)]
    rfl
  rw [find, Nat.add_sub_cancel_left, List.range'_one, List.findSome?_cons,
    ends_atLeast_of_not_accepts notAccepted]
  rfl

theorem slice_succ
    {start position : Nat}
    {symbol : α}
    (isStart : start ≤ position)
    (isSymbol : text[position]? = some symbol) :
    slice text start (position + 1) = slice text start position ++ [symbol] := by
  have isLast : (text.drop start)[position - start]? = some symbol := by
    rw [List.getElem?_drop, Nat.add_sub_cancel' isStart]
    exact isSymbol
  rw [slice, Nat.succ_sub isStart, List.take_add_one, isLast]
  rfl

theorem collapseRunsFrom_true (rest : List α) :
    collapseRunsFrom accepts gap true rest =
      collapseRuns accepts gap (rest.dropWhile accepts) := by
  induction rest with
  | nil => rfl
  | cons symbol rest inductionHypothesis =>
      rw [collapseRunsFrom]
      by_cases isGap : accepts symbol = true
      · rw [if_pos isGap, if_pos rfl, List.dropWhile_cons_of_pos isGap]
        exact inductionHypothesis
      · rw [if_neg isGap, List.dropWhile_cons_of_neg isGap, collapseRuns,
          collapseRunsFrom, if_neg isGap]

theorem drop_runLength (position : Nat) :
    text.drop (position + runLength accepts text position) =
      (text.drop position).dropWhile accepts := by
  have split :=
    List.takeWhile_append_dropWhile (p := accepts) (l := text.drop position)
  rw [← List.drop_drop, runLength]
  nth_rewrite 2 [← split]
  rw [List.drop_left]

/-- What is replaced from a position on, behind what is kept before it. -/
theorem replaceAt_runs
    (gap : α)
    (fuel start position : Nat)
    (isStart : start ≤ position)
    (inside : position ≤ text.length)
    (enough : text.length - position < fuel) :
    replaceAt (fun _ => [gap]) text start
        (occurrencesFrom (atLeast 1 (.symbol accepts)) text fuel position) =
      slice text start position ++
        collapseRuns accepts gap (text.drop position) := by
  induction isLeft : text.length - position using Nat.strong_induction_on
    generalizing fuel start position with
  | _ left inductionHypothesis =>
      obtain ⟨fuel, rfl⟩ :=
        Nat.exists_eq_add_one_of_ne_zero (show fuel ≠ 0 by omega)
      rcases Nat.eq_or_lt_of_le inside with isEnd | isInside
      · subst isEnd
        rw [occurrencesFrom, find_at_end, replaceAt, List.drop_length, slice,
          ← List.length_drop, List.take_length]
        exact (List.append_nil _).symm
      · have isSymbol : text[position]? = some text[position] :=
          List.getElem?_eq_getElem isInside
        cases isAccepted : text[position]?.any accepts with
        | false =>
            have notGap : ¬accepts text[position] = true := by
              simpa [isSymbol] using isAccepted
            have goesOn :
                occurrencesFrom (atLeast 1 (.symbol accepts)) text (fuel + 1)
                    position =
                  occurrencesFrom (atLeast 1 (.symbol accepts)) text (fuel + 1)
                    (position + 1) := by
              rw [occurrencesFrom, find_of_not_accepts isInside isAccepted,
                occurrencesFrom]
            rw [goesOn,
              inductionHypothesis (text.length - (position + 1)) (by omega)
                (fuel + 1) start (position + 1) (by omega) (by omega) (by omega)
                rfl,
              slice_succ isStart isSymbol, List.append_assoc,
              List.drop_eq_getElem_cons isInside]
            rw [collapseRuns, collapseRuns, collapseRunsFrom, if_neg notGap]
            rfl
        | true =>
            have isGap : accepts text[position] = true := by
              simpa [isSymbol] using isAccepted
            have longer := runLength_of_accepts isAccepted
            have short :
                runLength accepts text position ≤ text.length - position :=
              runLength_le position
            have isNew :
                position + runLength accepts text position ≠ position := by
              omega
            rw [occurrencesFrom, find_of_accepts isAccepted]
            simp only [if_neg isNew, replaceAt]
            rw [inductionHypothesis
                (text.length - (position + runLength accepts text position))
                (by omega) fuel _ _ (Nat.le_refl _) (by omega) (by omega) rfl,
              drop_runLength, slice, slice, Nat.sub_self, List.take_zero,
              List.nil_append, List.append_assoc,
              List.drop_eq_getElem_cons isInside,
              List.dropWhile_cons_of_pos isGap]
            nth_rewrite 2 [collapseRuns]
            rw [collapseRunsFrom, if_pos isGap, if_neg Bool.false_ne_true,
              collapseRunsFrom_true]
            rfl

/-- Replacing every run of a kind of symbols by one gap. -/
theorem replaceAll_runs (gap : α) (text : List α) :
    (atLeast 1 (.symbol accepts)).replaceAll (fun _ => [gap]) text =
      collapseRuns accepts gap text := by
  rw [replaceAll, occurrences,
    replaceAt_runs gap (text.length + 1) 0 0 (Nat.le_refl _) (Nat.zero_le _)
      (Nat.lt_succ_self _)]
  rfl

end Pattern

end TaskTwin.Text
