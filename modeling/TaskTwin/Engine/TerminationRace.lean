import Mathlib.Data.List.Sort
import Mathlib.Data.Prod.Lex
import TaskTwin.Collection.FirstLeast
import TaskTwin.Engine.TerminationArbiter

/-!
# The race to end a run

The arbiter under any sequence of its calls.  The first call that locks a
winner takes the candidate that is least by time and tie priority, and among
equals the one recorded first; afterwards nothing changes the winner.
-/

namespace TaskTwin.Engine

open Collection

inductive ArbiterCall where
  | record (candidate : TerminationCandidate)
  | lockWinner
  deriving DecidableEq, Repr

/-- The arbiter that some calls leave. -/
def TerminationArbiter.after
    (arbiter : TerminationArbiter) :
    List ArbiterCall → TerminationArbiter
  | [] => arbiter
  | .record candidate :: calls => (arbiter.record candidate).after calls
  | .lockWinner :: calls => arbiter.lockWinner.1.after calls

/-- What the `lockWinner` calls among some calls answer. -/
def TerminationArbiter.answers
    (arbiter : TerminationArbiter) :
    List ArbiterCall → List (Option TerminationCandidate)
  | [] => []
  | .record candidate :: calls => (arbiter.record candidate).answers calls
  | .lockWinner :: calls =>
      arbiter.lockWinner.2 :: arbiter.lockWinner.1.answers calls

/-- The candidates that some calls record, in their order. -/
def recordings : List ArbiterCall → List TerminationCandidate
  | [] => []
  | .record candidate :: calls => candidate :: recordings calls
  | .lockWinner :: calls => recordings calls

/-- No `lockWinner` among some first calls has returned a winner. -/
def Undecided (calls : List ArbiterCall) : Prop :=
  ∀ answer ∈ TerminationArbiter.create.answers calls, answer = none

/-- By time, then by tie priority. -/
def TerminationCandidate.rank (candidate : TerminationCandidate) : Nat ×ₗ Nat :=
  toLex (candidate.atMs, tiePriority candidate.cause)

/-- By time, then by tie priority, then in the order of recording. -/
def SequencedCandidate.place
    (entry : SequencedCandidate) :
    Nat ×ₗ Nat ×ₗ Nat :=
  toLex
    (entry.candidate.atMs,
      toLex (tiePriority entry.candidate.cause, entry.sequence))

theorem SequencedCandidate.precedes_iff
    {left right : SequencedCandidate} :
    left.precedes right = true ↔ left.place < right.place := by
  unfold SequencedCandidate.precedes SequencedCandidate.place
  rw [Prod.Lex.toLex_lt_toLex, Prod.Lex.toLex_lt_toLex]
  split
  case isTrue otherTime =>
    simp [otherTime]
  case isFalse sameTime =>
    rw [not_not.mp sameTime]
    split
    case isTrue otherPriority =>
      simp [otherPriority]
    case isFalse samePriority =>
      rw [not_not.mp samePriority]
      simp

/-- What the source sorts for is the head of the sorted candidates. -/
theorem firstCandidate_eq_head_sort
    (candidates : List SequencedCandidate) :
    firstCandidate candidates =
      (candidates.mergeSort fun left right => !right.precedes left).head? := by
  have notAfter :
      ∀ left right : SequencedCandidate,
        (!right.precedes left) = decide (left.place ≤ right.place) := by
    intro left right
    rw [Bool.eq_iff_iff]
    simp [← Bool.not_eq_true, SequencedCandidate.precedes_iff]
  simp only [notAfter]
  have transitive :
      ∀ first second third : SequencedCandidate,
        decide (first.place ≤ second.place) = true →
          decide (second.place ≤ third.place) = true →
            decide (first.place ≤ third.place) = true := by
    intro first second third
    simpa using le_trans
  have total :
      ∀ first second : SequencedCandidate,
        (decide (first.place ≤ second.place) ||
          decide (second.place ≤ first.place)) = true := by
    intro first second
    simpa using le_total first.place second.place
  induction candidates with
  | nil => simp [firstCandidate]
  | cons candidate rest inductionHypothesis =>
      obtain ⟨smaller, others, sorted, sortedRest, areSmaller⟩ :=
        List.mergeSort_cons transitive total candidate rest
      have ordered :=
        List.pairwise_mergeSort transitive total (candidate :: rest)
      rw [sorted] at ordered ⊢
      rw [firstCandidate, inductionHypothesis, sortedRest]
      cases smaller with
      | cons first smaller =>
          have isSmaller := areSmaller first (by simp)
          have precedes : first.precedes candidate = true := by
            rw [SequencedCandidate.precedes_iff]
            simpa using isSmaller
          simp [precedes]
      | nil =>
          cases others with
          | nil => rfl
          | cons best others =>
              have notBefore : best.precedes candidate = false := by
                rw [← Bool.not_eq_true, SequencedCandidate.precedes_iff,
                  not_lt]
                simpa using (List.pairwise_cons.mp ordered).1 best (by simp)
              simp [notBefore]

/-- Of two candidates the later one precedes only by time or tie priority. -/
theorem SequencedCandidate.precedes_later_iff
    {left right : SequencedCandidate}
    (later : right.sequence < left.sequence) :
    left.precedes right = true ↔
      left.candidate.rank < right.candidate.rank := by
  rw [SequencedCandidate.precedes_iff]
  unfold SequencedCandidate.place TerminationCandidate.rank
  simp only [Prod.Lex.toLex_lt_toLex]
  have notEarlier := later.not_gt
  tauto

/-- The candidates stand in the order in which they were recorded. -/
def InSequence (candidates : List SequencedCandidate) : Prop :=
  candidates.Pairwise fun first second => first.sequence < second.sequence

theorem firstCandidate_isFirstLeast
    {candidates : List SequencedCandidate}
    {winner : SequencedCandidate}
    (inSequence : InSequence candidates)
    (first : firstCandidate candidates = some winner) :
    IsFirstLeast TerminationCandidate.rank
      (candidates.map SequencedCandidate.candidate) winner.candidate := by
  induction candidates generalizing winner with
  | nil => cases first
  | cons candidate rest inductionHypothesis =>
      obtain ⟨behind, restInSequence⟩ := List.pairwise_cons.mp inSequence
      simp only [firstCandidate] at first
      cases isBest : firstCandidate rest with
      | none =>
          simp only [isBest, Option.some.injEq] at first
          subst winner
          rw [firstCandidate_eq_none.mp isBest]
          exact .singleton
      | some best =>
          have leastBehind := inductionHypothesis restInSequence isBest
          have isLater := behind best (firstCandidate_mem isBest)
          simp only [isBest] at first
          split at first
          case isTrue smaller =>
            cases first
            exact leastBehind.behind
              ((SequencedCandidate.precedes_later_iff isLater).mp smaller)
          case isFalse notSmaller =>
            cases first
            refine leastBehind.ahead (not_lt.mp ?_)
            rwa [SequencedCandidate.precedes_later_iff isLater] at notSmaller

/-- Nothing is locked, and the candidates are those recorded, in sequence. -/
structure Holds
    (arbiter : TerminationArbiter)
    (recorded : List TerminationCandidate) :
    Prop where
  unlocked : arbiter.locked = none
  candidates : arbiter.candidates.map SequencedCandidate.candidate = recorded
  inSequence : InSequence arbiter.candidates
  numbered : ∀ entry ∈ arbiter.candidates, entry.sequence < arbiter.sequence

theorem holds_create : Holds TerminationArbiter.create [] := by
  constructor <;> simp [TerminationArbiter.create, InSequence]

variable {arbiter : TerminationArbiter} {recorded : List TerminationCandidate}

theorem Holds.record
    (holds : Holds arbiter recorded)
    (candidate : TerminationCandidate) :
    Holds (arbiter.record candidate) (recorded ++ [candidate]) := by
  obtain ⟨unlocked, candidates, inSequence, numbered⟩ := holds
  simp only [TerminationArbiter.record, unlocked]
  constructor
  case unlocked => rfl
  case candidates => simp [candidates]
  case inSequence =>
    refine List.pairwise_append.mpr ⟨inSequence, by simp, ?_⟩
    simpa using numbered
  case numbered =>
    intro entry listed
    rcases List.mem_append.mp listed with earlier | latest
    · exact Nat.lt_succ_of_lt (numbered entry earlier)
    · rw [List.mem_singleton.mp latest]
      exact Nat.lt_succ_self _

/-- A look that finds no winner changes nothing. -/
theorem Holds.lockWinner
    (holds : Holds arbiter recorded)
    (unanswered : arbiter.lockWinner.2 = none) :
    Holds arbiter.lockWinner.1 recorded := by
  unfold TerminationArbiter.lockWinner at unanswered ⊢
  simp only [holds.unlocked] at unanswered ⊢
  cases first : firstCandidate arbiter.candidates with
  | none => exact holds
  | some winner => simp [first] at unanswered

theorem Holds.after
    (holds : Holds arbiter recorded)
    {calls : List ArbiterCall}
    (unanswered : ∀ answer ∈ arbiter.answers calls, answer = none) :
    Holds (arbiter.after calls) (recorded ++ recordings calls) := by
  induction calls generalizing arbiter recorded with
  | nil => simpa [recordings, TerminationArbiter.after] using holds
  | cons call calls inductionHypothesis =>
      cases call with
      | record candidate =>
          have next := inductionHypothesis (holds.record candidate) unanswered
          simpa [recordings, TerminationArbiter.after] using next
      | lockWinner =>
          obtain ⟨isNone, rest⟩ := List.forall_mem_cons.mp unanswered
          exact inductionHypothesis (holds.lockWinner isNone) rest

theorem Undecided.holds
    {calls : List ArbiterCall}
    (undecided : Undecided calls) :
    Holds (TerminationArbiter.create.after calls) (recordings calls) :=
  holds_create.after undecided

/-- The winner of a look that locks one. -/
theorem Holds.winner
    (holds : Holds arbiter recorded)
    {winner : TerminationCandidate}
    (answered : arbiter.lockWinner.2 = some winner) :
    IsFirstLeast TerminationCandidate.rank recorded winner := by
  unfold TerminationArbiter.lockWinner at answered
  simp only [holds.unlocked] at answered
  cases first : firstCandidate arbiter.candidates with
  | none => simp [first] at answered
  | some entry =>
      simp only [first, Option.some.injEq] at answered
      rw [← answered, ← holds.candidates]
      exact firstCandidate_isFirstLeast holds.inSequence first

/-- A look finds a winner as soon as anything has been recorded. -/
theorem Holds.answers_some
    (holds : Holds arbiter recorded)
    (someRecorded : recorded ≠ []) :
    ∃ winner, arbiter.lockWinner.2 = some winner := by
  unfold TerminationArbiter.lockWinner
  simp only [holds.unlocked]
  cases first : firstCandidate arbiter.candidates with
  | none =>
      rw [← holds.candidates, firstCandidate_eq_none.mp first] at someRecorded
      exact absurd rfl someRecorded
  | some entry => exact ⟨entry.candidate, rfl⟩

variable {arbiter : TerminationArbiter} {winner : TerminationCandidate}

theorem lockWinner_locks
    (answered : arbiter.lockWinner.2 = some winner) :
    arbiter.lockWinner.1.locked = some winner := by
  unfold TerminationArbiter.lockWinner at answered ⊢
  cases isLocked : arbiter.locked with
  | some locked =>
      simp only [isLocked, Option.some.injEq] at answered ⊢
      exact answered
  | none =>
      cases first : firstCandidate arbiter.candidates with
      | none => simp [isLocked, first] at answered
      | some entry => simpa [isLocked, first] using answered

/-- Neither call changes a locked arbiter. -/
theorem locked_keeps
    (isLocked : arbiter.locked = some winner) :
    (∀ candidate, arbiter.record candidate = arbiter) ∧
      arbiter.lockWinner = (arbiter, some winner) := by
  constructor
  · intro candidate
    simp [TerminationArbiter.record, isLocked]
  · simp [TerminationArbiter.lockWinner, isLocked]

theorem locked_after
    (isLocked : arbiter.locked = some winner)
    (calls : List ArbiterCall) :
    (arbiter.after calls).locked = some winner ∧
      ∀ answer ∈ arbiter.answers calls, answer = some winner := by
  obtain ⟨records, locks⟩ := locked_keeps isLocked
  induction calls with
  | nil => exact ⟨isLocked, by simp [TerminationArbiter.answers]⟩
  | cons call calls inductionHypothesis =>
      obtain ⟨staysLocked, answered⟩ := inductionHypothesis
      cases call with
      | record candidate =>
          simp only [TerminationArbiter.after, TerminationArbiter.answers,
            records candidate]
          exact ⟨staysLocked, answered⟩
      | lockWinner =>
          simp only [TerminationArbiter.after, TerminationArbiter.answers,
            locks]
          exact ⟨staysLocked, List.forall_mem_cons.mpr ⟨rfl, answered⟩⟩

/-- What holds of the winner that the first successful look returns. -/
structure ArbitrationLaw
    (before : List ArbiterCall)
    (winner : TerminationCandidate) :
    Prop where
  /-- It is the least by time and tie priority, and of those the first. -/
  least : IsFirstLeast TerminationCandidate.rank (recordings before) winner
  /-- Recordings of another time or priority may come in any order. -/
  independent :
    ∀ others,
      Undecided others →
      AlikeByKey TerminationCandidate.rank (recordings before)
        (recordings others) →
      (TerminationArbiter.create.after others).lockWinner.2 = some winner
  /-- Later calls leave it, and every later look returns it. -/
  final :
    ∀ later,
      ((TerminationArbiter.create.after before).lockWinner.1.after
          later).locked = some winner ∧
        ∀ answer ∈
          (TerminationArbiter.create.after before).lockWinner.1.answers later,
          answer = some winner

theorem lockWinner_arbitrates
    (before : List ArbiterCall)
    (undecided : Undecided before)
    (winner : TerminationCandidate)
    (answered :
      (TerminationArbiter.create.after before).lockWinner.2 = some winner) :
    ArbitrationLaw before winner := by
  have least := undecided.holds.winner answered
  refine ⟨least, ?_, locked_after (lockWinner_locks answered)⟩
  intro others othersUndecided alike
  have leastOfOthers := least.of_alike alike
  obtain ⟨otherWinner, otherAnswered⟩ :=
    othersUndecided.holds.answers_some
      (List.ne_nil_of_mem leastOfOthers.mem)
  have otherLeast := othersUndecided.holds.winner otherAnswered
  rw [otherAnswered, leastOfOthers.unique otherLeast]

/-- A failure, a cancellation and the total timeout at one time. -/
def exampleRace : List ArbiterCall :=
  [.lockWinner,
    .record
      { cause := .stepFailed
        atMs := 100
        error := safeError .actionFailed
        stepId := none },
    .record
      { cause := .runCancelled
        atMs := 100
        error := safeError .executionCancelled
        stepId := none },
    .record
      { cause := .totalTimeout
        atMs := 100
        error := safeError .totalExecutionTimeout
        stepId := none }]

theorem lockWinner_arbitrates_exampleRace :
    ArbitrationLaw exampleRace
      { cause := .totalTimeout
        atMs := 100
        error := safeError .totalExecutionTimeout
        stepId := none } :=
  lockWinner_arbitrates exampleRace (by unfold Undecided; decide) _ (by decide)

end TaskTwin.Engine
