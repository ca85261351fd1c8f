import TaskTwin.Engine.Contracts

/-!
# The termination arbiter

Whatever may end a run is recorded as a candidate.  The first look at the
candidates locks the winner: the earliest one, then the one of the most
pressing cause, then the one that was recorded first.
-/

namespace TaskTwin.Engine

open Schema

inductive RacingTerminationCause where
  | adapterStartFailed
  | stepFailed
  | stepTimeout
  | runCancelled
  | totalTimeout
  | approvalRejected
  | approvalExpired
  | approvalInvalidated
  | repairAborted
  | repairExpired
  | repairInvalidated
  deriving DecidableEq, Repr

def RacingTerminationCause.terminationCause :
    RacingTerminationCause → TerminationCause
  | .adapterStartFailed => .adapterStartFailed
  | .stepFailed => .stepFailed
  | .stepTimeout => .stepTimeout
  | .runCancelled => .runCancelled
  | .totalTimeout => .totalTimeout
  | .approvalRejected => .approvalRejected
  | .approvalExpired => .approvalExpired
  | .approvalInvalidated => .approvalInvalidated
  | .repairAborted => .repairAborted
  | .repairExpired => .repairExpired
  | .repairInvalidated => .repairInvalidated

/-- `TIE_PRIORITY`. -/
def tiePriority : RacingTerminationCause → Nat
  | .totalTimeout => 0
  | .runCancelled => 1
  | _ => 2

structure TerminationCandidate where
  cause : RacingTerminationCause
  atMs : Nat
  error : SafeExecutionError
  stepId : Option NonEmptyString
  deriving DecidableEq, Repr

/-- A candidate with the position at which it was recorded. -/
structure SequencedCandidate where
  candidate : TerminationCandidate
  sequence : Nat
  deriving DecidableEq, Repr

structure TerminationArbiter where
  candidates : List SequencedCandidate
  locked : Option TerminationCandidate
  sequence : Nat
  deriving DecidableEq, Repr

def TerminationArbiter.create : TerminationArbiter :=
  { candidates := [], locked := none, sequence := 0 }

def TerminationArbiter.record
    (arbiter : TerminationArbiter)
    (candidate : TerminationCandidate) :
    TerminationArbiter :=
  match arbiter.locked with
  | some _ => arbiter
  | none =>
      { arbiter with
        candidates :=
          arbiter.candidates ++ [{ candidate, sequence := arbiter.sequence }]
        sequence := arbiter.sequence + 1 }

/-- The comparison that the candidates are sorted with. -/
def SequencedCandidate.precedes
    (left right : SequencedCandidate) :
    Bool :=
  if left.candidate.atMs ≠ right.candidate.atMs then
    left.candidate.atMs < right.candidate.atMs
  else if tiePriority left.candidate.cause ≠
      tiePriority right.candidate.cause then
    tiePriority left.candidate.cause < tiePriority right.candidate.cause
  else
    left.sequence < right.sequence

/-- The first of the sorted candidates. -/
def firstCandidate : List SequencedCandidate → Option SequencedCandidate
  | [] => none
  | candidate :: rest =>
      match firstCandidate rest with
      | none => some candidate
      | some best => if best.precedes candidate then some best else some candidate

/-- `lockWinner`: the arbiter it leaves and the winner it returns. -/
def TerminationArbiter.lockWinner
    (arbiter : TerminationArbiter) :
    TerminationArbiter × Option TerminationCandidate :=
  match arbiter.locked with
  | some winner => (arbiter, some winner)
  | none =>
      match firstCandidate arbiter.candidates with
      | none => (arbiter, none)
      | some winner =>
          ({ arbiter with locked := some winner.candidate },
            some winner.candidate)

theorem firstCandidate_mem
    {candidates : List SequencedCandidate}
    {winner : SequencedCandidate}
    (first : firstCandidate candidates = some winner) :
    winner ∈ candidates := by
  induction candidates generalizing winner with
  | nil => cases first
  | cons candidate rest inductionHypothesis =>
      simp only [firstCandidate] at first
      cases best : firstCandidate rest with
      | none =>
          simp only [best, Option.some.injEq] at first
          simp [first]
      | some earlier =>
          simp only [best] at first
          split at first
          · cases first
            exact List.mem_cons_of_mem _ (inductionHypothesis best)
          · cases first
            simp

theorem firstCandidate_eq_none
    {candidates : List SequencedCandidate} :
    firstCandidate candidates = none ↔ candidates = [] := by
  cases candidates with
  | nil => simp [firstCandidate]
  | cons candidate rest =>
      simp only [firstCandidate, reduceCtorEq, iff_false]
      split
      · simp
      · split <;> simp

/-- Every candidate, recorded or locked, satisfies a predicate. -/
def TerminationArbiter.All
    (allowed : TerminationCandidate → Prop)
    (arbiter : TerminationArbiter) :
    Prop :=
  (∀ entry ∈ arbiter.candidates, allowed entry.candidate) ∧
    ∀ winner, arbiter.locked = some winner → allowed winner

theorem TerminationArbiter.all_create
    (allowed : TerminationCandidate → Prop) :
    TerminationArbiter.create.All allowed := by
  simp [TerminationArbiter.create, TerminationArbiter.All]

theorem TerminationArbiter.All.record
    {allowed : TerminationCandidate → Prop}
    {arbiter : TerminationArbiter}
    (all : arbiter.All allowed)
    {candidate : TerminationCandidate}
    (isAllowed : allowed candidate) :
    (arbiter.record candidate).All allowed := by
  obtain ⟨recorded, locked⟩ := all
  unfold TerminationArbiter.record
  cases isLocked : arbiter.locked with
  | some winner => exact ⟨recorded, locked⟩
  | none =>
      refine ⟨?_, by simp⟩
      intro entry listed
      rcases List.mem_append.mp listed with earlier | latest
      · exact recorded entry earlier
      · rw [List.mem_singleton.mp latest]
        exact isAllowed

end TaskTwin.Engine
