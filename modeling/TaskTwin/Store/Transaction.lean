import Mathlib.Logic.Basic

/-!
# Transactions

A transaction either throws and changes nothing, or answers with the state that
it commits.  A method that opens several transactions commits them one after
the other, until one of them throws.
-/

namespace TaskTwin.Store

variable {ε σ α β : Type*}

def orThrow (failure : ε) : Option α → Except ε α
  | some value => .ok value
  | none => .error failure

/-- `if (condition) throw failure`. -/
def refuseIf
    (condition : Prop)
    [Decidable condition]
    (failure : ε) :
    Except ε Unit :=
  if condition then .error failure else .ok ()

@[simp] theorem orThrow_eq_ok
    {failure : ε}
    {value : Option α}
    {result : α} :
    orThrow failure value = .ok result ↔ value = some result := by
  cases value <;> simp [orThrow]

variable {condition : Prop} {α β : Type}

@[simp] theorem refuseIf_eq_ok
    [Decidable condition]
    {failure : ε}
    {result : Unit} :
    refuseIf condition failure = .ok result ↔ ¬condition := by
  rw [refuseIf]
  split
  case isTrue isRefused => simp [isRefused]
  case isFalse notRefused => simp [notRefused]

theorem orThrow_eq_error
    {failure thrown : ε}
    {value : Option α}
    (throws : orThrow failure value = .error thrown) :
    value = none ∧ thrown = failure := by
  cases value with
  | none => exact ⟨rfl, (Except.error.inj throws).symm⟩
  | some value => cases throws

theorem refuseIf_eq_error
    [Decidable condition]
    {failure thrown : ε}
    (throws : refuseIf condition failure = .error thrown) :
    condition ∧ thrown = failure := by
  rw [refuseIf] at throws
  split at throws
  case isTrue isRefused =>
    exact ⟨isRefused, (Except.error.inj throws).symm⟩
  case isFalse notRefused => cases throws

theorem refuseIf_of_not
    [Decidable condition]
    {failure : ε}
    (notRefused : ¬condition) :
    refuseIf condition failure = .ok () :=
  refuseIf_eq_ok.mpr notRefused

theorem refuseIf_of
    [Decidable condition]
    {failure : ε}
    (isRefused : condition) :
    refuseIf condition failure = .error failure :=
  if_pos isRefused

theorem bind_eq_ok
    {first : Except ε α}
    {next : α → Except ε β}
    {result : β} :
    (first >>= next) = .ok result ↔
      ∃ value, first = .ok value ∧ next value = .ok result := by
  cases first with
  | error failure => simp [bind, Except.bind]
  | ok value => simp [bind, Except.bind]

/-- What a sequence throws is thrown by its first part or by the rest. -/
theorem bind_eq_error
    {first : Except ε α}
    {next : α → Except ε β}
    {thrown : ε}
    (throws : (first >>= next) = .error thrown) :
    first = .error thrown ∨
      ∃ value, first = .ok value ∧ next value = .error thrown := by
  cases first with
  | error failure => exact Or.inl (congrArg _ (Except.error.inj throws))
  | ok value => exact Or.inr ⟨value, rfl, throws⟩

theorem ok_bind
    {value : α}
    {next : α → Except ε β} :
    (Except.ok value >>= next) = next value :=
  rfl

theorem error_bind
    {failure : ε}
    {next : α → Except ε β} :
    ((Except.error failure : Except ε α) >>= next) = .error failure :=
  rfl

theorem pure_eq_ok
    {α : Type}
    {value result : α} :
    (pure value : Except ε α) = .ok result ↔ value = result := by
  simp [pure, Except.pure]

theorem map_fst_eq_ok
    {outcome : Except ε (σ × α)}
    {state : σ} :
    outcome.map (·.1) = .ok state ↔ ∃ answer, outcome = .ok (state, answer) := by
  cases outcome with
  | error failure => simp [Except.map]
  | ok value =>
      obtain ⟨other, answer⟩ := value
      simp [Except.map]

/-- What a transaction leaves behind, and what its caller is told. -/
def transact
    (transaction : σ → Except ε (σ × α))
    (state : σ) :
    σ × Except ε α :=
  match transaction state with
  | .ok (state', answer) => (state', .ok answer)
  | .error failure => (state, .error failure)

/-- Two transactions of one method; the second needs the first to commit. -/
def andThen
    (first : σ → Except ε (σ × α))
    (second : σ → Except ε (σ × β))
    (state : σ) :
    σ × Except ε β :=
  match first state with
  | .ok (state', _) => transact second state'
  | .error failure => (state, .error failure)

variable {transaction : σ → Except ε (σ × α)}

theorem transact_of_ok
    {state state' : σ}
    {answer : α}
    (answered : transaction state = .ok (state', answer)) :
    transact transaction state = (state', .ok answer) := by
  simp [transact, answered]

theorem transact_of_error
    {state : σ}
    {failure : ε}
    (threw : transaction state = .error failure) :
    transact transaction state = (state, .error failure) := by
  simp [transact, threw]

/-- A transaction that fails leaves the state as it was. -/
theorem transact_rolledBack
    {state : σ}
    {failure : ε}
    (failed : (transact transaction state).2 = .error failure) :
    (transact transaction state).1 = state := by
  rw [transact] at failed ⊢
  split at failed
  case h_1 => cases failed
  case h_2 => rfl

theorem andThen_of_ok
    {first : σ → Except ε (σ × α)}
    {second : σ → Except ε (σ × β)}
    {state state' : σ}
    {answer : α}
    (answered : first state = .ok (state', answer)) :
    andThen first second state = transact second state' := by
  simp [andThen, answered]

end TaskTwin.Store
