import Mathlib.Logic.Basic
import Mathlib.Logic.Relation
import Mathlib.Order.Defs.Unbundled

/-!
# Programs that talk to an environment

Every call consumes the next reply of the environment, may change the world,
and then returns, throws, or takes the process down with it.  A thrown error
can be caught; a crash cannot.  `Ensures` quantifies over every reply stream,
so it holds for every behaviour of the dependencies and every crash point.
-/

namespace TaskTwin.Effect

/-- How a program ends. -/
inductive Outcome (ε α : Type) where
  | returned (value : α)
  | threw (error : ε)
  | crashed
  deriving Repr, DecidableEq

/--
A program over replies `ρ`, a world `σ`, errors `ε` and results `α`.  The
natural number counts the replies consumed so far.
-/
def Program (ρ σ ε α : Type) : Type :=
  (Nat → ρ) → Nat → σ → Outcome ε α × Nat × σ

namespace Program

variable {ρ σ ε α β locals : Type}

/-- Return a value without consulting the environment. -/
protected def pure (value : α) : Program ρ σ ε α :=
  fun _ cursor world => (.returned value, cursor, world)

/-- Sequence two programs; errors and crashes skip the second one. -/
protected def bind
    (program : Program ρ σ ε α)
    (next : α → Program ρ σ ε β) :
    Program ρ σ ε β :=
  fun replies cursor world =>
    match program replies cursor world with
    | (.returned value, cursor', world') => next value replies cursor' world'
    | (.threw error, cursor', world') => (.threw error, cursor', world')
    | (.crashed, cursor', world') => (.crashed, cursor', world')

instance : Monad (Program ρ σ ε) where
  pure := Program.pure
  bind := Program.bind

/-- Abort with an error that an enclosing handler may catch. -/
def throwing (error : ε) : Program ρ σ ε α :=
  fun _ cursor world => (.threw error, cursor, world)

/-- Read the world without consulting the environment. -/
def get : Program ρ σ ε σ :=
  fun _ cursor world => (.returned world, cursor, world)

/-- Update the world without consulting the environment. -/
def modify (update : σ → σ) : Program ρ σ ε Unit :=
  fun _ cursor world => (.returned (), cursor, update world)

/-- Call a dependency: it consumes one reply and decides how the call ends. -/
def call
    (respond : ρ → σ → Outcome ε α × σ) :
    Program ρ σ ε α :=
  fun replies cursor world =>
    let (outcome, world') := respond (replies cursor) world
    (outcome, cursor + 1, world')

/-- Run `handler` on the errors of `body`, in the world the error left. -/
def tryCatch
    (body : Program ρ σ ε α)
    (handler : ε → Program ρ σ ε α) :
    Program ρ σ ε α :=
  fun replies cursor world =>
    match body replies cursor world with
    | (.threw error, cursor', world') => handler error replies cursor' world'
    | (.returned value, cursor', world') => (.returned value, cursor', world')
    | (.crashed, cursor', world') => (.crashed, cursor', world')

/-- Turn an error into `none` and carry on. -/
def orNone (program : Program ρ σ ε α) : Program ρ σ ε (Option α) :=
  tryCatch (some <$> program) fun _ => pure none

/-- Stop without returning or throwing. -/
def crashing : Program ρ σ ε α :=
  fun _ cursor world => (.crashed, cursor, world)

/--
Run `cleanup` after `body`, whether it returned or threw.  An error of the
body is thrown again after the cleanup.
-/
def withCleanup
    (body : Program ρ σ ε α)
    (cleanup : Program ρ σ ε β) :
    Program ρ σ ε (α × β) :=
  fun replies cursor world =>
    match body replies cursor world with
    | (.returned value, cursor', world') =>
        ((fun cleaned => (value, cleaned)) <$> cleanup) replies cursor' world'
    | (.threw error, cursor', world') =>
        (cleanup >>= fun _ => throwing error) replies cursor' world'
    | (.crashed, cursor', world') => (.crashed, cursor', world')

/-- Run a program on every element of a list in order. -/
def forEach
    (step : α → Program ρ σ ε Unit) :
    List α → Program ρ σ ε Unit
  | [] => pure ()
  | item :: rest => do
    step item
    forEach step rest

/-- Every reply stream makes the program end in an outcome allowed by `post`. -/
def Ensures
    (program : Program ρ σ ε α)
    (post : Outcome ε α → σ → Prop)
    (world : σ) :
    Prop :=
  ∀ replies cursor,
    post (program replies cursor world).1 (program replies cursor world).2.2

/-- Continue with `next` on a returned value; otherwise require `post`. -/
def andThen
    (next : α → σ → Prop)
    (post : Outcome ε β → σ → Prop) :
    Outcome ε α → σ → Prop
  | .returned value, world => next value world
  | .threw error, world => post (.threw error) world
  | .crashed, world => post .crashed world

/-- Continue with `recover` on an error; otherwise require `post`. -/
def orElse
    (recover : ε → σ → Prop)
    (post : Outcome ε α → σ → Prop) :
    Outcome ε α → σ → Prop
  | .threw error, world => recover error world
  | .returned value, world => post (.returned value) world
  | .crashed, world => post .crashed world

variable
  (next : α → σ → Prop)
  (post : Outcome ε β → σ → Prop)
  (recover : ε → σ → Prop)

@[simp] theorem andThen_returned
    (value : α)
    (world : σ) :
    andThen next post (.returned value) world = next value world :=
  rfl

@[simp] theorem andThen_threw
    (error : ε)
    (world : σ) :
    andThen next post (.threw error) world = post (.threw error) world :=
  rfl

@[simp] theorem andThen_crashed
    (world : σ) :
    andThen next post .crashed world = post .crashed world :=
  rfl

variable (post : Outcome ε α → σ → Prop)

@[simp] theorem orElse_returned
    (value : α)
    (world : σ) :
    orElse recover post (.returned value) world = post (.returned value) world :=
  rfl

@[simp] theorem orElse_threw
    (error : ε)
    (world : σ) :
    orElse recover post (.threw error) world = recover error world :=
  rfl

@[simp] theorem orElse_crashed
    (world : σ) :
    orElse recover post .crashed world = post .crashed world :=
  rfl

namespace Ensures

variable {world : σ}

variable {program : Program ρ σ ε α} {post : Outcome ε α → σ → Prop}

/-- Weaken the postcondition. -/
theorem mono
    {strong weak : Outcome ε α → σ → Prop}
    (ensured : program.Ensures strong world)
    (weaken : ∀ outcome world', strong outcome world' → weak outcome world') :
    program.Ensures weak world :=
  fun replies cursor => weaken _ _ (ensured replies cursor)

theorem pure
    {value : α}
    (holds : post (.returned value) world) :
    (Pure.pure value : Program ρ σ ε α).Ensures post world :=
  fun _ _ => holds

theorem throwing
    {error : ε}
    (holds : post (.threw error) world) :
    (Program.throwing error : Program ρ σ ε α).Ensures post world :=
  fun _ _ => holds

theorem get
    {post : Outcome ε σ → σ → Prop}
    (holds : post (.returned world) world) :
    (Program.get : Program ρ σ ε σ).Ensures post world :=
  fun _ _ => holds

theorem modify
    {post : Outcome ε Unit → σ → Prop}
    {update : σ → σ}
    (holds : post (.returned ()) (update world)) :
    (Program.modify update : Program ρ σ ε Unit).Ensures post world :=
  fun _ _ => holds

theorem call
    {respond : ρ → σ → Outcome ε α × σ}
    {post : Outcome ε α → σ → Prop}
    (holds : ∀ reply, post (respond reply world).1 (respond reply world).2) :
    (Program.call respond).Ensures post world :=
  fun replies cursor => holds (replies cursor)

/-- Sequential composition. -/
theorem bind
    {next : α → Program ρ σ ε β}
    {post : Outcome ε β → σ → Prop}
    (ensured :
      program.Ensures
        (andThen (fun value world' => (next value).Ensures post world') post)
        world) :
    (program >>= next).Ensures post world := by
  intro replies cursor
  have first := ensured replies cursor
  change
    post (Program.bind program next replies cursor world).1
      (Program.bind program next replies cursor world).2.2
  unfold Program.bind
  rcases ended : program replies cursor world with ⟨outcome, cursor', world'⟩
  rw [ended] at first
  cases outcome with
  | returned value => exact first replies cursor'
  | threw error => exact first
  | crashed => exact first

/-- Mapping over the result. -/
theorem map
    {function : α → β}
    {post : Outcome ε β → σ → Prop}
    (ensured :
      program.Ensures
        (andThen (fun value world' => post (.returned (function value)) world')
          post)
        world) :
    (function <$> program).Ensures post world :=
  bind (ensured.mono fun outcome world' holds => by
    cases outcome with
    | returned value => exact pure holds
    | threw error => exact holds
    | crashed => exact holds)

/-- Handled errors. -/
theorem tryCatch
    {body : Program ρ σ ε α}
    {handler : ε → Program ρ σ ε α}
    {post : Outcome ε α → σ → Prop}
    (ensured :
      body.Ensures
        (orElse (fun error world' => (handler error).Ensures post world') post)
        world) :
    (Program.tryCatch body handler).Ensures post world := by
  intro replies cursor
  have first := ensured replies cursor
  unfold Program.tryCatch
  rcases ended : body replies cursor world with ⟨outcome, cursor', world'⟩
  rw [ended] at first
  cases outcome with
  | returned value => exact first
  | threw error => exact first replies cursor'
  | crashed => exact first

/-- A program whose errors become `none`. -/
theorem orNone
    {post : Outcome ε (Option α) → σ → Prop}
    (ensured :
      program.Ensures
        (fun outcome world' =>
          match outcome with
          | .returned value => post (.returned (some value)) world'
          | .threw _ => post (.returned none) world'
          | .crashed => post .crashed world')
        world) :
    (Program.orNone program).Ensures post world :=
  tryCatch (map (ensured.mono fun outcome world' holds => by
    cases outcome with
    | returned value => exact holds
    | threw error => exact pure holds
    | crashed => exact holds))

/-- A cleanup after a body that only returns. -/
theorem withCleanup
    {body : Program ρ σ ε α}
    {cleanup : Program ρ σ ε β}
    {post : Outcome ε (α × β) → σ → Prop}
    (ensured :
      body.Ensures
        (fun outcome world' =>
          ∃ value, outcome = .returned value ∧
            cleanup.Ensures
              (andThen
                (fun cleaned world'' =>
                  post (.returned (value, cleaned)) world'')
                post)
              world')
        world) :
    (Program.withCleanup body cleanup).Ensures post world := by
  intro replies cursor
  obtain ⟨value, returned, cleaned⟩ := ensured replies cursor
  unfold Program.withCleanup
  rcases ended : body replies cursor world with ⟨outcome, cursor', world'⟩
  rw [ended] at returned cleaned
  cases returned
  exact map cleaned replies cursor'

theorem getThen
    {next : σ → Program ρ σ ε β}
    {post : Outcome ε β → σ → Prop}
    (continues : (next world).Ensures post world) :
    (Program.get >>= next).Ensures post world :=
  bind (get continues)

theorem modifyThen
    {update : σ → σ}
    {next : Unit → Program ρ σ ε β}
    {post : Outcome ε β → σ → Prop}
    (continues : (next ()).Ensures post (update world)) :
    (Program.modify update >>= next).Ensures post world :=
  bind (modify continues)

theorem pureThen
    {value : α}
    {next : α → Program ρ σ ε β}
    {post : Outcome ε β → σ → Prop}
    (continues : (next value).Ensures post world) :
    ((Pure.pure value : Program ρ σ ε α) >>= next).Ensures post world :=
  bind (pure continues)

/-- Nested sequences run from left to right. -/
theorem assoc
    {γ : Type}
    {program : Program ρ σ ε α}
    {middle : α → Program ρ σ ε β}
    {next : β → Program ρ σ ε γ}
    {post : Outcome ε γ → σ → Prop}
    (ensured :
      (program >>= fun value => middle value >>= next).Ensures post world) :
    ((program >>= middle) >>= next).Ensures post world := by
  intro replies cursor
  have nested := ensured replies cursor
  change
    post (Program.bind (Program.bind program middle) next replies cursor
        world).1
      (Program.bind (Program.bind program middle) next replies cursor
        world).2.2
  change
    post (Program.bind program (fun value => Program.bind (middle value) next)
        replies cursor world).1
      (Program.bind program (fun value => Program.bind (middle value) next)
        replies cursor world).2.2 at nested
  unfold Program.bind at nested ⊢
  rcases ended : program replies cursor world with ⟨outcome, cursor', world'⟩
  rw [ended] at nested
  cases outcome <;> exact nested

/-- The last program of a sequence, as if something came after it. -/
theorem tail
    {program : Program ρ σ ε α}
    {post : Outcome ε α → σ → Prop}
    (ensured : (program >>= Pure.pure).Ensures post world) :
    program.Ensures post world := by
  intro replies cursor
  have followed := ensured replies cursor
  change
    post (Program.bind program Program.pure replies cursor world).1
      (Program.bind program Program.pure replies cursor world).2.2 at followed
  unfold Program.bind at followed
  rcases ended : program replies cursor world with ⟨outcome, cursor', world'⟩
  rw [ended] at followed
  cases outcome <;> exact followed

end Ensures

/-- Every reply stream makes the program return, with `post` of its value. -/
def Returns
    (program : Program ρ σ ε α)
    (post : α → σ → Prop)
    (world : σ) :
    Prop :=
  program.Ensures
    (fun outcome world' =>
      ∃ value, outcome = .returned value ∧ post value world')
    world

namespace Returns

variable {world : σ} {program : Program ρ σ ε α} {middle : α → σ → Prop}

/-- Sequential composition after a program that returns. -/
theorem seq
    {next : α → Program ρ σ ε β}
    {post : Outcome ε β → σ → Prop}
    (returns : program.Returns middle world)
    (continues :
      ∀ value world', middle value world' → (next value).Ensures post world') :
    (program >>= next).Ensures post world := by
  refine Ensures.bind (Ensures.mono returns ?_)
  rintro outcome world' ⟨value, rfl, reached⟩
  exact continues value world' reached

theorem pure
    {value : α}
    (holds : middle value world) :
    (Pure.pure value : Program ρ σ ε α).Returns middle world :=
  Ensures.pure ⟨value, rfl, holds⟩

end Returns

end Program

/-! ## Reachable states of a transition system -/

variable {σ : Type}

/-- The states that finitely many steps lead to from an initial state. -/
def Reachable
    (initial : σ → Prop)
    (step : σ → σ → Prop)
    (state : σ) :
    Prop :=
  ∃ start, initial start ∧ Relation.ReflTransGen step start state

namespace Reachable

variable {initial : σ → Prop} {step : σ → σ → Prop}

/-- Initial states are reachable. -/
theorem start
    {state : σ}
    (isInitial : initial state) :
    Reachable initial step state :=
  ⟨state, isInitial, Relation.ReflTransGen.refl⟩

/-- A step from a reachable state leads to a reachable state. -/
theorem next
    {state state' : σ}
    (reachable : Reachable initial step state)
    (stepped : step state state') :
    Reachable initial step state' := by
  obtain ⟨first, isInitial, path⟩ := reachable
  exact ⟨first, isInitial, path.tail stepped⟩

/-- The invariant rule for whole runs. -/
theorem invariant
    {holds : σ → Prop}
    (initially : ∀ state, initial state → holds state)
    (preserved : ∀ state state', holds state → step state state' → holds state')
    {state : σ}
    (reachable : Reachable initial step state) :
    holds state := by
  obtain ⟨first, isInitial, path⟩ := reachable
  induction path with
  | refl => exact initially first isInitial
  | tail _ stepped inductionHypothesis =>
      exact preserved _ _ inductionHypothesis stepped

end Reachable

end TaskTwin.Effect
