/-!
Owns computations over a state that return a value or abort: sequencing, an
abort that keeps the state changes made before it, and handlers that catch some
aborts and may abort themselves. `Completes` says that a computation returns;
its rules follow the shape of the computation.
-/

namespace MediasoupClientSwift.Library

/-- A computation from a state: its value or the abort it ended with, and the
state it left behind. -/
def Program (Abort State α : Type) := State → Except Abort α × State

namespace Program

variable {Abort State α β : Type}

instance : Monad (Program Abort State) where
  pure value := fun state => (.ok value, state)
  bind first next := fun state =>
    match first state with
    | (.ok value, reached) => next value reached
    | (.error abort, reached) => (.error abort, reached)

def abort (reason : Abort) : Program Abort State α := fun state => (.error reason, state)

def get : Program Abort State State := fun state => (.ok state, state)

def modify (change : State → State) : Program Abort State Unit := fun state => (.ok (), change state)

/-- Run `body`; where it aborts with something `handler` has a clause for, run
that clause in the state the abort left. -/
def tryCatch (body : Program Abort State α)
    (handler : Abort → Option (Program Abort State α)) : Program Abort State α := fun state =>
  match body state with
  | (.ok value, reached) => (.ok value, reached)
  | (.error reason, reached) =>
      match handler reason with
      | some clause => clause reached
      | none => (.error reason, reached)

@[simp] theorem pure_apply (value : α) (state : State) :
    (pure value : Program Abort State α) state = (.ok value, state) := rfl

@[simp] theorem abort_apply (reason : Abort) (state : State) :
    (abort reason : Program Abort State α) state = (.error reason, state) := rfl

@[simp] theorem get_apply (state : State) :
    (get : Program Abort State State) state = (.ok state, state) := rfl

@[simp] theorem modify_apply (change : State → State) (state : State) :
    (modify change : Program Abort State Unit) state = (.ok (), change state) := rfl

theorem bind_apply (first : Program Abort State α) (next : α → Program Abort State β)
    (state : State) :
    (first >>= next) state =
      match first state with
      | (.ok value, reached) => next value reached
      | (.error reason, reached) => (.error reason, reached) := rfl

theorem bind_of_ok {first : Program Abort State α} {next : α → Program Abort State β}
    {state reached : State} {value : α} (returned : first state = (.ok value, reached)) :
    (first >>= next) state = next value reached := by
  rw [bind_apply, returned]

theorem bind_of_error {first : Program Abort State α} {next : α → Program Abort State β}
    {state reached : State} {reason : Abort} (aborted : first state = (.error reason, reached)) :
    (first >>= next) state = (.error reason, reached) := by
  rw [bind_apply, aborted]

/-- A sequence that returns is two steps that return. -/
theorem bind_eq_ok_iff {first : Program Abort State α} {next : α → Program Abort State β}
    {state last : State} {result : β} :
    (first >>= next) state = (.ok result, last) ↔
      ∃ value reached, first state = (.ok value, reached) ∧
        next value reached = (.ok result, last) := by
  rw [bind_apply]
  rcases first state with ⟨outcome, middle⟩
  cases outcome with
  | error reason => simp
  | ok found =>
      constructor
      · exact fun returned => ⟨found, middle, rfl, returned⟩
      · rintro ⟨_, _, same, returned⟩
        cases same
        exact returned

theorem bind_assoc {γ : Type} (first : Program Abort State α) (next : α → Program Abort State β)
    (last : β → Program Abort State γ) :
    (first >>= next) >>= last = first >>= fun value => next value >>= last := by
  funext state
  simp only [bind_apply]
  rcases first state with ⟨result, reached⟩
  cases result <;> rfl

theorem tryCatch_of_ok {body : Program Abort State α}
    {handler : Abort → Option (Program Abort State α)} {state reached : State} {value : α}
    (returned : body state = (.ok value, reached)) :
    tryCatch body handler state = (.ok value, reached) := by
  simp only [tryCatch, returned]

theorem tryCatch_of_error {body : Program Abort State α}
    {handler : Abort → Option (Program Abort State α)} {state reached : State} {reason : Abort}
    (aborted : body state = (.error reason, reached)) :
    tryCatch body handler state =
      match handler reason with
      | some clause => clause reached
      | none => (.error reason, reached) := by
  simp only [tryCatch, aborted]

/-- The computation returns a value from `state`. -/
def Completes (program : Program Abort State α) (state : State) : Prop :=
  ∃ value reached, program state = (.ok value, reached)

theorem completes_of_ok {program : Program Abort State α} {state reached : State} {value : α}
    (returned : program state = (.ok value, reached)) : Completes program state :=
  ⟨value, reached, returned⟩

theorem not_completes_of_error {program : Program Abort State α} {state reached : State}
    {reason : Abort} (aborted : program state = (.error reason, reached)) :
    ¬ Completes program state := by
  rintro ⟨value, other, returned⟩
  rw [aborted] at returned
  cases returned

/-- A first step that returns hands over to the rest. -/
theorem completes_bind_of_ok {first : Program Abort State α} {next : α → Program Abort State β}
    {state reached : State} {value : α} (returned : first state = (.ok value, reached))
    (rest : Completes (next value) reached) : Completes (first >>= next) state := by
  obtain ⟨final, last, returnedLast⟩ := rest
  exact completes_of_ok ((bind_of_ok returned).trans returnedLast)

/-- Sequencing with a continuation that always returns completes exactly when
its first part does. -/
theorem completes_bind_iff {first : Program Abort State α} {next : α → Program Abort State β}
    (continues : ∀ value reached, Completes (next value) reached) (state : State) :
    Completes (first >>= next) state ↔ Completes first state := by
  rcases outcome : first state with ⟨result, reached⟩
  cases result with
  | ok value =>
      obtain ⟨final, last, returned⟩ := continues value reached
      exact iff_of_true ⟨final, last, (bind_of_ok outcome).trans returned⟩
        (completes_of_ok outcome)
  | error reason =>
      exact iff_of_false (not_completes_of_error (bind_of_error outcome))
        (not_completes_of_error outcome)

end Program

end MediasoupClientSwift.Library
