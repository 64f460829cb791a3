import MediasoupClientSwift.Library.Program

/-!
Owns frames of computations: `Keeps` says that a computation, however it ends,
leaves one view of the state as it was. Its rules follow the shape of the
computation. It names no particular state.
-/

namespace MediasoupClientSwift.Library.Program

variable {Abort State View Part α β : Type}

/-- However `program` ends, the state it leaves behind has the view of the state
it started in. -/
def Keeps (view : State → View) (program : Program Abort State α) : Prop :=
  ∀ state, view (program state).2 = view state

/-- A sequence ends in its first part or hands over to the second. -/
theorem bind_cases {first : Program Abort State α} {next : α → Program Abort State β}
    {state last : State} {result : Except Abort β} (ran : (first >>= next) state = (result, last)) :
    (∃ reason, first state = (.error reason, last) ∧ result = .error reason) ∨
      ∃ value reached, first state = (.ok value, reached) ∧ next value reached = (result, last) := by
  rcases outcome : first state with ⟨ended, reached⟩
  cases ended with
  | ok value =>
      rw [bind_of_ok outcome] at ran
      exact Or.inr ⟨value, reached, rfl, ran⟩
  | error reason =>
      rw [bind_of_error outcome] at ran
      obtain ⟨rfl, rfl⟩ := Prod.mk.inj ran
      exact Or.inl ⟨reason, rfl, rfl⟩

namespace Keeps

variable {view : State → View}

theorem pure (value : α) : Keeps view (Pure.pure value : Program Abort State α) :=
  fun _ => rfl

theorem abort (reason : Abort) : Keeps view (Program.abort reason : Program Abort State α) :=
  fun _ => rfl

theorem get : Keeps view (Program.get : Program Abort State State) :=
  fun _ => rfl

theorem bind {first : Program Abort State α} {next : α → Program Abort State β}
    (firstKeeps : Keeps view first) (nextKeeps : ∀ value, Keeps view (next value)) :
    Keeps view (first >>= next) := by
  intro state
  have before := firstKeeps state
  rw [bind_apply]
  rcases outcome : first state with ⟨result, reached⟩
  rw [outcome] at before
  cases result with
  | ok value => exact (nextKeeps value reached).trans before
  | error reason => exact before

/-- A handler that keeps the view adds nothing to what its body changes. -/
theorem tryCatch {body : Program Abort State α}
    {handler : Abort → Option (Program Abort State α)} (bodyKeeps : Keeps view body)
    (handlerKeeps : ∀ reason clause, handler reason = some clause → Keeps view clause) :
    Keeps view (Program.tryCatch body handler) := by
  intro state
  have before := bodyKeeps state
  rcases outcome : body state with ⟨result, reached⟩
  rw [outcome] at before
  cases result with
  | ok value => rw [tryCatch_of_ok outcome, before]
  | error reason =>
      rw [tryCatch_of_error outcome]
      cases chosen : handler reason with
      | none => exact before
      | some clause => exact (handlerKeeps reason clause chosen reached).trans before

/-- A part of a view that is kept is kept. -/
theorem part {program : Program Abort State α} (keeps : Keeps view program)
    (select : View → Part) : Keeps (fun state => select (view state)) program :=
  fun state => congrArg select (keeps state)

/-- The state that a run reaches has the old view. -/
theorem reached {program : Program Abort State α} (keeps : Keeps view program)
    {state last : State} {result : Except Abort α} (ran : program state = (result, last)) :
    view last = view state := by
  have same := keeps state
  rwa [ran] at same

end Keeps

end MediasoupClientSwift.Library.Program
